/-!
# Programs that stop

Sequential programs over a state that survives an error: whatever a program has
written when it stops stays written.  `Triple P m Q E` says what a program does from
the states in `P`, with one postcondition for a normal return and one for a stop; the
rules below compose such statements along the program.
-/

/-- A program over the state `σ` that returns an `α` or stops with an `ε`. -/
abbrev Program (σ ε α : Type) := EStateM ε σ α

namespace Program

variable {σ τ ε α β : Type}

/-- What holds of the result of a program and of the state it leaves. -/
def Meets (Q : α → σ → Prop) (E : ε → σ → Prop) : EStateM.Result ε σ α → Prop
  | .ok a s => Q a s
  | .error e s => E e s

/-- From `P` the program returns with `Q` or stops with `E`. -/
def Triple (P : σ → Prop) (m : Program σ ε α) (Q : α → σ → Prop) (E : ε → σ → Prop) : Prop :=
  ∀ s, P s → Meets Q E (m.run s)

/-- The program keeps an invariant, however it ends. -/
def Preserves (I : σ → Prop) (m : Program σ ε α) : Prop :=
  Triple I m (fun _ => I) fun _ => I

/-- Run a program over a larger state, and keep the part that survives it. -/
def within (enter : σ → τ) (leave : τ → σ) (m : Program τ ε α) : Program σ ε α := fun s =>
  match m.run (enter s) with
  | .ok a t => .ok a (leave t)
  | .error e t => .error e (leave t)

section Rules

variable {P P' : σ → Prop} {Q Q' : α → σ → Prop} {R : β → σ → Prop} {E E' : ε → σ → Prop}
  {m : Program σ ε α} {f : α → Program σ ε β} {handler : ε → Program σ ε α}

theorem Meets.mono {result : EStateM.Result ε σ α} (h : Meets Q E result)
    (hQ : ∀ a s, Q a s → Q' a s) (hE : ∀ e s, E e s → E' e s) : Meets Q' E' result := by
  cases result with
  | ok a s => exact hQ a s h
  | error e s => exact hE e s h

theorem Triple.mono (h : Triple P m Q E) (hP : ∀ s, P' s → P s) (hQ : ∀ a s, Q a s → Q' a s)
    (hE : ∀ e s, E e s → E' e s) : Triple P' m Q' E' :=
  fun s hs => (h s (hP s hs)).mono hQ hE

theorem Triple.weaken (h : Triple P m Q E) (hP : ∀ s, P' s → P s) : Triple P' m Q E :=
  h.mono hP (fun _ _ hQ => hQ) fun _ _ hE => hE

theorem Triple.strengthen (h : Triple P m Q E) (hQ : ∀ a s, Q a s → Q' a s) :
    Triple P m Q' E :=
  h.mono (fun _ hP => hP) hQ fun _ _ hE => hE

/-- Only the return matters. -/
theorem Triple.dropStop (h : Triple P m Q E) : Triple P m Q fun _ _ => True :=
  h.mono (fun _ hP => hP) (fun _ _ hQ => hQ) fun _ _ _ => trivial

/-- Two statements about one program hold together. -/
theorem Triple.and (h : Triple P m Q E) (h' : Triple P' m Q' E') :
    Triple (fun s => P s ∧ P' s) m (fun a s => Q a s ∧ Q' a s) (fun e s => E e s ∧ E' e s) := by
  intro s hs
  have hm := h s hs.1
  have hm' := h' s hs.2
  cases hresult : m.run s with
  | ok a t =>
    rw [hresult] at hm hm'
    exact ⟨hm, hm'⟩
  | error e t =>
    rw [hresult] at hm hm'
    exact ⟨hm, hm'⟩

/-- A fact that does not depend on the state is assumed once. -/
theorem Triple.assume {fact : Prop} (h : fact → Triple P m Q E) :
    Triple (fun s => fact ∧ P s) m Q E :=
  fun s hs => h hs.1 s hs.2

theorem Triple.exists_pre {ι : Type} {P : ι → σ → Prop} (h : ∀ i, Triple (P i) m Q E) :
    Triple (fun s => ∃ i, P i s) m Q E :=
  fun s ⟨i, hs⟩ => h i s hs

/-- Nothing is asked of the program. -/
theorem triple_true : Triple P m (fun _ _ => True) (fun _ _ => True) := by
  intro s _
  cases m.run s with
  | ok a t => exact trivial
  | error e t => exact trivial

theorem triple_pure {a : α} (h : ∀ s, P s → Q a s) : Triple P (pure a : Program σ ε α) Q E :=
  h

theorem triple_throw {e : ε} (h : ∀ s, P s → E e s) :
    Triple P (throw e : Program σ ε α) Q E :=
  h

theorem triple_modify {g : σ → σ} {Q : PUnit → σ → Prop} (h : ∀ s, P s → Q ⟨⟩ (g s)) :
    Triple P (modify g : Program σ ε PUnit) Q E :=
  h

/-- The state is known before and after. -/
theorem triple_modify_eq (g : σ → σ) (s₀ : σ) :
    Triple (fun s => s = s₀) (modify g : Program σ ε PUnit) (fun _ s => s = g s₀) E := by
  apply triple_modify
  rintro _ rfl
  rfl

theorem triple_bind (hm : Triple P m Q E) (hf : ∀ a, Triple (Q a) (f a) R E) :
    Triple P (m >>= f) R E := by
  intro s hs
  change Meets R E (EStateM.bind m f s)
  unfold EStateM.bind
  have hfirst := hm s hs
  unfold EStateM.run at hfirst
  cases hresult : m s with
  | ok a s' =>
    rw [hresult] at hfirst
    exact hf a s' hfirst
  | error e s' =>
    rw [hresult] at hfirst
    exact hfirst

/-- What follows a look at the state starts in that state. -/
theorem triple_get_bind {g : σ → Program σ ε β}
    (h : ∀ s, P s → Triple (fun s' => s' = s) (g s) R E) : Triple P (get >>= g) R E :=
  fun s hs => h s hs s rfl

theorem run_get_bind (g : σ → Program σ ε β) (s : σ) : (get >>= g).run s = (g s).run s := rfl

theorem run_modify_bind (f : σ → σ) (m : Program σ ε β) (s : σ) :
    (modify f >>= fun _ => m).run s = m.run (f s) := rfl

/-- The handler starts in the state the stop has left. -/
theorem triple_tryCatch (hm : Triple P m Q E) (hhandler : ∀ e, Triple (E e) (handler e) Q E') :
    Triple P (tryCatch m handler) Q E' := by
  intro s hs
  change Meets Q E' (EStateM.tryCatch m handler s)
  unfold EStateM.tryCatch
  have hfirst := hm s hs
  unfold EStateM.run at hfirst
  cases hresult : m s with
  | ok a s' =>
    rw [hresult] at hfirst
    exact hfirst
  | error e s' =>
    rw [hresult] at hfirst
    exact hhandler e s' hfirst

/-- A loop keeps an invariant of the part of the list that it has done. -/
theorem triple_forM {xs : List β} {body : β → Program σ ε PUnit} (I : List β → σ → Prop)
    (h : ∀ done x rest, xs = done ++ x :: rest →
      Triple (I done) (body x) (fun _ => I (done ++ [x])) E) :
    Triple (I []) (xs.forM body) (fun _ => I xs) E := by
  suffices hrest : ∀ rest done, xs = done ++ rest →
      Triple (I done) (rest.forM body) (fun _ => I xs) E from hrest xs [] rfl
  intro rest
  induction rest with
  | nil =>
    intro done hdone
    rw [List.append_nil] at hdone
    rw [hdone]
    exact triple_pure fun s hs => hs
  | cons x rest ih =>
    intro done hdone
    change Triple (I done) (body x >>= fun _ => rest.forM body) _ E
    apply triple_bind (h done x rest hdone)
    intro _
    apply ih
    rw [hdone, List.append_assoc]
    rfl

/-- Rounds that keep an invariant, and collect their results. -/
theorem triple_mapM {body : β → Program σ ε α} {I : σ → Prop}
    (h : ∀ x, Triple I (body x) (fun _ => I) E) (xs : List β) :
    Triple I (xs.mapM body) (fun _ => I) E := by
  induction xs with
  | nil => exact triple_pure fun s hs => hs
  | cons x rest ih =>
    rw [List.mapM_cons]
    apply triple_bind (h x)
    intro _
    apply triple_bind ih
    intro _
    exact triple_pure fun s hs => hs

theorem triple_within {enter : σ → τ} {leave : τ → σ} {m : Program τ ε α}
    (h : Triple (fun t => ∃ s, P s ∧ t = enter s) m (fun a t => Q a (leave t))
      fun e t => E e (leave t)) :
    Triple P (within enter leave m) Q E := by
  intro s hs
  have hinner := h (enter s) ⟨s, hs, rfl⟩
  change Meets Q E (within enter leave m s)
  unfold within
  cases hresult : m.run (enter s) with
  | ok a t =>
    rw [hresult] at hinner
    exact hinner
  | error e t =>
    rw [hresult] at hinner
    exact hinner

end Rules

/-! ### Histories of runs -/

/-- The state a program leaves, however it ends. -/
def finalState : EStateM.Result ε σ α → σ
  | .ok _ s => s
  | .error _ s => s

/-- The program returned. -/
def returns : EStateM.Result ε σ α → Bool
  | .ok _ _ => true
  | .error _ _ => false

theorem exists_of_returns {result : EStateM.Result ε σ α} (h : returns result = true) :
    ∃ a s, result = .ok a s := by
  cases result with
  | ok a s => exact ⟨a, s, rfl⟩
  | error e s => cases h

theorem Meets.final {I : σ → Prop} {result : EStateM.Result ε σ α}
    (h : Meets (fun _ => I) (fun _ => I) result) : I (finalState result) := by
  cases result with
  | ok a s => exact h
  | error e s => exact h

/-- The states that any sequence of admissible runs reaches, each starting where the last
    one ended or stopped. -/
inductive Reachable {ι : Type} (programs : ι → Program σ ε α) (admissible : ι → Prop)
    (initial : σ) : σ → Prop where
  | start : Reachable programs admissible initial initial
  | next {s : σ} (i : ι) (previous : Reachable programs admissible initial s)
      (hi : admissible i) :
      Reachable programs admissible initial (finalState ((programs i).run s))

/-- An invariant of every run holds over every history. -/
theorem Reachable.invariant {ι : Type} {programs : ι → Program σ ε α} {admissible : ι → Prop}
    {initial s : σ} (I : σ → Prop) (hinitial : I initial)
    (hrun : ∀ i, admissible i → Triple I (programs i) (fun _ => I) fun _ => I)
    (h : Reachable programs admissible initial s) : I s := by
  induction h with
  | start => exact hinitial
  | next i _ hi ih => exact (hrun i hi _ ih).final

end Program
