import Mathlib.Data.List.Forall2
import Mathlib.Data.List.Induction

/-!
# Checked programs

Programs that validate their inputs by a chain of early exits.  `raiseIf p e`
is the statement "if `p`, fail with `e`"; the lemmas below peel such a chain
apart one statement at a time, so that a specification of the whole chain is
read off without unfolding the monad.
-/

namespace Checked

variable {ε α β : Type}

/-- Fail with `e` when `p` holds, continue otherwise. -/
def raiseIf (p : Prop) [Decidable p] (e : ε) : Except ε Unit :=
  if p then .error e else .ok ()

/-- The program returns normally. -/
def Returns (x : Except ε α) : Prop := ∃ a, x = .ok a

theorem bind_eq_ok {x : Except ε α} {f : α → Except ε β} {b : β} :
    (x >>= f) = .ok b ↔ ∃ a, x = .ok a ∧ f a = .ok b := by
  cases x with
  | error e => simp [bind, Except.bind]
  | ok a => simp [bind, Except.bind]

@[simp] theorem raiseIf_eq_ok {p : Prop} [Decidable p] {e : ε} {u : Unit} :
    raiseIf p e = .ok u ↔ ¬ p := by
  by_cases hp : p <;> simp [raiseIf, hp]

/-- One statement of a chain: the check passes and the rest returns. -/
theorem raiseIf_bind_eq_ok {p : Prop} [Decidable p] {e : ε}
    {f : Unit → Except ε β} {b : β} :
    (raiseIf p e >>= f) = .ok b ↔ ¬ p ∧ f () = .ok b := by
  rw [bind_eq_ok]
  constructor
  · rintro ⟨⟨⟩, hcheck, hrest⟩
    exact ⟨raiseIf_eq_ok.mp hcheck, hrest⟩
  · rintro ⟨hp, hrest⟩
    exact ⟨(), raiseIf_eq_ok.mpr hp, hrest⟩

theorem raiseIf_of_not {p : Prop} [Decidable p] {e : ε} (hp : ¬ p) :
    raiseIf p e = .ok () :=
  raiseIf_eq_ok.mpr hp

theorem raiseIf_of_pos {p : Prop} [Decidable p] {e : ε} (hp : p) :
    raiseIf p e = .error e := by
  simp [raiseIf, hp]

/-- A failing check stops the chain, whatever follows it. -/
theorem raiseIf_bind_of_pos {p : Prop} [Decidable p] {e : ε}
    {f : Unit → Except ε β} (hp : p) : (raiseIf p e >>= f) = .error e := by
  rw [raiseIf_of_pos hp]
  rfl

@[simp] theorem ok_bind (a : α) (f : α → Except ε β) :
    ((Except.ok a : Except ε α) >>= f) = f a := rfl

@[simp] theorem error_bind (e : ε) (f : α → Except ε β) :
    ((Except.error e : Except ε α) >>= f) = .error e := rfl

@[simp] theorem pure_eq_ok (a : α) : (pure a : Except ε α) = .ok a := rfl

theorem Returns.ok (a : α) : Returns (.ok a : Except ε α) := ⟨a, rfl⟩

@[simp] theorem not_returns_error (e : ε) :
    ¬ Returns (.error e : Except ε α) := by
  rintro ⟨a, ha⟩
  cases ha

theorem returns_bind {x : Except ε α} {f : α → Except ε β} :
    Returns (x >>= f) ↔ ∃ a, x = .ok a ∧ Returns (f a) := by
  simp only [Returns, bind_eq_ok]
  constructor
  · rintro ⟨b, a, hx, hf⟩
    exact ⟨a, hx, b, hf⟩
  · rintro ⟨a, hx, b, hf⟩
    exact ⟨b, a, hx, hf⟩

instance (x : Except ε α) : Decidable (Returns x) :=
  match x with
  | .ok a => .isTrue (.ok a)
  | .error e => .isFalse (not_returns_error e)

/-! ### Checks over a list -/

theorem forM_eq_ok {f : α → Except ε Unit} (xs : List α) :
    xs.forM f = .ok () ↔ ∀ x ∈ xs, f x = .ok () := by
  induction xs with
  | nil => simp only [List.forM, pure_eq_ok, List.not_mem_nil, false_implies, implies_true]
  | cons x xs ih =>
    change (f x >>= fun _ => xs.forM f) = .ok () ↔ _
    rw [bind_eq_ok, List.forall_mem_cons, ← ih]
    constructor
    · rintro ⟨⟨⟩, hx, hxs⟩
      exact ⟨hx, hxs⟩
    · rintro ⟨hx, hxs⟩
      exact ⟨(), hx, hxs⟩

theorem mapM_eq_ok {f : α → Except ε β} (xs : List α) :
    ∀ ys : List β, xs.mapM f = .ok ys ↔ List.Forall₂ (fun x y => f x = .ok y) xs ys := by
  induction xs with
  | nil =>
    intro ys
    cases ys with
    | nil => simp
    | cons y ys => simp
  | cons x xs ih =>
    intro ys
    rw [List.mapM_cons, bind_eq_ok]
    constructor
    · rintro ⟨y, hx, hrest⟩
      obtain ⟨zs, hxs, hcons⟩ := bind_eq_ok.mp hrest
      obtain rfl : y :: zs = ys := by simpa using hcons
      exact .cons hx ((ih zs).mp hxs)
    · intro h
      cases h with
      | cons hx hxs =>
        exact ⟨_, hx, bind_eq_ok.mpr ⟨_, (ih _).mpr hxs, rfl⟩⟩

/-- What one round of a loop keeps, the loop keeps. -/
theorem foldlM_invariant {P : β → Prop} {f : β → α → Except ε β}
    (hstep : ∀ state x next, P state → f state x = .ok next → P next) {xs : List α} {state final : β}
    (hstate : P state) (h : xs.foldlM f state = .ok final) : P final := by
  induction xs generalizing state with
  | nil =>
    obtain rfl := Except.ok.inj h
    exact hstate
  | cons x xs ih =>
    rw [List.foldlM_cons] at h
    obtain ⟨next, hx, hrest⟩ := bind_eq_ok.mp h
    exact ih (hstep state x next hstate hx) hrest

/-- A loop keeps what each round extends by the item it went over. -/
theorem foldlM_accumulates {P : List α → β → Prop} {f : β → α → Except ε β} {xs : List α}
    (hstep : ∀ done state x next, x ∈ xs → P done state → f state x = .ok next →
      P (done ++ [x]) next)
    {state final : β} (hstate : P [] state) (h : xs.foldlM f state = .ok final) : P xs final := by
  have hall : ∀ rest done state, done ++ rest = xs → P done state →
      rest.foldlM f state = .ok final → P xs final := by
    intro rest
    induction rest with
    | nil =>
      intro done state hdone hP hfold
      obtain rfl := Except.ok.inj hfold
      rw [List.append_nil] at hdone
      exact hdone ▸ hP
    | cons x rest ih =>
      intro done state hdone hP hfold
      rw [List.foldlM_cons] at hfold
      obtain ⟨next, hx, hrest⟩ := bind_eq_ok.mp hfold
      have hmem : x ∈ xs := hdone ▸ List.mem_append_right done List.mem_cons_self
      apply ih (done ++ [x]) next _ (hstep done state x next hmem hP hx) hrest
      rw [List.append_assoc]
      exact hdone
  exact hall xs [] state rfl hstate h

/-- A loop without errors, likewise. -/
theorem foldl_accumulates {P : List α → β → Prop} {f : β → α → β} {xs : List α}
    (hstep : ∀ done state x, x ∈ xs → P done state → P (done ++ [x]) (f state x)) {state : β}
    (hstate : P [] state) : P xs (xs.foldl f state) := by
  induction xs using List.reverseRecOn with
  | nil => exact hstate
  | append_singleton xs x ih =>
    rw [List.foldl_append, List.foldl_cons, List.foldl_nil]
    apply hstep xs _ x (List.mem_append_right xs List.mem_cons_self)
    exact ih fun done state y hy => hstep done state y (List.mem_append_left _ hy)

/-- A loop returns when each of its rounds does. -/
theorem foldlM_returns {P : β → Prop} {f : β → α → Except ε β} {xs : List α}
    (hstep : ∀ state, ∀ x ∈ xs, P state → ∃ next, f state x = .ok next ∧ P next)
    {state : β} (hstate : P state) : Returns (xs.foldlM f state) := by
  induction xs generalizing state with
  | nil => exact .ok state
  | cons x xs ih =>
    obtain ⟨next, hx, hnext⟩ := hstep state x List.mem_cons_self hstate
    rw [List.foldlM_cons, hx, ok_bind]
    exact ih (fun state y hy => hstep state y (List.mem_cons_of_mem x hy)) hnext

theorem mapM_length {f : α → Except ε β} {xs : List α} {ys : List β} (h : xs.mapM f = .ok ys) :
    ys.length = xs.length :=
  ((mapM_eq_ok _ _).mp h).length_eq.symm

/-- Values of the results that are determined by the items. -/
theorem mapM_map {γ : Type} {f : α → Except ε β} {g : β → γ} {g' : α → γ}
    (hspec : ∀ x y, f x = .ok y → g y = g' x) {xs : List α} {ys : List β}
    (h : xs.mapM f = .ok ys) : ys.map g = xs.map g' := by
  have hforall := (mapM_eq_ok xs ys).mp h
  clear h
  induction hforall with
  | nil => rfl
  | cons hhead _ ih => rw [List.map_cons, List.map_cons, hspec _ _ hhead, ih]

theorem mapM_eq_ok_map {f : α → Except ε β} {g : α → β} {xs : List α}
    (h : ∀ x ∈ xs, f x = .ok (g x)) : xs.mapM f = .ok (xs.map g) := by
  rw [mapM_eq_ok]
  exact List.forall₂_map_right_iff.mpr (List.forall₂_same.mpr h)

theorem exists_of_mem_mapM {f : α → Except ε β} {xs : List α} {ys : List β} {y : β}
    (h : xs.mapM f = .ok ys) (hy : y ∈ ys) : ∃ x ∈ xs, f x = .ok y := by
  have hforall := (mapM_eq_ok xs ys).mp h
  clear h
  induction hforall with
  | nil => exact absurd hy List.not_mem_nil
  | cons hhead _ ih =>
    rcases List.mem_cons.mp hy with rfl | hmem
    · exact ⟨_, List.mem_cons_self, hhead⟩
    · obtain ⟨x, hx, hfx⟩ := ih hmem
      exact ⟨x, List.mem_cons_of_mem _ hx, hfx⟩

theorem mapM_append_single {f : α → Except ε β} {xs : List α} {ys : List β} {x : α} {y : β}
    (hxs : xs.mapM f = .ok ys) (hx : f x = .ok y) : (xs ++ [x]).mapM f = .ok (ys ++ [y]) := by
  rw [mapM_eq_ok] at hxs ⊢
  exact List.rel_append hxs (.cons hx .nil)

/-- Results that come with a value of their item. -/
theorem mapM_pair {γ : Type} (f : α → Except ε β) (g : α → γ) (xs : List α) :
    (xs.mapM fun x => do return (← f x, g x)) = do return (← xs.mapM f).zip (xs.map g) := by
  induction xs with
  | nil => rfl
  | cons x xs ih =>
    rw [List.mapM_cons, List.mapM_cons, ih]
    cases f x with
    | error e => rfl
    | ok y =>
      cases xs.mapM f with
      | error e => rfl
      | ok ys => rfl

/-- The same program for every item, of which there are some. -/
theorem mapM_const (x : Except ε β) {xs : List α} (hne : xs ≠ []) :
    (xs.mapM fun _ => x) = do return List.replicate xs.length (← x) := by
  cases x with
  | error e =>
    cases xs with
    | nil => exact absurd rfl hne
    | cons a xs => rfl
  | ok y =>
    rw [ok_bind, pure_eq_ok, mapM_eq_ok]
    clear hne
    induction xs with
    | nil => exact .nil
    | cons a xs ih => exact .cons rfl ih

theorem mapM_congr {f g : α → Except ε β} {xs : List α} (h : ∀ x ∈ xs, f x = g x) :
    xs.mapM f = xs.mapM g := by
  induction xs with
  | nil => rfl
  | cons x xs ih =>
    rw [List.mapM_cons, List.mapM_cons, h x List.mem_cons_self,
      ih fun y hy => h y (List.mem_cons_of_mem x hy)]

theorem returns_mapM {f : α → Except ε β} {xs : List α} (h : ∀ x ∈ xs, Returns (f x)) :
    Returns (xs.mapM f) := by
  induction xs with
  | nil => exact .ok _
  | cons x xs ih =>
    obtain ⟨y, hx⟩ := h x List.mem_cons_self
    obtain ⟨ys, hxs⟩ := ih fun z hz => h z (List.mem_cons_of_mem _ hz)
    exact ⟨y :: ys, (mapM_eq_ok _ _).mpr (.cons hx ((mapM_eq_ok _ _).mp hxs))⟩

theorem returns_mapM_iff {f : α → Except ε β} {xs : List α} :
    Returns (xs.mapM f) ↔ ∀ x ∈ xs, Returns (f x) := by
  refine ⟨?_, returns_mapM⟩
  rintro ⟨ys, hys⟩
  have hforall := (mapM_eq_ok _ _).mp hys
  clear hys
  induction hforall with
  | nil => exact fun x hx => absurd hx List.not_mem_nil
  | cons hhead _ ih => exact List.forall_mem_cons.mpr ⟨⟨_, hhead⟩, ih⟩

/-- Batches that return give what their items give one after the other. -/
theorem mapM_flatten {f : α → Except ε β} {batches : List (List α)} {results : List (List β)}
    (h : batches.mapM (fun batch => batch.mapM f) = .ok results) :
    batches.flatten.mapM f = .ok results.flatten := by
  rw [mapM_eq_ok] at h ⊢
  apply List.rel_flatten
  apply h.imp
  intro batch result hbatch
  exact (mapM_eq_ok _ _).mp hbatch

end Checked
