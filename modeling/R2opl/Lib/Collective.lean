import Mathlib.Algebra.BigOperators.Group.Finset.Basic
import Mathlib.Data.Finset.Lattice.Fold
import Mathlib.Data.Fintype.Basic
import Mathlib.Data.Int.Order.Basic
import Mathlib.Logic.Relation

/-!
# Collectives

Ranks run one program on data of their own and meet in reductions.  A reduction has a result as
soon as every rank has come to it; where one rank has stopped before it, or has come to another
one, the ranks that wait for it wait forever.  The rules below show that the ranks of a group stay
together: all of them return, or all raise the same error.
-/

namespace Collective

inductive ReduceOp where
  | max
  | min
  | sum

/-- The program of one rank. -/
inductive Rank (α : Type) where
  | done (result : α)
  | allReduce {n : Nat} (op : ReduceOp) (values : Fin n → Int) (next : (Fin n → Int) → Rank α)

variable {α β ε : Type}

def Rank.bind : Rank α → (α → Rank β) → Rank β
  | .done a, f => f a
  | .allReduce op values next, f => .allReduce op values fun reduced => (next reduced).bind f

instance : Monad Rank where
  pure := .done
  bind := .bind

/-- One reduction. -/
def allReduce {n : Nat} (op : ReduceOp) (values : Fin n → Int) : ExceptT ε Rank (Fin n → Int) :=
  ExceptT.mk (Rank.allReduce op values fun reduced => .done (.ok reduced))

/-- A reduction, where there is a group to reduce over. -/
def allReduceIf {n : Nat} (sync : Bool) (op : ReduceOp) (values : Fin n → Int) :
    ExceptT ε Rank (Fin n → Int) :=
  if sync then allReduce op values else pure values

/-! ### A rank of its own -/

@[simp] theorem allReduceIf_false {n : Nat} (op : ReduceOp) (values : Fin n → Int) :
    (allReduceIf false op values : ExceptT ε Rank (Fin n → Int)) = pure values := rfl

/-- A rank that has returned without a reduction has come through each of its statements. -/
theorem bind_eq_done {x : ExceptT ε Rank α} {f : α → ExceptT ε Rank β} {b : β} :
    (x >>= f).run = .done (.ok b) ↔ ∃ a, x.run = .done (.ok a) ∧ (f a).run = .done (.ok b) := by
  have hrun : (x >>= f).run = x.run.bind (ExceptT.bindCont f) := rfl
  rw [hrun]
  cases x.run with
  | done result =>
    cases result with
    | ok a => simp [Rank.bind, ExceptT.bindCont, ExceptT.run]
    | error e => simp [Rank.bind, ExceptT.bindCont, pure]
  | allReduce op values next => simp [Rank.bind]

theorem ofExcept_bind_eq_done {x : Except ε α} {f : α → ExceptT ε Rank β} {b : β} :
    (MonadExcept.ofExcept x >>= f).run = .done (.ok b) ↔
      ∃ a, x = .ok a ∧ (f a).run = .done (.ok b) := by
  rw [bind_eq_done]
  cases x with
  | ok a => simp [MonadExcept.ofExcept, ExceptT.run, pure, ExceptT.pure, ExceptT.mk]
  | error e =>
    simp [MonadExcept.ofExcept, ExceptT.run, throw, throwThe, MonadExceptOf.throw, pure, ExceptT.mk]

@[simp] theorem pure_bind_run {a : α} {f : α → ExceptT ε Rank β} :
    (pure a >>= f : ExceptT ε Rank β).run = (f a).run := rfl

/-! ### Reductions -/

section Reduce

variable {ι : Type} [Fintype ι] [Nonempty ι] {n : Nat}

def ReduceOp.over (op : ReduceOp) (f : ι → Int) : Int :=
  match op with
  | .max => Finset.univ.sup' Finset.univ_nonempty f
  | .min => Finset.univ.inf' Finset.univ_nonempty f
  | .sum => ∑ r, f r

/-- What every rank receives. -/
def reduce (op : ReduceOp) (values : ι → Fin n → Int) : Fin n → Int :=
  fun c => op.over fun r => values r c

theorem le_over_max (f : ι → Int) (r : ι) : f r ≤ ReduceOp.max.over f :=
  Finset.le_sup' f (Finset.mem_univ r)

theorem over_min_le (f : ι → Int) (r : ι) : ReduceOp.min.over f ≤ f r :=
  Finset.inf'_le f (Finset.mem_univ r)

/-- The largest value is that of one of the ranks. -/
theorem exists_over_max_eq (f : ι → Int) : ∃ r, ReduceOp.max.over f = f r := by
  obtain ⟨r, -, hr⟩ := Finset.exists_mem_eq_sup' Finset.univ_nonempty f
  exact ⟨r, hr⟩

/-- The least value is that of one of the ranks. -/
theorem exists_over_min_eq (f : ι → Int) : ∃ r, ReduceOp.min.over f = f r := by
  obtain ⟨r, -, hr⟩ := Finset.exists_mem_eq_inf' Finset.univ_nonempty f
  exact ⟨r, hr⟩

end Reduce

/-! ### Runs of a group -/

section Runs

variable {ι : Type} [Fintype ι] [Nonempty ι]

/-- The ranks have all come to one reduction, and go on with its result. -/
inductive Round : (ι → Rank α) → (ι → Rank α) → Prop where
  | reduce {n : Nat} (op : ReduceOp) (values : ι → Fin n → Int)
      (next : ι → (Fin n → Int) → Rank α) :
      Round (fun r => .allReduce op (values r) (next r)) fun r => next r (reduce op values)

/-- All ranks have stopped. -/
def Stopped (group : ι → Rank α) (results : ι → α) : Prop := ∀ r, group r = .done (results r)

/-- Some rank waits forever. -/
def Hangs (group : ι → Rank α) : Prop :=
  (¬ ∃ results, Stopped group results) ∧ ¬ ∃ next, Round group next

/-- After some rounds all ranks have stopped. -/
def Finishes (group : ι → Rank α) (results : ι → α) : Prop :=
  ∃ last, Relation.ReflTransGen Round group last ∧ Stopped last results

theorem Finishes.done (results : ι → α) : Finishes (fun r => .done (results r)) results :=
  ⟨_, .refl, fun _ => rfl⟩

theorem Finishes.round {group next : ι → Rank α} {results : ι → α} (hround : Round group next)
    (h : Finishes next results) : Finishes group results := by
  obtain ⟨last, hrounds, hstopped⟩ := h
  exact ⟨last, .head hround hrounds, hstopped⟩

theorem Round.bind {group next : ι → Rank α} (f : ι → α → Rank β) (h : Round group next) :
    Round (fun r => (group r).bind (f r)) fun r => (next r).bind (f r) := by
  cases h with
  | reduce op values next =>
    exact .reduce op values fun r reduced => (next r reduced).bind (f r)

theorem Finishes.bind {group : ι → Rank α} {values : ι → α} {f : ι → α → Rank β}
    {results : ι → β} (h : Finishes group values)
    (hnext : Finishes (fun r => f r (values r)) results) :
    Finishes (fun r => (group r).bind (f r)) results := by
  obtain ⟨last, hrounds, hstopped⟩ := h
  induction hrounds using Relation.ReflTransGen.head_induction_on with
  | refl =>
    have hlast : (fun r => (last r).bind (f r)) = fun r => f r (values r) := by
      funext r
      rw [hstopped r]
      rfl
    rw [hlast]
    exact hnext
  | head hround _ ih => exact ih.round (hround.bind f)

/-- A round has only one outcome. -/
theorem Round.unique {group next next' : ι → Rank α} (h : Round group next)
    (h' : Round group next') : next = next' := by
  cases h with
  | reduce op values next =>
    generalize hgroup : (fun r => Rank.allReduce op (values r) (next r)) = group at h'
    cases h' with
    | @reduce m op' values' next' =>
      have hrank (r : ι) := congrFun hgroup r
      obtain ⟨r0⟩ := ‹Nonempty ι›
      have hn := (Rank.allReduce.inj (hrank r0)).1
      subst hn
      have hop := (Rank.allReduce.inj (hrank r0)).2.1
      subst hop
      have hvalues : values = values' := by
        funext r
        exact eq_of_heq (Rank.allReduce.inj (hrank r)).2.2.1
      have hnext : next = next' := by
        funext r
        exact eq_of_heq (Rank.allReduce.inj (hrank r)).2.2.2
      rw [hvalues, hnext]

/-- Where the ranks finish none of them ever waits forever, after no number of rounds. -/
theorem Finishes.not_hangs {group : ι → Rank α} {results : ι → α} (h : Finishes group results)
    {reached : ι → Rank α} (hreached : Relation.ReflTransGen Round group reached) :
    ¬ Hangs reached := by
  obtain ⟨last, hrounds, hstopped⟩ := h
  induction hreached using Relation.ReflTransGen.head_induction_on with
  | refl =>
    rintro ⟨hrunning, hwaiting⟩
    cases hrounds using Relation.ReflTransGen.head_induction_on with
    | refl => exact hrunning ⟨results, hstopped⟩
    | head hround _ => exact hwaiting ⟨_, hround⟩
  | head hround hrest ih =>
    apply ih
    cases hrounds using Relation.ReflTransGen.head_induction_on with
    | refl =>
      -- a group that has stopped makes no round
      cases hround with
      | reduce op values next =>
        obtain ⟨r0⟩ := ‹Nonempty ι›
        cases hstopped r0
    | head hround' hrounds' =>
      rw [hround.unique hround']
      exact hrounds'

end Runs

/-! ### Agreement -/

section Agree

variable {ι : Type} [Fintype ι] [Nonempty ι] {E E' : ε → Prop}

/-- All ranks return, with values of which `Q` holds, or all raise one error, of which `E`
    holds. -/
def Agree (E : ε → Prop) (group : ι → ExceptT ε Rank α) (Q : (ι → α) → Prop) : Prop :=
  (∃ values, Finishes (fun r => (group r).run) (fun r => .ok (values r)) ∧ Q values) ∨
    ∃ e, Finishes (fun r => (group r).run) (fun _ => .error e) ∧ E e

theorem Agree.pure {Q : (ι → α) → Prop} {values : ι → α} (h : Q values) :
    Agree E (fun r => Pure.pure (values r)) Q :=
  .inl ⟨values, .done _, h⟩

theorem Agree.throw {Q : (ι → α) → Prop} {e : ε} (h : E e) :
    Agree E (fun _ => MonadExcept.throw e) Q :=
  .inr ⟨e, .done _, h⟩

/-- Ranks that agree never wait forever. -/
theorem Agree.not_hangs {Q : (ι → α) → Prop} {group : ι → ExceptT ε Rank α} (h : Agree E group Q)
    {reached : ι → Rank (Except ε α)}
    (hreached : Relation.ReflTransGen Round (fun r => (group r).run) reached) :
    ¬ Hangs reached := by
  rcases h with ⟨values, hfinishes, -⟩ | ⟨e, hfinishes, -⟩
  · exact hfinishes.not_hangs hreached
  · exact hfinishes.not_hangs hreached

theorem Agree.mono {Q Q' : (ι → α) → Prop} {group : ι → ExceptT ε Rank α} (h : Agree E group Q)
    (hE : ∀ e, E e → E' e) (hQ : ∀ values, Q values → Q' values) : Agree E' group Q' := by
  rcases h with ⟨values, hfinishes, hvalues⟩ | ⟨e, hfinishes, he⟩
  · exact .inl ⟨values, hfinishes, hQ values hvalues⟩
  · exact .inr ⟨e, hfinishes, hE e he⟩

/-- One statement after the other. -/
theorem Agree.bind {P : (ι → α) → Prop} {Q : (ι → β) → Prop} {group : ι → ExceptT ε Rank α}
    {f : ι → α → ExceptT ε Rank β} (h : Agree E group P)
    (hnext : ∀ values, P values → Agree E (fun r => f r (values r)) Q) :
    Agree E (fun r => group r >>= f r) Q := by
  rcases h with ⟨values, hfinishes, hvalues⟩ | ⟨e, hfinishes, he⟩
  · rcases hnext values hvalues with ⟨results, hrest, hresults⟩ | ⟨e, hrest, he⟩
    · exact .inl ⟨results, hfinishes.bind hrest, hresults⟩
    · exact .inr ⟨e, hfinishes.bind hrest, he⟩
  · exact .inr ⟨e, hfinishes.bind (.done _), he⟩

/-- A reduction gives every rank the same. -/
theorem Agree.allReduce {n : Nat} {op : ReduceOp} {values : ι → Fin n → Int}
    {Q : (ι → Fin n → Int) → Prop} (h : Q fun _ => reduce op values) :
    Agree E (fun r => Collective.allReduce op (values r)) Q :=
  .inl ⟨_, Finishes.round (.reduce op values _) (.done _), h⟩

/-- A computation of its own that returns on every rank. -/
theorem Agree.ofExcept {Q : (ι → α) → Prop} {x : ι → Except ε α} (values : ι → α)
    (hreturns : ∀ r, x r = .ok (values r)) (h : Q values) :
    Agree E (fun r => MonadExcept.ofExcept (x r)) Q := by
  obtain rfl : x = fun r => .ok (values r) := funext hreturns
  exact .pure h

/-- A computation of its own that stops every rank with one error. -/
theorem Agree.ofExcept_error {Q : (ι → α) → Prop} {x : ι → Except ε α} {e : ε}
    (herror : ∀ r, x r = .error e) (h : E e) :
    Agree E (fun r => MonadExcept.ofExcept (x r)) Q := by
  obtain rfl : x = fun _ => .error e := funext herror
  exact .throw h

/-- A computation that all ranks make with the same. -/
theorem Agree.ofExcept_const {Q : (ι → α) → Prop} {x : Except ε α}
    (hok : ∀ a, x = .ok a → Q fun _ => a) (herror : ∀ e, x = .error e → E e) :
    Agree E (fun _ => MonadExcept.ofExcept x) Q := by
  cases x with
  | ok a => exact .pure (hok a rfl)
  | error e => exact .throw (herror e rfl)

end Agree

end Collective
