import Mathlib.Algebra.Order.Group.Int
import Mathlib.Algebra.Order.Ring.Int
import Mathlib.Algebra.Order.BigOperators.Group.List
import Mathlib.Data.List.Lex
import Mathlib.Data.List.Sort
import Mathlib.Data.Prod.Lex
import R2opl.Lib.Differencing
import R2opl.Python

/-!
# Karmarkar-Karp differencing

`karmarkar_karp` of `verl/utils/seqlen_balancing.py`: items are put into `k` partitions of nearly
the same sum.  A state is a tuple of `k` sets; the two states of the largest spread are merged, the
largest set of the one with the smallest of the other, until one state is left.
-/

namespace R2opl

open Checked Differencing

namespace KarmarkarKarp

/-! ### Sets -/

/-- `Set`: items with their indices, and the sum of their values. -/
structure ItemSet where
  sum : Int
  items : List (Nat × Int)
  sum_eq : sum = (items.map Prod.snd).sum
deriving DecidableEq

def ItemSet.empty : ItemSet := ⟨0, [], rfl⟩

def ItemSet.add (s : ItemSet) (idx : Nat) (val : Int) : ItemSet where
  sum := s.sum + val
  items := s.items ++ [(idx, val)]
  sum_eq := by simp [s.sum_eq]

def ItemSet.merge (s other : ItemSet) : ItemSet :=
  other.items.foldl (fun s item => s.add item.1 item.2) s

/-- What `__lt__` compares: the sum, the number of items, the items. -/
def ItemSet.key (s : ItemSet) : ℤ ×ₗ ℕ ×ₗ List (ℕ ×ₗ ℤ) :=
  toLex (s.sum, toLex (s.items.length, s.items.map toLex))

@[simp] theorem ItemSet.add_items (s : ItemSet) (idx : Nat) (val : Int) :
    (s.add idx val).items = s.items ++ [(idx, val)] := rfl

@[simp] theorem ItemSet.merge_items (s other : ItemSet) :
    (s.merge other).items = s.items ++ other.items := by
  unfold ItemSet.merge
  induction other.items generalizing s with
  | nil => simp
  | cons item rest ih => simp [ih]

theorem ItemSet.merge_sum (s other : ItemSet) : (s.merge other).sum = s.sum + other.sum := by
  simp [ItemSet.sum_eq]

/-! ### States -/

/-- `sorted(sets, reverse=True)` -/
def sortSets (sets : List ItemSet) : List ItemSet := sets.insertionSort fun s t => t.key ≤ s.key

theorem sortSets_perm (sets : List ItemSet) : (sortSets sets).Perm sets :=
  List.perm_insertionSort _ sets

/-- Sorting by a key, the largest first. -/
theorem insertionSort_sorted {β κ : Type} [LinearOrder κ] (key : β → κ) (xs : List β) :
    (xs.insertionSort fun x y => key y ≤ key x).Pairwise fun x y => key y ≤ key x := by
  have : IsTrans β fun x y => key y ≤ key x := ⟨fun _ _ _ hxy hyz => hyz.trans hxy⟩
  have : Std.Total fun x y : β => key y ≤ key x := ⟨fun x y => le_total (key y) (key x)⟩
  exact List.pairwise_insertionSort _ xs

theorem sortSets_sorted (sets : List ItemSet) :
    (sortSets sets).Pairwise fun s t => t.key ≤ s.key :=
  insertionSort_sorted ItemSet.key sets

/-- `State`: `k` sets in decreasing order. -/
structure State (k : Nat) where
  sets : List ItemSet
  length_eq : sets.length = k
  sorted : sets.Pairwise fun s t => t.key ≤ s.key
deriving DecidableEq

variable {k : Nat}

/-- The sets in decreasing order. -/
def State.ofSets (sets : List ItemSet) (h : sets.length = k) : State k where
  sets := sortSets sets
  length_eq := (sortSets_perm sets).length_eq.trans h
  sorted := sortSets_sorted sets

/-- The constructor `State(items, k)`: each item in a set of its own. -/
def State.new (k : Nat) (items : List (Nat × Int)) : Except PyError (State k) :=
  if items.length ≠ 1 ∧ items.length ≠ k then
    .error ⟨.assertionError, s!"{items.length} not in [1, {k}]"⟩
  else if h : items.length ≤ k then
    .ok (.ofSets (items.map (fun item => ItemSet.empty.add item.1 item.2) ++
      List.replicate (k - items.length) ItemSet.empty) (by simp; omega))
  else .error ⟨.indexError, "list index out of range"⟩

/-- The sets of the one merged with those of the other, the largest with the smallest. -/
def State.merge (state other : State k) : State k :=
  .ofSets (List.zipWith ItemSet.merge state.sets other.sets.reverse)
    (by simp [state.length_eq, other.length_eq])

/-- The largest set. -/
def State.first (state : State k) : ItemSet := state.sets.headD .empty

def State.spread (state : State k) : Int :=
  state.first.sum - (state.sets.getLastD .empty).sum

/-- What `__lt__` compares; the state with the largest spread is the least, and of these the one
    with the largest set. -/
def State.key (state : State k) : ℤ ×ₗ ℤ ×ₗ ℕ ×ₗ List (ℕ ×ₗ ℤ) :=
  toLex (state.spread, state.first.key)

def State.getPartitions (state : State k) : List (List Nat) :=
  state.sets.map fun s => s.items.map Prod.fst

/-! ### The algorithm -/

/-- `heapq.heappop(states_pq)`.  No two states have an item in common, so that none of them compare
    equal where no value is negative, and the heap has no other choice. -/
def heappop (states : List (State k)) : Option (State k × List (State k)) :=
  match states.insertionSort fun s t => t.key ≤ s.key with
  | [] => none
  | state :: rest => some (state, rest)

/-- The loop over the heap, for at most `rounds` rounds. -/
def mergeStates : Nat → List (State k) → List (State k)
  | 0, states => states
  | rounds + 1, states =>
      match heappop states with
      | none => states
      | some (state0, rest) =>
          match heappop rest with
          | none => states
          | some (state1, rest) => mergeStates rounds (state0.merge state1 :: rest)

/-- `sorted([(seqlen, i) for i, seqlen in enumerate(seqlen_list)])`, each as `(i, seqlen)`. -/
def sortedItems (seqlens : List Int) : List (Nat × Int) :=
  (seqlens.mapIdx Prod.mk).insertionSort fun a b => toLex (a.2, a.1) ≤ toLex (b.2, b.1)

/-- The items that the states start from: `k` neighbours each, or one each. -/
def startItems (seqlens : List Int) (k : Nat) (equalSize : Bool) : List (List (Nat × Int)) :=
  let items := sortedItems seqlens
  if equalSize then
    (List.range (items.length / k)).map fun j => (items.drop (j * k)).take k
  else items.map fun item => [item]

/-- `len(partition) * k_partitions == len(seqlen_list)` for each partition. -/
def checkSizes (partitions : List (List Nat)) (k size : Nat) : Except PyError Unit :=
  partitions.forM fun partition => raiseIf (partition.length * k ≠ size)
    ⟨.assertionError, s!"{partition.length} * {k} != {size}"⟩

end KarmarkarKarp

open KarmarkarKarp

/-- `karmarkar_karp` -/
def karmarkarKarp (seqlens : List Int) (k : Nat) (equalSize : Bool) :
    Except PyError (List (List Nat)) := do
  if equalSize then
    raiseIf (k = 0) ⟨.zeroDivisionError, "integer modulo by zero"⟩
    raiseIf (seqlens.length % k ≠ 0) ⟨.assertionError, s!"{seqlens.length} % {k} != 0"⟩
  let states ← (startItems seqlens k equalSize).mapM (State.new k)
  match mergeStates states.length states with
  | [] => .error ⟨.indexError, "list index out of range"⟩
  | final :: _ =>
      let partitions := final.getPartitions
      if equalSize then checkSizes partitions k seqlens.length
      return partitions

namespace KarmarkarKarp

variable {k : Nat}

/-! ### The items of a state -/

def State.items (state : State k) : List (Nat × Int) := state.sets.flatMap ItemSet.items

theorem State.ofSets_perm (sets : List ItemSet) (h : sets.length = k) :
    (State.ofSets sets h).sets.Perm sets :=
  sortSets_perm sets

theorem State.merge_perm (state other : State k) : (state.merge other).sets.Perm
    (List.zipWith ItemSet.merge state.sets other.sets.reverse) :=
  State.ofSets_perm _ _

theorem flatMap_zipWith_merge {sets others : List ItemSet} (h : sets.length = others.length) :
    ((List.zipWith ItemSet.merge sets others).flatMap ItemSet.items).Perm
      (sets.flatMap ItemSet.items ++ others.flatMap ItemSet.items) := by
  induction sets generalizing others with
  | nil =>
    obtain rfl := List.length_eq_zero_iff.mp h.symm
    rfl
  | cons s sets ih =>
    cases others with
    | nil => simp at h
    | cons t others =>
      have hrest := ih (Nat.succ.inj h)
      simp only [List.zipWith_cons_cons, List.flatMap_cons, ItemSet.merge_items, List.append_assoc]
      apply List.Perm.append_left
      apply (hrest.append_left t.items).trans
      simp only [← List.append_assoc]
      exact List.perm_append_comm.append_right _

/-- No item is lost in a merge, and none is there twice. -/
theorem State.merge_items (state other : State k) :
    (state.merge other).items.Perm (state.items ++ other.items) := by
  apply ((State.merge_perm state other).flatMap_right ItemSet.items).trans
  apply (flatMap_zipWith_merge (by simp [state.length_eq, other.length_eq])).trans
  exact ((List.reverse_perm other.sets).flatMap_right _).append_left _

/-- What the constructor makes of its items. -/
theorem State.new_eq_ok {items : List (Nat × Int)} {state : State k}
    (h : State.new k items = .ok state) : items.length ≤ k ∧
      state.sets.Perm (items.map (fun item => ItemSet.empty.add item.1 item.2) ++
        List.replicate (k - items.length) ItemSet.empty) := by
  unfold State.new at h
  split at h
  · cases h
  · split at h
    · next hle =>
      cases h
      exact ⟨hle, State.ofSets_perm _ _⟩
    · cases h

theorem State.new_items {items : List (Nat × Int)} {state : State k}
    (h : State.new k items = .ok state) : state.items.Perm items := by
  apply ((State.new_eq_ok h).2.flatMap_right ItemSet.items).trans
  have hsingle : (items.map fun item => ItemSet.empty.add item.1 item.2).flatMap ItemSet.items =
      items := by
    simp [List.flatMap_map, ItemSet.empty]
  have hempty : (List.replicate (k - items.length) ItemSet.empty).flatMap ItemSet.items = [] := by
    simp [ItemSet.empty]
  rw [List.flatMap_append, hsingle, hempty, List.append_nil]

theorem State.new_returns {items : List (Nat × Int)} (hk : 0 < k)
    (h : items.length = 1 ∨ items.length = k) : Returns (State.new k items) := by
  have hle : items.length ≤ k := by omega
  unfold State.new
  rw [if_neg (by omega), dif_pos hle]
  exact .ok _

/-! ### The loop -/

theorem heappop_eq_some {states rest : List (State k)} {state : State k}
    (h : heappop states = some (state, rest)) :
    (states.insertionSort fun s t => t.key ≤ s.key) = state :: rest := by
  unfold heappop at h
  split at h
  · cases h
  · rename_i hsorted
    cases h
    exact hsorted

theorem heappop_perm {states rest : List (State k)} {state : State k}
    (h : heappop states = some (state, rest)) : states.Perm (state :: rest) := by
  rw [← heappop_eq_some h]
  exact (List.perm_insertionSort _ states).symm

theorem heappop_eq_none {states : List (State k)} : heappop states = none ↔ states = [] := by
  constructor
  · intro h
    unfold heappop at h
    split at h
    · rename_i hsorted
      exact List.perm_nil.mp (hsorted ▸ List.perm_insertionSort _ states).symm
    · cases h
  · rintro rfl
    rfl

/-- What every merge keeps, the loop keeps. -/
theorem mergeStates_invariant {P : List (State k) → Prop}
    (hperm : ∀ {states states' : List (State k)}, states.Perm states' → P states → P states')
    (hmerge : ∀ state0 state1 rest, P (state0 :: state1 :: rest) → P (state0.merge state1 :: rest))
    (rounds : Nat) {states : List (State k)} (h : P states) : P (mergeStates rounds states) := by
  induction rounds generalizing states with
  | zero => exact h
  | succ rounds ih =>
    unfold mergeStates
    cases h0 : heappop states with
    | none => exact h
    | some popped =>
      obtain ⟨state0, rest⟩ := popped
      dsimp only
      cases h1 : heappop rest with
      | none => exact h
      | some popped =>
        obtain ⟨state1, rest'⟩ := popped
        apply ih
        apply hmerge
        exact hperm ((heappop_perm h0).trans ((heappop_perm h1).cons state0)) h

/-- One state is left. -/
theorem mergeStates_length {rounds : Nat} {states : List (State k)} (hne : states ≠ [])
    (hrounds : states.length ≤ rounds + 1) : (mergeStates rounds states).length = 1 := by
  induction rounds generalizing states with
  | zero =>
    have hpos := List.length_pos_iff.mpr hne
    unfold mergeStates
    omega
  | succ rounds ih =>
    unfold mergeStates
    cases h0 : heappop states with
    | none => exact absurd (heappop_eq_none.mp h0) hne
    | some popped =>
      obtain ⟨state0, rest⟩ := popped
      have hlength := (heappop_perm h0).length_eq
      dsimp only
      cases h1 : heappop rest with
      | none => simpa [heappop_eq_none.mp h1] using hlength
      | some popped =>
        obtain ⟨state1, rest'⟩ := popped
        have hlength' := (heappop_perm h1).length_eq
        simp only [List.length_cons] at hlength hlength'
        exact ih (List.cons_ne_nil _ _) (by simp only [List.length_cons]; omega)

/-! ### The partition -/

theorem sortedItems_perm (seqlens : List Int) :
    (sortedItems seqlens).Perm (seqlens.mapIdx Prod.mk) :=
  List.perm_insertionSort _ _

theorem sortedItems_fst (seqlens : List Int) :
    ((sortedItems seqlens).map Prod.fst).Perm (List.range seqlens.length) := by
  apply ((sortedItems_perm seqlens).map Prod.fst).trans
  apply List.Perm.of_eq
  apply List.ext_getElem <;> simp

theorem mem_sortedItems {seqlens : List Int} {item : Nat × Int}
    (h : item ∈ sortedItems seqlens) : seqlens[item.1]? = some item.2 := by
  obtain ⟨i, hi, rfl⟩ := List.mem_mapIdx.mp ((sortedItems_perm seqlens).mem_iff.mp h)
  exact List.getElem?_eq_getElem hi

theorem sortedItems_length (seqlens : List Int) : (sortedItems seqlens).length = seqlens.length :=
  (sortedItems_perm seqlens).length_eq.trans List.length_mapIdx

theorem flatten_chunks {α : Type} (xs : List α) (k m : Nat) :
    ((List.range m).map fun j => (xs.drop (j * k)).take k).flatten = xs.take (m * k) := by
  induction m with
  | zero => simp
  | succ m ih =>
    rw [List.range_succ, List.map_append, List.flatten_append, ih, Nat.succ_mul, List.take_add]
    simp

/-- The states start from all items. -/
theorem startItems_flatten (seqlens : List Int) {k : Nat} {equalSize : Bool}
    (h : equalSize = true → k ∣ seqlens.length) :
    (startItems seqlens k equalSize).flatten = sortedItems seqlens := by
  unfold startItems
  cases equalSize with
  | true =>
    simp only [if_true]
    rw [flatten_chunks, sortedItems_length, Nat.div_mul_cancel (h rfl), ← sortedItems_length,
      List.take_length]
  | false =>
    simp only [Bool.false_eq_true, if_false]
    induction sortedItems seqlens with
    | nil => rfl
    | cons item rest ih => simp [ih]

theorem startItems_length {seqlens : List Int} {k : Nat} {equalSize : Bool}
    {items : List (Nat × Int)} (h : items ∈ startItems seqlens k equalSize) :
    items.length = if equalSize then k else 1 := by
  unfold startItems at h
  cases equalSize with
  | true =>
    simp only [if_true, List.mem_map, List.mem_range] at h
    obtain ⟨j, hj, rfl⟩ := h
    have hend : (j + 1) * k ≤ (sortedItems seqlens).length :=
      (Nat.mul_le_mul_right k hj).trans (Nat.div_mul_le_self _ _)
    rw [Nat.succ_mul] at hend
    simp only [if_true, List.length_take, List.length_drop]
    omega
  | false =>
    simp only [Bool.false_eq_true, if_false, List.mem_map] at h
    obtain ⟨item, -, rfl⟩ := h
    rfl

/-- All states can be made. -/
theorem startStates_return (seqlens : List Int) {k : Nat} (hk : 0 < k) (equalSize : Bool) :
    Returns ((startItems seqlens k equalSize).mapM (State.new k)) := by
  apply returns_mapM
  intro items hitems
  have hlength := startItems_length hitems
  apply State.new_returns hk
  cases equalSize with
  | true => exact .inr hlength
  | false => exact .inl hlength

/-- The states hold the items they are made of, each once. -/
theorem startStates_items {items : List (List (Nat × Int))} {states : List (State k)}
    (h : items.mapM (State.new k) = .ok states) :
    (states.flatMap State.items).Perm items.flatten := by
  have hall := (mapM_eq_ok items states).mp h
  clear h
  induction hall with
  | nil => rfl
  | cons hnew _ ih =>
    rw [List.flatMap_cons, List.flatten_cons]
    exact (State.new_items hnew).append ih

theorem mergeStates_items {target : List (Nat × Int)} (rounds : Nat) {states : List (State k)}
    (h : (states.flatMap State.items).Perm target) :
    ((mergeStates rounds states).flatMap State.items).Perm target := by
  apply mergeStates_invariant (P := fun states => (states.flatMap State.items).Perm target)
    _ _ rounds h
  · intro states states' hperm htarget
    exact (hperm.symm.flatMap_right State.items).trans htarget
  · intro state0 state1 rest htarget
    rw [List.flatMap_cons, List.flatMap_cons, ← List.append_assoc] at htarget
    rw [List.flatMap_cons]
    exact ((State.merge_items state0 state1).append_right _).trans htarget

/-- What holds of each state at the start and after a merge of two, holds of the states left. -/
theorem mergeStates_forall {P : State k → Prop}
    (hmerge : ∀ state0 state1, P state0 → P state1 → P (state0.merge state1)) (rounds : Nat)
    {states : List (State k)} (h : ∀ state ∈ states, P state) :
    ∀ state ∈ mergeStates rounds states, P state := by
  apply mergeStates_invariant (P := fun states => ∀ state ∈ states, P state) _ _ rounds h
  · intro states states' hperm hall state hstate
    exact hall state (hperm.mem_iff.mpr hstate)
  · intro state0 state1 rest hall
    rw [List.forall_mem_cons, List.forall_mem_cons] at hall
    exact List.forall_mem_cons.mpr ⟨hmerge state0 state1 hall.1 hall.2.1, hall.2.2⟩

/-! ### Sets of one size -/

/-- All sets hold as many items. -/
def State.Uniform (state : State k) : Prop := ∃ c, ∀ s ∈ state.sets, s.items.length = c

theorem mem_merge_sets {state other : State k} {s : ItemSet} (h : s ∈ (state.merge other).sets) :
    ∃ s0 ∈ state.sets, ∃ s1 ∈ other.sets, s = s0.merge s1 := by
  have hmem := (State.merge_perm state other).mem_iff.mp h
  obtain ⟨i, hi, rfl⟩ := List.mem_iff_getElem.mp hmem
  rw [List.getElem_zipWith]
  exact ⟨_, List.getElem_mem _, _, List.mem_reverse.mp (List.getElem_mem _), rfl⟩

theorem State.Uniform.merge {state other : State k} (h : state.Uniform) (hother : other.Uniform) :
    (state.merge other).Uniform := by
  obtain ⟨c, hc⟩ := h
  obtain ⟨d, hd⟩ := hother
  refine ⟨c + d, fun s hs => ?_⟩
  obtain ⟨s0, hs0, s1, hs1, rfl⟩ := mem_merge_sets hs
  rw [ItemSet.merge_items, List.length_append, hc s0 hs0, hd s1 hs1]

theorem State.new_uniform {items : List (Nat × Int)} (hitems : items.length = k) {state : State k}
    (h : State.new k items = .ok state) : state.Uniform := by
  refine ⟨1, fun s hs => ?_⟩
  have hmem := (State.new_eq_ok h).2.mem_iff.mp hs
  rw [hitems, Nat.sub_self, List.replicate_zero, List.append_nil, List.mem_map] at hmem
  obtain ⟨item, -, rfl⟩ := hmem
  rfl

theorem State.Uniform.length_mul {state : State k} (h : state.Uniform) :
    ∀ s ∈ state.sets, s.items.length * k = state.items.length := by
  obtain ⟨c, hc⟩ := h
  intro s hs
  have hall : state.sets.map (fun s => s.items.length) = List.replicate k c := by
    rw [List.eq_replicate_iff, List.length_map, state.length_eq]
    exact ⟨rfl, by simpa using hc⟩
  rw [State.items, List.length_flatMap, hall, hc s hs]
  simp [Nat.mul_comm]

/-! ### The spread -/

/-- The sums differ by at most `bound`. -/
def State.WithinBound (bound : Int) (state : State k) : Prop :=
  Within bound (state.sets.map ItemSet.sum)

theorem State.sums_sorted (state : State k) : (state.sets.map ItemSet.sum).Pairwise (· ≥ ·) := by
  rw [List.pairwise_map]
  exact state.sorted.imp fun h => Prod.Lex.monotone_fst _ _ h

/-- Merging the largest set of the one with the smallest of the other keeps the sums together. -/
theorem State.WithinBound.merge {bound : Int} {state other : State k} (h : state.WithinBound bound)
    (hother : other.WithinBound bound) : (state.merge other).WithinBound bound := by
  have hsums : ((state.merge other).sets.map ItemSet.sum).Perm
      (List.zipWith (· + ·) (state.sets.map ItemSet.sum) (other.sets.map ItemSet.sum).reverse) := by
    apply ((State.merge_perm state other).map ItemSet.sum).trans
    simp [List.map_zipWith, List.zipWith_map, ← List.map_reverse, ItemSet.merge_sum]
  refine Within.perm ?_ hsums
  have hrises : (other.sets.map ItemSet.sum).reverse.Pairwise (· ≤ ·) :=
    List.pairwise_reverse.mpr other.sums_sorted
  have hreverse : Within bound (other.sets.map ItemSet.sum).reverse :=
    hother.perm (List.reverse_perm _)
  exact Within.zipWith state.sums_sorted hrises h hreverse

theorem State.new_withinBound {bound : Int} {items : List (Nat × Int)} {state : State k}
    (hvalues : ∀ item ∈ items, 0 ≤ item.2 ∧ item.2 ≤ bound) (hbound : 0 ≤ bound)
    (h : State.new k items = .ok state) : state.WithinBound bound := by
  have hsum (x : Int) (hx : x ∈ state.sets.map ItemSet.sum) : 0 ≤ x ∧ x ≤ bound := by
    obtain ⟨s, hs, rfl⟩ := List.mem_map.mp hx
    have hmem := (State.new_eq_ok h).2.mem_iff.mp hs
    rw [List.mem_append, List.mem_map, List.mem_replicate] at hmem
    rcases hmem with ⟨item, hitem, rfl⟩ | ⟨-, rfl⟩
    · simpa [ItemSet.add, ItemSet.empty] using hvalues item hitem
    · exact ⟨le_refl _, hbound⟩
  intro x hx y hy
  have hxs := hsum x hx
  have hys := hsum y hy
  omega

/-! ### Filled sets -/

def ItemSet.filled (s : ItemSet) : Bool := !s.items.isEmpty

theorem ItemSet.merge_filled (s other : ItemSet) :
    (s.merge other).filled = (s.filled || other.filled) := by
  unfold ItemSet.filled
  rw [ItemSet.merge_items]
  cases s.items <;> simp

/-- As many sets hold items as can. -/
structure State.Filled (state : State k) : Prop where
  nonneg : ∀ item ∈ state.items, 0 ≤ item.2
  count : state.sets.countP ItemSet.filled = min k state.items.length

/-- A set behind an empty one is empty. -/
theorem State.filled_first {state : State k} (hnonneg : ∀ item ∈ state.items, 0 ≤ item.2) :
    state.sets.Pairwise fun s t => t.filled → s.filled := by
  apply state.sorted.imp_of_mem
  intro s t hs ht hle htfilled
  by_contra hempty
  have hsnil : s.items = [] := by simpa [ItemSet.filled] using hempty
  have htne : t.items ≠ [] := by simpa [ItemSet.filled] using htfilled
  have htsum : 0 ≤ t.sum := by
    rw [t.sum_eq]
    apply List.sum_nonneg
    intro x hx
    obtain ⟨item, hitem, rfl⟩ := List.mem_map.mp hx
    exact hnonneg item (List.mem_flatMap.mpr ⟨t, ht, hitem⟩)
  have hssum : s.sum = 0 := by simp [s.sum_eq, hsnil]
  have hlength := List.length_pos_iff.mpr htne
  simp only [ItemSet.key, hsnil, hssum, Prod.Lex.toLex_le_toLex, List.length_nil] at hle
  omega

theorem State.Filled.merge {state other : State k} (h : state.Filled) (hother : other.Filled) :
    (state.merge other).Filled := by
  have hperm := State.merge_items state other
  constructor
  · intro item hitem
    rcases List.mem_append.mp (hperm.mem_iff.mp hitem) with hleft | hright
    · exact h.nonneg item hleft
    · exact hother.nonneg item hright
  · have hzip : (state.merge other).sets.countP ItemSet.filled =
        (state.sets.zip other.sets.reverse).countP fun entry =>
          entry.1.filled || entry.2.filled := by
      rw [(State.merge_perm state other).countP_eq, ← List.map_uncurry_zip_eq_zipWith,
        List.countP_map]
      congr 1
      funext entry
      exact ItemSet.merge_filled entry.1 entry.2
    have hrises : other.sets.reverse.Pairwise fun s t => s.filled → t.filled :=
      List.pairwise_reverse.mpr (State.filled_first hother.nonneg)
    rw [hzip, countP_zip_or (by simp [state.length_eq, other.length_eq])
      (State.filled_first h.nonneg) hrises, List.countP_reverse, h.count, hother.count,
      hperm.length_eq, List.length_append, state.length_eq]
    omega

theorem State.new_filled {items : List (Nat × Int)} {state : State k}
    (hvalues : ∀ item ∈ items, 0 ≤ item.2) (h : State.new k items = .ok state) : state.Filled := by
  have hitems := State.new_items h
  constructor
  · intro item hitem
    exact hvalues item (hitems.mem_iff.mp hitem)
  · obtain ⟨hle, hsets⟩ := State.new_eq_ok h
    have hall : (items.map fun item => ItemSet.empty.add item.1 item.2).countP ItemSet.filled =
        items.length := by
      rw [← List.length_map, List.countP_eq_length]
      intro s hs
      obtain ⟨item, -, rfl⟩ := List.mem_map.mp hs
      rfl
    have hnone : (List.replicate (k - items.length) ItemSet.empty).countP ItemSet.filled = 0 := by
      rw [List.countP_eq_zero]
      intro s hs
      rw [List.eq_of_mem_replicate hs]
      decide
    rw [hsets.countP_eq, List.countP_append, hall, hnone, hitems.length_eq]
    omega

/-! ### The final state -/

/-- What is known of the state that is left. -/
structure Final (seqlens : List Int) (equalSize : Bool) (final : State k) : Prop where
  items : final.items.Perm (sortedItems seqlens)
  uniform : equalSize = true → final.Uniform
  withinBound : ∀ bound, (∀ v ∈ seqlens, 0 ≤ v ∧ v ≤ bound) → 0 ≤ bound → final.WithinBound bound
  filled : (∀ v ∈ seqlens, 0 ≤ v) → final.Filled

/-- An item that a state starts from has its value from the list. -/
theorem value_mem_of_startItems {seqlens : List Int} {equalSize : Bool}
    (hdvd : equalSize = true → k ∣ seqlens.length) {items : List (Nat × Int)}
    (hitems : items ∈ startItems seqlens k equalSize) {item : Nat × Int} (hitem : item ∈ items) :
    item.2 ∈ seqlens := by
  have hmem : item ∈ sortedItems seqlens := by
    rw [← startItems_flatten seqlens hdvd]
    exact List.mem_flatten_of_mem hitems hitem
  exact List.mem_of_getElem? (mem_sortedItems hmem)

theorem mergeStates_final {seqlens : List Int} {equalSize : Bool} (hne : seqlens ≠ [])
    (hdvd : equalSize = true → k ∣ seqlens.length) {states : List (State k)}
    (h : (startItems seqlens k equalSize).mapM (State.new k) = .ok states) :
    ∃ final, mergeStates states.length states = [final] ∧ Final seqlens equalSize final := by
  have hitems := mergeStates_items states.length (startStates_items h)
  rw [startItems_flatten seqlens hdvd] at hitems
  have hstates : states ≠ [] := by
    rintro rfl
    have hlength := (startStates_items h).length_eq
    rw [startItems_flatten seqlens hdvd, sortedItems_length] at hlength
    exact hne (List.length_eq_zero_iff.mp hlength.symm)
  have hone : (mergeStates states.length states).length = 1 :=
    mergeStates_length hstates (by omega)
  obtain ⟨final, hfinal⟩ := List.length_eq_one_iff.mp hone
  have hleft {P : State k → Prop}
      (hmerge : ∀ state0 state1, P state0 → P state1 → P (state0.merge state1))
      (hnew : ∀ items ∈ startItems seqlens k equalSize, ∀ state,
        State.new k items = .ok state → P state) : P final := by
    have hall : (∀ state ∈ states, P state) → ∀ state ∈ mergeStates states.length states, P state :=
      mergeStates_forall hmerge states.length
    rw [hfinal] at hall
    refine hall ?_ final (List.mem_singleton.mpr rfl)
    intro state hstate
    obtain ⟨items, hitems, hstate⟩ := exists_of_mem_mapM h hstate
    exact hnew items hitems state hstate
  refine ⟨final, hfinal, ?_, ?_, ?_, ?_⟩
  · simpa [hfinal] using hitems
  · intro hequal
    apply hleft fun _ _ h0 h1 => h0.merge h1
    intro items hitems state hstate
    exact State.new_uniform (by simpa [hequal] using startItems_length hitems) hstate
  · intro bound hvalues hbound
    apply hleft fun _ _ h0 h1 => h0.merge h1
    intro items hitems state hstate
    apply State.new_withinBound _ hbound hstate
    exact fun item hitem => hvalues _ (value_mem_of_startItems hdvd hitems hitem)
  · intro hvalues
    apply hleft fun _ _ h0 h1 => h0.merge h1
    intro items hitems state hstate
    apply State.new_filled _ hstate
    exact fun item hitem => hvalues _ (value_mem_of_startItems hdvd hitems hitem)

/-- The algorithm returns the partitions of the state that is left; its last check passes. -/
theorem karmarkarKarp_final {seqlens : List Int} {equalSize : Bool} (hk : 0 < k)
    (hne : seqlens ≠ []) (hdvd : equalSize = true → k ∣ seqlens.length) :
    ∃ final : State k, karmarkarKarp seqlens k equalSize = .ok final.getPartitions ∧
      Final seqlens equalSize final := by
  obtain ⟨states, hstates⟩ := startStates_return seqlens hk equalSize
  obtain ⟨final, hmerged, hfinal⟩ := mergeStates_final hne hdvd hstates
  refine ⟨final, ?_, hfinal⟩
  unfold karmarkarKarp
  rw [hstates]
  cases equalSize with
  | true =>
    have hmod : seqlens.length % k = 0 := Nat.mod_eq_zero_of_dvd (hdvd rfl)
    have hsizes : checkSizes final.getPartitions k seqlens.length = .ok () := by
      unfold checkSizes
      rw [forM_eq_ok]
      intro partition hpartition
      obtain ⟨s, hs, rfl⟩ := List.mem_map.mp hpartition
      rw [raiseIf_eq_ok, List.length_map, not_not, (hfinal.uniform rfl).length_mul s hs,
        hfinal.items.length_eq, sortedItems_length]
    simp [raiseIf_of_not (Nat.pos_iff_ne_zero.mp hk), raiseIf_of_not (not_not.mpr hmod), hmerged,
      hsizes]
  | false => simp [hmerged]

theorem startItems_eq_nil {seqlens : List Int} {equalSize : Bool} (h : seqlens = []) :
    startItems seqlens k equalSize = [] := by
  subst h
  cases equalSize <;> simp [startItems, sortedItems]

/-- What the statements of the algorithm need. -/
theorem karmarkarKarp_requires {seqlens : List Int} {equalSize : Bool}
    (h : Returns (karmarkarKarp seqlens k equalSize)) :
    0 < k ∧ seqlens ≠ [] ∧ (equalSize = true → k ∣ seqlens.length) := by
  obtain ⟨partitions, h⟩ := h
  unfold karmarkarKarp at h
  have hchecks : equalSize = true → 0 < k ∧ k ∣ seqlens.length := by
    rintro rfl
    simp only [if_true, bind_eq_ok, raiseIf_eq_ok, not_not] at h
    obtain ⟨-, hk, -, hmod, -⟩ := h
    exact ⟨Nat.pos_of_ne_zero hk, Nat.dvd_of_mod_eq_zero hmod⟩
  have hbody : ∃ states, (startItems seqlens k equalSize).mapM (State.new k) = .ok states ∧
      mergeStates states.length states ≠ [] := by
    cases equalSize with
    | true =>
      simp only [if_true, bind_eq_ok] at h
      obtain ⟨-, -, -, -, states, hstates, h⟩ := h
      refine ⟨states, hstates, ?_⟩
      intro hnil
      simp [hnil] at h
    | false =>
      simp only [Bool.false_eq_true, if_false, bind_eq_ok] at h
      obtain ⟨states, hstates, h⟩ := h
      refine ⟨states, hstates, ?_⟩
      intro hnil
      simp [hnil] at h
  obtain ⟨states, hstates, hmerged⟩ := hbody
  have hne : seqlens ≠ [] := by
    intro hnil
    rw [startItems_eq_nil hnil, List.mapM_nil, pure_eq_ok, Except.ok.injEq] at hstates
    subst hstates
    exact hmerged rfl
  refine ⟨?_, hne, fun hequal => (hchecks hequal).2⟩
  cases equalSize with
  | true => exact (hchecks rfl).1
  | false =>
    by_contra hk
    obtain rfl : k = 0 := by omega
    -- the set of the first item is looked for among none
    have hitems : startItems seqlens 0 false ≠ [] := by
      intro hnil
      simp only [startItems, Bool.false_eq_true, if_false, List.map_eq_nil_iff] at hnil
      have hlength := sortedItems_length seqlens
      rw [hnil] at hlength
      exact hne (List.length_eq_zero_iff.mp hlength.symm)
    obtain ⟨items, rest, heq⟩ := List.exists_cons_of_ne_nil hitems
    have hlength : items.length = 1 := startItems_length (heq ▸ List.mem_cons_self)
    rw [heq, List.mapM_cons, bind_eq_ok] at hstates
    obtain ⟨state, hstate, -⟩ := hstates
    have hle := (State.new_eq_ok hstate).1
    omega

theorem karmarkarKarp_returns_iff {seqlens : List Int} {equalSize : Bool} :
    Returns (karmarkarKarp seqlens k equalSize) ↔
      0 < k ∧ seqlens ≠ [] ∧ (equalSize = true → k ∣ seqlens.length) := by
  refine ⟨karmarkarKarp_requires, ?_⟩
  rintro ⟨hk, hne, hdvd⟩
  obtain ⟨final, hreturn, -⟩ := karmarkarKarp_final hk hne hdvd
  exact ⟨_, hreturn⟩

/-! ### What is returned -/

/-- `sum(seqlen_list[i] for i in partition)` -/
def partitionSum (seqlens : List Int) (partition : List Nat) : Int :=
  (partition.map fun i => seqlens.getD i 0).sum

variable {seqlens : List Int} {equalSize : Bool} {final : State k}

theorem Final.partitions_perm (h : Final seqlens equalSize final) :
    final.getPartitions.flatten.Perm (List.range seqlens.length) := by
  have hflatten : final.getPartitions.flatten = final.items.map Prod.fst := by
    simp [State.getPartitions, State.items, List.flatMap, List.map_flatten, Function.comp_def]
  rw [hflatten]
  exact (h.items.map Prod.fst).trans (sortedItems_fst seqlens)

theorem Final.partitionSums (h : Final seqlens equalSize final) :
    final.getPartitions.map (partitionSum seqlens) = final.sets.map ItemSet.sum := by
  unfold State.getPartitions
  rw [List.map_map, List.map_inj_left]
  intro s hs
  unfold partitionSum
  rw [Function.comp_apply, List.map_map, s.sum_eq]
  congr 1
  apply List.map_congr_left
  intro item hitem
  have hmem := h.items.mem_iff.mp (List.mem_flatMap.mpr ⟨s, hs, hitem⟩)
  simp [mem_sortedItems hmem]

/-- Where there are enough items none of the partitions is empty. -/
theorem Final.partitions_ne_nil (h : Final seqlens equalSize final)
    (hvalues : ∀ v ∈ seqlens, 0 ≤ v) (hsize : k ≤ seqlens.length) :
    ∀ partition ∈ final.getPartitions, partition ≠ [] := by
  intro partition hpartition
  obtain ⟨s, hs, rfl⟩ := List.mem_map.mp hpartition
  have hcount := (h.filled hvalues).count
  rw [h.items.length_eq, sortedItems_length, Nat.min_eq_left hsize] at hcount
  have hall := List.countP_eq_length.mp (hcount.trans final.length_eq.symm)
  simpa [ItemSet.filled] using hall s hs

end KarmarkarKarp

end R2opl
