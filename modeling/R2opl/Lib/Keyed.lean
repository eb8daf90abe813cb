import Mathlib.Data.List.Sort

/-!
# Lists sorted by a key

A list that holds at most one item a key, in ascending order of the keys, with the
operations that keep it so: dropping a key, adding an item of a new key and sorting,
and replacing the item of a key.
-/

namespace Keyed

variable {α κ : Type} [LinearOrder κ] (key : α → κ)

/-- Every key at most once, in ascending order. -/
def Ascending (xs : List α) : Prop := xs.Pairwise fun a b => key a < key b

/-- The list without the items of a key. -/
def without (k : κ) (xs : List α) : List α := xs.filter fun a => key a ≠ k

/-- Append an item and sort. -/
def insert (x : α) (xs : List α) : List α :=
  (xs ++ [x]).insertionSort fun a b => key a ≤ key b

/-- Replace the items of the key of `x` by `x`. -/
def replace (x : α) (xs : List α) : List α := xs.map fun a => if key a = key x then x else a

variable {key}

@[simp] theorem mem_without {k : κ} {a : α} {xs : List α} :
    a ∈ without key k xs ↔ a ∈ xs ∧ key a ≠ k := by
  simp [without]

@[simp] theorem mem_insert {a x : α} {xs : List α} :
    a ∈ insert key x xs ↔ a ∈ xs ∨ a = x := by
  simp [insert]

theorem mem_replace {a x : α} {xs : List α} :
    a ∈ replace key x xs ↔ (a ∈ xs ∧ key a ≠ key x) ∨ (a = x ∧ ∃ b ∈ xs, key b = key x) := by
  unfold replace
  rw [List.mem_map]
  constructor
  · rintro ⟨b, hb, rfl⟩
    by_cases hkey : key b = key x
    · exact .inr ⟨if_pos hkey, b, hb, hkey⟩
    · rw [if_neg hkey]
      exact .inl ⟨hb, hkey⟩
  · rintro (⟨ha, hkey⟩ | ⟨rfl, b, hb, hkey⟩)
    · exact ⟨a, ha, if_neg hkey⟩
    · exact ⟨b, hb, if_pos hkey⟩

theorem Ascending.nodup {xs : List α} (h : Ascending key xs) : (xs.map key).Nodup := by
  apply List.pairwise_map.mpr
  exact h.imp fun hlt => ne_of_lt hlt

/-- The items of an ascending list are told apart by their keys. -/
theorem Ascending.eq_of_key {xs : List α} (h : Ascending key xs) {a b : α} (ha : a ∈ xs)
    (hb : b ∈ xs) (hkey : key a = key b) : a = b :=
  List.inj_on_of_nodup_map h.nodup ha hb hkey

theorem ascending_of_nodup {xs : List α} (h : (xs.map key).Nodup) :
    Ascending key (xs.insertionSort fun a b => key a ≤ key b) := by
  have hsorted := List.pairwise_insertionSort (fun a b => key a ≤ key b) xs
  have hnodup : ((xs.insertionSort fun a b => key a ≤ key b).map key).Nodup :=
    ((List.perm_insertionSort _ xs).map key).nodup_iff.mpr h
  apply (hsorted.and (List.pairwise_map.mp hnodup)).imp
  intro a b hab
  exact lt_of_le_of_ne hab.1 hab.2

theorem Ascending.without {xs : List α} (h : Ascending key xs) (k : κ) :
    Ascending key (without key k xs) :=
  h.filter _

theorem Ascending.insert {xs : List α} (h : Ascending key xs) {x : α}
    (hnew : ∀ a ∈ xs, key a ≠ key x) : Ascending key (insert key x xs) := by
  apply ascending_of_nodup
  rw [List.map_append, List.map_singleton, List.nodup_append]
  refine ⟨h.nodup, List.nodup_singleton _, ?_⟩
  intro k hk k' hk'
  obtain ⟨a, ha, rfl⟩ := List.mem_map.mp hk
  rw [List.mem_singleton.mp hk']
  exact hnew a ha

theorem Ascending.replace {xs : List α} (h : Ascending key xs) (x : α) :
    Ascending key (replace key x xs) := by
  have hkey : ∀ a, key (if key a = key x then x else a) = key a := by
    intro a
    split
    · rename_i heq
      exact heq.symm
    · rfl
  apply List.pairwise_map.mpr
  apply h.imp
  intro a b hab
  rw [hkey a, hkey b]
  exact hab

end Keyed
