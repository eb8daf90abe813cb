import Mathlib.Data.List.Perm.Subperm
import Mathlib.Algebra.BigOperators.Intervals
import Mathlib.Algebra.BigOperators.Ring.Finset
import Mathlib.Algebra.Group.Action.Defs
import Mathlib.Tactic.Ring

/-!
# Reservoirs

A reservoir of bounded size over a stream: an item offered to a full reservoir may replace
one of its items.  Whatever the draws, a reservoir holds each item that it was offered at
most as often as it was offered; and so do several reservoirs of a partitioned stream.
Over all draws, each item of the stream is held in equally many outcomes.
-/

namespace Sampling

variable {α κ : Type}

/-- The items after one more was offered; a full reservoir puts it at the place `index`, when
    it has one there. -/
def offer (capacity index : Nat) (items : List α) (item : α) : List α :=
  if items.length < capacity then items ++ [item]
  else if index < capacity then items.set index item
  else items

theorem offer_subperm {capacity index : Nat} {items offered : List α} {item : α}
    (h : items.Subperm offered) : (offer capacity index items item).Subperm (offered ++ [item]) := by
  unfold offer
  split
  · exact h.append (List.Subperm.refl _)
  · rename_i hfull
    split
    · rename_i hindex
      have hlength : index < items.length := Nat.lt_of_lt_of_le hindex (Nat.not_lt.mp hfull)
      apply (List.set_perm_cons_eraseIdx hlength item).subperm.trans
      apply List.Subperm.trans _ (List.perm_append_singleton item offered).symm.subperm
      exact (List.subperm_cons item).mpr ((List.eraseIdx_sublist items index).subperm.trans h)
    · exact h.trans (List.sublist_append_left offered [item]).subperm

/-- The parts of a list by distinct keys are together no more than the list. -/
theorem flatMap_filter_subperm [DecidableEq κ] (key : α → κ) {keys : List κ} (hnodup : keys.Nodup)
    (xs : List α) : (keys.flatMap fun k => xs.filter fun x => key x = k).Subperm xs := by
  induction keys generalizing xs with
  | nil => exact List.nil_subperm
  | cons k keys ih =>
    obtain ⟨hk, hrest⟩ := List.nodup_cons.mp hnodup
    -- the other parts avoid the items of this key
    have hothers : (keys.flatMap fun k' => xs.filter fun x => key x = k') =
        keys.flatMap fun k' => (xs.filter fun x => !decide (key x = k)).filter fun x =>
          key x = k' := by
      apply List.flatMap_congr
      intro k' hk'
      rw [List.filter_filter]
      apply List.filter_congr
      intro x _
      by_cases hx : key x = k'
      · have hne : k' ≠ k := fun heq => hk (heq ▸ hk')
        simp [hx, hne]
      · simp [hx]
    rw [List.flatMap_cons, hothers]
    apply ((List.Subperm.refl _).append (ih hrest _)).trans
    exact (List.filter_append_perm _ xs).subperm

theorem length_offer {capacity index : Nat} {items : List α} {item : α}
    (h : items.length ≤ capacity) :
    (offer capacity index items item).length = min capacity (items.length + 1) := by
  unfold offer
  split
  · rw [List.length_append, List.length_singleton]
    omega
  · split
    · rw [List.length_set]
      omega
    · omega

theorem mem_of_mem_offer {capacity index : Nat} {items : List α} {next item : α}
    (h : item ∈ offer capacity index items next) : item ∈ items ∨ item = next := by
  unfold offer at h
  split at h
  · rcases List.mem_append.mp h with h | h
    · exact Or.inl h
    · exact Or.inr (List.mem_singleton.mp h)
  · split at h
    · exact List.mem_or_eq_of_mem_set h
    · exact Or.inl h

/-- What a draw does to a full reservoir. -/
theorem offer_full {capacity index : Nat} {items : List α}
    (hfull : items.length = capacity) (next : α) :
    offer capacity index items next = items.set index next := by
  unfold offer
  rw [if_neg (by omega)]
  split
  · rfl
  · rw [List.set_eq_of_length_le (by omega)]

theorem nodup_set {items : List α} {next : α} (hnodup : items.Nodup) (hnext : next ∉ items)
    (index : Nat) : (items.set index next).Nodup := by
  by_cases hindex : index < items.length
  · apply (List.set_perm_cons_eraseIdx hindex next).nodup_iff.mpr
    refine List.nodup_cons.mpr ⟨fun h => hnext ((List.eraseIdx_sublist _ _).subset h), ?_⟩
    exact hnodup.sublist (List.eraseIdx_sublist _ _)
  · rw [List.set_eq_of_length_le (by omega)]
    exact hnodup

/-- An item stays through a draw unless the draw hits its place. -/
theorem mem_set_of_mem {items : List α} {next item : α} {place index : Nat}
    (hplace : items[place]? = some item) (hne : index ≠ place) : item ∈ items.set index next := by
  apply List.mem_of_getElem? (i := place)
  rw [List.getElem?_set_ne hne]
  exact hplace

theorem not_mem_set {items : List α} {next item : α} {place : Nat} (hnodup : items.Nodup)
    (hplace : items[place]? = some item) (hne : item ≠ next) : item ∉ items.set place next := by
  intro hmem
  obtain ⟨other, hother⟩ := List.getElem?_of_mem hmem
  by_cases hsame : place = other
  · subst hsame
    obtain ⟨hlt, _⟩ := List.getElem?_eq_some_iff.mp hplace
    rw [List.getElem?_set_self hlt] at hother
    exact hne (Option.some.inj hother).symm
  · rw [List.getElem?_set_ne hsame] at hother
    have hlt := (List.getElem?_eq_some_iff.mp hplace).1
    exact hsame ((List.getElem?_inj hlt hnodup).mp (hplace.trans hother.symm))

/-! ### Uniform draws -/

/-- A stream through a full reservoir, one draw for each item. -/
def replaceAll (capacity : Nat) : List α → List Nat → List α → List α
  | items, _, [] => items
  | items, draws, item :: rest =>
      replaceAll capacity (offer capacity (draws.headD 0) items item) draws.tail rest

/-- All sequences of `count` draws, the first of them below `bound` and each next one below
    one number more. -/
def outcomes : Nat → Nat → List (List Nat)
  | _, 0 => [[]]
  | bound, count + 1 =>
      (List.range bound).flatMap fun draw => (outcomes (bound + 1) count).map (draw :: ·)

theorem countP_outcomes (p : List Nat → Bool) (bound count : Nat) :
    (outcomes bound (count + 1)).countP p =
      ∑ draw ∈ Finset.range bound, (outcomes (bound + 1) count).countP fun draws =>
        p (draw :: draws) := by
  conv_lhs => unfold outcomes
  rw [List.countP_flatMap, ← List.sum_toFinset _ List.nodup_range, List.toFinset_range]
  apply Finset.sum_congr rfl
  intro draw _
  rw [Function.comp_apply, List.countP_map]
  rfl

theorem length_outcomes (bound count : Nat) :
    (outcomes bound (count + 1)).length = bound * (outcomes (bound + 1) count).length := by
  have h := countP_outcomes (fun _ => true) bound count
  simp only [List.countP_true] at h
  rw [h, Finset.sum_const, Finset.card_range, smul_eq_mul]

section Held

variable [DecidableEq α] {capacity : Nat}

/-- In how many outcomes `item` is held at the end. -/
def held (capacity : Nat) (items rest : List α) (bound : Nat) (item : α) : Nat :=
  (outcomes bound rest.length).countP fun draws => item ∈ replaceAll capacity items draws rest

theorem held_cons (items rest : List α) (next : α) (bound : Nat) (item : α) :
    held capacity items (next :: rest) bound item =
      ∑ draw ∈ Finset.range bound,
        held capacity (offer capacity draw items next) rest (bound + 1) item :=
  countP_outcomes _ bound rest.length

theorem held_of_not_mem {items rest : List α} {item : α} (hitems : item ∉ items)
    (hrest : item ∉ rest) (bound : Nat) : held capacity items rest bound item = 0 := by
  induction rest generalizing items bound with
  | nil =>
    unfold held
    rw [List.countP_eq_zero]
    intro draws _
    exact fun h => hitems (of_decide_eq_true h)
  | cons next rest ih =>
    rw [held_cons]
    apply Finset.sum_eq_zero
    intro draw _
    apply ih _ fun h => hrest (List.mem_cons_of_mem _ h)
    intro h
    rcases mem_of_mem_offer h with h | h
    · exact hitems h
    · exact hrest (h ▸ List.mem_cons_self)

/-- **Survival.**  An item of a full reservoir is still held in a share of the outcomes: the
    items seen before over the items seen in the end. -/
theorem held_of_mem {items rest : List α} {bound : Nat} {item : α}
    (hfull : items.length = capacity) (hbound : capacity < bound)
    (hnodup : (items ++ rest).Nodup) (hitem : item ∈ items) :
    held capacity items rest bound item * (bound + rest.length - 1) =
      (bound - 1) * (outcomes bound rest.length).length := by
  induction rest generalizing items bound with
  | nil =>
    have hall : held capacity items [] bound item = (outcomes bound 0).length :=
      List.countP_eq_length.mpr fun _ _ => decide_eq_true hitem
    rw [hall, List.length_nil, Nat.add_zero, Nat.mul_comm]
  | cons next rest ih =>
    obtain ⟨hitems, hrest, hdisjoint⟩ := List.nodup_append.mp hnodup
    obtain ⟨place, hplace⟩ := List.getElem?_of_mem hitem
    have hlt : place < bound := by
      have := (List.getElem?_eq_some_iff.mp hplace).1
      omega
    have hnext : next ∉ items := fun h => hdisjoint next h next List.mem_cons_self rfl
    have hne : item ≠ next := fun h => hnext (h ▸ hitem)
    rw [held_cons, ← Finset.add_sum_erase _ _ (Finset.mem_range.mpr hlt)]
    -- the draw of its place removes the item for good
    have hhit : held capacity (offer capacity place items next) rest (bound + 1) item = 0 := by
      rw [offer_full hfull]
      apply held_of_not_mem (not_mem_set hitems hplace hne)
      exact fun h => hdisjoint item hitem item (List.mem_cons_of_mem _ h) rfl
    -- every other draw keeps it
    have hmiss : ∀ draw ∈ (Finset.range bound).erase place,
        held capacity (offer capacity draw items next) rest (bound + 1) item *
          (bound + 1 + rest.length - 1) = bound * (outcomes (bound + 1) rest.length).length := by
      intro draw hdraw
      rw [offer_full hfull]
      apply ih (by rw [List.length_set, hfull]) (Nat.lt_succ_of_lt hbound)
      · apply List.nodup_append.mpr ⟨nodup_set hitems hnext draw, (List.nodup_cons.mp hrest).2, ?_⟩
        intro a ha b hb hab
        rcases List.mem_or_eq_of_mem_set ha with ha | ha
        · exact hdisjoint a ha b (List.mem_cons_of_mem _ hb) hab
        · exact (List.nodup_cons.mp hrest).1 (ha ▸ hab ▸ hb)
      · exact mem_set_of_mem hplace (Finset.ne_of_mem_erase hdraw)
    rw [hhit, Nat.zero_add, List.length_cons, length_outcomes, Finset.sum_mul]
    have hlength : bound + (rest.length + 1) - 1 = bound + 1 + rest.length - 1 := by omega
    rw [hlength, Finset.sum_congr rfl hmiss, Finset.sum_const,
      Finset.card_erase_of_mem (Finset.mem_range.mpr hlt), Finset.card_range, smul_eq_mul]

/-- **Entry.**  An item offered to a full reservoir is held in the end in a share of the
    outcomes: the capacity over the items seen in the end. -/
theorem held_of_mem_rest {items rest : List α} {bound : Nat} {item : α}
    (hfull : items.length = capacity) (hbound : capacity < bound)
    (hnodup : (items ++ rest).Nodup) (hitem : item ∈ rest) :
    held capacity items rest bound item * (bound + rest.length - 1) =
      capacity * (outcomes bound rest.length).length := by
  induction rest generalizing items bound with
  | nil => exact absurd hitem List.not_mem_nil
  | cons next rest ih =>
    obtain ⟨hitems, hrest, hdisjoint⟩ := List.nodup_append.mp hnodup
    obtain ⟨hnextRest, hrest⟩ := List.nodup_cons.mp hrest
    have hnext : next ∉ items := fun h => hdisjoint next h next List.mem_cons_self rfl
    have happend : ∀ draw, ((items.set draw next) ++ rest).Nodup := by
      intro draw
      apply List.nodup_append.mpr ⟨nodup_set hitems hnext draw, hrest, ?_⟩
      intro a ha b hb hab
      rcases List.mem_or_eq_of_mem_set ha with ha | ha
      · exact hdisjoint a ha b (List.mem_cons_of_mem _ hb) hab
      · exact hnextRest (ha ▸ hab ▸ hb)
    have hlength : bound + (rest.length + 1) - 1 = bound + 1 + rest.length - 1 := by omega
    rw [held_cons, List.length_cons, length_outcomes, Finset.sum_mul, hlength]
    by_cases hhead : item = next
    · subst hhead
      -- a draw below the capacity takes the item in, any other one drops it
      have hdraw : ∀ draw ∈ Finset.range bound,
          held capacity (offer capacity draw items item) rest (bound + 1) item *
            (bound + 1 + rest.length - 1) =
          if draw < capacity then bound * (outcomes (bound + 1) rest.length).length else 0 := by
        intro draw _
        rw [offer_full hfull]
        split
        · rename_i hlt
          apply held_of_mem (by rw [List.length_set, hfull]) (Nat.lt_succ_of_lt hbound)
            (happend draw)
          exact List.mem_set (hfull ▸ hlt) item
        · rename_i hge
          rw [List.set_eq_of_length_le (by omega), held_of_not_mem hnext hnextRest, Nat.zero_mul]
      rw [Finset.sum_congr rfl hdraw, ← Finset.sum_filter, Finset.sum_const, smul_eq_mul]
      have hfilter : (Finset.range bound).filter (· < capacity) = Finset.range capacity := by
        ext draw
        simp only [Finset.mem_filter, Finset.mem_range]
        omega
      rw [hfilter, Finset.card_range]
    · have hmem : item ∈ rest := (List.mem_cons.mp hitem).resolve_left hhead
      have hdraw : ∀ draw ∈ Finset.range bound,
          held capacity (offer capacity draw items next) rest (bound + 1) item *
            (bound + 1 + rest.length - 1) =
          capacity * (outcomes (bound + 1) rest.length).length := by
        intro draw _
        rw [offer_full hfull]
        exact ih (by rw [List.length_set, hfull]) (Nat.lt_succ_of_lt hbound) (happend draw) hmem
      rw [Finset.sum_congr rfl hdraw, Finset.sum_const, Finset.card_range, smul_eq_mul]
      ring

/-- **Uniformity.**  Every item of a stream is held in the share of the outcomes that the
    capacity is of the stream. -/
theorem held_uniform {stream : List α} {item : α} (hcapacity : capacity ≤ stream.length)
    (hnodup : stream.Nodup) (hitem : item ∈ stream) :
    held capacity (stream.take capacity) (stream.drop capacity) (capacity + 1) item *
        stream.length =
      capacity * (outcomes (capacity + 1) (stream.length - capacity)).length := by
  have hfull : (stream.take capacity).length = capacity := by
    rw [List.length_take]
    omega
  have hparts : (stream.take capacity ++ stream.drop capacity).Nodup := by
    rw [List.take_append_drop]
    exact hnodup
  have hseen : capacity + 1 + (stream.drop capacity).length - 1 = stream.length := by
    rw [List.length_drop]
    omega
  rw [← List.take_append_drop capacity stream] at hitem
  rw [← List.length_drop]
  rcases List.mem_append.mp hitem with h | h
  · have hheld := held_of_mem hfull (Nat.lt_add_one capacity) hparts h
    rw [hseen, Nat.add_sub_cancel] at hheld
    exact hheld
  · have hheld := held_of_mem_rest hfull (Nat.lt_add_one capacity) hparts h
    rw [hseen] at hheld
    exact hheld

end Held

end Sampling
