import R2opl.Lib.Dict

/-!
# Mirrors

A dictionary that takes over the items of others, one listing after the other.  Where an item is
only written after the items that it needs, no mirror holds it without them, however old the
listings were that it was made from.
-/

namespace Mirror

open Dict

variable {κ α : Type} [DecidableEq κ] {items new : List (κ × α)} {key : κ}

/-! ### Taking over and forgetting -/

/-- Writes the new items over those that are there. -/
def absorb (update : Option α → α → α) (items new : List (κ × α)) : List (κ × α) :=
  new.foldl (fun items item => set items item.1 (update (get? items item.1) item.2)) items

/-- The items of other keys. -/
def forget (items : List (κ × α)) (gone : List κ) : List (κ × α) :=
  items.filter fun item => item.1 ∉ gone

theorem keys_absorb_nodup (update : Option α → α → α) (h : (keys items).Nodup) :
    (keys (absorb update items new)).Nodup := by
  unfold absorb
  induction new generalizing items with
  | nil => exact h
  | cons item new ih => exact ih (keys_set_nodup h)

theorem get?_absorb (update : Option α → α → α) (hnodup : (keys new).Nodup) :
    get? (absorb update items new) key =
      (get? new key).elim (get? items key) fun value => some (update (get? items key) value) := by
  unfold absorb
  induction new generalizing items with
  | nil => rfl
  | cons item new ih =>
    obtain ⟨hfirst, hrest⟩ := List.nodup_cons.mp hnodup
    rw [List.foldl_cons, ih hrest, get?_set, get?_cons]
    by_cases hkey : item.1 = key
    · subst hkey
      have hnone : get? new item.1 = none := get?_eq_none.mpr hfirst
      simp [hnone]
    · simp [hkey]

theorem keys_forget_nodup (gone : List κ) (h : (keys items).Nodup) :
    (keys (forget items gone)).Nodup :=
  h.sublist (List.filter_sublist.map _)

theorem get?_forget (gone : List κ) :
    get? (forget items gone) key = if key ∈ gone then none else get? items key := by
  unfold forget
  induction items with
  | nil => simp [get?]
  | cons item items ih =>
    by_cases hgone : item.1 ∈ gone
    · rw [List.filter_cons_of_neg (by simpa using hgone), ih, get?_cons]
      by_cases hkey : item.1 = key
      · subst hkey
        rw [if_pos hgone, if_pos hgone]
      · rw [if_neg hkey]
    · rw [List.filter_cons_of_pos (by simpa using hgone), get?_cons, get?_cons, ih]
      by_cases hkey : item.1 = key
      · subst hkey
        rw [if_pos rfl, if_neg hgone, if_pos rfl]
      · rw [if_neg hkey, if_neg hkey]

theorem exists_get? (h : key ∈ keys items) : ∃ value, get? items key = some value := by
  cases hget : get? items key with
  | none => exact absurd h (get?_eq_none.mp hget)
  | some value => exact ⟨value, rfl⟩

theorem mem_keys_absorb (update : Option α → α → α) (hnodup : (keys new).Nodup) :
    key ∈ keys (absorb update items new) ↔ key ∈ keys items ∨ key ∈ keys new := by
  rw [← not_iff_not, not_or, ← get?_eq_none, ← get?_eq_none, ← get?_eq_none,
    get?_absorb update hnodup]
  cases hnew : get? new key with
  | none => simp
  | some value => simp

theorem mem_keys_forget (gone : List κ) :
    key ∈ keys (forget items gone) ↔ key ∈ keys items ∧ key ∉ gone := by
  rw [← not_iff_not, ← get?_eq_none, get?_forget]
  by_cases hgone : key ∈ gone
  · simp [hgone]
  · simp [hgone, get?_eq_none]

/-! ### What holds of every item -/

/-- `P` holds of every item. -/
def Everywhere (P : κ → α → Prop) (items : List (κ × α)) : Prop :=
  ∀ key value, get? items key = some value → P key value

section Everywhere

variable {P Q : κ → α → Prop} {update : Option α → α → α}

theorem Everywhere.mono (h : Everywhere P items) (hmono : ∀ key value, P key value → Q key value) :
    Everywhere Q items :=
  fun key value hget => hmono key value (h key value hget)

theorem Everywhere.absorb (h : Everywhere P items) (hnew : Everywhere P new)
    (hnodup : (keys new).Nodup)
    (hupdate : ∀ key old value, (∀ found ∈ old, P key found) → P key value →
      P key (update old value)) :
    Everywhere P (absorb update items new) := by
  intro key value hget
  rw [get?_absorb update hnodup] at hget
  cases hfound : get? new key with
  | none =>
    rw [hfound] at hget
    exact h key value hget
  | some written =>
    rw [hfound] at hget
    obtain rfl := Option.some.inj hget
    exact hupdate key _ written (fun found hold => h key found hold) (hnew key written hfound)

theorem Everywhere.forget (h : Everywhere P items) (gone : List κ) :
    Everywhere P (forget items gone) := by
  intro key value hget
  rw [get?_forget] at hget
  split at hget
  · cases hget
  · exact h key value hget

end Everywhere

/-! ### What an item needs -/

/-- The items that an item needs are there too, as far as they are not gone. -/
def Causal (needs : κ → α → κ → Prop) (gone : List κ) (items : List (κ × α)) : Prop :=
  ∀ key value, get? items key = some value → ∀ other, needs key value other →
    other ∈ keys items ∨ other ∈ gone

section Causal

variable {needs : κ → α → κ → Prop} {gone gone' : List κ} {update : Option α → α → α}

theorem Causal.mono (h : Causal needs gone items) (hgone : gone ⊆ gone') :
    Causal needs gone' items :=
  fun key value hget other hneeds => (h key value hget other hneeds).imp_right (hgone ·)

/-- What is taken over may need what is there, or what comes with it. -/
theorem Causal.absorb (h : Causal needs gone items) (hnodup : (keys new).Nodup)
    (hnew : ∀ key value, get? new key = some value → ∀ other, needs key value other →
      other ∈ keys items ∨ other ∈ keys new ∨ other ∈ gone)
    (hupdate : ∀ key old value other, needs key (update old value) other →
      needs key value other ∨ ∃ found ∈ old, needs key found other) :
    Causal needs gone (absorb update items new) := by
  intro key value hget other hneeds
  have hwider : ∀ other, other ∈ keys items ∨ other ∈ gone →
      other ∈ keys (Mirror.absorb update items new) ∨ other ∈ gone := fun other hother =>
    hother.imp_left fun hmem => (mem_keys_absorb update hnodup).mpr (.inl hmem)
  rw [get?_absorb update hnodup] at hget
  cases hfound : get? new key with
  | none =>
    rw [hfound] at hget
    exact hwider other (h key value hget other hneeds)
  | some written =>
    rw [hfound] at hget
    obtain rfl := Option.some.inj hget
    rcases hupdate key _ written other hneeds with hwritten | ⟨found, hold, hneeded⟩
    · rw [mem_keys_absorb update hnodup, or_assoc]
      exact hnew key written hfound other hwritten
    · exact hwider other (h key found hold other hneeded)

theorem Causal.forget (h : Causal needs gone items) (hgone : gone ⊆ gone') {lost : List κ}
    (hlost : lost ⊆ gone') : Causal needs gone' (forget items lost) := by
  intro key value hget other hneeds
  rw [get?_forget] at hget
  split at hget
  · cases hget
  · rw [mem_keys_forget]
    by_cases hother : other ∈ lost
    · exact .inr (hlost hother)
    · exact (h key value hget other hneeds).imp (fun hmem => ⟨hmem, hother⟩) (hgone ·)

end Causal

end Mirror
