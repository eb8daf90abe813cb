import Mathlib.Data.List.Basic
import Mathlib.Data.List.Nodup
import Mathlib.Data.List.Induction

/-!
# Dictionaries

Insertion-ordered dictionaries, as association lists whose keys stay where they were first
set.  Built from pairs with distinct keys, a dictionary is the list of these pairs.
-/

variable {κ α : Type} [DecidableEq κ]

namespace Dict

def keys (items : List (κ × α)) : List κ := items.map Prod.fst

/-- `items[key] = value`. -/
def set (items : List (κ × α)) (key : κ) (value : α) : List (κ × α) :=
  if key ∈ keys items then
    items.map fun item => if item.1 = key then (key, value) else item
  else items ++ [(key, value)]

/-- `items.get(key)`. -/
def get? (items : List (κ × α)) (key : κ) : Option α :=
  (items.find? fun item => item.1 = key).map Prod.snd

/-- The dictionary of the pairs, set one after the other. -/
def ofPairs (pairs : List (κ × α)) : List (κ × α) :=
  pairs.foldl (fun items pair => set items pair.1 pair.2) []

variable {items pairs : List (κ × α)} {key : κ} {value : α}

theorem set_of_not_mem (h : key ∉ keys items) : set items key value = items ++ [(key, value)] :=
  if_neg h

theorem get?_eq_none : get? items key = none ↔ key ∉ keys items := by
  unfold get? keys
  rw [Option.map_eq_none_iff, List.find?_eq_none]
  constructor
  · intro h hmem
    obtain ⟨item, hitem, rfl⟩ := List.mem_map.mp hmem
    simpa using h item hitem
  · intro h item hitem
    simp only [decide_eq_true_eq]
    rintro rfl
    exact h (List.mem_map_of_mem hitem)

theorem mem_of_get? (h : get? items key = some value) : (key, value) ∈ items := by
  obtain ⟨item, hitem, rfl⟩ := Option.map_eq_some_iff.mp h
  have hkey : item.1 = key := by simpa using List.find?_some hitem
  rw [← hkey]
  exact List.mem_of_find?_eq_some hitem

/-- With distinct keys a dictionary holds each of its pairs. -/
theorem get?_of_mem (hnodup : (keys items).Nodup) (h : (key, value) ∈ items) :
    get? items key = some value := by
  cases hget : get? items key with
  | none => exact absurd (List.mem_map_of_mem h) (get?_eq_none.mp hget)
  | some found =>
    have hfound := List.inj_on_of_nodup_map hnodup (mem_of_get? hget) h rfl
    exact congrArg some (Prod.mk.inj hfound).2

theorem foldl_set (items : List (κ × α)) (hnodup : (keys (items ++ pairs)).Nodup) :
    pairs.foldl (fun items pair => set items pair.1 pair.2) items = items ++ pairs := by
  induction pairs generalizing items with
  | nil => exact (List.append_nil items).symm
  | cons pair rest ih =>
    have hnew : pair.1 ∉ keys items := by
      unfold keys at hnodup ⊢
      rw [List.map_append, List.map_cons] at hnodup
      intro hmem
      exact (List.nodup_append.mp hnodup).2.2 _ hmem _ List.mem_cons_self rfl
    rw [List.foldl_cons, set_of_not_mem hnew, ih, List.append_assoc]
    · rfl
    · rw [List.append_assoc]
      exact hnodup

theorem ofPairs_eq (hnodup : (keys pairs).Nodup) : ofPairs pairs = pairs :=
  foldl_set [] hnodup

theorem get?_append {more : List (κ × α)} :
    get? (items ++ more) key = (get? items key).or (get? more key) := by
  unfold get?
  rw [List.find?_append]
  cases List.find? (fun item => decide (item.1 = key)) items with
  | none => rfl
  | some item => rfl

theorem get?_map_values {β : Type} (f : α → β) :
    get? (items.map fun item => (item.1, f item.2)) key = (get? items key).map f := by
  unfold get?
  rw [List.find?_map, Option.map_map, Option.map_map]
  rfl

/-! ### One key set -/

theorem keys_set : keys (set items key value) =
    if key ∈ keys items then keys items else keys items ++ [key] := by
  unfold set
  split
  · unfold keys
    rw [List.map_map]
    apply List.map_congr_left
    intro item _
    rw [Function.comp_apply]
    split
    · rename_i hkey
      exact hkey.symm
    · rfl
  · unfold keys
    rw [List.map_append]
    rfl

theorem keys_set_nodup (hnodup : (keys items).Nodup) : (keys (set items key value)).Nodup := by
  rw [keys_set]
  split
  · exact hnodup
  · rename_i hnew
    exact List.nodup_append.mpr ⟨hnodup, List.nodup_singleton key, fun other hother new hkey heq =>
      hnew (List.mem_singleton.mp hkey ▸ heq ▸ hother)⟩

theorem mem_set {item : κ × α} :
    item ∈ set items key value ↔ item = (key, value) ∨ item ∈ items ∧ item.1 ≠ key := by
  unfold set
  split
  · rename_i hold
    rw [List.mem_map]
    constructor
    · rintro ⟨other, hother, rfl⟩
      split
      · exact .inl rfl
      · rename_i hne
        exact .inr ⟨hother, hne⟩
    · rintro (rfl | ⟨hitem, hne⟩)
      · obtain ⟨other, hother, hkey⟩ := List.mem_map.mp hold
        exact ⟨other, hother, if_pos hkey⟩
      · exact ⟨item, hitem, if_neg hne⟩
  · rename_i hnew
    rw [List.mem_append, List.mem_singleton, or_comm]
    apply or_congr_right
    constructor
    · intro hitem
      refine ⟨hitem, ?_⟩
      rintro rfl
      exact hnew (List.mem_map_of_mem hitem)
    · exact And.left

theorem set_cons_of_ne {item : κ × α} (hne : item.1 ≠ key) :
    set (item :: items) key value = item :: set items key value := by
  have hkey : key ∈ keys (item :: items) ↔ key ∈ keys items := by
    unfold keys
    rw [List.map_cons, List.mem_cons]
    exact or_iff_right hne.symm
  unfold set
  by_cases hmem : key ∈ keys items
  · rw [if_pos (hkey.mpr hmem), if_pos hmem, List.map_cons, if_neg hne]
  · rw [if_neg (hkey.not.mpr hmem), if_neg hmem, List.cons_append]

theorem get?_cons (item : κ × α) (rest : List (κ × α)) (key : κ) :
    get? (item :: rest) key = if item.1 = key then some item.2 else get? rest key := by
  unfold get?
  by_cases hkey : item.1 = key
  · rw [List.find?_cons_of_pos (by simpa using hkey), if_pos hkey]
    rfl
  · rw [List.find?_cons_of_neg (by simpa using hkey), if_neg hkey]

theorem get?_map_replace {key' : κ} (hne : key ≠ key') :
    get? (items.map fun item => if item.1 = key then (key, value) else item) key' =
      get? items key' := by
  induction items with
  | nil => rfl
  | cons item rest ih =>
    rw [List.map_cons, get?_cons, get?_cons, ih]
    by_cases hsame : item.1 = key
    · rw [if_pos hsame, if_neg hne, if_neg (hsame ▸ hne)]
    · rw [if_neg hsame]

theorem get?_set (key' : κ) :
    get? (set items key value) key' = if key = key' then some value else get? items key' := by
  induction items with
  | nil =>
    unfold set keys
    rw [List.map_nil, if_neg List.not_mem_nil, List.nil_append, get?_cons]
  | cons item rest ih =>
    by_cases hsame : item.1 = key
    · have hkey : key ∈ keys (item :: rest) := by
        rw [← hsame]
        exact List.mem_cons_self
      unfold set
      rw [if_pos hkey, List.map_cons, if_pos hsame, get?_cons, get?_cons]
      by_cases heq : key = key'
      · rw [if_pos heq, if_pos heq]
      · rw [if_neg heq, if_neg heq, if_neg (hsame ▸ heq), get?_map_replace heq]
    · rw [set_cons_of_ne hsame, get?_cons, get?_cons, ih]
      by_cases heq : key = key'
      · subst heq
        rw [if_neg hsame, if_pos rfl, if_pos rfl]
      · rw [if_neg heq, if_neg heq]

/-- A dictionary built from pairs holds pairs of these. -/
theorem mem_of_mem_ofPairs {item : κ × α} (h : item ∈ ofPairs pairs) : item ∈ pairs := by
  have hall : ∀ (pairs items : List (κ × α)),
      item ∈ pairs.foldl (fun items pair => set items pair.1 pair.2) items →
      item ∈ items ∨ item ∈ pairs := by
    intro pairs
    induction pairs with
    | nil => exact fun items hitem => .inl hitem
    | cons pair rest ih =>
      intro items hitem
      rcases ih _ hitem with hset | hrest
      · rcases mem_set.mp hset with rfl | ⟨hold, _⟩
        · exact .inr List.mem_cons_self
        · exact .inl hold
      · exact .inr (List.mem_cons_of_mem pair hrest)
  exact (hall pairs [] h).resolve_left List.not_mem_nil

/-- A dictionary that holds a value of each key, computed from the key. -/
theorem get?_ofPairs_map (f : κ → α) (xs : List κ) :
    get? (ofPairs (xs.map fun x => (x, f x))) key = if key ∈ xs then some (f key) else none := by
  induction xs using List.reverseRecOn with
  | nil => rfl
  | append_singleton xs x ih =>
    unfold ofPairs at ih ⊢
    rw [List.map_append, List.foldl_append, List.map_singleton, List.foldl_cons, List.foldl_nil,
      get?_set, ih]
    by_cases hkey : x = key
    · rw [if_pos hkey, if_pos (List.mem_append_right xs (List.mem_singleton.mpr hkey.symm)), hkey]
    · rw [if_neg hkey]
      congr 1
      rw [List.mem_append, List.mem_singleton, eq_iff_iff]
      exact ⟨Or.inl, fun h => h.resolve_right fun heq => hkey heq.symm⟩

/-- A value that is computed for each of `xs`, under a key of its own. -/
theorem get?_ofPairs_map_inj {γ : Type} {f : γ → κ} (hf : Function.Injective f) (g : γ → α)
    {xs : List γ} {x : γ} (hx : x ∈ xs) :
    get? (ofPairs (xs.map fun x => (f x, g x))) (f x) = some (g x) := by
  induction xs using List.reverseRecOn with
  | nil => exact absurd hx List.not_mem_nil
  | append_singleton xs last ih =>
    unfold ofPairs at ih ⊢
    rw [List.map_append, List.foldl_append, List.map_singleton, List.foldl_cons, List.foldl_nil,
      get?_set]
    by_cases hkey : f last = f x
    · rw [if_pos hkey, hf hkey]
    · rw [if_neg hkey]
      apply ih
      rcases List.mem_append.mp hx with hold | hlast
      · exact hold
      · exact absurd (congrArg f (List.mem_singleton.mp hlast).symm) hkey

/-! ### Loops that write -/

section Update

variable {γ : Type} {write : List (κ × α) → γ → Option (κ × α)} {xs : List γ}

/-- One round of a loop over a dictionary: what it writes, when it writes. -/
def update (write : List (κ × α) → γ → Option (κ × α)) (items : List (κ × α)) (x : γ) :
    List (κ × α) :=
  (write items x).elim items fun item => set items item.1 item.2

theorem update_of_some {x : γ} (h : write items x = some (key, value)) :
    update write items x = set items key value := by
  unfold update
  rw [h]
  rfl

theorem get?_update_of_ne {x : γ} (h : ∀ value, write items x ≠ some (key, value)) :
    get? (update write items x) key = get? items key := by
  unfold update
  cases hwrite : write items x with
  | none => rfl
  | some item =>
    obtain ⟨other, value⟩ := item
    rw [Option.elim_some, get?_set, if_neg]
    rintro rfl
    exact h value hwrite

theorem keys_update_nodup {x : γ} (h : (keys items).Nodup) :
    (keys (update write items x)).Nodup := by
  unfold update
  cases write items x with
  | none => exact h
  | some item => exact keys_set_nodup h

/-- A loop leaves the keys alone that no round writes. -/
theorem get?_foldl_update_of_ne
    (h : ∀ items, ∀ x ∈ xs, ∀ value, write items x ≠ some (key, value)) :
    get? (xs.foldl (update write) items) key = get? items key := by
  induction xs generalizing items with
  | nil => rfl
  | cons x xs ih =>
    rw [List.foldl_cons, ih fun items y hy => h items y (List.mem_cons_of_mem x hy)]
    exact get?_update_of_ne (h items x List.mem_cons_self)

/-- A key that one round alone writes has the value of this round. -/
theorem get?_foldl_update {P : List (κ × α) → Prop} {x : γ} (hx : x ∈ xs)
    (hinv : ∀ items, ∀ y ∈ xs, P items → P (update write items y))
    (hwrite : ∀ items, P items → write items x = some (key, value))
    (hother : ∀ items, ∀ y ∈ xs, ∀ v, write items y = some (key, v) → y = x) (h : P items) :
    get? (xs.foldl (update write) items) key = some value := by
  induction xs generalizing items with
  | nil => exact absurd hx List.not_mem_nil
  | cons y ys ih =>
    rw [List.foldl_cons]
    by_cases hlater : x ∈ ys
    · apply ih hlater
      · exact fun items z hz => hinv items z (List.mem_cons_of_mem y hz)
      · exact fun items z hz => hother items z (List.mem_cons_of_mem y hz)
      · exact hinv items y List.mem_cons_self h
    · obtain rfl := (List.mem_cons.mp hx).resolve_right hlater
      rw [get?_foldl_update_of_ne, update_of_some (hwrite items h), get?_set, if_pos rfl]
      intro items z hz v hz'
      exact hlater (hother items z (List.mem_cons_of_mem x hz) v hz' ▸ hz)

variable (write xs) in
theorem keys_foldl_update_nodup (h : (keys items).Nodup) :
    (keys (xs.foldl (update write) items)).Nodup := by
  induction xs generalizing items with
  | nil => exact h
  | cons x xs ih => exact ih (keys_update_nodup h)

end Update

/-! ### Described dictionaries -/

/-- The dictionary holds the entries of the things that are done, and nothing else. -/
structure Holds {γ : Type} (items : List (κ × α)) (done : γ → Prop) (entry : γ → Option (κ × α)) :
    Prop where
  nodup : (keys items).Nodup
  mem : ∀ item, item ∈ items ↔ ∃ x, done x ∧ entry x = some item

section Holds

variable {γ : Type} {done : γ → Prop} {entry : γ → Option (κ × α)} {x : γ}

omit [DecidableEq κ] in
theorem Holds.nothing : Holds [] (fun _ => False) entry where
  nodup := List.nodup_nil
  mem := fun _ => ⟨fun hitem => absurd hitem List.not_mem_nil, fun ⟨_, hdone, _⟩ => hdone.elim⟩

theorem Holds.set (h : Holds items done entry) (hentry : entry x = some (key, value))
    (hkey : ∀ y, done y → ∀ v, entry y = some (key, v) → y = x) :
    Holds (set items key value) (fun y => done y ∨ y = x) entry where
  nodup := keys_set_nodup h.nodup
  mem := by
    intro item
    rw [mem_set]
    constructor
    · rintro (rfl | ⟨hitem, _⟩)
      · exact ⟨x, .inr rfl, hentry⟩
      · obtain ⟨y, hdone, hy⟩ := (h.mem item).mp hitem
        exact ⟨y, .inl hdone, hy⟩
    · rintro ⟨y, hdone | rfl, hy⟩
      · by_cases hsame : item.1 = key
        · obtain rfl := hkey y hdone item.2 (by rw [hy, ← hsame])
          exact .inl (Option.some.inj (hy.symm.trans hentry))
        · exact .inr ⟨(h.mem item).mpr ⟨y, hdone, hy⟩, hsame⟩
      · exact .inl (Option.some.inj (hy.symm.trans hentry))

omit [DecidableEq κ] in
theorem Holds.skip (h : Holds items done entry) (hentry : entry x = none) :
    Holds items (fun y => done y ∨ y = x) entry where
  nodup := h.nodup
  mem := by
    intro item
    rw [h.mem]
    constructor
    · rintro ⟨y, hdone, hy⟩
      exact ⟨y, .inl hdone, hy⟩
    · rintro ⟨y, hdone | rfl, hy⟩
      · exact ⟨y, hdone, hy⟩
      · rw [hentry] at hy
        cases hy

theorem Holds.get?_eq_some (h : Holds items done entry) :
    get? items key = some value ↔ ∃ y, done y ∧ entry y = some (key, value) := by
  rw [← h.mem]
  exact ⟨mem_of_get?, get?_of_mem h.nodup⟩

end Holds

/-! ### Groups -/

/-- `groups.setdefault(key, []).append(x)`. -/
def push (groups : List (κ × List α)) (key : κ) (x : α) : List (κ × List α) :=
  set groups key ((get? groups key).getD [] ++ [x])

/-- The members of all groups, with their keys. -/
def entries (groups : List (κ × List α)) : List (κ × α) :=
  groups.flatMap fun group => group.2.map fun x => (group.1, x)

variable {groups : List (κ × List α)}

theorem set_cons_self {old : α} (hnodup : (keys ((key, old) :: items)).Nodup) :
    set ((key, old) :: items) key value = (key, value) :: items := by
  have hkey : key ∈ keys ((key, old) :: items) := List.mem_cons_self
  have hother : ∀ item ∈ items, item.1 ≠ key := by
    intro item hitem heq
    have hmem : item.1 ∈ keys items := List.mem_map_of_mem hitem
    rw [heq] at hmem
    exact (List.nodup_cons.mp hnodup).1 hmem
  unfold set
  rw [if_pos hkey, List.map_cons, if_pos rfl]
  congr 1
  rw [List.map_congr_left fun item hitem => if_neg (hother item hitem)]
  exact List.map_id' items

/-- Groups with the given members, by keys and in some order. -/
structure Grouped (groups : List (κ × List α)) (members : List (κ × α)) : Prop where
  nodup : (keys groups).Nodup
  perm : (entries groups).Perm members

omit [DecidableEq κ] in
theorem mem_entries {item : κ × α} : item ∈ entries groups ↔
    ∃ group ∈ groups, group.1 = item.1 ∧ item.2 ∈ group.2 := by
  unfold entries
  rw [List.mem_flatMap]
  constructor
  · rintro ⟨group, hgroup, hitem⟩
    obtain ⟨x, hx, rfl⟩ := List.mem_map.mp hitem
    exact ⟨group, hgroup, rfl, hx⟩
  · rintro ⟨group, hgroup, hkey, hx⟩
    exact ⟨group, hgroup, List.mem_map.mpr ⟨item.2, hx, Prod.ext hkey rfl⟩⟩

theorem entries_push_perm {x : α} (hnodup : (keys groups).Nodup) :
    (entries (push groups key x)).Perm (entries groups ++ [(key, x)]) := by
  induction groups with
  | nil => exact List.Perm.refl _
  | cons group rest ih =>
    obtain ⟨k, members⟩ := group
    by_cases hkey : k = key
    · subst hkey
      have hget : get? ((k, members) :: rest) k = some members := by
        unfold get?
        rw [List.find?_cons_of_pos (by simp)]
        rfl
      unfold push entries
      rw [hget, set_cons_self hnodup, List.flatMap_cons, List.flatMap_cons, List.append_assoc]
      simp only [Option.getD_some, List.map_append, List.append_assoc]
      exact List.Perm.append_left _ List.perm_append_comm
    · have hget : get? ((k, members) :: rest) key = get? rest key := by
        unfold get?
        rw [List.find?_cons_of_neg (by simpa using hkey)]
      have hrest := ih (List.nodup_cons.mp hnodup).2
      unfold push entries at hrest ⊢
      rw [hget, set_cons_of_ne hkey, List.flatMap_cons, List.flatMap_cons, List.append_assoc]
      exact List.Perm.append_left _ hrest

theorem Grouped.push {members : List (κ × α)} (h : Grouped groups members) (key : κ) (x : α) :
    Grouped (push groups key x) (members ++ [(key, x)]) where
  nodup := keys_set_nodup h.nodup
  perm := (entries_push_perm h.nodup).trans (h.perm.append_right _)

/-- `for x in xs: groups.setdefault(keyOf(x), []).append(x)`. -/
def groupBy (keyOf : α → κ) (groups : List (κ × List α)) (xs : List α) : List (κ × List α) :=
  xs.foldl (fun groups x => push groups (keyOf x) x) groups

/-- A group holds the items of its key, in the order of the items. -/
theorem getD_groupBy (keyOf : α → κ) (key : κ) (xs : List α) :
    ∀ groups : List (κ × List α), (get? (groupBy keyOf groups xs) key).getD [] =
      (get? groups key).getD [] ++ xs.filter fun x => keyOf x = key := by
  induction xs with
  | nil =>
    intro groups
    rw [List.filter_nil, List.append_nil]
    rfl
  | cons x xs ih =>
    intro groups
    change (get? (groupBy keyOf (Dict.push groups (keyOf x) x) xs) key).getD [] = _
    rw [ih, Dict.push, get?_set]
    by_cases hkey : keyOf x = key
    · subst hkey
      rw [if_pos rfl, Option.getD_some, List.filter_cons_of_pos (by simp), List.append_assoc]
      rfl
    · rw [if_neg hkey, List.filter_cons_of_neg (by simpa using hkey)]

theorem mem_keys_push {key' : κ} {x : α} :
    key' ∈ keys (Dict.push groups key x) ↔ key' ∈ keys groups ∨ key' = key := by
  unfold Dict.push
  rw [keys_set]
  split
  · rename_i hkey
    constructor
    · exact Or.inl
    · rintro (hmem | rfl)
      · exact hmem
      · exact hkey
  · rw [List.mem_append, List.mem_singleton]

theorem mem_keys_groupBy (keyOf : α → κ) {key : κ} (xs : List α) :
    ∀ groups : List (κ × List α), key ∈ keys (groupBy keyOf groups xs) ↔
      key ∈ keys groups ∨ ∃ x ∈ xs, keyOf x = key := by
  induction xs with
  | nil => intro groups; simp [groupBy]
  | cons x xs ih =>
    intro groups
    change key ∈ keys (groupBy keyOf (Dict.push groups (keyOf x) x) xs) ↔ _
    rw [ih, mem_keys_push, or_assoc, List.exists_mem_cons_iff, eq_comm]

theorem keys_groupBy_nodup (keyOf : α → κ) (xs : List α) :
    ∀ groups : List (κ × List α), (keys groups).Nodup → (keys (groupBy keyOf groups xs)).Nodup := by
  induction xs with
  | nil => exact fun _ h => h
  | cons x xs ih => exact fun groups h => ih _ (keys_set_nodup h)

/-- The groups are the items of each key that occurs. -/
theorem mem_groupBy {keyOf : α → κ} {xs : List α} {group : κ × List α}
    (h : group ∈ groupBy keyOf [] xs) :
    (∃ x ∈ xs, keyOf x = group.1) ∧ group.2 = xs.filter fun x => keyOf x = group.1 := by
  have hnodup := keys_groupBy_nodup keyOf xs [] List.nodup_nil
  constructor
  · have hkey : group.1 ∈ keys (groupBy keyOf [] xs) := List.mem_map_of_mem h
    exact ((mem_keys_groupBy keyOf xs []).mp hkey).resolve_left List.not_mem_nil
  · have hget := getD_groupBy keyOf group.1 xs []
    rw [get?_of_mem hnodup h] at hget
    exact hget

omit [DecidableEq κ] in
/-- Of distinct keys one alone contributes. -/
theorem flatMap_eq_single {f : κ → List α} {ks : List κ} (hnodup : ks.Nodup) (hkey : key ∈ ks)
    (hother : ∀ other ∈ ks, other ≠ key → f other = []) : ks.flatMap f = f key := by
  induction ks with
  | nil => exact absurd hkey List.not_mem_nil
  | cons first rest ih =>
    obtain ⟨hfirst, hrest⟩ := List.nodup_cons.mp hnodup
    have hlater : ∀ other ∈ rest, other ≠ key → f other = [] :=
      fun other hmem => hother other (List.mem_cons_of_mem _ hmem)
    rw [List.flatMap_cons]
    by_cases hmem : key ∈ rest
    · have hne : first ≠ key := by
        rintro rfl
        exact hfirst hmem
      rw [hother first List.mem_cons_self hne, List.nil_append, ih hrest hmem hlater]
    · obtain rfl : key = first := (List.mem_cons.mp hkey).resolve_right hmem
      have hnone : rest.flatMap f = [] := by
        apply List.flatMap_eq_nil_iff.mpr
        intro other hin
        apply hlater other hin
        rintro rfl
        exact hmem hin
      rw [hnone, List.append_nil]

end Dict
