import R2opl.Answer.Boxed
import Mathlib.Logic.Relation

/-!
# Surrounding markup and style commands

`_strip_surrounding_markup` and `_replace_style_commands` of `utils/answer_verifier.py`.
The first strips one wrapper after the other until none is left; the text it leaves does not
depend on how the wrappers were nested.
-/

namespace R2opl

/-! ### Surrounding markup -/

def markupPairs : List (PyStr × PyStr) :=
  [(['$', '$'], ['$', '$']), (['\\', '['], ['\\', ']']), (['\\', '('], ['\\', ')']),
    (['$'], ['$']), (['*', '*'], ['*', '*']), (['_', '_'], ['_', '_']), (['\x60'], ['\x60'])]

/-- `value` without the first pair of wrappers that surrounds it. -/
def stripPair (value : PyStr) : Option PyStr :=
  markupPairs.findSome? fun pair =>
    if pair.1.isPrefixOf value && pair.2.isSuffixOf value then
      some (strip (slice value pair.1.length (value.length - pair.2.length)))
    else none

/-- `value` without the braces that surround it. -/
def stripBraces (value : PyStr) : Option PyStr :=
  if [leftBrace].isPrefixOf value && matchingBrace value 0 = some (value.length - 1) then
    some (strip (slice value 1 (value.length - 1)))
  else none

/-- One round of the loop, with whether it changed anything. -/
def markupRound (value : PyStr) : PyStr × Bool :=
  let (inner, changed) := (stripPair value).elim (value, false) fun inner => (inner, true)
  (stripBraces inner).elim (inner, changed) fun inner => (inner, true)

/-- The loop, for at most `rounds` rounds. -/
def stripMarkupFrom : Nat → PyStr → PyStr
  | 0, value => value
  | rounds + 1, value =>
      if value = [] then value
      else
        let (inner, changed) := markupRound value
        if changed then stripMarkupFrom rounds inner else inner

/-- `_strip_surrounding_markup`.  Every round that changes the text shortens it, so its
    length bounds their number. -/
def stripSurroundingMarkup (text : PyStr) : PyStr :=
  let value := strip (repair text)
  stripMarkupFrom (value.length + 1) value

/-! ### What the loop reaches -/

/-- One wrapper is stripped: a pair before the braces. -/
def Strips (value inner : PyStr) : Prop :=
  stripPair value = some inner ∨ stripPair value = none ∧ stripBraces value = some inner

/-- `inner` is left of `value` when no wrapper is left to strip. -/
structure StripsTo (value inner : PyStr) : Prop where
  steps : Relation.ReflTransGen Strips value inner
  bare : ∀ next, ¬ Strips inner next

theorem Strips.unique {value inner inner' : PyStr} (h : Strips value inner)
    (h' : Strips value inner') : inner = inner' := by
  rcases h with h | ⟨hnone, h⟩
  · rcases h' with h' | ⟨hnone', _⟩
    · exact Option.some.inj (h.symm.trans h')
    · rw [h] at hnone'
      cases hnone'
  · rcases h' with h' | ⟨_, h'⟩
    · rw [hnone] at h'
      cases h'
    · exact Option.some.inj (h.symm.trans h')

/-- Stripping one wrapper first changes nothing. -/
theorem StripsTo.of_strips {value next inner : PyStr} (hstep : Strips value next) :
    StripsTo value inner ↔ StripsTo next inner := by
  constructor
  · rintro ⟨hsteps, hbare⟩
    rcases Relation.ReflTransGen.cases_head hsteps with rfl | ⟨other, hother, hrest⟩
    · exact absurd hstep (hbare next)
    · rw [hother.unique hstep] at hrest
      exact ⟨hrest, hbare⟩
  · rintro ⟨hsteps, hbare⟩
    exact ⟨.head hstep hsteps, hbare⟩

theorem StripsTo.of_bare {value inner : PyStr} (hbare : ∀ next, ¬ Strips value next) :
    StripsTo value inner ↔ inner = value := by
  constructor
  · rintro ⟨hsteps, _⟩
    rcases Relation.ReflTransGen.cases_head hsteps with rfl | ⟨other, hother, _⟩
    · rfl
    · exact absurd hother (hbare other)
  · rintro rfl
    exact ⟨.refl, hbare⟩

theorem StripsTo.unique {value inner inner' : PyStr} (h : StripsTo value inner)
    (h' : StripsTo value inner') : inner = inner' := by
  obtain ⟨hsteps, hbare⟩ := h
  induction hsteps using Relation.ReflTransGen.head_induction_on with
  | refl => exact ((StripsTo.of_bare hbare).mp h').symm
  | head hstep _ ih => exact ih ((StripsTo.of_strips hstep).mp h')

theorem stripPair_eq_some {value inner : PyStr} (h : stripPair value = some inner) :
    ∃ pair ∈ markupPairs, pair.1.isPrefixOf value = true ∧ pair.2.isSuffixOf value = true ∧
      inner = strip (slice value pair.1.length (value.length - pair.2.length)) := by
  unfold stripPair at h
  obtain ⟨pair, hpair, hinner⟩ := List.exists_of_findSome?_eq_some h
  split at hinner
  · next hboth =>
    rw [Bool.and_eq_true] at hboth
    exact ⟨pair, hpair, hboth.1, hboth.2, (Option.some.inj hinner).symm⟩
  · cases hinner

theorem stripBraces_eq_some {value inner : PyStr} (h : stripBraces value = some inner) :
    [leftBrace].isPrefixOf value = true ∧ matchingBrace value 0 = some (value.length - 1) ∧
      inner = strip (slice value 1 (value.length - 1)) := by
  unfold stripBraces at h
  split at h
  · next hboth =>
    rw [Bool.and_eq_true, decide_eq_true_eq] at hboth
    exact ⟨hboth.1, hboth.2, (Option.some.inj h).symm⟩
  · cases h

theorem markupPairs_pos : ∀ pair ∈ markupPairs, 0 < pair.1.length ∧ 0 < pair.2.length := by
  decide

theorem markupPairs_head : ∀ pair ∈ markupPairs, pair.1.head? ≠ some leftBrace := by
  decide

/-- A wrapper that is stripped is dropped from the text. -/
theorem Strips.length_lt {value inner : PyStr} (h : Strips value inner) :
    inner.length < value.length := by
  rcases h with h | ⟨_, h⟩
  · obtain ⟨pair, hpair, hpre, _, rfl⟩ := stripPair_eq_some h
    have hpositive := markupPairs_pos pair hpair
    have hle := (List.isPrefixOf_iff_prefix.mp hpre).length_le
    have hstrip := strip_length_le (slice value pair.1.length (value.length - pair.2.length))
    have hslice := slice_length_le value pair.1.length (value.length - pair.2.length)
    omega
  · obtain ⟨hpre, _, rfl⟩ := stripBraces_eq_some h
    have hle := (List.isPrefixOf_iff_prefix.mp hpre).length_le
    rw [List.length_singleton] at hle
    have hstrip := strip_length_le (slice value 1 (value.length - 1))
    have hslice := slice_length_le value 1 (value.length - 1)
    omega

/-- No pair surrounds a text that starts with a brace. -/
theorem stripPair_leftBrace (rest : PyStr) : stripPair (leftBrace :: rest) = none := by
  unfold stripPair
  rw [List.findSome?_eq_none_iff]
  intro pair hpair
  have hpositive := markupPairs_pos pair hpair
  have hfirst := markupPairs_head pair hpair
  rw [if_neg]
  rw [Bool.and_eq_true, List.isPrefixOf_iff_prefix]
  rintro ⟨⟨after, hafter⟩, _⟩
  cases hleft : pair.1 with
  | nil =>
    rw [hleft] at hpositive
    exact absurd hpositive.1 (Nat.lt_irrefl _)
  | cons c left =>
    rw [hleft] at hafter hfirst
    obtain ⟨rfl, _⟩ := List.cons.inj hafter
    exact hfirst rfl

theorem head_of_isPrefixOf_singleton {c : Char} {value : PyStr}
    (h : [c].isPrefixOf value = true) : ∃ rest, value = c :: rest := by
  obtain ⟨rest, hrest⟩ := List.isPrefixOf_iff_prefix.mp h
  exact ⟨rest, hrest.symm⟩

/-- A round strips up to two wrappers and reports whether it did. -/
theorem markupRound_cases (value : PyStr) :
    (markupRound value = (value, false) ∧ ∀ next, ¬ Strips value next) ∨
      ∃ inner, markupRound value = (inner, true) ∧ Relation.TransGen Strips value inner := by
  unfold markupRound
  cases hpair : stripPair value with
  | none =>
    dsimp only [Option.elim_none]
    cases hbraces : stripBraces value with
    | none =>
      refine Or.inl ⟨rfl, ?_⟩
      rintro next (h | ⟨_, h⟩)
      · rw [hpair] at h
        cases h
      · rw [hbraces] at h
        cases h
    | some inner => exact Or.inr ⟨inner, rfl, .single (Or.inr ⟨hpair, hbraces⟩)⟩
  | some first =>
    dsimp only [Option.elim_some]
    have hfirst : Strips value first := Or.inl hpair
    cases hbraces : stripBraces first with
    | none => exact Or.inr ⟨first, rfl, .single hfirst⟩
    | some inner =>
      obtain ⟨rest, rfl⟩ := head_of_isPrefixOf_singleton (stripBraces_eq_some hbraces).1
      exact Or.inr ⟨inner, rfl,
        .tail (.single hfirst) (Or.inr ⟨stripPair_leftBrace rest, hbraces⟩)⟩

theorem length_lt_of_transGen {value inner : PyStr} (h : Relation.TransGen Strips value inner) :
    inner.length < value.length := by
  induction h with
  | single hstep => exact hstep.length_lt
  | tail _ hstep ih => exact Nat.lt_trans hstep.length_lt ih

theorem not_strips_nil (next : PyStr) : ¬ Strips [] next := fun h =>
  absurd h.length_lt (Nat.not_lt_zero _)

/-- The loop ends within its rounds, with no wrapper left. -/
theorem stripMarkupFrom_stripsTo :
    ∀ (rounds : Nat) (value : PyStr), value.length < rounds →
      StripsTo value (stripMarkupFrom rounds value) := by
  intro rounds
  induction rounds with
  | zero => exact fun value h => absurd h (Nat.not_lt_zero _)
  | succ rounds ih =>
    intro value hrounds
    unfold stripMarkupFrom
    by_cases hnil : value = []
    · rw [if_pos hnil]
      exact ⟨.refl, hnil ▸ not_strips_nil⟩
    · rw [if_neg hnil]
      rcases markupRound_cases value with ⟨hround, hbare⟩ | ⟨inner, hround, hsteps⟩
      · rw [hround]
        exact ⟨.refl, hbare⟩
      · rw [hround]
        have hlt := length_lt_of_transGen hsteps
        obtain ⟨hrest, hbare⟩ := ih inner (by omega)
        exact ⟨hsteps.to_reflTransGen.trans hrest, hbare⟩

/-- The stripped text is the one reached when no wrapper is left. -/
theorem stripSurroundingMarkup_stripsTo (text : PyStr) :
    StripsTo (strip (repair text)) (stripSurroundingMarkup text) :=
  stripMarkupFrom_stripsTo _ _ (Nat.lt_succ_self _)

theorem stripSurroundingMarkup_eq_iff {text inner : PyStr} :
    stripSurroundingMarkup text = inner ↔ StripsTo (strip (repair text)) inner := by
  constructor
  · rintro rfl
    exact stripSurroundingMarkup_stripsTo text
  · exact fun h => (stripSurroundingMarkup_stripsTo text).unique h

/-- Two dollar signs on each side are stripped before one. -/
def dollarPair : PyStr × PyStr := (['$'], ['$'])

theorem isPrefixOf_append (left right : PyStr) : left.isPrefixOf (left ++ right) = true :=
  List.isPrefixOf_iff_prefix.mpr (List.prefix_append _ _)

theorem isSuffixOf_append (left right : PyStr) : right.isSuffixOf (left ++ right) = true :=
  List.isSuffixOf_iff_suffix.mpr (List.suffix_append _ _)

/-- What stands between a pair of wrappers. -/
theorem slice_pair (left inner right : PyStr) :
    slice (left ++ inner ++ right) left.length ((left ++ inner ++ right).length - right.length) =
      inner := by
  apply slice_append_middle _ _ _ rfl
  simp only [List.length_append]
  omega

/-- The pair that surrounds a text is found, unless an earlier one surrounds it too. -/
theorem stripPair_of_split {value inner : PyStr} (before : List (PyStr × PyStr))
    (pair : PyStr × PyStr) {after : List (PyStr × PyStr)} (hpairs : markupPairs = before ++ pair :: after)
    (hvalue : value = pair.1 ++ inner ++ pair.2)
    (hbefore : ∀ other ∈ before,
      (other.1.isPrefixOf value && other.2.isSuffixOf value) = false) :
    stripPair value = some (strip inner) := by
  unfold stripPair
  rw [List.findSome?_eq_some_iff]
  refine ⟨before, pair, after, hpairs, ?_, ?_⟩
  · rw [hvalue, slice_pair, isSuffixOf_append, List.append_assoc, isPrefixOf_append]
    rfl
  · intro other hother
    rw [hbefore other hother]
    rfl

theorem stripPair_wrapped {pair : PyStr × PyStr} (hpair : pair ∈ markupPairs)
    (hne : pair ≠ dollarPair) (inner : PyStr) :
    stripPair (pair.1 ++ inner ++ pair.2) = some (strip inner) := by
  simp only [markupPairs, List.mem_cons, List.not_mem_nil, or_false] at hpair
  rcases hpair with rfl | rfl | rfl | rfl | rfl | rfl | rfl
  · exact stripPair_of_split [] _ rfl rfl (fun _ h => absurd h List.not_mem_nil)
  · exact stripPair_of_split (markupPairs.take 1) _ rfl rfl (by simp [markupPairs])
  · exact stripPair_of_split (markupPairs.take 2) _ rfl rfl (by simp [markupPairs])
  · exact absurd rfl hne
  · exact stripPair_of_split (markupPairs.take 4) _ rfl rfl (by simp [markupPairs])
  · exact stripPair_of_split (markupPairs.take 5) _ rfl rfl (by simp [markupPairs])
  · exact stripPair_of_split (markupPairs.take 6) _ rfl rfl (by simp [markupPairs])

/-- One dollar sign on each side, unless there are two on each. -/
theorem stripPair_dollar {inner : PyStr}
    (h : ¬ (['$', '$'] <+: '$' :: (inner ++ ['$']) ∧ ['$', '$'] <:+ '$' :: (inner ++ ['$']))) :
    stripPair ('$' :: (inner ++ ['$'])) = some (strip inner) := by
  apply stripPair_of_split (markupPairs.take 3) dollarPair rfl rfl
  intro other hother
  simp only [markupPairs, List.take_succ_cons, List.take_zero, List.mem_cons, List.not_mem_nil,
    or_false] at hother
  rcases hother with rfl | rfl | rfl
  · rw [Bool.and_eq_false_iff, ← Bool.not_eq_true, ← Bool.not_eq_true,
      List.isPrefixOf_iff_prefix, List.isSuffixOf_iff_suffix]
    exact not_and_or.mp h
  · rfl
  · rfl

/-- Dollar signs around a text leave what the text leaves, however many it starts or ends
    with itself. -/
theorem stripsTo_dollar (inner left : PyStr) :
    StripsTo ('$' :: (inner ++ ['$'])) left ↔ StripsTo (strip inner) left := by
  generalize hlength : inner.length = n
  induction n using Nat.strongRecOn generalizing inner with
  | ind n ih =>
    by_cases hboth : ['$', '$'] <+: '$' :: (inner ++ ['$']) ∧
        ['$', '$'] <:+ '$' :: (inner ++ ['$'])
    · -- the text is empty, or has a dollar sign at both ends itself
      have hcases : inner = [] ∨ inner = ['$'] ∨ ∃ middle, inner = '$' :: (middle ++ ['$']) := by
        obtain ⟨⟨tail, htail⟩, ⟨init, hinit⟩⟩ := hboth
        cases inner with
        | nil => exact Or.inl rfl
        | cons c rest =>
          obtain ⟨_, htail⟩ := List.cons.inj htail
          obtain ⟨rfl, _⟩ := List.cons.inj htail
          rcases List.eq_nil_or_concat rest with rfl | ⟨middle, d, rfl⟩
          · exact Or.inr (Or.inl rfl)
          · have hd : d = '$' := by
              have hlast := congrArg (fun text : PyStr => text.reverse.take 2) hinit
              simpa using Eq.symm hlast
            exact Or.inr (Or.inr ⟨middle, by rw [hd, List.concat_eq_append]⟩)
      rcases hcases with rfl | rfl | ⟨middle, rfl⟩
      · exact StripsTo.of_strips (Or.inl (by decide))
      · have hone : Strips ['$'] [] := Or.inl (by decide)
        have hthree : Strips ['$', '$', '$'] [] := Or.inl (by decide)
        rw [show strip ['$'] = ['$'] by decide, StripsTo.of_strips hone]
        exact StripsTo.of_strips hthree
      · have htwo : Strips ('$' :: ('$' :: (middle ++ ['$']) ++ ['$'])) (strip middle) := by
          apply Or.inl
          have hdouble : (['$', '$'], ['$', '$']) ∈ markupPairs := by decide
          have hpair := stripPair_wrapped hdouble (by decide) middle
          simpa using hpair
        have hshorter : middle.length < n := by
          rw [← hlength]
          simp only [List.length_cons, List.length_append]
          omega
        have hends : strip ('$' :: (middle ++ ['$'])) = '$' :: (middle ++ ['$']) := by
          apply strip_of_ends
          · intro c hc
            obtain rfl := Option.some.inj hc
            decide
          · intro c hc
            rw [← List.cons_append, List.getLast?_concat] at hc
            obtain rfl := Option.some.inj hc
            decide
        rw [StripsTo.of_strips htwo, hends]
        exact (ih middle.length hshorter middle rfl).symm
    · exact StripsTo.of_strips (Or.inl (stripPair_dollar hboth))

/-- Wrappers around a text leave what the text leaves. -/
theorem stripsTo_pair {pair : PyStr × PyStr} (hpair : pair ∈ markupPairs) (inner left : PyStr) :
    StripsTo (pair.1 ++ inner ++ pair.2) left ↔ StripsTo (strip inner) left := by
  by_cases hdollar : pair = dollarPair
  · rw [hdollar]
    exact stripsTo_dollar inner left
  · exact StripsTo.of_strips (Or.inl (stripPair_wrapped hpair hdollar inner))

theorem stripsTo_braces {inner left : PyStr} (henclosed : Enclosed inner) :
    StripsTo (leftBrace :: (inner ++ [rightBrace])) left ↔ StripsTo (strip inner) left := by
  have hbrace : matchingBrace ([] ++ leftBrace :: (inner ++ [rightBrace])) 0 =
      some (inner.length + 1) :=
    matchingBrace_eq_some_iff.mpr ⟨inner, [], rfl, Nat.add_comm _ _, henclosed⟩
  apply StripsTo.of_strips
  refine Or.inr ⟨stripPair_leftBrace _, ?_⟩
  have hslice := slice_pair [leftBrace] inner [rightBrace]
  have hlength : (leftBrace :: (inner ++ [rightBrace])).length - 1 = inner.length + 1 := by simp
  unfold stripBraces
  rw [hlength, if_pos]
  · rw [← hlength]
    exact congrArg (fun text => some (strip text)) hslice
  · rw [Bool.and_eq_true, decide_eq_true_eq]
    exact ⟨isPrefixOf_append [leftBrace] _, hbrace⟩

/-- `wrapped` is `bare` inside any number of wrappers, braces only around a text that is
    enclosed as they count once repaired. -/
inductive Wrapped (bare : PyStr) : PyStr → Prop where
  | bare : Wrapped bare bare
  | pair {pair : PyStr × PyStr} {inner : PyStr} (hpair : pair ∈ markupPairs)
      (h : Wrapped bare inner) : Wrapped bare (pair.1 ++ inner ++ pair.2)
  | braces {inner : PyStr} (henclosed : Enclosed (repair inner)) (h : Wrapped bare inner) :
      Wrapped bare (leftBrace :: (inner ++ [rightBrace]))

/-- The text left is free of surrounding space, and made of characters of the text. -/
theorem StripsTo.stripped {value left : PyStr} (h : StripsTo (strip value) left) :
    strip left = left ∧ left ⊆ value := by
  have hsteps := h.steps
  clear h
  induction hsteps with
  | refl => exact ⟨strip_strip value, strip_subset value⟩
  | tail _ hstep ih =>
    rcases hstep with hpair | ⟨_, hbraces⟩
    · obtain ⟨pair, _, _, _, rfl⟩ := stripPair_eq_some hpair
      exact ⟨strip_strip _, fun c hc =>
        ih.2 (slice_subset _ _ _ (strip_subset _ hc))⟩
    · obtain ⟨_, _, rfl⟩ := stripBraces_eq_some hbraces
      exact ⟨strip_strip _, fun c hc =>
        ih.2 (slice_subset _ _ _ (strip_subset _ hc))⟩

/-- Stripping twice strips no more. -/
theorem stripSurroundingMarkup_idem (text : PyStr) :
    stripSurroundingMarkup (stripSurroundingMarkup text) = stripSurroundingMarkup text := by
  have hstrips := stripSurroundingMarkup_stripsTo text
  obtain ⟨hstripped, hsubset⟩ := hstrips.stripped
  rw [stripSurroundingMarkup_eq_iff, repair_of_subset hsubset, hstripped]
  exact ⟨.refl, hstrips.bare⟩

theorem markupPairs_ends : ∀ pair ∈ markupPairs,
    (∀ c ∈ pair.1.head?, isSpace c = false) ∧ (∀ c ∈ pair.2.getLast?, isSpace c = false) ∧
      pair.1.getLast? ≠ some '\r' ∧ pair.2.head? ≠ some '\n' ∧ repair pair.1 = pair.1 ∧
      repair pair.2 = pair.2 := by
  decide

/-- Wrappers that repair and stripping leave in place. -/
theorem strip_repair_between {left inner right : PyStr}
    (hhead : ∀ c ∈ left.head?, isSpace c = false) (hlast : ∀ c ∈ right.getLast?, isSpace c = false)
    (hleft : left.getLast? ≠ some '\r') (hright : right.head? ≠ some '\n')
    (hne : left ≠ [] ∧ right ≠ []) (hrepairLeft : repair left = left)
    (hrepairRight : repair right = right) :
    strip (repair (left ++ inner ++ right)) = left ++ repair inner ++ right := by
  have hrepair : repair (left ++ inner ++ right) = left ++ repair inner ++ right := by
    rw [repair_append (fun h => hright h.2), repair_append (fun h => hleft h.1), hrepairLeft,
      hrepairRight]
  rw [hrepair]
  apply strip_of_ends
  · rw [List.append_assoc, List.head?_append_of_ne_nil _ hne.1]
    exact hhead
  · rw [List.getLast?_append_of_ne_nil _ hne.2]
    exact hlast

theorem Wrapped.strip_eq {bare wrapped : PyStr} (h : Wrapped bare wrapped) :
    stripSurroundingMarkup wrapped = stripSurroundingMarkup bare := by
  induction h with
  | bare => rfl
  | @pair pair inner hpair _ ih =>
    obtain ⟨hhead, hlast, hleft, hright, hrepairLeft, hrepairRight⟩ := markupPairs_ends pair hpair
    have hpositive := markupPairs_pos pair hpair
    rw [← ih, stripSurroundingMarkup_eq_iff, strip_repair_between hhead hlast hleft hright
      ⟨List.ne_nil_of_length_pos hpositive.1, List.ne_nil_of_length_pos hpositive.2⟩
      hrepairLeft hrepairRight, stripsTo_pair hpair]
    exact stripSurroundingMarkup_stripsTo inner
  | @braces inner henclosed _ ih =>
    have hbetween : strip (repair ([leftBrace] ++ inner ++ [rightBrace])) =
        [leftBrace] ++ repair inner ++ [rightBrace] :=
      strip_repair_between (by decide) (by decide) (by decide) (by decide) (by decide)
        (by decide) (by decide)
    rw [← ih, stripSurroundingMarkup_eq_iff,
      show leftBrace :: (inner ++ [rightBrace]) = [leftBrace] ++ inner ++ [rightBrace] from rfl,
      hbetween]
    exact (stripsTo_braces henclosed).mpr (stripSurroundingMarkup_stripsTo inner)

/-! ### Style commands -/

/-- `\\(?:text|textrm|...|mbox)\s*\{` -/
def styleCommandRe : Regex Char Empty :=
  .sequence [Pattern.char '\\',
    .choice (["text", "textrm", "textnormal", "mathrm", "mathbf", "mathit", "mathsf", "mathtt",
      "textbf", "operatorname", "mbox"].map Pattern.literal),
    .star Pattern.space, Pattern.char leftBrace]

/-- The loop of `_replace_style_commands`, for at most `rounds` rounds. -/
def replaceStyleFrom : Nat → PyStr → PyStr
  | 0, value => value
  | rounds + 1, value =>
      match styleCommandRe.search value 0 with
      | none => value
      | some found =>
          let opening := found.stop - 1
          match matchingBrace value opening with
          | none => value
          | some closing =>
              replaceStyleFrom rounds (value.take found.start ++
                slice value (opening + 1) closing ++ value.drop (closing + 1))

/-- `_replace_style_commands`.  Every command removed shortens the text. -/
def replaceStyleCommands (text : PyStr) : PyStr := replaceStyleFrom (text.length + 1) text

theorem search_styleCommandRe {value : PyStr} {found : Regex.Match Char Empty}
    (h : styleCommandRe.search value 0 = some found) :
    found.start < found.stop ∧ found.stop ≤ value.length := by
  obtain ⟨_, hmatch, _⟩ := Regex.search_eq_some h
  refine ⟨?_, hmatch.bounds.2⟩
  obtain ⟨before, inside, after, _, hstart, hstop, hinside⟩ := hmatch
  unfold styleCommandRe Regex.sequence Pattern.char at hinside
  obtain ⟨slash, rest, rfl, hslash, _⟩ := Regex.matches_seq.mp hinside
  obtain ⟨c, rfl, _⟩ := Regex.matches_one.mp hslash
  rw [hstart, hstop]
  simp only [List.length_append, List.length_singleton]
  omega

/-- The loop ends within its rounds, with no closed style command left to remove first. -/
theorem replaceStyleCommands_done (text : PyStr) :
    ∀ found, styleCommandRe.search (replaceStyleCommands text) 0 = some found →
      matchingBrace (replaceStyleCommands text) (found.stop - 1) = none := by
  have hrounds : ∀ (rounds : Nat) (value : PyStr), value.length < rounds →
      ∀ found, styleCommandRe.search (replaceStyleFrom rounds value) 0 = some found →
        matchingBrace (replaceStyleFrom rounds value) (found.stop - 1) = none := by
    intro rounds
    induction rounds with
    | zero => exact fun value h => absurd h (Nat.not_lt_zero _)
    | succ rounds ih =>
      intro value hlength
      unfold replaceStyleFrom
      cases hsearch : styleCommandRe.search value 0 with
      | none =>
        intro found hfound
        dsimp only at hfound
        rw [hsearch] at hfound
        cases hfound
      | some command =>
        dsimp only
        cases hbrace : matchingBrace value (command.stop - 1) with
        | none =>
          intro found hfound
          dsimp only at hfound ⊢
          rw [hsearch] at hfound
          obtain rfl := Option.some.inj hfound
          exact hbrace
        | some closing =>
          dsimp only
          apply ih
          -- the command and its braces are gone
          obtain ⟨hstart, hstop⟩ := search_styleCommandRe hsearch
          obtain ⟨hopening, hclosing⟩ := matchingBrace_bounds hbrace
          have hslice := slice_length_le value (command.stop - 1 + 1) closing
          simp only [List.length_append, List.length_take, List.length_drop]
          omega
  exact hrounds _ text (Nat.lt_succ_self _)

end R2opl
