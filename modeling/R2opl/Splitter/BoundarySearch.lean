import R2opl.Patterns
import R2opl.Splitter.RolloutSteps

/-!
# The boundary searches against an exhaustive scan

`_find_original_token_boundary` and `find_tail_split_token_end` (`utils/r2opl_v2.py`)
look for a token end by a binary search on the length of the decoded prefix, then in
windows around what it found.  When the length never decreases, both find what a scan of
every token end would.
-/

namespace R2opl

open Checked

/-! ### The last sentence delimiter -/

/-- `(?:\n+|[.!?。！？；;])(?=\s|$)` -/
def delimiterRe : Regex Char Empty :=
  .seq (.alt (.plus (Pattern.char '\n')) (Pattern.oneOf ".!?。！？；;"))
    (.ahead (.alt Pattern.space Pattern.dollar))

/-- `find_tail_split_token_end` -/
def findTailSplitTokenEnd (tokenizer : Tokenizer) (responseIds : List Int) : Option Nat :=
  if responseIds = [] then none
  else
    let responseText := tokenizer.decode responseIds true
    if responseText = [] then none
    else
      match (delimiterRe.finditer responseText 0).getLast? with
      | none => none
      | some found =>
          let charEnd := found.stop
          let low := searchPrefix tokenizer responseIds true charEnd 0 responseIds.length
          let validTokenEnd := fun tokenEnd =>
            let decoded := decodePrefix tokenizer responseIds true tokenEnd
            decide (charEnd ≤ decoded.length) && decoded.isPrefixOf responseText
          let start := low - 8
          let stop := min responseIds.length (low + 8)
          match (List.range' start (stop + 1 - start)).find? validTokenEnd with
          | some tokenEnd => some tokenEnd
          | none => (List.range (responseIds.length + 1)).find? validTokenEnd

/-- A delimiter of `text` ends at position `stop`: a line feed or a sentence mark, with
    a space or nothing after it. -/
def IsDelimiterEnd (text : PyStr) (stop : Nat) : Prop :=
  ∃ before c after, text = before ++ c :: after ∧ stop = before.length + 1 ∧
    c ∈ "\n.!?。！？；;".toList ∧ ∀ next ∈ after.head?, isSpace next = true

/-- The last delimiter of `text` ends at `stop`. -/
def LastDelimiterEnd (text : PyStr) (stop : Nat) : Prop :=
  IsDelimiterEnd text stop ∧ ∀ other, IsDelimiterEnd text other → other ≤ stop

/-- What follows a delimiter is a space or nothing. -/
theorem matches_spaceOrEnd {before inside after : PyStr} :
    (Regex.ahead (.alt Pattern.space Pattern.dollar) : Regex Char Empty).Matches before inside
        after ↔
      inside = [] ∧ ∀ next ∈ after.head?, isSpace next = true := by
  cases after with
  | nil =>
    simp [Pattern.space, Pattern.dollar, Pattern.char, Regex.textEnd]
  | cons next after =>
    simp only [Regex.matches_ahead, Regex.matches_alt, Pattern.space, Regex.matches_one,
      Pattern.dollar, Pattern.char, Regex.textEnd, Regex.matches_seq, Regex.matches_look]
    constructor
    · rintro ⟨rfl, seen, rest, hafter, hspace | hend⟩
      · obtain ⟨c, rfl, hc⟩ := hspace
        obtain ⟨rfl, _⟩ := List.cons.inj hafter
        exact ⟨rfl, by simpa using hc⟩
      · obtain ⟨rfl, seen, rest, rfl, hend⟩ := hend
        rcases hend with ⟨rfl, hend⟩ | ⟨left, right, rfl, ⟨c, rfl, hc⟩, _⟩
        · rw [List.nil_append, List.nil_append] at hafter
          rw [← hafter] at hend
          cases hend
        · obtain ⟨rfl, _⟩ := List.cons.inj hafter
          have hspace : isSpace '\n' = true := by decide
          rw [of_decide_eq_true hc]
          exact ⟨rfl, by simpa using hspace⟩
    · rintro ⟨rfl, hnext⟩
      exact ⟨rfl, [next], after, rfl, Or.inl ⟨next, rfl, hnext next rfl⟩⟩

theorem matches_delimiterRe {before inside after : PyStr} :
    delimiterRe.Matches before inside after ↔
      ((inside ≠ [] ∧ ∀ c ∈ inside, c = '\n') ∨ ∃ c ∈ ".!?。！？；;".toList, inside = [c]) ∧
        ∀ next ∈ after.head?, isSpace next = true := by
  unfold delimiterRe
  rw [Regex.matches_seq]
  constructor
  · rintro ⟨left, right, rfl, hdelimiter, hend⟩
    obtain ⟨rfl, hnext⟩ := matches_spaceOrEnd.mp hend
    refine ⟨?_, hnext⟩
    rw [List.append_nil]
    rcases Regex.matches_alt.mp hdelimiter with hfeeds | hmark
    · unfold Regex.plus Pattern.char at hfeeds
      obtain ⟨first, others, rfl, hfirst, hothers⟩ := Regex.matches_seq.mp hfeeds
      obtain ⟨c, rfl, hc⟩ := Regex.matches_one.mp hfirst
      rw [Regex.matches_star_one] at hothers
      refine Or.inl ⟨List.cons_ne_nil c others, ?_⟩
      intro d hd
      rcases List.mem_cons.mp hd with rfl | hmem
      · exact of_decide_eq_true hc
      · exact of_decide_eq_true (hothers d hmem)
    · obtain ⟨c, rfl, hc⟩ := Regex.matches_one.mp hmark
      exact Or.inr ⟨c, List.contains_iff_mem.mp hc, rfl⟩
  · rintro ⟨hdelimiter, hnext⟩
    refine ⟨inside, [], (List.append_nil inside).symm, ?_, matches_spaceOrEnd.mpr ⟨rfl, hnext⟩⟩
    rw [Regex.matches_alt]
    rcases hdelimiter with ⟨hne, hfeeds⟩ | ⟨c, hc, rfl⟩
    · obtain ⟨c, others, rfl⟩ := List.exists_cons_of_ne_nil hne
      apply Or.inl
      unfold Regex.plus Pattern.char
      refine Regex.matches_seq.mpr ⟨[c], others, rfl, ?_, ?_⟩
      · exact Regex.matches_one.mpr ⟨c, rfl, decide_eq_true (hfeeds c List.mem_cons_self)⟩
      · rw [Regex.matches_star_one]
        exact fun d hd => decide_eq_true (hfeeds d (List.mem_cons_of_mem c hd))
    · exact Or.inr (Regex.matches_one.mpr ⟨c, rfl, List.contains_iff_mem.mpr hc⟩)

/-- A match of the pattern ends a delimiter. -/
theorem isDelimiterEnd_of_matchesAt {text : PyStr} {start stop : Nat}
    (h : delimiterRe.MatchesAt text start stop) : IsDelimiterEnd text stop ∧ start < stop := by
  obtain ⟨before, inside, after, rfl, rfl, rfl, hmatch⟩ := h
  obtain ⟨hdelimiter, hnext⟩ := matches_delimiterRe.mp hmatch
  obtain ⟨init, c, rfl, hc⟩ : ∃ init c, inside = init ++ [c] ∧ c ∈ "\n.!?。！？；;".toList := by
    rcases hdelimiter with ⟨hne, hfeeds⟩ | ⟨c, hc, rfl⟩
    · refine ⟨inside.dropLast, inside.getLast hne, (List.dropLast_append_getLast hne).symm, ?_⟩
      rw [hfeeds _ (List.getLast_mem hne)]
      decide
    · exact ⟨[], c, rfl, List.mem_cons_of_mem _ hc⟩
  refine ⟨⟨before ++ init, c, after, ?_, ?_, hc, hnext⟩, ?_⟩
  · simp only [List.append_assoc, List.cons_append, List.nil_append]
  · simp only [List.length_append, List.length_singleton]
    exact (Nat.add_assoc _ _ _).symm
  · rw [List.length_append, List.length_singleton]
    omega

/-- The last character of a delimiter is matched. -/
theorem matchesAt_of_isDelimiterEnd {text : PyStr} {stop : Nat} (h : IsDelimiterEnd text stop) :
    0 < stop ∧ delimiterRe.MatchesAt text (stop - 1) stop := by
  obtain ⟨before, c, after, rfl, rfl, hc, hnext⟩ := h
  refine ⟨Nat.succ_pos _, before, [c], after, ?_, rfl, rfl, ?_⟩
  · rw [List.append_assoc, List.singleton_append]
  · refine matches_delimiterRe.mpr ⟨?_, hnext⟩
    rcases List.mem_cons.mp hc with rfl | hmark
    · exact Or.inl ⟨List.cons_ne_nil _ _, fun d hd => List.mem_singleton.mp hd⟩
    · exact Or.inr ⟨c, hmark, rfl⟩

theorem delimiterRe_finditer_eq_nil {text : PyStr} :
    delimiterRe.finditer text 0 = [] ↔ ∀ stop, ¬ IsDelimiterEnd text stop := by
  rw [Regex.finditer_eq_nil]
  constructor
  · intro h stop hstop
    exact h _ _ (Nat.zero_le _) (matchesAt_of_isDelimiterEnd hstop).2
  · intro h position stop _ hmatch
    exact h _ (isDelimiterEnd_of_matchesAt hmatch).1

/-- The last match of the pattern ends the last delimiter. -/
theorem lastDelimiterEnd_of_getLast? {text : PyStr} {found : Regex.Match Char Empty}
    (h : (delimiterRe.finditer text 0).getLast? = some found) :
    LastDelimiterEnd text found.stop := by
  have hmem := List.mem_of_getLast? h
  obtain ⟨hend, hlt⟩ := isDelimiterEnd_of_matchesAt (Regex.matchesAt_of_mem_finditer hmem)
  refine ⟨hend, ?_⟩
  intro other hother
  obtain ⟨hpositive, hmatch⟩ := matchesAt_of_isDelimiterEnd hother
  obtain ⟨covering, hover, _, hinside⟩ := Regex.exists_finditer_over (Nat.zero_le _) hmatch
  obtain ⟨hoverEnd, hoverLt⟩ :=
    isDelimiterEnd_of_matchesAt (Regex.matchesAt_of_mem_finditer hover)
  have hpast : covering.next = covering.stop := Nat.max_eq_left hoverLt
  -- every reported match stops no later than the last one
  have hlast : covering.stop ≤ found.stop := by
    obtain ⟨init, hinit⟩ := List.getLast?_eq_some_iff.mp h
    have hsorted := Regex.finditer_pairwise delimiterRe text 0
    rw [hinit] at hsorted hover
    rcases List.mem_append.mp hover with hearlier | hlast
    · have hle := (List.pairwise_append.mp hsorted).2.2 covering hearlier found List.mem_cons_self
      omega
    · exact Nat.le_of_eq (congrArg Regex.Match.stop (List.mem_singleton.mp hlast))
  omega

/-! ### The binary search -/

section Search

variable {tokenizer : Tokenizer} {tokenIds : List Int} {skipSpecialTokens : Bool}

/-- A longer prefix of the ids decodes to no shorter text. -/
def LengthMonotone (tokenizer : Tokenizer) (tokenIds : List Int) (skipSpecialTokens : Bool) :
    Prop :=
  ∀ shorter longer, shorter ≤ longer → longer ≤ tokenIds.length →
    (decodePrefix tokenizer tokenIds skipSpecialTokens shorter).length ≤
      (decodePrefix tokenizer tokenIds skipSpecialTokens longer).length

/-- Every token end below the result is too short. -/
theorem searchPrefix_spec (hmono : LengthMonotone tokenizer tokenIds skipSpecialTokens)
    (requiredChars low high : Nat) (hle : low ≤ high) (hhigh : high ≤ tokenIds.length) :
    let found := searchPrefix tokenizer tokenIds skipSpecialTokens requiredChars low high
    low ≤ found ∧ found ≤ high ∧ ∀ tokenEnd, low ≤ tokenEnd → tokenEnd < found →
      (decodePrefix tokenizer tokenIds skipSpecialTokens tokenEnd).length < requiredChars := by
  induction low, high using searchPrefix.induct tokenizer tokenIds skipSpecialTokens
    requiredChars with
  | case1 low high hlt middle hshort ih =>
    have hmiddle : low ≤ middle ∧ middle < high := by
      simp only [middle]
      omega
    obtain ⟨hfrom, hto, hbelow⟩ := ih (by omega) hhigh
    rw [searchPrefix, if_pos hlt]
    dsimp only
    rw [if_pos hshort]
    change low ≤ searchPrefix tokenizer tokenIds skipSpecialTokens requiredChars (middle + 1)
      high ∧ _
    refine ⟨by omega, hto, ?_⟩
    intro tokenEnd hlow hfound
    by_cases hpast : middle + 1 ≤ tokenEnd
    · exact hbelow tokenEnd hpast hfound
    · exact Nat.lt_of_le_of_lt (hmono tokenEnd middle (by omega) (by omega)) hshort
  | case2 low high hlt middle hlong ih =>
    have hmiddle : low ≤ middle ∧ middle < high := by
      simp only [middle]
      omega
    obtain ⟨hfrom, hto, hbelow⟩ := ih hmiddle.1 (by omega)
    rw [searchPrefix, if_pos hlt]
    dsimp only
    rw [if_neg hlong]
    exact ⟨hfrom, Nat.le_trans hto (Nat.le_of_lt hmiddle.2), hbelow⟩
  | case3 low high hge =>
    rw [searchPrefix, if_neg hge]
    exact ⟨Nat.le_refl _, hle, fun tokenEnd hlow hlt => absurd hlow (Nat.not_le.mpr hlt)⟩

/-- A valid boundary whose token end is least. -/
def IsLeastBoundary (tokenizer : Tokenizer) (tokenIds : List Int) (skipSpecialTokens : Bool)
    (decodedText : PyStr) (requiredChars minimumTokenEnd : Nat) (boundary : Nat × Nat) : Prop :=
  IsBoundary tokenizer tokenIds skipSpecialTokens decodedText requiredChars minimumTokenEnd
      boundary ∧
    ∀ other, IsBoundary tokenizer tokenIds skipSpecialTokens decodedText requiredChars
      minimumTokenEnd other → boundary.1 ≤ other.1

variable {decodedText : PyStr} {requiredChars minimumTokenEnd : Nat}

theorem IsLeastBoundary.unique {left right : Nat × Nat}
    (hleft : IsLeastBoundary tokenizer tokenIds skipSpecialTokens decodedText requiredChars
      minimumTokenEnd left)
    (hright : IsLeastBoundary tokenizer tokenIds skipSpecialTokens decodedText requiredChars
      minimumTokenEnd right) : left = right := by
  have htoken : left.1 = right.1 :=
    Nat.le_antisymm (hleft.2 right hright.1) (hright.2 left hleft.1)
  have hchar : left.2 = right.2 := by
    rw [hleft.1.charEnd_eq, hright.1.charEnd_eq, htoken]
  exact Prod.ext htoken hchar

/-- Nothing below the result of the binary search is a boundary. -/
theorem searchPrefix_le_boundary (hmono : LengthMonotone tokenizer tokenIds skipSpecialTokens)
    (hminimum : minimumTokenEnd ≤ tokenIds.length) {boundary : Nat × Nat}
    (h : IsBoundary tokenizer tokenIds skipSpecialTokens decodedText requiredChars
      minimumTokenEnd boundary) :
    searchPrefix tokenizer tokenIds skipSpecialTokens requiredChars minimumTokenEnd
      tokenIds.length ≤ boundary.1 := by
  obtain ⟨_, _, hbelow⟩ :=
    searchPrefix_spec hmono requiredChars minimumTokenEnd tokenIds.length hminimum (Nat.le_refl _)
  by_contra hlt
  have hshort := hbelow boundary.1 h.minimum_le (Nat.lt_of_not_le hlt)
  have hcovers := h.covers
  rw [h.charEnd_eq] at hcovers
  omega

theorem shorterBoundary_total (left right : Nat × Nat) :
    shorterBoundary left right = true ∨ left = right ∨ shorterBoundary right left = true := by
  simp only [shorterBoundary, decide_eq_true_eq, Prod.ext_iff]
  omega

theorem shorterBoundary_trans {first second third : Nat × Nat}
    (hleft : shorterBoundary first second = true) (hright : shorterBoundary second third = true) :
    shorterBoundary first third = true := by
  simp only [shorterBoundary, decide_eq_true_eq] at hleft hright ⊢
  omega

/-- No item comes before the least one. -/
theorem leastBoundary_le (first : Nat × Nat) (rest : List (Nat × Nat)) :
    ∀ item ∈ first :: rest, shorterBoundary item (leastBoundary first rest) = false := by
  have hirrefl : ∀ item, shorterBoundary item item = false := by
    intro item
    simp [shorterBoundary]
  induction rest generalizing first with
  | nil =>
    intro item hitem
    rw [List.mem_singleton.mp hitem]
    exact hirrefl first
  | cons next rest ih =>
    intro item hitem
    have hfold : leastBoundary first (next :: rest) =
        leastBoundary (if shorterBoundary next first then next else first) rest := rfl
    rw [hfold]
    have hbest := ih (if shorterBoundary next first then next else first)
    -- an item dropped here does not come before the one kept
    have hkept : ∀ dropped,
        shorterBoundary (if shorterBoundary next first then next else first) dropped = true ∨
          (if shorterBoundary next first then next else first) = dropped →
        shorterBoundary dropped
          (leastBoundary (if shorterBoundary next first then next else first) rest) = false := by
      intro dropped hcases
      rcases hcases with hbefore | rfl
      · by_contra htrue
        rw [Bool.not_eq_false] at htrue
        have habove := shorterBoundary_trans hbefore htrue
        rw [hbest _ List.mem_cons_self] at habove
        cases habove
      · exact hbest _ List.mem_cons_self
    rcases List.mem_cons.mp hitem with rfl | htail
    · apply hkept
      by_cases hshorter : shorterBoundary next item = true
      · rw [if_pos hshorter]
        exact Or.inl hshorter
      · rw [if_neg hshorter]
        exact Or.inr rfl
    · rcases List.mem_cons.mp htail with rfl | hrest
      · apply hkept
        by_cases hshorter : shorterBoundary item first = true
        · rw [if_pos hshorter]
          exact Or.inr rfl
        · rw [if_neg hshorter]
          rcases shorterBoundary_total item first with h | h | h
          · exact absurd h hshorter
          · exact Or.inr h.symm
          · exact Or.inl h
      · exact hbest item (List.mem_cons_of_mem _ hrest)

/-- A window from below every boundary offers the least one first. -/
theorem isLeastBoundary_of_window
    (hmono : LengthMonotone tokenizer tokenIds skipSpecialTokens) {start stop : Nat}
    (hstart : ∀ boundary, IsBoundary tokenizer tokenIds skipSpecialTokens decodedText
      requiredChars minimumTokenEnd boundary → start ≤ boundary.1)
    {first : Nat × Nat} {rest : List (Nat × Nat)}
    (h : candidateBoundaries tokenizer tokenIds skipSpecialTokens decodedText requiredChars
      minimumTokenEnd start stop = first :: rest) :
    IsLeastBoundary tokenizer tokenIds skipSpecialTokens decodedText requiredChars
      minimumTokenEnd (leastBoundary first rest) := by
  have hmem := leastBoundary_mem first rest
  rw [← h] at hmem
  obtain ⟨_, hstop, hboundary⟩ := mem_candidateBoundaries.mp hmem
  refine ⟨hboundary, ?_⟩
  intro other hother
  by_cases hinside : other.1 ≤ stop
  · have hotherMem : other ∈ first :: rest := by
      rw [← h]
      exact mem_candidateBoundaries.mpr ⟨hstart other hother, hinside, hother⟩
    have hnotShorter := leastBoundary_le first rest other hotherMem
    by_contra hlt
    have hlength := hmono other.1 (leastBoundary first rest).1 (by omega) hboundary.le_length
    rw [← hother.charEnd_eq, ← hboundary.charEnd_eq] at hlength
    simp only [shorterBoundary, decide_eq_false_iff_not] at hnotShorter
    omega
  · omega

/-- The last window holds every boundary. -/
theorem find_of_isBoundary {charTarget minimumCharEnd : Nat} {boundary : Nat × Nat}
    (h : IsBoundary tokenizer tokenIds skipSpecialTokens decodedText
      (max charTarget minimumCharEnd) minimumTokenEnd boundary) :
    ∃ found, findOriginalTokenBoundary tokenizer tokenIds skipSpecialTokens decodedText
      charTarget minimumTokenEnd minimumCharEnd = .ok found := by
  simp only [findOriginalTokenBoundary]
  split
  · next hnone =>
    have hmem := mem_candidateBoundaries.mpr ⟨h.minimum_le, h.le_length, h⟩
    rw [whole_eq_nil_of_firstFound hnone] at hmem
    exact absurd hmem List.not_mem_nil
  · next first rest _ => exact ⟨leastBoundary first rest, rfl⟩

/-- `_find_original_token_boundary` is the exhaustive scan. -/
theorem find_eq_ok_iff (hmono : LengthMonotone tokenizer tokenIds skipSpecialTokens)
    {charTarget minimumCharEnd : Nat} (hminimum : minimumTokenEnd ≤ tokenIds.length)
    {boundary : Nat × Nat} :
    findOriginalTokenBoundary tokenizer tokenIds skipSpecialTokens decodedText charTarget
        minimumTokenEnd minimumCharEnd = .ok boundary ↔
      IsLeastBoundary tokenizer tokenIds skipSpecialTokens decodedText
        (max charTarget minimumCharEnd) minimumTokenEnd boundary := by
  have hfound : ∀ boundary, findOriginalTokenBoundary tokenizer tokenIds skipSpecialTokens
      decodedText charTarget minimumTokenEnd minimumCharEnd = .ok boundary →
      IsLeastBoundary tokenizer tokenIds skipSpecialTokens decodedText
        (max charTarget minimumCharEnd) minimumTokenEnd boundary := by
    intro boundary h
    have hbelow := fun boundary (hboundary : IsBoundary tokenizer tokenIds skipSpecialTokens
      decodedText (max charTarget minimumCharEnd) minimumTokenEnd boundary) =>
        searchPrefix_le_boundary hmono hminimum hboundary
    simp only [findOriginalTokenBoundary] at h
    split at h
    · cases h
    · next first rest hfirst =>
      obtain rfl := Except.ok.inj h
      rw [firstFound] at hfirst
      split at hfirst
      · exact isLeastBoundary_of_window hmono
          (fun other hother => Nat.le_trans (Nat.sub_le _ _) (hbelow other hother)) hfirst
      · split at hfirst
        · exact isLeastBoundary_of_window hmono
            (fun other hother => Nat.le_trans (Nat.sub_le _ _) (hbelow other hother)) hfirst
        · exact isLeastBoundary_of_window hmono (fun other hother => hother.minimum_le) hfirst
  constructor
  · exact hfound boundary
  · intro h
    cases hresult : findOriginalTokenBoundary tokenizer tokenIds skipSpecialTokens decodedText
        charTarget minimumTokenEnd minimumCharEnd with
    | ok other => rw [(hfound other hresult).unique h]
    | error e =>
      obtain ⟨other, hother⟩ := find_of_isBoundary h.1
      rw [hother] at hresult
      cases hresult

/-- It raises exactly when there is no boundary. -/
theorem find_eq_error_iff {charTarget minimumCharEnd : Nat} :
    (∃ error, findOriginalTokenBoundary tokenizer tokenIds skipSpecialTokens decodedText
        charTarget minimumTokenEnd minimumCharEnd = .error error) ↔
      ∀ boundary, ¬ IsBoundary tokenizer tokenIds skipSpecialTokens decodedText
        (max charTarget minimumCharEnd) minimumTokenEnd boundary := by
  constructor
  · rintro ⟨error, herror⟩ boundary hboundary
    obtain ⟨other, hother⟩ := find_of_isBoundary hboundary
    rw [hother] at herror
    cases herror
  · intro hnone
    cases hresult : findOriginalTokenBoundary tokenizer tokenIds skipSpecialTokens decodedText
        charTarget minimumTokenEnd minimumCharEnd with
    | error e => exact ⟨e, rfl⟩
    | ok boundary => exact absurd (isBoundary_of_find hresult) (hnone boundary)

end Search

/-! ### The tail split -/

section TailSplit

variable {tokenizer : Tokenizer} {responseIds : List Int}

/-- The response as its prefix of all ids decodes, the empty text without any. -/
def responseText (tokenizer : Tokenizer) (responseIds : List Int) : PyStr :=
  decodePrefix tokenizer responseIds true responseIds.length

theorem responseText_of_ne_nil (hne : responseIds ≠ []) :
    responseText tokenizer responseIds = tokenizer.decode responseIds true := by
  unfold responseText decodePrefix
  rw [if_neg (fun h => hne (List.length_eq_zero_iff.mp h)), List.take_length]

theorem IsDelimiterEnd.le_length {text : PyStr} {stop : Nat} (h : IsDelimiterEnd text stop) :
    stop ≤ text.length := by
  obtain ⟨before, c, after, rfl, rfl, _⟩ := h
  simp only [List.length_append, List.length_cons]
  omega

/-- A scan of the token ends from below every boundary returns the least one. -/
theorem isLeastBoundary_of_scan {text : PyStr} {charEnd start stop tokenEnd : Nat}
    (hstart : ∀ boundary, IsBoundary tokenizer responseIds true text charEnd 0 boundary →
      start ≤ boundary.1)
    (hstop : stop ≤ responseIds.length)
    (h : (List.range' start (stop + 1 - start)).find? (fun tokenEnd =>
      decide (charEnd ≤ (decodePrefix tokenizer responseIds true tokenEnd).length) &&
        (decodePrefix tokenizer responseIds true tokenEnd).isPrefixOf text) = some tokenEnd) :
    IsLeastBoundary tokenizer responseIds true text charEnd 0
      (tokenEnd, (decodePrefix tokenizer responseIds true tokenEnd).length) := by
  have hvalid := List.find?_some h
  rw [Bool.and_eq_true, decide_eq_true_eq, List.isPrefixOf_iff_prefix] at hvalid
  have hrange := List.mem_range'_1.mp (List.mem_of_find?_eq_some h)
  refine ⟨⟨Nat.zero_le _, by dsimp only; omega, rfl, hvalid.1, hvalid.2⟩, ?_⟩
  intro other hother
  by_contra hlt
  have hearlier : other.1 ∈ List.range' start (stop + 1 - start) :=
    List.mem_range'_1.mpr ⟨hstart other hother, by dsimp only at hlt; omega⟩
  obtain ⟨_, before, after, hsplit, hbefore⟩ := List.find?_eq_some_iff_append.mp h
  have hsorted : (List.range' start (stop + 1 - start)).Pairwise (· < ·) :=
    List.pairwise_lt_range'
  rw [hsplit] at hsorted hearlier
  rcases List.mem_append.mp hearlier with hmem | hmem
  · have hinvalid := hbefore other.1 hmem
    have hcovers := hother.covers
    rw [hother.charEnd_eq] at hcovers
    rw [decide_eq_true hcovers, List.isPrefixOf_iff_prefix.mpr hother.isPrefix] at hinvalid
    cases hinvalid
  · rcases List.mem_cons.mp hmem with hsame | hafter
    · exact hlt (Nat.le_of_eq hsame.symm)
    · have hpast := (List.pairwise_cons.mp (List.pairwise_append.mp hsorted).2.1).1 _ hafter
      exact hlt (Nat.le_of_lt hpast)

/-- The tail split is what a scan of all token ends finds at the last delimiter. -/
theorem findTailSplitTokenEnd_cases (hmono : LengthMonotone tokenizer responseIds true) :
    (∀ tokenEnd, findTailSplitTokenEnd tokenizer responseIds = some tokenEnd →
      ∃ charEnd, LastDelimiterEnd (responseText tokenizer responseIds) charEnd ∧
        IsLeastBoundary tokenizer responseIds true (responseText tokenizer responseIds) charEnd 0
          (tokenEnd, (decodePrefix tokenizer responseIds true tokenEnd).length)) ∧
      (findTailSplitTokenEnd tokenizer responseIds = none →
        ∀ stop, ¬ IsDelimiterEnd (responseText tokenizer responseIds) stop) := by
  have hnoText : responseText tokenizer responseIds = [] →
      ∀ stop, ¬ IsDelimiterEnd (responseText tokenizer responseIds) stop := by
    rintro htext stop ⟨before, c, after, hsplit, _⟩
    rw [htext] at hsplit
    exact List.append_ne_nil_of_right_ne_nil _ (List.cons_ne_nil c after) hsplit.symm
  unfold findTailSplitTokenEnd
  by_cases hids : responseIds = []
  · rw [if_pos hids]
    refine ⟨fun tokenEnd h => (nomatch h), fun _ => hnoText ?_⟩
    rw [responseText, hids]
    rfl
  · rw [if_neg hids, ← responseText_of_ne_nil hids]
    dsimp only
    by_cases htext : responseText tokenizer responseIds = []
    · rw [if_pos htext]
      exact ⟨fun tokenEnd h => (nomatch h), fun _ => hnoText htext⟩
    · rw [if_neg htext]
      cases hlast : (delimiterRe.finditer (responseText tokenizer responseIds) 0).getLast? with
      | none =>
        refine ⟨fun tokenEnd h => (nomatch h), fun _ => ?_⟩
        exact delimiterRe_finditer_eq_nil.mp (List.getLast?_eq_none_iff.mp hlast)
      | some found =>
        have hdelimiter := lastDelimiterEnd_of_getLast? hlast
        have hbelow := fun boundary (hboundary : IsBoundary tokenizer responseIds true
          (responseText tokenizer responseIds) found.stop 0 boundary) =>
            searchPrefix_le_boundary hmono (Nat.zero_le _) hboundary
        dsimp only
        cases hwindow : (List.range' _ _).find? fun tokenEnd =>
            decide (found.stop ≤ (decodePrefix tokenizer responseIds true tokenEnd).length) &&
              (decodePrefix tokenizer responseIds true tokenEnd).isPrefixOf
                (responseText tokenizer responseIds) with
        | some windowEnd =>
          refine ⟨?_, fun h => nomatch h⟩
          intro tokenEnd h
          obtain rfl := Option.some.inj h
          refine ⟨found.stop, hdelimiter, isLeastBoundary_of_scan ?_ (Nat.min_le_left _ _) hwindow⟩
          exact fun other hother => Nat.le_trans (Nat.sub_le _ _) (hbelow other hother)
        | none =>
          refine ⟨?_, ?_⟩
          · intro tokenEnd h
            refine ⟨found.stop, hdelimiter, ?_⟩
            rw [List.range_eq_range'] at h
            exact isLeastBoundary_of_scan (fun _ _ => Nat.zero_le _) (Nat.le_refl _) h
          · intro hnone
            -- the scan of all token ends meets the whole response
            have hinvalid := List.find?_eq_none.mp hnone responseIds.length
              (List.mem_range.mpr (Nat.lt_succ_self _))
            rw [← responseText, decide_eq_true hdelimiter.1.le_length,
              List.isPrefixOf_iff_prefix.mpr (List.prefix_refl _)] at hinvalid
            exact absurd rfl hinvalid

theorem LastDelimiterEnd.unique {text : PyStr} {left right : Nat}
    (hleft : LastDelimiterEnd text left) (hright : LastDelimiterEnd text right) : left = right :=
  Nat.le_antisymm (hright.2 left hleft.1) (hleft.2 right hright.1)

theorem findTailSplitTokenEnd_eq_some_iff (hmono : LengthMonotone tokenizer responseIds true)
    {tokenEnd : Nat} :
    findTailSplitTokenEnd tokenizer responseIds = some tokenEnd ↔
      ∃ charEnd, LastDelimiterEnd (responseText tokenizer responseIds) charEnd ∧
        IsLeastBoundary tokenizer responseIds true (responseText tokenizer responseIds) charEnd 0
          (tokenEnd, (decodePrefix tokenizer responseIds true tokenEnd).length) := by
  obtain ⟨hsome, hnone⟩ := findTailSplitTokenEnd_cases hmono
  constructor
  · exact hsome tokenEnd
  · rintro ⟨charEnd, hdelimiter, hleast⟩
    cases hresult : findTailSplitTokenEnd tokenizer responseIds with
    | none => exact absurd hdelimiter.1 (hnone hresult charEnd)
    | some other =>
      obtain ⟨otherEnd, hotherDelimiter, hotherLeast⟩ := hsome other hresult
      rw [hotherDelimiter.unique hdelimiter] at hotherLeast
      exact congrArg (fun boundary : Nat × Nat => some boundary.1) (hotherLeast.unique hleast)

end TailSplit

/-! ### Both searches -/

/-- When longer prefixes never decode to shorter text, the token boundary and the tail
    split are the least ones that a scan of all token ends would find, and a search
    finds nothing only when there is nothing. -/
theorem token_boundary_searches_exhaustive (tokenizer : Tokenizer) (tokenIds : List Int) :
    (∀ skipSpecialTokens, LengthMonotone tokenizer tokenIds skipSpecialTokens →
      ∀ decodedText charTarget minimumTokenEnd minimumCharEnd,
        minimumTokenEnd ≤ tokenIds.length →
        (∀ boundary,
          findOriginalTokenBoundary tokenizer tokenIds skipSpecialTokens decodedText charTarget
              minimumTokenEnd minimumCharEnd = .ok boundary ↔
            IsLeastBoundary tokenizer tokenIds skipSpecialTokens decodedText
              (max charTarget minimumCharEnd) minimumTokenEnd boundary) ∧
        ((∃ error,
          findOriginalTokenBoundary tokenizer tokenIds skipSpecialTokens decodedText charTarget
              minimumTokenEnd minimumCharEnd = .error error) ↔
            ∀ boundary, ¬ IsBoundary tokenizer tokenIds skipSpecialTokens decodedText
              (max charTarget minimumCharEnd) minimumTokenEnd boundary)) ∧
      (LengthMonotone tokenizer tokenIds true →
        (∀ tokenEnd, findTailSplitTokenEnd tokenizer tokenIds = some tokenEnd ↔
          ∃ charEnd, LastDelimiterEnd (responseText tokenizer tokenIds) charEnd ∧
            IsLeastBoundary tokenizer tokenIds true (responseText tokenizer tokenIds) charEnd 0
              (tokenEnd, (decodePrefix tokenizer tokenIds true tokenEnd).length)) ∧
        (findTailSplitTokenEnd tokenizer tokenIds = none →
          ∀ stop, ¬ IsDelimiterEnd (responseText tokenizer tokenIds) stop)) := by
  refine ⟨?_, ?_⟩
  · intro skipSpecialTokens hmono decodedText charTarget minimumTokenEnd minimumCharEnd hminimum
    exact ⟨fun boundary => find_eq_ok_iff hmono hminimum, find_eq_error_iff⟩
  · intro hmono
    exact ⟨fun tokenEnd => findTailSplitTokenEnd_eq_some_iff hmono,
      (findTailSplitTokenEnd_cases hmono).2⟩

/-- Every id is a code point, a negative one part of the character before it. -/
def codePointTokenizer : Tokenizer where
  decode := fun ids _ => ids.filterMap fun id => if id < 0 then none else some (Char.ofNat id.toNat)
  encode := fun text => (text.map fun c => (c.toNat : Int), none)

theorem codePointTokenizer_monotone (tokenIds : List Int) (skipSpecialTokens : Bool) :
    LengthMonotone codePointTokenizer tokenIds skipSpecialTokens := by
  intro shorter longer hle _
  have hpre : ∀ tokenEnd, decodePrefix codePointTokenizer tokenIds skipSpecialTokens tokenEnd =
      codePointTokenizer.decode (tokenIds.take tokenEnd) skipSpecialTokens := by
    intro tokenEnd
    unfold decodePrefix
    split
    · next hzero => rw [hzero]; rfl
    · rfl
  rw [hpre, hpre]
  exact ((List.take_sublist_take_left hle).filterMap _).length_le

/-- `A. B`, with a second id for its full stop. -/
def plateauIds : List Int := [65, 46, -1, 32, 66]

theorem token_boundary_searches_exhaustive_plateau :
    findOriginalTokenBoundary codePointTokenizer plateauIds true "A. B".toList 2 0 1 =
        .ok (2, 2) ∧
      findTailSplitTokenEnd codePointTokenizer plateauIds ≠ none := by
  obtain ⟨hfind, htail⟩ := token_boundary_searches_exhaustive codePointTokenizer plateauIds
  have hmono := codePointTokenizer_monotone plateauIds true
  refine ⟨?_, fun hnone => ?_⟩
  · apply ((hfind true hmono "A. B".toList 2 0 1 (Nat.zero_le _)).1 (2, 2)).mpr
    refine ⟨⟨by decide, by decide, by decide, by decide, by decide⟩, ?_⟩
    intro other hother
    have hcovers := hother.covers
    rw [hother.charEnd_eq] at hcovers
    by_contra hlt
    have hshort := hmono other.1 1 (Nat.le_of_lt_succ (Nat.lt_of_not_le hlt)) (by decide)
    have hone : (decodePrefix codePointTokenizer plateauIds true 1).length = 1 := by decide
    rw [hone] at hshort
    exact absurd (Nat.le_trans hcovers hshort) (by decide)
  · apply (htail hmono).2 hnone 2
    exact ⟨"A".toList, '.', " B".toList, by decide, by decide, by decide, by decide⟩

end R2opl
