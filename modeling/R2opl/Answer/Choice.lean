import R2opl.Answer.Markup
import Mathlib.Data.List.TakeWhile

/-!
# Option labels

`extract_choice_label` of `utils/answer_verifier.py` reads an option letter at the start of
a payload whose markup, list marks and answer phrase are removed.
-/

namespace R2opl

/-! ### The payload -/

/-- `re.sub(r"\s+", " ", text)`: the last character of a run becomes a space. -/
def collapseSpaces : PyStr → PyStr
  | [] => []
  | c :: rest =>
      if isSpace c then
        if rest.head?.any isSpace then collapseSpaces rest else ' ' :: collapseSpaces rest
      else c :: collapseSpaces rest

/-- `[\s#>*✅☑🎯]` -/
def isListMark (c : Char) : Bool := isSpace c || "#>*✅☑🎯".toList.contains c

/-- `^(?:(?:the\s+)?(?:final|correct)\s+)?(?:answer|choice|option)\s*(?:is\s*|[:=\-]\s*)?`
    under `re.IGNORECASE`. -/
def phraseRe : Regex Char Empty :=
  .sequence [Pattern.textStart,
    .optional (.sequence [
      .optional (.seq (Pattern.literalIgnoringCase "the") (.plus Pattern.space)),
      .choice (["final", "correct"].map Pattern.literalIgnoringCase), .plus Pattern.space]),
    .choice (["answer", "choice", "option"].map Pattern.literalIgnoringCase),
    .star Pattern.space,
    .optional (.alt (.seq (Pattern.literalIgnoringCase "is") (.star Pattern.space))
      (.seq (Pattern.oneOf ":=-") (.star Pattern.space)))]

/-- `re.sub(phrase, "", text, count=1)` for a pattern anchored at the start. -/
def removePhrase (value : PyStr) : PyStr :=
  match phraseRe.matchAt value 0 with
  | none => value
  | some found => value.drop found.stop

/-- What the label pattern is matched against. -/
def choicePayload (answer : PyStr) : PyStr :=
  let value := stripSurroundingMarkup answer
  let value := replaceStyleCommands value
  let value := stripSurroundingMarkup value
  let value := value |> replaceAll ['*', '*'] [] |> replaceAll ['_', '_'] [] |> replaceAll ['\x60'] []
  let value := strip (value.dropWhile isListMark)
  let value := collapseSpaces value
  strip (removePhrase value)

/-! ### The label -/

/-- `[A-J]` under `re.IGNORECASE`, which also takes `İ` and `ı` for the letter I. -/
def isOptionLetter (c : Char) : Bool :=
  "abcdefghij".toList.any fun letter => Pattern.ignoringCase letter c

/-- `letter.islower()` for an option letter. -/
def isLowerOption (c : Char) : Bool := ('a'.toNat ≤ c.toNat && c.toNat ≤ 'j'.toNat) || c = 'ı'

/-- `letter.upper()` for an option letter. -/
def upperOption (c : Char) : Char := if c = 'ı' then 'I' else c.toUpper

/-- `(?=$|[.:：\-]|\s)` -/
def labelEndRe : Regex Char Unit :=
  .ahead (.choice [Pattern.dollar, Pattern.oneOf ".:：-", Pattern.space])

/-- `^[\[(]?\s*([A-J])\s*[\])]?\s*(?=$|[.:：\-]|\s)` under `re.IGNORECASE`. -/
def labelRe : Regex Char Unit :=
  .sequence [Pattern.textStart, .optional (Pattern.oneOf "[("), .star Pattern.space,
    .group () (.one isOptionLetter), .star Pattern.space, .optional (Pattern.oneOf "])"),
    .star Pattern.space, labelEndRe]

/-- `extract_choice_label` -/
def extractChoiceLabel (answer : PyStr) : PyStr :=
  let value := choicePayload answer
  match labelRe.matchAt value 0 with
  | none => []
  | some found =>
      let letter := (found.group ()).getD []
      if letter.all isLowerOption ∧ strip (value.drop found.stop) ≠ [] then []
      else letter.map upperOption

/-! ### What the label pattern takes -/

/-- At most one of the brackets. -/
def IsBracket (brackets text : PyStr) : Prop := ∀ c ∈ text, text = [c] ∧ c ∈ brackets

/-- `text` is white space. -/
def IsSpaces (text : PyStr) : Prop := ∀ c ∈ text, isSpace c = true

/-- `(?=$|[.:：\-]|\s)` holds before `after`. -/
def LabelEnds (after : PyStr) : Prop := ∀ c ∈ after.head?, c ∈ ".:：-".toList ∨ isSpace c = true

/-- `value` is read as the letter `c`, between brackets or not, up to `after`. -/
structure LabelSplit (value opening spaces : PyStr) (c : Char) (middle closing trailing
    after : PyStr) : Prop where
  split : value = opening ++ spaces ++ c :: (middle ++ closing ++ trailing ++ after)
  opening : IsBracket ['[', '('] opening
  spaces : IsSpaces spaces
  letter : isOptionLetter c = true
  middle : IsSpaces middle
  closing : IsBracket [']', ')'] closing
  trailing : IsSpaces trailing
  ends : LabelEnds after

theorem captures_labelEnds {before inside after : PyStr} {groups : List (Unit × PyStr)} :
    labelEndRe.Captures before inside after groups ↔
      inside = [] ∧ groups = [] ∧ LabelEnds after := by
  simp only [labelEndRe, Regex.choice, Pattern.dollar, Pattern.char, Pattern.oneOf, Pattern.space,
    Regex.textEnd, Regex.captures_ahead, Regex.captures_alt, Regex.captures_seq,
    Regex.captures_one, Regex.captures_look]
  constructor
  · rintro ⟨rfl, seen, rest, rfl, hend | ⟨c, rfl, rfl, hc⟩ | ⟨c, rfl, rfl, hc⟩⟩
    · obtain ⟨rfl, seen, rest, rfl, ⟨rfl, rfl, hend⟩ |
        ⟨left, right, _, _, rfl, rfl, ⟨c, rfl, rfl, hc⟩, rfl, rfl, hend⟩⟩ := hend
      · refine ⟨rfl, rfl, ?_⟩
        intro c hc
        rw [List.nil_append, List.nil_append] at hc
        rw [Option.isNone_iff_eq_none] at hend
        rw [hend] at hc
        cases hc
      · refine ⟨rfl, rfl, ?_⟩
        intro d hd
        obtain rfl := Option.some.inj hd
        rw [of_decide_eq_true hc]
        exact Or.inr (by decide)
    · refine ⟨rfl, rfl, ?_⟩
      intro d hd
      obtain rfl := Option.some.inj hd
      exact Or.inl (List.contains_iff_mem.mp hc)
    · refine ⟨rfl, rfl, ?_⟩
      intro d hd
      obtain rfl := Option.some.inj hd
      exact Or.inr hc
  · rintro ⟨rfl, rfl, hends⟩
    refine ⟨rfl, ?_⟩
    cases after with
    | nil => exact ⟨[], [], rfl, Or.inl ⟨rfl, [], [], rfl, Or.inl ⟨rfl, rfl, rfl⟩⟩⟩
    | cons c after =>
      refine ⟨[c], after, rfl, Or.inr ?_⟩
      rcases hends c rfl with hc | hc
      · exact Or.inl ⟨c, rfl, rfl, List.contains_iff_mem.mpr hc⟩
      · exact Or.inr ⟨c, rfl, rfl, hc⟩

theorem captures_bracket {brackets : String} {before inside after : PyStr}
    {groups : List (Unit × PyStr)} :
    (Regex.optional (Pattern.oneOf brackets) : Regex Char Unit).Captures before inside after
        groups ↔ groups = [] ∧ IsBracket brackets.toList inside := by
  unfold Pattern.oneOf IsBracket
  rw [Regex.captures_optional_one]
  simp only [List.contains_iff_mem]

/-- The pattern takes a letter between brackets or not, and captures it. -/
theorem captures_labelRe {inside after : PyStr} {groups : List (Unit × PyStr)} :
    labelRe.Captures [] inside after groups ↔
      ∃ opening spaces c middle closing trailing,
        LabelSplit (inside ++ after) opening spaces c middle closing trailing after ∧
          groups = [((), [c])] := by
  have hbrackets : "[(".toList = ['[', '('] ∧ "])".toList = [']', ')'] := by decide
  unfold labelRe
  simp only [Regex.sequence, Pattern.textStart, Pattern.space, Regex.captures_seq,
    captures_bracket, captures_labelEnds, Regex.captures_group, Regex.captures_star_one,
    Regex.captures_look, Regex.captures_one, hbrackets.1, hbrackets.2]
  constructor
  · rintro ⟨_, _, _, _, rfl, rfl, ⟨rfl, rfl, _⟩, opening, _, _, _, rfl, rfl, ⟨rfl, hopening⟩,
      spaces, _, _, _, rfl, rfl, ⟨rfl, hspaces⟩, _, _, _, _, rfl, rfl,
      ⟨_, rfl, c, rfl, rfl, hletter⟩, middle, _, _, _, rfl, rfl, ⟨rfl, hmiddle⟩, closing, _, _, _,
      rfl, rfl, ⟨rfl, hclosing⟩, trailing, _, _, _, rfl, rfl, ⟨rfl, htrailing⟩, rfl, rfl, hends⟩
    refine ⟨opening, spaces, c, middle, closing, trailing,
      ⟨?_, hopening, hspaces, hletter, hmiddle, hclosing, htrailing, hends⟩, rfl⟩
    simp only [List.append_assoc, List.nil_append, List.append_nil, List.cons_append]
  · rintro ⟨opening, spaces, c, middle, closing, trailing, h, rfl⟩
    have hinside : inside = opening ++ spaces ++ c :: (middle ++ closing ++ trailing) := by
      have hsplit := h.split
      rw [← List.cons_append, ← List.append_assoc] at hsplit
      exact List.append_cancel_right hsplit
    refine ⟨[], inside, [], [((), [c])], rfl, rfl, ⟨rfl, rfl, rfl⟩, opening,
      spaces ++ c :: (middle ++ closing ++ trailing), [], [((), [c])], ?_, rfl, ⟨rfl, h.opening⟩,
      spaces, c :: (middle ++ closing ++ trailing), [], [((), [c])], rfl, rfl, ⟨rfl, h.spaces⟩,
      [c], middle ++ closing ++ trailing, [((), [c])], [], rfl, rfl,
      ⟨[], rfl, c, rfl, rfl, h.letter⟩, middle, closing ++ trailing, [], [], ?_, rfl,
      ⟨rfl, h.middle⟩, closing, trailing, [], [], rfl, rfl, ⟨rfl, h.closing⟩, trailing, [], [],
      [], (List.append_nil _).symm, rfl, ⟨rfl, h.trailing⟩, rfl, rfl, h.ends⟩
    · rw [hinside, List.append_assoc]
    · rw [List.append_assoc]

/-! ### The letter that is read -/

theorem not_isSpace_of_isOptionLetter {c : Char} (h : isOptionLetter c = true) :
    isSpace c = false := by
  have hspaces : ∀ c ∈ spaceCodes.map Char.ofNat, isOptionLetter c = false := by decide
  by_contra hspace
  rw [hspaces c (mem_spaceCodes (Bool.eq_true_of_not_eq_false hspace))] at h
  cases h

/-- The first character after white space is one character. -/
theorem spaces_unique {spaces spaces' rest rest' : PyStr} {c c' : Char}
    (hspaces : IsSpaces spaces) (hspaces' : IsSpaces spaces') (hc : isSpace c = false)
    (hc' : isSpace c' = false) (h : spaces ++ c :: rest = spaces' ++ c' :: rest') :
    spaces = spaces' ∧ c = c' ∧ rest = rest' := by
  have hspan : ∀ (spaces rest : PyStr) (c : Char), IsSpaces spaces → isSpace c = false →
      (spaces ++ c :: rest).takeWhile isSpace = spaces ∧
        (spaces ++ c :: rest).dropWhile isSpace = c :: rest := by
    intro spaces rest c hspaces hc
    rw [List.takeWhile_append_of_pos hspaces, List.dropWhile_append_of_pos hspaces,
      List.takeWhile_cons, List.dropWhile_cons, hc]
    simp
  obtain ⟨htake, hdrop⟩ := hspan spaces rest c hspaces hc
  obtain ⟨htake', hdrop'⟩ := hspan spaces' rest' c' hspaces' hc'
  rw [h, hdrop'] at hdrop
  rw [h, htake'] at htake
  obtain ⟨hsame, hrest⟩ := List.cons.inj hdrop
  exact ⟨htake.symm, hsame.symm, hrest.symm⟩

/-- A text starts with one letter after an optional bracket. -/
theorem letter_unique {opening spaces rest opening' spaces' rest' : PyStr} {c c' : Char}
    (hopening : IsBracket ['[', '('] opening) (hspaces : IsSpaces spaces)
    (hc : isOptionLetter c = true) (hopening' : IsBracket ['[', '('] opening')
    (hspaces' : IsSpaces spaces') (hc' : isOptionLetter c' = true)
    (h : opening ++ spaces ++ c :: rest = opening' ++ spaces' ++ c' :: rest') :
    c = c' ∧ rest = rest' := by
  have hspace := not_isSpace_of_isOptionLetter hc
  have hspace' := not_isSpace_of_isOptionLetter hc'
  -- a bracket is no letter and no space
  have hbracket : ∀ {bracket c : Char} {spaces rest text : PyStr}, bracket ∈ ['[', '('] →
      IsSpaces spaces → isOptionLetter c = true → bracket :: text ≠ spaces ++ c :: rest := by
    intro bracket c spaces rest text hbracket hspaces hc heq
    have hnot : ∀ bracket ∈ ['[', '('], isSpace bracket = false ∧ isOptionLetter bracket = false := by
      decide
    obtain ⟨hnotSpace, hnotLetter⟩ := hnot bracket hbracket
    cases spaces with
    | nil =>
      obtain ⟨rfl, _⟩ := List.cons.inj heq
      rw [hc] at hnotLetter
      cases hnotLetter
    | cons d spaces =>
      obtain ⟨rfl, _⟩ := List.cons.inj heq
      rw [hspaces _ List.mem_cons_self] at hnotSpace
      cases hnotSpace
  cases opening with
  | nil =>
    cases opening' with
    | nil => exact (spaces_unique hspaces hspaces' hspace hspace' h).2
    | cons bracket others =>
      obtain ⟨hone, hmem⟩ := hopening' bracket List.mem_cons_self
      rw [hone] at h
      exact absurd h.symm (hbracket hmem hspaces hc)
  | cons bracket others =>
    obtain ⟨hone, hmem⟩ := hopening bracket List.mem_cons_self
    rw [hone] at h
    cases opening' with
    | nil => exact absurd h (hbracket hmem hspaces' hc')
    | cons bracket' others' =>
      obtain ⟨hone', _⟩ := hopening' bracket' List.mem_cons_self
      rw [hone'] at h
      exact (spaces_unique hspaces hspaces' hspace hspace' (List.cons.inj h).2).2

/-- The label is the letter of a split, unless a small letter has more text after it; it is
    empty without a split. -/
theorem extractChoiceLabel_cases (answer : PyStr) :
    (∃ opening spaces c middle closing trailing after,
        LabelSplit (choicePayload answer) opening spaces c middle closing trailing after ∧
          extractChoiceLabel answer =
            if isLowerOption c = true ∧ strip after ≠ [] then [] else [upperOption c]) ∨
      ((∀ opening spaces c middle closing trailing after,
        ¬ LabelSplit (choicePayload answer) opening spaces c middle closing trailing after) ∧
          extractChoiceLabel answer = []) := by
  unfold extractChoiceLabel
  dsimp only
  cases hmatch : labelRe.matchAt (choicePayload answer) 0 with
  | none =>
    refine Or.inr ⟨?_, rfl⟩
    intro opening spaces c middle closing trailing after hsplit
    have hvalue : choicePayload answer =
        (opening ++ spaces ++ c :: (middle ++ closing ++ trailing)) ++ after := by
      rw [hsplit.split]
      simp only [List.append_assoc, List.cons_append]
    rw [hvalue] at hsplit
    have hcaptures := captures_labelRe.mpr ⟨_, _, _, _, _, _, hsplit, rfl⟩
    have hsome := Regex.matchAt_isSome ⟨[], _, after, hvalue, rfl, rfl, _, hcaptures⟩
    rw [List.length_nil, hmatch] at hsome
    cases hsome
  | some found =>
    obtain ⟨_, before, inside, after, hvalue, hbefore, hstop, hcaptures⟩ :=
      Regex.matchAt_captures (Nat.zero_le _) hmatch
    obtain rfl := List.length_eq_zero_iff.mp hbefore.symm
    rw [List.nil_append] at hvalue
    obtain ⟨opening, spaces, c, middle, closing, trailing, hsplit, hgroups⟩ :=
      captures_labelRe.mp hcaptures
    rw [← hvalue] at hsplit
    refine Or.inl ⟨opening, spaces, c, middle, closing, trailing, after, hsplit, ?_⟩
    have hdrop : (choicePayload answer).drop found.stop = after := by
      rw [hvalue, hstop, List.length_nil, Nat.zero_add, List.drop_left]
    have hletter : (found.group ()).getD [] = [c] := by
      rw [Regex.Match.group, hgroups]
      rfl
    dsimp only
    rw [hdrop, hletter]
    simp only [List.all_cons, List.all_nil, Bool.and_true, List.map_cons, List.map_nil]

/-! ### Labels and words -/

/-- What may follow a label: a closing bracket, a full stop, a colon or a hyphen. -/
def labelDelimiters : PyStr := "]).:：-".toList

/-- `value` is the letter alone, or the letter with a label delimiter after it. -/
def ExplicitLabel (value : PyStr) (letter : Char) : Prop :=
  ∃ opening spaces c middle tail, value = opening ++ spaces ++ c :: (middle ++ tail) ∧
    IsBracket ['[', '('] opening ∧ IsSpaces spaces ∧ isOptionLetter c = true ∧
    IsSpaces middle ∧ upperOption c = letter ∧ ∀ d ∈ tail.head?, d ∈ labelDelimiters

/-- `value` begins with a one-letter word, and goes on with other words. -/
def BeginsWithWord (value : PyStr) : Prop :=
  ∃ c spaces d tail, value = c :: (spaces ++ d :: tail) ∧ isSpace c = false ∧
    c ∉ ['[', '('] ∧ spaces ≠ [] ∧ IsSpaces spaces ∧ isSpace d = false ∧ d ∉ labelDelimiters

/-- A letter is returned for a label only, and none for a one-letter word. -/
structure ReadsLabelsOnly (answer : PyStr) : Prop where
  label : extractChoiceLabel answer ≠ [] →
    ∃ letter, extractChoiceLabel answer = [letter] ∧ ExplicitLabel (choicePayload answer) letter
  word : BeginsWithWord (choicePayload answer) → extractChoiceLabel answer = []

/-- `value` begins with a capital option letter, with a space and then other text after it
    that is no label delimiter. -/
def BeginsWithCapitalWord (value : PyStr) : Prop :=
  ∃ opening spaces c middle d tail, value = opening ++ spaces ++ c :: (middle ++ d :: tail) ∧
    IsBracket ['[', '('] opening ∧ IsSpaces spaces ∧ isOptionLetter c = true ∧
    isLowerOption c = false ∧ middle ≠ [] ∧ IsSpaces middle ∧ isSpace d = false ∧
    d ∉ labelDelimiters

theorem not_isSpace_of_labelDelimiter : ∀ d ∈ labelDelimiters, isSpace d = false := by
  decide

/-- A text that a delimiter or nothing continues is not continued by a word. -/
theorem delimiter_not_word {middle tail spaces rest : PyStr} {d : Char}
    (hmiddle : IsSpaces middle) (htail : ∀ d ∈ tail.head?, d ∈ labelDelimiters)
    (hspaces : IsSpaces spaces) (hd : isSpace d = false) (hword : d ∉ labelDelimiters) :
    middle ++ tail ≠ spaces ++ d :: rest := by
  intro h
  cases tail with
  | nil =>
    rw [List.append_nil] at h
    have hmem : d ∈ middle := h ▸ List.mem_append_right _ List.mem_cons_self
    rw [hmiddle d hmem] at hd
    cases hd
  | cons e tail =>
    have he := htail e rfl
    obtain ⟨_, rfl, _⟩ :=
      spaces_unique hmiddle hspaces (not_isSpace_of_labelDelimiter e he) hd h
    exact hword he

/-- After the letter comes a delimiter, nothing, or other text after a space. -/
theorem label_or_word {value opening spaces middle closing trailing after : PyStr} {c : Char}
    (h : LabelSplit value opening spaces c middle closing trailing after) :
    ExplicitLabel value (upperOption c) ∨
      ∃ blanks d tail, value = opening ++ spaces ++ c :: (blanks ++ d :: tail) ∧ blanks ≠ [] ∧
        IsSpaces blanks ∧ isSpace d = false ∧ d ∉ labelDelimiters ∧ d ∈ after := by
  have hexplicit : ∀ blanks tail : PyStr, middle ++ closing ++ trailing ++ after =
      blanks ++ tail → IsSpaces blanks → (∀ d ∈ tail.head?, d ∈ labelDelimiters) →
        ExplicitLabel value (upperOption c) := by
    intro blanks tail hsplit hblanks htail
    refine ⟨opening, spaces, c, blanks, tail, ?_, h.opening, h.spaces, h.letter, hblanks, rfl,
      htail⟩
    rw [h.split, hsplit]
  cases hclosing : closing with
  | cons bracket others =>
    obtain ⟨_, hmem⟩ := h.closing bracket (hclosing ▸ List.mem_cons_self)
    have hdelimiters : ∀ bracket ∈ [']', ')'], bracket ∈ labelDelimiters := by decide
    refine Or.inl (hexplicit middle (closing ++ trailing ++ after)
      (by simp only [List.append_assoc]) h.middle ?_)
    intro d hd
    rw [hclosing] at hd
    obtain rfl := Option.some.inj hd
    exact hdelimiters _ hmem
  | nil =>
    have hblank : IsSpaces (middle ++ trailing) := by
      intro d hd
      rcases List.mem_append.mp hd with hd | hd
      · exact h.middle d hd
      · exact h.trailing d hd
    have hafter : middle ++ closing ++ trailing ++ after = middle ++ trailing ++ after := by
      rw [hclosing, List.append_nil]
    cases hrest : after.dropWhile isSpace with
    | nil =>
      -- only white space is left
      have hall : IsSpaces after := fun d hd => List.dropWhile_eq_nil_iff.mp hrest d hd
      refine Or.inl (hexplicit (middle ++ trailing ++ after) [] ?_ ?_ ?_)
      · rw [hafter, List.append_nil]
      · intro d hd
        rcases List.mem_append.mp hd with hd | hd
        · exact hblank d hd
        · exact hall d hd
      · exact fun d hd => nomatch hd
    | cons d tail =>
      have hsplit : after = after.takeWhile isSpace ++ d :: tail := by
        rw [← hrest, List.takeWhile_append_dropWhile]
      have hspaces : IsSpaces (middle ++ trailing ++ after.takeWhile isSpace) := by
        intro e he
        rcases List.mem_append.mp he with he | he
        · exact hblank e he
        · exact List.mem_takeWhile_imp he
      have hd : isSpace d = false := by
        have hhead := List.head?_dropWhile_not isSpace after
        rw [hrest] at hhead
        exact hhead
      have hwhole : middle ++ closing ++ trailing ++ after =
          middle ++ trailing ++ after.takeWhile isSpace ++ d :: tail := by
        rw [hafter, List.append_assoc (middle ++ trailing)]
        exact congrArg _ hsplit
      by_cases hdelimiter : d ∈ labelDelimiters
      · refine Or.inl (hexplicit _ _ hwhole hspaces ?_)
        intro e he
        obtain rfl := Option.some.inj he
        exact hdelimiter
      · refine Or.inr ⟨middle ++ trailing ++ after.takeWhile isSpace, d, tail, ?_, ?_, hspaces, hd,
          hdelimiter, ?_⟩
        · rw [h.split, hwhole]
        · intro hnil
          -- the text after the label would start with `d`
          have htake := (List.append_eq_nil_iff.mp hnil).2
          rw [htake, List.nil_append] at hsplit
          have hmarks : ∀ d ∈ ".:：-".toList, d ∈ labelDelimiters := by decide
          rcases h.ends d (by rw [hsplit]; rfl) with hmark | hspace
          · exact hdelimiter (hmarks d hmark)
          · rw [hspace] at hd
            cases hd
        · rw [hsplit]
          exact List.mem_append_right _ List.mem_cons_self

/-- Only labels are read exactly when the payload does not begin with a capital letter that
    is a word of its own. -/
theorem readsLabelsOnly_iff (answer : PyStr) :
    ReadsLabelsOnly answer ↔ ¬ BeginsWithCapitalWord (choicePayload answer) := by
  constructor
  · rintro hreads ⟨opening, spaces, c, middle, d, tail, hvalue, hopening, hspaces, hletter, hlower,
      hne, hmiddle, hd, hword⟩
    -- the letter is matched up to the space after it
    have hsplit : LabelSplit (choicePayload answer) opening spaces c [] [] []
        (middle ++ d :: tail) := by
      refine ⟨hvalue, hopening, hspaces, hletter, ?_, ?_, ?_, ?_⟩
      · exact fun e he => absurd he List.not_mem_nil
      · exact fun e he => absurd he List.not_mem_nil
      · exact fun e he => absurd he List.not_mem_nil
      · intro e he
        rw [List.head?_append_of_ne_nil _ hne] at he
        exact Or.inr (hmiddle e (List.mem_of_mem_head? he))
    rcases extractChoiceLabel_cases answer with
      ⟨opening', spaces', c', middle', closing', trailing', after', hsplit', hlabel⟩ | ⟨hnone, _⟩
    · obtain ⟨rfl, _⟩ := letter_unique hopening hspaces hletter hsplit'.opening hsplit'.spaces
        hsplit'.letter (hvalue.symm.trans hsplit'.split)
      rw [if_neg (by rw [hlower]; simp)] at hlabel
      obtain ⟨_, _, opening'', spaces'', c'', middle'', tail'', hvalue'', hopening'', hspaces'',
        hletter'', hmiddle'', _, htail''⟩ := hreads.label (by rw [hlabel]; exact List.cons_ne_nil _ _)
      obtain ⟨_, hrest⟩ := letter_unique hopening hspaces hletter hopening'' hspaces'' hletter''
        (hvalue.symm.trans hvalue'')
      exact delimiter_not_word hmiddle'' htail'' hmiddle hd hword hrest.symm
    · exact hnone _ _ _ _ _ _ _ hsplit
  · intro hcapital
    have hlabel : extractChoiceLabel answer ≠ [] → ∃ letter,
        extractChoiceLabel answer = [letter] ∧ ExplicitLabel (choicePayload answer) letter := by
      intro hne
      rcases extractChoiceLabel_cases answer with
        ⟨opening, spaces, c, middle, closing, trailing, after, hsplit, hlabel⟩ | ⟨_, hnil⟩
      · have hread : ¬ (isLowerOption c = true ∧ strip after ≠ []) := by
          intro hlower
          rw [if_pos hlower] at hlabel
          exact hne hlabel
        rw [if_neg hread] at hlabel
        refine ⟨upperOption c, hlabel, ?_⟩
        rcases label_or_word hsplit with hexplicit |
          ⟨blanks, d, tail, hvalue, hblanksNe, hblanks, hd, hword, hmem⟩
        · exact hexplicit
        · cases hlower : isLowerOption c with
          | true => exact absurd ⟨hlower, strip_ne_nil hmem hd⟩ hread
          | false =>
            exact absurd ⟨opening, spaces, c, blanks, d, tail, hvalue, hsplit.opening,
              hsplit.spaces, hsplit.letter, hlower, hblanksNe, hblanks, hd, hword⟩ hcapital
      · exact absurd hnil hne
    refine ⟨hlabel, ?_⟩
    rintro ⟨c, spaces, d, tail, hvalue, hc, hbracket, _, hspaces, hd, hword⟩
    by_contra hne
    obtain ⟨_, _, opening', spaces', c', middle', tail', hvalue', hopening', hspaces', hletter',
      hmiddle', _, htail'⟩ := hlabel hne
    rw [hvalue] at hvalue'
    -- neither a bracket nor a space stands before the letter
    cases opening' with
    | cons bracket others =>
      obtain ⟨rfl, _⟩ := List.cons.inj hvalue'
      exact hbracket (hopening' _ List.mem_cons_self).2
    | nil =>
      obtain ⟨_, rfl, hrest⟩ := spaces_unique (fun e he => absurd he List.not_mem_nil) hspaces' hc
        (not_isSpace_of_isOptionLetter hletter') (by simpa using hvalue')
      exact delimiter_not_word hmiddle' htail' hspaces hd hword hrest.symm

/-- The word `A` at the start of a sentence is read as the label A. -/
theorem not_readsLabelsOnly_sentence : ¬ ReadsLabelsOnly "A cat sat on the mat".toList := by
  intro h
  have hlabel : extractChoiceLabel "A cat sat on the mat".toList = ['A'] := by decide +kernel
  have hpayload : choicePayload "A cat sat on the mat".toList = 'A' :: (" ".toList ++ 'c' ::
      "at sat on the mat".toList) := by decide +kernel
  have hspaces : IsSpaces " ".toList := by
    intro c hc
    obtain rfl := List.mem_singleton.mp hc
    decide
  have hnone := h.word ⟨'A', " ".toList, 'c', "at sat on the mat".toList, hpayload, by decide,
    by decide, by decide, hspaces, by decide, by decide⟩
  rw [hlabel] at hnone
  cases hnone

end R2opl
