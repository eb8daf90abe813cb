import R2opl.Splitter.TextSteps

/-!
# Aligning text steps to rollout tokens

`_find_original_token_boundary` and `split_rollout_steps`.  Nothing is assumed
of `decode` beyond `decode([]) = ""`: prefixes may decode to text that is not a
prefix of the response, or to shorter text than shorter prefixes do.
-/

namespace R2opl

open Checked

/-- A tokenizer: `decode` with its `skip_special_tokens` flag, and `encode` with
    the character offsets it reports, if any. -/
structure Tokenizer where
  decode : List Int → Bool → PyStr
  encode : PyStr → List Int × Option (List (Int × Int))

section Search

variable (tokenizer : Tokenizer) (tokenIds : List Int) (skipSpecialTokens : Bool)

/-- `decode_prefix`.  The memo table holds what `decode` returns, except for its
    seeded entry `0`. -/
def decodePrefix (tokenEnd : Nat) : PyStr :=
  if tokenEnd = 0 then [] else tokenizer.decode (tokenIds.take tokenEnd) skipSpecialTokens

/-- The binary search for the first prefix of at least `requiredChars`
    characters. -/
def searchPrefix (requiredChars low high : Nat) : Nat :=
  if low < high then
    let middle := (low + high) / 2
    if (decodePrefix tokenizer tokenIds skipSpecialTokens middle).length < requiredChars then
      searchPrefix requiredChars (middle + 1) high
    else searchPrefix requiredChars low middle
  else low
termination_by high - low

/-- The valid boundaries with token ends in `[start, end]`, clipped to the ids
    still available. -/
def candidateBoundaries (decodedText : PyStr) (requiredChars minimumTokenEnd : Nat)
    (start stop : Nat) : List (Nat × Nat) :=
  let start := max minimumTokenEnd start
  let stop := min tokenIds.length stop
  (List.range' start (stop + 1 - start)).filterMap fun tokenEnd =>
    let decoded := decodePrefix tokenizer tokenIds skipSpecialTokens tokenEnd
    if requiredChars ≤ decoded.length ∧ decoded.isPrefixOf decodedText then
      some (tokenEnd, decoded.length)
    else none

/-- The first of three successively wider searches that found anything. -/
def firstFound (narrow wide whole : List (Nat × Nat)) : List (Nat × Nat) :=
  if narrow ≠ [] then narrow else if wide ≠ [] then wide else whole

/-- `key=lambda item: (item[1], item[0])`, compared strictly. -/
def shorterBoundary (left right : Nat × Nat) : Bool :=
  decide (left.2 < right.2 ∨ (left.2 = right.2 ∧ left.1 < right.1))

/-- `min(found, key=...)`: the first least item. -/
def leastBoundary (first : Nat × Nat) (rest : List (Nat × Nat)) : Nat × Nat :=
  rest.foldl (fun best item => if shorterBoundary item best then item else best) first

def findOriginalTokenBoundary (decodedText : PyStr)
    (charTarget minimumTokenEnd minimumCharEnd : Nat) : Except PyError (Nat × Nat) :=
  let requiredChars := max charTarget minimumCharEnd
  let approximate := searchPrefix tokenizer tokenIds skipSpecialTokens requiredChars
    minimumTokenEnd tokenIds.length
  let candidates := candidateBoundaries tokenizer tokenIds skipSpecialTokens decodedText
    requiredChars minimumTokenEnd
  match firstFound (candidates (approximate - 16) (approximate + 16))
    (candidates (approximate - 128) (approximate + 128))
    (candidates minimumTokenEnd tokenIds.length) with
  | [] => .error (valueError
      s!"No prefix of the original response IDs covers character boundary {charTarget}.")
  | first :: rest => .ok (leastBoundary first rest)

end Search

/-- The variables of the alignment loop. -/
structure Alignment where
  tokenSteps : List TokenStep
  previousTokenEnd : Nat
  previousCharEnd : Nat

/-- The step that ends at `(tokenEnd, charEnd)` is appended. -/
def Alignment.extend (alignment : Alignment) (response : PyStr) (textStep : TextStep)
    (tokenEnd charEnd : Nat) : Alignment where
  tokenSteps := alignment.tokenSteps ++
    [{ index := alignment.tokenSteps.length
       charStart := alignment.previousCharEnd
       charEnd := charEnd
       tokenStart := alignment.previousTokenEnd
       tokenEnd := tokenEnd
       text := slice response alignment.previousCharEnd charEnd
       kind := textStep.kind
       boundaryReason := textStep.boundaryReason
       confidence := textStep.confidence }]
  previousTokenEnd := tokenEnd
  previousCharEnd := charEnd

/-- One text step of the loop. -/
def alignStep (tokenizer : Tokenizer) (originalIds : List Int) (skipSpecialTokens : Bool)
    (response : PyStr) (alignment : Alignment) (textStep : TextStep) :
    Except PyError Alignment := do
  if textStep.charEnd ≤ alignment.previousCharEnd then return alignment
  let (tokenEnd, charEnd) ← findOriginalTokenBoundary tokenizer originalIds
    skipSpecialTokens response textStep.charEnd alignment.previousTokenEnd
    (alignment.previousCharEnd + 1)
  if tokenEnd ≤ alignment.previousTokenEnd ∨ charEnd ≤ alignment.previousCharEnd then
    return alignment
  return alignment.extend response textStep tokenEnd charEnd

/-- The source's default is `skip_special_tokens=True`. -/
def splitRolloutSteps (detectors : Detectors) (responseIds : List Int)
    (tokenizer : Tokenizer) (skipSpecialTokens : Bool) :
    Except PyError (PyStr × List TokenStep) := do
  let response := tokenizer.decode responseIds skipSpecialTokens
  let textSteps ← splitTextSteps detectors response
  if textSteps = [] then return (response, [])
  let alignment ← textSteps.foldlM
    (alignStep tokenizer responseIds skipSpecialTokens response) ⟨[], 0, 0⟩
  raiseIf (alignment.previousCharEnd ≠ response.length) (runtimeError
    s!"Token-aligned steps do not cover the complete visible response: {alignment.previousCharEnd}/{response.length} characters.")
  raiseIf (alignment.tokenSteps.flatMap TokenStep.text ≠ response)
    (runtimeError "Token-aligned steps do not recover the decoded response.")
  return (response, alignment.tokenSteps)

/-! ### The search always finds a boundary -/

section Found

variable {tokenizer : Tokenizer} {tokenIds : List Int} {skipSpecialTokens : Bool}

/-- A prefix of the ids that decodes to a prefix of the text of at least
    `requiredChars` characters. -/
structure IsBoundary (tokenizer : Tokenizer) (tokenIds : List Int)
    (skipSpecialTokens : Bool) (decodedText : PyStr) (requiredChars minimumTokenEnd : Nat)
    (boundary : Nat × Nat) : Prop where
  minimum_le : minimumTokenEnd ≤ boundary.1
  le_length : boundary.1 ≤ tokenIds.length
  charEnd_eq : boundary.2 =
    (decodePrefix tokenizer tokenIds skipSpecialTokens boundary.1).length
  covers : requiredChars ≤ boundary.2
  isPrefix : decodePrefix tokenizer tokenIds skipSpecialTokens boundary.1 <+: decodedText

theorem mem_candidateBoundaries {decodedText : PyStr}
    {requiredChars minimumTokenEnd start stop : Nat} {boundary : Nat × Nat} :
    boundary ∈ candidateBoundaries tokenizer tokenIds skipSpecialTokens decodedText
        requiredChars minimumTokenEnd start stop ↔
      start ≤ boundary.1 ∧ boundary.1 ≤ stop ∧
        IsBoundary tokenizer tokenIds skipSpecialTokens decodedText requiredChars
          minimumTokenEnd boundary := by
  obtain ⟨tokenEnd, charEnd⟩ := boundary
  simp only [candidateBoundaries, List.mem_filterMap, List.mem_range'_1,
    Option.ite_none_right_eq_some, Option.some.injEq, Prod.mk.injEq,
    List.isPrefixOf_iff_prefix]
  constructor
  · rintro ⟨tokenEnd, ⟨hlow, hhigh⟩, ⟨hcovers, hvisible⟩, rfl, rfl⟩
    exact ⟨by omega, by omega, by omega, by simp only; omega, rfl, hcovers, hvisible⟩
  · rintro ⟨hlow, hhigh, hminimum, hlength, hchars, hcovers, hvisible⟩
    simp only at hlow hhigh hminimum hlength hchars hcovers hvisible
    exact ⟨tokenEnd, by omega, ⟨by omega, hvisible⟩, rfl, hchars.symm⟩

theorem mem_firstFound {narrow wide whole : List (Nat × Nat)} {boundary : Nat × Nat}
    (h : boundary ∈ firstFound narrow wide whole) :
    boundary ∈ narrow ∨ boundary ∈ wide ∨ boundary ∈ whole := by
  rw [firstFound] at h
  split at h
  · exact Or.inl h
  · split at h
    · exact Or.inr (Or.inl h)
    · exact Or.inr (Or.inr h)

theorem whole_eq_nil_of_firstFound {narrow wide whole : List (Nat × Nat)}
    (h : firstFound narrow wide whole = []) : whole = [] := by
  rw [firstFound] at h
  split at h
  · contradiction
  · split at h
    · contradiction
    · exact h

theorem leastBoundary_mem (first : Nat × Nat) (rest : List (Nat × Nat)) :
    leastBoundary first rest ∈ first :: rest := by
  induction rest generalizing first with
  | nil => exact List.mem_cons_self
  | cons item rest ih =>
    rw [leastBoundary, List.foldl_cons]
    have hmem := ih (if shorterBoundary item first then item else first)
    rw [leastBoundary] at hmem
    rcases List.mem_cons.mp hmem with hbest | hrest
    · rw [hbest]
      by_cases hshorter : shorterBoundary item first = true <;> simp [hshorter]
    · exact List.mem_cons_of_mem _ (List.mem_cons_of_mem _ hrest)

/-- Any result is a valid boundary: every window offers only valid ones. -/
theorem isBoundary_of_find {decodedText : PyStr}
    {charTarget minimumTokenEnd minimumCharEnd : Nat} {boundary : Nat × Nat}
    (h : findOriginalTokenBoundary tokenizer tokenIds skipSpecialTokens decodedText
      charTarget minimumTokenEnd minimumCharEnd = .ok boundary) :
    IsBoundary tokenizer tokenIds skipSpecialTokens decodedText
      (max charTarget minimumCharEnd) minimumTokenEnd boundary := by
  simp only [findOriginalTokenBoundary] at h
  split at h
  · cases h
  · next first rest hfound =>
    obtain rfl := Except.ok.inj h
    have hmem := leastBoundary_mem first rest
    rw [← hfound] at hmem
    rcases mem_firstFound hmem with hnarrow | hwide | hwhole
    · exact (mem_candidateBoundaries.mp hnarrow).2.2
    · exact (mem_candidateBoundaries.mp hwide).2.2
    · exact (mem_candidateBoundaries.mp hwhole).2.2

/-- The last window holds the whole response, so some boundary is found. -/
theorem find_returns {charTarget minimumTokenEnd minimumCharEnd : Nat}
    (hempty : tokenizer.decode [] skipSpecialTokens = [])
    (hminimum : minimumTokenEnd ≤ tokenIds.length)
    (htarget : charTarget ≤ (tokenizer.decode tokenIds skipSpecialTokens).length)
    (hcharEnd : minimumCharEnd ≤ (tokenizer.decode tokenIds skipSpecialTokens).length) :
    Returns (findOriginalTokenBoundary tokenizer tokenIds skipSpecialTokens
      (tokenizer.decode tokenIds skipSpecialTokens) charTarget minimumTokenEnd
      minimumCharEnd) := by
  have hall : decodePrefix tokenizer tokenIds skipSpecialTokens tokenIds.length =
      tokenizer.decode tokenIds skipSpecialTokens := by
    rw [decodePrefix]
    split
    · next hzero => rw [List.length_eq_zero_iff.mp hzero, hempty]
    · rw [List.take_length]
  have hlast : IsBoundary tokenizer tokenIds skipSpecialTokens
      (tokenizer.decode tokenIds skipSpecialTokens) (max charTarget minimumCharEnd)
      minimumTokenEnd
      (tokenIds.length, (tokenizer.decode tokenIds skipSpecialTokens).length) := {
    minimum_le := hminimum
    le_length := Nat.le_refl _
    charEnd_eq := by rw [hall]
    covers := Nat.max_le.mpr ⟨htarget, hcharEnd⟩
    isPrefix := hall ▸ List.prefix_refl _ }
  have hmem := mem_candidateBoundaries.mpr ⟨hminimum, Nat.le_refl tokenIds.length, hlast⟩
  simp only [findOriginalTokenBoundary]
  split
  · next hfound =>
    rw [whole_eq_nil_of_firstFound hfound] at hmem
    exact absurd hmem List.not_mem_nil
  · exact Returns.ok _

end Found

/-! ### The alignment loop -/

/-- Consecutive token steps from token `tokenStart` and character `charStart` on,
    every step of which ends where a prefix of the ids decodes to a prefix of the
    response. -/
def AlignedFrom (tokenizer : Tokenizer) (ids : List Int) (skipSpecialTokens : Bool)
    (response : PyStr) : Nat → Nat → Nat → List TokenStep → Prop
  | _, _, _, [] => True
  | index, tokenStart, charStart, step :: rest =>
      step.index = index ∧ step.tokenStart = tokenStart ∧ step.charStart = charStart ∧
        tokenStart < step.tokenEnd ∧ charStart < step.charEnd ∧
        step.tokenEnd ≤ ids.length ∧
        tokenizer.decode (ids.take step.tokenEnd) skipSpecialTokens =
          response.take step.charEnd ∧
        step.charEnd ≤ response.length ∧
        step.text = slice response charStart step.charEnd ∧
        AlignedFrom tokenizer ids skipSpecialTokens response (index + 1) step.tokenEnd
          step.charEnd rest

section Aligned

variable {tokenizer : Tokenizer} {ids : List Int} {skipSpecialTokens : Bool}
  {response : PyStr}

theorem AlignedFrom.append_singleton {step : TokenStep} {tokenEnd charEnd : Nat} :
    ∀ {steps : List TokenStep} {index tokenStart charStart : Nat},
      AlignedFrom tokenizer ids skipSpecialTokens response index tokenStart charStart steps →
      (steps.getLast?.elim tokenStart TokenStep.tokenEnd) = tokenEnd →
      (steps.getLast?.elim charStart TokenStep.charEnd) = charEnd →
      AlignedFrom tokenizer ids skipSpecialTokens response (index + steps.length) tokenEnd
        charEnd [step] →
      AlignedFrom tokenizer ids skipSpecialTokens response index tokenStart charStart
        (steps ++ [step]) := by
  intro steps
  induction steps with
  | nil =>
    intro index tokenStart charStart _ htoken hchar hstep
    obtain rfl : tokenStart = tokenEnd := htoken
    obtain rfl : charStart = charEnd := hchar
    exact hstep
  | cons head rest ih =>
    intro index tokenStart charStart h htoken hchar hstep
    obtain ⟨hindex, hstart, hchars, hlt, hclt, hle, hdecode, hcle, htext, hrest⟩ := h
    have hlast : ∀ {β : Type} (measure : TokenStep → β) (d : β),
        (head :: rest).getLast?.elim d measure =
          rest.getLast?.elim (measure head) measure := by
      intro β measure d
      rw [List.getLast?_cons]
      cases rest.getLast? <;> rfl
    refine ⟨hindex, hstart, hchars, hlt, hclt, hle, hdecode, hcle, htext, ih hrest ?_ ?_ ?_⟩
    · rw [← htoken, hlast]
    · rw [← hchar, hlast]
    · rw [show index + 1 + rest.length = index + (head :: rest).length by
        rw [List.length_cons]; omega]
      exact hstep

theorem AlignedFrom.flatMap_text :
    ∀ {steps : List TokenStep} {index tokenStart charStart : Nat},
      AlignedFrom tokenizer ids skipSpecialTokens response index tokenStart charStart steps →
      steps.flatMap TokenStep.text =
        slice response charStart (steps.getLast?.elim charStart TokenStep.charEnd) := by
  intro steps
  induction steps with
  | nil =>
    intro index tokenStart charStart _
    simp [slice]
  | cons head rest ih =>
    intro index tokenStart charStart h
    obtain ⟨_, _, _, _, hclt, _, _, _, htext, hrest⟩ := h
    have hmono : ∀ {steps : List TokenStep} {index tokenStart charStart : Nat},
        AlignedFrom tokenizer ids skipSpecialTokens response index tokenStart charStart
          steps → charStart ≤ steps.getLast?.elim charStart TokenStep.charEnd := by
      intro steps
      induction steps with
      | nil => intro _ _ _ _; exact Nat.le_refl _
      | cons head rest ih =>
        intro index tokenStart charStart h
        obtain ⟨_, _, _, _, hclt, _, _, _, _, hrest⟩ := h
        have hle := ih hrest
        rw [List.getLast?_cons]
        cases hlast : rest.getLast? with
        | none => exact Nat.le_of_lt hclt
        | some last =>
          rw [hlast] at hle
          exact Nat.le_trans (Nat.le_of_lt hclt) hle
    have hle := hmono hrest
    rw [List.flatMap_cons, htext, ih hrest, List.getLast?_cons]
    cases hlast : rest.getLast? with
    | none =>
      rw [hlast] at hle
      exact slice_append_slice response (Nat.le_of_lt hclt) (Nat.le_refl _)
    | some last =>
      rw [hlast] at hle
      exact slice_append_slice response (Nat.le_of_lt hclt) hle

end Aligned

/-- What the alignment loop keeps: the steps so far are aligned, end at the
    loop's own counters, and the ids consumed decode to the characters
    consumed. -/
structure AlignmentInvariant (tokenizer : Tokenizer) (ids : List Int)
    (skipSpecialTokens : Bool) (response : PyStr) (alignment : Alignment) : Prop where
  aligned : AlignedFrom tokenizer ids skipSpecialTokens response 0 0 0 alignment.tokenSteps
  tokenEnd : alignment.tokenSteps.getLast?.elim 0 TokenStep.tokenEnd =
    alignment.previousTokenEnd
  charEnd : alignment.tokenSteps.getLast?.elim 0 TokenStep.charEnd =
    alignment.previousCharEnd
  token_le : alignment.previousTokenEnd ≤ ids.length
  char_le : alignment.previousCharEnd ≤ response.length
  decoded : (decodePrefix tokenizer ids skipSpecialTokens
    alignment.previousTokenEnd).length = alignment.previousCharEnd

section Loop

variable {tokenizer : Tokenizer} {ids : List Int} {skipSpecialTokens : Bool}

/-- One text step: the loop does not fail, keeps its invariant and covers the
    step. -/
theorem alignStep_invariant (hempty : tokenizer.decode [] skipSpecialTokens = [])
    {alignment : Alignment} {textStep : TextStep}
    (hinv : AlignmentInvariant tokenizer ids skipSpecialTokens
      (tokenizer.decode ids skipSpecialTokens) alignment)
    (htext : textStep.charEnd ≤ (tokenizer.decode ids skipSpecialTokens).length) :
    ∃ next, alignStep tokenizer ids skipSpecialTokens
        (tokenizer.decode ids skipSpecialTokens) alignment textStep = .ok next ∧
      AlignmentInvariant tokenizer ids skipSpecialTokens
        (tokenizer.decode ids skipSpecialTokens) next ∧
      textStep.charEnd ≤ next.previousCharEnd := by
  by_cases hcovered : textStep.charEnd ≤ alignment.previousCharEnd
  · exact ⟨alignment, by simp only [alignStep, hcovered, if_true, pure_eq_ok], hinv, hcovered⟩
  have hroom : alignment.previousCharEnd + 1 ≤
      (tokenizer.decode ids skipSpecialTokens).length := by omega
  obtain ⟨⟨tokenEnd, charEnd⟩, hfind⟩ := find_returns hempty hinv.token_le htext hroom
  obtain ⟨hminimum, hlength, hchars, hcovers, hvisible⟩ := isBoundary_of_find hfind
  simp only at hminimum hlength hchars hcovers hvisible
  have hchar : textStep.charEnd ≤ charEnd ∧ alignment.previousCharEnd < charEnd := by omega
  -- the ids consumed so far decode to fewer characters than are required here
  have htoken : alignment.previousTokenEnd < tokenEnd := by
    rcases Nat.lt_or_eq_of_le hminimum with hlt | heq
    · exact hlt
    · have hdecoded := hinv.decoded
      rw [heq, ← hchars] at hdecoded
      omega
  have hpositive : tokenEnd ≠ 0 := by omega
  have hdecode : tokenizer.decode (ids.take tokenEnd) skipSpecialTokens =
      (tokenizer.decode ids skipSpecialTokens).take charEnd := by
    rw [decodePrefix, if_neg hpositive] at hvisible hchars
    rw [hchars]
    exact List.prefix_iff_eq_take.mp hvisible
  have hcharLe : charEnd ≤ (tokenizer.decode ids skipSpecialTokens).length := by
    rw [hchars]
    exact hvisible.length_le
  refine ⟨alignment.extend (tokenizer.decode ids skipSpecialTokens) textStep tokenEnd
    charEnd, ?_, ?_, hchar.1⟩
  · simp only [alignStep, hcovered, if_false, hfind, ok_bind]
    rw [if_neg (by omega)]
    rfl
  · exact {
      aligned := hinv.aligned.append_singleton hinv.tokenEnd hinv.charEnd
        ⟨by simp, rfl, rfl, htoken, hchar.2, hlength, hdecode, hcharLe, rfl, trivial⟩
      tokenEnd := by simp [Alignment.extend]
      charEnd := by simp [Alignment.extend]
      token_le := hlength
      char_le := hcharLe
      decoded := hchars.symm }

/-- The whole loop over the steps of a partition from `start` on: it returns,
    and what it returns covers the text to its end. -/
theorem foldlM_alignStep (hempty : tokenizer.decode [] skipSpecialTokens = [])
    (steps : List TextStep) :
    ∀ (index start : Nat) (alignment : Alignment),
      PartitionsFrom (tokenizer.decode ids skipSpecialTokens) index start steps →
      AlignmentInvariant tokenizer ids skipSpecialTokens
        (tokenizer.decode ids skipSpecialTokens) alignment →
      start ≤ alignment.previousCharEnd →
      ∃ final, steps.foldlM (alignStep tokenizer ids skipSpecialTokens
          (tokenizer.decode ids skipSpecialTokens)) alignment = .ok final ∧
        AlignmentInvariant tokenizer ids skipSpecialTokens
          (tokenizer.decode ids skipSpecialTokens) final ∧
        final.previousCharEnd = (tokenizer.decode ids skipSpecialTokens).length := by
  induction steps with
  | nil =>
    intro index start alignment hpartition hinv hstart
    have hend : start = (tokenizer.decode ids skipSpecialTokens).length := hpartition
    have hle := hinv.char_le
    exact ⟨alignment, rfl, hinv, by omega⟩
  | cons step rest ih =>
    intro index start alignment hpartition hinv hstart
    obtain ⟨_, _, _, hle, _, hrest⟩ := hpartition
    obtain ⟨next, hstep, hnext, hcovers⟩ := alignStep_invariant hempty hinv hle
    obtain ⟨final, hfold, hfinal⟩ := ih (index + 1) step.charEnd next hrest hnext hcovers
    refine ⟨final, ?_, hfinal⟩
    rw [List.foldlM_cons, hstep, ok_bind]
    exact hfold

/-- Steps numbered from zero that end within the ids. -/
structure StepsWithin (ids : List Int) (steps : List TokenStep) : Prop where
  indices : steps.map TokenStep.index = List.range steps.length
  tokenEnd_le : ∀ step ∈ steps, step.tokenEnd ≤ ids.length

theorem alignStep_within {response : PyStr} {alignment next : Alignment} {textStep : TextStep}
    (h : StepsWithin ids alignment.tokenSteps)
    (hstep : alignStep tokenizer ids skipSpecialTokens response alignment textStep = .ok next) :
    StepsWithin ids next.tokenSteps := by
  unfold alignStep at hstep
  split at hstep
  · obtain rfl := Except.ok.inj hstep
    exact h
  · obtain ⟨⟨tokenEnd, charEnd⟩, hfind, hrest⟩ := bind_eq_ok.mp hstep
    dsimp only at hrest
    split at hrest
    · obtain rfl := Except.ok.inj hrest
      exact h
    · obtain rfl := Except.ok.inj hrest
      constructor
      · simp [Alignment.extend, h.indices, List.range_succ]
      · intro step hstep
        rcases List.mem_append.mp hstep with hold | hnew
        · exact h.tokenEnd_le step hold
        · obtain rfl := List.mem_singleton.mp hnew
          exact (isBoundary_of_find hfind).le_length

/-- Whatever the tokenizer, the steps returned are numbered and end within the ids. -/
theorem splitRolloutSteps_within {detectors : Detectors} {response : PyStr}
    {steps : List TokenStep}
    (h : splitRolloutSteps detectors ids tokenizer skipSpecialTokens = .ok (response, steps)) :
    StepsWithin ids steps := by
  have hnone : StepsWithin ids [] := ⟨rfl, fun _ hstep => absurd hstep List.not_mem_nil⟩
  unfold splitRolloutSteps at h
  obtain ⟨textSteps, _, h⟩ := bind_eq_ok.mp h
  split at h
  · obtain rfl := (Prod.mk.inj (Except.ok.inj h)).2
    exact hnone
  · obtain ⟨alignment, hfold, h⟩ := bind_eq_ok.mp h
    rw [raiseIf_bind_eq_ok, raiseIf_bind_eq_ok] at h
    obtain rfl := (Prod.mk.inj (Except.ok.inj h.2.2)).2
    exact foldlM_invariant (P := fun alignment : Alignment => StepsWithin ids alignment.tokenSteps)
      (fun _ _ _ => alignStep_within) hnone hfold

/-- **Token-level splitting is exact and its alignment cannot fail.**  Whenever
    the text splitter returns, so does `split_rollout_steps`; its steps are
    numbered from zero, contiguous from token zero, strictly increasing in both
    ends, end on prefixes that decode to prefixes of the response, and their
    texts concatenate to the response. -/
theorem splitRolloutSteps_exact {detectors : Detectors} {textSteps : List TextStep}
    (hempty : tokenizer.decode [] skipSpecialTokens = [])
    (htext : splitTextSteps detectors (tokenizer.decode ids skipSpecialTokens) =
      .ok textSteps) :
    ∃ steps, splitRolloutSteps detectors ids tokenizer skipSpecialTokens =
        .ok (tokenizer.decode ids skipSpecialTokens, steps) ∧
      AlignedFrom tokenizer ids skipSpecialTokens
        (tokenizer.decode ids skipSpecialTokens) 0 0 0 steps ∧
      steps.getLast?.elim 0 TokenStep.charEnd =
        (tokenizer.decode ids skipSpecialTokens).length ∧
      steps.flatMap TokenStep.text = tokenizer.decode ids skipSpecialTokens := by
  have hpartition := splitTextSteps_eq_ok htext
  by_cases hnil : textSteps = []
  · subst hnil
    have hlength : 0 = (tokenizer.decode ids skipSpecialTokens).length := hpartition
    refine ⟨[], ?_, trivial, hlength, ?_⟩
    · simp only [splitRolloutSteps, htext, ok_bind, if_true, pure_eq_ok]
    · rw [List.length_eq_zero_iff.mp hlength.symm, List.flatMap_nil]
  · obtain ⟨final, hfold, hinv, hend⟩ := foldlM_alignStep hempty textSteps 0 0 ⟨[], 0, 0⟩
      hpartition
      ⟨trivial, rfl, rfl, Nat.zero_le _, Nat.zero_le _, by simp [decodePrefix]⟩
      (Nat.le_refl _)
    have hjoin : final.tokenSteps.flatMap TokenStep.text =
        tokenizer.decode ids skipSpecialTokens := by
      rw [hinv.aligned.flatMap_text, hinv.charEnd, hend, slice_zero, List.take_length]
    refine ⟨final.tokenSteps, ?_, hinv.aligned, hinv.charEnd.trans hend, hjoin⟩
    simp only [splitRolloutSteps, htext, ok_bind, hnil, if_false, hfold]
    rw [raiseIf_of_not (by simpa using hend), ok_bind, raiseIf_of_not (by simpa using hjoin)]
    rfl

/-- A character whose bytes are spread over two tokens: the first prefix decodes
    to a replacement character. -/
theorem splitRolloutSteps_exact_partial_character :
    ∃ steps, splitRolloutSteps .silent [1, 2, 3]
        ⟨fun ids _ => [[], "?".toList, "é".toList, "é.".toList].getD ids.length [],
          fun _ => ([], none)⟩ true = .ok ("é.".toList, steps) ∧
      steps.flatMap TokenStep.text = "é.".toList := by
  have htext : splitTextSteps .silent "é.".toList =
      .ok [⟨0, 0, 2, "é.".toList, .reasoning, "start", .hard⟩] := by
    decide +kernel
  obtain ⟨steps, hsteps, _, _, hjoin⟩ := @splitRolloutSteps_exact
    ⟨fun ids _ => [[], "?".toList, "é".toList, "é.".toList].getD ids.length [],
      fun _ => ([], none)⟩ [1, 2, 3] true _ _ rfl htext
  exact ⟨steps, hsteps, hjoin⟩

end Loop

end R2opl
