import R2opl.Answer.Choice
import R2opl.Answer.Constants

/-!
# Equivalence of answers

`_normalize`, `_decimal_value` and `answers_equivalent` of `utils/answer_verifier.py`.  A gold
answer that is an explicit option label is compared with the label of the prediction only; all
other answers are compared as texts, as decimals, as constants and by `math_verify`.
-/

namespace R2opl

/-! ### Normal forms -/

/-- What `_normalize` replaces before it looks for style commands. -/
def normalSteps : List (PyStr × PyStr) :=
  [("\\left".toList, []), ("\\right".toList, []), ("\\dfrac".toList, "\\frac".toList),
    ("\\tfrac".toList, "\\frac".toList), ("\\displaystyle".toList, [])]

/-- `re.sub(r"[，。.,;!?]+$", "", text)` for a text that does not end in space. -/
def dropPunctuation (text : PyStr) : PyStr :=
  (text.reverse.dropWhile fun c => "，。.,;!?".toList.contains c).reverse

/-- `_normalize` -/
def normalize (text : PyStr) : PyStr :=
  let value := stripSurroundingMarkup text
  let value := replaceEach normalSteps value
  let value := replaceStyleCommands value
  let value := stripSurroundingMarkup value
  let value := replaceEach (spacingCommands.map fun spacing => (spacing, [])) value
  let value := dropPunctuation (strip value)
  casefold (value.filter fun c => !isSpace c)

/-! ### Decimals -/

/-- A `Decimal` from a text. -/
structure DecimalNumber where
  negative : Bool
  coefficient : Nat
  exponent : Int

def DecimalNumber.value (number : DecimalNumber) : ℚ :=
  (if number.negative then -1 else 1) * number.coefficient * 10 ^ number.exponent

/-- `[+-]?` -/
def splitSign : PyStr → Bool × PyStr
  | [] => (false, [])
  | c :: rest => if c = '-' then (true, rest) else if c = '+' then (false, rest) else (false, c :: rest)

/-- The number that decimal digits write. -/
def digitsNumber (digits : PyStr) : Nat := decimalNumber (digits.filterMap decimalValue)

/-- `(?:[eE][+-]?\d+)?` up to the end. -/
def readExponent : PyStr → Option Int
  | [] => some 0
  | c :: rest =>
      let (negative, digits) := splitSign rest
      if (c = 'e' ∨ c = 'E') ∧ digits ≠ [] ∧ digits.all isDecimal then
        some (if negative then -(digitsNumber digits : Int) else digitsNumber digits)
      else none

/-- The text as `_DECIMAL_RE` splits it. -/
def readDecimal (text : PyStr) : Option DecimalNumber :=
  let (negative, body) := splitSign text
  let whole := body.takeWhile isDecimal
  let rest := body.dropWhile isDecimal
  let fraction := if rest.head? = some '.' then rest.tail.takeWhile isDecimal else []
  let rest := if rest.head? = some '.' then rest.tail.dropWhile isDecimal else rest
  if whole = [] ∧ fraction = [] then none
  else (readExponent rest).map fun exponent =>
    ⟨negative, digitsNumber (whole ++ fraction), exponent - fraction.length⟩

/-- `Decimal(text)` raises for an exponent outside of these limits. -/
def DecimalNumber.inRange (number : DecimalNumber) : Bool :=
  -1999999999999999997 ≤ number.exponent &&
    number.exponent + (Nat.toDigits 10 number.coefficient).length ≤ 1000000000000000000

/-- `_decimal_value` -/
def decimalNumberValue (text : PyStr) : Option ℚ :=
  ((readDecimal text).filter DecimalNumber.inRange).map DecimalNumber.value

/-! ### Equivalence -/

variable {F : Type} (floats : Floats F) (verifyMath : PyStr → PyStr → Bool)

/-- `_symbolic_equal`: what `math_verify` says of the two payloads between dollar signs, the gold
    answer first; without the package, and where it raises, that is `false`. -/
def symbolicEqual (prediction target : PyStr) : Bool :=
  verifyMath ('$' :: (mathPayload target ++ ['$'])) ('$' :: (mathPayload prediction ++ ['$']))

/-- `answers_equivalent` -/
def answersEquivalent (prediction target : PyStr) : Bool :=
  let targetNormalized := normalize target
  let targetLabel := extractChoiceLabel target
  if targetLabel ≠ [] ∧ casefold targetNormalized = casefold targetLabel then
    let predictionLabel := extractChoiceLabel prediction
    predictionLabel ≠ [] && predictionLabel = targetLabel
  else
    let predictionNormalized := normalize prediction
    if predictionNormalized = [] ∨ targetNormalized = [] then false
    else if predictionNormalized = targetNormalized then true
    else
      match decimalNumberValue predictionNormalized, decimalNumberValue targetNormalized with
      | some predictionNumber, some targetNumber => predictionNumber = targetNumber
      | _, _ =>
          constantMathEqual floats prediction target || symbolicEqual verifyMath prediction target

/-! ### Strict grading of options -/

/-- The gold answer is an explicit option: its label is the letter that its normal form is. -/
structure OptionGold (gold : PyStr) (letter : Char) : Prop where
  letter_mem : letter ∈ "ABCDEFGHIJ".toList
  normal : normalize gold = casefold [letter]
  label : extractChoiceLabel gold = [letter]

variable {floats verifyMath} {gold prediction bare outer : PyStr} {letter : Char}

theorem Wrapped.normalize_eq (h : Wrapped bare outer) : normalize outer = normalize bare := by
  unfold normalize
  rw [h.strip_eq]

theorem Wrapped.extractChoiceLabel_eq (h : Wrapped bare outer) :
    extractChoiceLabel outer = extractChoiceLabel bare := by
  unfold extractChoiceLabel choicePayload
  rw [h.strip_eq]

theorem OptionGold.wrapped (h : OptionGold bare letter) (hwrapped : Wrapped bare outer) :
    OptionGold outer letter where
  letter_mem := h.letter_mem
  normal := hwrapped.normalize_eq.trans h.normal
  label := hwrapped.extractChoiceLabel_eq.trans h.label

/-- Folding an option letter twice changes nothing more. -/
theorem casefold_casefold_letter :
    ∀ letter ∈ "ABCDEFGHIJ".toList, casefold (casefold [letter]) = casefold [letter] := by
  decide

/-- A gold option is compared with the label of the prediction. -/
theorem OptionGold.answersEquivalent_iff (h : OptionGold gold letter) :
    answersEquivalent floats verifyMath prediction gold = true ↔
      extractChoiceLabel prediction = [letter] := by
  have hstrict : extractChoiceLabel gold ≠ [] ∧
      casefold (normalize gold) = casefold (extractChoiceLabel gold) := by
    rw [h.normal, h.label]
    exact ⟨List.cons_ne_nil _ _, casefold_casefold_letter letter h.letter_mem⟩
  unfold answersEquivalent
  rw [if_pos hstrict, h.label, Bool.and_eq_true, decide_eq_true_eq, decide_eq_true_eq]
  constructor
  · rintro ⟨_, hlabel⟩
    exact hlabel
  · intro hlabel
    rw [hlabel]
    exact ⟨List.cons_ne_nil _ _, rfl⟩

/-- **Strict grading of options.**  On a gold answer that is an explicit option the verdict is
    the same inside and outside of any wrappers, and it is positive when the label of the
    prediction is the letter; the stripping of wrappers ends and is idempotent. -/
theorem answersEquivalent_option (floats : Floats F) (verifyMath : PyStr → PyStr → Bool)
    {gold wrappedGold prediction wrappedPrediction : PyStr} {letter : Char}
    (hgold : OptionGold gold letter) (hwrappedGold : Wrapped gold wrappedGold)
    (hwrappedPrediction : Wrapped prediction wrappedPrediction) :
    answersEquivalent floats verifyMath wrappedPrediction wrappedGold =
        answersEquivalent floats verifyMath prediction gold ∧
      (answersEquivalent floats verifyMath prediction gold = true ↔
        extractChoiceLabel prediction = [letter]) ∧
      (∀ text, StripsTo (strip (repair text)) (stripSurroundingMarkup text)) ∧
      ∀ text, stripSurroundingMarkup (stripSurroundingMarkup text) =
        stripSurroundingMarkup text := by
  refine ⟨?_, hgold.answersEquivalent_iff, stripSurroundingMarkup_stripsTo,
    stripSurroundingMarkup_idem⟩
  rw [Bool.eq_iff_iff, (hgold.wrapped hwrappedGold).answersEquivalent_iff,
    hgold.answersEquivalent_iff, hwrappedPrediction.extractChoiceLabel_eq]

/-- Rationals in place of floats, where nothing is rounded and no root is taken. -/
def rationalFloats : Floats ℚ where
  ofRat := some
  shortest := id
  isFinite := fun _ => true
  isZero := fun x => x = 0
  isNegative := fun x => x < 0
  pi := 355 / 113
  neg := fun x => -x
  add := (· + ·)
  sub := (· - ·)
  mul := (· * ·)
  div := (· / ·)
  pow := fun x n => if x = 0 ∧ n < 0 then none else some (x ^ n)
  sqrt := id
  isClose := fun x y => x = y

theorem answersEquivalent_option_wrapped :
    answersEquivalent rationalFloats (fun _ _ => false) "**Choice A: yes**".toList
      "$$\x7bA\x7d$$".toList = true := by
  have hwrappedGold : Wrapped "A".toList "$$\x7bA\x7d$$".toList :=
    .pair (show (['$', '$'], ['$', '$']) ∈ markupPairs by decide) (.braces (by decide) .bare)
  have hwrappedPrediction : Wrapped "Choice A: yes".toList "**Choice A: yes**".toList :=
    .pair (show (['*', '*'], ['*', '*']) ∈ markupPairs by decide) .bare
  obtain ⟨hsame, hverdict, _⟩ := answersEquivalent_option rationalFloats (fun _ _ => false)
    (⟨by decide, by decide, by decide⟩ : OptionGold "A".toList 'A') hwrappedGold
    hwrappedPrediction
  rw [hsame]
  exact hverdict.mpr (by decide)

/-- A gold answer with a bare letter for its normal form need not be an explicit option, and
    braces around a text that is balanced need not be balanced once the text is repaired. -/
theorem not_answersEquivalent_option :
    (¬ ∃ (F : Type) (floats : Floats F) (verifyMath : PyStr → PyStr → Bool),
      ∀ gold prediction : PyStr, ∀ letter ∈ "ABCDEFGHIJ".toList,
        normalize gold = casefold [letter] → (answersEquivalent floats verifyMath prediction gold = true ↔
          extractChoiceLabel prediction = [letter])) ∧
    ¬ ∃ (F : Type) (floats : Floats F) (verifyMath : PyStr → PyStr → Bool),
      ∀ gold prediction : PyStr, normalize gold = ['a'] → Enclosed prediction →
        answersEquivalent floats verifyMath (leftBrace :: (prediction ++ [rightBrace])) gold =
          answersEquivalent floats verifyMath prediction gold := by
  constructor
  · rintro ⟨F, floats, verifyMath, hclaim⟩
    have hnormal : normalize "A,".toList = ['a'] := by decide
    have hlabel : extractChoiceLabel "A,".toList = [] := by decide
    have hverdict : answersEquivalent floats verifyMath "A,".toList "A,".toList = true := by
      unfold answersEquivalent
      rw [hnormal, hlabel]
      rfl
    have hequal := (hclaim "A,".toList "A,".toList 'A' (by decide) (by rw [hnormal]; decide)).mp
      hverdict
    rw [hlabel] at hequal
    cases hequal
  · rintro ⟨F, floats, verifyMath, hclaim⟩
    have hgold : OptionGold "A".toList 'A' := ⟨by decide, by decide, by decide⟩
    have hequal := hclaim "A".toList ("A \x7b＼\x7d".toList) (by decide) (by decide)
    have hbare : answersEquivalent floats verifyMath "A \x7b＼\x7d".toList "A".toList = true :=
      hgold.answersEquivalent_iff.mpr (by decide)
    rw [hbare, hgold.answersEquivalent_iff] at hequal
    revert hequal
    decide

end R2opl
