import Mathlib.Data.Rat.Lemmas
import Mathlib.Algebra.Order.Field.Rat
import R2opl.PythonSyntax
import R2opl.Answer.Markup

/-!
# Constant expressions

`_constant_math_expression`, `_evaluate_constant_node` and `_constant_math_value` of
`utils/answer_verifier.py`: a payload is rewritten into a Python expression, whose tree is
evaluated.
-/

namespace R2opl

open Ast (Node)

/-! ### The Python expression -/

/-- `for old, new in steps: text = text.replace(old, new)` -/
def replaceEach (steps : List (PyStr × PyStr)) (text : PyStr) : PyStr :=
  steps.foldl (fun text step => replaceAll step.1 step.2 text) text

/-- `_math_payload` -/
def mathPayload (text : PyStr) : PyStr :=
  replaceEach [("\\dfrac".toList, "\\frac".toList), ("\\tfrac".toList, "\\frac".toList)]
    (stripSurroundingMarkup text)

/-- `\\(?:frac|sqrt)\b` -/
def constructRe : Regex Char Empty :=
  .sequence [Pattern.char '\\', .choice (["frac", "sqrt"].map Pattern.literal),
    Pattern.wordBoundary]

/-- `while cursor < len(value) and value[cursor].isspace(): cursor += 1` -/
def skipSpaces (value : PyStr) (cursor : Nat) : Nat :=
  cursor + ((value.drop cursor).takeWhile isSpace).length

/-- `value` with the command found in it rewritten.  `matchingBrace` is `none` also where
    no brace opens. -/
def replaceConstruct (value : PyStr) (found : Regex.Match Char Empty) : Option PyStr :=
  let command := slice value (found.start + 1) found.stop
  let cursor := skipSpaces value found.stop
  if command = "frac".toList then do
    let numeratorEnd ← matchingBrace value cursor
    let denominatorStart := skipSpaces value (numeratorEnd + 1)
    let denominatorEnd ← matchingBrace value denominatorStart
    let numerator := slice value (cursor + 1) numeratorEnd
    let denominator := slice value (denominatorStart + 1) denominatorEnd
    some (value.take found.start ++
      ("((".toList ++ numerator ++ ")/(".toList ++ denominator ++ "))".toList) ++
      value.drop (denominatorEnd + 1))
  else do
    let radicandEnd ← matchingBrace value cursor
    let radicand := slice value (cursor + 1) radicandEnd
    some (value.take found.start ++ ("sqrt(".toList ++ radicand ++ ")".toList) ++
      value.drop (radicandEnd + 1))

/-- The loop of `_replace_constant_latex`, for at most `rounds` rounds. -/
def replaceConstantFrom : Nat → PyStr → Option PyStr
  | 0, _ => none
  | rounds + 1, value =>
      match (constructRe.finditer value 0).getLast? with
      | none => some value
      | some found => (replaceConstruct value found).bind (replaceConstantFrom rounds)

/-- `_replace_constant_latex`.  Every round removes the backslash of a command. -/
def replaceConstantLatex (text : PyStr) : Option PyStr :=
  replaceConstantFrom (text.count '\\' + 1) text

def spacingCommands : List PyStr :=
  ["\\,".toList, "\\!".toList, "\\;".toList, "\\:".toList, "\\quad".toList, "\\qquad".toList]

/-- What `_constant_math_expression` replaces before it looks for commands. -/
def constantSteps : List (PyStr × PyStr) :=
  [("\\left".toList, []), ("\\right".toList, []), ("\\displaystyle".toList, []),
    ("\\cdot".toList, ['*']), ("\\times".toList, ['*']), ("\\div".toList, ['/']),
    ("\\pi".toList, "pi".toList), ("^\\circ".toList, []), ("\\degree".toList, []),
    ("°".toList, []), ("\\approx".toList, []), ("\\sim".toList, [])] ++
  spacingCommands.map fun spacing => (spacing, [])

/-- What it replaces in the text without commands. -/
def bracketSteps : List (PyStr × PyStr) :=
  [([leftBrace], ['(']), ([rightBrace], [')']), (['^'], ['*', '*']), (['$'], []), (['&'], [])]

/-- `\d` -/
def isDecimal (c : Char) : Bool := (decimalValue c).isSome

/-- `\d{3}(?:\D|$)` at the start of a text. -/
def threeDigits : PyStr → Bool
  | a :: b :: c :: rest =>
      isDecimal a && isDecimal b && isDecimal c && rest.head?.all fun d => !isDecimal d
  | _ => false

/-- `re.sub(r"(?<=\d),(?=\d{3}(?:\D|$))", "", text)`, after the character `previous`. -/
def dropSeparators (previous : Option Char) : PyStr → PyStr
  | [] => []
  | c :: rest =>
      if c = ',' && previous.any isDecimal && threeDigits rest then dropSeparators (some c) rest
      else c :: dropSeparators (some c) rest

/-- `re.sub(r"(\d|\))(?=(?:sqrt|pi|\())", r"\1*", text)` -/
def multiplyGroups : PyStr → PyStr
  | [] => []
  | c :: rest =>
      if (isDecimal c || c = ')') &&
          ["sqrt", "pi", "("].any fun word => word.toList.isPrefixOf rest then
        c :: '*' :: multiplyGroups rest
      else c :: multiplyGroups rest

/-- `re.sub(r"(pi|\))(?=(?:\d|\())", r"\1*", text)`, after the character `previous`. -/
def multiplyNumbers (previous : Option Char) : PyStr → PyStr
  | [] => []
  | c :: rest =>
      if (c = ')' || (c = 'i' && previous = some 'p')) &&
          rest.head?.any fun d => isDecimal d || d = '(' then
        c :: '*' :: multiplyNumbers (some c) rest
      else c :: multiplyNumbers (some c) rest

/-- `value.rsplit("=", 1)[-1].strip()` when there is an equals sign. -/
def afterEquals (value : PyStr) : PyStr :=
  if value.contains '=' then strip (value.reverse.takeWhile (· ≠ '=')).reverse else value

/-- What is done to the text once its commands are rewritten. -/
def finishExpression (converted : PyStr) : PyStr :=
  let value := replaceEach bracketSteps converted
  let value := dropSeparators none value
  let value := value.filter fun c => !isSpace c
  multiplyNumbers none (multiplyGroups value)

/-- `_constant_math_expression` -/
def constantMathExpression (text : PyStr) : Option PyStr := do
  let value := replaceEach constantSteps (afterEquals (mathPayload text))
  let converted ← replaceConstantLatex value
  let value := finishExpression converted
  if value = [] ∨ 512 < value.length ∨ value.contains '\\' then none else some value

/-! ### The value -/

/-- Python's floats, as far as the evaluator uses them. -/
structure Floats (F : Type) where
  /-- `float(q)`, or `none` where `q` is out of range. -/
  ofRat : ℚ → Option F
  /-- `Fraction(str(x))` -/
  shortest : F → ℚ
  isFinite : F → Bool
  isZero : F → Bool
  isNegative : F → Bool
  pi : F
  neg : F → F
  add : F → F → F
  sub : F → F → F
  mul : F → F → F
  div : F → F → F
  /-- `x ** n`, or `none` where it raises. -/
  pow : F → Int → Option F
  sqrt : F → F
  /-- `math.isclose(x, y, rel_tol=1e-9, abs_tol=1e-12)` -/
  isClose : F → F → Bool

/-- `Fraction | float` -/
inductive Value (F : Type) where
  | exact (q : ℚ)
  | float (x : F)

variable {F : Type}

/-- `float(value)` -/
def Value.toFloat (floats : Floats F) : Value F → Option F
  | .exact q => floats.ofRat q
  | .float x => some x

def Value.neg (floats : Floats F) : Value F → Value F
  | .exact q => .exact (-q)
  | .float x => .float (floats.neg x)

/-- An operation on two fractions, or on two floats when one operand is a float. -/
def arithmetic (floats : Floats F) (onRat : ℚ → ℚ → ℚ) (onFloat : F → F → F)
    (left right : Value F) : Option (Value F) :=
  match left, right with
  | .exact p, .exact q => some (.exact (onRat p q))
  | left, right => do
      let x ← left.toFloat floats
      let y ← right.toFloat floats
      some (.float (onFloat x y))

def Value.isZero (floats : Floats F) : Value F → Bool
  | .exact q => q = 0
  | .float x => floats.isZero x

/-- `left ** right` for an exponent that is an integer up to 1000. -/
def power (floats : Floats F) (left : Value F) : Value F → Option (Value F)
  | .exact q =>
      if q.den ≠ 1 ∨ 1000 < q.num.natAbs then none
      else
        match left with
        | .exact p => if p = 0 ∧ q.num < 0 then none else some (.exact (p ^ q.num))
        | .float x => (floats.pow x q.num).map .float
  | .float _ => none

def operate (floats : Floats F) (left : Value F) : Ast.Operator → Value F → Option (Value F)
  | .add, right => arithmetic floats (· + ·) floats.add left right
  | .sub, right => arithmetic floats (· - ·) floats.sub left right
  | .mult, right => arithmetic floats (· * ·) floats.mul left right
  | .div, right =>
      if right.isZero floats then none
      else arithmetic floats (· / ·) floats.div left right
  | .pow, right => power floats left right
  | _, _ => none

/-- The square root of an argument that is not negative, exact for a square of a
    fraction. -/
def squareRoot (floats : Floats F) : Value F → Option (Value F)
  | .exact q =>
      if q < 0 then none
      else
        let numerator := Nat.sqrt q.num.toNat
        let denominator := Nat.sqrt q.den
        if numerator * numerator = q.num.toNat ∧ denominator * denominator = q.den then
          some (.exact (numerator / denominator))
        else (floats.ofRat q).map fun x => .float (floats.sqrt x)
  | .float x => if floats.isNegative x then none else some (.float (floats.sqrt x))

/-- `_evaluate_constant_node` -/
def evaluateConstantNode (floats : Floats F) : Node → Option (Value F)
  | .int value => some (.exact value)
  | .float value => (floats.ofRat value).map fun x => .exact (floats.shortest x)
  | .unaryOp .uAdd operand => evaluateConstantNode floats operand
  | .unaryOp .uSub operand => (evaluateConstantNode floats operand).map (Value.neg floats)
  | .binOp left op right => do
      let left ← evaluateConstantNode floats left
      let right ← evaluateConstantNode floats right
      operate floats left op right
  | .name id => if id = "pi".toList then some (.float floats.pi) else none
  | .call func argument =>
      if func = .name "sqrt".toList then
        (evaluateConstantNode floats argument).bind (squareRoot floats)
      else none
  | .other _ => none

/-- `_constant_math_value` -/
def constantMathValue (floats : Floats F) (text : PyStr) : Option (Value F) := do
  let expression ← constantMathExpression text
  let tree ← Ast.parse expression
  -- the node of the expression itself is walked too
  if 128 < tree.size + 1 then none
  else
    let value ← evaluateConstantNode floats tree
    let x ← value.toFloat floats
    if floats.isFinite x then some value else none

/-- `_constant_math_equal` -/
def constantMathEqual (floats : Floats F) (prediction target : PyStr) : Bool :=
  match constantMathValue floats prediction, constantMathValue floats target with
  | some (.exact left), some (.exact right) => left = right
  | some left, some right =>
      match left.toFloat floats, right.toFloat floats with
      | some x, some y => floats.isClose x y
      | _, _ => false
  | _, _ => false

end R2opl
