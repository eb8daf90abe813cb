import Mathlib.Data.Char
import Mathlib.Data.List.DropRight
import Mathlib.Data.List.Lex
import R2opl.Splitter.Scanners

/-!
# Boundary detectors

The detectors of `utils/conservative_step_splitter.py`: markers of numbered steps and of
headings, read line by line outside of the protected ranges, the runs of sibling markers that
the response completes, and the boundary before its final answer.
-/

namespace R2opl

open Checked Regex

/-! ### Markers -/

structure Marker where
  position : Nat
  family : PyStr
  number : Int
  headingLevel : Nat
  reason : String
  confidence : Confidence
deriving DecidableEq, Repr

/-- `(?P<indent>[ \t]*)` at the start. -/
def indentRe : SplitterRegex := .seq Pattern.textStart (.group .indent (.star Pattern.blank))

/-- `(?P<heading>#{1,6})[ \t]+` -/
def headingRe : SplitterRegex :=
  .seq (.group .heading (.between (Pattern.char '#') 1 6)) (.plus Pattern.blank)

/-- `(?:[✅☑🎯]\ufe0f?[ \t]*)?(?:\*{1,2}[ \t]*)?` -/
def decorationRe : SplitterRegex :=
  .seq (.optional (.sequence [Pattern.oneOf "✅☑🎯", .optional (Pattern.char (Char.ofNat 0xfe0f)),
      .star Pattern.blank]))
    (.optional (.seq (.between (Pattern.char '*') 1 2) (.star Pattern.blank)))

def explicitStepRe : SplitterRegex :=
  .sequence [indentRe, .optional headingRe, decorationRe,
    .group .family (.choice (
      .sequence [Pattern.literalIgnoringCase "solution", .plus Pattern.blank,
        Pattern.literalIgnoringCase "step"] ::
      ["step", "part", "case", "operation", "phase", "stage"].map Pattern.literalIgnoringCase)),
    .star Pattern.blank,
    .optional (.sequence [Pattern.literalIgnoringCase "no", .optional (Pattern.char '.'),
      .star Pattern.blank]),
    .optional (Pattern.char '#'), .star Pattern.blank,
    .group .number (.alt (.plus Pattern.digit) (.plus (Pattern.oneOfIgnoringCase "ivxlcdm"))),
    Pattern.wordBoundary]

/-- `(?P<number>\d+)[.)][ \t]+` -/
def numberRe : SplitterRegex :=
  .sequence [.group .number (.plus Pattern.digit), Pattern.oneOf ".)", .plus Pattern.blank]

/-- `[ \t]*(?:[.:：][ \t]*)?$` -/
def headingEndRe : SplitterRegex :=
  .sequence [.star Pattern.blank, .optional (.seq (Pattern.oneOf ".:：") (.star Pattern.blank)),
    Pattern.dollar]

def boldNumberedHeadingRe : SplitterRegex :=
  .sequence [indentRe, .optional headingRe, Pattern.literal "**", numberRe, .plus Pattern.dot,
    Pattern.literal "**", headingEndRe]

def markdownNumberedHeadingRe : SplitterRegex :=
  .sequence [indentRe, headingRe, .optional (.between (Pattern.char '*') 1 2), numberRe,
    Pattern.nonSpace, .plus Pattern.dot, Pattern.dollar]

/-- `(?P<title>[^*\r\n]{2,180})` -/
def boldTitleRe : SplitterRegex := .group .title (.between (Pattern.noneOf "*\r\n") 2 180)

def numberedBoldLabelRe : SplitterRegex :=
  .sequence [indentRe, numberRe, .between (Pattern.char '*') 1 2, boldTitleRe,
    .between (Pattern.char '*') 1 2, .star (Pattern.noneOf "\r\n"), Pattern.dollar]

def markdownHeadingRe : SplitterRegex :=
  .sequence [indentRe, headingRe,
    .group .title (.seq Pattern.nonSpace (.lazyStar Pattern.dot)), .star Pattern.blank,
    Pattern.dollar]

def boldHeadingRe : SplitterRegex :=
  .sequence [indentRe, Pattern.literal "**", boldTitleRe, Pattern.literal "**", headingEndRe]

/-! ### Numbers -/

/-- The value of a Roman digit. -/
def romanDigit (c : Char) : Option Int :=
  match c with
  | 'I' => some 1
  | 'V' => some 5
  | 'X' => some 10
  | 'L' => some 50
  | 'C' => some 100
  | 'D' => some 500
  | 'M' => some 1000
  | _ => none

/-- `value.upper()` for what the pattern of a marker takes for a Roman number. -/
def upperRoman (c : Char) : Char := if c = 'ı' then 'I' else c.toUpper

/-- One round of the loop of `_roman_to_int`: the sum and the largest digit so far. -/
def addRoman (state : Int × Int) (number : Int) : Int × Int :=
  (state.1 + (if number < state.2 then -number else number), max state.2 number)

def romanToInt (value : PyStr) : Option Int := do
  let numbers ← (value.map upperRoman).mapM romanDigit
  if numbers = [] then none
  else some (numbers.reverse.foldl addRoman (0, 0)).1

/-- How many digits `int` converts. -/
def maxStrDigits : Nat := 4300

/-- `int(value)` for a value of digits. -/
def intOfDigits (value : PyStr) : Except PyError Int := do
  raiseIf (maxStrDigits < value.length) (valueError
    (s!"Exceeds the limit ({maxStrDigits} digits) for integer string conversion: " ++
      s!"value has {value.length} digits; use sys.set_int_max_str_digits() to increase the limit"))
  return decimalNumber (value.map fun c => (decimalValue c).getD 0)

/-- `_marker_number`.  A number of the pattern that has a digit has only digits. -/
def markerNumber (value : PyStr) : Except PyError (Option Int) :=
  if value.all fun c => (decimalValue c).isSome then return some (← intOfDigits value)
  else return romanToInt value

/-! ### Complete text -/

def codeSpanRe : SplitterRegex :=
  .sequence [Pattern.literal "\x60\x60\x60", .lazyStar (.one fun _ => true),
    Pattern.literal "\x60\x60\x60"]

/-- The characters that do not count as substance. -/
def markupChars : PyStr := "#*_\x60$\\\x7b\x7d[]()<>|:=+-".toList

def isSubstantive (c : Char) : Bool := !markupChars.contains c && !isSpace c

/-- `_substantive_length` -/
def substantiveLength (value : PyStr) : Nat :=
  ((codeSpanRe.remove value).filter isSubstantive).length

def rstrip (text : PyStr) : PyStr := (text.reverse.dropWhile isSpace).reverse

def singleDollarRe : SplitterRegex := .seq Pattern.unescaped (Pattern.char '$')

/-- `_ends_complete` -/
def endsComplete (value : PyStr) : Bool :=
  let stripped := rstrip value
  if stripped = [] then false
  else if stripped.getLast?.any fun c => ":：,，;；=\\".toList.contains c then false
  else if (singleDollarRe.finditer (displayDollarRe.remove stripped) 0).length % 2 = 1 then false
  else [('(', ')'), ('[', ']'), ('\x7b', '\x7d')].all fun pair =>
    decide (stripped.count pair.1 ≤ stripped.count pair.2)

def firstMarkerBoundaryAllowed (text : PyStr) (position minimum : Nat) : Bool :=
  let before := text.take position
  decide (minimum ≤ substantiveLength before) && endsComplete before

def unitEndRe : SplitterRegex :=
  .sequence [
    .choice [Pattern.oneOf ".!?。！？", singleDollarRe, Pattern.literal "\\]",
      Pattern.literal "\\)",
      .sequence [Pattern.literal "\\end\x7b", .plus (Pattern.noneOf "\x7b\x7d"),
        Pattern.char '\x7d'],
      Pattern.literal "\x60\x60\x60", Pattern.literal "~~~"],
    .star Pattern.space, Pattern.dollar]

/-- `_ends_semantic_unit` -/
def endsSemanticUnit (value : PyStr) : Bool :=
  let stripped := rstrip value
  endsComplete stripped &&
    ((balancedBoxes stripped).getLast?.any (fun box => box.2 = stripped.length) ||
      (unitEndRe.search stripped 0).isSome)

/-! ### Runs -/

/-- One round of the loop of `_increasing_runs`: the runs, and the current one. -/
def extendRun (state : List (List Marker) × List Marker) (marker : Marker) :
    List (List Marker) × List Marker :=
  if state.2.getLast?.any fun last => last.number < marker.number then
    (state.1, state.2 ++ [marker])
  else (if 2 ≤ state.2.length then state.1 ++ [state.2] else state.1, [marker])

/-- `_increasing_runs` -/
def increasingRuns : List Marker → List (List Marker)
  | [] => []
  | first :: rest =>
      let state := rest.foldl extendRun ([], [first])
      if 2 ≤ state.2.length then state.1 ++ [state.2] else state.1

/-- `right.number == left.number + 1` along the run. -/
def isConsecutive (run : List Marker) : Bool :=
  (run.zip run.tail).all fun pair => pair.2.number = pair.1.number + 1

/-- `_complete_run_prefix` -/
def completeRunPrefix (text : PyStr) (minimum : Nat) : List Marker → List Marker
  | [] => []
  | [last] =>
      let segment := slice text last.position text.length
      if substantiveLength segment < minimum ∨ endsSemanticUnit segment = false then []
      else [last]
  | marker :: next :: rest =>
      if substantiveLength (slice text marker.position next.position) < minimum then []
      else marker :: completeRunPrefix text minimum (next :: rest)

def markerBoundary (marker : Marker) : Boundary :=
  ⟨marker.position, marker.reason, marker.confidence⟩

/-- The boundaries of a run; the first one needs a substantive text before it. -/
def runBoundaries (text : PyStr) : List Marker → List Boundary
  | [] => []
  | first :: rest =>
      (if firstMarkerBoundaryAllowed text first.position 80 then [markerBoundary first] else []) ++
        rest.map markerBoundary

/-- The runs of the smallest heading level. -/
def shallowestRuns (runs : List (List Marker)) : List (List Marker) :=
  let levels := runs.filterMap fun run => run.head?.map Marker.headingLevel
  runs.filter fun run => run.head?.any fun first => levels.all fun level => first.headingLevel ≤ level

/-! ### Numbered markers -/

section Numbered

variable (text : PyStr) (lines : List Line) (protected_ : List (Nat × Nat))

def unprotectedLines : List Line := lines.filter fun line => !isProtected line.start protected_

/-- The markers of the lines outside of the protected ranges. -/
def collectMarkers (marker : Line → Except PyError (Option Marker)) :
    Except PyError (List Marker) := do
  return (← (unprotectedLines lines protected_).mapM marker).reduceOption

/-- `line.text.rstrip("\r\n")` -/
def lineContent (line : Line) : PyStr := line.text.rdropWhile fun c => "\r\n".toList.contains c

/-- `value.lower()` for what the pattern of a marker takes for a family. -/
def lowerFamily (value : PyStr) : PyStr :=
  value.flatMap fun c => if c.toNat = 304 then ['i', Char.ofNat 0x307] else [c.toLower]

def explicitMarker (line : Line) : Except PyError (Option Marker) :=
  match explicitStepRe.matchAt line.text 0 with
  | none => return none
  | some found => do
      if groupText found .indent ≠ [] then return none
      match ← markerNumber (groupText found .number) with
      | none => return none
      | some number =>
          let family := replaceAll "solution ".toList [] (lowerFamily (groupText found .family))
          let heading := groupText found .heading
          if family = "case".toList ∧ heading = [] then return none
          return some {
            position := line.start
            family
            number
            headingLevel := heading.length
            reason := "explicit_step_sequence"
            confidence := .hard }

/-- A numbered marker of one of the other families: its number, and its heading, if any. -/
def numberedMarker (pattern : SplitterRegex) (family reason : String) (line : Line) :
    Except PyError (Option Marker) :=
  match pattern.matchAt (lineContent line) 0 with
  | none => return none
  | some found => do
      if groupText found .indent ≠ [] then return none
      let number ← intOfDigits (groupText found .number)
      return some {
        position := line.start
        family := family.toList
        number
        headingLevel := (groupText found .heading).length
        reason
        confidence := .hard }

def boldNumberedMarker : Line → Except PyError (Option Marker) :=
  numberedMarker boldNumberedHeadingRe "bold_numbered_heading" "bold_numbered_heading_sequence"

def markdownNumberedMarker : Line → Except PyError (Option Marker) :=
  numberedMarker markdownNumberedHeadingRe "markdown_numbered_heading"
    "markdown_numbered_heading_sequence"

def numberedReasoningMarker : Line → Except PyError (Option Marker) :=
  numberedMarker numberedBoldLabelRe "numbered_reasoning" "numbered_reasoning_sequence"

/-- `sorted` of the signatures of the markers, each once. -/
def signatures (markers : List Marker) : List (PyStr × Nat) :=
  (markers.map fun marker => (marker.family, marker.headingLevel)).dedup.insertionSort
    fun a b => toLex a ≤ toLex b

def siblings (markers : List Marker) (signature : PyStr × Nat) : List Marker :=
  markers.filter fun marker => (marker.family, marker.headingLevel) = signature

/-- The runs of at least two markers that the response completes. -/
def completeRuns (minimum : Nat) (runs : List (List Marker)) : List (List Marker) :=
  (runs.map (completeRunPrefix text minimum)).filter fun run => 2 ≤ run.length

/-- The valid runs of `_explicit_boundaries`. -/
def explicitRuns : Except PyError (List (List Marker)) := do
  let markers ← collectMarkers lines protected_ explicitMarker
  return shallowestRuns ((signatures markers).flatMap fun signature =>
    completeRuns text 28 (increasingRuns (siblings markers signature)))

def boldNumberedHeadingRuns : Except PyError (List (List Marker)) := do
  let markers ← collectMarkers lines protected_ boldNumberedMarker
  return (signatures markers).flatMap fun signature =>
    completeRuns text 80 ((increasingRuns (siblings markers signature)).filter isConsecutive)

def markdownNumberedHeadingRuns : Except PyError (List (List Marker)) := do
  let markers ← collectMarkers lines protected_ markdownNumberedMarker
  return shallowestRuns ((signatures markers).flatMap fun signature =>
    completeRuns text 60 ((increasingRuns (siblings markers signature)).filter isConsecutive))

/-- A stem with one of its endings, ignoring case. -/
def stemRe (stem : String) (endings : List String) : SplitterRegex :=
  .seq (Pattern.literalIgnoringCase stem) (.choice (endings.map Pattern.literalIgnoringCase))

def reasoningLabelRe : SplitterRegex :=
  .sequence [Pattern.wordBoundary,
    .choice (["step", "premise", "assumption", "observation", "inference", "deduction", "analysis",
        "case"].map Pattern.literalIgnoringCase ++
      [stemRe "calculat" ["e", "ion"], stemRe "deriv" ["e", "ation"],
        Pattern.literalIgnoringCase "determine", stemRe "evaluat" ["e", "ion"],
        Pattern.literalIgnoringCase "eliminate", Pattern.literalIgnoringCase "conclusion",
        Pattern.literalIgnoringCase "result", stemRe "substitut" ["e", "ion"],
        stemRe "simplif" ["y", "ication"], stemRe "comput" ["e", "ation"]] ++
      ["setup", "identify", "interpret", "compare", "apply", "verify", "check", "solve", "proof",
        "approach", "method"].map Pattern.literalIgnoringCase),
    Pattern.wordBoundary]

/-- The line of a marker has a title that names a step of reasoning. -/
def isLabelled (lines : List Line) (marker : Marker) : Bool :=
  lines.any fun line => decide (line.start = marker.position) &&
    (numberedBoldLabelRe.matchAt (lineContent line) 0).any fun found =>
      (reasoningLabelRe.search (groupText found .title) 0).isSome

def numberedReasoningRuns : Except PyError (List (List Marker)) := do
  let markers ← collectMarkers lines protected_ numberedReasoningMarker
  let runs := completeRuns text 80 ((increasingRuns markers).filter isConsecutive)
  return runs.filter fun run =>
    let labelled := run.countP (isLabelled lines)
    decide (2 ≤ labelled ∧ run.length ≤ labelled * 2)

end Numbered

/-! ### Headings -/

/-- The words with `[ \t]+` between them, ignoring case. -/
def wordsRe : List String → SplitterRegex
  | [] => nothing
  | [word] => Pattern.literalIgnoringCase word
  | word :: rest => .sequence [Pattern.literalIgnoringCase word, .plus Pattern.blank, wordsRe rest]

/-- `(?:[ \t]+body)?` -/
def afterBlanks (body : SplitterRegex) : SplitterRegex := .optional (.seq (.plus Pattern.blank) body)

/-- `words?` at the end: the last letter may be missing. -/
def plural (word : SplitterRegex) : SplitterRegex :=
  .seq word (.optional (Pattern.literalIgnoringCase "s"))

def optionHeadingRe : SplitterRegex :=
  .sequence [Pattern.textStart,
    .optional (.seq (.choice [wordsRe ["option"], wordsRe ["choice"]]) (.plus Pattern.blank)),
    Pattern.oneOfIgnoringCase "abcdefghij",
    .alt (Pattern.oneOf ".)]:：-") (.seq (.star Pattern.blank) Pattern.dollar)]

/-- `_NON_REASONING_HEADING_RE` without its anchors. -/
def nonReasoningHeadingRe : SplitterRegex :=
  .choice [wordsRe ["question"], plural (wordsRe ["choice"]), plural (wordsRe ["option"]),
    plural (wordsRe ["answer", "choice"]), .seq (wordsRe ["problem"]) (afterBlanks (wordsRe ["statement"])),
    .seq (wordsRe ["given"]) (afterBlanks (plural (wordsRe ["condition"]))), wordsRe ["passage"],
    wordsRe ["goal"], .seq (wordsRe ["background"]) (afterBlanks (wordsRe ["theory"])),
    .sequence [wordsRe ["key"], .plus Pattern.blank,
      .choice [plural (wordsRe ["point"]), wordsRe ["information"], plural (wordsRe ["concept"]),
        plural (wordsRe ["element"]), wordsRe ["properties"]],
      afterBlanks (.sequence [.choice [wordsRe ["from"], wordsRe ["of"]], .plus Pattern.blank,
        .optional (.seq (wordsRe ["the"]) (.plus Pattern.blank)),
        .choice [wordsRe ["problem"], wordsRe ["passage"], wordsRe ["argument"]]])],
    plural (wordsRe ["definition"]), wordsRe ["definition", "recap"], wordsRe ["passage", "summary"],
    wordsRe ["argument", "summary"],
    .sequence [wordsRe ["summary", "of", "the"], .plus Pattern.blank,
      .choice [wordsRe ["argument"], wordsRe ["passage"], plural (wordsRe ["view"])]],
    wordsRe ["the", "issue"]]

def structuredComponentHeadingRe : SplitterRegex :=
  .sequence [Pattern.textStart,
    .choice [
      .sequence [.choice (["first", "second", "third", "fourth", "fifth", "sixth", "next", "last",
          "overall"].map Pattern.literalIgnoringCase), .plus Pattern.blank,
        .choice ((["term", "component", "expression", "equation", "factor"].map
            Pattern.literalIgnoringCase) ++
          [.seq (wordsRe ["relation"]) (.optional (wordsRe ["ship"])), wordsRe ["case"],
            wordsRe ["part"]])],
      .sequence [wordsRe ["relation"], .optional (wordsRe ["ship"]), .plus Pattern.blank,
        wordsRe ["between"]],
      .seq (wordsRe ["hypothesis"]) (afterBlanks (wordsRe ["based", "on"])),
      .seq (wordsRe ["assumption"]) Pattern.wordBoundary]]

def finalHeadingRe : SplitterRegex :=
  .sequence [Pattern.textStart, .star Pattern.blank,
    .optional (.seq (.between (Pattern.char '#') 1 6) (.plus Pattern.blank)), decorationRe,
    .choice [
      .sequence [wordsRe ["final"], .plus Pattern.blank,
        .choice [wordsRe ["answer"], wordsRe ["result"], wordsRe ["conclusion"]]],
      wordsRe ["correct", "answer"], Pattern.literal "最终答案", Pattern.literal "最终结果",
      Pattern.literal "结论"],
    Pattern.wordBoundary]

def openingMarkRe : SplitterRegex :=
  .sequence [Pattern.textStart,
    .alt (.between (Pattern.char '*') 1 2) (.between (Pattern.char '_') 1 2), .star Pattern.blank]

def closingMarkRe : SplitterRegex :=
  .sequence [.star Pattern.blank,
    .alt (.between (Pattern.char '*') 1 2) (.between (Pattern.char '_') 1 2),
    .ahead (.sequence [.star Pattern.blank, .optional (Pattern.oneOf ".:："), .star Pattern.blank,
      Pattern.dollar])]

/-- `_normalized_heading_title` -/
def normalizedHeadingTitle (value : PyStr) : PyStr :=
  strip ((strip (closingMarkRe.remove (openingMarkRe.remove (strip value)))).rdropWhile
    fun c => ".:：".toList.contains c)

/-- What no heading of a step starts with. -/
def quotedStarts : List PyStr := ["\"", "'", "“", "‘", "→", "⇒", "=>"].map String.toList

def enumeratedRe : SplitterRegex := .seq Pattern.textStart numberRe

/-- `_is_semantic_heading` -/
def isSemanticHeading (title : PyStr) (requireProcessLabel : Bool) : Bool :=
  let title := normalizedHeadingTitle (strip title)
  if title = [] ∨ 120 < title.length then false
  else if quotedStarts.any fun start => start.isPrefixOf title then false
  else if (optionHeadingRe.matchAt title 0).isSome then false
  else if (nonReasoningHeadingRe.fullmatch title).isSome then false
  else if (enumeratedRe.matchAt title 0).isSome then false
  else if (explicitStepRe.matchAt title 0).isSome ∨ (finalHeadingRe.matchAt title 0).isSome then false
  else if substantiveLength title < 3 then false
  else !requireProcessLabel || (reasoningLabelRe.search title 0).isSome ||
    (structuredComponentHeadingRe.matchAt title 0).isSome

/-- A Markdown heading that is not indented. -/
def markdownHeading (line : Line) : Option (Match Char SplitterGroup) :=
  (markdownHeadingRe.matchAt (lineContent line) 0).filter fun found => groupText found .indent = []

/-- A bold line that is no Markdown heading, not indented. -/
def boldHeading (line : Line) : Option (Match Char SplitterGroup) :=
  if (markdownHeading line).isSome then none
  else (boldHeadingRe.matchAt (lineContent line) 0).filter fun found => groupText found .indent = []

/-- The semantic headings of one kind, numbered in their order. -/
def semanticMarkers (lines : List Line) (heading : Line → Option (Match Char SplitterGroup))
    (family : String) (requireProcessLabel : Bool) : List Marker :=
  let found := lines.filterMap fun line => (heading line).bind fun found =>
    if isSemanticHeading (groupText found .title) requireProcessLabel then some (line, found)
    else none
  found.mapIdx fun index item => {
    position := item.1.start
    family := family.toList
    number := index + 1
    headingLevel := (groupText item.2 .heading).length
    reason := "semantic_heading_sequence"
    confidence := .hard }

/-- The runs of `_semantic_heading_boundaries`: of Markdown headings, or else of bold lines. -/
def semanticHeadingRuns (text : PyStr) (lines : List Line) (protected_ : List (Nat × Nat)) :
    List (List Marker) :=
  let open_ := unprotectedLines lines protected_
  let markdown := semanticMarkers open_ markdownHeading "semantic_markdown_heading" false
  let bold := semanticMarkers open_ boldHeading "semantic_bold_heading" true
  let validMarkdown := completeRuns text 50 ((signatures markdown).map (siblings markdown))
  if validMarkdown ≠ [] then shallowestRuns validMarkdown
  else completeRuns text 60 [bold]

/-! ### The final answer -/

/-- `_final_answer_boundary` -/
def finalAnswerBoundary (text : PyStr) (lines : List Line) (protected_ : List (Nat × Nat))
    (finalBox : Option (Nat × Nat)) : Option Boundary :=
  match finalBox with
  | none => none
  | some box =>
      let candidates := ((unprotectedLines lines protected_).filter fun line =>
        decide (line.start ≤ box.1) && (finalHeadingRe.matchAt line.text 0).isSome).map Line.start
      match candidates.max? with
      | none => none
      | some position =>
          if position = 0 ∨ substantiveLength (slice text position box.2) < 4 then none
          else some ⟨position, "final_answer_heading", .hard⟩

/-- `\r?\n` -/
def newlineRe : SplitterRegex := .seq (.optional (Pattern.char '\r')) (Pattern.char '\n')

def paragraphEndRe : SplitterRegex :=
  .sequence [newlineRe, .star Pattern.blank, .plus newlineRe]

def finalParagraphCueRe : SplitterRegex :=
  .sequence [Pattern.textStart, .star Pattern.blank,
    .optional (.seq (.between (Pattern.char '*') 1 2) (.star Pattern.blank)),
    .choice [wordsRe ["therefore"], wordsRe ["thus"], wordsRe ["hence"], wordsRe ["consequently"],
      wordsRe ["in", "conclusion"], wordsRe ["finally"], wordsRe ["overall"],
      wordsRe ["we", "conclude"], wordsRe ["this", "gives"], wordsRe ["this", "yields"],
      .sequence [wordsRe ["the"], .plus Pattern.blank, .choice [wordsRe ["final"], wordsRe ["correct"]],
        .plus Pattern.blank, wordsRe ["answer"]],
      wordsRe ["the", "answer", "is"],
      .sequence [wordsRe ["answer"], .star Pattern.blank, Pattern.char ':']]]

/-- `_final_answer_paragraph_boundary` -/
def finalAnswerParagraphBoundary (text : PyStr) (protected_ : List (Nat × Nat))
    (finalBox : Option (Nat × Nat)) : Option Boundary :=
  match finalBox with
  | none => none
  | some box =>
      match (paragraphEndRe.finditer (text.take box.1) 0).getLast? with
      | none => none
      | some separator =>
          let position := separator.stop
          let lead := slice text position box.1
          let leadLength := substantiveLength lead
          let cued := (finalParagraphCueRe.matchAt (lead.dropWhile isSpace) 0).isSome
          if position = 0 ∨ box.1 ≤ position then none
          else if isProtected position protected_ then none
          else if substantiveLength (text.take position) < 80 ∨
              endsSemanticUnit (text.take position) = false then none
          else if 0 < substantiveLength (text.drop box.2) then none
          else if 48 < leadLength ∧ ¬ (cued ∧ leadLength ≤ 320) then none
          else some ⟨position, "final_answer_paragraph", .hard⟩

/-! ### The splitter's detectors -/

/-- A detector that reports the boundaries of its runs. -/
def detectRuns (runs : PyStr → List Line → List (Nat × Nat) → Except PyError (List (List Marker))) :
    BoundaryDetector := fun text lines protected_ => do
  return (← runs text lines protected_).flatMap (runBoundaries text)

def conservativeDetectors : Detectors where
  protectedRanges := protectedRanges
  explicitBoundaries := detectRuns explicitRuns
  markdownNumberedHeadingBoundaries := detectRuns markdownNumberedHeadingRuns
  boldNumberedHeadingBoundaries := detectRuns boldNumberedHeadingRuns
  numberedReasoningBoundaries := detectRuns numberedReasoningRuns
  semanticHeadingBoundaries := detectRuns fun text lines protected_ =>
    .ok (semanticHeadingRuns text lines protected_)
  finalAnswerBoundary := fun text lines protected_ finalBox =>
    .ok (finalAnswerBoundary text lines protected_ finalBox)
  finalAnswerParagraphBoundary := fun text protected_ finalBox =>
    .ok (finalAnswerParagraphBoundary text protected_ finalBox)

end R2opl
