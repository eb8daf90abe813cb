import Mathlib.Data.List.Sort
import Mathlib.Data.Prod.Lex
import R2opl.Patterns
import R2opl.Splitter.TextSteps

/-!
# Protected ranges

The scanners of `utils/conservative_step_splitter.py` for code fences, display mathematics,
think tags, LaTeX environments, tables and compact lists.  Inside of what they find no
boundary is set.
-/

namespace R2opl

open Checked Regex

/-- The named groups of the splitter's patterns. -/
inductive SplitterGroup where
  | indent
  | heading
  | family
  | number
  | title
  | mark
  | env
deriving DecidableEq

abbrev SplitterRegex := Regex Char SplitterGroup

/-- A text that the group did not take part in counts as empty. -/
def groupText (found : Match Char SplitterGroup) (name : SplitterGroup) : PyStr :=
  (found.group name).getD []

/-! ### Delimiters -/

/-- `_delimiter_ranges`.  Every round moves the cursor, so the length of the text bounds the
    number of rounds. -/
def delimiterRangesFrom (text : PyStr) (opening : SplitterRegex)
    (closingFactory : Match Char SplitterGroup → Except PyError SplitterRegex) :
    Nat → Nat → Except PyError (List (Nat × Nat))
  | 0, _ => .ok []
  | rounds + 1, cursor =>
      match opening.search text cursor with
      | none => .ok []
      | some begin => do
          let closing ← closingFactory begin
          match closing.search text begin.stop with
          | none => return [(begin.start, text.length)]
          | some close =>
              let later ← delimiterRangesFrom text opening closingFactory rounds close.stop
              return (begin.start, close.stop) :: later

def delimiterRanges (text : PyStr) (opening : SplitterRegex)
    (closingFactory : Match Char SplitterGroup → Except PyError SplitterRegex) :
    Except PyError (List (Nat × Nat)) :=
  delimiterRangesFrom text opening closingFactory (text.length + 1) 0

/-- `_simple_delimiter_ranges` -/
def simpleDelimiterRanges (text : PyStr) (opening closing : SplitterRegex) :
    Except PyError (List (Nat × Nat)) :=
  delimiterRanges text opening fun _ => .ok closing

/-- `(?m)^[ \t]{0,3}` -/
def fenceIndent : SplitterRegex := .seq Pattern.lineStart (.upTo Pattern.blank 3)

/-- `(?:\n|$)` under `(?m)`. -/
def lineEnding : SplitterRegex := .alt (Pattern.char '\n') Pattern.lineEnd

def fenceRe : SplitterRegex :=
  .sequence [fenceIndent,
    .group .mark (.alt (.atLeast (Pattern.char '\x60') 3) (.atLeast (Pattern.char '~') 3)),
    .star (Pattern.noneOf "\n"), lineEnding]

/-- The largest repetition number of a pattern, excluded. -/
def maxRepeat : Nat := 4294967295

/-- `closing_factory` of `_fenced_code_ranges`: at least as many of the same character. -/
def fenceClosing (found : Match Char SplitterGroup) : Except PyError SplitterRegex := do
  let marker := groupText found .mark
  raiseIf (maxRepeat ≤ marker.length) ⟨.overflowError, "the repetition number is too large"⟩
  return .sequence [fenceIndent, .atLeast (Pattern.char (marker.headD '\x60')) marker.length,
    .star Pattern.blank, lineEnding]

/-- `_fenced_code_ranges` -/
def fencedCodeRanges (text : PyStr) : Except PyError (List (Nat × Nat)) :=
  delimiterRanges text fenceRe fenceClosing

def displayDollarRe : SplitterRegex := .seq Pattern.unescaped (Pattern.literal "$$")

def thinkRe : SplitterRegex :=
  .sequence [Pattern.char '<', Pattern.literalIgnoringCase "think", Pattern.wordBoundary,
    .star (Pattern.noneOf ">"), Pattern.char '>']

def thinkEndRe : SplitterRegex :=
  .sequence [Pattern.literal "</", Pattern.literalIgnoringCase "think", .star Pattern.space,
    Pattern.char '>']

/-! ### LaTeX environments -/

def latexBeginRe : SplitterRegex :=
  .sequence [Pattern.literal "\\begin\x7b",
    .group .env (.choice [
      .seq (Pattern.literal "equation") (.optional (Pattern.char '*')),
      .seq (Pattern.literal "align") (.optional (Pattern.char '*')),
      Pattern.literal "aligned",
      .seq (Pattern.literal "gather") (.optional (Pattern.char '*')),
      .seq (Pattern.literal "multline") (.optional (Pattern.char '*')),
      Pattern.literal "cases", Pattern.literal "array", Pattern.literal "matrix",
      Pattern.literal "pmatrix", Pattern.literal "bmatrix", Pattern.literal "vmatrix",
      Pattern.literal "Vmatrix", Pattern.literal "tabular"]),
    Pattern.char '\x7d']

/-- `\\(?:begin|end)\x7bname\x7d` -/
def environmentTokenRe (environment : PyStr) : SplitterRegex :=
  .sequence [Pattern.char '\\', .choice (["begin", "end"].map Pattern.literal),
    Pattern.char '\x7b', Pattern.literal (String.ofList environment), Pattern.char '\x7d']

/-- Where the environment ends that `depth` of its kind are open in. -/
def environmentEnd (text : PyStr) : Nat → List (Match Char SplitterGroup) → Nat
  | _, [] => text.length
  | depth, token :: rest =>
      let depth :=
        if "\\begin".toList.isPrefixOf (slice text token.start token.stop) then depth + 1
        else depth - 1
      if depth = 0 then token.stop else environmentEnd text depth rest

/-- The loop of `_latex_environment_ranges`. -/
def latexEnvironmentRangesFrom (text : PyStr) : Nat → Nat → List (Nat × Nat)
  | 0, _ => []
  | rounds + 1, cursor =>
      match latexBeginRe.search text cursor with
      | none => []
      | some begin =>
          let tokens := (environmentTokenRe (groupText begin .env)).finditer text begin.stop
          let endPosition := environmentEnd text 1 tokens
          if endPosition = text.length then [(begin.start, endPosition)]
          else (begin.start, endPosition) :: latexEnvironmentRangesFrom text rounds endPosition

def latexEnvironmentRanges (text : PyStr) : List (Nat × Nat) :=
  latexEnvironmentRangesFrom text (text.length + 1) 0

/-! ### Tables and lists -/

/-- `^[ \t]*\|?[ \t]*:?-{3,}:?[ \t]*(?:\|[ \t]*:?-{3,}:?[ \t]*)+\|?[ \t]*$` -/
def tableSeparatorRe : SplitterRegex :=
  let cell : SplitterRegex := .sequence [.star Pattern.blank, .optional (Pattern.char ':'),
    .atLeast (Pattern.char '-') 3, .optional (Pattern.char ':'), .star Pattern.blank]
  .sequence [Pattern.textStart, .star Pattern.blank, .optional (Pattern.char '|'), cell,
    .plus (.seq (Pattern.char '|') cell), .optional (Pattern.char '|'), .star Pattern.blank,
    Pattern.dollar]

def isTableLine (line : Line) : Bool :=
  let stripped := strip line.text
  stripped ≠ [] && stripped.contains '|'

/-- A run of table lines that ends, as a range when it is a table. -/
def tableRange (run : List Line) : List (Nat × Nat) :=
  match run.head?, run.getLast? with
  | some first, some last =>
      if 2 ≤ run.length ∧
          ((run.any fun line => (tableSeparatorRe.matchAt line.text 0).isSome) ||
            run.all fun line => (strip line.text).head? = some '|') then
        [(first.start, last.stop)]
      else []
  | _, _ => []

/-- `_table_ranges`, after the lines of the current run. -/
def tableRangesFrom (run : List Line) : List Line → List (Nat × Nat)
  | [] => tableRange run
  | line :: rest =>
      if isTableLine line then tableRangesFrom (run ++ [line]) rest
      else tableRange run ++ tableRangesFrom [] rest

def tableRanges (lines : List Line) : List (Nat × Nat) := tableRangesFrom [] lines

/-- `^[ \t]{0,3}(?:[-+*]|\d+[.)]|[A-Za-z][.)])[ \t]+\S` -/
def listLineRe : SplitterRegex :=
  .sequence [Pattern.textStart, .upTo Pattern.blank 3,
    .choice [Pattern.oneOf "-+*", .seq (.plus Pattern.digit) (Pattern.oneOf ".)"),
      .seq (.one fun c => c.isAlpha) (Pattern.oneOf ".)")],
    .plus Pattern.blank, Pattern.nonSpace]

def isListLine (line : Line) : Bool := (listLineRe.matchAt line.text 0).isSome

/-- A run of list lines: where it starts and ends so far, and how many of its lines have a
    marker. -/
structure ListRun where
  start : Nat
  stop : Nat
  markerCount : Nat

def ListRun.range (run : ListRun) : List (Nat × Nat) :=
  if 2 ≤ run.markerCount then [(run.start, run.stop)] else []

/-- `_continuous_list_ranges`, within the current run.  The line that ends a run has no
    marker, so that no run starts at it. -/
def listRangesFrom : Option ListRun → List Line → List (Nat × Nat)
  | run, [] => run.elim [] ListRun.range
  | none, line :: rest =>
      listRangesFrom (if isListLine line then some ⟨line.start, line.stop, 1⟩ else none) rest
  | some run, line :: rest =>
      if strip line.text = [] then run.range ++ listRangesFrom none rest
      else if isListLine line then
        listRangesFrom (some ⟨run.start, line.stop, run.markerCount + 1⟩) rest
      else if line.text.head? = some ' ' ∨ line.text.head? = some '\t' then
        listRangesFrom (some { run with stop := line.stop }) rest
      else run.range ++ listRangesFrom none rest

/-- `_continuous_list_ranges` -/
def continuousListRanges (lines : List Line) : List (Nat × Nat) := listRangesFrom none lines

/-! ### Merging -/

/-- One round of the loop of `_merge_ranges`. -/
def mergeRange (merged : List (Nat × Nat)) (range : Nat × Nat) : List (Nat × Nat) :=
  if range.1 ≥ range.2 then merged
  else
    match merged.getLast? with
    | none => merged ++ [range]
    | some last =>
        if range.1 > last.2 then merged ++ [range]
        else merged.dropLast ++ [(last.1, max last.2 range.2)]

/-- `_merge_ranges` -/
def mergeRanges (ranges : List (Nat × Nat)) : List (Nat × Nat) :=
  (ranges.insertionSort fun left right => toLex left ≤ toLex right).foldl mergeRange []

/-- The raw ranges that `_protected_ranges` merges. -/
def rawRanges (text : PyStr) (lines : List Line) : Except PyError (List (Nat × Nat)) := do
  let fenced ← fencedCodeRanges text
  let dollars ← simpleDelimiterRanges text displayDollarRe displayDollarRe
  let brackets ← simpleDelimiterRanges text (Pattern.literal "\\[") (Pattern.literal "\\]")
  let thoughts ← simpleDelimiterRanges text thinkRe thinkEndRe
  return fenced ++ dollars ++ brackets ++ thoughts ++ latexEnvironmentRanges text ++
    tableRanges lines ++ continuousListRanges lines

def protectedRanges (text : PyStr) (lines : List Line) : Except PyError (List (Nat × Nat)) := do
  return mergeRanges (← rawRanges text lines)

end R2opl
