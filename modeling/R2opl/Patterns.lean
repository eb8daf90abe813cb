import R2opl.Python
import R2opl.Unicode
import R2opl.Lib.Regex

/-!
# The pieces of Python's patterns

The character classes and anchors of `re` over code points, each named for what the
pattern text writes.
-/

namespace R2opl

namespace Pattern

variable {γ : Type}

/-- The character `c`. -/
def char (c : Char) : Regex Char γ := .one fun d => d = c

/-- `[...]` over the listed characters. -/
def oneOf (chars : String) : Regex Char γ := .one fun c => chars.toList.contains c

/-- `[^...]` over the listed characters. -/
def noneOf (chars : String) : Regex Char γ := .one fun c => !chars.toList.contains c

/-- `.` without `re.DOTALL`. -/
def dot : Regex Char γ := .one fun c => c ≠ '\n'

/-- `\s` -/
def space : Regex Char γ := .one isSpace

/-- `\S` -/
def nonSpace : Regex Char γ := .one fun c => !isSpace c

/-- `\d` -/
def digit : Regex Char γ := .one fun c => (decimalValue c).isSome

/-- `[ \t]` -/
def blank : Regex Char γ := oneOf " \t"

/-- `word`, letter by letter. -/
def literal (word : String) : Regex Char γ := .wordBy (fun c d => d = c) word.toList

theorem matches_literal {word : String} {before inside after : PyStr} :
    (literal word : Regex Char γ).Matches before inside after ↔ inside = word.toList := by
  unfold literal
  rw [Regex.matches_wordBy]
  constructor
  · intro h
    have heq : List.Forall₂ (fun c d => c = d) word.toList inside :=
      h.imp fun _ _ hd => (of_decide_eq_true hd).symm
    exact (List.forall₂_eq_eq_eq ▸ heq).symm
  · rintro rfl
    exact List.forall₂_same.mpr fun _ _ => decide_eq_true rfl

/-- The characters that `re.IGNORECASE` takes for the small letter or other
    character `c`. -/
def ignoringCase (c d : Char) : Bool :=
  d.toLower = c || (c = 'i' && (d.toNat = 304 || d.toNat = 305)) ||
    (c = 's' && d.toNat = 383) || (c = 'k' && d.toNat = 8490)

/-- `word`, in small letters, under `re.IGNORECASE`. -/
def literalIgnoringCase (word : String) : Regex Char γ := .wordBy ignoringCase word.toList

/-- `[...]` over the listed small letters, under `re.IGNORECASE`. -/
def oneOfIgnoringCase (letters : String) : Regex Char γ :=
  .one fun d => letters.toList.any fun c => ignoringCase c d

def isWord (c : Char) : Bool := c = '_' || isAlnum c

/-- `\b` -/
def wordBoundary : Regex Char γ := .look fun previous next =>
  previous.any isWord != next.any isWord

/-- `(?<!\\)` -/
def unescaped : Regex Char γ := .look fun previous _ => previous ≠ some '\\'

/-- `^` without `re.MULTILINE`. -/
def textStart : Regex Char γ := .look fun previous _ => previous.isNone

/-- `$` without `re.MULTILINE`: the end, or before the line feed at the end. -/
def dollar : Regex Char γ :=
  .ahead (.alt .textEnd (.seq (char '\n') .textEnd))

/-- `^` with `re.MULTILINE`. -/
def lineStart : Regex Char γ := .look fun previous _ => previous.isNone || previous = some '\n'

/-- `$` with `re.MULTILINE`. -/
def lineEnd : Regex Char γ := .look fun _ next => next.isNone || next = some '\n'

end Pattern

end R2opl
