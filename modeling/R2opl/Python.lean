import R2opl.Lib.Checked

/-!
# Python values used throughout the sources

Exceptions carry their class and their text; strings are sequences of code
points, so that Python's `len`, slicing and `startswith` are the list
operations.
-/

namespace R2opl

open Checked

inductive ExceptionClass where
  | valueError
  | runtimeError
  | typeError
  | osError
  | fileExistsError
  | fileNotFoundError
  | indexError
  | keyError
  | zeroDivisionError
  | assertionError
  | overflowError
  | notImplementedError
  | attributeError
deriving DecidableEq, Repr

structure PyError where
  cls : ExceptionClass
  message : String
deriving DecidableEq, Repr

def valueError (message : String) : PyError := ⟨.valueError, message⟩

def runtimeError (message : String) : PyError := ⟨.runtimeError, message⟩

def notImplementedError (message : String) : PyError := ⟨.notImplementedError, message⟩

/-- `try: x except Exception as exc: raise error from exc`. -/
def raiseFrom (x : Except PyError α) (error : PyError) : Except PyError α :=
  x.mapError fun _ => error

@[simp] theorem raiseFrom_eq_ok {x : Except PyError α} {error : PyError} {a : α} :
    raiseFrom x error = .ok a ↔ x = .ok a := by
  cases x with
  | error e => simp [raiseFrom, Except.mapError]
  | ok b => simp [raiseFrom, Except.mapError]

/-- A Python `str`. -/
abbrev PyStr := List Char

instance lawfulBEqText : LawfulBEq PyStr := inferInstanceAs (LawfulBEq (List Char))

/-- What holds of the characters of a text is decided on them, not on all characters. -/
instance (priority := 2000) decidableForallText (p : Char → Prop) [DecidablePred p]
    (text : PyStr) : Decidable (∀ c, c ∈ text → p c) :=
  List.decidableBAll p text

instance (priority := 2000) decidableForallChar (p : Char → Prop) [DecidablePred p]
    (char : Option Char) : Decidable (∀ c, c ∈ char → p c) :=
  Option.decidableForallMem char

/-- `list(zip(left, right, strict=True))`. -/
def zipStrict (left : List α) (right : List β) : Except PyError (List (α × β)) := do
  raiseIf (right.length < left.length)
    (valueError "zip() argument 2 is shorter than argument 1")
  raiseIf (left.length < right.length)
    (valueError "zip() argument 2 is longer than argument 1")
  return left.zip right

theorem zipStrict_eq_ok {left : List α} {right : List β} {pairs : List (α × β)} :
    zipStrict left right = .ok pairs ↔
      left.length = right.length ∧ pairs = left.zip right := by
  simp only [zipStrict, raiseIf_bind_eq_ok, pure_eq_ok, Except.ok.injEq]
  constructor
  · rintro ⟨hshort, hlong, rfl⟩
    exact ⟨by omega, rfl⟩
  · rintro ⟨hlength, rfl⟩
    exact ⟨by omega, by omega, rfl⟩

/-- `xs[start:stop]` for indices that are not negative. -/
def slice (xs : List α) (start stop : Nat) : List α :=
  (xs.drop start).take (stop - start)

/-- A slice reads a middle segment back when its bounds are that segment's. -/
theorem slice_append_middle (before middle after : List α) {start stop : Nat}
    (hstart : start = before.length) (hstop : stop = before.length + middle.length) :
    slice (before ++ middle ++ after) start stop = middle := by
  subst hstart hstop
  simp [slice, List.append_assoc]

theorem getElem?_slice (xs : List α) (start stop i : Nat) :
    (slice xs start stop)[i]? = if i < stop - start then xs[start + i]? else none := by
  simp only [slice, List.getElem?_take, List.getElem?_drop]

theorem slice_append_slice (xs : List α) {first second third : Nat}
    (hfirst : first ≤ second) (hsecond : second ≤ third) :
    slice xs first second ++ slice xs second third = slice xs first third := by
  simp only [slice]
  rw [show third - first = second - first + (third - second) by omega, List.take_add,
    List.drop_drop, show first + (second - first) = second by omega]

theorem slice_zero (xs : List α) (stop : Nat) : slice xs 0 stop = xs.take stop := rfl

/-! ### Batches -/

/-- `[items[start : start + size] for start in range(0, len(items), size)]`. -/
def batches {α : Type} (size : Nat) (items : List α) : List (List α) :=
  (List.range' 0 ((items.length + size - 1) / size) size).map fun start =>
    slice items start (start + size)

theorem flatten_batches {α : Type} {size : Nat} (hsize : 0 < size) (items : List α) :
    (batches size items).flatten = items := by
  have hstep : ∀ count start, items.length ≤ start + count * size →
      ((List.range' start count size).map fun start =>
        slice items start (start + size)).flatten = items.drop start := by
    intro count
    induction count with
    | zero =>
      intro start hend
      rw [List.drop_of_length_le (by omega)]
      rfl
    | succ count ih =>
      intro start hend
      rw [List.range'_succ, List.map_cons, List.flatten_cons, ih (start + size)]
      · rw [slice, Nat.add_sub_cancel_left, ← List.drop_drop]
        exact List.take_append_drop size (items.drop start)
      · rw [Nat.add_assoc, Nat.add_comm size, ← Nat.succ_mul]
        exact hend
  unfold batches
  rw [hstep _ 0, List.drop_zero]
  have hdiv := Nat.div_add_mod (items.length + size - 1) size
  have hmod := Nat.mod_lt (items.length + size - 1) hsize
  rw [Nat.mul_comm] at hdiv
  omega

/-! ### Strings -/

/-- The code points that `str.isspace` accepts. -/
def isSpace (c : Char) : Bool :=
  let code := c.toNat
  (9 ≤ code && code ≤ 13) || (28 ≤ code && code ≤ 32) || code = 133 || code = 160 ||
    code = 5760 || (8192 ≤ code && code ≤ 8202) || code = 8232 || code = 8233 ||
    code = 8239 || code = 8287 || code = 12288

/-- The same, listed. -/
def spaceCodes : List Nat :=
  [9, 10, 11, 12, 13, 28, 29, 30, 31, 32, 133, 160, 5760, 8192, 8193, 8194, 8195, 8196, 8197, 8198,
    8199, 8200, 8201, 8202, 8232, 8233, 8239, 8287, 12288]

theorem mem_spaceCodes {c : Char} (h : isSpace c = true) : c ∈ spaceCodes.map Char.ofNat := by
  have hcode : c.toNat ∈ spaceCodes := by
    simp only [isSpace, Bool.or_eq_true, Bool.and_eq_true, decide_eq_true_eq] at h
    simp only [spaceCodes, List.mem_cons, List.not_mem_nil, or_false]
    omega
  exact List.mem_map.mpr ⟨c.toNat, hcode, Char.ofNat_toNat c⟩

/-- `text.strip()`. -/
def strip (text : PyStr) : PyStr :=
  ((text.dropWhile isSpace).reverse.dropWhile isSpace).reverse

theorem strip_length_le (text : PyStr) : (strip text).length ≤ text.length := by
  unfold strip
  rw [List.length_reverse]
  refine Nat.le_trans (List.dropWhile_sublist _).length_le ?_
  rw [List.length_reverse]
  exact (List.dropWhile_sublist _).length_le

theorem slice_length_le (text : PyStr) (start stop : Nat) :
    (slice text start stop).length ≤ stop - start := by
  unfold slice
  exact List.length_take_le _ _

/-- A text without space at its ends is stripped. -/
theorem strip_of_ends {text : PyStr} (hhead : ∀ c ∈ text.head?, isSpace c = false)
    (hlast : ∀ c ∈ text.getLast?, isSpace c = false) : strip text = text := by
  have hdrop : ∀ {text : PyStr}, (∀ c ∈ text.head?, isSpace c = false) →
      text.dropWhile isSpace = text := by
    intro text h
    cases text with
    | nil => rfl
    | cons c text => rw [List.dropWhile_cons, if_neg (by rw [h c rfl]; decide)]
  unfold strip
  rw [hdrop hhead, hdrop, List.reverse_reverse]
  rwa [List.head?_reverse]

theorem head?_dropSpace (text : PyStr) :
    ∀ c ∈ (text.dropWhile isSpace).head?, isSpace c = false := by
  intro c hc
  have h := List.head?_dropWhile_not isSpace text
  rw [Option.mem_def.mp hc] at h
  exact h

theorem head?_strip (text : PyStr) : ∀ c ∈ (strip text).head?, isSpace c = false := by
  intro c hc
  -- the first character left is the first one that is no space
  have hpre : strip text <+: text.dropWhile isSpace := by
    unfold strip
    rw [← List.reverse_suffix, List.reverse_reverse]
    exact List.dropWhile_suffix _
  obtain ⟨rest, hrest⟩ := hpre
  obtain ⟨tail, htail⟩ := List.head?_eq_some_iff.mp hc
  apply head?_dropSpace text c
  rw [← hrest, htail]
  rfl

theorem getLast?_strip (text : PyStr) : ∀ c ∈ (strip text).getLast?, isSpace c = false := by
  intro c hc
  unfold strip at hc
  rw [List.getLast?_reverse] at hc
  exact head?_dropSpace _ c hc

theorem strip_strip (text : PyStr) : strip (strip text) = strip text :=
  strip_of_ends (head?_strip text) (getLast?_strip text)

theorem strip_subset (text : PyStr) : strip text ⊆ text := by
  intro c hc
  unfold strip at hc
  have hdrop := (List.dropWhile_sublist isSpace).subset (List.mem_reverse.mp hc)
  exact (List.dropWhile_sublist isSpace).subset (List.mem_reverse.mp hdrop)

theorem slice_subset (text : PyStr) (start stop : Nat) : slice text start stop ⊆ text :=
  fun _ hc => List.mem_of_mem_drop (List.mem_of_mem_take hc)

/-- Stripping drops white space only. -/
theorem filter_strip (text : PyStr) :
    (strip text).filter (fun c => !isSpace c) = text.filter fun c => !isSpace c := by
  have hdrop : ∀ text : PyStr, (text.dropWhile isSpace).filter (fun c => !isSpace c) =
      text.filter fun c => !isSpace c := by
    intro text
    induction text with
    | nil => rfl
    | cons c text ih =>
      by_cases hc : isSpace c = true
      · rw [List.dropWhile_cons, if_pos hc, ih, List.filter_cons, if_neg (by simp [hc])]
      · rw [List.dropWhile_cons, if_neg hc]
  unfold strip
  rw [List.filter_reverse, hdrop, ← List.filter_reverse, List.reverse_reverse, hdrop]

theorem strip_ne_nil {text : PyStr} {c : Char} (hmem : c ∈ text) (hc : isSpace c = false) :
    strip text ≠ [] := by
  intro hnil
  have hfilter := filter_strip text
  rw [hnil, List.filter_nil] at hfilter
  have hkept : c ∈ text.filter fun c => !isSpace c :=
    List.mem_filter.mpr ⟨hmem, by rw [hc]; rfl⟩
  rw [← hfilter] at hkept
  cases hkept

/-- No prefix of a stripped text is blank. -/
theorem strip_take_ne_nil {text : PyStr} (h : strip text ≠ []) {k : Nat} (hk : 1 ≤ k) :
    strip ((strip text).take k) ≠ [] := by
  obtain ⟨c, rest, hstrip⟩ := List.exists_cons_of_ne_nil h
  have hc : isSpace c = false := by
    apply head?_strip text c
    rw [hstrip]
    rfl
  apply strip_ne_nil _ hc
  obtain ⟨n, rfl⟩ := Nat.exists_eq_add_of_le' hk
  rw [hstrip, List.take_succ_cons]
  exact List.mem_cons_self

/-- The characters that end a line for `str.splitlines`. -/
def isLineBreak (c : Char) : Bool :=
  [10, 11, 12, 13, 28, 29, 30, 133, 8232, 8233].contains c.toNat

/-- `text.splitlines(keepends=True)`, after the characters `current` of the line
    being read.  A carriage return does not end its line when a line feed
    follows. -/
def splitLinesKeepEnds (current : PyStr) : PyStr → List PyStr
  | [] => if current = [] then [] else [current]
  | c :: rest =>
      if isLineBreak c ∧ ¬ (c.toNat = 13 ∧ rest.head?.map Char.toNat = some 10) then
        (current ++ [c]) :: splitLinesKeepEnds [] rest
      else splitLinesKeepEnds (current ++ [c]) rest

/-- `text.find(needle, cursor)`, or `none` for the result `-1`. -/
def findFrom (needle text : PyStr) (cursor : Nat) : Option Nat :=
  (List.range' cursor (text.length + 1 - cursor)).find? fun start =>
    needle.isPrefixOf (text.drop start)

/-- The text from here on with `old` replaced, after `skip` characters of the occurrence
    being replaced. -/
def replaceFrom (old new : PyStr) : Nat → PyStr → PyStr
  | _, [] => []
  | skip + 1, _ :: rest => replaceFrom old new skip rest
  | 0, c :: rest =>
      if old.isPrefixOf (c :: rest) then new ++ replaceFrom old new (old.length - 1) rest
      else c :: replaceFrom old new 0 rest

/-- `text.replace(old, new)`, for an `old` that is not empty. -/
def replaceAll (old new text : PyStr) : PyStr := replaceFrom old new 0 text

theorem replaceAll_singleton (c : Char) (new text : PyStr) :
    replaceAll [c] new text = text.flatMap fun d => if d = c then new else [d] := by
  unfold replaceAll
  induction text with
  | nil => rfl
  | cons d text ih =>
    by_cases hd : d = c
    · rw [hd, List.flatMap_cons, if_pos rfl, replaceFrom, if_pos (by simp), ← ih]
      rfl
    · rw [List.flatMap_cons, if_neg hd, replaceFrom, if_neg (by simpa using Ne.symm hd), ih]
      rfl

/-! ### Printing -/

/-- `str(n)`. -/
def natText (n : Nat) : PyStr := Nat.toDigits 10 n

theorem natText_injective : Function.Injective natText := by
  intro m n h
  have hvalue := congrArg (fun digits => Nat.ofDigitChars 10 digits 0) h
  unfold natText at hvalue
  simpa using hvalue

/-- A character that is no digit stands in no number. -/
theorem not_mem_natText {c : Char} (h : c.isDigit = false) (n : Nat) : c ∉ natText n := by
  intro hmem
  have hdigit := Nat.isDigit_of_mem_toDigits (by decide) (by decide) hmem
  rw [h] at hdigit
  cases hdigit

/-- The text of a Python list whose items print as `items`. -/
def listText (items : List String) : String := "[" ++ ", ".intercalate items ++ "]"

/-- The text of a Python tuple whose items print as `items`. -/
def tupleText : List String → String
  | [] => "()"
  | [item] => "(" ++ item ++ ",)"
  | items => "(" ++ ", ".intercalate items ++ ")"

end R2opl
