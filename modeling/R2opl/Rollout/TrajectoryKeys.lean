import Mathlib.Data.List.DropRight
import R2opl.Rollout.ReplayBuffer
import R2opl.Splitter.Detectors

/-!
# Keys of trajectories

The trainer gets the session of a trajectory from its key, with `key.rsplit("_", 2)`.  A uid may
contain underscores; the numbers behind it do not.
-/

namespace R2opl

open Checked

/-! ### Splitting from the right -/

/-- `text.rsplit(sep, 1)`, where there is a separator. -/
def rsplitOnce (sep : Char) (text : PyStr) : Option (PyStr × PyStr) :=
  let front := text.rdropWhile (· ≠ sep)
  if front = [] then none else some (front.dropLast, text.rtakeWhile (· ≠ sep))

/-- `text.rsplit(sep, maxsplit)` -/
def rsplit (sep : Char) : Nat → PyStr → List PyStr
  | 0, text => [text]
  | maxsplit + 1, text =>
      match rsplitOnce sep text with
      | none => [text]
      | some (front, last) => rsplit sep maxsplit front ++ [last]

theorem rdropWhile_append_right {α : Type} {p : α → Bool} (front : List α) {last : List α}
    (h : ∀ x ∈ last, p x = true) : (front ++ last).rdropWhile p = front.rdropWhile p := by
  induction last using List.reverseRecOn with
  | nil => rw [List.append_nil]
  | append_singleton last x ih =>
    rw [← List.append_assoc, List.rdropWhile_concat_pos _ _ _ (h x (by simp))]
    exact ih fun y hy => h y (List.mem_append_left _ hy)

theorem rtakeWhile_append_right {α : Type} {p : α → Bool} (front : List α) {last : List α}
    (h : ∀ x ∈ last, p x = true) : (front ++ last).rtakeWhile p = front.rtakeWhile p ++ last := by
  induction last using List.reverseRecOn with
  | nil => rw [List.append_nil, List.append_nil]
  | append_singleton last x ih =>
    rw [← List.append_assoc, List.rtakeWhile_concat_pos _ _ _ (h x (by simp)),
      ih fun y hy => h y (List.mem_append_left _ hy), List.append_assoc]

theorem rsplitOnce_append {sep : Char} (front : PyStr) {last : PyStr} (h : sep ∉ last) :
    rsplitOnce sep (front ++ sep :: last) = some (front, last) := by
  have hlast : ∀ c ∈ last, decide (c ≠ sep) = true := by
    intro c hc
    simp only [ne_eq, decide_eq_true_eq]
    rintro rfl
    exact h hc
  have hfront : (front ++ sep :: last).rdropWhile (· ≠ sep) = front ++ [sep] := by
    rw [← List.singleton_append, ← List.append_assoc, rdropWhile_append_right _ hlast,
      List.rdropWhile_concat_neg _ _ _ (by simp)]
  have htail : (front ++ sep :: last).rtakeWhile (· ≠ sep) = last := by
    rw [← List.singleton_append, ← List.append_assoc, rtakeWhile_append_right _ hlast,
      List.rtakeWhile_concat_neg _ _ _ (by simp), List.nil_append]
  unfold rsplitOnce
  rw [hfront, htail]
  simp

/-- The last two parts hold no separator, the first may. -/
theorem rsplit_two {sep : Char} (front : PyStr) {middle last : PyStr} (hmiddle : sep ∉ middle)
    (hlast : sep ∉ last) :
    rsplit sep 2 (front ++ sep :: middle ++ sep :: last) = [front, middle, last] := by
  unfold rsplit
  rw [rsplitOnce_append _ hlast]
  dsimp only
  unfold rsplit
  rw [rsplitOnce_append _ hmiddle]
  rfl

/-! ### Numbers -/

variable (repr : PyStr → PyStr)

/-- `int(text)` for a text without underscores. -/
def intOf (text : PyStr) : Except PyError Int := do
  let body := strip text
  let (sign, digits) := match body with
    | '-' :: digits => ((-1 : Int), digits)
    | '+' :: digits => (1, digits)
    | digits => (1, digits)
  raiseIf (digits = [] ∨ ¬ digits.all fun c => (decimalValue c).isSome)
    (valueError s!"invalid literal for int() with base 10: {String.ofList (repr text)}")
  let value ← intOfDigits digits
  return sign * value

theorem decimalValue_of_isDigit {c : Char} (h : c.isDigit = true) :
    decimalValue c = some (c.toNat - 48) := by
  rw [Char.isDigit_iff_toNat] at h
  unfold decimalValue decimalZeros
  rw [List.find?_cons_of_pos]
  · rfl
  · simpa using h

theorem isSpace_of_isDigit {c : Char} (h : c.isDigit = true) : isSpace c = false := by
  rw [Char.isDigit_iff_toNat] at h
  have hlow : 48 ≤ c.toNat := h.1
  have hhigh : c.toNat ≤ 57 := h.2
  by_contra hspace
  rw [Bool.not_eq_false] at hspace
  unfold isSpace at hspace
  simp only [Bool.or_eq_true, Bool.and_eq_true, decide_eq_true_eq] at hspace
  omega

theorem isDigit_of_mem_natText {c : Char} {n : Nat} (h : c ∈ natText n) : c.isDigit = true :=
  Nat.isDigit_of_mem_toDigits (by decide) (by decide) h

theorem natText_ne_nil (n : Nat) : natText n ≠ [] := Nat.toDigits_ne_nil

theorem decimalNumber_natText (n : Nat) :
    decimalNumber ((natText n).map fun c => (decimalValue c).getD 0) = n := by
  have hvalue : Nat.ofDigitChars 10 (natText n) 0 = n := by
    unfold natText
    simp
  rw [Nat.ofDigitChars_eq_foldl] at hvalue
  unfold decimalNumber
  rw [List.foldl_map]
  refine Eq.trans (List.foldl_ext _ _ _ fun sofar c hc => ?_) hvalue
  rw [decimalValue_of_isDigit (isDigit_of_mem_natText hc)]
  rfl

/-- The number of a key is read back; `int` takes no longer texts. -/
theorem intOf_natText {n : Nat} (h : (natText n).length ≤ maxStrDigits) :
    intOf repr (natText n) = .ok n := by
  have hdigits : ∀ c ∈ natText n, (decimalValue c).isSome = true := by
    intro c hc
    rw [decimalValue_of_isDigit (isDigit_of_mem_natText hc)]
    rfl
  have hspace : ∀ c ∈ natText n, isSpace c = false := fun c hc =>
    isSpace_of_isDigit (isDigit_of_mem_natText hc)
  have hstrip : strip (natText n) = natText n := strip_of_ends
    (fun c hc => hspace c (List.mem_of_mem_head? hc))
    (fun c hc => hspace c (List.mem_of_mem_getLast? hc))
  have hvalue : intOfDigits (natText n) = .ok n := by
    unfold intOfDigits
    rw [raiseIf_of_not (by omega), ok_bind, decimalNumber_natText]
    rfl
  have hminus : '-' ∉ natText n := not_mem_natText (by decide) n
  have hplus : '+' ∉ natText n := not_mem_natText (by decide) n
  have hsign : (match natText n with
      | '-' :: digits => ((-1 : Int), digits)
      | '+' :: digits => (1, digits)
      | digits => (1, digits)) = (1, natText n) := by
    split
    · next heq => exact absurd (heq ▸ List.mem_cons_self) hminus
    · next heq => exact absurd (heq ▸ List.mem_cons_self) hplus
    · rfl
  unfold intOf
  dsimp only
  rw [hstrip, hsign]
  dsimp only
  rw [raiseIf_of_not, ok_bind, hvalue, ok_bind, Int.one_mul]
  · rfl
  · rw [not_or, not_not]
    exact ⟨natText_ne_nil n, List.all_eq_true.mpr hdigits⟩

/-! ### Keys -/

/-- The loop over the keys of a batch: the session key and the index. -/
def parseKey (key : PyStr) : Except PyError (PyStr × Int) :=
  match rsplit '_' 2 key with
  | [uid, sessionId, index] => do
      let index ← intOf repr index
      return (uid ++ '_' :: sessionId, index)
  | _ => .error ⟨.assertionError, s!"Unexpected key format: {String.ofList key}"⟩

/-- `{uid}_{session_id}` -/
def sessionKey (uid : PyStr) (session : Nat) : PyStr := uid ++ '_' :: natText session

theorem parseKey_text (uid : PyStr) (session : Nat) {index : Nat}
    (h : (natText index).length ≤ maxStrDigits) :
    parseKey repr (Key.trajectory uid session index).text =
      .ok (sessionKey uid session, index) := by
  have hsession : '_' ∉ natText session := not_mem_natText (by decide) session
  have hindex : '_' ∉ natText index := not_mem_natText (by decide) index
  unfold parseKey Key.text
  rw [rsplit_two uid hsession hindex]
  dsimp only
  rw [intOf_natText repr h]
  rfl

/-- The session key tells the uid and the session, whatever the uid contains. -/
theorem sessionKey_injective {uid uid' : PyStr} {session session' : Nat}
    (h : sessionKey uid session = sessionKey uid' session') : uid = uid' ∧ session = session' := by
  have hsplit := congrArg (rsplitOnce '_') h
  unfold sessionKey at hsplit
  rw [rsplitOnce_append _ (not_mem_natText (by decide) session),
    rsplitOnce_append _ (not_mem_natText (by decide) session')] at hsplit
  obtain ⟨huid, hsession⟩ := Prod.mk.inj (Option.some.inj hsplit)
  exact ⟨huid, natText_injective hsession⟩

/-- The trajectories of the transfer queue have distinct keys. -/
theorem Key.text_injective {uid uid' : PyStr} {session session' index index' : Nat}
    (h : (Key.trajectory uid session index).text = (Key.trajectory uid' session' index').text) :
    Key.trajectory uid session index = .trajectory uid' session' index' := by
  have hsplit := congrArg (rsplitOnce '_') h
  unfold Key.text at hsplit
  rw [rsplitOnce_append _ (not_mem_natText (by decide) index),
    rsplitOnce_append _ (not_mem_natText (by decide) index')] at hsplit
  obtain ⟨hsession, hindex⟩ := Prod.mk.inj (Option.some.inj hsplit)
  obtain ⟨rfl, rfl⟩ := sessionKey_injective hsession
  rw [natText_injective hindex]

end R2opl
