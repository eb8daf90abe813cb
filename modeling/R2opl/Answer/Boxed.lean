import R2opl.Patterns
import R2opl.Lib.Brackets
import R2opl.Lib.Separated

/-!
# Extracting the boxed answer

`_repair`, `_matching_brace` and `extract_final_answer` of `utils/answer_verifier.py`.
The payload of the last box is read up to the brace that closes it, a brace after an odd
run of backslashes counting as text.
-/

namespace R2opl

open Brackets

def leftBrace : Char := '\x7b'

def rightBrace : Char := '\x7d'

/-! ### Character repair -/

/-- `_repair` of a string. -/
def repair (text : PyStr) : PyStr :=
  text
    |> replaceAll ['\r', '\n'] ['\n']
    |> replaceAll ['\r'] ['\n']
    |> replaceAll ['\u200b'] []
    |> replaceAll ['\ufeff'] []
    |> replaceAll ['\ufe68'] ['\\']
    |> replaceAll ['\uff3c'] ['\\']
    |> replaceAll ['−'] ['-']
    |> replaceAll ['–'] ['-']
    |> replaceAll ['＋'] ['+']

/-- A pair of characters is replaced on both sides of a seam that does not join one. -/
theorem replaceFrom_append_pair {x y : Char} {new left right : PyStr}
    (hseam : ¬ (left.getLast? = some x ∧ right.head? = some y)) :
    ∀ skip, skip ≤ left.length →
      replaceFrom [x, y] new skip (left ++ right) =
        replaceFrom [x, y] new skip left ++ replaceFrom [x, y] new 0 right := by
  induction left with
  | nil =>
    intro skip hskip
    rw [Nat.le_zero.mp hskip]
    rfl
  | cons c left ih =>
    intro skip hskip
    have hrest : ¬ (left.getLast? = some x ∧ right.head? = some y) := by
      rintro ⟨hleft, hright⟩
      apply hseam
      rw [List.getLast?_cons, hleft]
      exact ⟨rfl, hright⟩
    cases skip with
    | succ skip =>
      rw [List.cons_append, replaceFrom, replaceFrom]
      exact ih hrest skip (Nat.le_of_succ_le_succ hskip)
    | zero =>
      rw [List.cons_append, replaceFrom, replaceFrom]
      have hpre : [x, y].isPrefixOf (c :: (left ++ right)) = [x, y].isPrefixOf (c :: left) := by
        cases left with
        | cons d left => simp [List.isPrefixOf]
        | nil =>
          cases right with
          | nil => rfl
          | cons d right =>
            have hne : ¬ (c = x ∧ d = y) := by simpa using hseam
            simp only [List.isPrefixOf, List.nil_append, Bool.and_true, Bool.and_false,
              Bool.and_eq_false_iff, beq_eq_false_iff_ne]
            by_cases hc : x = c
            · exact Or.inr fun hd => hne ⟨hc.symm, hd.symm⟩
            · exact Or.inl hc
      rw [hpre]
      split
      · next hmatch =>
        have hlength := (List.isPrefixOf_iff_prefix.mp hmatch).length_le
        rw [List.append_assoc, ih hrest _ (by simpa using hlength)]
      · rw [List.cons_append, ih hrest 0 (Nat.zero_le _)]

/-- Text is repaired on both sides of a seam that does not join a line end. -/
theorem repair_append {left right : PyStr}
    (hseam : ¬ (left.getLast? = some '\r' ∧ right.head? = some '\n')) :
    repair (left ++ right) = repair left ++ repair right := by
  have hpair : replaceAll ['\r', '\n'] ['\n'] (left ++ right) =
      replaceAll ['\r', '\n'] ['\n'] left ++ replaceAll ['\r', '\n'] ['\n'] right :=
    replaceFrom_append_pair hseam 0 (Nat.zero_le _)
  unfold repair
  rw [hpair]
  simp only [replaceAll_singleton, List.flatMap_append]

/-- The single characters that `_repair` replaces, with what by. -/
def repairSteps : List (Char × PyStr) :=
  [('\r', ['\n']), ('\u200b', []), ('\ufeff', []), ('\ufe68', ['\\']), ('\uff3c', ['\\']),
    ('−', ['-']), ('–', ['-']), ('＋', ['+'])]

theorem repair_eq_foldl (text : PyStr) :
    repair text = repairSteps.foldl (fun text step => replaceAll [step.1] step.2 text)
      (replaceAll ['\r', '\n'] ['\n'] text) := rfl

theorem replaceAll_pair_of_not_mem {x y : Char} {new text : PyStr} (h : x ∉ text) :
    replaceAll [x, y] new text = text := by
  unfold replaceAll
  induction text with
  | nil => rfl
  | cons c text ih =>
    have hne : [x, y].isPrefixOf (c :: text) = false := by
      have hc : x ≠ c := fun hc => h (hc ▸ List.mem_cons_self)
      simp [List.isPrefixOf, hc]
    rw [replaceFrom, if_neg (by rw [hne]; decide), ih (List.not_mem_of_not_mem_cons h)]

theorem replaceAll_of_not_mem {c : Char} {new text : PyStr} (h : c ∉ text) :
    replaceAll [c] new text = text := by
  rw [replaceAll_singleton]
  induction text with
  | nil => rfl
  | cons d text ih =>
    have hne : d ≠ c := fun hd => h (hd ▸ List.mem_cons_self)
    rw [List.flatMap_cons, if_neg hne, ih (List.not_mem_of_not_mem_cons h)]
    rfl

/-- Text without characters to replace is left as it is. -/
theorem repair_of_clean {text : PyStr} (h : ∀ step ∈ repairSteps, step.1 ∉ text) :
    repair text = text := by
  have hsteps : ∀ steps : List (Char × PyStr), (∀ step ∈ steps, step.1 ∉ text) →
      steps.foldl (fun text step => replaceAll [step.1] step.2 text) text = text := by
    intro steps
    induction steps with
    | nil => exact fun _ => rfl
    | cons step steps ih =>
      intro hclean
      rw [List.foldl_cons, replaceAll_of_not_mem (hclean step List.mem_cons_self)]
      exact ih fun other hother => hclean other (List.mem_cons_of_mem _ hother)
  have hfirst : ('\r', ['\n']) ∈ repairSteps := by decide
  rw [repair_eq_foldl, replaceAll_pair_of_not_mem (h _ hfirst), hsteps _ h]

/-- What replaces a character is none that is replaced. -/
theorem repairSteps_new : ∀ step ∈ repairSteps, ∀ other ∈ repairSteps, other.1 ∉ step.2 := by
  decide

/-- Repaired text has no characters to replace. -/
theorem repair_clean (text : PyStr) : ∀ step ∈ repairSteps, step.1 ∉ repair text := by
  have hkeep : ∀ {c d : Char} {new text : PyStr}, d ∈ replaceAll [c] new text → d ∉ new →
      d ∈ text ∧ d ≠ c := by
    intro c d new text hd hnew
    rw [replaceAll_singleton] at hd
    obtain ⟨e, he, hd⟩ := List.mem_flatMap.mp hd
    split at hd
    · exact absurd hd hnew
    · next hne =>
      obtain rfl := List.mem_singleton.mp hd
      exact ⟨he, hne⟩
  -- a character that a step replaces is put back by no step
  have hsteps : ∀ (d : Char) (steps : List (Char × PyStr)) (text : PyStr),
      (∀ step ∈ steps, d ∉ step.2) →
      d ∈ steps.foldl (fun text step => replaceAll [step.1] step.2 text) text →
      d ∈ text ∧ ∀ step ∈ steps, d ≠ step.1 := by
    intro d steps
    induction steps with
    | nil => exact fun text _ hd => ⟨hd, fun _ h => absurd h List.not_mem_nil⟩
    | cons step steps ih =>
      intro text hnew hd
      obtain ⟨hmem, hne⟩ :=
        ih _ (fun other hother => hnew other (List.mem_cons_of_mem _ hother)) hd
      obtain ⟨htext, hstep⟩ := hkeep hmem (hnew step List.mem_cons_self)
      refine ⟨htext, ?_⟩
      intro other hother
      rcases List.mem_cons.mp hother with rfl | hrest
      · exact hstep
      · exact hne other hrest
  intro step hstep hmem
  rw [repair_eq_foldl] at hmem
  have hnew : ∀ other ∈ repairSteps, step.1 ∉ other.2 := fun other hother =>
    repairSteps_new other hother step hstep
  exact (hsteps step.1 repairSteps _ hnew hmem).2 step hstep rfl

theorem repair_of_subset {text left : PyStr} (h : left ⊆ repair text) : repair left = left :=
  repair_of_clean fun c hc hmem => repair_clean text c hc (h hmem)

theorem head?_of_repair {text : PyStr} {c : Char} (h : (repair text).head? = some c)
    (hc : c ≠ '\n') : text.head? ≠ some '\n' := by
  intro hhead
  obtain ⟨rest, rfl⟩ := List.head?_eq_some_iff.mp hhead
  have hrepair : repair ('\n' :: rest) = repair ['\n'] ++ repair rest := by
    rw [← repair_append (by simp)]
    rfl
  rw [hrepair, show repair ['\n'] = ['\n'] by decide] at h
  exact hc (Option.some.inj h).symm

theorem getLast?_of_repair {text : PyStr} {c : Char} (h : (repair text).getLast? = some c)
    (hc : c ≠ '\n') : text.getLast? ≠ some '\r' := by
  intro hlast
  obtain ⟨init, rfl⟩ := List.getLast?_eq_some_iff.mp hlast
  rw [repair_append (by simp), show repair ['\r'] = ['\n'] by decide,
    List.getLast?_concat] at h
  exact hc (Option.some.inj h).symm

/-! ### Braces -/

/-- `_is_escaped` -/
def isEscaped (text : PyStr) (position : Nat) : Bool :=
  ((text.take position).reverse.takeWhile fun c => c = '\\').length % 2 = 1

/-- The loop of `_matching_brace` over the remaining positions. -/
def matchingBraceFrom (text : PyStr) : Nat → List Nat → Option Nat
  | _, [] => none
  | depth, position :: rest =>
      if isEscaped text position then matchingBraceFrom text depth rest
      else if text[position]? = some leftBrace then matchingBraceFrom text (depth + 1) rest
      else if text[position]? = some rightBrace then
        if depth ≤ 1 then some position else matchingBraceFrom text (depth - 1) rest
      else matchingBraceFrom text depth rest

/-- `_matching_brace` -/
def matchingBrace (text : PyStr) (opening : Nat) : Option Nat :=
  if text[opening]? = some leftBrace then
    matchingBraceFrom text 1 (List.range' (opening + 1) (text.length - (opening + 1)))
  else none

/-- The braces of a text, those that are escaped as other characters.  `next` says whether
    a character escapes the one after it, given whether it is escaped itself. -/
def braceMarks (next : Bool → Char → Bool) (escaped : Bool) : PyStr → List Mark
  | [] => []
  | c :: rest =>
      (if escaped then .other
        else if c = leftBrace then .opening else if c = rightBrace then .closing else .other) ::
      braceMarks next (next escaped c) rest

theorem mem_of_matchingBraceFrom {text : PyStr} {positions : List Nat} {depth stop : Nat}
    (h : matchingBraceFrom text depth positions = some stop) : stop ∈ positions := by
  induction positions generalizing depth with
  | nil => cases h
  | cons position rest ih =>
    unfold matchingBraceFrom at h
    split at h
    · exact List.mem_cons_of_mem _ (ih h)
    · split at h
      · exact List.mem_cons_of_mem _ (ih h)
      · split at h
        · split at h
          · obtain rfl := Option.some.inj h
            exact List.mem_cons_self
          · exact List.mem_cons_of_mem _ (ih h)
        · exact List.mem_cons_of_mem _ (ih h)

theorem matchingBrace_bounds {text : PyStr} {opening stop : Nat}
    (h : matchingBrace text opening = some stop) : opening < stop ∧ stop < text.length := by
  unfold matchingBrace at h
  split at h
  · have hmem := List.mem_range'_1.mp (mem_of_matchingBraceFrom h)
    omega
  · cases h

/-- The rule of `_is_escaped`: every other backslash of a run escapes. -/
def byParity (escaped : Bool) (c : Char) : Bool := decide (c = '\\') && !escaped

/-- Balanced with respect to unescaped braces, and not ending in an odd run of
    backslashes. -/
structure Enclosed (payload : PyStr) : Prop where
  balanced : Balanced (braceMarks byParity false payload)
  unescaped : isEscaped payload payload.length = false

instance : DecidablePred Enclosed := fun payload =>
  decidable_of_iff (Balanced (braceMarks byParity false payload) ∧
      isEscaped payload payload.length = false)
    ⟨fun h => ⟨h.1, h.2⟩, fun h => ⟨h.balanced, h.unescaped⟩⟩

section Marks

variable (next : Bool → Char → Bool)

@[simp] theorem braceMarks_length (escaped : Bool) (text : PyStr) :
    (braceMarks next escaped text).length = text.length := by
  induction text generalizing escaped with
  | nil => rfl
  | cons c text ih => rw [braceMarks, List.length_cons, List.length_cons, ih]

theorem braceMarks_append (escaped : Bool) (left right : PyStr) :
    braceMarks next escaped (left ++ right) =
      braceMarks next escaped left ++ braceMarks next (left.foldl next escaped) right := by
  induction left generalizing escaped with
  | nil => rfl
  | cons c left ih =>
    rw [List.cons_append, braceMarks, braceMarks, ih]
    rfl

/-- The mark that closes a box is a brace that is not escaped, after a balanced text. -/
theorem closeIndex_braceMarks {rest : PyStr} {index : Nat} :
    closeIndex 1 (braceMarks next false rest) = some index ↔
      ∃ inner after, rest = inner ++ rightBrace :: after ∧ inner.length = index ∧
        Balanced (braceMarks next false inner) ∧ inner.foldl next false = false := by
  constructor
  · intro hindex
    obtain ⟨marks, others, hmarks, hlength, hbalanced⟩ := closeIndex_one_eq_some.mp hindex
    have hlt : index < rest.length := by
      have hlengths := congrArg List.length hmarks
      rw [braceMarks_length, List.length_append, List.length_cons] at hlengths
      omega
    -- the text before the mark found, the mark itself, and the rest
    have hsplit : rest = rest.take index ++ rest[index] :: rest.drop (index + 1) := by
      rw [List.getElem_cons_drop, List.take_append_drop]
    have htake : (rest.take index).length = index := List.length_take_of_le (Nat.le_of_lt hlt)
    rw [hsplit, braceMarks_append, braceMarks] at hmarks
    obtain ⟨hinner, hrest⟩ := List.append_inj hmarks (by rw [braceMarks_length, htake, hlength])
    have hmark := (List.cons.inj hrest).1
    refine ⟨rest.take index, rest.drop (index + 1), ?_, htake, ?_, ?_⟩
    · have hbrace : rest[index] = rightBrace := by
        by_contra hne
        split at hmark
        · cases hmark
        · split at hmark
          · cases hmark
          · cases hmark
      rw [← hbrace]
      exact hsplit
    · rw [hinner]
      exact hbalanced
    · by_contra hescaped
      rw [if_pos (by simpa using hescaped)] at hmark
      cases hmark
  · rintro ⟨inner, after, rfl, rfl, hbalanced, hunescaped⟩
    rw [closeIndex_one_eq_some]
    refine ⟨braceMarks next false inner, braceMarks next (next false rightBrace) after, ?_,
      braceMarks_length _ _ _, hbalanced⟩
    rw [braceMarks_append, hunescaped]
    rfl

end Marks

theorem isEscaped_length (text : PyStr) :
    isEscaped text text.length = text.foldl byParity false := by
  unfold isEscaped
  rw [List.take_length]
  induction text using List.reverseRecOn with
  | nil => rfl
  | append_singleton text c ih =>
    rw [List.foldl_append, List.foldl_cons, List.foldl_nil, byParity, ← ih, List.reverse_append,
      List.reverse_singleton, List.singleton_append, List.takeWhile_cons]
    by_cases hc : c = '\\'
    · rw [decide_eq_true hc, if_pos rfl, List.length_cons, Bool.true_and, ← decide_not,
        decide_eq_decide]
      omega
    · rw [decide_eq_false hc]
      rfl

theorem isEscaped_append (left right : PyStr) :
    isEscaped (left ++ right) left.length = left.foldl byParity false := by
  rw [← isEscaped_length]
  unfold isEscaped
  rw [List.take_left, List.take_length]

/-- The loop counts the braces of the text from here on. -/
theorem matchingBraceFrom_eq (rest : PyStr) :
    ∀ (before : PyStr) (depth : Nat),
      matchingBraceFrom (before ++ rest) depth (List.range' before.length rest.length) =
        (closeIndex depth (braceMarks byParity (before.foldl byParity false) rest)).map
          (before.length + ·) := by
  induction rest with
  | nil => exact fun before depth => rfl
  | cons c rest ih =>
    intro before depth
    have hnext := ih (before ++ [c])
    rw [List.append_assoc, List.singleton_append, List.length_append, List.length_singleton,
      List.foldl_append, List.foldl_cons, List.foldl_nil] at hnext
    have hshift : ∀ found : Option Nat,
        found.map (before.length + 1 + ·) = (found.map (· + 1)).map (before.length + ·) := by
      intro found
      rw [Option.map_map]
      congr 1
      funext index
      exact (Nat.add_assoc _ _ _).trans (congrArg _ (Nat.add_comm _ _))
    have hat : (before ++ c :: rest)[before.length]? = some c := by simp
    rw [List.length_cons, List.range'_succ, matchingBraceFrom, isEscaped_append, braceMarks, hat]
    by_cases hescaped : before.foldl byParity false = true
    · rw [if_pos hescaped, if_pos hescaped, hnext, closeIndex, hshift]
    · rw [if_neg hescaped, if_neg hescaped]
      by_cases hleft : c = leftBrace
      · rw [if_pos (congrArg some hleft), if_pos hleft, hnext, closeIndex, hshift]
      · rw [if_neg (fun h => hleft (Option.some.inj h)), if_neg hleft]
        by_cases hright : c = rightBrace
        · rw [if_pos (congrArg some hright), if_pos hright, closeIndex]
          split
          · rfl
          · rw [hnext, hshift]
        · rw [if_neg (fun h => hright (Option.some.inj h)), if_neg hright, hnext, closeIndex,
            hshift]

/-- The brace found closes the opening one: the text between them is enclosed. -/
theorem matchingBrace_eq_some_iff {before rest : PyStr} {stop : Nat} :
    matchingBrace (before ++ leftBrace :: rest) before.length = some stop ↔
      ∃ inner after, rest = inner ++ rightBrace :: after ∧
        stop = before.length + 1 + inner.length ∧ Enclosed inner := by
  have hat : (before ++ leftBrace :: rest)[before.length]? = some leftBrace := by simp
  have hloop := matchingBraceFrom_eq rest (before ++ [leftBrace]) 1
  have hstart : (before ++ [leftBrace]).foldl byParity false = false := by
    rw [List.foldl_append, List.foldl_cons, List.foldl_nil]
    rfl
  rw [List.append_assoc, List.singleton_append, List.length_append, List.length_singleton,
    hstart] at hloop
  unfold matchingBrace
  rw [if_pos hat, show (before ++ leftBrace :: rest).length - (before.length + 1) = rest.length by
    simp only [List.length_append, List.length_cons]; omega, hloop, Option.map_eq_some_iff]
  constructor
  · rintro ⟨index, hindex, rfl⟩
    obtain ⟨inner, after, hrest, rfl, hbalanced, hunescaped⟩ :=
      (closeIndex_braceMarks byParity).mp hindex
    exact ⟨inner, after, hrest, rfl, hbalanced, (isEscaped_length inner).trans hunescaped⟩
  · rintro ⟨inner, after, hrest, rfl, hbalanced, hunescaped⟩
    rw [isEscaped_length] at hunescaped
    exact ⟨inner.length, (closeIndex_braceMarks byParity).mpr
      ⟨inner, after, hrest, rfl, hbalanced, hunescaped⟩, rfl⟩

/-! ### The last box -/

/-- `\\boxed\s*\{` -/
def boxedRe : Regex Char Empty :=
  .seq (Pattern.literal "\\boxed") (.seq (.star Pattern.space) (Pattern.char leftBrace))

/-- `extract_final_answer` -/
def extractFinalAnswer (response : PyStr) : PyStr × Bool :=
  let response := repair response
  match (boxedRe.finditer response 0).getLast? with
  | none => ([], false)
  | some found =>
      let braceStart := found.stop - 1
      match matchingBrace response braceStart with
      | none => ([], false)
      | some braceEnd =>
          let answer := strip (slice response (braceStart + 1) braceEnd)
          (answer, decide (answer ≠ []))

/-- The command that opens a box, with any space before its brace. -/
def IsBoxCommand (command : PyStr) : Prop :=
  ∃ spaces, (∀ c ∈ spaces, isSpace c = true) ∧ command = "\\boxed".toList ++ spaces ++ [leftBrace]

/-- Somewhere in the text a box is opened. -/
def HasBoxCommand (text : PyStr) : Prop :=
  ∃ before command after, text = before ++ command ++ after ∧ IsBoxCommand command

theorem matches_boxedRe {before inside after : PyStr} :
    boxedRe.Matches before inside after ↔ IsBoxCommand inside := by
  unfold boxedRe Pattern.space Pattern.char
  simp only [Regex.matches_seq, Pattern.matches_literal, Regex.matches_star_one,
    Regex.matches_one, decide_eq_true_eq]
  constructor
  · rintro ⟨word, tail, rfl, rfl, spaces, brace, rfl, hspaces, c, rfl, rfl⟩
    exact ⟨spaces, hspaces, by rw [List.append_assoc]⟩
  · rintro ⟨spaces, hspaces, rfl⟩
    exact ⟨"\\boxed".toList, spaces ++ [leftBrace], by rw [List.append_assoc], rfl, spaces,
      [leftBrace], rfl, hspaces, leftBrace, rfl, rfl⟩

/-- The backslash of a box command is its first character only. -/
theorem IsBoxCommand.backslash {command : PyStr} (h : IsBoxCommand command) :
    ∃ tail, command = '\\' :: tail ∧ '\\' ∉ tail := by
  obtain ⟨spaces, hspaces, rfl⟩ := h
  refine ⟨"boxed".toList ++ spaces ++ [leftBrace], rfl, ?_⟩
  simp only [List.mem_append, not_or]
  refine ⟨⟨by decide, ?_⟩, by decide⟩
  intro hmem
  have hspace := hspaces _ hmem
  revert hspace
  decide

theorem IsBoxCommand.head? {command : PyStr} (h : IsBoxCommand command) :
    command.head? = some '\\' := by
  obtain ⟨tail, rfl, _⟩ := h.backslash
  rfl

/-- A command that starts where another one does is that one. -/
theorem IsBoxCommand.unique {command other rest rest' : PyStr} (h : IsBoxCommand command)
    (hother : IsBoxCommand other) (heq : command ++ rest = other ++ rest') :
    command = other ∧ rest = rest' := by
  obtain ⟨spaces, hspaces, rfl⟩ := h
  obtain ⟨spaces', hspaces', rfl⟩ := hother
  have hspaceBrace : isSpace leftBrace = false := by decide
  have hfree : ∀ {spaces : PyStr}, (∀ c ∈ spaces, isSpace c = true) → leftBrace ∉ spaces := by
    intro spaces hspaces hmem
    rw [hspaces _ hmem] at hspaceBrace
    cases hspaceBrace
  simp only [List.append_assoc, List.append_cancel_left_eq, List.singleton_append] at heq
  obtain ⟨rfl, hrest⟩ := Separated.left_inj (hfree hspaces) (hfree hspaces') heq
  exact ⟨rfl, hrest⟩

theorem hasBoxCommand_iff {text : PyStr} :
    HasBoxCommand text ↔ boxedRe.finditer text 0 ≠ [] := by
  rw [ne_eq, Regex.finditer_eq_nil]
  constructor
  · rintro ⟨before, command, after, htext, hcommand⟩ h
    exact h _ _ (Nat.zero_le _)
      ⟨before, command, after, htext, rfl, rfl, matches_boxedRe.mpr hcommand⟩
  · intro h
    by_contra hnone
    apply h
    rintro position stop _ ⟨before, command, after, htext, _, _, hmatch⟩
    exact hnone ⟨before, command, after, htext, matches_boxedRe.mp hmatch⟩

instance : DecidablePred HasBoxCommand := fun _ =>
  decidable_of_iff _ hasBoxCommand_iff.symm

/-- A text with a box command has a last one. -/
theorem HasBoxCommand.last {text : PyStr} (h : HasBoxCommand text) :
    ∃ before command rest, text = before ++ command ++ rest ∧ IsBoxCommand command ∧
      ¬ HasBoxCommand rest := by
  obtain ⟨before, command, rest, rfl, hcommand⟩ := h
  generalize hlength : rest.length = n
  induction n using Nat.strongRecOn generalizing before command rest with
  | ind n ih =>
    by_cases hrest : HasBoxCommand rest
    · obtain ⟨between, command', rest', rfl, hcommand'⟩ := hrest
      obtain ⟨tail, rfl, _⟩ := hcommand'.backslash
      have hshorter : rest'.length < n := by
        rw [← hlength]
        simp only [List.length_append, List.length_cons]
        omega
      have hlast := ih rest'.length hshorter (before ++ command ++ between) ('\\' :: tail) rest'
        hcommand' rfl
      simp only [List.append_assoc] at hlast ⊢
      exact hlast
    · exact ⟨before, command, rest, rfl, hcommand, hrest⟩

/-- The last match of the pattern is the last box command. -/
theorem getLast?_boxedRe (before : PyStr) {command rest : PyStr} (hcommand : IsBoxCommand command)
    (hrest : ¬ HasBoxCommand rest) :
    ∃ found, (boxedRe.finditer (before ++ command ++ rest) 0).getLast? = some found ∧
      found.stop = before.length + command.length := by
  have hmatch : boxedRe.MatchesAt (before ++ command ++ rest) before.length
      (before.length + command.length) :=
    ⟨before, command, rest, rfl, rfl, rfl, matches_boxedRe.mpr hcommand⟩
  have hlast : ∀ later stop, before.length < later →
      ¬ boxedRe.MatchesAt (before ++ command ++ rest) later stop := by
    rintro _ _ hlater ⟨before', command', rest', htext, rfl, rfl, hcommand'⟩
    rw [matches_boxedRe] at hcommand'
    obtain ⟨between, hbetween⟩ :=
      Separated.words_apart hcommand.backslash hcommand'.head? htext.symm hlater
    rw [← hbetween] at htext
    simp only [List.append_assoc, List.append_cancel_left_eq] at htext
    exact hrest ⟨between, command', rest', by rw [htext, List.append_assoc], hcommand'⟩
  have hover : ∀ earlier stop, earlier < before.length →
      boxedRe.MatchesAt (before ++ command ++ rest) earlier stop → stop ≤ before.length := by
    rintro _ _ hearlier ⟨before', command', rest', htext, rfl, rfl, hcommand'⟩
    rw [matches_boxedRe] at hcommand'
    have hpre := Separated.words_apart hcommand'.backslash hcommand.head? htext hearlier
    rw [← List.length_append]
    exact hpre.length_le
  obtain ⟨found, hfound, hstart⟩ := Regex.getLast?_finditer hmatch hlast hover
  refine ⟨found, hfound, ?_⟩
  obtain ⟨before', command', rest', htext, hstart', hstop', hcommand'⟩ :=
    Regex.matchesAt_of_mem_finditer (List.mem_of_getLast? hfound)
  rw [matches_boxedRe] at hcommand'
  rw [List.append_assoc, List.append_assoc] at htext
  obtain ⟨rfl, hsame⟩ := List.append_inj htext (by rw [← hstart', hstart])
  rw [hstop', (hcommand.unique hcommand' hsame).1]

theorem slice_enclosed (opening inner after : PyStr) :
    slice (opening ++ leftBrace :: (inner ++ rightBrace :: after)) (opening.length + 1)
      (opening.length + 1 + inner.length) = inner := by
  have hlength : (opening ++ [leftBrace]).length = opening.length + 1 := by
    rw [List.length_append, List.length_singleton]
  have hslice := slice_append_middle (opening ++ [leftBrace]) inner (rightBrace :: after)
    hlength.symm (congrArg (· + inner.length) hlength.symm)
  rw [List.append_assoc, List.append_assoc, List.singleton_append] at hslice
  exact hslice

/-- What is extracted is decided by what follows the last box command. -/
theorem extractFinalAnswer_eq {response before command rest : PyStr}
    (hresponse : repair response = before ++ command ++ rest) (hcommand : IsBoxCommand command)
    (hrest : ¬ HasBoxCommand rest) :
    (∀ inner after, rest = inner ++ rightBrace :: after → Enclosed inner →
      extractFinalAnswer response = (strip inner, decide (strip inner ≠ []))) ∧
      ((∀ inner after, rest = inner ++ rightBrace :: after → ¬ Enclosed inner) →
        extractFinalAnswer response = ([], false)) := by
  obtain ⟨found, hfound, hstop⟩ := getLast?_boxedRe before hcommand hrest
  obtain ⟨spaces, _, rfl⟩ := hcommand
  -- the text up to the brace, the brace, and what follows
  have hopening : found.stop - 1 = (before ++ "\\boxed".toList ++ spaces).length := by
    rw [hstop]
    simp only [List.length_append, List.length_singleton]
    omega
  have htext : before ++ ("\\boxed".toList ++ spaces ++ [leftBrace]) ++ rest =
      (before ++ "\\boxed".toList ++ spaces) ++ leftBrace :: rest := by
    simp only [List.append_assoc, List.singleton_append]
  unfold extractFinalAnswer
  dsimp only
  rw [hresponse, hfound]
  dsimp only
  rw [hopening, htext]
  refine ⟨?_, ?_⟩
  · rintro inner after rfl henclosed
    rw [matchingBrace_eq_some_iff.mpr ⟨inner, after, rfl, rfl, henclosed⟩]
    dsimp only
    rw [slice_enclosed]
  · intro hopen
    cases hbrace : matchingBrace ((before ++ "\\boxed".toList ++ spaces) ++ leftBrace :: rest)
        (before ++ "\\boxed".toList ++ spaces).length with
    | none => rfl
    | some stop =>
      obtain ⟨inner, after, hinner, _, henclosed⟩ := matchingBrace_eq_some_iff.mp hbrace
      exact absurd henclosed (hopen inner after hinner)

/-! ### Extraction inverts boxing -/

theorem IsBoxCommand.rightBrace_not_mem {command : PyStr} (h : IsBoxCommand command) :
    rightBrace ∉ command := by
  obtain ⟨spaces, hspaces, rfl⟩ := h
  simp only [List.mem_append, not_or]
  refine ⟨⟨by decide, ?_⟩, by decide⟩
  intro hmem
  have hspace := hspaces _ hmem
  revert hspace
  decide

/-- No box command reaches over a closing brace. -/
theorem hasBoxCommand_of_append {left right : PyStr}
    (h : HasBoxCommand (left ++ rightBrace :: right)) :
    HasBoxCommand left ∨ HasBoxCommand right := by
  obtain ⟨before, command, after, htext, hcommand⟩ := h
  rcases List.append_eq_append_iff.mp htext with ⟨middle, hmiddle, hright⟩ | ⟨middle, hleft, _⟩
  · cases middle with
    | nil =>
      rw [List.append_nil] at hmiddle
      exact Or.inl ⟨before, command, [], by rw [hmiddle, List.append_nil], hcommand⟩
    | cons brace middle =>
      obtain ⟨rfl, hright⟩ := List.cons.inj hright
      rcases List.append_eq_append_iff.mp hmiddle with ⟨inner, _, hinner⟩ | ⟨inner, _, hinner⟩
      · apply absurd _ hcommand.rightBrace_not_mem
        rw [hinner]
        exact List.mem_append_right _ List.mem_cons_self
      · cases inner with
        | nil =>
          apply absurd _ hcommand.rightBrace_not_mem
          rw [List.nil_append] at hinner
          rw [← hinner]
          exact List.mem_cons_self
        | cons c inner =>
          obtain ⟨_, rfl⟩ := List.cons.inj hinner
          exact Or.inr ⟨inner, command, after, (List.cons.inj hright).2, hcommand⟩
  · exact Or.inl ⟨before, command, middle, hleft, hcommand⟩

/-- A boxed payload is repaired in its place, whatever surrounds it. -/
theorem repair_boxed (before payload after : PyStr) {command : PyStr}
    (hcommand : IsBoxCommand (repair command)) :
    repair (before ++ (command ++ (payload ++ rightBrace :: after))) =
      repair before ++ repair command ++ (repair payload ++ rightBrace :: repair after) := by
  have hfirst := hcommand.head?
  have hlast : (repair command).getLast? = some leftBrace := by
    obtain ⟨spaces, _, hspaces⟩ := hcommand
    rw [hspaces, List.getLast?_concat]
  have hne : command ≠ [] := by
    rintro rfl
    rw [show repair [] = [] from rfl] at hfirst
    cases hfirst
  have hhead := head?_of_repair hfirst (by decide)
  have hend := getLast?_of_repair hlast (by decide)
  have hbrace : repair (rightBrace :: after) = rightBrace :: repair after := by
    rw [← List.singleton_append, repair_append (by simp [rightBrace])]
    rfl
  rw [repair_append, repair_append, repair_append, hbrace, List.append_assoc]
  · simp [rightBrace]
  · rintro ⟨hcr, _⟩
    exact hend hcr
  · rintro ⟨_, hlf⟩
    rw [List.head?_append_of_ne_nil _ hne] at hlf
    exact hhead hlf

/-- What follows the last box command, closed after an enclosed payload, is extracted as
    that payload, repaired and stripped; a last box that is not closed gives no answer,
    whatever boxes stand before it. -/
theorem extractFinalAnswer_inverts_boxing :
    (∀ before command payload after : PyStr, IsBoxCommand (repair command) →
      strip (repair payload) ≠ [] → ¬ HasBoxCommand (repair payload) →
      Enclosed (repair payload) → ¬ HasBoxCommand (repair after) →
      extractFinalAnswer (before ++ (command ++ (payload ++ rightBrace :: after))) =
        (strip (repair payload), true)) ∧
      (∀ response before command rest : PyStr, repair response = before ++ command ++ rest →
        IsBoxCommand command → ¬ HasBoxCommand rest →
        (∀ inner after, rest = inner ++ rightBrace :: after → ¬ Enclosed inner) →
        extractFinalAnswer response = ([], false)) := by
  refine ⟨?_, ?_⟩
  · intro before command payload after hcommand hpayload hinside henclosed hafter
    have hrest : ¬ HasBoxCommand (repair payload ++ rightBrace :: repair after) := by
      intro hbox
      rcases hasBoxCommand_of_append hbox with h | h
      · exact hinside h
      · exact hafter h
    have hresponse := repair_boxed before payload after hcommand
    have hanswer := (extractFinalAnswer_eq hresponse hcommand hrest).1
      (repair payload) (repair after) rfl henclosed
    rw [hanswer, decide_eq_true hpayload]
  · intro response before command rest hresponse hcommand hrest hopen
    exact (extractFinalAnswer_eq hresponse hcommand hrest).2 hopen

theorem extractFinalAnswer_inverts_boxing_half :
    extractFinalAnswer ("\\boxed\x7b1".toList ++ ("\\boxed \x7b".toList ++
        (" \\frac\x7b1\x7d\x7b2\x7d".toList ++ rightBrace :: ".".toList))) =
      ("\\frac\x7b1\x7d\x7b2\x7d".toList, true) := by
  refine (extractFinalAnswer_inverts_boxing.1 "\\boxed\x7b1".toList "\\boxed \x7b".toList
    " \\frac\x7b1\x7d\x7b2\x7d".toList ".".toList ⟨" ".toList, ?_, ?_⟩ ?_ ?_ ?_ ?_).trans ?_
  all_goals decide +kernel

end R2opl
