import Mathlib.Data.List.TakeWhile
import R2opl.Answer.Constants

/-!
# The rewriting of constant commands

The loop of `_replace_constant_latex` (`utils/answer_verifier.py`).  A round rewrites the last
command of the text and removes its backslash, so the loop ends; a term is translated from its
last command to its first, the arguments of a command before the command itself.
-/

namespace R2opl

open Brackets

/-! ### The last command -/

/-- `rest` begins with the command `name`. -/
structure BeginsCommand (name tail rest : PyStr) : Prop where
  name_mem : name ∈ ["frac".toList, "sqrt".toList]
  rest_eq : rest = '\\' :: (name ++ tail)
  boundary : ∀ c ∈ tail.head?, Pattern.isWord c = false

/-- No command begins in the text. -/
def CommandFree (text : PyStr) : Prop :=
  ∀ before name tail rest, text = before ++ rest → ¬ BeginsCommand name tail rest

theorem commandNames_word : ∀ name ∈ ["frac".toList, "sqrt".toList],
    '\\' ∉ name ∧ ∀ before : PyStr, (before ++ name).getLast?.any Pattern.isWord = true := by
  intro name hname
  rcases List.mem_cons.mp hname with rfl | hname
  · exact ⟨by decide, fun before => by rw [List.getLast?_append]; rfl⟩
  · rw [List.mem_singleton.mp hname]
    exact ⟨by decide, fun before => by rw [List.getLast?_append]; rfl⟩

theorem matches_constructRe {before inside after : PyStr} :
    constructRe.Matches before inside after ↔
      ∃ name, inside = '\\' :: name ∧ BeginsCommand name after (inside ++ after) := by
  have hnames : ∀ name ∈ ["frac".toList, "sqrt".toList],
      (Pattern.wordBoundary : Regex Char Empty).Matches (before ++ '\\' :: name) [] after ↔
        ∀ c ∈ after.head?, Pattern.isWord c = false := by
    intro name hname
    unfold Pattern.wordBoundary
    rw [Regex.matches_look, show before ++ '\\' :: name = (before ++ ['\\']) ++ name by simp,
      (commandNames_word name hname).2]
    cases after.head? <;> simp
  unfold constructRe Pattern.char
  simp only [Regex.sequence, Regex.choice, List.map_cons, List.map_nil, Regex.matches_seq,
    Regex.matches_one, Regex.matches_alt, Pattern.matches_literal, decide_eq_true_eq]
  constructor
  · rintro ⟨_, _, rfl, ⟨_, rfl, rfl⟩, name, last, rfl, hname, hboundary⟩
    have hmem : name ∈ ["frac".toList, "sqrt".toList] := by simpa using hname
    obtain rfl : last = [] := by
      unfold Pattern.wordBoundary at hboundary
      exact (Regex.matches_look.mp hboundary).1
    rw [List.append_assoc] at hboundary
    rw [List.append_nil]
    exact ⟨name, rfl, hmem, rfl, (hnames name hmem).mp hboundary⟩
  · rintro ⟨name, rfl, hmem, _, hboundary⟩
    refine ⟨['\\'], name, rfl, ⟨_, rfl, rfl⟩, name, [], by simp, by simpa using hmem, ?_⟩
    rw [List.append_assoc]
    exact (hnames name hmem).mpr hboundary

theorem matchesAt_constructRe {text : PyStr} {start stop : Nat} :
    constructRe.MatchesAt text start stop ↔
      ∃ before name tail rest, text = before ++ rest ∧ start = before.length ∧
        stop = start + 1 + name.length ∧ BeginsCommand name tail rest := by
  constructor
  · rintro ⟨before, _, after, rfl, rfl, rfl, hmatch⟩
    obtain ⟨name, rfl, hcommand⟩ := matches_constructRe.mp hmatch
    refine ⟨before, name, after, _, List.append_assoc _ _ _, rfl, ?_, hcommand⟩
    rw [List.length_cons, Nat.add_assoc, Nat.add_comm 1]
  · rintro ⟨before, name, tail, _, rfl, rfl, rfl, hmem, rfl, hboundary⟩
    refine ⟨before, '\\' :: name, tail, by simp, rfl, by rw [List.length_cons]; omega, ?_⟩
    exact matches_constructRe.mpr ⟨name, rfl, hmem, rfl, hboundary⟩

theorem commandFree_iff {text : PyStr} : CommandFree text ↔ constructRe.finditer text 0 = [] := by
  rw [Regex.finditer_eq_nil]
  constructor
  · intro h start stop _ hmatch
    obtain ⟨before, name, tail, rest, htext, _, _, hcommand⟩ := matchesAt_constructRe.mp hmatch
    exact h before name tail rest htext hcommand
  · intro h before name tail rest htext hcommand
    exact h _ _ (Nat.zero_le _)
      (matchesAt_constructRe.mpr ⟨before, name, tail, rest, htext, rfl, rfl, hcommand⟩)

/-- No command begins at a character but a backslash. -/
theorem CommandFree.cons {c : Char} {text : PyStr} (hc : c ≠ '\\') (h : CommandFree text) :
    CommandFree (c :: text) := by
  intro before name tail rest htext hcommand
  cases before with
  | nil =>
    obtain rfl : c :: text = rest := htext
    exact hc (List.cons.inj hcommand.rest_eq).1
  | cons d before => exact h before name tail rest (List.cons.inj htext).2 hcommand

theorem CommandFree.append {left text : PyStr} (hleft : '\\' ∉ left) (h : CommandFree text) :
    CommandFree (left ++ text) := by
  induction left with
  | nil => exact h
  | cons c left ih =>
    exact (ih (List.not_mem_of_not_mem_cons hleft)).cons
      fun hc => hleft (hc ▸ List.mem_cons_self)

theorem commandFree_nil : CommandFree [] := by
  intro before name tail rest htext hcommand
  rw [(List.append_eq_nil_iff.mp htext.symm).2] at hcommand
  cases hcommand.rest_eq

theorem commandNames_unique {name name' tail tail' : PyStr}
    (hname : name ∈ ["frac".toList, "sqrt".toList])
    (hname' : name' ∈ ["frac".toList, "sqrt".toList]) (h : name ++ tail = name' ++ tail') :
    name = name' ∧ tail = tail' := by
  have hlength : ∀ word ∈ ["frac".toList, "sqrt".toList], word.length = 4 := by decide
  exact List.append_inj h ((hlength name hname).trans (hlength name' hname').symm)

/-- The command after which none begins is the last one. -/
theorem getLast?_constructRe (before : PyStr) {name tail : PyStr}
    (h : BeginsCommand name tail ('\\' :: (name ++ tail))) (htail : CommandFree tail) :
    ∃ found,
      (constructRe.finditer (before ++ '\\' :: name ++ tail) 0).getLast? = some found ∧
        found.start = before.length ∧ found.stop = before.length + ('\\' :: name).length := by
  have hname := (commandNames_word name h.name_mem).1
  have hmatch : constructRe.MatchesAt (before ++ '\\' :: name ++ tail) before.length
      (before.length + ('\\' :: name).length) :=
    ⟨before, _, tail, rfl, rfl, rfl, matches_constructRe.mpr ⟨name, rfl, h⟩⟩
  have hlast : ∀ later stop, before.length < later →
      ¬ constructRe.MatchesAt (before ++ '\\' :: name ++ tail) later stop := by
    rintro _ _ hlater ⟨before', _, tail', htext, rfl, rfl, hcommand'⟩
    obtain ⟨name', rfl, hcommand'⟩ := matches_constructRe.mp hcommand'
    obtain ⟨between, hbetween⟩ :=
      Separated.words_apart ⟨name, rfl, hname⟩ rfl htext.symm hlater
    rw [← hbetween] at htext
    simp only [List.append_assoc, List.append_cancel_left_eq] at htext
    exact htail between name' tail' _ htext hcommand'
  have hover : ∀ earlier stop, earlier < before.length →
      constructRe.MatchesAt (before ++ '\\' :: name ++ tail) earlier stop →
        stop ≤ before.length := by
    rintro _ _ hearlier ⟨before', _, tail', htext, rfl, rfl, hcommand'⟩
    obtain ⟨name', rfl, hcommand'⟩ := matches_constructRe.mp hcommand'
    have hname' := (commandNames_word name' hcommand'.name_mem).1
    have hpre := Separated.words_apart ⟨name', rfl, hname'⟩ rfl htext hearlier
    rw [← List.length_append]
    exact hpre.length_le
  obtain ⟨found, hfound, hstart⟩ := Regex.getLast?_finditer hmatch hlast hover
  refine ⟨found, hfound, hstart, ?_⟩
  obtain ⟨before', _, tail', htext, hstart', hstop', hfoundMatch⟩ :=
    Regex.matchesAt_of_mem_finditer (List.mem_of_getLast? hfound)
  obtain ⟨name', rfl, hcommand'⟩ := matches_constructRe.mp hfoundMatch
  rw [List.append_assoc, List.append_assoc] at htext
  obtain ⟨rfl, hsame⟩ := List.append_inj htext (by rw [← hstart', hstart])
  rw [hstop', (commandNames_unique h.name_mem hcommand'.name_mem (List.cons.inj hsame).2).1]

/-! ### A round -/

/-- An argument in braces, after spaces. -/
structure Argument (spaces inner : PyStr) : Prop where
  spaces : ∀ c ∈ spaces, isSpace c = true
  inner : Enclosed inner

/-- The text of an argument. -/
def argumentText (spaces inner : PyStr) : PyStr := spaces ++ leftBrace :: (inner ++ [rightBrace])

theorem skipSpaces_append (before : PyStr) {spaces rest : PyStr}
    (hspaces : ∀ c ∈ spaces, isSpace c = true) (hrest : ∀ c ∈ rest.head?, isSpace c = false) :
    skipSpaces (before ++ (spaces ++ rest)) before.length = before.length + spaces.length := by
  have htake : rest.takeWhile isSpace = [] := by
    cases rest with
    | nil => rfl
    | cons c rest => rw [List.takeWhile_cons, hrest c rfl]; rfl
  unfold skipSpaces
  rw [List.drop_left, List.takeWhile_append_of_pos hspaces, htake, List.append_nil]

/-- A brace that opens here is closed after an enclosed text. -/
theorem matchingBrace_append {before rest : PyStr} {stop : Nat} :
    matchingBrace (before ++ rest) before.length = some stop ↔
      ∃ inner after, rest = leftBrace :: (inner ++ rightBrace :: after) ∧
        stop = before.length + 1 + inner.length ∧ Enclosed inner := by
  cases rest with
  | nil =>
    unfold matchingBrace
    simp
  | cons c rest =>
    by_cases hc : c = leftBrace
    · rw [hc, matchingBrace_eq_some_iff]
      simp only [List.cons.injEq, true_and]
    · unfold matchingBrace
      simp [hc]

theorem skipSpaces_argument (before after : PyStr) {spaces inner : PyStr}
    (h : Argument spaces inner) :
    skipSpaces (before ++ (argumentText spaces inner ++ after)) before.length =
      (before ++ spaces).length := by
  rw [argumentText, List.append_assoc, skipSpaces_append before h.spaces, List.length_append]
  intro c hc
  obtain rfl : leftBrace = c := Option.some.inj hc
  decide

/-- The brace that is looked for after a command closes its argument. -/
theorem matchingBrace_skipSpaces {before rest : PyStr} {stop : Nat} :
    matchingBrace (before ++ rest) (skipSpaces (before ++ rest) before.length) = some stop ↔
      ∃ spaces inner after, Argument spaces inner ∧ rest = argumentText spaces inner ++ after ∧
        stop + 1 = (before ++ argumentText spaces inner).length := by
  have hlength : ∀ spaces inner : PyStr, (before ++ argumentText spaces inner).length =
      (before ++ spaces).length + 1 + inner.length + 1 := by
    intro spaces inner
    simp only [argumentText, List.length_append, List.length_cons, List.length_nil]
    omega
  constructor
  · intro h
    have hskip : skipSpaces (before ++ rest) before.length =
        (before ++ rest.takeWhile isSpace).length := by
      unfold skipSpaces
      rw [List.drop_left, List.length_append]
    have htext : before ++ rest = before ++ rest.takeWhile isSpace ++ rest.dropWhile isSpace := by
      rw [List.append_assoc, List.takeWhile_append_dropWhile]
    rw [hskip, htext, matchingBrace_append] at h
    obtain ⟨inner, after, hrest, rfl, henclosed⟩ := h
    refine ⟨rest.takeWhile isSpace, inner, after,
      ⟨fun c hc => List.mem_takeWhile_imp hc, henclosed⟩, ?_, (hlength _ _).symm⟩
    rw [argumentText, List.append_assoc, List.cons_append, List.append_assoc,
      List.singleton_append, ← hrest, List.takeWhile_append_dropWhile]
  · rintro ⟨spaces, inner, after, hargument, rfl, hstop⟩
    rw [skipSpaces_argument before after hargument, argumentText, List.append_assoc,
      ← List.append_assoc, matchingBrace_append]
    refine ⟨inner, after, ?_, ?_, hargument.inner⟩
    · rw [List.cons_append, List.append_assoc, List.singleton_append]
    · rw [hlength] at hstop
      exact Nat.succ.inj hstop

/-- What stands in the braces of an argument. -/
theorem slice_argument (before after : PyStr) {spaces inner : PyStr} {stop : Nat}
    (hstop : stop + 1 = (before ++ argumentText spaces inner).length) :
    slice (before ++ (argumentText spaces inner ++ after)) ((before ++ spaces).length + 1) stop =
      inner := by
  have htext : before ++ (argumentText spaces inner ++ after) =
      (before ++ spaces ++ [leftBrace]) ++ inner ++ rightBrace :: after := by
    simp [argumentText]
  rw [htext]
  apply slice_append_middle
  · simp [Nat.add_assoc]
  · simp only [argumentText, List.length_append, List.length_cons, List.length_nil] at hstop ⊢
    omega

/-- A quotient in Python's syntax. -/
def quotientText (numerator denominator : PyStr) : PyStr :=
  "((".toList ++ numerator ++ ")/(".toList ++ denominator ++ "))".toList

/-- A root in Python's syntax. -/
def rootText (radicand : PyStr) : PyStr := "sqrt(".toList ++ radicand ++ ")".toList

theorem quotientText_eq (numerator denominator : PyStr) : quotientText numerator denominator =
    "((".toList ++ numerator ++ ")/(".toList ++ denominator ++ "))".toList := rfl

theorem rootText_eq (radicand : PyStr) :
    rootText radicand = "sqrt(".toList ++ radicand ++ ")".toList := rfl

/-- What a command becomes, and the text after its arguments. -/
inductive Rewritten : (name tail new after : PyStr) → Prop where
  | frac {spaces spaces' numerator denominator : PyStr} (after : PyStr)
      (hnumerator : Argument spaces numerator) (hdenominator : Argument spaces' denominator) :
      Rewritten "frac".toList
        (argumentText spaces numerator ++ (argumentText spaces' denominator ++ after))
        (quotientText numerator denominator) after
  | sqrt {spaces radicand : PyStr} (after : PyStr) (hradicand : Argument spaces radicand) :
      Rewritten "sqrt".toList (argumentText spaces radicand ++ after) (rootText radicand) after

theorem drop_argument (before after : PyStr) {spaces inner : PyStr} {stop : Nat}
    (hstop : stop + 1 = (before ++ argumentText spaces inner).length) :
    (before ++ (argumentText spaces inner ++ after)).drop (stop + 1) = after := by
  rw [hstop, ← List.append_assoc, List.drop_left]

theorem exists_argument_stop (before spaces inner : PyStr) :
    ∃ stop, stop + 1 = (before ++ argumentText spaces inner).length := by
  refine ⟨(before ++ spaces).length + 1 + inner.length, ?_⟩
  simp only [argumentText, List.length_append, List.length_cons, List.length_nil]
  omega

/-- A round rewrites its command or finds no arguments to it. -/
theorem replaceConstruct_eq_some {before name tail next : PyStr} {found : Regex.Match Char Empty}
    (hname : name ∈ ["frac".toList, "sqrt".toList]) (hstart : found.start = before.length)
    (hstop : found.stop = (before ++ '\\' :: name).length) :
    replaceConstruct (before ++ '\\' :: name ++ tail) found = some next ↔
      ∃ new after, Rewritten name tail new after ∧ next = before ++ new ++ after := by
  have hcommand : slice (before ++ '\\' :: name ++ tail) (found.start + 1) found.stop = name := by
    rw [← List.singleton_append (x := '\\'), ← List.append_assoc before]
    apply slice_append_middle
    · rw [hstart, List.length_append, List.length_singleton]
    · rw [hstop]
      simp only [List.length_append, List.length_cons, List.length_nil]
      omega
  have htake : (before ++ '\\' :: name ++ tail).take found.start = before := by
    rw [hstart, List.append_assoc, List.take_left]
  unfold replaceConstruct
  rw [hcommand, htake, hstop]
  generalize hopening : before ++ '\\' :: name = opening
  simp only [List.mem_cons, List.not_mem_nil, or_false] at hname
  rcases hname with rfl | rfl
  · rw [if_pos rfl]
    constructor
    · intro h
      obtain ⟨stop, hclose, h⟩ := Option.bind_eq_some_iff.mp h
      obtain ⟨stop', hclose', h⟩ := Option.bind_eq_some_iff.mp h
      obtain ⟨spaces, numerator, rest, hnumerator, rfl, hend⟩ :=
        matchingBrace_skipSpaces.mp hclose
      simp only [skipSpaces_argument opening rest hnumerator,
        slice_argument opening rest hend] at h
      rw [hend, ← List.append_assoc opening] at hclose' h
      obtain ⟨spaces', denominator, after, hdenominator, rfl, hend'⟩ :=
        matchingBrace_skipSpaces.mp hclose'
      rw [skipSpaces_argument _ after hdenominator, slice_argument _ after hend',
        drop_argument _ after hend'] at h
      exact ⟨_, after, .frac after hnumerator hdenominator, (Option.some.inj h).symm⟩
    · rintro ⟨new, after, hrewritten, rfl⟩
      generalize hword : "frac".toList = word at hrewritten
      cases hrewritten with
      | sqrt => exact absurd hword (by decide)
      | @frac spaces spaces' numerator denominator after hnumerator hdenominator =>
        obtain ⟨stop, hend⟩ := exists_argument_stop opening spaces numerator
        obtain ⟨stop', hend'⟩ :=
          exists_argument_stop (opening ++ argumentText spaces numerator) spaces' denominator
        refine Option.bind_eq_some_iff.mpr
          ⟨stop, matchingBrace_skipSpaces.mpr ⟨_, _, _, hnumerator, rfl, hend⟩, ?_⟩
        simp only [skipSpaces_argument opening _ hnumerator, slice_argument opening _ hend]
        rw [hend, ← List.append_assoc opening]
        refine Option.bind_eq_some_iff.mpr
          ⟨stop', matchingBrace_skipSpaces.mpr ⟨_, _, _, hdenominator, rfl, hend'⟩, ?_⟩
        rw [skipSpaces_argument _ after hdenominator, slice_argument _ after hend',
          drop_argument _ after hend']
        rfl
  · rw [if_neg (by decide)]
    constructor
    · intro h
      obtain ⟨stop, hclose, h⟩ := Option.bind_eq_some_iff.mp h
      obtain ⟨spaces, radicand, after, hradicand, rfl, hend⟩ :=
        matchingBrace_skipSpaces.mp hclose
      rw [skipSpaces_argument opening after hradicand, slice_argument opening after hend,
        drop_argument opening after hend] at h
      exact ⟨_, after, .sqrt after hradicand, (Option.some.inj h).symm⟩
    · rintro ⟨new, after, hrewritten, rfl⟩
      generalize hword : "sqrt".toList = word at hrewritten
      cases hrewritten with
      | frac => exact absurd hword (by decide)
      | @sqrt spaces radicand after hradicand =>
        obtain ⟨stop, hend⟩ := exists_argument_stop opening spaces radicand
        refine Option.bind_eq_some_iff.mpr
          ⟨stop, matchingBrace_skipSpaces.mpr ⟨_, _, _, hradicand, rfl, hend⟩, ?_⟩
        rw [skipSpaces_argument opening after hradicand, slice_argument opening after hend,
          drop_argument opening after hend]
        rfl

/-! ### The loop -/

/-- One round: the last command of `value` is rewritten. -/
def Round (value next : PyStr) : Prop :=
  ∃ found, (constructRe.finditer value 0).getLast? = some found ∧
    replaceConstruct value found = some next

/-- The loop from `value` on ends with `result`. -/
inductive LoopEnds : PyStr → Option PyStr → Prop where
  | done {value : PyStr} (h : constructRe.finditer value 0 = []) : LoopEnds value (some value)
  | fails {value : PyStr} {found : Regex.Match Char Empty}
      (hlast : (constructRe.finditer value 0).getLast? = some found)
      (h : replaceConstruct value found = none) : LoopEnds value none
  | round {value next : PyStr} {result : Option PyStr} (h : Round value next)
      (hends : LoopEnds next result) : LoopEnds value result

/-- The last command of a text that has one. -/
theorem last_command {value : PyStr} {found : Regex.Match Char Empty}
    (h : (constructRe.finditer value 0).getLast? = some found) :
    ∃ before name tail, value = before ++ '\\' :: name ++ tail ∧
      name ∈ ["frac".toList, "sqrt".toList] ∧ found.start = before.length ∧
      found.stop = (before ++ '\\' :: name).length := by
  obtain ⟨before, _, tail, htext, hstart, hstop, hmatch⟩ :=
    Regex.matchesAt_of_mem_finditer (List.mem_of_getLast? h)
  obtain ⟨name, rfl, hcommand⟩ := matches_constructRe.mp hmatch
  exact ⟨before, name, tail, htext, hcommand.name_mem, hstart,
    hstop.trans (List.length_append ..).symm⟩

theorem count_argumentText {spaces inner : PyStr} (h : Argument spaces inner) :
    (argumentText spaces inner).count '\\' = inner.count '\\' := by
  have hspaces : spaces.count '\\' = 0 := by
    rw [List.count_eq_zero]
    intro hmem
    have hspace := h.spaces _ hmem
    revert hspace
    decide
  rw [argumentText, List.count_append, hspaces, Nat.zero_add, List.count_cons, List.count_append]
  rfl

/-- The arguments are kept. -/
theorem Rewritten.count_eq {name tail new after : PyStr} (h : Rewritten name tail new after) :
    (new ++ after).count '\\' = tail.count '\\' := by
  cases h with
  | frac after hnumerator hdenominator =>
    have hwritten : ("((".toList.count '\\' = 0 ∧ ")/(".toList.count '\\' = 0) ∧
        "))".toList.count '\\' = 0 := by decide
    simp only [quotientText_eq, List.count_append, count_argumentText hnumerator,
      count_argumentText hdenominator, hwritten.1.1, hwritten.1.2, hwritten.2]
    omega
  | sqrt after hradicand =>
    have hwritten : "sqrt(".toList.count '\\' = 0 ∧ ")".toList.count '\\' = 0 := by decide
    simp only [rootText_eq, List.count_append, count_argumentText hradicand, hwritten.1, hwritten.2]
    omega

/-- A round removes one backslash. -/
theorem Round.count_lt {value next : PyStr} (h : Round value next) :
    next.count '\\' < value.count '\\' := by
  obtain ⟨found, hlast, hnext⟩ := h
  obtain ⟨before, name, tail, rfl, hname, hstart, hstop⟩ := last_command hlast
  obtain ⟨new, after, hrewritten, rfl⟩ := (replaceConstruct_eq_some hname hstart hstop).mp hnext
  rw [List.append_assoc, List.append_assoc, List.count_append, hrewritten.count_eq,
    List.count_append, List.cons_append, List.count_cons_self, List.count_append]
  omega

theorem wellFounded_round : WellFounded fun next value => Round value next :=
  Subrelation.wf (fun h => Round.count_lt h) (InvImage.wf (List.count '\\') Nat.lt_wfRel.wf)

/-- The rounds that the loop has are enough. -/
theorem loopEnds_replaceConstantFrom {rounds : Nat} {value : PyStr}
    (h : value.count '\\' < rounds) : LoopEnds value (replaceConstantFrom rounds value) := by
  induction rounds generalizing value with
  | zero => exact absurd h (Nat.not_lt_zero _)
  | succ rounds ih =>
    unfold replaceConstantFrom
    cases hlast : (constructRe.finditer value 0).getLast? with
    | none => exact .done (List.getLast?_eq_none_iff.mp hlast)
    | some found =>
      change LoopEnds value ((replaceConstruct value found).bind (replaceConstantFrom rounds))
      cases hnext : replaceConstruct value found with
      | none => exact .fails hlast hnext
      | some next =>
        have hround : Round value next := ⟨found, hlast, hnext⟩
        exact .round hround (ih (Nat.lt_of_lt_of_le hround.count_lt (Nat.lt_succ_iff.mp h)))

theorem LoopEnds.unique {value : PyStr} {result result' : Option PyStr}
    (h : LoopEnds value result) (h' : LoopEnds value result') : result = result' := by
  induction h with
  | done hnil =>
    cases h' with
    | done => rfl
    | fails hlast =>
      rw [hnil] at hlast
      cases hlast
    | round hround =>
      obtain ⟨found, hlast, _⟩ := hround
      rw [hnil] at hlast
      cases hlast
  | fails hlast hnone =>
    cases h' with
    | done hnil =>
      rw [hnil] at hlast
      cases hlast
    | fails => rfl
    | round hround =>
      obtain ⟨found, hlast', hnext⟩ := hround
      obtain rfl := Option.some.inj (hlast.symm.trans hlast')
      rw [hnone] at hnext
      cases hnext
  | round hround _ ih =>
    obtain ⟨found, hlast, hnext⟩ := hround
    cases h' with
    | done hnil =>
      rw [hnil] at hlast
      cases hlast
    | fails hlast' hnone =>
      obtain rfl := Option.some.inj (hlast.symm.trans hlast')
      rw [hnone] at hnext
      cases hnext
    | round hround' hends =>
      obtain ⟨found', hlast', hnext'⟩ := hround'
      obtain rfl := Option.some.inj (hlast.symm.trans hlast')
      obtain rfl := Option.some.inj (hnext.symm.trans hnext')
      exact ih hends

theorem loopEnds_iff {text : PyStr} {result : Option PyStr} :
    LoopEnds text result ↔ replaceConstantLatex text = result := by
  have hends : LoopEnds text (replaceConstantLatex text) :=
    loopEnds_replaceConstantFrom (Nat.lt_succ_self _)
  constructor
  · exact fun h => hends.unique h
  · rintro rfl
    exact hends

/-- A round does not change what the loop returns. -/
theorem Round.replaceConstantLatex_eq {value next : PyStr} (h : Round value next) :
    replaceConstantLatex value = replaceConstantLatex next :=
  loopEnds_iff.mp (.round h (loopEnds_iff.mpr rfl))

theorem CommandFree.replaceConstantLatex_eq {text : PyStr} (h : CommandFree text) :
    replaceConstantLatex text = some text :=
  loopEnds_iff.mp (.done (commandFree_iff.mp h))

theorem isWord_leftBrace : Pattern.isWord leftBrace = false := by decide +kernel

theorem isWord_of_isSpace {c : Char} (h : isSpace c = true) : Pattern.isWord c = false := by
  obtain ⟨code, hcode, rfl⟩ := List.mem_map.mp (mem_spaceCodes h)
  have htoNat : ∀ code ∈ spaceCodes, (Char.ofNat code).toNat = code := by decide
  have hranges : ∀ code ∈ spaceCodes,
      (alnumRanges.any fun range => range.1 ≤ code && code ≤ range.2) = false := by
    decide +kernel
  have hunderscore : ∀ code ∈ spaceCodes, Char.ofNat code ≠ '_' := by decide
  unfold Pattern.isWord isAlnum
  rw [htoNat code hcode, hranges code hcode, Bool.or_false]
  exact decide_eq_false (hunderscore code hcode)

theorem head?_argumentText {spaces inner : PyStr} (h : Argument spaces inner) (after : PyStr) :
    ∀ c ∈ (argumentText spaces inner ++ after).head?, Pattern.isWord c = false := by
  intro c hc
  unfold argumentText at hc
  cases spaces with
  | nil =>
    obtain rfl : leftBrace = c := Option.some.inj hc
    exact isWord_leftBrace
  | cons d spaces =>
    obtain rfl : d = c := Option.some.inj hc
    exact isWord_of_isSpace (h.spaces d List.mem_cons_self)

theorem Rewritten.beginsCommand {name tail new after : PyStr}
    (h : Rewritten name tail new after) : BeginsCommand name tail ('\\' :: (name ++ tail)) := by
  cases h with
  | frac after hnumerator =>
    exact ⟨List.mem_cons_self, rfl, head?_argumentText hnumerator _⟩
  | sqrt after hradicand =>
    exact ⟨List.mem_cons_of_mem _ List.mem_cons_self, rfl, head?_argumentText hradicand _⟩

/-- The command after which none begins is rewritten first. -/
theorem Rewritten.round {name tail new after : PyStr} (h : Rewritten name tail new after)
    (hfree : CommandFree tail) (before : PyStr) :
    Round (before ++ '\\' :: name ++ tail) (before ++ new ++ after) := by
  obtain ⟨found, hlast, hstart, hstop⟩ :=
    getLast?_constructRe before h.beginsCommand hfree
  rw [← List.length_append] at hstop
  exact ⟨found, hlast, (replaceConstruct_eq_some h.beginsCommand.name_mem hstart hstop).mpr
    ⟨new, after, h, rfl⟩⟩

/-! ### Terms -/

/-- A character that neither begins a command nor is a brace. -/
def IsPlain (c : Char) : Prop := c ≠ '\\' ∧ c ≠ leftBrace ∧ c ≠ rightBrace

instance : DecidablePred IsPlain := fun _ => instDecidableAnd

/-- What follows the backslash of a command that is not rewritten: `first` may also be a brace,
    which is escaped then. -/
structure OtherCommand (first : Char) (letters : PyStr) : Prop where
  unescaped : first ≠ '\\'
  plain : ∀ c ∈ letters, IsPlain c
  other : ∀ name ∈ ["frac".toList, "sqrt".toList],
    ¬ first :: letters <+: name ∧ ¬ name <+: first :: letters

/-- A constant term with nested arguments. -/
inductive ConstantTerm where
  | plain (text : PyStr) (h : ∀ c ∈ text, IsPlain c)
  | command (first : Char) (letters : PyStr) (h : OtherCommand first letters)
  | append (left right : ConstantTerm)
  | group (inner : ConstantTerm)
  | frac (spaces spaces' : PyStr) (h : ∀ c ∈ spaces ++ spaces', isSpace c = true)
      (numerator denominator : ConstantTerm)
  | sqrt (spaces : PyStr) (h : ∀ c ∈ spaces, isSpace c = true) (radicand : ConstantTerm)

theorem enclosed_iff {text : PyStr} :
    Enclosed text ↔ Balanced (braceMarks byParity false text) ∧
      text.foldl byParity false = false := by
  rw [← isEscaped_length]
  exact ⟨fun h => ⟨h.balanced, h.unescaped⟩, fun h => ⟨h.1, h.2⟩⟩

theorem Enclosed.append {left right : PyStr} (hleft : Enclosed left) (hright : Enclosed right) :
    Enclosed (left ++ right) := by
  rw [enclosed_iff] at hleft hright ⊢
  rw [braceMarks_append, List.foldl_append, hleft.2]
  exact ⟨hleft.1.append hright.1, hright.2⟩

theorem enclosed_of_plain {text : PyStr} (h : ∀ c ∈ text, IsPlain c) : Enclosed text := by
  rw [enclosed_iff]
  have hmarks : (∀ mark ∈ braceMarks byParity false text, mark = .other) ∧
      text.foldl byParity false = false := by
    induction text with
    | nil => exact ⟨nofun, rfl⟩
    | cons c text ih =>
      obtain ⟨⟨hbackslash, hleft, hright⟩, hrest⟩ := List.forall_mem_cons.mp h
      have hnext : byParity false c = false := by
        rw [byParity, decide_eq_false hbackslash]
        rfl
      rw [braceMarks, if_neg Bool.false_ne_true, if_neg hleft, if_neg hright, List.foldl_cons,
        hnext]
      exact ⟨List.forall_mem_cons.mpr ⟨rfl, (ih hrest).1⟩, (ih hrest).2⟩
  exact ⟨balanced_of_other hmarks.1, hmarks.2⟩

theorem OtherCommand.enclosed {first : Char} {letters : PyStr} (h : OtherCommand first letters) :
    Enclosed ('\\' :: first :: letters) := by
  have hpair : Enclosed ['\\', first] := by
    have hmarks : braceMarks byParity false ['\\', first] = [.other, .other] := rfl
    rw [enclosed_iff, hmarks]
    exact ⟨by decide, Bool.and_false _⟩
  exact hpair.append (enclosed_of_plain h.plain)

theorem Enclosed.braces {inner : PyStr} (h : Enclosed inner) :
    Enclosed (leftBrace :: (inner ++ [rightBrace])) := by
  rw [enclosed_iff] at h ⊢
  have hmarks : braceMarks byParity false (leftBrace :: (inner ++ [rightBrace])) =
      .opening :: (braceMarks byParity false inner ++ [.closing]) := by
    have hfirst : byParity false leftBrace = false := by decide
    rw [braceMarks, hfirst, braceMarks_append, h.2]
    rfl
  rw [hmarks]
  refine ⟨h.1.enclose, ?_⟩
  rw [List.foldl_cons, List.foldl_append, List.foldl_cons, List.foldl_nil, byParity,
    decide_eq_false (by decide), Bool.false_and]

def fracText (spaces numerator spaces' denominator : PyStr) : PyStr :=
  '\\' :: ("frac".toList ++ argumentText spaces numerator ++ argumentText spaces' denominator)

def sqrtText (spaces radicand : PyStr) : PyStr :=
  '\\' :: ("sqrt".toList ++ argumentText spaces radicand)

namespace ConstantTerm

/-- The term as it is written. -/
def render : ConstantTerm → PyStr
  | plain text _ => text
  | command first letters _ => '\\' :: first :: letters
  | append left right => left.render ++ right.render
  | group inner => leftBrace :: (inner.render ++ [rightBrace])
  | frac spaces spaces' _ numerator denominator =>
      fracText spaces numerator.render spaces' denominator.render
  | sqrt spaces _ radicand => sqrtText spaces radicand.render

/-- The term with its fractions as quotients and its roots as calls. -/
def translate : ConstantTerm → PyStr
  | plain text _ => text
  | command first letters _ => '\\' :: first :: letters
  | append left right => left.translate ++ right.translate
  | group inner => leftBrace :: (inner.translate ++ [rightBrace])
  | frac _ _ _ numerator denominator => quotientText numerator.translate denominator.translate
  | sqrt _ _ radicand => rootText radicand.translate

/-- No command is left that begins in a translated term. -/
theorem commandFree_translate (term : ConstantTerm) {after : PyStr} (h : CommandFree after) :
    CommandFree (term.translate ++ after) := by
  induction term generalizing after with
  | plain text hplain => exact h.append fun hmem => (hplain _ hmem).1 rfl
  | command first letters hother =>
    have hletters : '\\' ∉ first :: letters := by
      rw [List.mem_cons, not_or]
      exact ⟨fun heq => hother.unescaped heq.symm, fun hmem => (hother.plain _ hmem).1 rfl⟩
    intro before name tail rest htext hcommand
    cases before with
    | cons c before =>
      exact h.append hletters before name tail rest (List.cons.inj htext).2 hcommand
    | nil =>
      obtain rfl : '\\' :: (first :: letters ++ after) = rest := htext
      have hsame := (List.cons.inj hcommand.rest_eq).2
      have hcases := List.prefix_or_prefix_of_prefix
        (List.prefix_append (first :: letters) after) (hsame ▸ List.prefix_append name tail)
      obtain ⟨hleft, hright⟩ := hother.other name hcommand.name_mem
      rcases hcases with hpre | hpre
      · exact hleft hpre
      · exact hright hpre
  | append left right ihLeft ihRight =>
    rw [translate, List.append_assoc]
    exact ihLeft (ihRight h)
  | group inner ih =>
    rw [translate, List.cons_append, List.append_assoc]
    exact (ih (h.append (by decide))).cons (by decide)
  | frac spaces spaces' hspaces numerator denominator ihNumerator ihDenominator =>
    rw [translate, quotientText_eq]
    simp only [List.append_assoc]
    exact (ihNumerator ((ihDenominator (h.append (by decide))).append (by decide))).append
      (by decide)
  | sqrt spaces hspaces radicand ih =>
    rw [translate, rootText_eq]
    simp only [List.append_assoc]
    exact (ih (h.append (by decide))).append (by decide)

/-- The braces of a translated term are balanced, and none after it is escaped. -/
theorem enclosed_translate (term : ConstantTerm) : Enclosed term.translate := by
  induction term with
  | plain text hplain => exact enclosed_of_plain hplain
  | command first letters hother => exact hother.enclosed
  | append left right ihLeft ihRight => exact ihLeft.append ihRight
  | group inner ih => exact ih.braces
  | frac spaces spaces' hspaces numerator denominator ihNumerator ihDenominator =>
    have hwritten : (Enclosed "((".toList ∧ Enclosed ")/(".toList) ∧ Enclosed "))".toList := by
      decide
    have hleft := hwritten.1.1.append ihNumerator
    have hright := hwritten.1.2.append ihDenominator
    simpa [translate, quotientText_eq] using (hleft.append hright).append hwritten.2
  | sqrt spaces hspaces radicand ih =>
    have hwritten : Enclosed "sqrt(".toList ∧ Enclosed ")".toList := by decide
    exact (hwritten.1.append ih).append hwritten.2

theorem commandFree_argument (term : ConstantTerm) {spaces after : PyStr}
    (hspaces : ∀ c ∈ spaces, isSpace c = true) (h : CommandFree after) :
    CommandFree (argumentText spaces term.translate ++ after) := by
  have hfree : '\\' ∉ spaces := by
    intro hmem
    have hspace := hspaces _ hmem
    revert hspace
    decide
  have hinner : CommandFree (term.translate ++ ([rightBrace] ++ after)) :=
    term.commandFree_translate (h.append (by decide))
  rw [argumentText, List.append_assoc, List.cons_append, List.append_assoc]
  exact (hinner.cons (by decide)).append hfree

/-- Wherever it stands before text without commands, a term is translated. -/
theorem replaceConstantLatex_within (term : ConstantTerm) (before : PyStr) {after : PyStr}
    (h : CommandFree after) :
    replaceConstantLatex (before ++ (term.render ++ after)) =
      replaceConstantLatex (before ++ (term.translate ++ after)) := by
  induction term generalizing before after with
  | plain text hplain => rfl
  | command first letters hother => rfl
  | append left right ihLeft ihRight =>
    have hright := ihRight (before ++ left.render) h
    have hleft := ihLeft before (right.commandFree_translate h)
    rw [List.append_assoc, List.append_assoc] at hright
    rw [render, translate, List.append_assoc, List.append_assoc, hright, hleft]
  | group inner ih =>
    have hinner := ih (before ++ [leftBrace])
      (h.append (by decide) : CommandFree ([rightBrace] ++ after))
    simpa [render, translate] using hinner
  | frac spaces spaces' hspaces numerator denominator ihNumerator ihDenominator =>
    obtain ⟨hleft, hright⟩ := List.forall_mem_append.mp hspaces
    have hnumerator : Argument spaces numerator.translate := ⟨hleft, numerator.enclosed_translate⟩
    have hdenominator : Argument spaces' denominator.translate :=
      ⟨hright, denominator.enclosed_translate⟩
    -- the denominator, then the numerator, then the command
    have hsecond := denominator.commandFree_argument hright h
    have hfirst := numerator.commandFree_argument hleft hsecond
    have hwithin := ihDenominator
      (before ++ ("\\frac".toList ++ argumentText spaces numerator.render ++ spaces' ++
        [leftBrace]))
      (h.append (by decide) : CommandFree ([rightBrace] ++ after))
    have hwithin' := ihNumerator (before ++ ("\\frac".toList ++ spaces ++ [leftBrace]))
      (hsecond.append (by decide) :
        CommandFree ([rightBrace] ++ (argumentText spaces' denominator.translate ++ after)))
    have hround := ((Rewritten.frac after hnumerator hdenominator).round hfirst
      before).replaceConstantLatex_eq
    calc replaceConstantLatex (before ++ ((frac spaces spaces' hspaces numerator
            denominator).render ++ after))
        = replaceConstantLatex (before ++ '\\' :: "frac".toList ++ (argumentText spaces
            numerator.render ++ (argumentText spaces' denominator.translate ++ after))) := by
          simpa [render, fracText, argumentText] using hwithin
      _ = replaceConstantLatex (before ++ '\\' :: "frac".toList ++ (argumentText spaces
            numerator.translate ++ (argumentText spaces' denominator.translate ++ after))) := by
          simpa [argumentText] using hwithin'
      _ = _ := hround
      _ = _ := by rw [translate, List.append_assoc]
  | sqrt spaces hspaces radicand ih =>
    have hwithin := ih (before ++ ("\\sqrt".toList ++ spaces ++ [leftBrace]))
      (h.append (by decide) : CommandFree ([rightBrace] ++ after))
    have hargument : Argument spaces radicand.translate := ⟨hspaces, radicand.enclosed_translate⟩
    have hround := ((Rewritten.sqrt after hargument).round
      (radicand.commandFree_argument hspaces h) before).replaceConstantLatex_eq
    calc replaceConstantLatex (before ++ ((sqrt spaces hspaces radicand).render ++ after))
        = replaceConstantLatex (before ++ '\\' :: "sqrt".toList ++
            (argumentText spaces radicand.translate ++ after)) := by
          simpa [render, sqrtText, argumentText] using hwithin
      _ = _ := hround
      _ = _ := by rw [translate, List.append_assoc]

end ConstantTerm

/-- **The rewriting of constant commands.**  The rounds of the loop do not go on for ever, the
    function returns what the loop ends with, and on a term with nested arguments that is the
    term with its fractions as quotients and its roots as calls. -/
theorem replaceConstantLatex_translates :
    (WellFounded fun next value => Round value next) ∧
      (∀ text, LoopEnds text (replaceConstantLatex text)) ∧
      ∀ term : ConstantTerm, replaceConstantLatex term.render = some term.translate := by
  refine ⟨wellFounded_round, fun text => loopEnds_iff.mpr rfl, ?_⟩
  intro term
  have hwithin := term.replaceConstantLatex_within [] commandFree_nil
  have hfree := term.commandFree_translate commandFree_nil
  rw [List.append_nil] at hfree
  simp only [List.nil_append, List.append_nil] at hwithin
  rw [hwithin, hfree.replaceConstantLatex_eq]

end R2opl
