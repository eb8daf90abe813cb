import R2opl.Answer.Boxed
import R2opl.Splitter.TextSteps

/-!
# The splitter's last box and the verifier's

`_balanced_boxes` of the splitter reads a text from the left, one box after the other, and
stops at the first that does not close.  `extract_final_answer` of the verifier repairs the
text and reads its last box command only.  They differ on a space before the brace, on
repaired characters, on nested and unclosed boxes, and on backslashes before a brace.
-/

namespace R2opl

open Brackets

/-! ### What the splitter reads -/

/-- The splitter's rule: a backslash escapes the character after it. -/
def byPrevious (_ : Bool) (c : Char) : Bool := decide (c = '\\')

/-- Closed by the next brace as the splitter counts: balanced, and not ending in a
    backslash. -/
structure PlainEnclosed (payload : PyStr) : Prop where
  balanced : Balanced (braceMarks byPrevious false payload)
  unescaped : payload.getLast? ≠ some '\\'

/-- The splitter reads no box: there is none, or the first one does not close. -/
def ReadsNoBox (text : PyStr) : Prop :=
  ¬ boxPrefix <:+: text ∨
    ∃ before rest, text = before ++ boxPrefix ++ rest ∧ ¬ boxPrefix <:+: before ∧
      ∀ inner after, rest = inner ++ rightBrace :: after → ¬ PlainEnclosed inner

/-- The end of the text is outside every box that the splitter reads in it. -/
inductive OutsideBoxes : PyStr → Prop where
  | plain {text : PyStr} (hplain : ¬ boxPrefix <:+: text) : OutsideBoxes text
  | box {before inner after : PyStr} (hbefore : ¬ boxPrefix <:+: before)
      (hinner : PlainEnclosed inner) (hafter : OutsideBoxes after) :
      OutsideBoxes (before ++ boxPrefix ++ (inner ++ rightBrace :: after))

/-- The last box that the splitter reads holds `inner`. -/
structure LastRead (text before inner after : PyStr) : Prop where
  split : text = before ++ boxPrefix ++ (inner ++ rightBrace :: after)
  outside : OutsideBoxes before
  enclosed : PlainEnclosed inner
  last : ReadsNoBox after

theorem foldl_byPrevious (text : PyStr) (escaped : Bool) :
    text.foldl byPrevious escaped = text.getLast?.elim escaped fun c => decide (c = '\\') := by
  induction text using List.reverseRecOn with
  | nil => rfl
  | append_singleton text c _ =>
    rw [List.foldl_append, List.foldl_cons, List.foldl_nil, List.getLast?_concat]
    rfl

/-- The brace scan counts the braces that follow no backslash. -/
theorem closeBox_eq (rest : PyStr) :
    ∀ (previous : Char) (depth position : Nat),
      closeBox previous (depth + 1) position rest =
        (closeIndex (depth + 1) (braceMarks byPrevious (decide (previous = '\\')) rest)).map
          (position + 1 + ·) := by
  induction rest with
  | nil => exact fun previous depth position => rfl
  | cons c rest ih =>
    intro previous depth position
    have hshift : ∀ found : Option Nat, found.map (position + 1 + 1 + ·) =
        (found.map (· + 1)).map (position + 1 + ·) := by
      intro found
      rw [Option.map_map]
      congr 1
      funext index
      exact (Nat.add_assoc _ _ _).trans (congrArg _ (Nat.add_comm _ _))
    have hslash : Char.ofNat 92 = '\\' := by decide
    rw [closeBox, braceMarks, hslash]
    by_cases hescaped : previous = '\\'
    · rw [if_neg (fun h => h.2 hescaped), if_neg (fun h => h.2 hescaped),
        if_pos (decide_eq_true hescaped), ih, closeIndex, hshift]
      rfl
    · rw [if_neg (fun h => hescaped (of_decide_eq_true h))]
      by_cases hleft : c = leftBrace
      · rw [if_pos ⟨hleft, hescaped⟩, if_pos hleft, ih, closeIndex, hshift]
        rfl
      · rw [if_neg (fun h => hleft h.1), if_neg hleft]
        by_cases hright : c = rightBrace
        · rw [if_pos ⟨hright, hescaped⟩, if_pos hright, closeIndex]
          cases depth with
          | zero =>
            have hclosed : closeBox c 0 (position + 1) rest = some (position + 1) := by
              cases rest <;> rfl
            rw [hclosed]
            rfl
          | succ depth =>
            rw [ih, if_neg (by omega), hshift]
            rfl
        · rw [if_neg (fun h => hright h.1), if_neg hright, ih, closeIndex, hshift]
          rfl

theorem closeBox_eq_some {rest : PyStr} {position stop : Nat} :
    closeBox (Char.ofNat 123) 1 position rest = some stop ↔
      ∃ inner after, rest = inner ++ rightBrace :: after ∧
        stop = position + inner.length + 1 ∧ PlainEnclosed inner := by
  have hstart : decide (Char.ofNat 123 = '\\') = false := by decide
  rw [closeBox_eq, hstart, Option.map_eq_some_iff]
  constructor
  · rintro ⟨index, hindex, rfl⟩
    obtain ⟨inner, after, hrest, rfl, hbalanced, hunescaped⟩ :=
      (closeIndex_braceMarks byPrevious).mp hindex
    refine ⟨inner, after, hrest, by omega, hbalanced, ?_⟩
    intro hlast
    rw [foldl_byPrevious, hlast] at hunescaped
    cases hunescaped
  · rintro ⟨inner, after, hrest, rfl, hbalanced, hunescaped⟩
    refine ⟨inner.length, (closeIndex_braceMarks byPrevious).mpr
      ⟨inner, after, hrest, rfl, hbalanced, ?_⟩, by omega⟩
    rw [foldl_byPrevious]
    cases hlast : inner.getLast? with
    | none => rfl
    | some c =>
      rw [hlast] at hunescaped
      exact decide_eq_false fun hc => hunescaped (congrArg some hc)

/-! ### What the verifier reads -/

/-- The last box command of `text` opens a box that holds `inner`. -/
structure LastClosed (text before command inner after : PyStr) : Prop where
  split : text = before ++ command ++ (inner ++ rightBrace :: after)
  command : IsBoxCommand command
  last : ¬ HasBoxCommand (inner ++ rightBrace :: after)
  enclosed : Enclosed inner

/-- There is no box command, or the last one opens a box that is not closed. -/
def NoClosedBox (text : PyStr) : Prop :=
  ¬ HasBoxCommand text ∨
    ∃ before command rest, text = before ++ command ++ rest ∧ IsBoxCommand command ∧
      ¬ HasBoxCommand rest ∧
      ∀ inner after, rest = inner ++ rightBrace :: after → ¬ Enclosed inner

/-- `extract_final_answer` finds a closed last box. -/
def FindsClosedBox (response : PyStr) : Prop :=
  ∃ found stop, (boxedRe.finditer (repair response) 0).getLast? = some found ∧
    matchingBrace (repair response) (found.stop - 1) = some stop

theorem findsClosedBox_iff_of_last {response before command rest : PyStr}
    (hresponse : repair response = before ++ command ++ rest) (hcommand : IsBoxCommand command)
    (hrest : ¬ HasBoxCommand rest) :
    FindsClosedBox response ↔
      ∃ inner after, rest = inner ++ rightBrace :: after ∧ Enclosed inner := by
  obtain ⟨last, hlast, hstop⟩ := getLast?_boxedRe before hcommand hrest
  obtain ⟨spaces, _, rfl⟩ := hcommand
  have hopening : last.stop - 1 = (before ++ "\\boxed".toList ++ spaces).length := by
    rw [hstop]
    simp only [List.length_append, List.length_singleton]
    omega
  have htext : before ++ ("\\boxed".toList ++ spaces ++ [leftBrace]) ++ rest =
      (before ++ "\\boxed".toList ++ spaces) ++ leftBrace :: rest := by
    simp only [List.append_assoc, List.singleton_append]
  unfold FindsClosedBox
  rw [hresponse]
  constructor
  · rintro ⟨found, stop, hfound, hbrace⟩
    rw [hlast] at hfound
    obtain rfl := Option.some.inj hfound
    rw [hopening, htext] at hbrace
    obtain ⟨inner, after, hinner, _, henclosed⟩ := matchingBrace_eq_some_iff.mp hbrace
    exact ⟨inner, after, hinner, henclosed⟩
  · rintro ⟨inner, after, hinner, henclosed⟩
    obtain ⟨stop, hbrace⟩ : ∃ stop, matchingBrace
        (before ++ "\\boxed".toList ++ spaces ++ leftBrace :: rest)
        (before ++ "\\boxed".toList ++ spaces).length = some stop :=
      ⟨_, matchingBrace_eq_some_iff.mpr ⟨inner, after, hinner, rfl, henclosed⟩⟩
    rw [← hopening, ← htext] at hbrace
    exact ⟨last, stop, hlast, hbrace⟩

theorem LastClosed.findsClosedBox {response before command inner after : PyStr}
    (h : LastClosed (repair response) before command inner after) : FindsClosedBox response :=
  (findsClosedBox_iff_of_last h.split h.command h.last).mpr ⟨inner, after, rfl, h.enclosed⟩

theorem LastClosed.answer {response before command inner after : PyStr}
    (h : LastClosed (repair response) before command inner after) :
    (extractFinalAnswer response).1 = strip inner := by
  rw [(extractFinalAnswer_eq h.split h.command h.last).1 inner after rfl h.enclosed]

theorem findsClosedBox_cases (response : PyStr) :
    (NoClosedBox (repair response) ∧ ¬ FindsClosedBox response) ∨
      (¬ NoClosedBox (repair response) ∧
        ∃ before command inner after,
          LastClosed (repair response) before command inner after) := by
  have hnot : NoClosedBox (repair response) → ¬ FindsClosedBox response := by
    rintro (hnone | ⟨before, command, rest, hsplit, hcommand, hrest, hopen⟩) hfinds
    · obtain ⟨found, _, hfound, _⟩ := hfinds
      apply hnone
      rw [hasBoxCommand_iff]
      exact List.ne_nil_of_mem (List.mem_of_getLast? hfound)
    · obtain ⟨inner, after, hinner, henclosed⟩ :=
        (findsClosedBox_iff_of_last hsplit hcommand hrest).mp hfinds
      exact hopen inner after hinner henclosed
  by_cases hnone : NoClosedBox (repair response)
  · exact Or.inl ⟨hnone, hnot hnone⟩
  · refine Or.inr ⟨hnone, ?_⟩
    have hbox : HasBoxCommand (repair response) := by
      by_contra hbox
      exact hnone (Or.inl hbox)
    obtain ⟨before, command, rest, hsplit, hcommand, hrest⟩ := hbox.last
    by_contra hclosed
    apply hnone
    refine Or.inr ⟨before, command, rest, hsplit, hcommand, hrest, ?_⟩
    rintro inner after rfl henclosed
    exact hclosed ⟨before, command, inner, after, hsplit, hcommand, hrest, henclosed⟩

/-! ### The first box -/

theorem isBoxCommand_boxPrefix : IsBoxCommand boxPrefix :=
  ⟨[], fun c hc => absurd hc List.not_mem_nil, by decide⟩

/-- No box starts before `before` ends. -/
theorem boxPrefix_first {before rest left right : PyStr} (hbefore : ¬ boxPrefix <:+: before)
    (htext : before ++ boxPrefix ++ rest = left ++ boxPrefix ++ right) :
    before.length ≤ left.length := by
  by_contra hlt
  have hpre := Separated.words_apart isBoxCommand_boxPrefix.backslash
    isBoxCommand_boxPrefix.head? htext (Nat.lt_of_not_le hlt)
  obtain ⟨after, hafter⟩ := hpre
  exact hbefore ⟨left, after, hafter⟩

theorem boxPrefix_first_unique {before rest before' rest' : PyStr}
    (hbefore : ¬ boxPrefix <:+: before) (hbefore' : ¬ boxPrefix <:+: before')
    (htext : before ++ boxPrefix ++ rest = before' ++ boxPrefix ++ rest') :
    before = before' ∧ rest = rest' := by
  have hlength := Nat.le_antisymm (boxPrefix_first hbefore htext)
    (boxPrefix_first hbefore' htext.symm)
  rw [List.append_assoc, List.append_assoc] at htext
  obtain ⟨rfl, htail⟩ := List.append_inj htext hlength
  exact ⟨rfl, List.append_cancel_left htail⟩

theorem plainEnclosed_unique {inner after inner' after' : PyStr} (hinner : PlainEnclosed inner)
    (hinner' : PlainEnclosed inner')
    (h : inner ++ rightBrace :: after = inner' ++ rightBrace :: after') :
    inner = inner' ∧ after = after' := by
  have hleft : closeBox (Char.ofNat 123) 1 0 (inner ++ rightBrace :: after) = _ :=
    closeBox_eq_some.mpr ⟨inner, after, rfl, rfl, hinner⟩
  have hright : closeBox (Char.ofNat 123) 1 0 (inner' ++ rightBrace :: after') = _ :=
    closeBox_eq_some.mpr ⟨inner', after', rfl, rfl, hinner'⟩
  rw [h, hright] at hleft
  obtain ⟨rfl, htail⟩ := List.append_inj h (by simpa using Eq.symm (Option.some.inj hleft))
  exact ⟨rfl, (List.cons.inj htail).2⟩

/-- `find` stops at the first box. -/
theorem findFrom_boxPrefix_eq_some {seen rest : PyStr} {start : Nat} :
    findFrom boxPrefix (seen ++ rest) seen.length = some start ↔
      ∃ before after, rest = before ++ boxPrefix ++ after ∧ ¬ boxPrefix <:+: before ∧
        start = seen.length + before.length := by
  unfold findFrom
  rw [List.find?_range'_eq_some, List.mem_range'_1]
  simp only [List.isPrefixOf_iff_prefix, Bool.not_eq_true', List.length_append]
  constructor
  · rintro ⟨⟨after, hafter⟩, ⟨hlow, hhigh⟩, hfirst⟩
    obtain ⟨offset, rfl⟩ := Nat.exists_eq_add_of_le hlow
    rw [List.drop_append, List.drop_of_length_le (Nat.le_add_right _ _), List.nil_append,
      Nat.add_sub_cancel_left] at hafter
    have hoffset : (rest.take offset).length = offset := List.length_take_of_le (by omega)
    refine ⟨rest.take offset, after, ?_, ?_, by rw [hoffset]⟩
    · rw [List.append_assoc, hafter, List.take_append_drop]
    · rintro ⟨left, right, hinside⟩
      have hlength := congrArg List.length hinside
      have hseven : boxPrefix.length = 7 := by decide
      simp only [List.length_append] at hlength
      have hearlier := hfirst (seen.length + left.length) (by omega) (by omega)
      rw [List.drop_append, List.drop_of_length_le (Nat.le_add_right _ _), List.nil_append,
        Nat.add_sub_cancel_left, ← List.take_append_drop offset rest, ← hinside,
        List.append_assoc, List.append_assoc, List.drop_left,
        List.isPrefixOf_iff_prefix.mpr (List.prefix_append _ _)] at hearlier
      cases hearlier
  · rintro ⟨before, after, rfl, hbefore, rfl⟩
    refine ⟨⟨after, ?_⟩, ⟨Nat.le_add_right _ _, ?_⟩, ?_⟩
    · rw [List.drop_append, List.drop_of_length_le (Nat.le_add_right _ _), List.nil_append,
        Nat.add_sub_cancel_left, List.append_assoc, List.drop_left]
    · simp only [List.length_append]
      omega
    · intro position hlow hlt
      obtain ⟨offset, rfl⟩ := Nat.exists_eq_add_of_le hlow
      rw [List.drop_append, List.drop_of_length_le (Nat.le_add_right _ _), List.nil_append,
        Nat.add_sub_cancel_left]
      by_contra hfound
      obtain ⟨right, hright⟩ :=
        List.isPrefixOf_iff_prefix.mp (Bool.eq_true_of_not_eq_false hfound)
      have htext : before ++ boxPrefix ++ after =
          (before ++ boxPrefix ++ after).take offset ++ boxPrefix ++ right := by
        rw [List.append_assoc _ boxPrefix right, hright, List.take_append_drop]
      have hle := boxPrefix_first hbefore htext
      have htake := List.length_take_le offset (before ++ boxPrefix ++ after)
      omega

theorem findFrom_boxPrefix_eq_none {seen rest : PyStr} :
    findFrom boxPrefix (seen ++ rest) seen.length = none ↔ ¬ boxPrefix <:+: rest := by
  constructor
  · rintro hnone ⟨before, after, hrest⟩
    -- the first occurrence would be found
    unfold findFrom at hnone
    rw [List.find?_eq_none] at hnone
    have hmem : seen.length + before.length ∈
        List.range' seen.length ((seen ++ rest).length + 1 - seen.length) := by
      rw [List.mem_range'_1, ← hrest]
      simp only [List.length_append]
      omega
    apply hnone _ hmem
    rw [List.drop_append, List.drop_of_length_le (Nat.le_add_right _ _), List.nil_append,
      Nat.add_sub_cancel_left, ← hrest, List.append_assoc, List.drop_left]
    exact List.isPrefixOf_iff_prefix.mpr (List.prefix_append _ _)
  · intro hrest
    cases hfound : findFrom boxPrefix (seen ++ rest) seen.length with
    | none => rfl
    | some start =>
      obtain ⟨before, after, rfl, _⟩ := findFrom_boxPrefix_eq_some.mp hfound
      exact absurd ⟨before, after, rfl⟩ hrest

/-! ### The last box -/

/-- The text has a first box, and it is closed. -/
theorem LastRead.not_readsNoBox {text before inner after : PyStr}
    (h : LastRead text before inner after) : ¬ ReadsNoBox text := by
  obtain ⟨first, payload, rest, htext, hfirst, hpayload⟩ : ∃ first payload rest,
      text = first ++ boxPrefix ++ (payload ++ rightBrace :: rest) ∧
        ¬ boxPrefix <:+: first ∧ PlainEnclosed payload := by
    rw [h.split]
    cases h.outside with
    | plain hplain => exact ⟨before, inner, after, rfl, hplain, h.enclosed⟩
    | @box first payload rest hfirst hpayload _ =>
      exact ⟨first, payload, rest ++ boxPrefix ++ (inner ++ rightBrace :: after),
        by simp only [List.append_assoc, List.cons_append], hfirst, hpayload⟩
  rintro (hnone | ⟨first', rest', htext', hfirst', hopen⟩)
  · exact hnone ⟨first, payload ++ rightBrace :: rest, htext.symm⟩
  · rw [htext] at htext'
    obtain ⟨_, htail⟩ := boxPrefix_first_unique hfirst hfirst' htext'
    exact hopen payload rest htail.symm hpayload

/-- After a box that is read, the boxes are those of the text after it. -/
theorem lastRead_box {first payload rest before inner after : PyStr}
    (hfirst : ¬ boxPrefix <:+: first) (hpayload : PlainEnclosed payload) :
    LastRead (first ++ boxPrefix ++ (payload ++ rightBrace :: rest)) before inner after ↔
      (before = first ∧ inner = payload ∧ after = rest ∧ ReadsNoBox rest) ∨
        ∃ between, before = first ++ boxPrefix ++ (payload ++ rightBrace :: between) ∧
          LastRead rest between inner after := by
  constructor
  · rintro ⟨hsplit, houtside, henclosed, hlast⟩
    cases houtside with
    | plain hplain =>
      obtain ⟨rfl, htail⟩ := boxPrefix_first_unique hfirst hplain hsplit
      obtain ⟨rfl, rfl⟩ := plainEnclosed_unique hpayload henclosed htail
      exact Or.inl ⟨rfl, rfl, rfl, hlast⟩
    | @box first' payload' between hfirst' hpayload' hbetween =>
      have hregroup : first' ++ boxPrefix ++ (payload' ++ rightBrace :: between) ++ boxPrefix ++
          (inner ++ rightBrace :: after) = first' ++ boxPrefix ++ (payload' ++ rightBrace ::
            (between ++ boxPrefix ++ (inner ++ rightBrace :: after))) := by
        simp only [List.append_assoc, List.cons_append]
      rw [hregroup] at hsplit
      obtain ⟨rfl, htail⟩ := boxPrefix_first_unique hfirst hfirst' hsplit
      obtain ⟨rfl, rfl⟩ := plainEnclosed_unique hpayload hpayload' htail
      exact Or.inr ⟨between, rfl, rfl, hbetween, henclosed, hlast⟩
  · rintro (⟨rfl, rfl, rfl, hlast⟩ | ⟨between, rfl, hsplit, houtside, henclosed, hlast⟩)
    · exact ⟨rfl, .plain hfirst, hpayload, hlast⟩
    · refine ⟨?_, .box hfirst hpayload houtside, henclosed, hlast⟩
      rw [hsplit]
      simp only [List.append_assoc, List.cons_append]

/-- Where the box of a split lies. -/
def boxSpan (before inner : PyStr) : Nat × Nat :=
  (before.length, before.length + boxPrefix.length + inner.length + 1)

theorem balancedBoxesFrom_spec :
    ∀ (rounds : Nat) (seen rest : PyStr), rest.length < rounds →
      (balancedBoxesFrom (seen ++ rest) rounds seen.length = [] ↔ ReadsNoBox rest) ∧
        ∀ box, (balancedBoxesFrom (seen ++ rest) rounds seen.length).getLast? = some box ↔
          ∃ before inner after, LastRead rest before inner after ∧
            box = boxSpan (seen ++ before) inner := by
  intro rounds
  induction rounds with
  | zero => exact fun seen rest hrounds => absurd hrounds (Nat.not_lt_zero _)
  | succ rounds ih =>
    intro seen rest hrounds
    have hnone : ReadsNoBox rest → balancedBoxesFrom (seen ++ rest) (rounds + 1) seen.length = [] →
        (balancedBoxesFrom (seen ++ rest) (rounds + 1) seen.length = [] ↔ ReadsNoBox rest) ∧
          ∀ box, (balancedBoxesFrom (seen ++ rest) (rounds + 1) seen.length).getLast? = some box ↔
            ∃ before inner after, LastRead rest before inner after ∧
              box = boxSpan (seen ++ before) inner := by
      intro hreads hboxes
      rw [hboxes]
      refine ⟨⟨fun _ => hreads, fun _ => rfl⟩, fun box => ⟨fun h => (nomatch h), ?_⟩⟩
      rintro ⟨before, inner, after, hlast, _⟩
      exact absurd hreads hlast.not_readsNoBox
    cases hfind : findFrom boxPrefix (seen ++ rest) seen.length with
    | none =>
      apply hnone
      · exact Or.inl (findFrom_boxPrefix_eq_none.mp hfind)
      · rw [balancedBoxesFrom, hfind]
    | some start =>
      obtain ⟨first, tail, rfl, hfirst, rfl⟩ := findFrom_boxPrefix_eq_some.mp hfind
      -- the text from the inside of the box on
      have hinside : (seen ++ (first ++ boxPrefix ++ tail)).drop
          (seen.length + first.length + boxPrefix.length) = tail := by
        have hlength : seen.length + first.length + boxPrefix.length =
            (seen ++ (first ++ boxPrefix)).length := by
          simp only [List.length_append]
          omega
        rw [hlength, ← List.append_assoc seen (first ++ boxPrefix) tail, List.drop_left]
      cases hclose : closeBox (Char.ofNat 123) 1
          (seen.length + first.length + boxPrefix.length) tail with
      | none =>
        apply hnone
        · refine Or.inr ⟨first, tail, rfl, hfirst, ?_⟩
          intro inner after htail henclosed
          rw [closeBox_eq_some.mpr ⟨inner, after, htail, rfl, henclosed⟩] at hclose
          cases hclose
        · rw [balancedBoxesFrom, hfind]
          dsimp only
          rw [hinside, hclose]
      | some stop =>
        obtain ⟨payload, after, rfl, rfl, hpayload⟩ := closeBox_eq_some.mp hclose
        have hseen : seen.length + first.length + boxPrefix.length + payload.length + 1 =
            (seen ++ (first ++ boxPrefix ++ (payload ++ [rightBrace]))).length := by
          simp only [List.length_append, List.length_singleton]
          omega
        have htext : seen ++ (first ++ boxPrefix ++ (payload ++ rightBrace :: after)) =
            (seen ++ (first ++ boxPrefix ++ (payload ++ [rightBrace]))) ++ after := by
          simp only [List.append_assoc, List.singleton_append]
        have hboxes : balancedBoxesFrom
            (seen ++ (first ++ boxPrefix ++ (payload ++ rightBrace :: after))) (rounds + 1)
              seen.length =
            boxSpan (seen ++ first) payload :: balancedBoxesFrom
              ((seen ++ (first ++ boxPrefix ++ (payload ++ [rightBrace]))) ++ after) rounds
                (seen ++ (first ++ boxPrefix ++ (payload ++ [rightBrace]))).length := by
          rw [balancedBoxesFrom, hfind]
          dsimp only
          rw [hinside, hclose]
          dsimp only
          rw [hseen, ← htext, ← hseen, boxSpan, List.length_append]
        obtain ⟨hnil, hlast⟩ := ih (seen ++ (first ++ boxPrefix ++ (payload ++ [rightBrace])))
          after (by
            simp only [List.length_append, List.length_cons] at hrounds
            omega)
        have hread : ¬ ReadsNoBox (first ++ boxPrefix ++ (payload ++ rightBrace :: after)) := by
          rintro (hplain | ⟨first', tail', htext', hfirst', hopen⟩)
          · exact hplain ⟨first, payload ++ rightBrace :: after, rfl⟩
          · obtain ⟨_, htail⟩ := boxPrefix_first_unique hfirst hfirst' htext'
            exact hopen payload after htail.symm hpayload
        rw [hboxes]
        refine ⟨⟨fun h => (nomatch h), fun h => absurd h hread⟩, ?_⟩
        intro box
        simp only [lastRead_box hfirst hpayload]
        rw [List.getLast?_cons]
        cases htail : (balancedBoxesFrom
            ((seen ++ (first ++ boxPrefix ++ (payload ++ [rightBrace]))) ++ after) rounds
              (seen ++ (first ++ boxPrefix ++ (payload ++ [rightBrace]))).length).getLast? with
        | none =>
          have hreads := hnil.mp (List.getLast?_eq_none_iff.mp htail)
          rw [Option.getD_none, Option.some.injEq]
          constructor
          · rintro rfl
            exact ⟨first, payload, after, Or.inl ⟨rfl, rfl, rfl, hreads⟩, rfl⟩
          · rintro ⟨before, inner, after', ⟨rfl, rfl, rfl, _⟩ | ⟨between, _, hbetween⟩, rfl⟩
            · rfl
            · exact absurd hreads hbetween.not_readsNoBox
        | some last =>
          rw [Option.getD_some]
          have hread' : ¬ ReadsNoBox after := by
            intro hreads
            rw [hnil.mpr hreads] at htail
            cases htail
          have hspan : ∀ between inner,
              boxSpan (seen ++ (first ++ boxPrefix ++ (payload ++ [rightBrace])) ++ between)
                  inner =
                boxSpan (seen ++ (first ++ boxPrefix ++ (payload ++ rightBrace :: between)))
                  inner := by
            intro between inner
            simp only [List.append_assoc, List.singleton_append]
          rw [← htail, hlast]
          constructor
          · rintro ⟨between, inner, after', hbetween, rfl⟩
            exact ⟨_, inner, after', Or.inr ⟨between, rfl, hbetween⟩, hspan between inner⟩
          · rintro ⟨before, inner, after', ⟨_, _, _, hreads⟩ | ⟨between, rfl, hbetween⟩, rfl⟩
            · exact absurd hreads hread'
            · exact ⟨between, inner, after', hbetween, (hspan between inner).symm⟩

theorem balancedBoxes_eq_nil_iff {text : PyStr} :
    balancedBoxes text = [] ↔ ReadsNoBox text :=
  (balancedBoxesFrom_spec (text.length + 1) [] text (Nat.lt_succ_self _)).1

theorem balancedBoxes_getLast?_iff {text : PyStr} {box : Nat × Nat} :
    (balancedBoxes text).getLast? = some box ↔
      ∃ before inner after, LastRead text before inner after ∧ box = boxSpan before inner :=
  (balancedBoxesFrom_spec (text.length + 1) [] text (Nat.lt_succ_self _)).2 box

/-! ### Agreement -/

/-- The splitter finds a box exactly when the verifier finds a closed last box, and the
    payload of the splitter's last box, repaired and stripped, is the verifier's answer. -/
structure BoxesAgree (text : PyStr) : Prop where
  found : balancedBoxes text ≠ [] ↔ FindsClosedBox text
  payload : ∀ box, (balancedBoxes text).getLast? = some box →
    strip (repair (slice text (box.1 + boxPrefix.length) (box.2 - 1))) =
      (extractFinalAnswer text).1

/-- The last box that the splitter reads is the last box command of the repaired text, and
    the same brace closes it once its backslashes are counted. -/
def ReadsSameBox (text : PyStr) : Prop :=
  ∃ before inner after, LastRead text before inner after ∧ Enclosed (repair inner) ∧
    ¬ HasBoxCommand (repair inner) ∧ ¬ HasBoxCommand (repair after)

/-- Neither finds a box that is closed. -/
def NeitherReads (text : PyStr) : Prop := ReadsNoBox text ∧ NoClosedBox (repair text)

/-- Two boxes at different places happen to hold the same answer. -/
def RepeatsAnswer (text : PyStr) : Prop :=
  ∃ before inner after before' command inner' after', LastRead text before inner after ∧
    LastClosed (repair text) before' command inner' after' ∧ before' ≠ repair before ∧
    strip (repair inner) = strip inner'

theorem slice_boxSpan {text before inner after : PyStr} (h : LastRead text before inner after) :
    slice text ((boxSpan before inner).1 + boxPrefix.length) ((boxSpan before inner).2 - 1) =
      inner := by
  rw [h.split, ← List.append_assoc (before ++ boxPrefix)]
  apply slice_append_middle
  · rw [List.length_append]
    rfl
  · rw [List.length_append]
    rfl

/-- A text that goes on past a brace is not stripped to the text before it. -/
theorem strip_append_rightBrace (left right : PyStr) :
    strip (left ++ rightBrace :: right) ≠ strip left := by
  intro h
  have hfilter := congrArg (List.filter fun c => !isSpace c) h
  have hbrace : isSpace rightBrace = false := by decide
  rw [filter_strip, filter_strip, List.filter_append, List.filter_cons,
    if_pos (by rw [hbrace]; rfl)] at hfilter
  exact List.cons_ne_nil _ _ (List.append_right_eq_self.mp hfilter)

/-- The repaired text around the last box that the splitter reads. -/
theorem LastRead.repair_split {text before inner after : PyStr}
    (h : LastRead text before inner after) :
    repair text =
      repair before ++ boxPrefix ++ (repair inner ++ rightBrace :: repair after) := by
  have hpre : repair boxPrefix = boxPrefix := by decide
  have hcommand : IsBoxCommand (repair boxPrefix) := hpre ▸ isBoxCommand_boxPrefix
  have hrepair := repair_boxed before inner after hcommand
  rw [hpre, ← List.append_assoc] at hrepair
  rw [h.split]
  exact hrepair

theorem ReadsSameBox.agree {text : PyStr} (h : ReadsSameBox text) : BoxesAgree text := by
  obtain ⟨before, inner, after, hread, henclosed, hinner, hafter⟩ := h
  have hclosed : LastClosed (repair text) (repair before) boxPrefix (repair inner)
      (repair after) := by
    refine ⟨hread.repair_split, isBoxCommand_boxPrefix, ?_, henclosed⟩
    intro hbox
    rcases hasBoxCommand_of_append hbox with hbox | hbox
    · exact hinner hbox
    · exact hafter hbox
  have hlast := balancedBoxes_getLast?_iff.mpr ⟨before, inner, after, hread, rfl⟩
  refine ⟨⟨fun _ => hclosed.findsClosedBox, fun _ => ?_⟩, ?_⟩
  · exact List.ne_nil_of_mem (List.mem_of_getLast? hlast)
  · intro box hbox
    rw [hlast] at hbox
    obtain rfl := Option.some.inj hbox
    rw [slice_boxSpan hread, hclosed.answer]

theorem NeitherReads.agree {text : PyStr} (h : NeitherReads text) : BoxesAgree text := by
  have hboxes := balancedBoxes_eq_nil_iff.mpr h.1
  rcases findsClosedBox_cases text with ⟨_, hnone⟩ | ⟨hclosed, _⟩
  · refine ⟨⟨fun hne => absurd hboxes hne, fun hfinds => absurd hfinds hnone⟩, ?_⟩
    intro box hbox
    rw [hboxes] at hbox
    cases hbox
  · exact absurd h.2 hclosed

theorem RepeatsAnswer.agree {text : PyStr} (h : RepeatsAnswer text) : BoxesAgree text := by
  obtain ⟨before, inner, after, _, _, _, _, hread, hclosed, _, hanswer⟩ := h
  have hlast := balancedBoxes_getLast?_iff.mpr ⟨before, inner, after, hread, rfl⟩
  refine ⟨⟨fun _ => hclosed.findsClosedBox, fun _ => ?_⟩, ?_⟩
  · exact List.ne_nil_of_mem (List.mem_of_getLast? hlast)
  · intro box hbox
    rw [hlast] at hbox
    obtain rfl := Option.some.inj hbox
    rw [slice_boxSpan hread, hclosed.answer, hanswer]

/-- Equal answers from boxes at one place are answers from one box. -/
theorem readsSameBox_of_same_place {text before inner after command inner' after' : PyStr}
    (hread : LastRead text before inner after)
    (hclosed : LastClosed (repair text) (repair before) command inner' after')
    (hanswer : strip (repair inner) = strip inner') : ReadsSameBox text := by
  have htext := hread.repair_split.symm.trans hclosed.split
  rw [List.append_assoc, List.append_assoc, List.append_cancel_left_eq] at htext
  obtain ⟨_, hrest⟩ := isBoxCommand_boxPrefix.unique hclosed.command htext
  have hsame : repair inner = inner' := by
    rcases List.append_eq_append_iff.mp hrest with ⟨middle, hmiddle, hright⟩ |
        ⟨middle, hmiddle, hright⟩
    · cases middle with
      | nil => rw [hmiddle, List.append_nil]
      | cons c middle =>
        obtain ⟨rfl, _⟩ := List.cons.inj hright
        rw [hmiddle] at hanswer
        exact absurd hanswer.symm (strip_append_rightBrace _ _)
    · cases middle with
      | nil => rw [hmiddle, List.append_nil]
      | cons c middle =>
        obtain ⟨rfl, _⟩ := List.cons.inj hright
        rw [hmiddle] at hanswer
        exact absurd hanswer (strip_append_rightBrace _ _)
  subst hsame
  have hafter : repair after = after' := (List.cons.inj (List.append_cancel_left hrest)).2
  refine ⟨before, inner, after, hread, hclosed.enclosed, ?_, ?_⟩
  · rintro ⟨left, opened, right, hsplit, hopened⟩
    apply hclosed.last
    exact ⟨left, opened, right ++ rightBrace :: after', by rw [hsplit, List.append_assoc], hopened⟩
  · rintro ⟨left, opened, right, hsplit, hopened⟩
    apply hclosed.last
    refine ⟨repair inner ++ rightBrace :: left, opened, right, ?_, hopened⟩
    rw [← hafter, hsplit]
    simp only [List.append_assoc, List.cons_append]

/-- The splitter and the verifier agree exactly on the texts whose last box both read, those
    without a box that either reads, and those that repeat the answer. -/
theorem boxesAgree_iff (text : PyStr) :
    BoxesAgree text ↔ ReadsSameBox text ∨ NeitherReads text ∨ RepeatsAnswer text := by
  constructor
  · intro h
    by_cases hnone : ReadsNoBox text
    · have hboxes := balancedBoxes_eq_nil_iff.mpr hnone
      rcases findsClosedBox_cases text with ⟨hclosed, _⟩ | ⟨_, before, command, inner, after, hlast⟩
      · exact Or.inr (Or.inl ⟨hnone, hclosed⟩)
      · exact absurd hboxes (h.found.mpr hlast.findsClosedBox)
    · have hboxes : balancedBoxes text ≠ [] := fun hnil =>
        hnone (balancedBoxes_eq_nil_iff.mp hnil)
      have hbox := List.getLast?_eq_some_getLast hboxes
      obtain ⟨before, inner, after, hread, hspan⟩ := balancedBoxes_getLast?_iff.mp hbox
      rcases findsClosedBox_cases text with ⟨_, hclosed⟩ | ⟨_, before', command, inner', after', hlast⟩
      · exact absurd (h.found.mp hboxes) hclosed
      · have hanswer := h.payload _ hbox
        rw [hspan, slice_boxSpan hread, hlast.answer] at hanswer
        by_cases hplace : before' = repair before
        · subst hplace
          exact Or.inl (readsSameBox_of_same_place hread hlast hanswer)
        · exact Or.inr (Or.inr ⟨before, inner, after, before', command, inner', after', hread,
            hlast, hplace, hanswer⟩)
  · rintro (hsame | hneither | hrepeats)
    · exact hsame.agree
    · exact hneither.agree
    · exact hrepeats.agree

/-- With a space before the brace only the verifier finds the box. -/
theorem not_boxesAgree_space : ¬ BoxesAgree "\\boxed \x7b5\x7d".toList := by
  intro h
  have hboxes : balancedBoxes "\\boxed \x7b5\x7d".toList = [] := by decide +kernel
  apply h.found.mpr _ hboxes
  exact ⟨_, 9, rfl, by decide +kernel⟩

end R2opl
