import R2opl.Probe.Metadata
import R2opl.Lib.Extents

/-!
# Recovered probe offsets

A byte-level tokenizer splits the UTF-8 encoding of the probe text at any byte.  With its
offset mapping `build_answer_probe` scores the tokens with a byte in the answer; the offsets
that `_probe_offsets_fallback` recovers from decoded prefixes give every character to the
token that completes it, and all that a token touches to the next token that ends where a
character does.
-/

namespace R2opl

open Checked Extents

/-! ### Byte-level tokenizers -/

/-- The replacement character, which stands for bytes that are no character. -/
def replacementChar : Char := Char.ofNat 0xfffd

/-- What the first `count` bytes of a text decode to: an unfinished character is replaced. -/
def decodeBytes (text : PyStr) (count : Nat) : PyStr :=
  text.take (ended Char.utf8Size text count) ++
    if ended Char.utf8Size text count < begun Char.utf8Size text count then [replacementChar]
    else []

/-- The bytes of some tokens. -/
def tokenBytes (vocabulary : Int → List UInt8) (ids : List Int) : List UInt8 :=
  ids.flatMap vocabulary

/-- A tokenizer whose tokens stand for bytes, on one text. -/
structure ByteLevel (tokenizer : Tokenizer) (vocabulary : Int → List UInt8) (text : PyStr) :
    Prop where
  encoded : tokenBytes vocabulary (tokenizer.encode text).1 = text.flatMap String.utf8EncodeChar
  decoded : ∀ count ≤ (tokenizer.encode text).1.length,
    tokenizer.decode ((tokenizer.encode text).1.take count) false =
      decodeBytes text (tokenBytes vocabulary ((tokenizer.encode text).1.take count)).length

/-- Where the first `count` tokens end, in bytes. -/
def byteEnd (vocabulary : Int → List UInt8) (ids : List Int) (count : Nat) : Nat :=
  (tokenBytes vocabulary (ids.take count)).length

/-- The characters that the bytes of each token touch. -/
def touchedSpans (vocabulary : Int → List UInt8) (ids : List Int) (text : PyStr) :
    List (Int × Int) :=
  (List.range ids.length).map fun index =>
    ((ended Char.utf8Size text (byteEnd vocabulary ids index) : Int),
      (begun Char.utf8Size text (byteEnd vocabulary ids (index + 1)) : Int))

/-- The same tokenizer without an offset mapping. -/
def Tokenizer.withoutOffsets (tokenizer : Tokenizer) : Tokenizer where
  decode := tokenizer.decode
  encode text := ((tokenizer.encode text).1, none)

/-! ### Recovered boundaries -/

section Boundaries

variable (vocabulary : Int → List UInt8) (ids : List Int) (text : PyStr)

/-- The first `count` tokens end where a character does, or inside of a replacement character of
    the text, which no unfinished character can be told from. -/
def Settled (count : Nat) : Prop :=
  ended Char.utf8Size text (byteEnd vocabulary ids count) =
      begun Char.utf8Size text (byteEnd vocabulary ids count) ∨
    text[ended Char.utf8Size text (byteEnd vocabulary ids count)]? = some replacementChar

instance (count : Nat) : Decidable (Settled vocabulary ids text count) :=
  inferInstanceAs (Decidable (_ ∨ _))

/-- The boundary after `count` tokens. -/
def settledBoundary : Nat → Nat
  | 0 => 0
  | count + 1 =>
      if Settled vocabulary ids text (count + 1) then
        begun Char.utf8Size text (byteEnd vocabulary ids (count + 1))
      else settledBoundary count

variable {vocabulary ids text}

theorem byteEnd_zero : byteEnd vocabulary ids 0 = 0 := rfl

theorem byteEnd_mono {count count' : Nat} (h : count ≤ count') :
    byteEnd vocabulary ids count ≤ byteEnd vocabulary ids count' := by
  unfold byteEnd tokenBytes
  rw [← List.take_append_drop count (ids.take count'), List.take_take, min_eq_left h,
    List.flatMap_append, List.length_append]
  exact Nat.le_add_right _ _

theorem units_utf8Size (text : PyStr) :
    units Char.utf8Size text = (text.flatMap String.utf8EncodeChar).length := by
  unfold units
  rw [List.length_flatMap]
  simp only [String.length_utf8EncodeChar]

theorem utf8Size_pos : ∀ c ∈ text, 0 < c.utf8Size := fun c _ => c.utf8Size_pos

theorem decodeBytes_isPrefixOf {count : Nat} (hcount : count ≤ units Char.utf8Size text) :
    (decodeBytes text count).isPrefixOf text = true ↔
      ended Char.utf8Size text count = begun Char.utf8Size text count ∨
        text[ended Char.utf8Size text count]? = some replacementChar := by
  have hle := ended_le_begun utf8Size_pos hcount
  rw [List.isPrefixOf_iff_prefix]
  unfold decodeBytes
  by_cases hlt : ended Char.utf8Size text count < begun Char.utf8Size text count
  · have hsplit := List.take_append_drop (ended Char.utf8Size text count) text
    have hne : ended Char.utf8Size text count ≠ begun Char.utf8Size text count := hlt.ne
    rw [if_pos hlt]
    nth_rewrite 3 [← hsplit]
    rw [List.prefix_append_right_inj, or_iff_right hne, ← List.head?_drop]
    cases text.drop (ended Char.utf8Size text count) with
    | nil =>
      constructor
      · intro h
        exact absurd (List.prefix_nil.mp h) (List.cons_ne_nil _ _)
      · exact fun h => nomatch h
    | cons c rest =>
      rw [List.head?_cons, Option.some_inj]
      constructor
      · exact fun h => (List.cons_prefix_cons.mp h).1.symm
      · exact fun h => List.cons_prefix_cons.mpr ⟨h.symm, List.nil_prefix⟩
  · rw [if_neg hlt, List.append_nil]
    exact iff_of_true (List.take_prefix _ _) (.inl (Nat.le_antisymm hle (Nat.not_lt.mp hlt)))

theorem length_decodeBytes {count : Nat} (hcount : count ≤ units Char.utf8Size text) :
    (decodeBytes text count).length = begun Char.utf8Size text count := by
  have hle := ended_le_begun (@utf8Size_pos text) hcount
  have hsucc := begun_le_succ_ended (@utf8Size_pos text) hcount
  unfold decodeBytes
  rw [List.length_append, List.length_take, min_eq_left ended_le_length]
  by_cases hlt : ended Char.utf8Size text count < begun Char.utf8Size text count
  · rw [if_pos hlt, List.length_singleton]
    exact Nat.le_antisymm hlt hsucc
  · rw [if_neg hlt, List.length_nil]
    exact Nat.le_antisymm hle (Nat.not_lt.mp hlt)

/-! ### The fallback -/

variable {tokenizer : Tokenizer}

theorem byteEnd_length (h : ByteLevel tokenizer vocabulary text) :
    byteEnd vocabulary (tokenizer.encode text).1 (tokenizer.encode text).1.length =
      units Char.utf8Size text := by
  unfold byteEnd
  rw [List.take_length, h.encoded, units_utf8Size]

theorem byteEnd_le (h : ByteLevel tokenizer vocabulary text) {count : Nat}
    (hcount : count ≤ (tokenizer.encode text).1.length) :
    byteEnd vocabulary (tokenizer.encode text).1 count ≤ units Char.utf8Size text :=
  byteEnd_length h ▸ byteEnd_mono hcount

theorem settled_length (h : ByteLevel tokenizer vocabulary text) :
    Settled vocabulary (tokenizer.encode text).1 text (tokenizer.encode text).1.length := by
  have hall := byteEnd_length h
  have hend := @ended_all _ Char.utf8Size text _ hall.ge
  have hle := ended_le_begun utf8Size_pos hall.le
  left
  apply Nat.le_antisymm hle
  rw [hend]
  exact begun_le_length

/-- The boundaries after each round of the loop. -/
theorem foldl_recoverBoundary (h : ByteLevel tokenizer vocabulary text) {count : Nat}
    (hcount : count ≤ (tokenizer.encode text).1.length) :
    (List.range' 1 count).foldl (recoverBoundary tokenizer (tokenizer.encode text).1 text) [0] =
      (List.range (count + 1)).map fun index =>
        (settledBoundary vocabulary (tokenizer.encode text).1 text index : Int) := by
  induction count with
  | zero => rfl
  | succ count ih =>
    have hle := byteEnd_le h hcount
    have hlast : ((List.range (count + 1)).map fun index =>
        (settledBoundary vocabulary (tokenizer.encode text).1 text index : Int)).getLastD 0 =
        settledBoundary vocabulary (tokenizer.encode text).1 text count := by
      rw [List.range_succ, List.map_append]
      exact List.getLastD_concat
    have hdecoded : tokenizer.decode ((tokenizer.encode text).1.take (1 + count)) false =
        decodeBytes text (byteEnd vocabulary (tokenizer.encode text).1 (count + 1)) := by
      rw [Nat.add_comm]
      exact h.decoded (count + 1) hcount
    rw [List.range'_1_concat, List.foldl_append, ih (Nat.le_of_succ_le hcount), List.foldl_cons,
      List.foldl_nil, List.range_succ (n := count + 1), List.map_append, List.map_singleton]
    unfold recoverBoundary
    dsimp only
    rw [hlast, hdecoded, length_decodeBytes hle, settledBoundary]
    congr 2
    by_cases hsettled : Settled vocabulary (tokenizer.encode text).1 text (count + 1)
    · rw [if_pos ((decodeBytes_isPrefixOf hle).mpr hsettled), if_pos hsettled]
    · rw [if_neg fun hpre => hsettled ((decodeBytes_isPrefixOf hle).mp hpre),
        if_neg hsettled]

/-- A boundary is beyond a character when a settled token end is. -/
theorem lt_settledBoundary (h : ByteLevel tokenizer vocabulary text) {count : Nat}
    (hcount : count ≤ (tokenizer.encode text).1.length) (k : Nat) :
    k < settledBoundary vocabulary (tokenizer.encode text).1 text count ↔
      ∃ earlier ≤ count, Settled vocabulary (tokenizer.encode text).1 text earlier ∧
        k < begun Char.utf8Size text (byteEnd vocabulary (tokenizer.encode text).1 earlier) := by
  have hzero : begun Char.utf8Size text 0 = 0 := by
    cases text with
    | nil => rfl
    | cons c rest => exact if_neg (Nat.lt_irrefl 0)
  induction count with
  | zero =>
    constructor
    · exact fun hlt => absurd hlt (Nat.not_lt_zero k)
    · rintro ⟨earlier, hearlier, -, hlt⟩
      obtain rfl := Nat.le_zero.mp hearlier
      rw [byteEnd_zero, hzero] at hlt
      exact absurd hlt (Nat.not_lt_zero k)
  | succ count ih =>
    unfold settledBoundary
    by_cases hsettled : Settled vocabulary (tokenizer.encode text).1 text (count + 1)
    · rw [if_pos hsettled]
      constructor
      · exact fun hlt => ⟨count + 1, Nat.le_refl _, hsettled, hlt⟩
      · rintro ⟨earlier, hearlier, -, hlt⟩
        exact hlt.trans_le (begun_mono utf8Size_pos (byteEnd_le h hcount) (byteEnd_mono hearlier))
    · rw [if_neg hsettled]
      apply (ih (Nat.le_of_succ_le hcount)).trans
      constructor
      · rintro ⟨earlier, hearlier, hrest⟩
        exact ⟨earlier, Nat.le_succ_of_le hearlier, hrest⟩
      · rintro ⟨earlier, hearlier, hother, hlt⟩
        refine ⟨earlier, ?_, hother, hlt⟩
        rcases Nat.le_succ_iff.mp hearlier with hle | rfl
        · exact hle
        · exact absurd hother hsettled

/-- The fallback recovers the spans between settled boundaries. -/
theorem probeOffsetsFallback_eq (h : ByteLevel tokenizer vocabulary text) :
    probeOffsetsFallback tokenizer (tokenizer.encode text).1 text =
      .ok ((List.range (tokenizer.encode text).1.length).map fun index =>
        ((settledBoundary vocabulary (tokenizer.encode text).1 text index : Int),
          (settledBoundary vocabulary (tokenizer.encode text).1 text (index + 1) : Int))) := by
  have hlast : settledBoundary vocabulary (tokenizer.encode text).1 text
      (tokenizer.encode text).1.length = text.length := by
    have hall := byteEnd_length h
    have hend := @ended_all _ Char.utf8Size text _ hall.ge
    have hle := ended_le_begun utf8Size_pos hall.le
    apply Nat.le_antisymm
    · apply Nat.le_of_lt_succ
      rw [← Nat.not_le]
      intro hlt
      obtain ⟨earlier, -, -, hbegun⟩ := (lt_settledBoundary h (Nat.le_refl _) text.length).mp hlt
      exact Nat.not_lt.mpr begun_le_length hbegun
    · rw [← Nat.not_lt]
      intro hlt
      have hnone := mt (lt_settledBoundary h (Nat.le_refl _) _).mpr (Nat.lt_irrefl _)
      apply hnone
      refine ⟨_, Nat.le_refl _, settled_length h, hlt.trans_le ?_⟩
      exact hend ▸ hle
  have htail : ((List.range ((tokenizer.encode text).1.length + 1)).map fun index =>
      (settledBoundary vocabulary (tokenizer.encode text).1 text index : Int)).tail =
      (List.range (tokenizer.encode text).1.length).map fun index =>
        (settledBoundary vocabulary (tokenizer.encode text).1 text (index + 1) : Int) := by
    rw [List.range_succ_eq_map, List.map_cons, List.tail_cons, List.map_map]
    rfl
  have hinit : ((List.range ((tokenizer.encode text).1.length + 1)).map fun index =>
      (settledBoundary vocabulary (tokenizer.encode text).1 text index : Int)).dropLast =
      (List.range (tokenizer.encode text).1.length).map fun index =>
        (settledBoundary vocabulary (tokenizer.encode text).1 text index : Int) := by
    rw [List.range_succ, List.map_append]
    exact List.dropLast_concat
  have hend : ((List.range ((tokenizer.encode text).1.length + 1)).map fun index =>
      (settledBoundary vocabulary (tokenizer.encode text).1 text index : Int)).getLastD 0 =
      text.length := by
    rw [List.range_succ, List.map_append]
    exact List.getLastD_concat.trans (congrArg Nat.cast hlast)
  unfold probeOffsetsFallback
  rw [foldl_recoverBoundary h (Nat.le_refl _)]
  dsimp only
  rw [raiseIf_of_not (not_not.mpr hend), ok_bind, hinit, htail, zipStrict_eq_ok]
  refine ⟨by rw [List.length_map, List.length_map], ?_⟩
  exact List.zip_map'.symm

end Boundaries

/-! ### Selected tokens -/

theorem overlappingPositions_map (spans : Nat → Int × Int) (count start stop : Nat) :
    overlappingPositions ((List.range count).map spans) start stop =
      ((List.range count).filter fun index =>
        decide ((spans index).2 > (start : Int) ∧ (spans index).1 < (stop : Int))).map
          Int.ofNat := by
  unfold overlappingPositions
  have hzip : ((List.range count).map spans).zipIdx =
      (List.range count).map fun index => (spans index, index) := by
    apply List.ext_getElem
    · rw [List.length_zipIdx, List.length_map, List.length_map]
    · intro index hleft hright
      rw [List.getElem_zipIdx, List.getElem_map, List.getElem_map, List.getElem_range, Nat.zero_add]
  rw [hzip, List.filter_map, List.map_map]
  rfl

theorem overlappingPositions_congr {left right : Nat → Int × Int} {count start stop : Nat} :
    overlappingPositions ((List.range count).map left) start stop =
        overlappingPositions ((List.range count).map right) start stop ↔
      ∀ index < count, ((left index).2 > (start : Int) ∧ (left index).1 < (stop : Int) ↔
        (right index).2 > (start : Int) ∧ (right index).1 < (stop : Int)) := by
  rw [overlappingPositions_map, overlappingPositions_map]
  constructor
  · intro heq index hindex
    have hfilter := List.map_injective_iff.mpr (fun _ _ h => Int.ofNat.inj h) heq
    have hmem := congrArg (index ∈ ·) hfilter
    simpa only [List.mem_filter, List.mem_range, hindex, true_and, decide_eq_true_eq,
      eq_iff_iff] using hmem
  · intro hiff
    congr 1
    apply List.filter_congr
    intro index hindex
    exact decide_eq_decide.mpr (hiff index (List.mem_range.mp hindex))

section Selection

/-! What is selected from `first` to `last` when boundaries are recovered at settled ends only. -/

variable {ends : Nat → Nat} {settled : Nat → Prop} {count start last stop : Nat}

theorem exists_crossing {limit : Nat} (hzero : ends 0 ≤ limit) {index : Nat}
    (h : limit < ends index) : ∃ before < index, ends before ≤ limit ∧ limit < ends (before + 1) := by
  induction index with
  | zero => exact absurd hzero (Nat.not_le.mpr h)
  | succ index ih =>
    by_cases hbefore : limit < ends index
    · obtain ⟨before, hlt, hcross⟩ := ih hbefore
      exact ⟨before, Nat.lt_succ_of_lt hlt, hcross⟩
    · exact ⟨index, Nat.lt_succ_self index, Nat.not_lt.mp hbefore, h⟩

theorem selects_same_iff (hmono : Monotone ends) (hzero : ends 0 = 0) (hsettled : settled count)
    (hstart : start ≤ last) (hlast : last < stop) :
    (∀ index < count, ((∃ earlier ≤ index + 1, settled earlier ∧ start < ends earlier) ∧
        (∀ earlier ≤ index, settled earlier → ends earlier ≤ last) ↔
      start < ends (index + 1) ∧ ends index < stop)) ↔
    (∀ index < count, ends index ≤ start → start < ends (index + 1) → settled (index + 1)) ∧
    (∀ index < count, ends index < stop → stop ≤ ends (index + 1) → settled (index + 1)) ∧
    ∀ index < count, settled index → last < ends index → stop ≤ ends index := by
  constructor
  · intro hsame
    have hinto : ∀ index < count, ends index ≤ start → start < ends (index + 1) →
        settled (index + 1) := by
      intro index hindex hbefore hafter
      obtain ⟨⟨earlier, hearlier, hother, hreach⟩, -⟩ :=
        (hsame index hindex).mpr ⟨hafter, (hbefore.trans hstart).trans_lt hlast⟩
      rcases Nat.le_succ_iff.mp hearlier with hle | rfl
      · exact absurd (hmono hle) (Nat.not_le.mpr (hbefore.trans_lt hreach))
      · exact hother
    have hinside : ∀ index < count, settled index → last < ends index → stop ≤ ends index := by
      intro index hindex hother hreach
      by_contra hbefore
      have hselected : start < ends (index + 1) ∧ ends index < stop :=
        ⟨(hstart.trans_lt hreach).trans_le (hmono (Nat.le_succ index)), Nat.not_le.mp hbefore⟩
      have hends := ((hsame index hindex).mpr hselected).2 index (Nat.le_refl _) hother
      exact absurd hends (Nat.not_le.mpr hreach)
    refine ⟨hinto, ?_, hinside⟩
    intro index hindex hbefore hafter
    by_contra hunsettled
    -- The next token starts after the answer, but its recovered span starts inside of it.
    have hnext : index + 1 < count := by
      rcases Nat.lt_or_eq_of_le hindex with hlt | heq
      · exact hlt
      · rw [← heq] at hsettled
        exact absurd hsettled hunsettled
    obtain ⟨into, hle, hcross⟩ := exists_crossing (hzero.trans_le (Nat.zero_le start))
      ((hstart.trans_lt hlast).trans_le hafter)
    have hselected := (hsame (index + 1) hnext).mp ⟨⟨into + 1, Nat.le_succ_of_le hle,
      hinto into (hle.trans_le hindex) hcross.1 hcross.2, hcross.2⟩, ?_⟩
    · exact absurd hselected.2 (Nat.not_lt.mpr hafter)
    · intro earlier hearlier hother
      rcases Nat.le_succ_iff.mp hearlier with hle | rfl
      · by_contra hreach
        have hstop := hinside earlier (hle.trans_lt hindex) hother (Nat.not_le.mp hreach)
        exact absurd (hmono hle) (Nat.not_le.mpr (hbefore.trans_le hstop))
      · exact absurd hother hunsettled
  · rintro ⟨hinto, hreaches, hinside⟩ index hindex
    constructor
    · rintro ⟨⟨earlier, hearlier, -, hreach⟩, hnone⟩
      refine ⟨hreach.trans_le (hmono hearlier), ?_⟩
      by_contra hafter
      have hpos : 0 < stop := Nat.zero_lt_of_lt hlast
      obtain ⟨before, hlt, hle, hgt⟩ := exists_crossing (hzero.trans_le (Nat.zero_le (stop - 1)))
        (Nat.sub_one_lt_of_le hpos (Nat.not_lt.mp hafter))
      have hother := hreaches before (hlt.trans hindex) ((Nat.le_sub_one_iff_lt hpos).mp hle)
        (Nat.le_of_pred_lt hgt)
      have hends := hnone (before + 1) hlt hother
      exact absurd (Nat.le_of_pred_lt hgt) (Nat.not_le.mpr (hends.trans_lt hlast))
    · rintro ⟨hreach, hbefore⟩
      obtain ⟨into, hle, hcross⟩ := exists_crossing (hzero.trans_le (Nat.zero_le start)) hreach
      refine ⟨⟨into + 1, hle, hinto into (hle.trans_le hindex) hcross.1 hcross.2, hcross.2⟩, ?_⟩
      intro earlier hearlier hother
      by_contra hafter
      have hstop := hinside earlier (hearlier.trans_lt hindex) hother (Nat.not_le.mp hafter)
      exact absurd (hmono hearlier) (Nat.not_le.mpr (hbefore.trans_le hstop))

end Selection

/-- The tokens at the edges of an answer end where a recovered boundary is: the one that reaches
    into the answer, the one that reaches its end, and, when the answer ends in a replacement
    character, no token inside of this one. -/
structure SettledAtEdges (vocabulary : Int → List UInt8) (ids : List Int)
    (probePrefix answer probeSuffix : PyStr) : Prop where
  start : ∀ index < ids.length,
    byteEnd vocabulary ids index ≤ units Char.utf8Size probePrefix →
    units Char.utf8Size probePrefix < byteEnd vocabulary ids (index + 1) →
    Settled vocabulary ids (probePrefix ++ answer ++ probeSuffix) (index + 1)
  stop : ∀ index < ids.length,
    byteEnd vocabulary ids index < units Char.utf8Size (probePrefix ++ answer) →
    units Char.utf8Size (probePrefix ++ answer) ≤ byteEnd vocabulary ids (index + 1) →
    Settled vocabulary ids (probePrefix ++ answer ++ probeSuffix) (index + 1)
  last : answer.getLast? = some replacementChar → ∀ index < ids.length,
    units Char.utf8Size (probePrefix ++ answer.dropLast) < byteEnd vocabulary ids index →
    units Char.utf8Size (probePrefix ++ answer) ≤ byteEnd vocabulary ids index

/-! ### Agreement -/

section Agreement

variable {tokenizer : Tokenizer} {vocabulary : Int → List UInt8}
  {probePrefix answer probeSuffix : PyStr}

theorem units_take_before (probePrefix answer probeSuffix : PyStr) :
    units Char.utf8Size ((probePrefix ++ answer ++ probeSuffix).take probePrefix.length) =
      units Char.utf8Size probePrefix := by
  rw [List.append_assoc, List.take_left]

theorem units_take_answer (probePrefix answer probeSuffix : PyStr) :
    units Char.utf8Size ((probePrefix ++ answer ++ probeSuffix).take
      (probePrefix.length + answer.length)) = units Char.utf8Size (probePrefix ++ answer) := by
  rw [← List.length_append, List.take_left]

theorem units_take_last (hanswer : answer ≠ []) :
    units Char.utf8Size ((probePrefix ++ answer ++ probeSuffix).take
      (probePrefix.length + answer.length - 1)) =
      units Char.utf8Size (probePrefix ++ answer.dropLast) := by
  have hpos : 0 < answer.length := List.length_pos_iff.mpr hanswer
  have hlength : probePrefix.length + answer.length - 1 =
      (probePrefix ++ answer.dropLast).length := by
    rw [List.length_append, List.length_dropLast, Nat.add_sub_assoc hpos]
  have hsplit : probePrefix ++ answer ++ probeSuffix =
      probePrefix ++ answer.dropLast ++ ([answer.getLast hanswer] ++ probeSuffix) := by
    rw [← List.append_assoc (probePrefix ++ answer.dropLast), List.append_assoc probePrefix _ [_],
      List.dropLast_append_getLast hanswer]
  rw [hlength, hsplit, List.take_left]

/-- Of the tokens that end inside of the last character of an answer, the settled ones end inside
    of a replacement character. -/
theorem settled_inside_iff (h : ByteLevel tokenizer vocabulary (probePrefix ++ answer ++ probeSuffix))
    (hanswer : answer ≠ []) {index : Nat}
    (hindex : index ≤ (tokenizer.encode (probePrefix ++ answer ++ probeSuffix)).1.length)
    (hafter : units Char.utf8Size (probePrefix ++ answer.dropLast) <
      byteEnd vocabulary (tokenizer.encode (probePrefix ++ answer ++ probeSuffix)).1 index)
    (hbefore : byteEnd vocabulary (tokenizer.encode (probePrefix ++ answer ++ probeSuffix)).1 index <
      units Char.utf8Size (probePrefix ++ answer)) :
    Settled vocabulary (tokenizer.encode (probePrefix ++ answer ++ probeSuffix)).1
        (probePrefix ++ answer ++ probeSuffix) index ↔
      answer.getLast? = some replacementChar := by
  have hle := byteEnd_le h hindex
  have hpos : 0 < answer.length := List.length_pos_iff.mpr hanswer
  have hlength : probePrefix.length + answer.length ≤
      (probePrefix ++ answer ++ probeSuffix).length := by
    rw [List.length_append, List.length_append]
    exact Nat.le_add_right _ _
  rw [← units_take_last hanswer] at hafter
  rw [← units_take_answer probePrefix answer probeSuffix] at hbefore
  have hbegun := (lt_begun_iff utf8Size_pos hle ((Nat.sub_le _ 1).trans hlength)).mpr hafter
  have hended := (ended_lt_iff hlength).mpr hbefore
  have hsucc := begun_le_succ_ended utf8Size_pos hle
  have heq : ended Char.utf8Size (probePrefix ++ answer ++ probeSuffix) (byteEnd vocabulary
      (tokenizer.encode (probePrefix ++ answer ++ probeSuffix)).1 index) =
      probePrefix.length + (answer.length - 1) := by
    omega
  unfold Settled
  rw [or_iff_right (by omega), heq, List.append_assoc,
    List.getElem?_append_right (Nat.le_add_right _ _), Nat.add_sub_cancel_left,
    List.getElem?_append_left (Nat.sub_one_lt_of_lt hpos), ← List.getLast?_eq_getElem?]

/-- The token after `index` tokens has a byte in the answer. -/
theorem touched_iff (h : ByteLevel tokenizer vocabulary (probePrefix ++ answer ++ probeSuffix))
    {index : Nat}
    (hindex : index < (tokenizer.encode (probePrefix ++ answer ++ probeSuffix)).1.length) :
    ((begun Char.utf8Size (probePrefix ++ answer ++ probeSuffix) (byteEnd vocabulary
          (tokenizer.encode (probePrefix ++ answer ++ probeSuffix)).1 (index + 1)) : Int) >
        (probePrefix.length : Nat) ∧
      (ended Char.utf8Size (probePrefix ++ answer ++ probeSuffix) (byteEnd vocabulary
          (tokenizer.encode (probePrefix ++ answer ++ probeSuffix)).1 index) : Int) <
        (probePrefix.length + answer.length : Nat)) ↔
    units Char.utf8Size probePrefix < byteEnd vocabulary
        (tokenizer.encode (probePrefix ++ answer ++ probeSuffix)).1 (index + 1) ∧
      byteEnd vocabulary (tokenizer.encode (probePrefix ++ answer ++ probeSuffix)).1 index <
        units Char.utf8Size (probePrefix ++ answer) := by
  have hlength : probePrefix.length + answer.length ≤
      (probePrefix ++ answer ++ probeSuffix).length := by
    rw [List.length_append, List.length_append]
    exact Nat.le_add_right _ _
  rw [gt_iff_lt, Int.ofNat_lt, Int.ofNat_lt,
    lt_begun_iff utf8Size_pos (byteEnd_le h hindex) ((Nat.le_add_right _ _).trans hlength),
    ended_lt_iff hlength, units_take_before, units_take_answer]

/-- The recovered span of the token overlaps the answer. -/
theorem recovered_iff (h : ByteLevel tokenizer vocabulary (probePrefix ++ answer ++ probeSuffix))
    (hanswer : answer ≠ []) {index : Nat}
    (hindex : index < (tokenizer.encode (probePrefix ++ answer ++ probeSuffix)).1.length) :
    ((settledBoundary vocabulary (tokenizer.encode (probePrefix ++ answer ++ probeSuffix)).1
          (probePrefix ++ answer ++ probeSuffix) (index + 1) : Int) > (probePrefix.length : Nat) ∧
      (settledBoundary vocabulary (tokenizer.encode (probePrefix ++ answer ++ probeSuffix)).1
          (probePrefix ++ answer ++ probeSuffix) index : Int) <
        (probePrefix.length + answer.length : Nat)) ↔
    (∃ earlier ≤ index + 1,
      Settled vocabulary (tokenizer.encode (probePrefix ++ answer ++ probeSuffix)).1
        (probePrefix ++ answer ++ probeSuffix) earlier ∧
      units Char.utf8Size probePrefix < byteEnd vocabulary
        (tokenizer.encode (probePrefix ++ answer ++ probeSuffix)).1 earlier) ∧
    ∀ earlier ≤ index,
      Settled vocabulary (tokenizer.encode (probePrefix ++ answer ++ probeSuffix)).1
        (probePrefix ++ answer ++ probeSuffix) earlier →
      byteEnd vocabulary (tokenizer.encode (probePrefix ++ answer ++ probeSuffix)).1 earlier ≤
        units Char.utf8Size (probePrefix ++ answer.dropLast) := by
  have hpos : 0 < probePrefix.length + answer.length :=
    Nat.add_pos_right _ (List.length_pos_iff.mpr hanswer)
  have hlength : probePrefix.length + answer.length ≤
      (probePrefix ++ answer ++ probeSuffix).length := by
    rw [List.length_append, List.length_append]
    exact Nat.le_add_right _ _
  rw [gt_iff_lt, Int.ofNat_lt, Int.ofNat_lt, lt_settledBoundary h hindex]
  apply and_congr
  · constructor
    · rintro ⟨earlier, hearlier, hsettled, hlt⟩
      rw [lt_begun_iff utf8Size_pos (byteEnd_le h (hearlier.trans hindex))
        ((Nat.le_add_right _ _).trans hlength), units_take_before] at hlt
      exact ⟨earlier, hearlier, hsettled, hlt⟩
    · rintro ⟨earlier, hearlier, hsettled, hlt⟩
      refine ⟨earlier, hearlier, hsettled, ?_⟩
      rwa [lt_begun_iff utf8Size_pos (byteEnd_le h (hearlier.trans hindex))
        ((Nat.le_add_right _ _).trans hlength), units_take_before]
  · rw [← Nat.le_sub_one_iff_lt hpos, ← Nat.not_lt, lt_settledBoundary h hindex.le]
    have hiff : ∀ earlier ≤ index, (probePrefix.length + answer.length - 1 <
        begun Char.utf8Size (probePrefix ++ answer ++ probeSuffix) (byteEnd vocabulary
          (tokenizer.encode (probePrefix ++ answer ++ probeSuffix)).1 earlier)) ↔
        units Char.utf8Size (probePrefix ++ answer.dropLast) < byteEnd vocabulary
          (tokenizer.encode (probePrefix ++ answer ++ probeSuffix)).1 earlier := by
      intro earlier hearlier
      rw [lt_begun_iff utf8Size_pos (byteEnd_le h (hearlier.trans hindex.le))
        ((Nat.sub_le _ 1).trans hlength), units_take_last hanswer]
    constructor
    · intro hnone earlier hearlier hsettled
      by_contra hlt
      exact hnone ⟨earlier, hearlier, hsettled, (hiff earlier hearlier).mpr (Nat.not_le.mp hlt)⟩
    · rintro hall ⟨earlier, hearlier, hsettled, hlt⟩
      exact absurd ((hiff earlier hearlier).mp hlt) (Nat.not_lt.mpr (hall earlier hearlier hsettled))

theorem decode_all (h : ByteLevel tokenizer vocabulary (probePrefix ++ answer ++ probeSuffix)) :
    tokenizer.decode (tokenizer.encode (probePrefix ++ answer ++ probeSuffix)).1 false =
      probePrefix ++ answer ++ probeSuffix := by
  have hdecoded := h.decoded _ (Nat.le_refl _)
  have hall := byteEnd_length h
  unfold byteEnd at hall
  have hend := @ended_all _ Char.utf8Size _ _ hall.ge
  rw [List.take_length] at hdecoded hall hend
  rw [hdecoded]
  unfold decodeBytes
  rw [hend, List.take_length, if_neg (Nat.not_lt.mpr begun_le_length), List.append_nil]

/-- The end of `build_answer_probe`, once the positions are known. -/
def finishProbe (probePrefix answer probeSuffix : PyStr) (probeName : String) (ids : List Int)
    (answerPositions : List Int) : Except PyError AnswerProbe := do
  raiseIf (answerPositions = []) (valueError
    s!"{probeName} probe tokenization produced no token overlapping the answer text.")
  return ⟨probePrefix ++ answer ++ probeSuffix, ids, answerPositions, probePrefix.length,
    probePrefix.length + answer.length⟩

/-- Past its checks on the text, a probe is determined by the selected positions. -/
theorem buildAnswerProbe_eq (tokenizer : Tokenizer) (hanswer : answer ≠ []) {probeName : String}
    (hname : strip probeName.toList ≠ []) {spans : Nat → Int × Int} {ids : List Int}
    {encodedOffsets : Option (List (Int × Int))}
    (hencode : tokenizer.encode (probePrefix ++ answer ++ probeSuffix) = (ids, encodedOffsets))
    (hdecode : tokenizer.decode ids false = probePrefix ++ answer ++ probeSuffix)
    (hoffsets : encodedOffsets = some ((List.range ids.length).map spans) ∨
      encodedOffsets = none ∧
        probeOffsetsFallback tokenizer ids (probePrefix ++ answer ++ probeSuffix) =
          .ok ((List.range ids.length).map spans)) :
    buildAnswerProbe tokenizer answer probePrefix probeSuffix probeName =
      finishProbe probePrefix answer probeSuffix probeName ids
        (overlappingPositions ((List.range ids.length).map spans) probePrefix.length
          (probePrefix.length + answer.length)) := by
  have hlength : ¬ ((List.range ids.length).map spans).length ≠ ids.length := by
    rw [List.length_map, List.length_range]
    exact not_not.mpr rfl
  unfold buildAnswerProbe
  rw [raiseIf_of_not hname, ok_bind, raiseIf_of_not hanswer, ok_bind]
  simp only [hencode]
  rcases hoffsets with rfl | ⟨rfl, hfallback⟩
  · simp only [pure_eq_ok, ok_bind]
    rw [raiseIf_of_not hlength, ok_bind, raiseIf_of_not (not_not.mpr hdecode), ok_bind]
    rfl
  · simp only [hfallback, ok_bind]
    rw [raiseIf_of_not hlength, ok_bind, raiseIf_of_not (not_not.mpr hdecode), ok_bind]
    rfl

theorem finishProbe_inj {probeName : String} {ids positions positions' : List Int} :
    finishProbe probePrefix answer probeSuffix probeName ids positions =
        finishProbe probePrefix answer probeSuffix probeName ids positions' ↔
      positions = positions' := by
  refine ⟨?_, fun h => h ▸ rfl⟩
  intro h
  unfold finishProbe at h
  by_cases hnil : positions = []
  · by_cases hnil' : positions' = []
    · rw [hnil, hnil']
    · rw [raiseIf_bind_of_pos hnil, raiseIf_of_not hnil'] at h
      cases h
  · by_cases hnil' : positions' = []
    · rw [raiseIf_of_not hnil, raiseIf_bind_of_pos hnil'] at h
      cases h
    · rw [raiseIf_of_not hnil, raiseIf_of_not hnil'] at h
      exact congrArg AnswerProbe.answerTokenPositions (Except.ok.inj h)

/-- **The two answer-position paths.**  Without an offset mapping the same tokens are selected
    as with one exactly when the tokens at the edges of the answer end where a recovered boundary
    is. -/
theorem buildAnswerProbe_agrees_iff (tokenizer : Tokenizer) (vocabulary : Int → List UInt8)
    (probePrefix answer probeSuffix : PyStr) (probeName : String)
    (hname : strip probeName.toList ≠ []) (hanswer : answer ≠ [])
    (hbytes : ByteLevel tokenizer vocabulary (probePrefix ++ answer ++ probeSuffix))
    (hoffsets : (tokenizer.encode (probePrefix ++ answer ++ probeSuffix)).2 =
      some (touchedSpans vocabulary (tokenizer.encode (probePrefix ++ answer ++ probeSuffix)).1
        (probePrefix ++ answer ++ probeSuffix))) :
    buildAnswerProbe tokenizer.withoutOffsets answer probePrefix probeSuffix probeName =
        buildAnswerProbe tokenizer answer probePrefix probeSuffix probeName ↔
      SettledAtEdges vocabulary (tokenizer.encode (probePrefix ++ answer ++ probeSuffix)).1
        probePrefix answer probeSuffix := by
  have hwithout : ByteLevel tokenizer.withoutOffsets vocabulary
      (probePrefix ++ answer ++ probeSuffix) :=
    ⟨hbytes.encoded, hbytes.decoded⟩
  have hfallback := probeOffsetsFallback_eq hwithout
  rw [buildAnswerProbe_eq tokenizer hanswer hname rfl (decode_all hbytes) (.inl hoffsets),
    buildAnswerProbe_eq tokenizer.withoutOffsets hanswer hname rfl (decode_all hwithout)
      (.inr ⟨rfl, hfallback⟩)]
  apply finishProbe_inj.trans
  apply overlappingPositions_congr.trans
  have hends : Monotone (byteEnd vocabulary
      (tokenizer.encode (probePrefix ++ answer ++ probeSuffix)).1) := fun _ _ => byteEnd_mono
  have hstart : units Char.utf8Size probePrefix ≤
      units Char.utf8Size (probePrefix ++ answer.dropLast) := by
    rw [units_append]
    exact Nat.le_add_right _ _
  have hlast : units Char.utf8Size (probePrefix ++ answer.dropLast) <
      units Char.utf8Size (probePrefix ++ answer) := by
    nth_rewrite 2 [← List.dropLast_append_getLast hanswer]
    rw [← List.append_assoc, units_append (probePrefix ++ answer.dropLast)]
    exact Nat.lt_add_of_pos_right (Char.utf8Size_pos _)
  have hsame := selects_same_iff hends byteEnd_zero (settled_length hbytes) hstart hlast
  apply Iff.trans _ (hsame.trans _)
  · apply forall₂_congr
    intro index hindex
    rw [← recovered_iff hbytes hanswer hindex, ← touched_iff hbytes hindex]
    rfl
  · constructor
    · rintro ⟨hinto, hreaches, hinside⟩
      refine ⟨hinto, hreaches, ?_⟩
      intro hreplaced index hindex hafter
      by_contra hbefore
      have hsettled := (settled_inside_iff hbytes hanswer hindex.le hafter
        (Nat.not_le.mp hbefore)).mpr hreplaced
      exact hbefore (hinside index hindex hsettled hafter)
    · rintro ⟨hinto, hreaches, hreplaced⟩
      refine ⟨hinto, hreaches, ?_⟩
      intro index hindex hsettled hafter
      by_contra hbefore
      have hlastChar := (settled_inside_iff hbytes hanswer hindex.le hafter
        (Nat.not_le.mp hbefore)).mp hsettled
      exact hbefore (hreplaced hlastChar index hindex hafter)

end Agreement

/-! ### A token for each byte -/

/-- UTF-8 decoding of characters of one or two bytes. -/
def decodeTwoBytes : List Int → PyStr
  | [] => []
  | first :: rest =>
      if first < 0x80 then Char.ofNat first.toNat :: decodeTwoBytes rest
      else
        match rest with
        | [] => [replacementChar]
        | second :: rest =>
            Char.ofNat ((first.toNat - 0xc0) * 64 + (second.toNat - 0x80)) :: decodeTwoBytes rest

def byteVocabulary (id : Int) : List UInt8 := [UInt8.ofNat id.toNat]

def byteTokenizer : Tokenizer where
  decode ids _ := decodeTwoBytes ids
  encode text :=
    let ids := (text.flatMap String.utf8EncodeChar).map fun byte => (byte.toNat : Int)
    (ids, some (touchedSpans byteVocabulary ids text))

theorem buildAnswerProbe_agrees_iff_bytes :
    strip "R²OPL".toList ≠ [] ∧ "7π".toList ≠ [] ∧
    ByteLevel byteTokenizer byteVocabulary (r2oplProbePrefix ++ "7π".toList ++ r2oplProbeSuffix) ∧
    (buildAnswerProbe byteTokenizer.withoutOffsets "7π".toList r2oplProbePrefix r2oplProbeSuffix
          "R²OPL" =
        buildAnswerProbe byteTokenizer "7π".toList r2oplProbePrefix r2oplProbeSuffix "R²OPL" ↔
      SettledAtEdges byteVocabulary
        (byteTokenizer.encode (r2oplProbePrefix ++ "7π".toList ++ r2oplProbeSuffix)).1
        r2oplProbePrefix "7π".toList r2oplProbeSuffix) := by
  have hname : strip "R²OPL".toList ≠ [] := by decide +kernel
  have hanswer : "7π".toList ≠ [] := by decide +kernel
  have hbytes : ByteLevel byteTokenizer byteVocabulary
      (r2oplProbePrefix ++ "7π".toList ++ r2oplProbeSuffix) :=
    ⟨by decide +kernel, by decide +kernel⟩
  exact ⟨hname, hanswer, hbytes, buildAnswerProbe_agrees_iff byteTokenizer byteVocabulary
    r2oplProbePrefix "7π".toList r2oplProbeSuffix "R²OPL" hname hanswer hbytes rfl⟩

/-- The first byte of an answer is not scored when the offsets are recovered. -/
theorem buildAnswerProbe_disagrees :
    ByteLevel byteTokenizer byteVocabulary (r2oplProbePrefix ++ "π".toList ++ r2oplProbeSuffix) ∧
    (byteTokenizer.encode (r2oplProbePrefix ++ "π".toList ++ r2oplProbeSuffix)).2 =
      some (touchedSpans byteVocabulary
        (byteTokenizer.encode (r2oplProbePrefix ++ "π".toList ++ r2oplProbeSuffix)).1
        (r2oplProbePrefix ++ "π".toList ++ r2oplProbeSuffix)) ∧
    (buildR2oplAnswerProbe byteTokenizer "π".toList).map AnswerProbe.answerTokenPositions =
      .ok [32, 33] ∧
    (buildR2oplAnswerProbe byteTokenizer.withoutOffsets "π".toList).map
      AnswerProbe.answerTokenPositions = .ok [33] := by
  refine ⟨⟨by decide +kernel, by decide +kernel⟩, rfl, ?_, ?_⟩
  · decide +kernel
  · decide +kernel

end R2opl
