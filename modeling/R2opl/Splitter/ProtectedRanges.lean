import R2opl.Lib.Spans
import R2opl.Splitter.Scanners
import R2opl.Splitter.StepSize

/-!
# The normal form of protected ranges

`_protected_ranges` of `utils/conservative_step_splitter.py`: every scanning loop ends, at the
first construct that is not closed or behind the last one, and the merged ranges are sorted,
disjoint and not touching, and cover what the scanners found.
-/

namespace R2opl

open Checked Regex Spans

/-! ### Merging -/

/-- What `_merge_ranges` keeps of the ranges that it has seen. -/
structure Merged (ranges merged : List (Nat × Nat)) : Prop where
  apart : Apart merged
  covered : ∀ position, Covered merged position ↔ Covered ranges position
  starts : ∀ range ∈ merged, ∃ source ∈ ranges, source.1 = range.1
  stops : ∀ range ∈ merged, ∃ source ∈ ranges, source.2 = range.2

/-- A round merges a range that starts behind those before it. -/
theorem Merged.mergeRange {ranges merged : List (Nat × Nat)} (h : Merged ranges merged)
    {range : Nat × Nat} (hsorted : ∀ source ∈ ranges, source.1 ≤ range.1) :
    Merged (ranges ++ [range]) (mergeRange merged range) := by
  have hkeep : ∀ {value : Nat} {side : Nat × Nat → Nat},
      (∃ source ∈ ranges, side source = value) →
        ∃ source ∈ ranges ++ [range], side source = value := by
    rintro value side ⟨source, hsource, heq⟩
    exact ⟨source, List.mem_append_left _ hsource, heq⟩
  have hnew : range ∈ ranges ++ [range] := List.mem_append_right _ List.mem_cons_self
  unfold R2opl.mergeRange
  split
  · next hempty =>
    refine ⟨h.apart, ?_, fun other hother => hkeep (h.starts other hother),
      fun other hother => hkeep (h.stops other hother)⟩
    intro position
    rw [covered_append, covered_singleton, h.covered]
    exact (or_iff_left (not_contains_of_le hempty)).symm
  · next hnonempty =>
    have hspan : range.1 < range.2 := Nat.lt_of_not_ge hnonempty
    -- what a range that joins the list does to its starts and stops
    have hjoin : ∀ {side : Nat × Nat → Nat},
        (∀ other ∈ merged, ∃ source ∈ ranges, side source = side other) →
          ∀ other ∈ merged ++ [range], ∃ source ∈ ranges ++ [range], side source = side other := by
      intro side hsides other hother
      rcases List.mem_append.mp hother with hmem | hmem
      · exact hkeep (hsides other hmem)
      · exact ⟨range, hnew, by rw [List.mem_singleton.mp hmem]⟩
    have hcovered : ∀ position,
        Covered (merged ++ [range]) position ↔ Covered (ranges ++ [range]) position := by
      intro position
      rw [covered_append, covered_append, h.covered]
    rcases List.eq_nil_or_concat' merged with rfl | ⟨before, last, rfl⟩
    · exact ⟨apart_singleton hspan, hcovered, hjoin h.starts, hjoin h.stops⟩
    · rw [List.getLast?_concat]
      have hlast : last ∈ before ++ [last] := List.mem_append_right _ List.mem_cons_self
      split
      · next hnone => cases hnone
      · next last' hsome =>
        obtain rfl := Option.some.inj hsome
        split
        · next hafter =>
          exact ⟨h.apart.append hspan hafter, hcovered, hjoin h.starts, hjoin h.stops⟩
        · next htouch =>
          obtain ⟨source, hsource, hstart⟩ := h.starts last hlast
          rw [List.dropLast_concat]
          constructor
          case apart => exact h.apart.extend (le_max_left _ _)
          case covered =>
            intro position
            rw [← hcovered, covered_append, covered_append, covered_append, covered_singleton,
              covered_singleton, covered_singleton,
              contains_extend (hstart ▸ hsorted source hsource) (Nat.le_of_not_lt htouch), or_assoc]
          case starts =>
            intro other hother
            rcases List.mem_append.mp hother with hmem | hmem
            · exact hkeep (h.starts other (List.mem_append_left _ hmem))
            · rw [List.mem_singleton.mp hmem]
              exact hkeep (h.starts last hlast)
          case stops =>
            intro other hother
            rcases List.mem_append.mp hother with hmem | hmem
            · exact hkeep (h.stops other (List.mem_append_left _ hmem))
            · rw [List.mem_singleton.mp hmem]
              rcases max_choice last.2 range.2 with hmax | hmax
              · rw [hmax]
                exact hkeep (h.stops last hlast)
              · rw [hmax]
                exact ⟨range, hnew, rfl⟩

theorem merged_foldl {ranges : List (Nat × Nat)}
    (hsorted : ranges.Pairwise fun left right => left.1 ≤ right.1) :
    Merged ranges (ranges.foldl mergeRange []) := by
  induction ranges using List.reverseRecOn with
  | nil => exact ⟨apart_nil, fun position => Iff.rfl, nofun, nofun⟩
  | append_singleton ranges range ih =>
    obtain ⟨hranges, _, hbefore⟩ := List.pairwise_append.mp hsorted
    rw [List.foldl_append, List.foldl_cons, List.foldl_nil]
    exact (ih hranges).mergeRange fun source hsource =>
      hbefore source hsource range List.mem_cons_self

theorem merged_mergeRanges (ranges : List (Nat × Nat)) : Merged ranges (mergeRanges ranges) := by
  have hsorted := List.pairwise_insertionSort
    (fun left right : Nat × Nat => toLex left ≤ toLex right) ranges
  have hmerged := merged_foldl (hsorted.imp fun {left right} hle => by
    rcases (Prod.Lex.le_iff.mp hle) with hlt | ⟨heq, _⟩
    · exact hlt.le
    · exact heq.le)
  refine ⟨hmerged.apart, ?_, ?_, ?_⟩
  · intro position
    exact (hmerged.covered position).trans (covered_congr fun span => List.mem_insertionSort _)
  · intro range hrange
    obtain ⟨source, hsource, heq⟩ := hmerged.starts range hrange
    exact ⟨source, (List.mem_insertionSort _).mp hsource, heq⟩
  · intro range hrange
    obtain ⟨source, hsource, heq⟩ := hmerged.stops range hrange
    exact ⟨source, (List.mem_insertionSort _).mp hsource, heq⟩

/-! ### The scanning loops -/

section Delimiters

variable (text : PyStr) (opening : SplitterRegex)
  (closingFactory : Match Char SplitterGroup → Except PyError SplitterRegex)

/-- The ranges that the loop of `_delimiter_ranges` finds from a cursor on.  A construct that
    is not closed protects the rest of the text. -/
inductive DelimiterScan : Nat → List (Nat × Nat) → Prop where
  | done {cursor : Nat} (hopen : opening.search text cursor = none) : DelimiterScan cursor []
  | unterminated {cursor : Nat} {begin : Match Char SplitterGroup} {closing : SplitterRegex}
      (hopen : opening.search text cursor = some begin)
      (hfactory : closingFactory begin = .ok closing)
      (hclose : closing.search text begin.stop = none) :
      DelimiterScan cursor [(begin.start, text.length)]
  | closed {cursor : Nat} {begin close : Match Char SplitterGroup} {closing : SplitterRegex}
      {later : List (Nat × Nat)} (hopen : opening.search text cursor = some begin)
      (hfactory : closingFactory begin = .ok closing)
      (hclose : closing.search text begin.stop = some close)
      (hlater : DelimiterScan close.stop later) :
      DelimiterScan cursor ((begin.start, close.stop) :: later)

/-- The scan from a cursor on meets an opening delimiter. -/
inductive Meets : Nat → Match Char SplitterGroup → Prop where
  | here {cursor : Nat} {begin : Match Char SplitterGroup}
      (hopen : opening.search text cursor = some begin) : Meets cursor begin
  | later {cursor : Nat} {begin close found : Match Char SplitterGroup} {closing : SplitterRegex}
      (hopen : opening.search text cursor = some begin)
      (hfactory : closingFactory begin = .ok closing)
      (hclose : closing.search text begin.stop = some close) (hmeets : Meets close.stop found) :
      Meets cursor found

variable {text opening closingFactory}

/-- A closed construct moves the cursor. -/
theorem cursor_lt_stop (hconsumes : Consumes opening) {cursor : Nat}
    {begin close : Match Char SplitterGroup} {closing : SplitterRegex}
    (hopen : opening.search text cursor = some begin)
    (hclose : closing.search text begin.stop = some close) :
    cursor < close.stop ∧ close.stop ≤ text.length := by
  obtain ⟨hcursor, hbegin, _⟩ := hconsumes.search hopen
  obtain ⟨hstart, hmatch, _⟩ := search_eq_some hclose
  obtain ⟨hle, hbound⟩ := hmatch.bounds
  omega

theorem search_behind {r : SplitterRegex} {cursor : Nat} (h : text.length < cursor) :
    r.search text cursor = none := by
  rw [search_eq_none]
  intro position hcursor hposition
  omega

/-- The rounds that the loop has are enough. -/
theorem delimiterRangesFrom_eq_ok (hconsumes : Consumes opening) {rounds cursor : Nat}
    (hrounds : text.length < rounds + cursor) {ranges : List (Nat × Nat)} :
    delimiterRangesFrom text opening closingFactory rounds cursor = .ok ranges ↔
      DelimiterScan text opening closingFactory cursor ranges := by
  induction rounds generalizing cursor ranges with
  | zero =>
    have hnone : opening.search text cursor = none := search_behind (by omega)
    unfold delimiterRangesFrom
    rw [Except.ok.injEq]
    constructor
    · rintro rfl
      exact .done hnone
    · intro h
      cases h with
      | done => rfl
      | unterminated hopen =>
        rw [hnone] at hopen
        cases hopen
      | closed hopen =>
        rw [hnone] at hopen
        cases hopen
  | succ rounds ih =>
    have hlater : ∀ {begin close : Match Char SplitterGroup} {closing : SplitterRegex},
        opening.search text cursor = some begin → closing.search text begin.stop = some close →
          text.length < rounds + close.stop := by
      intro begin close closing hopen hclose
      have hmoves := cursor_lt_stop hconsumes hopen hclose
      omega
    unfold delimiterRangesFrom
    constructor
    · intro h
      split at h
      · next hopen =>
        obtain rfl := Except.ok.inj h
        exact .done hopen
      · next begin hopen =>
        obtain ⟨closing, hfactory, h⟩ := bind_eq_ok.mp h
        split at h
        · next hclose =>
          obtain rfl := Except.ok.inj h
          exact .unterminated hopen hfactory hclose
        · next close hclose =>
          obtain ⟨later, hscan, h⟩ := bind_eq_ok.mp h
          obtain rfl := Except.ok.inj h
          exact .closed hopen hfactory hclose ((ih (hlater hopen hclose)).mp hscan)
    · intro h
      cases h with
      | done hopen => rw [hopen]
      | unterminated hopen hfactory hclose =>
        rw [hopen]
        exact bind_eq_ok.mpr ⟨_, hfactory, by rw [hclose]; rfl⟩
      | closed hopen hfactory hclose hscan =>
        rw [hopen]
        refine bind_eq_ok.mpr ⟨_, hfactory, ?_⟩
        rw [hclose]
        exact bind_eq_ok.mpr ⟨_, (ih (hlater hopen hclose)).mpr hscan, rfl⟩

theorem delimiterRanges_eq_ok (hconsumes : Consumes opening) {ranges : List (Nat × Nat)} :
    delimiterRanges text opening closingFactory = .ok ranges ↔
      DelimiterScan text opening closingFactory 0 ranges :=
  delimiterRangesFrom_eq_ok hconsumes (Nat.lt_succ_self _)

/-- The scan ends unless it meets an opening delimiter without a closing pattern. -/
theorem exists_delimiterScan_iff (hconsumes : Consumes opening) {cursor : Nat} :
    (∃ ranges, DelimiterScan text opening closingFactory cursor ranges) ↔
      ∀ begin, Meets text opening closingFactory cursor begin →
        Returns (closingFactory begin) := by
  constructor
  · rintro ⟨ranges, hscan⟩ found hmeets
    induction hmeets generalizing ranges with
    | here hopen =>
      cases hscan with
      | done hnone =>
        rw [hnone] at hopen
        cases hopen
      | unterminated hopen' hfactory =>
        obtain rfl := Option.some.inj (hopen.symm.trans hopen')
        exact ⟨_, hfactory⟩
      | closed hopen' hfactory =>
        obtain rfl := Option.some.inj (hopen.symm.trans hopen')
        exact ⟨_, hfactory⟩
    | later hopen hfactory hclose hmeets ih =>
      cases hscan with
      | done hnone =>
        rw [hnone] at hopen
        cases hopen
      | unterminated hopen' hfactory' hclose' =>
        obtain rfl := Option.some.inj (hopen.symm.trans hopen')
        obtain rfl := Except.ok.inj (hfactory.symm.trans hfactory')
        rw [hclose] at hclose'
        cases hclose'
      | closed hopen' hfactory' hclose' hscan =>
        obtain rfl := Option.some.inj (hopen.symm.trans hopen')
        obtain rfl := Except.ok.inj (hfactory.symm.trans hfactory')
        obtain rfl := Option.some.inj (hclose.symm.trans hclose')
        exact ih _ hscan
  · intro hreturns
    generalize hleft : text.length - cursor = left
    induction left using Nat.strongRecOn generalizing cursor with
    | ind left ih =>
      cases hopen : opening.search text cursor with
      | none => exact ⟨[], .done hopen⟩
      | some begin =>
        obtain ⟨closing, hfactory⟩ := hreturns begin (.here hopen)
        cases hclose : closing.search text begin.stop with
        | none => exact ⟨_, .unterminated hopen hfactory hclose⟩
        | some close =>
          have hmoves := cursor_lt_stop hconsumes hopen hclose
          obtain ⟨later, hscan⟩ := ih (text.length - close.stop) (by omega)
            (fun found hmeets => hreturns found (.later hopen hfactory hclose hmeets)) rfl
          exact ⟨_, .closed hopen hfactory hclose hscan⟩

theorem DelimiterScan.stop_le {cursor : Nat} {ranges : List (Nat × Nat)}
    (h : DelimiterScan text opening closingFactory cursor ranges) :
    ∀ range ∈ ranges, range.2 ≤ text.length := by
  induction h with
  | done => exact nofun
  | unterminated =>
    intro range hrange
    rw [List.mem_singleton.mp hrange]
  | closed _ _ hclose _ ih =>
    exact List.forall_mem_cons.mpr ⟨(search_eq_some hclose).2.1.bounds.2, ih⟩

end Delimiters

/-! ### The openings -/

theorem consumes_literal {word : String} (h : word.toList ≠ []) :
    Consumes (Pattern.literal word : SplitterRegex) := by
  intro before after hmatch
  exact h (Pattern.matches_literal.mp hmatch).symm

theorem consumes_fenceRe : Consumes fenceRe :=
  have hmarks (c : Char) : Consumes (.atLeast (Pattern.char c) 3 : SplitterRegex) :=
    (consumes_one _).seq_left
  (((hmarks '\x60').alt (hmarks '~')).group.seq_left).seq_right

theorem consumes_bracket : Consumes (Pattern.literal "\\[" : SplitterRegex) :=
  consumes_literal (by decide)

theorem consumes_displayDollarRe : Consumes displayDollarRe :=
  (consumes_literal (by decide)).seq_right

theorem consumes_thinkRe : Consumes thinkRe := (consumes_one _).seq_left

theorem consumes_latexBeginRe : Consumes latexBeginRe := (consumes_literal (by decide)).seq_left

/-- A scan whose closing pattern does not depend on the opening ends. -/
theorem exists_simpleScan {opening : SplitterRegex} (hconsumes : Consumes opening)
    (closing : SplitterRegex) (text : PyStr) :
    ∃ ranges, DelimiterScan text opening (fun _ => .ok closing) 0 ranges := by
  rw [exists_delimiterScan_iff hconsumes]
  exact fun _ _ => .ok closing

theorem returns_fenceClosing {begin : Match Char SplitterGroup} :
    Returns (fenceClosing begin) ↔ (groupText begin .mark).length < maxRepeat := by
  unfold fenceClosing Returns
  simp only [raiseIf_bind_eq_ok, pure_eq_ok, exists_and_left, Nat.not_le]
  exact and_iff_left ⟨_, rfl⟩

/-! ### LaTeX environments -/

/-- The token opens an environment. -/
def opensEnvironment (text : PyStr) (token : Match Char SplitterGroup) : Bool :=
  "\\begin".toList.isPrefixOf (slice text token.start token.stop)

/-- The tokens close an environment in which `depth` of its kind are open, at `stop`. -/
inductive EnvironmentCloses (text : PyStr) :
    Nat → List (Match Char SplitterGroup) → Nat → Prop where
  | last {token : Match Char SplitterGroup} {rest : List (Match Char SplitterGroup)}
      (htoken : opensEnvironment text token = false) :
      EnvironmentCloses text 1 (token :: rest) token.stop
  | inner {depth stop : Nat} {token : Match Char SplitterGroup}
      {rest : List (Match Char SplitterGroup)} (htoken : opensEnvironment text token = false)
      (hrest : EnvironmentCloses text (depth + 1) rest stop) :
      EnvironmentCloses text (depth + 2) (token :: rest) stop
  | opens {depth stop : Nat} {token : Match Char SplitterGroup}
      {rest : List (Match Char SplitterGroup)} (htoken : opensEnvironment text token = true)
      (hrest : EnvironmentCloses text (depth + 1) rest stop) :
      EnvironmentCloses text depth (token :: rest) stop

theorem environmentEnd_cases (text : PyStr) (tokens : List (Match Char SplitterGroup))
    (depth : Nat) :
    EnvironmentCloses text (depth + 1) tokens (environmentEnd text (depth + 1) tokens) ∨
      (∀ stop, ¬ EnvironmentCloses text (depth + 1) tokens stop) ∧
        environmentEnd text (depth + 1) tokens = text.length := by
  induction tokens generalizing depth with
  | nil => exact Or.inr ⟨nofun, rfl⟩
  | cons token rest ih =>
    have hround : environmentEnd text (depth + 1) (token :: rest) =
        if (if opensEnvironment text token then depth + 2 else depth) = 0 then token.stop
        else environmentEnd text (if opensEnvironment text token then depth + 2 else depth) rest :=
      rfl
    rw [hround]
    cases htoken : opensEnvironment text token with
    | true =>
      rw [if_pos rfl, if_neg (Nat.succ_ne_zero _)]
      rcases ih (depth + 1) with hcloses | ⟨hopen, hend⟩
      · exact Or.inl (.opens htoken hcloses)
      · refine Or.inr ⟨?_, hend⟩
        intro stop hcloses
        cases hcloses with
        | last hfalse => exact absurd (htoken.symm.trans hfalse) (by decide)
        | inner hfalse => exact absurd (htoken.symm.trans hfalse) (by decide)
        | opens _ hrest => exact hopen stop hrest
    | false =>
      rw [if_neg Bool.false_ne_true]
      cases depth with
      | zero => exact Or.inl (.last htoken)
      | succ depth =>
        rw [if_neg (Nat.succ_ne_zero _)]
        rcases ih depth with hcloses | ⟨hopen, hend⟩
        · exact Or.inl (.inner htoken hcloses)
        · refine Or.inr ⟨?_, hend⟩
          intro stop hcloses
          cases hcloses with
          | inner _ hrest => exact hopen stop hrest
          | opens htrue => exact absurd (htoken.symm.trans htrue) (by decide)

/-- An environment closes at the end of one of its tokens. -/
theorem EnvironmentCloses.exists_token {text : PyStr} {depth stop : Nat}
    {tokens : List (Match Char SplitterGroup)} (h : EnvironmentCloses text depth tokens stop) :
    ∃ token ∈ tokens, token.stop = stop := by
  induction h with
  | last => exact ⟨_, List.mem_cons_self, rfl⟩
  | inner _ _ ih =>
    obtain ⟨token, htoken, hstop⟩ := ih
    exact ⟨token, List.mem_cons_of_mem _ htoken, hstop⟩
  | opens _ _ ih =>
    obtain ⟨token, htoken, hstop⟩ := ih
    exact ⟨token, List.mem_cons_of_mem _ htoken, hstop⟩

/-- The `\begin` and `\end` of the environment that `begin` opens, after it. -/
def environmentTokens (text : PyStr) (begin : Match Char SplitterGroup) :
    List (Match Char SplitterGroup) :=
  (environmentTokenRe (groupText begin .env)).finditer text begin.stop

/-- The ranges that the loop of `_latex_environment_ranges` finds from a cursor on. -/
inductive LatexScan (text : PyStr) : Nat → List (Nat × Nat) → Prop where
  | done {cursor : Nat} (hopen : latexBeginRe.search text cursor = none) : LatexScan text cursor []
  | unterminated {cursor : Nat} {begin : Match Char SplitterGroup}
      (hopen : latexBeginRe.search text cursor = some begin)
      (hclose : ∀ stop, ¬ EnvironmentCloses text 1 (environmentTokens text begin) stop) :
      LatexScan text cursor [(begin.start, text.length)]
  | closed {cursor stop : Nat} {begin : Match Char SplitterGroup} {later : List (Nat × Nat)}
      (hopen : latexBeginRe.search text cursor = some begin)
      (hclose : EnvironmentCloses text 1 (environmentTokens text begin) stop)
      (hlater : LatexScan text stop later) :
      LatexScan text cursor ((begin.start, stop) :: later)

theorem environment_bounds {text : PyStr} {cursor stop : Nat} {begin : Match Char SplitterGroup}
    (hopen : latexBeginRe.search text cursor = some begin)
    (hclose : EnvironmentCloses text 1 (environmentTokens text begin) stop) :
    cursor < stop ∧ stop ≤ text.length := by
  obtain ⟨hcursor, hbegin, _⟩ := consumes_latexBeginRe.search hopen
  obtain ⟨token, htoken, rfl⟩ := hclose.exists_token
  have hstart := (finditerFrom_pairwise _ _).1 token htoken
  have hbounds := (matchesAt_of_mem_finditer htoken).bounds
  omega

/-- The rounds that the loop has are enough. -/
theorem latexScan_from (text : PyStr) {rounds cursor : Nat}
    (hrounds : text.length < rounds + cursor) :
    LatexScan text cursor (latexEnvironmentRangesFrom text rounds cursor) := by
  induction rounds generalizing cursor with
  | zero => exact .done (search_behind (by omega))
  | succ rounds ih =>
    unfold latexEnvironmentRangesFrom
    cases hopen : latexBeginRe.search text cursor with
    | none => exact .done hopen
    | some begin =>
      change LatexScan text cursor (if environmentEnd text 1 (environmentTokens text begin) =
          text.length then [(begin.start, environmentEnd text 1 (environmentTokens text begin))]
        else (begin.start, environmentEnd text 1 (environmentTokens text begin)) ::
          latexEnvironmentRangesFrom text rounds
            (environmentEnd text 1 (environmentTokens text begin)))
      rcases environmentEnd_cases text (environmentTokens text begin) 0 with hclose | ⟨hnone, hend⟩
      · generalize environmentEnd text (0 + 1) (environmentTokens text begin) = stop at hclose ⊢
        have hbounds := environment_bounds hopen hclose
        split
        · next hend =>
          -- nothing begins at the end of the text
          refine .closed hopen hclose (.done ?_)
          cases hlater : latexBeginRe.search text stop with
          | none => rfl
          | some later =>
            have hinside := consumes_latexBeginRe.search hlater
            omega
        · exact .closed hopen hclose (ih (by omega))
      · rw [if_pos hend, hend]
        exact .unterminated hopen hnone

theorem EnvironmentCloses.unique {text : PyStr} {depth stop stop' : Nat}
    {tokens : List (Match Char SplitterGroup)} (h : EnvironmentCloses text depth tokens stop)
    (h' : EnvironmentCloses text depth tokens stop') : stop = stop' := by
  induction h with
  | last htoken =>
    cases h' with
    | last => rfl
    | opens htoken' => exact absurd (htoken.symm.trans htoken') (by decide)
  | inner htoken _ ih =>
    cases h' with
    | inner _ hrest => exact ih hrest
    | opens htoken' => exact absurd (htoken.symm.trans htoken') (by decide)
  | opens htoken _ ih =>
    cases h' with
    | last htoken' => exact absurd (htoken.symm.trans htoken') (by decide)
    | inner htoken' => exact absurd (htoken.symm.trans htoken') (by decide)
    | opens _ hrest => exact ih hrest

theorem LatexScan.unique {text : PyStr} {cursor : Nat} {ranges ranges' : List (Nat × Nat)}
    (h : LatexScan text cursor ranges) (h' : LatexScan text cursor ranges') : ranges = ranges' := by
  induction h generalizing ranges' with
  | done hnone =>
    cases h' with
    | done => rfl
    | unterminated hopen => exact absurd (hnone.symm.trans hopen) nofun
    | closed hopen => exact absurd (hnone.symm.trans hopen) nofun
  | unterminated hopen hclose =>
    cases h' with
    | done hnone => exact absurd (hnone.symm.trans hopen) nofun
    | unterminated hopen' =>
      obtain rfl := Option.some.inj (hopen.symm.trans hopen')
      rfl
    | closed hopen' hclose' =>
      obtain rfl := Option.some.inj (hopen.symm.trans hopen')
      exact absurd hclose' (hclose _)
  | closed hopen hclose _ ih =>
    cases h' with
    | done hnone => exact absurd (hnone.symm.trans hopen) nofun
    | unterminated hopen' hclose' =>
      obtain rfl := Option.some.inj (hopen.symm.trans hopen')
      exact absurd hclose (hclose' _)
    | closed hopen' hclose' hlater =>
      obtain rfl := Option.some.inj (hopen.symm.trans hopen')
      obtain rfl := hclose.unique hclose'
      rw [ih hlater]

theorem LatexScan.stop_le {text : PyStr} {cursor : Nat} {ranges : List (Nat × Nat)}
    (h : LatexScan text cursor ranges) : ∀ range ∈ ranges, range.2 ≤ text.length := by
  induction h with
  | done => exact nofun
  | unterminated =>
    intro range hrange
    rw [List.mem_singleton.mp hrange]
  | closed hopen hclose _ ih =>
    exact List.forall_mem_cons.mpr ⟨(environment_bounds hopen hclose).2, ih⟩

/-! ### Tables and lists -/

theorem linesFrom_stop_le (values : List PyStr) :
    ∀ cursor, ∀ line ∈ linesFrom cursor values, line.stop ≤ cursor + values.flatten.length := by
  induction values with
  | nil => exact fun cursor => nofun
  | cons value rest ih =>
    intro cursor
    rw [linesFrom, List.flatten_cons, List.length_append, ← Nat.add_assoc]
    exact List.forall_mem_cons.mpr ⟨Nat.le_add_right _ _, ih _⟩

theorem lines_stop_le (text : PyStr) : ∀ line ∈ lines text, line.stop ≤ text.length := by
  have hstops := linesFrom_stop_le (splitLinesKeepEnds [] text) 0
  rw [flatten_splitLinesKeepEnds, List.nil_append, Nat.zero_add] at hstops
  exact hstops

theorem tableRange_stop_le {run : List Line} {bound : Nat}
    (hrun : ∀ line ∈ run, line.stop ≤ bound) : ∀ range ∈ tableRange run, range.2 ≤ bound := by
  intro range hrange
  unfold tableRange at hrange
  split at hrange
  · next first last _ hlast =>
    split at hrange
    · rw [List.mem_singleton.mp hrange]
      exact hrun last (List.mem_of_getLast? hlast)
    · cases hrange
  · cases hrange

theorem tableRanges_stop_le {lines run : List Line} {bound : Nat}
    (hrun : ∀ line ∈ run, line.stop ≤ bound) (hlines : ∀ line ∈ lines, line.stop ≤ bound) :
    ∀ range ∈ tableRangesFrom run lines, range.2 ≤ bound := by
  induction lines generalizing run with
  | nil => exact tableRange_stop_le hrun
  | cons line rest ih =>
    obtain ⟨hline, hrest⟩ := List.forall_mem_cons.mp hlines
    unfold tableRangesFrom
    split
    · apply ih _ hrest
      intro other hother
      rcases List.mem_append.mp hother with hmem | hmem
      · exact hrun other hmem
      · rw [List.mem_singleton.mp hmem]
        exact hline
    · intro range hrange
      rcases List.mem_append.mp hrange with hmem | hmem
      · exact tableRange_stop_le hrun range hmem
      · exact ih (fun _ hmem => absurd hmem List.not_mem_nil) hrest range hmem

theorem ListRun.range_stop_le {run : ListRun} {bound : Nat} (h : run.stop ≤ bound) :
    ∀ range ∈ run.range, range.2 ≤ bound := by
  intro range hrange
  unfold ListRun.range at hrange
  split at hrange
  · rw [List.mem_singleton.mp hrange]
    exact h
  · cases hrange

theorem listRanges_stop_le {lines : List Line} {run : Option ListRun} {bound : Nat}
    (hrun : ∀ current ∈ run, current.stop ≤ bound) (hlines : ∀ line ∈ lines, line.stop ≤ bound) :
    ∀ range ∈ listRangesFrom run lines, range.2 ≤ bound := by
  induction lines generalizing run with
  | nil =>
    cases run with
    | none => exact nofun
    | some run => exact ListRun.range_stop_le (hrun run rfl)
  | cons line rest ih =>
    obtain ⟨hline, hrest⟩ := List.forall_mem_cons.mp hlines
    have hends : ∀ run : ListRun, run.stop ≤ bound →
        ∀ range ∈ run.range ++ listRangesFrom none rest, range.2 ≤ bound := by
      intro run hstop range hrange
      rcases List.mem_append.mp hrange with hmem | hmem
      · exact ListRun.range_stop_le hstop range hmem
      · exact ih (fun _ hnone => absurd hnone (Option.not_mem_none _)) hrest range hmem
    cases run with
    | none =>
      unfold listRangesFrom
      apply ih _ hrest
      split
      · rintro _ ⟨⟩
        exact hline
      · exact nofun
    | some run =>
      unfold listRangesFrom
      split
      · exact hends run (hrun run rfl)
      · split
        · apply ih _ hrest
          rintro _ ⟨⟩
          exact hline
        · split
          · apply ih _ hrest
            rintro _ ⟨⟩
            exact hline
          · exact hends run (hrun run rfl)

/-! ### The protected ranges -/

/-- What the scanners find in a text: code fences, display mathematics in both notations, think
    tags, LaTeX environments, tables and compact lists. -/
def RawScan (text : PyStr) (raw : List (Nat × Nat)) : Prop :=
  ∃ fenced dollars brackets thoughts environments,
    DelimiterScan text fenceRe fenceClosing 0 fenced ∧
    DelimiterScan text displayDollarRe (fun _ => .ok displayDollarRe) 0 dollars ∧
    DelimiterScan text (Pattern.literal "\\[") (fun _ => .ok (Pattern.literal "\\]")) 0 brackets ∧
    DelimiterScan text thinkRe (fun _ => .ok thinkEndRe) 0 thoughts ∧
    LatexScan text 0 environments ∧
    raw = fenced ++ dollars ++ brackets ++ thoughts ++ environments ++ tableRanges (lines text) ++
      continuousListRanges (lines text)

/-- Ranges in normal form: sorted, disjoint, not touching and not empty, within a text. -/
structure NormalForm (text : PyStr) (ranges : List (Nat × Nat)) : Prop where
  apart : Apart ranges
  inside : ∀ range ∈ ranges, range.2 ≤ text.length

theorem RawScan.stop_le {text : PyStr} {raw : List (Nat × Nat)} (h : RawScan text raw) :
    ∀ range ∈ raw, range.2 ≤ text.length := by
  obtain ⟨fenced, dollars, brackets, thoughts, environments, hfenced, hdollars, hbrackets,
    hthoughts, henvironments, rfl⟩ := h
  have htables : ∀ range ∈ tableRanges (lines text), range.2 ≤ text.length :=
    tableRanges_stop_le (fun _ hmem => absurd hmem List.not_mem_nil) (lines_stop_le text)
  have hlists : ∀ range ∈ continuousListRanges (lines text), range.2 ≤ text.length :=
    listRanges_stop_le (fun _ hnone => absurd hnone (Option.not_mem_none _)) (lines_stop_le text)
  simp only [List.forall_mem_append]
  exact ⟨⟨⟨⟨⟨⟨hfenced.stop_le, hdollars.stop_le⟩, hbrackets.stop_le⟩, hthoughts.stop_le⟩,
    henvironments.stop_le⟩, htables⟩, hlists⟩

/-- The raw ranges are found, and merged, unless the scan for fences raises. -/
theorem protectedRanges_eq_ok {text : PyStr} {ranges : List (Nat × Nat)} :
    protectedRanges text (lines text) = .ok ranges ↔
      ∃ raw, RawScan text raw ∧ ranges = mergeRanges raw := by
  have henvironments : LatexScan text 0 (latexEnvironmentRanges text) :=
    latexScan_from text (Nat.lt_succ_self _)
  unfold protectedRanges rawRanges fencedCodeRanges simpleDelimiterRanges
  simp only [bind_eq_ok, delimiterRanges_eq_ok consumes_fenceRe,
    delimiterRanges_eq_ok consumes_displayDollarRe, delimiterRanges_eq_ok consumes_bracket,
    delimiterRanges_eq_ok consumes_thinkRe, pure_eq_ok, Except.ok.injEq]
  constructor
  · rintro ⟨_, ⟨fenced, hfenced, dollars, hdollars, brackets, hbrackets, thoughts, hthoughts, rfl⟩,
      rfl⟩
    exact ⟨_, ⟨fenced, dollars, brackets, thoughts, _, hfenced, hdollars, hbrackets, hthoughts,
      henvironments, rfl⟩, rfl⟩
  · rintro ⟨_, ⟨fenced, dollars, brackets, thoughts, environments, hfenced, hdollars, hbrackets,
      hthoughts, hscan, rfl⟩, rfl⟩
    obtain rfl := henvironments.unique hscan
    exact ⟨_, ⟨fenced, hfenced, dollars, hdollars, brackets, hbrackets, thoughts, hthoughts, rfl⟩,
      rfl⟩

theorem isProtected_iff {position : Nat} {ranges : List (Nat × Nat)} :
    isProtected position ranges = true ↔ Covered ranges position := by
  unfold isProtected Covered Contains
  simp only [List.any_eq_true, decide_eq_true_eq]

/-- The merged ranges of what the scanners found. -/
theorem RawScan.normalForm {text : PyStr} {raw : List (Nat × Nat)} (h : RawScan text raw) :
    NormalForm text (mergeRanges raw) ∧
      ∀ position, isProtected position (mergeRanges raw) = true ↔ Covered raw position := by
  have hmerged := merged_mergeRanges raw
  refine ⟨⟨hmerged.apart, ?_⟩, fun position => isProtected_iff.trans (hmerged.covered position)⟩
  intro range hrange
  obtain ⟨source, hsource, hstop⟩ := hmerged.stops range hrange
  exact hstop ▸ h.stop_le source hsource

/-- Only the scan for code fences may not find its ranges. -/
theorem exists_rawScan_iff {text : PyStr} :
    (∃ raw, RawScan text raw) ↔
      ∀ begin, Meets text fenceRe fenceClosing 0 begin →
        (groupText begin .mark).length < maxRepeat := by
  simp only [← returns_fenceClosing]
  rw [← exists_delimiterScan_iff consumes_fenceRe]
  constructor
  · rintro ⟨_, fenced, _, _, _, _, hfenced, _⟩
    exact ⟨fenced, hfenced⟩
  · rintro ⟨fenced, hfenced⟩
    obtain ⟨dollars, hdollars⟩ :=
      exists_simpleScan consumes_displayDollarRe displayDollarRe text
    obtain ⟨brackets, hbrackets⟩ := exists_simpleScan consumes_bracket (Pattern.literal "\\]") text
    obtain ⟨thoughts, hthoughts⟩ := exists_simpleScan consumes_thinkRe thinkEndRe text
    exact ⟨_, fenced, dollars, brackets, thoughts, _, hfenced, hdollars, hbrackets, hthoughts,
      latexScan_from text (Nat.lt_succ_self _), rfl⟩

/-- **Protected ranges.**  The function returns ranges in normal form that cover what the
    scanners found, and protects the positions in them, if and only if no code fence that the
    scan meets opens with as many marks as a pattern cannot repeat. -/
theorem protectedRanges_normalForm (text : PyStr) :
    (∃ raw ranges, RawScan text raw ∧ protectedRanges text (lines text) = .ok ranges ∧
      NormalForm text ranges ∧
      ∀ position, isProtected position ranges = true ↔ Covered raw position) ↔
      ∀ begin, Meets text fenceRe fenceClosing 0 begin →
        (groupText begin .mark).length < maxRepeat := by
  rw [← exists_rawScan_iff]
  constructor
  · rintro ⟨raw, _, hraw, _⟩
    exact ⟨raw, hraw⟩
  · rintro ⟨raw, hraw⟩
    exact ⟨raw, _, hraw, protectedRanges_eq_ok.mpr ⟨raw, hraw, rfl⟩, hraw.normalForm⟩

theorem run_fenceIndent (rest : PyStr) :
    run fenceIndent ⟨[], '\x60' :: rest, []⟩ = [⟨[], '\x60' :: rest, []⟩] := rfl

/-- Of a run of marks the fence takes all. -/
theorem head?_run_marks (count : Nat) :
    (run (.atLeast (Pattern.char '\x60') 3 : SplitterRegex)
        ⟨[], List.replicate (count + 3) '\x60', []⟩).head? =
      some ⟨List.replicate (count + 3) '\x60', [], []⟩ := by
  have hmark (seen rest : PyStr) : (run (Pattern.char '\x60' : SplitterRegex)
      ⟨seen, '\x60' :: rest, []⟩).head? = some ⟨'\x60' :: seen, rest, []⟩ := rfl
  have hall : ∀ c ∈ List.replicate count '\x60', decide (c = '\x60') = true :=
    fun c hc => decide_eq_true (List.eq_of_mem_replicate hc)
  have hstar := head?_run_star_one (γ := SplitterGroup) (fun c => decide (c = '\x60'))
    (List.replicate 3 '\x60') (List.replicate count '\x60') []
  rw [List.takeWhile_eq_self_iff.mpr hall, List.dropWhile_eq_nil_iff.mpr hall,
    List.reverse_replicate, List.replicate_append_replicate] at hstar
  exact head?_flatMap (hmark _ _) (head?_flatMap (hmark _ _) (head?_flatMap (hmark _ _) hstar))

/-- A text of marks is one fence. -/
theorem search_fenceRe_marks (count : Nat) :
    ∃ begin, fenceRe.search (List.replicate (count + 3) '\x60') 0 = some begin ∧
      groupText begin .mark = List.replicate (count + 3) '\x60' := by
  have hend (seen : PyStr) (groups : List (SplitterGroup × PyStr)) :
      (run (.seq (.star (Pattern.noneOf "\n")) lineEnding) ⟨seen, [], groups⟩).head? =
        some ⟨seen, [], groups⟩ := rfl
  have hgroup : (run (.group .mark (.alt (.atLeast (Pattern.char '\x60') 3)
        (.atLeast (Pattern.char '~') 3)) : SplitterRegex)
      ⟨[], List.replicate (count + 3) '\x60', []⟩).head? =
        some ⟨List.replicate (count + 3) '\x60', [],
          [(.mark, List.replicate (count + 3) '\x60')]⟩ := by
    unfold run
    rw [List.head?_map]
    unfold run
    rw [List.head?_append, head?_run_marks, Option.some_or, Option.map_some, Cursor.since,
      List.length_nil, Nat.sub_zero, List.take_length]
  have hrun : (run fenceRe (cursorAt (List.replicate (count + 3) '\x60') 0)).head? =
      some ⟨List.replicate (count + 3) '\x60', [],
        [(.mark, List.replicate (count + 3) '\x60')]⟩ :=
    head?_flatMap (congrArg List.head? (run_fenceIndent _)) (head?_flatMap hgroup (hend _ _))
  have hmatch : fenceRe.matchAt (List.replicate (count + 3) '\x60') 0 =
      some ⟨0, count + 3, [(.mark, List.replicate (count + 3) '\x60')]⟩ := by
    unfold matchAt
    rw [hrun, Option.map_some, Cursor.toMatch, List.length_replicate]
  refine ⟨⟨0, count + 3, [(.mark, List.replicate (count + 3) '\x60')]⟩, ?_, rfl⟩
  unfold search
  rw [Nat.sub_zero, List.range'_succ, List.findSome?_cons, hmatch]

/-- A fence of more marks than a pattern can repeat. -/
def longFence : PyStr := List.replicate maxRepeat '\x60'

theorem protectedRanges_longFence :
    ¬ ∃ raw ranges, RawScan longFence raw ∧
      protectedRanges longFence (lines longFence) = .ok ranges ∧ NormalForm longFence ranges ∧
      ∀ position, isProtected position ranges = true ↔ Covered raw position := by
  rintro ⟨raw, _, hraw, _⟩
  unfold longFence at hraw
  obtain ⟨begin, hsearch, hmark⟩ := search_fenceRe_marks (maxRepeat - 3)
  rw [show maxRepeat - 3 + 3 = maxRepeat by decide] at hsearch hmark
  have hlength := exists_rawScan_iff.mp ⟨raw, hraw⟩ begin (.here hsearch)
  rw [hmark, List.length_replicate] at hlength
  exact absurd hlength (Nat.lt_irrefl _)

end R2opl
