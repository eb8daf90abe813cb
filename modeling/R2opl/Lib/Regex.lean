import Mathlib.Data.List.Forall2

/-!
# Backtracking regular expressions

Expressions over any alphabet, with named groups, and two readings of them: the texts
they match between a text before and a text after, and the backtracking matcher, whose
results stand in the order in which it would try them.
-/

inductive Regex (α γ : Type) where
  | look (test : Option α → Option α → Bool)
  | one (test : α → Bool)
  | seq (first second : Regex α γ)
  | alt (first second : Regex α γ)
  | star (body : Regex α γ)
  | lazyStar (body : Regex α γ)
  | ahead (body : Regex α γ)
  | group (name : γ) (body : Regex α γ)

namespace Regex

variable {α γ : Type}

/-! ### Derived forms -/

/-- The empty expression. -/
def nothing : Regex α γ := .look fun _ _ => true

/-- The expressions one after the other. -/
def sequence : List (Regex α γ) → Regex α γ
  | [] => nothing
  | [last] => last
  | first :: rest => .seq first (sequence rest)

/-- The first of the expressions that goes on to match. -/
def choice : List (Regex α γ) → Regex α γ
  | [] => .one fun _ => false
  | [last] => last
  | first :: rest => .alt first (choice rest)

/-- `body?` -/
def optional (body : Regex α γ) : Regex α γ := .alt body nothing

/-- `body+` -/
def plus (body : Regex α γ) : Regex α γ := .seq body (.star body)

/-- `body{0,n}` -/
def upTo (body : Regex α γ) : Nat → Regex α γ
  | 0 => nothing
  | n + 1 => optional (.seq body (upTo body n))

/-- `body` at least `n` times, then `rest`. -/
def times (body rest : Regex α γ) : Nat → Regex α γ
  | 0 => rest
  | n + 1 => .seq body (times body rest n)

/-- `body{least,most}` -/
def between (body : Regex α γ) (least most : Nat) : Regex α γ :=
  times body (upTo body (most - least)) least

/-- `body{least,}` -/
def atLeast (body : Regex α γ) (least : Nat) : Regex α γ := times body (.star body) least

/-- The end of the text, `\Z`. -/
def textEnd : Regex α γ := .look fun _ next => next.isNone

/-- The letters of `word`, one after the other, as `test` reads each. -/
def wordBy (test : α → α → Bool) (word : List α) : Regex α γ :=
  sequence (word.map fun c => .one (test c))

/-! ### What an expression matches -/

/-- `r` matches `inside`, between `before` and `after`, and captures `groups`, last group
    first. -/
inductive Captures : Regex α γ → List α → List α → List α → List (γ × List α) → Prop where
  | look {test : Option α → Option α → Bool} {before after : List α}
      (h : test before.getLast? after.head? = true) : Captures (.look test) before [] after []
  | one {test : α → Bool} {before after : List α} {c : α} (h : test c = true) :
      Captures (.one test) before [c] after []
  | seq {first second : Regex α γ} {before left right after : List α}
      {groups groups' : List (γ × List α)}
      (hfirst : Captures first before left (right ++ after) groups)
      (hsecond : Captures second (before ++ left) right after groups') :
      Captures (.seq first second) before (left ++ right) after (groups' ++ groups)
  | altFirst {first second : Regex α γ} {before inside after : List α}
      {groups : List (γ × List α)} (h : Captures first before inside after groups) :
      Captures (.alt first second) before inside after groups
  | altSecond {first second : Regex α γ} {before inside after : List α}
      {groups : List (γ × List α)} (h : Captures second before inside after groups) :
      Captures (.alt first second) before inside after groups
  | starNil {body : Regex α γ} {before after : List α} :
      Captures (.star body) before [] after []
  | starCons {body : Regex α γ} {before left right after : List α}
      {groups groups' : List (γ × List α)} (hne : left ≠ [])
      (hfirst : Captures body before left (right ++ after) groups)
      (hrest : Captures (.star body) (before ++ left) right after groups') :
      Captures (.star body) before (left ++ right) after (groups' ++ groups)
  | lazyStar {body : Regex α γ} {before inside after : List α} {groups : List (γ × List α)}
      (h : Captures (.star body) before inside after groups) :
      Captures (.lazyStar body) before inside after groups
  | ahead {body : Regex α γ} {before seen after : List α} {groups : List (γ × List α)}
      (h : Captures body before seen after groups) :
      Captures (.ahead body) before [] (seen ++ after) groups
  | group {name : γ} {body : Regex α γ} {before inside after : List α}
      {groups : List (γ × List α)} (h : Captures body before inside after groups) :
      Captures (.group name body) before inside after ((name, inside) :: groups)

/-- `r` matches `inside`, between `before` and `after`. -/
def Matches (r : Regex α γ) (before inside after : List α) : Prop :=
  ∃ groups, Captures r before inside after groups

/-! ### Reading a match back -/

section Captured

variable {before inside after : List α} {groups : List (γ × List α)}

theorem captures_look {test : Option α → Option α → Bool} :
    (look test : Regex α γ).Captures before inside after groups ↔
      inside = [] ∧ groups = [] ∧ test before.getLast? after.head? = true := by
  constructor
  · intro h
    cases h with
    | look h => exact ⟨rfl, rfl, h⟩
  · rintro ⟨rfl, rfl, h⟩
    exact .look h

theorem captures_one {test : α → Bool} :
    (one test : Regex α γ).Captures before inside after groups ↔
      ∃ c, inside = [c] ∧ groups = [] ∧ test c = true := by
  constructor
  · intro h
    cases h with
    | one h => exact ⟨_, rfl, rfl, h⟩
  · rintro ⟨c, rfl, rfl, h⟩
    exact .one h

theorem captures_seq {first second : Regex α γ} :
    (seq first second).Captures before inside after groups ↔
      ∃ left right captured captured', inside = left ++ right ∧ groups = captured' ++ captured ∧
        first.Captures before left (right ++ after) captured ∧
        second.Captures (before ++ left) right after captured' := by
  constructor
  · intro h
    cases h with
    | seq hfirst hsecond => exact ⟨_, _, _, _, rfl, rfl, hfirst, hsecond⟩
  · rintro ⟨left, right, captured, captured', rfl, rfl, hfirst, hsecond⟩
    exact .seq hfirst hsecond

theorem captures_alt {first second : Regex α γ} :
    (alt first second).Captures before inside after groups ↔
      first.Captures before inside after groups ∨ second.Captures before inside after groups := by
  constructor
  · intro h
    cases h with
    | altFirst h => exact Or.inl h
    | altSecond h => exact Or.inr h
  · rintro (h | h)
    · exact .altFirst h
    · exact .altSecond h

theorem captures_ahead {body : Regex α γ} :
    (ahead body).Captures before inside after groups ↔
      inside = [] ∧ ∃ seen rest, after = seen ++ rest ∧
        body.Captures before seen rest groups := by
  constructor
  · intro h
    cases h with
    | ahead h => exact ⟨rfl, _, _, rfl, h⟩
  · rintro ⟨rfl, seen, rest, rfl, h⟩
    exact .ahead h

theorem captures_group {name : γ} {body : Regex α γ} :
    (group name body).Captures before inside after groups ↔
      ∃ captured, groups = (name, inside) :: captured ∧
        body.Captures before inside after captured := by
  constructor
  · intro h
    cases h with
    | group h => exact ⟨_, rfl, h⟩
  · rintro ⟨captured, rfl, h⟩
    exact .group h

theorem forall_of_captures_star {r : Regex α γ} {test : α → Bool} (hr : r = star (one test))
    (h : r.Captures before inside after groups) :
    groups = [] ∧ ∀ c ∈ inside, test c = true := by
  induction h with
  | look | one | seq | altFirst | altSecond | lazyStar | ahead | group => cases hr
  | starNil => exact ⟨rfl, fun c hc => absurd hc List.not_mem_nil⟩
  | starCons hne hfirst hrest ihfirst ihrest =>
    injection hr with hbody
    rw [hbody, captures_one] at hfirst
    obtain ⟨d, rfl, rfl, hd⟩ := hfirst
    obtain ⟨rfl, hall⟩ := ihrest (congrArg star hbody)
    refine ⟨rfl, ?_⟩
    intro c hc
    rcases List.mem_cons.mp hc with rfl | hc
    · exact hd
    · exact hall c hc

/-- Characters of one class, as many as there are. -/
theorem captures_star_one {test : α → Bool} :
    (star (one test) : Regex α γ).Captures before inside after groups ↔
      groups = [] ∧ ∀ c ∈ inside, test c = true := by
  constructor
  · exact forall_of_captures_star rfl
  · rintro ⟨rfl, h⟩
    induction inside generalizing before with
    | nil => exact .starNil
    | cons c inside ih =>
      have hfirst : (one test : Regex α γ).Captures before [c] (inside ++ after) [] :=
        .one (h c List.mem_cons_self)
      exact .starCons (List.cons_ne_nil c []) hfirst
        (ih fun d hd => h d (List.mem_cons_of_mem c hd))

theorem captures_optional_one {test : α → Bool} :
    (optional (one test) : Regex α γ).Captures before inside after groups ↔
      groups = [] ∧ ∀ c ∈ inside, inside = [c] ∧ test c = true := by
  simp only [optional, nothing, captures_alt, captures_one, captures_look]
  constructor
  · rintro (⟨c, rfl, rfl, hc⟩ | ⟨rfl, rfl, _⟩)
    · refine ⟨rfl, ?_⟩
      intro d hd
      rw [List.mem_singleton.mp hd]
      exact ⟨rfl, hc⟩
    · exact ⟨rfl, fun d hd => absurd hd List.not_mem_nil⟩
  · rintro ⟨rfl, h⟩
    cases inside with
    | nil => exact Or.inr ⟨rfl, rfl, trivial⟩
    | cons c inside =>
      obtain ⟨hinside, hc⟩ := h c List.mem_cons_self
      exact Or.inl ⟨c, hinside, rfl, hc⟩

end Captured

section Matched

variable {before inside after : List α}

@[simp] theorem matches_look {test : Option α → Option α → Bool} :
    (look test : Regex α γ).Matches before inside after ↔
      inside = [] ∧ test before.getLast? after.head? = true := by
  simp only [Matches, captures_look]
  exact ⟨fun ⟨_, h, _, ht⟩ => ⟨h, ht⟩, fun ⟨h, ht⟩ => ⟨[], h, rfl, ht⟩⟩

@[simp] theorem matches_one {test : α → Bool} :
    (one test : Regex α γ).Matches before inside after ↔ ∃ c, inside = [c] ∧ test c = true := by
  simp only [Matches, captures_one]
  exact ⟨fun ⟨_, c, h, _, hc⟩ => ⟨c, h, hc⟩, fun ⟨c, h, hc⟩ => ⟨[], c, h, rfl, hc⟩⟩

@[simp] theorem matches_seq {first second : Regex α γ} :
    (seq first second).Matches before inside after ↔
      ∃ left right, inside = left ++ right ∧ first.Matches before left (right ++ after) ∧
        second.Matches (before ++ left) right after := by
  simp only [Matches, captures_seq]
  constructor
  · rintro ⟨_, left, right, captured, captured', h, _, hfirst, hsecond⟩
    exact ⟨left, right, h, ⟨captured, hfirst⟩, ⟨captured', hsecond⟩⟩
  · rintro ⟨left, right, h, ⟨captured, hfirst⟩, ⟨captured', hsecond⟩⟩
    exact ⟨_, left, right, captured, captured', h, rfl, hfirst, hsecond⟩

@[simp] theorem matches_alt {first second : Regex α γ} :
    (alt first second).Matches before inside after ↔
      first.Matches before inside after ∨ second.Matches before inside after := by
  simp only [Matches, captures_alt]
  exact exists_or

@[simp] theorem matches_ahead {body : Regex α γ} :
    (ahead body).Matches before inside after ↔
      inside = [] ∧ ∃ seen rest, after = seen ++ rest ∧ body.Matches before seen rest := by
  simp only [Matches, captures_ahead]
  constructor
  · rintro ⟨groups, hinside, seen, rest, hafter, h⟩
    exact ⟨hinside, seen, rest, hafter, groups, h⟩
  · rintro ⟨hinside, seen, rest, hafter, groups, h⟩
    exact ⟨groups, hinside, seen, rest, hafter, h⟩

@[simp] theorem matches_group {name : γ} {body : Regex α γ} :
    (group name body).Matches before inside after ↔ body.Matches before inside after := by
  simp only [Matches, captures_group]
  exact ⟨fun ⟨_, captured, _, h⟩ => ⟨captured, h⟩, fun ⟨captured, h⟩ => ⟨_, captured, rfl, h⟩⟩

@[simp] theorem matches_star_one {test : α → Bool} :
    (star (one test) : Regex α γ).Matches before inside after ↔
      ∀ c ∈ inside, test c = true := by
  simp only [Matches, captures_star_one]
  exact ⟨fun ⟨_, _, h⟩ => h, fun h => ⟨[], rfl, h⟩⟩

/-- A word is matched letter by letter. -/
@[simp] theorem matches_wordBy {test : α → α → Bool} {word : List α} :
    (wordBy test word : Regex α γ).Matches before inside after ↔
      List.Forall₂ (fun c d => test c d = true) word inside := by
  unfold wordBy
  induction word generalizing before inside with
  | nil =>
    rw [List.map_nil, sequence, nothing, matches_look, List.forall₂_nil_left_iff]
    exact and_iff_left rfl
  | cons c word ih =>
    have hcons : (sequence ((c :: word).map fun c => .one (test c)) : Regex α γ).Matches before
        inside after ↔ ∃ d tail, inside = d :: tail ∧ test c d = true ∧
          (sequence (word.map fun c => .one (test c)) : Regex α γ).Matches (before ++ [d]) tail
            after := by
      cases word with
      | nil =>
        simp only [List.map_cons, List.map_nil, sequence, nothing, matches_one, matches_look]
        constructor
        · rintro ⟨d, rfl, hd⟩
          exact ⟨d, [], rfl, hd, rfl, trivial⟩
        · rintro ⟨d, tail, rfl, hd, rfl, _⟩
          exact ⟨d, rfl, hd⟩
      | cons next word =>
        simp only [List.map_cons, sequence, matches_seq, matches_one]
        constructor
        · rintro ⟨_, right, rfl, ⟨d, rfl, hd⟩, hright⟩
          exact ⟨d, right, rfl, hd, hright⟩
        · rintro ⟨d, tail, rfl, hd, htail⟩
          exact ⟨[d], tail, rfl, ⟨d, rfl, hd⟩, htail⟩
    rw [hcons, List.forall₂_cons_left_iff]
    simp only [ih]
    constructor
    · rintro ⟨d, tail, rfl, hd, htail⟩
      exact ⟨d, tail, hd, htail, rfl⟩
    · rintro ⟨d, tail, hd, htail, rfl⟩
      exact ⟨d, tail, rfl, hd, htail⟩

end Matched

/-! ### The matcher -/

/-- A position in a text, with what is before it, last character first, and the groups
    matched so far, last group first. -/
structure Cursor (α γ : Type) where
  seen : List α
  rest : List α
  groups : List (γ × List α)

/-- The text between two cursors. -/
def Cursor.since (start stop : Cursor α γ) : List α :=
  start.rest.take (start.rest.length - stop.rest.length)

/-- As many rounds as possible, or as few, none of them empty. -/
def rounds (greedy : Bool) (step : Cursor α γ → List (Cursor α γ)) :
    Nat → Cursor α γ → List (Cursor α γ)
  | 0, cursor => [cursor]
  | fuel + 1, cursor =>
      let longer := ((step cursor).filter fun next =>
        decide (next.rest.length < cursor.rest.length)).flatMap (rounds greedy step fuel)
      if greedy then longer ++ [cursor] else cursor :: longer

def run : Regex α γ → Cursor α γ → List (Cursor α γ)
  | .look test, cursor => if test cursor.seen.head? cursor.rest.head? then [cursor] else []
  | .one test, cursor =>
      match cursor.rest with
      | [] => []
      | c :: rest => if test c then [⟨c :: cursor.seen, rest, cursor.groups⟩] else []
  | .seq first second, cursor => (run first cursor).flatMap (run second)
  | .alt first second, cursor => run first cursor ++ run second cursor
  | .star body, cursor => rounds true (run body) cursor.rest.length cursor
  | .lazyStar body, cursor => rounds false (run body) cursor.rest.length cursor
  | .ahead body, cursor =>
      match run body cursor with
      | [] => []
      | found :: _ => [{ cursor with groups := found.groups }]
  | .group name body, cursor =>
      (run body cursor).map fun found =>
        { found with groups := (name, cursor.since found) :: found.groups }

/-- A match, with the positions it starts and stops at. -/
structure Match (α γ : Type) where
  start : Nat
  stop : Nat
  groups : List (γ × List α)

/-- `match.group(name)` -/
def Match.group [DecidableEq γ] (found : Match α γ) (name : γ) : Option (List α) :=
  (found.groups.find? fun entry => entry.1 = name).map Prod.snd

def cursorAt (text : List α) (start : Nat) : Cursor α γ :=
  ⟨(text.take start).reverse, text.drop start, []⟩

def Cursor.toMatch (start : Nat) (found : Cursor α γ) : Match α γ :=
  ⟨start, found.seen.length, found.groups⟩

/-- `r.match(text, start)`, with `^` and the characters before `start` read in the text. -/
def matchAt (r : Regex α γ) (text : List α) (start : Nat) : Option (Match α γ) :=
  (run r (cursorAt text start)).head?.map (Cursor.toMatch start)

/-- `r.fullmatch(text)` -/
def fullmatch (r : Regex α γ) (text : List α) : Option (Match α γ) :=
  ((run r (cursorAt text 0)).find? fun found => found.rest.isEmpty).map (Cursor.toMatch 0)

/-- `r.search(text, start)` -/
def search (r : Regex α γ) (text : List α) (start : Nat) : Option (Match α γ) :=
  (List.range' start (text.length + 1 - start)).findSome? (matchAt r text)

/-- The rounds of `finditer`, from `start` on. -/
def finditerFrom (r : Regex α γ) (text : List α) : Nat → Nat → List (Match α γ)
  | 0, _ => []
  | fuel + 1, start =>
      match search r text start with
      | none => []
      | some found => found :: finditerFrom r text fuel (max found.stop (found.start + 1))

/-- `r.finditer(text, start)`, for an expression that matches no empty text. -/
def finditer (r : Regex α γ) (text : List α) (start : Nat) : List (Match α γ) :=
  finditerFrom r text (text.length + 1) start

/-- The text from `position` on without the matches. -/
def removeFrom (text : List α) : Nat → List (Match α γ) → List α
  | position, [] => text.drop position
  | position, found :: rest =>
      (text.drop position).take (found.start - position) ++ removeFrom text found.stop rest

/-- `r.sub("", text)`, for an expression that matches no empty text. -/
def remove (r : Regex α γ) (text : List α) : List α := removeFrom text 0 (finditer r text 0)

/-! ### The matcher finds what is matched -/

/-- `stop` is reached from `start` over a text that `r` matches. -/
def Reaches (r : Regex α γ) (start stop : Cursor α γ) : Prop :=
  ∃ inside groups, start.rest = inside ++ stop.rest ∧ stop.seen = inside.reverse ++ start.seen ∧
    stop.groups = groups ++ start.groups ∧ Captures r start.seen.reverse inside stop.rest groups

theorem reaches_starNil {body : Regex α γ} (cursor : Cursor α γ) :
    Reaches (.star body) cursor cursor := ⟨[], [], rfl, rfl, rfl, .starNil⟩

/-- One text after the other. -/
theorem reaches_trans {first second whole : Regex α γ} {start next stop : Cursor α γ}
    (hfirst : Reaches first start next) (hsecond : Reaches second next stop)
    (hwhole : ∀ left right groups groups', start.rest.length = left.length + next.rest.length →
      Captures first start.seen.reverse left (right ++ stop.rest) groups →
      Captures second (start.seen.reverse ++ left) right stop.rest groups' →
      Captures whole start.seen.reverse (left ++ right) stop.rest (groups' ++ groups)) :
    Reaches whole start stop := by
  obtain ⟨left, groups, hleft, hseen, hgroups, hcaptures⟩ := hfirst
  obtain ⟨right, groups', hright, hseen', hgroups', hcaptures'⟩ := hsecond
  have hlength := congrArg List.length hleft
  rw [List.length_append] at hlength
  rw [hright] at hcaptures
  rw [hseen, List.reverse_append, List.reverse_reverse] at hcaptures'
  refine ⟨left ++ right, groups' ++ groups, ?_, ?_, ?_,
    hwhole left right groups groups' hlength hcaptures hcaptures'⟩
  · rw [hleft, hright, List.append_assoc]
  · rw [hseen', hseen, List.reverse_append, List.append_assoc]
  · rw [hgroups', hgroups, List.append_assoc]

theorem rounds_sound {body : Regex α γ} {greedy : Bool}
    (hbody : ∀ start stop, stop ∈ run body start → Reaches body start stop) :
    ∀ fuel start stop, stop ∈ rounds greedy (run body) fuel start →
      Reaches (.star body) start stop := by
  intro fuel
  induction fuel with
  | zero =>
    intro start stop hstop
    obtain rfl := List.mem_singleton.mp hstop
    exact reaches_starNil _
  | succ fuel ih =>
    intro start stop hstop
    have hcases : stop = start ∨ ∃ next ∈ run body start,
        next.rest.length < start.rest.length ∧ stop ∈ rounds greedy (run body) fuel next := by
      unfold rounds at hstop
      cases greedy with
      | true =>
        rcases List.mem_append.mp hstop with hlonger | hhere
        · obtain ⟨next, hnext, hrest⟩ := List.mem_flatMap.mp hlonger
          obtain ⟨hmem, hlt⟩ := List.mem_filter.mp hnext
          exact Or.inr ⟨next, hmem, of_decide_eq_true hlt, hrest⟩
        · exact Or.inl (List.mem_singleton.mp hhere)
      | false =>
        rcases List.mem_cons.mp hstop with hhere | hlonger
        · exact Or.inl hhere
        · obtain ⟨next, hnext, hrest⟩ := List.mem_flatMap.mp hlonger
          obtain ⟨hmem, hlt⟩ := List.mem_filter.mp hnext
          exact Or.inr ⟨next, hmem, of_decide_eq_true hlt, hrest⟩
    rcases hcases with rfl | ⟨next, hnext, hlt, hrest⟩
    · exact reaches_starNil _
    · apply reaches_trans (hbody start next hnext) (ih next stop hrest)
      intro left right groups groups' hlength hfirst hsecond
      refine .starCons ?_ hfirst hsecond
      rintro rfl
      rw [List.length_nil] at hlength
      omega

theorem run_sound {r : Regex α γ} :
    ∀ {start stop : Cursor α γ}, stop ∈ run r start → Reaches r start stop := by
  induction r with
  | look test =>
    intro start stop h
    unfold run at h
    split at h
    · next htest =>
      obtain rfl := List.mem_singleton.mp h
      refine ⟨[], [], rfl, rfl, rfl, .look ?_⟩
      rw [List.getLast?_reverse]
      exact htest
    · exact absurd h List.not_mem_nil
  | one test =>
    intro start stop h
    unfold run at h
    split at h
    · exact absurd h List.not_mem_nil
    · next c rest hrest =>
      split at h
      · next htest =>
        obtain rfl := List.mem_singleton.mp h
        exact ⟨[c], [], hrest, rfl, rfl, .one htest⟩
      · exact absurd h List.not_mem_nil
  | seq first second ihfirst ihsecond =>
    intro start stop h
    obtain ⟨next, hnext, hstop⟩ := List.mem_flatMap.mp h
    exact reaches_trans (ihfirst hnext) (ihsecond hstop) fun _ _ _ _ _ => .seq
  | alt first second ihfirst ihsecond =>
    intro start stop h
    rcases List.mem_append.mp h with hfirst | hsecond
    · obtain ⟨inside, groups, hrest, hseen, hgroups, hcaptures⟩ := ihfirst hfirst
      exact ⟨inside, groups, hrest, hseen, hgroups, .altFirst hcaptures⟩
    · obtain ⟨inside, groups, hrest, hseen, hgroups, hcaptures⟩ := ihsecond hsecond
      exact ⟨inside, groups, hrest, hseen, hgroups, .altSecond hcaptures⟩
  | star body ih =>
    intro start stop h
    exact rounds_sound (fun _ _ hmem => ih hmem) _ start stop h
  | lazyStar body ih =>
    intro start stop h
    obtain ⟨inside, groups, hrest, hseen, hgroups, hcaptures⟩ :=
      rounds_sound (fun _ _ hmem => ih hmem) _ start stop h
    exact ⟨inside, groups, hrest, hseen, hgroups, .lazyStar hcaptures⟩
  | ahead body ih =>
    intro start stop h
    unfold run at h
    split at h
    · exact absurd h List.not_mem_nil
    · next found others hfound =>
      obtain rfl := List.mem_singleton.mp h
      obtain ⟨inside, groups, hrest, _, hgroups, hcaptures⟩ := ih (hfound ▸ List.mem_cons_self)
      refine ⟨[], groups, rfl, rfl, hgroups, ?_⟩
      dsimp only
      rw [hrest]
      exact .ahead hcaptures
  | group name body ih =>
    intro start stop h
    obtain ⟨found, hfound, rfl⟩ := List.mem_map.mp h
    obtain ⟨inside, groups, hrest, hseen, hgroups, hcaptures⟩ := ih hfound
    have hsince : start.since found = inside := by
      unfold Cursor.since
      rw [hrest, List.length_append, Nat.add_sub_cancel, List.take_left]
    refine ⟨inside, (name, inside) :: groups, hrest, hseen, ?_, .group hcaptures⟩
    dsimp only
    rw [hsince, hgroups]
    rfl

/-- Some result of the matcher stands between `before ++ inside` and `after`. -/
def Finds (r : Regex α γ) (before inside after : List α) : Prop :=
  ∀ groups, ∃ found ∈ run r ⟨before.reverse, inside ++ after, groups⟩,
    found.seen = (before ++ inside).reverse ∧ found.rest = after

theorem rounds_here (greedy : Bool) (step : Cursor α γ → List (Cursor α γ)) (fuel : Nat)
    (cursor : Cursor α γ) : cursor ∈ rounds greedy step fuel cursor := by
  cases fuel with
  | zero => exact List.mem_cons_self
  | succ fuel => cases greedy <;> simp [rounds]

theorem rounds_step {greedy : Bool} {step : Cursor α γ → List (Cursor α γ)} {fuel : Nat}
    {cursor next stop : Cursor α γ} (hnext : next ∈ step cursor)
    (hlt : next.rest.length < cursor.rest.length) (hstop : stop ∈ rounds greedy step fuel next) :
    stop ∈ rounds greedy step (fuel + 1) cursor := by
  have hlonger : stop ∈ ((step cursor).filter fun next =>
      decide (next.rest.length < cursor.rest.length)).flatMap (rounds greedy step fuel) :=
    List.mem_flatMap.mpr
      ⟨next, List.mem_filter.mpr ⟨hnext, decide_eq_true hlt⟩, hstop⟩
  unfold rounds
  cases greedy with
  | true => exact List.mem_append.mpr (Or.inl hlonger)
  | false => exact List.mem_cons.mpr (Or.inr hlonger)

/-- Enough rounds are left for every text of non-empty rounds. -/
theorem rounds_complete {greedy : Bool} {r body : Regex α γ} (hr : r = .star body)
    (hbody : ∀ before inside after captured, Captures body before inside after captured →
      Finds body before inside after)
    {before inside after : List α} {captured : List (γ × List α)}
    (h : Captures r before inside after captured) :
    ∀ fuel, inside.length ≤ fuel → ∀ groups,
      ∃ found ∈ rounds greedy (run body) fuel ⟨before.reverse, inside ++ after, groups⟩,
        found.seen = (before ++ inside).reverse ∧ found.rest = after := by
  induction h with
  | look | one | seq | altFirst | altSecond | lazyStar | ahead | group => cases hr
  | @starNil _ before after =>
    intro fuel _ groups
    refine ⟨_, rounds_here greedy (run body) fuel _, ?_, rfl⟩
    rw [List.append_nil]
  | @starCons body' before left right after _ _ hne hfirst hrest ihfirst ihrest =>
    obtain rfl : body' = body := by injection hr
    intro fuel hfuel groups
    have hpositive := List.length_pos_iff.mpr hne
    rw [List.length_append] at hfuel
    obtain ⟨fuel, rfl⟩ : ∃ n, fuel = n + 1 := Nat.exists_eq_add_of_le' (by omega)
    obtain ⟨next, hnext, hseen, hnextRest⟩ := hbody _ _ _ _ hfirst groups
    obtain ⟨found, hfound, hstop⟩ := ihrest rfl fuel (by omega) next.groups
    refine ⟨found, ?_, ?_, hstop.2⟩
    · refine @rounds_step _ _ _ _ _ _ next _ ?_ ?_ ?_
      · rw [List.append_assoc]
        exact hnext
      · rw [hnextRest]
        simp only [List.length_append]
        omega
      · have hcursor : next = ⟨(before ++ left).reverse, right ++ after, next.groups⟩ := by
          rw [← hseen, ← hnextRest]
        rw [hcursor]
        exact hfound
    · rw [hstop.1, List.append_assoc]

theorem run_complete {r : Regex α γ} :
    ∀ {before inside after : List α} {captured : List (γ × List α)},
      Captures r before inside after captured → Finds r before inside after := by
  induction r with
  | look test =>
    intro before inside after captured h groups
    cases h with
    | look htest =>
      refine ⟨⟨before.reverse, after, groups⟩, ?_, ?_, rfl⟩
      · unfold run
        rw [List.head?_reverse, List.nil_append, if_pos htest]
        exact List.mem_cons_self
      · rw [List.append_nil]
  | one test =>
    intro before inside after captured h groups
    cases h with
    | @one _ _ _ c htest =>
      refine ⟨⟨c :: before.reverse, after, groups⟩, ?_, ?_, rfl⟩
      · simp only [run, List.cons_append, List.nil_append, htest, if_true, List.mem_cons,
          List.not_mem_nil, or_false]
      · rw [List.reverse_append, List.reverse_singleton, List.singleton_append]
  | seq first second ihfirst ihsecond =>
    intro before inside after captured h groups
    cases h with
    | @seq _ _ _ left right _ _ _ hfirst hsecond =>
      obtain ⟨next, hnext, hseen, hrest⟩ := ihfirst hfirst groups
      obtain ⟨found, hfound, hstop⟩ := ihsecond hsecond next.groups
      refine ⟨found, ?_, ?_, hstop.2⟩
      · unfold run
        apply List.mem_flatMap.mpr
        refine ⟨next, ?_, ?_⟩
        · rw [List.append_assoc]
          exact hnext
        · have hcursor : next = ⟨(before ++ left).reverse, right ++ after, next.groups⟩ := by
            rw [← hseen, ← hrest]
          rw [hcursor]
          exact hfound
      · rw [hstop.1, List.append_assoc]
  | alt first second ihfirst ihsecond =>
    intro before inside after captured h groups
    cases h with
    | altFirst h =>
      obtain ⟨found, hfound, hstop⟩ := ihfirst h groups
      exact ⟨found, List.mem_append.mpr (Or.inl hfound), hstop⟩
    | altSecond h =>
      obtain ⟨found, hfound, hstop⟩ := ihsecond h groups
      exact ⟨found, List.mem_append.mpr (Or.inr hfound), hstop⟩
  | star body ih =>
    intro before inside after captured h groups
    apply rounds_complete rfl (fun _ _ _ _ => ih) h
    simp only [List.length_append]
    exact Nat.le_add_right _ _
  | lazyStar body ih =>
    intro before inside after captured h groups
    cases h with
    | lazyStar h =>
      apply rounds_complete rfl (fun _ _ _ _ => ih) h
      simp only [List.length_append]
      exact Nat.le_add_right _ _
  | ahead body ih =>
    intro before inside after captured h groups
    cases h with
    | @ahead _ _ seen after _ h =>
      obtain ⟨found, hfound, _⟩ := ih h groups
      obtain ⟨first, others, hrun⟩ := List.exists_cons_of_ne_nil (List.ne_nil_of_mem hfound)
      refine ⟨⟨before.reverse, seen ++ after, first.groups⟩, ?_, ?_, rfl⟩
      · simp only [run, List.nil_append, hrun, List.mem_cons, List.not_mem_nil, or_false]
      · rw [List.append_nil]
  | group name body ih =>
    intro before inside after captured h groups
    cases h with
    | group h =>
      obtain ⟨found, hfound, hstop⟩ := ih h groups
      exact ⟨_, List.mem_map.mpr ⟨found, hfound, rfl⟩, hstop⟩

/-! ### Searching a text -/

/-- `r` matches the text from position `start` to position `stop`. -/
def MatchesAt (r : Regex α γ) (text : List α) (start stop : Nat) : Prop :=
  ∃ before inside after, text = before ++ inside ++ after ∧ start = before.length ∧
    stop = before.length + inside.length ∧ Matches r before inside after

theorem MatchesAt.bounds {r : Regex α γ} {text : List α} {start stop : Nat}
    (h : MatchesAt r text start stop) : start ≤ stop ∧ stop ≤ text.length := by
  obtain ⟨before, inside, after, rfl, rfl, rfl, _⟩ := h
  simp only [List.length_append]
  omega

/-- The match found, with what it captures. -/
theorem matchAt_captures {r : Regex α γ} {text : List α} {start : Nat} {found : Match α γ}
    (hstart : start ≤ text.length) (h : matchAt r text start = some found) :
    found.start = start ∧ ∃ before inside after, text = before ++ inside ++ after ∧
      start = before.length ∧ found.stop = before.length + inside.length ∧
      Captures r before inside after found.groups := by
  unfold matchAt at h
  obtain ⟨cursor, hcursor, rfl⟩ := Option.map_eq_some_iff.mp h
  obtain ⟨inside, groups, hrest, hseen, hgroups, hmatch⟩ :=
    run_sound (List.mem_of_head? hcursor)
  simp only [cursorAt, List.reverse_reverse, List.append_nil] at hrest hseen hgroups hmatch
  rw [← hgroups] at hmatch
  refine ⟨rfl, text.take start, inside, cursor.rest, ?_, ?_, ?_, hmatch⟩
  · rw [List.append_assoc, ← hrest, List.take_append_drop]
  · rw [List.length_take, Nat.min_eq_left hstart]
  · simp only [Cursor.toMatch, hseen, List.length_append, List.length_reverse]
    exact Nat.add_comm _ _

theorem matchAt_eq_some {r : Regex α γ} {text : List α} {start : Nat} {found : Match α γ}
    (hstart : start ≤ text.length) (h : matchAt r text start = some found) :
    found.start = start ∧ MatchesAt r text start found.stop := by
  obtain ⟨hfound, before, inside, after, htext, hbefore, hstop, hcaptures⟩ :=
    matchAt_captures hstart h
  exact ⟨hfound, before, inside, after, htext, hbefore, hstop, _, hcaptures⟩

theorem matchAt_isSome {r : Regex α γ} {text : List α} {start stop : Nat}
    (h : MatchesAt r text start stop) : (matchAt r text start).isSome = true := by
  obtain ⟨before, inside, after, rfl, rfl, _, _, hmatch⟩ := h
  obtain ⟨found, hfound, _⟩ := run_complete hmatch []
  have hcursor : cursorAt (before ++ inside ++ after) before.length =
      (⟨before.reverse, inside ++ after, []⟩ : Cursor α γ) := by
    rw [cursorAt, List.append_assoc, List.take_left, List.drop_left]
  unfold matchAt
  rw [hcursor, Option.isSome_map]
  cases hrun : run r ⟨before.reverse, inside ++ after, []⟩ with
  | nil =>
    rw [hrun] at hfound
    exact absurd hfound List.not_mem_nil
  | cons first others => rfl

theorem search_eq_some {r : Regex α γ} {text : List α} {start : Nat} {found : Match α γ}
    (h : search r text start = some found) :
    start ≤ found.start ∧ MatchesAt r text found.start found.stop ∧
      matchAt r text found.start = some found ∧
      ∀ position, start ≤ position → position < found.start →
        matchAt r text position = none := by
  unfold search at h
  obtain ⟨before, position, after, hrange, hfound, hnone⟩ := List.findSome?_eq_some_iff.mp h
  have hmem : position ∈ List.range' start (text.length + 1 - start) := by
    rw [hrange]
    exact List.mem_append_right _ List.mem_cons_self
  have hbounds := List.mem_range'_1.mp hmem
  obtain ⟨rfl, hmatches⟩ := matchAt_eq_some (by omega) hfound
  refine ⟨hbounds.1, hmatches, hfound, ?_⟩
  intro earlier hlow hhigh
  apply hnone
  have hearlier : earlier ∈ before ++ found.start :: after := by
    rw [← hrange]
    exact List.mem_range'_1.mpr ⟨hlow, by omega⟩
  have hsorted : (List.range' start (text.length + 1 - start)).Pairwise (· < ·) :=
    List.pairwise_lt_range'
  rw [hrange] at hsorted
  rcases List.mem_append.mp hearlier with hbefore | hlater
  · exact hbefore
  · rcases List.mem_cons.mp hlater with rfl | hafter
    · exact absurd hhigh (Nat.lt_irrefl _)
    · have hlt := (List.pairwise_cons.mp (List.pairwise_append.mp hsorted).2.1).1 _ hafter
      omega

theorem search_eq_none {r : Regex α γ} {text : List α} {start : Nat} :
    search r text start = none ↔
      ∀ position, start ≤ position → position ≤ text.length →
        matchAt r text position = none := by
  unfold search
  rw [List.findSome?_eq_none_iff]
  constructor
  · intro h position hlow hhigh
    exact h position (List.mem_range'_1.mpr ⟨hlow, by omega⟩)
  · intro h position hmem
    have hbounds := List.mem_range'_1.mp hmem
    exact h position hbounds.1 (by omega)

/-- Every match that `finditer` reports is one. -/
theorem matchesAt_of_mem_finditer {r : Regex α γ} {text : List α} {start : Nat}
    {found : Match α γ} (h : found ∈ finditer r text start) :
    MatchesAt r text found.start found.stop := by
  have hfrom : ∀ fuel start, found ∈ finditerFrom r text fuel start →
      MatchesAt r text found.start found.stop := by
    intro fuel
    induction fuel with
    | zero => intro start h; exact absurd h List.not_mem_nil
    | succ fuel ih =>
      intro start h
      unfold finditerFrom at h
      split at h
      · exact absurd h List.not_mem_nil
      · next first hfirst =>
        rcases List.mem_cons.mp h with rfl | hrest
        · exact (search_eq_some hfirst).2.1
        · exact ih _ hrest
  exact hfrom _ _ h

/-- `finditer` reports nothing exactly when nothing matches. -/
theorem finditer_eq_nil {r : Regex α γ} {text : List α} {start : Nat} :
    finditer r text start = [] ↔
      ∀ position stop, start ≤ position → ¬ MatchesAt r text position stop := by
  unfold finditer finditerFrom
  constructor
  · intro h position stop hstart hmatch
    split at h
    · next hnone =>
      have hposition := hmatch.bounds
      have hat := search_eq_none.mp hnone position hstart (by omega)
      have hsome := matchAt_isSome hmatch
      rw [hat] at hsome
      cases hsome
    · cases h
  · intro h
    split
    · rfl
    · next found hfound =>
      obtain ⟨hstart, hmatch, _⟩ := search_eq_some hfound
      exact absurd hmatch (h _ _ hstart)

/-- The position `finditer` goes on from after a match. -/
def Match.next (found : Match α γ) : Nat := max found.stop (found.start + 1)

theorem finditerFrom_pairwise {r : Regex α γ} {text : List α} :
    ∀ fuel start, (∀ found ∈ finditerFrom r text fuel start, start ≤ found.start) ∧
      (finditerFrom r text fuel start).Pairwise fun left right => left.next ≤ right.start := by
  intro fuel
  induction fuel with
  | zero => exact fun start => ⟨fun _ h => absurd h List.not_mem_nil, List.Pairwise.nil⟩
  | succ fuel ih =>
    intro start
    unfold finditerFrom
    split
    · exact ⟨fun _ h => absurd h List.not_mem_nil, List.Pairwise.nil⟩
    · next first hfirst =>
      have hstart := (search_eq_some hfirst).1
      obtain ⟨hrest, hpairwise⟩ := ih first.next
      refine ⟨?_, List.pairwise_cons.mpr ⟨hrest, hpairwise⟩⟩
      intro found hfound
      rcases List.mem_cons.mp hfound with rfl | hmem
      · exact hstart
      · have hlater := hrest found hmem
        have hpast : first.start + 1 ≤ first.next := Nat.le_max_right _ _
        omega

/-- Reported matches stand one after the other. -/
theorem finditer_pairwise (r : Regex α γ) (text : List α) (start : Nat) :
    (finditer r text start).Pairwise fun left right => left.next ≤ right.start :=
  (finditerFrom_pairwise _ _).2

/-- A match that is not reported starts inside one that is. -/
theorem exists_finditer_over {r : Regex α γ} {text : List α} {start position stop : Nat}
    (hstart : start ≤ position) (h : MatchesAt r text position stop) :
    ∃ found ∈ finditer r text start, found.start ≤ position ∧ position < found.next := by
  have hfrom : ∀ fuel start, start ≤ position → text.length < fuel + start →
      ∃ found ∈ finditerFrom r text fuel start,
        found.start ≤ position ∧ position < found.next := by
    intro fuel
    induction fuel with
    | zero =>
      intro start hle hfuel
      have hbounds := h.bounds
      omega
    | succ fuel ih =>
      intro start hle hfuel
      have hsome := matchAt_isSome h
      have hbounds := h.bounds
      unfold finditerFrom
      split
      · next hnone =>
        rw [search_eq_none.mp hnone position hle (by omega)] at hsome
        cases hsome
      · next first hfirst =>
        obtain ⟨hlow, _, _, hnone⟩ := search_eq_some hfirst
        have hfirstLe : first.start ≤ position := by
          by_contra hlt
          rw [hnone position hle (by omega)] at hsome
          cases hsome
        by_cases hinside : position < first.next
        · exact ⟨first, List.mem_cons_self, hfirstLe, hinside⟩
        · have hpast : first.start + 1 ≤ first.next := Nat.le_max_right _ _
          obtain ⟨found, hfound, hover⟩ := ih first.next (by omega) (by omega)
          exact ⟨found, List.mem_cons_of_mem _ hfound, hover⟩
  exact hfrom _ _ hstart (by omega)

/-- The last match, when none starts after it and none before it reaches over its start. -/
theorem getLast?_finditer {r : Regex α γ} {text : List α} {position stop : Nat}
    (h : MatchesAt r text position stop)
    (hlast : ∀ later end_, position < later → ¬ MatchesAt r text later end_)
    (hover : ∀ earlier end_, earlier < position → MatchesAt r text earlier end_ →
      end_ ≤ position) :
    ∃ found, (finditer r text 0).getLast? = some found ∧ found.start = position := by
  obtain ⟨found, hfound, hle, hinside⟩ := exists_finditer_over (Nat.zero_le _) h
  have hstart : found.start = position := by
    by_contra hne
    have hend := hover found.start found.stop (by omega) (matchesAt_of_mem_finditer hfound)
    unfold Match.next at hinside
    omega
  refine ⟨found, ?_, hstart⟩
  obtain ⟨before, after, hsplit⟩ := List.append_of_mem hfound
  have hsorted := finditer_pairwise r text 0
  have hafter : after = [] := by
    cases after with
    | nil => rfl
    | cons next after =>
      rw [hsplit] at hsorted
      have hnext := (List.pairwise_cons.mp (List.pairwise_append.mp hsorted).2.1).1 next
        List.mem_cons_self
      have hmem : next ∈ finditer r text 0 := by
        rw [hsplit]
        exact List.mem_append_right _ (List.mem_cons_of_mem _ List.mem_cons_self)
      exact absurd (matchesAt_of_mem_finditer hmem) (hlast _ _ (by omega))
  rw [hsplit, hafter, List.getLast?_append, List.getLast?_singleton, Option.some_or]

/-! ### Matches that are not empty -/

/-- The expression matches no empty text. -/
def Consumes (r : Regex α γ) : Prop := ∀ before after, ¬ Matches r before [] after

theorem consumes_one (test : α → Bool) : Consumes (one test : Regex α γ) := by
  intro before after h
  obtain ⟨c, hc, _⟩ := matches_one.mp h
  cases hc

theorem Consumes.seq_left {first second : Regex α γ} (h : Consumes first) :
    Consumes (seq first second) := by
  intro before after hmatch
  obtain ⟨left, right, hinside, hleft, _⟩ := matches_seq.mp hmatch
  rw [(List.append_eq_nil_iff.mp hinside.symm).1] at hleft
  exact h _ _ hleft

theorem Consumes.seq_right {first second : Regex α γ} (h : Consumes second) :
    Consumes (seq first second) := by
  intro before after hmatch
  obtain ⟨left, right, hinside, _, hright⟩ := matches_seq.mp hmatch
  rw [(List.append_eq_nil_iff.mp hinside.symm).2] at hright
  exact h _ _ hright

theorem Consumes.alt {first second : Regex α γ} (hfirst : Consumes first)
    (hsecond : Consumes second) : Consumes (alt first second) := by
  intro before after hmatch
  rcases matches_alt.mp hmatch with hleft | hright
  · exact hfirst _ _ hleft
  · exact hsecond _ _ hright

theorem Consumes.group {name : γ} {body : Regex α γ} (h : Consumes body) :
    Consumes (group name body) :=
  fun _ _ hmatch => h _ _ (matches_group.mp hmatch)

theorem Consumes.search {r : Regex α γ} (h : Consumes r) {text : List α} {start : Nat}
    {found : Match α γ} (hsearch : search r text start = some found) :
    start ≤ found.start ∧ found.start < found.stop ∧ found.stop ≤ text.length := by
  obtain ⟨hstart, hmatch, _⟩ := search_eq_some hsearch
  obtain ⟨hle, hbound⟩ := hmatch.bounds
  obtain ⟨before, inside, after, rfl, hbefore, hstop, hinside⟩ := hmatch
  refine ⟨hstart, ?_, hbound⟩
  cases inside with
  | nil => exact absurd hinside (h _ _)
  | cons c inside =>
    rw [List.length_cons] at hstop
    omega

/-! ### Greedy runs -/

/-- The first result of one step after the other. -/
theorem head?_flatMap {β δ : Type} {results : List β} {step : β → List δ} {first : β} {value : δ}
    (hfirst : results.head? = some first) (hvalue : (step first).head? = some value) :
    (results.flatMap step).head? = some value := by
  obtain ⟨rest, rfl⟩ := List.head?_eq_some_iff.mp hfirst
  obtain ⟨others, hothers⟩ := List.head?_eq_some_iff.mp hvalue
  rw [List.flatMap_cons, hothers]
  rfl

/-- A greedy run of characters first takes as many as there are. -/
theorem head?_run_star_one (test : α → Bool) (seen rest : List α) (groups : List (γ × List α)) :
    (run (star (one test)) ⟨seen, rest, groups⟩).head? =
      some ⟨(rest.takeWhile test).reverse ++ seen, rest.dropWhile test, groups⟩ := by
  change (rounds true (run (one test)) rest.length ⟨seen, rest, groups⟩).head? = _
  induction rest generalizing seen with
  | nil => rfl
  | cons c rest ih =>
    rw [List.length_cons, rounds, if_pos rfl, List.takeWhile_cons, List.dropWhile_cons]
    by_cases hc : test c = true
    · have hstep : run (one test) ⟨seen, c :: rest, groups⟩ = [⟨c :: seen, rest, groups⟩] :=
        if_pos hc
      have hlonger : [(⟨c :: seen, rest, groups⟩ : Cursor α γ)].filter
          (fun next => decide (next.rest.length < (c :: rest).length)) =
            [⟨c :: seen, rest, groups⟩] :=
        List.filter_cons_of_pos (decide_eq_true (Nat.lt_succ_self _))
      rw [hstep, hlonger, List.flatMap_cons, List.flatMap_nil, List.append_nil, List.head?_append,
        ih, if_pos hc, if_pos hc, Option.some_or, List.reverse_cons, List.append_assoc,
        List.singleton_append]
    · have hstep : run (one test) ⟨seen, c :: rest, groups⟩ = [] := if_neg hc
      rw [hstep, if_neg hc, if_neg hc]
      rfl

end Regex
