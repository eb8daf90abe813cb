import Mathlib.Algebra.BigOperators.Group.List.Basic
import Mathlib.Algebra.Order.Ring.Int

/-!
# Bracket matching

A text seen as opening marks, closing marks and others.  Counting from an opening mark on,
the mark that closes it is the one after a balanced stretch.
-/

namespace Brackets

inductive Mark where
  | opening
  | closing
  | other
deriving DecidableEq, Repr

def Mark.weight : Mark → Int
  | .opening => 1
  | .closing => -1
  | .other => 0

/-- How many marks are opened and not closed. -/
def depth (marks : List Mark) : Int := (marks.map Mark.weight).sum

@[simp] theorem depth_nil : depth [] = 0 := rfl

@[simp] theorem depth_cons (mark : Mark) (marks : List Mark) :
    depth (mark :: marks) = mark.weight + depth marks := by
  simp [depth]

@[simp] theorem depth_append (left right : List Mark) :
    depth (left ++ right) = depth left + depth right := by
  simp [depth]

/-- No prefix closes more than it opens, and the whole opens as much as it closes. -/
structure Balanced (marks : List Mark) : Prop where
  settled : depth marks = 0
  sane : ∀ start, start <+: marks → 0 ≤ depth start

theorem Balanced.append {left right : List Mark} (hleft : Balanced left)
    (hright : Balanced right) : Balanced (left ++ right) where
  settled := by
    rw [depth_append, hleft.settled, hright.settled]
    rfl
  sane := by
    intro start hstart
    rcases List.prefix_or_prefix_of_prefix hstart (List.prefix_append left right) with hpre | hpre
    · exact hleft.sane start hpre
    · obtain ⟨rest, rfl⟩ := hpre
      rw [depth_append, hleft.settled, Int.zero_add]
      exact hright.sane rest ((List.prefix_append_right_inj left).mp hstart)

/-- Marks that open or close nothing are balanced. -/
theorem balanced_of_other {marks : List Mark} (h : ∀ mark ∈ marks, mark = .other) :
    Balanced marks := by
  have hdepth : ∀ start, start ⊆ marks → depth start = 0 := by
    intro start hstart
    induction start with
    | nil => rfl
    | cons mark start ih =>
      obtain ⟨hmark, hrest⟩ := List.cons_subset.mp hstart
      rw [depth_cons, h mark hmark, ih hrest]
      rfl
  exact ⟨hdepth marks fun _ hmark => hmark, fun start hstart => (hdepth start hstart.subset).ge⟩

theorem Balanced.enclose {inner : List Mark} (h : Balanced inner) :
    Balanced (.opening :: (inner ++ [.closing])) where
  settled := by
    rw [depth_cons, depth_append, h.settled]
    rfl
  sane := by
    intro start hstart
    cases start with
    | nil => exact le_refl 0
    | cons mark start =>
      obtain ⟨rfl, hrest⟩ := List.cons_prefix_cons.mp hstart
      rw [depth_cons]
      rcases List.prefix_concat_iff.mp hrest with rfl | hpre
      · rw [depth_append, h.settled]
        decide
      · exact add_nonneg (by decide) (h.sane start hpre)

/-- The index of the mark that closes the last of `level` open ones. -/
def closeIndex : Nat → List Mark → Option Nat
  | _, [] => none
  | level, .opening :: rest => (closeIndex (level + 1) rest).map (· + 1)
  | level, .closing :: rest =>
      if level ≤ 1 then some 0 else (closeIndex (level - 1) rest).map (· + 1)
  | level, .other :: rest => (closeIndex level rest).map (· + 1)

/-- `inner` closes `level` marks that were open before it, and no more. -/
def Closes (level : Nat) (inner : List Mark) : Prop :=
  depth inner = -level ∧ ∀ start, start <+: inner → -(level : Int) ≤ depth start

theorem closes_nil {level : Nat} : Closes level [] ↔ level = 0 := by
  unfold Closes
  constructor
  · rintro ⟨hdepth, _⟩
    rw [depth_nil] at hdepth
    omega
  · rintro rfl
    refine ⟨rfl, ?_⟩
    intro start hstart
    rw [List.prefix_nil.mp hstart]
    exact Int.le_refl _

theorem closes_cons {level : Nat} {mark : Mark} {inner : List Mark} :
    Closes level (mark :: inner) ↔
      ∃ next : Nat, (next : Int) = level + mark.weight ∧ Closes next inner := by
  unfold Closes
  constructor
  · rintro ⟨hdepth, hsane⟩
    have hfirst := hsane [mark] (List.prefix_append [mark] inner)
    rw [depth_cons, depth_nil, Int.add_zero] at hfirst
    rw [depth_cons] at hdepth
    refine ⟨(level + mark.weight).toNat, by omega, by omega, ?_⟩
    intro start hstart
    have hle := hsane (mark :: start) (List.cons_prefix_cons.mpr ⟨rfl, hstart⟩)
    rw [depth_cons] at hle
    omega
  · rintro ⟨next, hnext, hdepth, hsane⟩
    refine ⟨by rw [depth_cons]; omega, ?_⟩
    intro start hstart
    rcases List.prefix_cons_iff.mp hstart with rfl | ⟨tail, rfl, htail⟩
    · rw [depth_nil]
      omega
    · have hle := hsane tail htail
      rw [depth_cons]
      omega

theorem closes_zero {inner : List Mark} : Closes 0 inner ↔ Balanced inner := by
  constructor
  · rintro ⟨hdepth, hsane⟩
    exact ⟨by simpa using hdepth, fun start hstart => by simpa using hsane start hstart⟩
  · rintro ⟨hdepth, hsane⟩
    exact ⟨by simpa using hdepth, fun start hstart => by simpa using hsane start hstart⟩

theorem closeIndex_succ_eq_some {marks : List Mark} :
    ∀ {level index : Nat}, closeIndex (level + 1) marks = some index ↔
      ∃ inner rest, marks = inner ++ .closing :: rest ∧ inner.length = index ∧
        Closes level inner := by
  induction marks with
  | nil =>
    intro level index
    unfold closeIndex
    constructor
    · intro h
      cases h
    · rintro ⟨inner, rest, h, _⟩
      exact absurd h.symm (List.append_ne_nil_of_right_ne_nil _ (List.cons_ne_nil _ _))
  | cons mark marks ih =>
    intro level index
    -- one mark further, with the level it leaves open
    have hstep : ∀ next : Nat, (next : Int) = level + mark.weight →
        ((closeIndex (next + 1) marks).map (· + 1) = some index ↔
          ∃ inner rest, marks = inner ++ .closing :: rest ∧ inner.length + 1 = index ∧
            Closes level (mark :: inner)) := by
      intro next hnext
      rw [Option.map_eq_some_iff]
      constructor
      · rintro ⟨found, hfound, rfl⟩
        obtain ⟨inner, rest, hmarks, hlength, hcloses⟩ := ih.mp hfound
        exact ⟨inner, rest, hmarks, congrArg (· + 1) hlength,
          closes_cons.mpr ⟨next, hnext, hcloses⟩⟩
      · rintro ⟨inner, rest, hmarks, hlength, hcloses⟩
        obtain ⟨other, hother, hinner⟩ := closes_cons.mp hcloses
        obtain rfl : other = next := by omega
        exact ⟨inner.length, ih.mpr ⟨inner, rest, hmarks, rfl, hinner⟩, hlength⟩
    -- a stretch before the closing mark is empty or starts with this mark
    have hsplit : (∃ inner rest, mark :: marks = inner ++ .closing :: rest ∧
          inner.length = index ∧ Closes level inner) ↔
        (mark = .closing ∧ level = 0 ∧ index = 0) ∨
          ∃ inner rest, marks = inner ++ .closing :: rest ∧ inner.length + 1 = index ∧
            Closes level (mark :: inner) := by
      constructor
      · rintro ⟨inner, rest, hmarks, hlength, hcloses⟩
        cases inner with
        | nil =>
          exact Or.inl ⟨(List.cons.inj hmarks).1, closes_nil.mp hcloses, hlength.symm⟩
        | cons first inner =>
          obtain ⟨rfl, htail⟩ := List.cons.inj hmarks
          exact Or.inr ⟨inner, rest, htail, hlength, hcloses⟩
      · rintro (⟨rfl, rfl, rfl⟩ | ⟨inner, rest, rfl, hlength, hcloses⟩)
        · exact ⟨[], marks, rfl, rfl, closes_nil.mpr rfl⟩
        · exact ⟨mark :: inner, rest, rfl, hlength, hcloses⟩
    rw [hsplit]
    cases mark with
    | opening =>
      unfold closeIndex
      rw [hstep (level + 1) (by simp [Mark.weight])]
      simp
    | other =>
      unfold closeIndex
      rw [hstep level (by simp [Mark.weight])]
      simp
    | closing =>
      unfold closeIndex
      by_cases hlevel : level = 0
      · subst hlevel
        have hnone : ¬ ∃ inner rest, marks = inner ++ Mark.closing :: rest ∧
            inner.length + 1 = index ∧ Closes 0 (Mark.closing :: inner) := by
          rintro ⟨inner, rest, _, _, hcloses⟩
          obtain ⟨next, hnext, _⟩ := closes_cons.mp hcloses
          simp only [Mark.weight] at hnext
          omega
        simp only [hnone, or_false, true_and]
        constructor
        · intro h
          exact (Option.some.inj h).symm
        · rintro rfl
          rfl
      · obtain ⟨level, rfl⟩ := Nat.exists_eq_succ_of_ne_zero hlevel
        rw [if_neg (by omega), show level.succ + 1 - 1 = level + 1 from rfl,
          hstep level (by simp [Mark.weight])]
        simp

/-- The mark found is the one after a balanced stretch. -/
theorem closeIndex_one_eq_some {marks : List Mark} {index : Nat} :
    closeIndex 1 marks = some index ↔
      ∃ inner rest, marks = inner ++ .closing :: rest ∧ inner.length = index ∧
        Balanced inner := by
  rw [show (1 : Nat) = 0 + 1 from rfl, closeIndex_succ_eq_some]
  simp only [closes_zero]

theorem balanced_iff_closeIndex {marks : List Mark} :
    Balanced marks ↔ closeIndex 1 (marks ++ [.closing]) = some marks.length := by
  rw [closeIndex_one_eq_some]
  constructor
  · intro h
    exact ⟨marks, [], rfl, rfl, h⟩
  · rintro ⟨inner, rest, hmarks, hlength, hbalanced⟩
    rw [(List.append_inj hmarks hlength.symm).1]
    exact hbalanced

instance : DecidablePred Balanced := fun _ => decidable_of_iff _ balanced_iff_closeIndex.symm

end Brackets
