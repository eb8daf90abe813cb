import R2opl.Lib.Checked
import Mathlib.Algebra.Order.Ring.Int

/-!
# Search for the longest candidate that fits

A binary search over candidates of growing length.  Each length is tried at most once,
and the last candidate that fitted is returned.  What is returned always fits; when
every length below a fitting one fits, it is the longest one.
-/

namespace LongestFit

open Checked

variable {ε α : Type}

/-- `while low <= high`, with the best candidate so far.  `attempt` returns the candidate
    of a length and whether it fits. -/
def search (attempt : Int → Except ε (α × Bool)) (best : α) (low high : Int) : Except ε α :=
  if low ≤ high then do
    let middle := (low + high) / 2
    let (candidate, fits) ← attempt middle
    if fits then search attempt candidate (middle + 1) high
    else search attempt best low (middle - 1)
  else return best
termination_by (high + 1 - low).toNat
decreasing_by all_goals omega

variable {attempt : Int → Except ε (α × Bool)} {candidate : Int → α} {fits : Int → Bool}

theorem search_step {best : α} {low high : Int} (hmore : low ≤ high) {tried : α} {fit : Bool}
    (hattempt : attempt ((low + high) / 2) = .ok (tried, fit)) :
    search attempt best low high =
      if fit then search attempt tried ((low + high) / 2 + 1) high
      else search attempt best low ((low + high) / 2 - 1) := by
  rw [search, if_pos hmore]
  simp only [hattempt, ok_bind]

/-- The lengths up to which a fitting length makes every shorter one fit. -/
def DownwardClosed (fits : Int → Bool) (low high : Int) : Prop :=
  ∀ shorter longer, low ≤ shorter → shorter ≤ longer → longer ≤ high → fits longer = true →
    fits shorter = true

/-- The search starts from a fitting length `start` and returns a fitting length; under
    monotonicity nothing longer fits. -/
theorem search_spec {start low high : Int}
    (hattempt : ∀ k, low ≤ k → k ≤ high → attempt k = .ok (candidate k, fits k))
    (hstart : fits start = true) (hlow : start ≤ low) :
    ∃ k, search attempt (candidate start) low high = .ok (candidate k) ∧ fits k = true ∧
      start ≤ k ∧ (k = start ∨ k ≤ high) ∧
      (DownwardClosed fits low high →
        ∀ longer, low ≤ longer → longer ≤ high → fits longer = true → longer ≤ k) := by
  by_cases hmore : low ≤ high
  · rw [search_step hmore (hattempt _ (by omega) (by omega))]
    cases hfits : fits ((low + high) / 2) with
    | true =>
      have hrest : ∀ k, (low + high) / 2 + 1 ≤ k → k ≤ high →
          attempt k = .ok (candidate k, fits k) := by
        intro k hk
        exact hattempt k (by omega)
      obtain ⟨k, hsearch, hk, hmiddle, hbound, hgreatest⟩ :=
        search_spec hrest hfits (by omega)
      refine ⟨k, hsearch, hk, by omega, by omega, ?_⟩
      intro hclosed longer hlonger hhigh hfit
      by_cases hpast : (low + high) / 2 + 1 ≤ longer
      · apply hgreatest _ longer hpast hhigh hfit
        intro shorter other hshorter
        exact hclosed shorter other (by omega)
      · omega
    | false =>
      have hrest : ∀ k, low ≤ k → k ≤ (low + high) / 2 - 1 →
          attempt k = .ok (candidate k, fits k) := by
        intro k hk hhigh
        exact hattempt k hk (by omega)
      obtain ⟨k, hsearch, hk, hbest, hbound, hgreatest⟩ := search_spec hrest hstart hlow
      refine ⟨k, hsearch, hk, hbest, by omega, ?_⟩
      intro hclosed longer hlonger hhigh hfit
      -- a fitting length from the middle on would make the middle fit
      have hbefore : longer ≤ (low + high) / 2 - 1 := by
        by_contra hpast
        have hmiddle := hclosed ((low + high) / 2) longer (by omega) (by omega) hhigh hfit
        rw [hfits] at hmiddle
        cases hmiddle
      apply hgreatest _ longer hlonger hbefore hfit
      intro shorter other hshorter hle hother
      exact hclosed shorter other hshorter hle (by omega)
  · rw [search, if_neg hmore]
    refine ⟨start, rfl, hstart, le_refl start, .inl rfl, ?_⟩
    intro _ longer hlonger hhigh
    omega
termination_by (high + 1 - low).toNat
decreasing_by all_goals omega

end LongestFit
