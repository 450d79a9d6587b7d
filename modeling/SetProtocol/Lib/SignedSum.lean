import Mathlib.Algebra.BigOperators.Group.List.Basic
import Mathlib.Algebra.Order.Ring.Int
import SetProtocol.Lib.Checked

set_option relaxedAutoImplicit false
set_option autoImplicit false

/-!
# Sums split by sign

A sum of integers is what its positive terms add up to, less what the others take away. This file
has the two parts, and shows that a loop of additions that revert on overflow returns the sum when
the two parts fit: all its partial sums lie between them.

## Main definitions

* `SignedSum.positives`, `SignedSum.others` — the sums of the positive terms and of the others.

## Main results

* `SignedSum.positives_add_others` — the two parts make up the sum.
* `SignedSum.foldlM_eq_ok` — the loop of additions.
-/

namespace SignedSum

open Checked

/-- The sum of the positive terms. -/
def positives (l : List ℤ) : ℤ := (l.filter fun x => 0 < x).sum

/-- The sum of the terms that are not positive. -/
def others (l : List ℤ) : ℤ := (l.filter fun x => x ≤ 0).sum

variable {x : ℤ} {l : List ℤ}

@[simp] theorem positives_nil : positives [] = 0 := rfl

@[simp] theorem others_nil : others [] = 0 := rfl

theorem positives_cons_of_pos (hx : 0 < x) : positives (x :: l) = x + positives l := by
  simp [positives, hx]

theorem positives_cons_of_nonpos (hx : x ≤ 0) : positives (x :: l) = positives l := by
  have hnot : ¬0 < x := by omega
  simp [positives, hnot]

theorem others_cons_of_pos (hx : 0 < x) : others (x :: l) = others l := by
  have hnot : ¬x ≤ 0 := by omega
  simp [others, hnot]

theorem others_cons_of_nonpos (hx : x ≤ 0) : others (x :: l) = x + others l := by
  simp [others, hx]

/-- The positive terms add up to no negative number. -/
theorem positives_nonneg (l : List ℤ) : 0 ≤ positives l := by
  induction l with
  | nil => simp
  | cons x l ih =>
    rcases lt_or_ge 0 x with hx | hx
    · rw [positives_cons_of_pos hx]
      omega
    · rwa [positives_cons_of_nonpos hx]

/-- The other terms add up to no positive number. -/
theorem others_nonpos (l : List ℤ) : others l ≤ 0 := by
  induction l with
  | nil => simp
  | cons x l ih =>
    rcases lt_or_ge 0 x with hx | hx
    · rwa [others_cons_of_pos hx]
    · rw [others_cons_of_nonpos hx]
      omega

/-- The two parts make up the sum. -/
theorem positives_add_others (l : List ℤ) : positives l + others l = l.sum := by
  induction l with
  | nil => simp
  | cons x l ih =>
    rw [List.sum_cons]
    rcases lt_or_ge 0 x with hx | hx
    · rw [positives_cons_of_pos hx, others_cons_of_pos hx]
      omega
    · rw [positives_cons_of_nonpos hx, others_cons_of_nonpos hx]
      omega

/-- Where all terms are positive there are no others. -/
theorem others_eq_zero (h : ∀ x ∈ l, 0 < x) : others l = 0 := by
  induction l with
  | nil => simp
  | cons x l ih =>
    obtain ⟨hx, hl⟩ := List.forall_mem_cons.mp h
    rw [others_cons_of_pos hx, ih hl]

/-- A loop of additions returns the sum when both parts, added to the initial value, are within the
bounds under which an addition does not revert. -/
theorem foldlM_eq_ok {ε : Type*} {lo hi : ℤ} {add : ℤ → ℤ → Except ε ℤ}
    (hadd : ∀ a b, lo ≤ a + b → a + b ≤ hi → add a b = .ok (a + b)) (l : List ℤ) {a : ℤ}
    (hlo : lo ≤ a + others l) (hhi : a + positives l ≤ hi) :
    l.foldlM add a = .ok (a + l.sum) := by
  induction l generalizing a with
  | nil => simp [pure, Except.pure]
  | cons x l ih =>
    have hpositives := positives_nonneg l
    have hothers := others_nonpos l
    -- the partial sum and what is still to come stay between the two parts
    have hround : lo ≤ a + x ∧ a + x ≤ hi ∧ lo ≤ a + x + others l ∧ a + x + positives l ≤ hi := by
      rcases lt_or_ge 0 x with hx | hx
      · rw [others_cons_of_pos hx] at hlo
        rw [positives_cons_of_pos hx] at hhi
        omega
      · rw [others_cons_of_nonpos hx] at hlo
        rw [positives_cons_of_nonpos hx] at hhi
        omega
    obtain ⟨hlow, hhigh, hlo, hhi⟩ := hround
    refine foldlM_cons_eq_ok.mpr ⟨a + x, hadd a x hlow hhigh, ?_⟩
    rw [ih hlo hhi, List.sum_cons, Int.add_assoc]

end SignedSum
