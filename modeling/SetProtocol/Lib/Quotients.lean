import Mathlib.Algebra.Order.Floor.Ring
import Mathlib.Algebra.Order.Floor.Semifield
import Mathlib.Algebra.Order.Floor.Semiring
import Mathlib.Data.Int.DivMod
import Mathlib.Data.Nat.Cast.Order.Field
import Mathlib.Tactic.FieldSimp
import SetProtocol.Lib.Rounding

set_option relaxedAutoImplicit false
set_option autoImplicit false

/-!
# Exact quotients and their roundings

Integer division against division in an ordered field: the quotients rounded down and up are the
floor and the ceiling of the exact quotient, and the one rounded towards zero is the one or the
other.

## Main results

* `Rounding.floor_div_eq_fdiv` — the floor of an exact quotient of integers.
* `Rounding.ceil_div_eq_ceilDiv` — the ceiling of an exact quotient of natural numbers.
* `Rounding.scaled_product_bounds`, `scaled_quotient_bounds` — products scaled down.
* `Rounding.tdiv_le_add_ite`, `div_le_tdiv_add_ite` — quotients rounded towards zero.
* `Rounding.sum_map_le_add_countP` — how the errors of the terms of a sum add up.
-/

namespace Rounding

section Field

variable {K : Type*} [Field K] [LinearOrder K] [IsStrictOrderedRing K]

/-! ## Quotients rounded down and up -/

section Floor

variable [FloorRing K]

/-- For a positive divisor the floor is the Euclidean quotient. -/
private theorem floor_div_of_pos {a b : ℤ} (hb : 0 < b) : ⌊(a : K) / b⌋ = a / b := by
  have hb' : (0 : K) < b := Int.cast_pos.mpr hb
  rw [Int.floor_eq_iff, le_div_iff₀ hb', div_lt_iff₀ hb']
  have hle := Int.ediv_mul_le a hb.ne'
  have hlt := Int.lt_ediv_add_one_mul_self a hb
  exact ⟨by exact_mod_cast hle, by exact_mod_cast hlt⟩

/-- The floor of an exact quotient, of any signs, is the quotient rounded down. -/
theorem floor_div_eq_fdiv (a b : ℤ) : ⌊(a : K) / b⌋ = a.fdiv b := by
  rcases lt_trichotomy b 0 with hneg | rfl | hpos
  · have hpos : 0 < -b := Int.neg_pos_of_neg hneg
    have h := floor_div_of_pos (K := K) (a := -a) hpos
    rw [Int.cast_neg, Int.cast_neg, neg_div_neg_eq] at h
    rw [h, ← Int.fdiv_eq_ediv_of_nonneg (-a) hpos.le, Int.neg_fdiv_neg]
  · simp
  · rw [floor_div_of_pos hpos, Int.fdiv_eq_ediv_of_nonneg a hpos.le]

/-- The ceiling of an exact quotient is the quotient rounded up. -/
theorem ceil_div_eq_ceilDiv (a : ℕ) {d : ℕ} (hd : 0 < d) : ⌈(a : K) / d⌉₊ = a ⌈/⌉ d := by
  have hd' : (0 : K) < d := Nat.cast_pos.mpr hd
  refine eq_of_forall_ge_iff fun c => ?_
  rw [Nat.ceil_le, div_le_iff₀ hd', ceilDiv_le_iff hd]
  exact_mod_cast Iff.rfl

/-! ## Scaled products

A quantity is scaled to whole tokens, then to a price, and then to a part of the supply. -/

/-- A quotient of natural numbers is at most one below the exact one. -/
theorem div_sub_one_le (n k : ℕ) : (n : K) / k - 1 ≤ (n / k : ℕ) := by
  rw [← Nat.floor_div_eq_div (K := K)]
  exact (Nat.sub_one_lt_floor _).le

/-- Scaling down to whole tokens, and then to a price, rounds twice. -/
theorem scaled_product_bounds (r b p : ℕ) {d : ℕ} (hd : 0 < d) :
    (r : K) / b * p - p / d - 1 ≤ (r * d / b * p / d : ℕ) ∧
      ((r * d / b * p / d : ℕ) : K) ≤ r / b * p := by
  have hd' : (0 : K) < d := Nat.cast_pos.mpr hd
  have hp : (0 : K) ≤ p / d := div_nonneg (Nat.cast_nonneg p) hd'.le
  have hscale : (r : K) / b * p = (r * d : ℕ) / b * (p / d) := by
    rw [Nat.cast_mul]
    field_simp
  have hproduct : ((r * d / b * p : ℕ) : K) / d = (r * d / b : ℕ) * (p / d) := by
    rw [Nat.cast_mul]
    ring
  constructor
  · have hwhole := mul_le_mul_of_nonneg_right (div_sub_one_le (K := K) (r * d) b) hp
    have hprice := div_sub_one_le (K := K) (r * d / b * p) d
    rw [hproduct] at hprice
    rw [hscale]
    linarith
  · calc ((r * d / b * p / d : ℕ) : K) ≤ (r * d / b * p : ℕ) / d := Nat.cast_div_le
      _ = (r * d / b : ℕ) * (p / d) := hproduct
      _ ≤ (r * d : ℕ) / b * (p / d) := mul_le_mul_of_nonneg_right Nat.cast_div_le hp
      _ = r / b * p := hscale.symm

/-- A product with a quotient, rounded down. -/
theorem scaled_quotient_bounds (n d s : ℕ) :
    (n : K) * (d / s) - 1 ≤ (n * d / s : ℕ) ∧ ((n * d / s : ℕ) : K) ≤ n * (d / s) := by
  have hexact : (n : K) * (d / s) = (n * d : ℕ) / s := by
    rw [Nat.cast_mul]
    ring
  rw [hexact]
  exact ⟨div_sub_one_le _ _, Nat.cast_div_le⟩

end Floor

/-! ## Quotients rounded towards zero -/

/-- A quotient rounded towards zero exceeds the exact one for a negative numerator only, and by
no more than one. -/
theorem tdiv_le_add_ite (a : ℤ) {d : ℤ} (hd : 0 < d) :
    ((a.tdiv d : ℤ) : K) ≤ a / d + if a < 0 then 1 else 0 := by
  have hd' : (0 : K) < d := Int.cast_pos.mpr hd
  have hsplit := Int.tdiv_mul_add_tmod a d
  split_ifs with ha
  · have hmod := Int.lt_tmod_of_pos a hd
    have hmul : (a.tdiv d - 1) * d ≤ a := by
      rw [Int.sub_mul]
      omega
    rw [← sub_le_iff_le_add, le_div_iff₀ hd']
    exact_mod_cast hmul
  · have hmod := Int.tmod_nonneg (a := a) d (by omega)
    have hmul : a.tdiv d * d ≤ a := by omega
    rw [add_zero, le_div_iff₀ hd']
    exact_mod_cast hmul

/-- It falls short of the exact one for a positive numerator only, and by no more than one. -/
theorem div_le_tdiv_add_ite (a : ℤ) {d : ℤ} (hd : 0 < d) :
    (a : K) / d ≤ (a.tdiv d : ℤ) + if 0 < a then 1 else 0 := by
  have h := tdiv_le_add_ite (K := K) (-a) hd
  rw [Int.neg_tdiv, Int.cast_neg, Int.cast_neg, neg_div] at h
  simp only [Int.neg_lt_zero_iff] at h
  linarith

/-! ## Sums of quotients -/

variable {α : Type*} {l : List α} {f g : α → K} {p : α → Prop} [DecidablePred p]

/-- Terms that exceed others by at most one, and only where they are marked, have a sum that exceeds
the others by at most the number of marks. -/
theorem sum_map_le_add_countP (h : ∀ x ∈ l, f x ≤ g x + if p x then 1 else 0) :
    (l.map f).sum ≤ (l.map g).sum + l.countP p := by
  induction l with
  | nil => simp
  | cons x l ih =>
    obtain ⟨hx, hl⟩ := List.forall_mem_cons.mp h
    have hsum := ih hl
    rw [List.map_cons, List.map_cons, List.sum_cons, List.sum_cons, List.countP_cons, Nat.cast_add,
      Nat.cast_ite, Nat.cast_one, Nat.cast_zero]
    simp only [decide_eq_true_eq]
    linarith

end Field

end Rounding
