import Mathlib.Data.Int.Bitwise
import SetProtocol.Lib.Rounding
import SetProtocol.Math.SafeMath

set_option relaxedAutoImplicit false
set_option autoImplicit false

/-!
# Fixed-point arithmetic with 18 decimals

`contracts/lib/PreciseUnitMath.sol`: products and quotients in units of `10 ^ 18`, rounded down,
up or towards zero. The overloads on `int256` carry the suffix `Int`.

## Main definitions

* `SetProtocol.preciseUnit` — the number one.
* `SetProtocol.PreciseUnitMath.preciseMul`, `preciseMulCeil`, `preciseDiv`, `preciseDivCeil` —
  the operations on `uint256`.
* `SetProtocol.PreciseUnitMath.divDown`, `conservativePreciseMul`, `conservativePreciseDiv` —
  the operations on `int256` that round to the lesser number.

## Main results

* `SetProtocol.PreciseUnitMath.preciseMulCeil_eq_ok`, `preciseDivCeil_eq_ok` — the subtraction
  and the addition of one around a division compute the ceiling.
* `SetProtocol.PreciseUnitMath.divDown_eq_ok` — `divDown` is the floor of the exact quotient.

## Implementation notes

`divDown` reads the sign of `a ^ b`. `Int.xor` works on two's complement numbers without an end,
where the sign bit of an `int256` repeats for ever, so it has the sign of the 256-bit operation.
-/

namespace SetProtocol

open Checked

/-- `PreciseUnitMath.preciseUnit()`, the number one. -/
def preciseUnit : ℕ := 10 ^ 18

/-- `PreciseUnitMath.preciseUnitInt()`, the number one as an `int256`. -/
def preciseUnitInt : ℤ := 10 ^ 18

theorem preciseUnit_pos : 0 < preciseUnit := by decide

theorem preciseUnitInt_pos : 0 < preciseUnitInt := by decide

theorem natCast_preciseUnit : (preciseUnit : ℤ) = preciseUnitInt := by decide

namespace PreciseUnitMath

/-! ## Unsigned operations -/

/-- `maxUint256`. -/
def maxUint256 : ℕ := 2 ^ 256 - 1

/-- `preciseMul(uint256, uint256)`, rounded down. -/
def preciseMul (a b : ℕ) : Except Revert ℕ := do
  SafeMath.div (← SafeMath.mul a b) preciseUnit

/-- `preciseMulCeil`, rounded up. -/
def preciseMulCeil (a b : ℕ) : Except Revert ℕ :=
  if a = 0 ∨ b = 0 then .ok 0
  else do
    let product ← SafeMath.mul a b
    let quotient ← SafeMath.div (← SafeMath.sub product 1) preciseUnit
    SafeMath.add quotient 1

/-- `preciseDiv(uint256, uint256)`, rounded down. -/
def preciseDiv (a b : ℕ) : Except Revert ℕ := do
  SafeMath.div (← SafeMath.mul a preciseUnit) b

/-- `preciseDivCeil`, rounded up. -/
def preciseDivCeil (a b : ℕ) : Except Revert ℕ := do
  require (b ≠ 0) "Cant divide by 0"
  if 0 < a then do
    let product ← SafeMath.mul a preciseUnit
    let quotient ← SafeMath.div (← SafeMath.sub product 1) b
    SafeMath.add quotient 1
  else .ok 0

/-- `preciseMul` is the product rounded down. -/
@[simp] theorem preciseMul_eq_ok {a b c : ℕ} :
    preciseMul a b = .ok c ↔ InUint256 (a * b) ∧ a * b / preciseUnit = c := by
  simp [preciseMul, preciseUnit_pos]

/-- `preciseDiv` is the quotient rounded down. -/
@[simp] theorem preciseDiv_eq_ok {a b c : ℕ} :
    preciseDiv a b = .ok c ↔ InUint256 (a * preciseUnit) ∧ 0 < b ∧ a * preciseUnit / b = c := by
  simp [preciseDiv]

/-- Subtract one, divide, add one: a ceiling that never overflows. -/
private theorem ceil_eq_ok {n d c : ℕ} (hn : 0 < n) (hd : 0 < d) :
    (∃ p, (InUint256 n ∧ n = p) ∧ ∃ m, (1 ≤ p ∧ p - 1 = m) ∧
      ∃ q, (0 < d ∧ m / d = q) ∧ InUint256 (q + 1) ∧ q + 1 = c) ↔
      InUint256 n ∧ n ⌈/⌉ d = c := by
  have hq : (n - 1) / d + 1 ≤ n := by
    have := Nat.div_le_self (n - 1) d
    omega
  constructor
  · rintro ⟨p, ⟨hp, rfl⟩, m, ⟨-, rfl⟩, q, ⟨-, rfl⟩, -, rfl⟩
    exact ⟨hp, (Rounding.pred_div_succ hn hd).symm⟩
  · rintro ⟨hp, rfl⟩
    exact ⟨n, ⟨hp, rfl⟩, n - 1, ⟨hn, rfl⟩, (n - 1) / d, ⟨hd, rfl⟩,
      Nat.lt_of_le_of_lt hq hp, Rounding.pred_div_succ hn hd⟩

/-- `preciseMulCeil` is the product rounded up. -/
@[simp] theorem preciseMulCeil_eq_ok {a b c : ℕ} :
    preciseMulCeil a b = .ok c ↔ InUint256 (a * b) ∧ (a * b) ⌈/⌉ preciseUnit = c := by
  unfold preciseMulCeil
  split
  · next h =>
    have h0 : a * b = 0 := Nat.mul_eq_zero.mpr h
    rw [h0]
    simp [InUint256]
  · next h =>
    have hpos : 0 < a * b := Nat.pos_of_ne_zero fun h0 => h (Nat.mul_eq_zero.mp h0)
    simp only [bind_eq_ok, SafeMath.mul_eq_ok, SafeMath.sub_eq_ok, SafeMath.div_eq_ok,
      SafeMath.add_eq_ok]
    exact ceil_eq_ok hpos preciseUnit_pos

/-- `preciseDivCeil` is the quotient rounded up. -/
@[simp] theorem preciseDivCeil_eq_ok {a b c : ℕ} :
    preciseDivCeil a b = .ok c ↔
      0 < b ∧ InUint256 (a * preciseUnit) ∧ (a * preciseUnit) ⌈/⌉ b = c := by
  unfold preciseDivCeil
  rcases Nat.eq_zero_or_pos b with rfl | hb
  · simp
  rcases Nat.eq_zero_or_pos a with rfl | ha
  · simp [InUint256, hb, hb.ne']
  · have hpos : 0 < a * preciseUnit := Nat.mul_pos ha preciseUnit_pos
    have hceil := ceil_eq_ok (c := c) hpos hb
    simp only [bind_eq_ok, require_eq_ok, ha, if_true, SafeMath.mul_eq_ok, SafeMath.sub_eq_ok,
      SafeMath.div_eq_ok, SafeMath.add_eq_ok, hceil]
    simp [hb, hb.ne']

/-! ## Signed operations -/

/-- `preciseMul(int256, int256)`, rounded towards zero. -/
def preciseMulInt (a b : ℤ) : Except Revert ℤ := do
  SignedSafeMath.div (← SignedSafeMath.mul a b) preciseUnitInt

/-- `preciseDiv(int256, int256)`, rounded towards zero. -/
def preciseDivInt (a b : ℤ) : Except Revert ℤ := do
  SignedSafeMath.div (← SignedSafeMath.mul a preciseUnitInt) b

/-- `divDown`, rounded to the lesser number. -/
def divDown (a b : ℤ) : Except Revert ℤ := do
  require (b ≠ 0) "Cant divide by 0"
  require (a ≠ minInt256 ∨ b ≠ -1) "Invalid input"
  let result ← SignedSafeMath.div a b
  -- the operands have opposite signs and the division is not exact
  if Int.xor a b < 0 ∧ a.tmod b ≠ 0 then return wrapInt256 (result - 1)
  return result

/-- `conservativePreciseMul`, rounded to the lesser number. -/
def conservativePreciseMul (a b : ℤ) : Except Revert ℤ := do
  divDown (← SignedSafeMath.mul a b) preciseUnitInt

/-- `conservativePreciseDiv`, rounded to the lesser number. -/
def conservativePreciseDiv (a b : ℤ) : Except Revert ℤ := do
  divDown (← SignedSafeMath.mul a preciseUnitInt) b

/-- The sign of the exclusive or tells whether the signs differ. -/
theorem xor_neg_iff (a b : ℤ) : Int.xor a b < 0 ↔ (a < 0 ↔ 0 ≤ b) := by
  rcases a with a | a <;> rcases b with b | b <;> simp only [Int.xor, Int.ofNat_eq_natCast]
  · have := Int.natCast_nonneg (a ^^^ b)
    omega
  · have := Int.negSucc_lt_zero (a ^^^ b)
    have := Int.negSucc_lt_zero b
    omega
  · have := Int.negSucc_lt_zero (a ^^^ b)
    have := Int.negSucc_lt_zero a
    omega
  · have := Int.natCast_nonneg (a ^^^ b)
    have := Int.negSucc_lt_zero a
    have := Int.negSucc_lt_zero b
    omega

/-- The floor is the truncated quotient, less one where the signs differ and the division is not
exact. -/
theorem fdiv_eq_tdiv_sub (a b : ℤ) (hb : b ≠ 0) :
    a.fdiv b = if Int.xor a b < 0 ∧ a.tmod b ≠ 0 then a.tdiv b - 1 else a.tdiv b := by
  have hmod : a.tmod b ≠ 0 ↔ ¬b ∣ a := Int.dvd_iff_tmod_eq_zero.not.symm
  simp only [Int.fdiv_eq_tdiv, xor_neg_iff, hmod]
  by_cases hd : b ∣ a
  · simp [hd]
  · have hpos : 0 < b → b.sign = 1 := Int.sign_eq_one_of_pos
    have hneg : b < 0 → b.sign = -1 := Int.sign_eq_neg_one_of_neg
    simp only [hd, if_false, not_false_eq_true, and_true]
    split_ifs <;> omega

/-- An inexact truncated quotient leaves room for the decrement. -/
theorem tdiv_inInt256 {a b : ℤ} (ha : InInt256 a) (h : ¬(b = -1 ∧ a = minInt256))
    (hb : b ≠ 0) (hmod : a.tmod b ≠ 0) : InInt256 (a.tdiv b - 1) := by
  have hb2 : 2 ≤ b.natAbs := by
    by_contra hlt
    have : b = 1 ∨ b = -1 := by omega
    rcases this with rfl | rfl <;> simp at hmod
  have hdiv : (a.tdiv b).natAbs ≤ a.natAbs / 2 := by
    rw [Int.natAbs_tdiv]
    exact Nat.div_le_div_left hb2 (by decide)
  obtain ⟨h₁, h₂⟩ := ha
  unfold minInt256 at h₁
  unfold maxInt256 at h₂
  constructor
  · unfold minInt256
    omega
  · unfold maxInt256
    omega

/-- `divDown` is the floor of the exact quotient, and reverts only for a zero divisor and for the
one quotient that does not fit. -/
theorem divDown_eq_ok {a b c : ℤ} (ha : InInt256 a) :
    divDown a b = .ok c ↔ b ≠ 0 ∧ ¬(b = -1 ∧ a = minInt256) ∧ a.fdiv b = c := by
  unfold divDown
  simp only [bind_eq_ok, require_eq_ok, SignedSafeMath.div_eq_ok]
  constructor
  · rintro ⟨-, hb, -, hmin, r, ⟨-, hdiv, rfl⟩, hr⟩
    refine ⟨hb, hdiv, ?_⟩
    rw [fdiv_eq_tdiv_sub a b hb]
    split_ifs at hr ⊢ with h
    · rw [wrapInt256_of_inInt256 (tdiv_inInt256 ha hdiv hb h.2)] at hr
      simpa using hr
    · simpa using hr
  · rintro ⟨hb, hdiv, rfl⟩
    refine ⟨(), hb, (), by tauto, a.tdiv b, ⟨hb, hdiv, rfl⟩, ?_⟩
    rw [fdiv_eq_tdiv_sub a b hb]
    split_ifs with h
    · rw [wrapInt256_of_inInt256 (tdiv_inInt256 ha hdiv hb h.2)]
      rfl
    · rfl

/-- `conservativePreciseMul` is the floor of the product. -/
@[simp] theorem conservativePreciseMul_eq_ok {a b c : ℤ} :
    conservativePreciseMul a b = .ok c ↔ InInt256 (a * b) ∧ a * b / preciseUnitInt = c := by
  unfold conservativePreciseMul
  simp only [bind_eq_ok, SignedSafeMath.mul_eq_ok]
  constructor
  · rintro ⟨p, ⟨hp, rfl⟩, h⟩
    obtain ⟨-, -, rfl⟩ := (divDown_eq_ok hp).mp h
    exact ⟨hp, (Int.fdiv_eq_ediv_of_nonneg _ preciseUnitInt_pos.le).symm⟩
  · rintro ⟨hp, rfl⟩
    refine ⟨a * b, ⟨hp, rfl⟩, (divDown_eq_ok hp).mpr ⟨preciseUnitInt_pos.ne', ?_, ?_⟩⟩
    · exact fun h => absurd h.1 (by decide)
    · exact Int.fdiv_eq_ediv_of_nonneg _ preciseUnitInt_pos.le

/-- `conservativePreciseDiv` by a positive number is the floor of the quotient. -/
theorem conservativePreciseDiv_eq_ok {a b c : ℤ} (hb : 0 < b) :
    conservativePreciseDiv a b = .ok c ↔
      InInt256 (a * preciseUnitInt) ∧ a * preciseUnitInt / b = c := by
  unfold conservativePreciseDiv
  simp only [bind_eq_ok, SignedSafeMath.mul_eq_ok]
  constructor
  · rintro ⟨p, ⟨hp, rfl⟩, h⟩
    obtain ⟨-, -, rfl⟩ := (divDown_eq_ok hp).mp h
    exact ⟨hp, (Int.fdiv_eq_ediv_of_nonneg _ hb.le).symm⟩
  · rintro ⟨hp, rfl⟩
    refine ⟨a * preciseUnitInt, ⟨hp, rfl⟩, (divDown_eq_ok hp).mpr ⟨hb.ne', ?_, ?_⟩⟩
    · exact fun h => absurd h.1 (by omega)
    · exact Int.fdiv_eq_ediv_of_nonneg _ hb.le

end PreciseUnitMath

end SetProtocol
