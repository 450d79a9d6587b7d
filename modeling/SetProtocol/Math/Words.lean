import Mathlib.Data.Rat.Floor
import SetProtocol.Lib.Quotients
import SetProtocol.Math.PreciseUnitMath

set_option relaxedAutoImplicit false
set_option autoImplicit false

/-!
# The rounding primitives on machine words

`PreciseUnitMath.divDown` again, now on the 256-bit words the machine computes with, where the
sign of an exclusive or is the top bit, a remainder has the sign of its dividend and a decrement
wraps around. Each step stands for the same step on the integers the words read as, so that the
definition on integers says what the machine computes.

## Main definitions

* `SetProtocol.PreciseUnitMath.divDownWord` — `divDown` on words.
* `SetProtocol.PreciseUnitMath.DivDownExact` — none of its steps wraps.

## Main results

* `SetProtocol.PreciseUnitMath.divDownWord_toInt` — on words and on integers `divDown` returns
  the same number, or reverts with the same reason.
* `SetProtocol.PreciseUnitMath.divDownExact` — the quotient, the sign test, the remainder and the
  decrement are exact.
* `SetProtocol.PreciseUnitMath.roundings_exact` — `divDown` is the floor and `preciseMulCeil` and
  `preciseDivCeil` are the ceilings of the exact quotients.
-/

namespace SetProtocol

open Checked

/-! ## Words as integers -/

/-- A word reads as one of the values of `int256`. -/
theorem inInt256_toInt (a : BitVec 256) : InInt256 a.toInt :=
  ⟨BitVec.le_toInt a, BitVec.toInt_le⟩

/-- The word of `type(int256).min`. -/
theorem toInt_intMin_eq : (BitVec.intMin 256).toInt = minInt256 :=
  BitVec.toInt_intMin_of_pos (by decide)

/-- The least number has one word. -/
theorem toInt_eq_minInt256 {a : BitVec 256} : a.toInt = minInt256 ↔ a = BitVec.intMin 256 := by
  rw [← toInt_intMin_eq, BitVec.toInt_inj]

/-- Minus one has one word. -/
theorem toInt_eq_neg_one {b : BitVec 256} : b.toInt = -1 ↔ b = -1#256 := by
  have h : (-1#256).toInt = -1 := by decide
  rw [← h, BitVec.toInt_inj]

/-- Zero has one word. -/
theorem toInt_eq_zero {b : BitVec 256} : b.toInt = 0 ↔ b = 0#256 := by
  have h : (0#256).toInt = 0 := by decide
  rw [← h, BitVec.toInt_inj]

/-- `SignedSafeMath.div` on words. -/
def SignedSafeMath.divWord (a b : BitVec 256) : Except Revert (BitVec 256) :=
  if b = 0#256 then .error "SignedSafeMath: division by zero"
  else if b = -1#256 ∧ a = BitVec.intMin 256 then .error "SignedSafeMath: division overflow"
  else .ok (a.sdiv b)

/-- The checked quotient of words is the checked quotient of the integers. -/
theorem SignedSafeMath.divWord_toInt (a b : BitVec 256) :
    (SignedSafeMath.divWord a b).map BitVec.toInt = SignedSafeMath.div a.toInt b.toInt := by
  unfold SignedSafeMath.divWord SignedSafeMath.div
  simp only [toInt_eq_zero, toInt_eq_neg_one, toInt_eq_minInt256]
  split_ifs with hb hmin
  · rfl
  · rfl
  · have hne : a ≠ BitVec.intMin 256 ∨ b ≠ -1#256 := by tauto
    exact congrArg Except.ok (BitVec.toInt_sdiv_of_ne_or_ne a b hne)

namespace PreciseUnitMath

/-! ## The steps of `divDown` -/

/-- `divDown` on words. -/
def divDownWord (a b : BitVec 256) : Except Revert (BitVec 256) := do
  require (b ≠ 0#256) "Cant divide by 0"
  require (a ≠ BitVec.intMin 256 ∨ b ≠ -1#256) "Invalid input"
  let result ← SignedSafeMath.divWord a b
  if (a ^^^ b).slt 0#256 ∧ a.srem b ≠ 0#256 then return result - 1#256
  return result

/-- The top bit of the exclusive or is the sign of the exclusive or of the integers. -/
theorem slt_xor_iff (a b : BitVec 256) :
    (a ^^^ b).slt 0#256 ↔ Int.xor a.toInt b.toInt < 0 := by
  rw [BitVec.slt_zero_iff_msb_cond, BitVec.msb_xor, xor_neg_iff, BitVec.msb_eq_toInt,
    BitVec.msb_eq_toInt]
  by_cases ha : a.toInt < 0 <;> by_cases hb : b.toInt < 0 <;> simp [ha, hb]
  omega

/-- The remainder of words vanishes when that of the integers does. -/
theorem srem_eq_zero_iff (a b : BitVec 256) : a.srem b = 0#256 ↔ a.toInt.tmod b.toInt = 0 := by
  rw [← toInt_eq_zero, BitVec.toInt_srem]

/-- The decrement of a word is the wrapped decrement of the integer. -/
theorem toInt_sub_one (c : BitVec 256) : (c - 1#256).toInt = wrapInt256 (c.toInt - 1) := by
  rw [BitVec.toInt_sub]
  rfl

/-- `divDown` on words returns the number it returns on integers, or reverts with the same
reason. -/
theorem divDownWord_toInt (a b : BitVec 256) :
    (divDownWord a b).map BitVec.toInt = divDown a.toInt b.toInt := by
  have hdiv := SignedSafeMath.divWord_toInt a b
  unfold divDownWord divDown
  simp only [slt_xor_iff, srem_eq_zero_iff, ne_eq, toInt_eq_zero, toInt_eq_minInt256,
    toInt_eq_neg_one]
  unfold require
  split
  · split
    · rw [← hdiv]
      cases SignedSafeMath.divWord a b with
      | error e => rfl
      | ok c =>
        change Except.map _ (ite _ _ _) = ite _ _ _
        split
        · exact congrArg Except.ok (toInt_sub_one c)
        · rfl
    · rfl
  · rfl

/-- None of the steps of `divDown` wraps: each is the exact operation on the integers. -/
structure DivDownExact (a b : BitVec 256) : Prop where
  quotient : (a.sdiv b).toInt = a.toInt.tdiv b.toInt
  /-- The exclusive or is negative when the signs differ. -/
  sign : (a ^^^ b).slt 0#256 ↔ (a.toInt < 0 ↔ 0 ≤ b.toInt)
  remainder : (a.srem b).toInt = a.toInt.tmod b.toInt
  /-- The decrement, where it is taken. -/
  decrement : a.srem b ≠ 0#256 → (a.sdiv b - 1#256).toInt = a.toInt.tdiv b.toInt - 1

/-- The steps of `divDown` are exact for every divisor other than zero, except for the one
quotient that does not fit. -/
theorem divDownExact {a b : BitVec 256} (hb : b ≠ 0#256)
    (hmin : ¬(a = BitVec.intMin 256 ∧ b = -1#256)) : DivDownExact a b := by
  have hne : a ≠ BitVec.intMin 256 ∨ b ≠ -1#256 := by tauto
  have hquot := BitVec.toInt_sdiv_of_ne_or_ne a b hne
  refine ⟨hquot, (slt_xor_iff a b).trans (xor_neg_iff _ _), BitVec.toInt_srem a b, fun hmod => ?_⟩
  have hb' : b.toInt ≠ 0 := toInt_eq_zero.not.mpr hb
  have hmin' : ¬(b.toInt = -1 ∧ a.toInt = minInt256) := by
    rw [toInt_eq_neg_one, toInt_eq_minInt256]
    tauto
  have hmod' : a.toInt.tmod b.toInt ≠ 0 := (srem_eq_zero_iff a b).not.mp hmod
  rw [toInt_sub_one, hquot,
    wrapInt256_of_inInt256 (tdiv_inInt256 (inInt256_toInt a) hmin' hb' hmod')]

/-- `divDown` on words returns the floor of the exact quotient. -/
theorem divDownWord_eq_ok {a b : BitVec 256} (hb : b ≠ 0#256)
    (hmin : ¬(a = BitVec.intMin 256 ∧ b = -1#256)) :
    ∃ c, divDownWord a b = .ok c ∧ c.toInt = ⌊(a.toInt : ℚ) / b.toInt⌋ := by
  have hb' : b.toInt ≠ 0 := toInt_eq_zero.not.mpr hb
  have hmin' : ¬(b.toInt = -1 ∧ a.toInt = minInt256) := by
    rw [toInt_eq_neg_one, toInt_eq_minInt256]
    tauto
  have h := divDownWord_toInt a b
  rw [(divDown_eq_ok (inInt256_toInt a)).mpr ⟨hb', hmin', rfl⟩] at h
  obtain ⟨c, hc, hfloor⟩ := map_eq_ok.mp h
  exact ⟨c, hc, hfloor.trans (Rounding.floor_div_eq_fdiv _ _).symm⟩

/-! ## The three primitives -/

/-- `divDown` is the floor of the exact quotient and none of its steps wraps, and the two
ceilings are the ceilings of the exact quotients. -/
theorem roundings_exact :
    (∀ a b : BitVec 256, b ≠ 0#256 → ¬(a = BitVec.intMin 256 ∧ b = -1#256) →
      DivDownExact a b ∧
        ∃ c, divDownWord a b = .ok c ∧ c.toInt = ⌊(a.toInt : ℚ) / b.toInt⌋) ∧
    (∀ a b : ℕ, InUint256 (a * b) →
      preciseMulCeil a b = .ok ⌈((a * b : ℕ) : ℚ) / preciseUnit⌉₊) ∧
    (∀ a b : ℕ, 0 < b → InUint256 (a * preciseUnit) →
      preciseDivCeil a b = .ok ⌈((a * preciseUnit : ℕ) : ℚ) / b⌉₊) := by
  refine ⟨fun a b hb hmin => ⟨divDownExact hb hmin, divDownWord_eq_ok hb hmin⟩,
    fun a b hab => ?_, fun a b hb ha => ?_⟩
  · exact preciseMulCeil_eq_ok.mpr
      ⟨hab, (Rounding.ceil_div_eq_ceilDiv _ preciseUnit_pos).symm⟩
  · exact preciseDivCeil_eq_ok.mpr ⟨hb, ha, (Rounding.ceil_div_eq_ceilDiv _ hb).symm⟩

/-- The least number by three, a product with zero, and a quotient that is not exact. -/
theorem roundings_exact_example :
    (∃ c, divDownWord (BitVec.intMin 256) 3#256 = .ok c ∧
      c.toInt = ⌊((BitVec.intMin 256).toInt : ℚ) / (3#256).toInt⌋) ∧
    preciseMulCeil 0 5 = .ok ⌈((0 * 5 : ℕ) : ℚ) / preciseUnit⌉₊ ∧
    preciseDivCeil 1 3 = .ok ⌈((1 * preciseUnit : ℕ) : ℚ) / (3 : ℕ)⌉₊ :=
  ⟨(roundings_exact.1 (BitVec.intMin 256) 3#256 (by decide) (by decide)).2,
    roundings_exact.2.1 0 5 (by decide), roundings_exact.2.2 1 3 (by decide) (by decide)⟩

end PreciseUnitMath

end SetProtocol
