import Mathlib.Data.Int.Notation
import Mathlib.Tactic.NormNum
import SetProtocol.Lib.Checked

set_option relaxedAutoImplicit false
set_option autoImplicit false

/-!
# Checked arithmetic

The arithmetic the contracts import: `SafeMath` on `uint256`, `SignedSafeMath` on `int256` and
the casts of `SafeCast`. A `uint256` is modelled by a natural number and an `int256` by an
integer; each operation reverts, with the library's own text, where the result would leave the
range of its type.

## Main definitions

* `SetProtocol.Revert` — the reason a call reverts with.
* `SetProtocol.InUint256`, `SetProtocol.InInt256` — the ranges of the two types.
* `SetProtocol.SafeMath.add` and so on — the checked operations.

## Main results

* `SetProtocol.SafeMath.mul_eq_ok` and its siblings — each operation succeeds exactly when the
  exact result is in range, with that result.
-/

namespace SetProtocol

open Checked

/-- The reason string of a revert. -/
abbrev Revert := String

/-- The number is one of the values of `uint256`. -/
def InUint256 (n : ℕ) : Prop := n < 2 ^ 256

instance : DecidablePred InUint256 := fun n => inferInstanceAs (Decidable (n < 2 ^ 256))

/-- `type(int256).min`. -/
def minInt256 : ℤ := -2 ^ 255

/-- `type(int256).max`. -/
def maxInt256 : ℤ := 2 ^ 255 - 1

/-- The integer is one of the values of `int256`. -/
def InInt256 (i : ℤ) : Prop := minInt256 ≤ i ∧ i ≤ maxInt256

instance : DecidablePred InInt256 :=
  fun i => inferInstanceAs (Decidable (minInt256 ≤ i ∧ i ≤ maxInt256))

/-- An unchecked `int256` operation keeps the low 256 bits of its result. -/
def wrapInt256 (i : ℤ) : ℤ := i.bmod (2 ^ 256)

/-- A value in range is not changed by wrapping. -/
theorem wrapInt256_of_inInt256 {i : ℤ} (h : InInt256 i) : wrapInt256 i = i := by
  obtain ⟨h₁, h₂⟩ := h
  unfold minInt256 at h₁
  unfold maxInt256 at h₂
  exact Int.bmod_eq_of_le (by omega) (by omega)

/-! ## Unsigned operations -/

namespace SafeMath

/-- `SafeMath.add`. -/
def add (a b : ℕ) : Except Revert ℕ :=
  if InUint256 (a + b) then .ok (a + b) else .error "SafeMath: addition overflow"

/-- `SafeMath.sub`. -/
def sub (a b : ℕ) : Except Revert ℕ :=
  if b ≤ a then .ok (a - b) else .error "SafeMath: subtraction overflow"

/-- `SafeMath.mul`. -/
def mul (a b : ℕ) : Except Revert ℕ :=
  if InUint256 (a * b) then .ok (a * b) else .error "SafeMath: multiplication overflow"

/-- `SafeMath.div`, which rounds towards zero. -/
def div (a b : ℕ) : Except Revert ℕ :=
  if 0 < b then .ok (a / b) else .error "SafeMath: division by zero"

@[simp] theorem add_eq_ok {a b c : ℕ} : add a b = .ok c ↔ InUint256 (a + b) ∧ a + b = c := by
  unfold add
  split <;> rename_i h <;> simp [h]

@[simp] theorem sub_eq_ok {a b c : ℕ} : sub a b = .ok c ↔ b ≤ a ∧ a - b = c := by
  unfold sub
  split <;> rename_i h <;> simp [h]

@[simp] theorem mul_eq_ok {a b c : ℕ} : mul a b = .ok c ↔ InUint256 (a * b) ∧ a * b = c := by
  unfold mul
  split <;> rename_i h <;> simp [h]

@[simp] theorem div_eq_ok {a b c : ℕ} : div a b = .ok c ↔ 0 < b ∧ a / b = c := by
  unfold div
  split <;> rename_i h <;> simp [h]

end SafeMath

/-! ## Signed operations -/

namespace SignedSafeMath

/-- `SignedSafeMath.add`. -/
def add (a b : ℤ) : Except Revert ℤ :=
  if InInt256 (a + b) then .ok (a + b) else .error "SignedSafeMath: addition overflow"

/-- `SignedSafeMath.sub`. -/
def sub (a b : ℤ) : Except Revert ℤ :=
  if InInt256 (a - b) then .ok (a - b) else .error "SignedSafeMath: subtraction overflow"

/-- `SignedSafeMath.mul`. -/
def mul (a b : ℤ) : Except Revert ℤ :=
  if InInt256 (a * b) then .ok (a * b) else .error "SignedSafeMath: multiplication overflow"

/-- `SignedSafeMath.div`, which rounds towards zero. -/
def div (a b : ℤ) : Except Revert ℤ :=
  if b = 0 then .error "SignedSafeMath: division by zero"
  else if b = -1 ∧ a = minInt256 then .error "SignedSafeMath: division overflow"
  else .ok (a.tdiv b)

@[simp] theorem add_eq_ok {a b c : ℤ} : add a b = .ok c ↔ InInt256 (a + b) ∧ a + b = c := by
  unfold add
  split <;> rename_i h <;> simp [h]

@[simp] theorem sub_eq_ok {a b c : ℤ} : sub a b = .ok c ↔ InInt256 (a - b) ∧ a - b = c := by
  unfold sub
  split <;> rename_i h <;> simp [h]

@[simp] theorem mul_eq_ok {a b c : ℤ} : mul a b = .ok c ↔ InInt256 (a * b) ∧ a * b = c := by
  unfold mul
  split <;> rename_i h <;> simp [h]

@[simp] theorem div_eq_ok {a b c : ℤ} :
    div a b = .ok c ↔ b ≠ 0 ∧ ¬(b = -1 ∧ a = minInt256) ∧ a.tdiv b = c := by
  unfold div
  split
  · simp_all
  · split <;> simp_all

end SignedSafeMath

/-! ## Casts -/

namespace SafeCast

/-- `SafeCast.toUint256`. -/
def toUint256 (i : ℤ) : Except Revert ℕ :=
  if 0 ≤ i then .ok i.toNat else .error "SafeCast: value must be positive"

/-- `SafeCast.toInt256`. -/
def toInt256 (n : ℕ) : Except Revert ℤ :=
  if n < 2 ^ 255 then .ok (n : ℤ) else .error "SafeCast: value doesn't fit in an int256"

@[simp] theorem toUint256_eq_ok {i : ℤ} {n : ℕ} : toUint256 i = .ok n ↔ i = (n : ℤ) := by
  unfold toUint256
  split <;> simp only [Except.ok.injEq, reduceCtorEq, false_iff] <;> omega

@[simp] theorem toInt256_eq_ok {n : ℕ} {i : ℤ} :
    toInt256 n = .ok i ↔ n < 2 ^ 255 ∧ (n : ℤ) = i := by
  unfold toInt256
  split <;> simp only [Except.ok.injEq, reduceCtorEq, *, true_and, false_and]

end SafeCast

end SetProtocol
