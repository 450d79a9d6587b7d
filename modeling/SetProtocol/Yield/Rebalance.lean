import SetProtocol.Yield.Calls

set_option relaxedAutoImplicit false
set_option autoImplicit false

/-!
# Rebalancing the reserves

The strategy compares its two reserves by value. The value of the second asset is the balance, over
the price of the oracle, times one base unit over the other, and both quotients are rounded down. Half
of the difference is sold, and roundings of the same kind give the quantity and the least quantity to
be bought. All of them together are worth no more than the price and its unit, for one whole token of
each asset.

## Main definitions

* `SetProtocol.UniswapYieldStrategy.value` — what an amount of an asset is worth at a price.
* `SetProtocol.UniswapYieldStrategy.grain` — what is lost by rounding.
* `SetProtocol.UniswapYieldStrategy.Evens` — the trade makes the reserves even.
* `SetProtocol.UniswapYieldStrategy.Limits` — what is left of it under a limit and a tolerance.

## Main results

* `SetProtocol.UniswapYieldStrategy.evens_of_calculateRebalance` — half of the difference is sold.
* `SetProtocol.UniswapYieldStrategy.limits_of_limitRebalance` — the minimum loses no more than the
  tolerance, but for roundings.
* `SetProtocol.UniswapYieldStrategy.totalValue_of_rebalanceSome` — what a rebalance costs the Set.
-/

namespace SetProtocol

open Checked

namespace UniswapYieldStrategy

variable {u : UniswapYieldStrategy} {self : Address} {env : YieldEnv} {w w' : World}
  {price sellTokenQuantity : ℕ} {balance : Address → ℕ} {r r' : Rebalance}

/-! ## Values -/

/-- What an amount of an asset is worth at the price, in parts small enough for both assets. -/
def value (u : UniswapYieldStrategy) (price : ℕ) (asset : Address) (n : ℕ) : ℕ :=
  if asset = u.assetOne then n * (price * u.assetTwoBaseUnit)
  else n * (preciseUnit * u.assetOneBaseUnit)

/-- What roundings are worth at most. -/
def grain (u : UniswapYieldStrategy) (price : ℕ) : ℕ :=
  (price + preciseUnit) * (u.assetOneBaseUnit + u.assetTwoBaseUnit)

/-- What the first asset is worth. -/
theorem value_assetOne (u : UniswapYieldStrategy) (price n : ℕ) :
    u.value price u.assetOne n = n * (price * u.assetTwoBaseUnit) :=
  if_pos rfl

/-- What the second asset is worth. -/
theorem value_assetTwo (hassets : u.assetOne ≠ u.assetTwo) (price n : ℕ) :
    u.value price u.assetTwo n = n * (preciseUnit * u.assetOneBaseUnit) :=
  if_neg hassets.symm

/-- What roundings are worth, of each of the four kinds. -/
theorem grain_eq (u : UniswapYieldStrategy) (price : ℕ) :
    u.grain price = price * u.assetTwoBaseUnit + price * u.assetOneBaseUnit +
      (preciseUnit * u.assetOneBaseUnit + preciseUnit * u.assetTwoBaseUnit) := by
  unfold grain
  ring

/-- Values add up. -/
theorem value_add (u : UniswapYieldStrategy) (price : ℕ) (asset : Address) (m n : ℕ) :
    u.value price asset (m + n) = u.value price asset m + u.value price asset n := by
  unfold value
  split_ifs
  · rw [Nat.add_mul]
  · rw [Nat.add_mul]

/-- Values are proportional to amounts. -/
theorem value_mul (u : UniswapYieldStrategy) (price : ℕ) (asset : Address) (m n : ℕ) :
    u.value price asset (m * n) = m * u.value price asset n := by
  unfold value
  split_ifs
  · rw [Nat.mul_assoc]
  · rw [Nat.mul_assoc]

/-- More is worth more. -/
theorem value_le (u : UniswapYieldStrategy) (price : ℕ) (asset : Address) {m n : ℕ} (h : m ≤ n) :
    u.value price asset m ≤ u.value price asset n := by
  obtain ⟨k, rfl⟩ := Nat.exists_eq_add_of_le h
  rw [value_add]
  exact Nat.le_add_right _ _

/-- One base unit is worth no more than what is lost by rounding. -/
theorem value_one_le (u : UniswapYieldStrategy) (price : ℕ) (asset : Address) :
    u.value price asset 1 ≤ u.grain price := by
  unfold value grain
  split_ifs
  · rw [Nat.one_mul]
    exact Nat.mul_le_mul (Nat.le_add_right _ _) (Nat.le_add_left _ _)
  · rw [Nat.one_mul]
    exact Nat.mul_le_mul (Nat.le_add_left _ _) (Nat.le_add_right _ _)

/-- Two quotients in a row, both rounded down: `n * a / b * c / d` is `n * (a * c) / (b * d)` but for
what one of the first and one of the second is worth. -/
theorem convert_bounds {n a b c d m k : ℕ} (hb : 0 < b) (hd : 0 < d) (hk : n * a / b = k)
    (hm : k * c / d = m) :
    m * (b * d) ≤ n * (a * c) ∧ n * (a * c) ≤ m * (b * d) + (b * d + b * c) := by
  have hk₁ : k * b ≤ n * a := by
    rw [← hk]
    exact Nat.div_mul_le_self _ _
  have hk₂ : n * a < (k + 1) * b := by
    rw [← hk, Nat.add_mul, Nat.one_mul]
    exact Nat.lt_div_mul_add hb
  have hm₁ : m * d ≤ k * c := by
    rw [← hm]
    exact Nat.div_mul_le_self _ _
  have hm₂ : k * c < (m + 1) * d := by
    rw [← hm, Nat.add_mul, Nat.one_mul]
    exact Nat.lt_div_mul_add hd
  constructor
  · calc m * (b * d) = m * d * b := by ring
      _ ≤ k * c * b := Nat.mul_le_mul_right b hm₁
      _ = k * b * c := by ring
      _ ≤ n * a * c := Nat.mul_le_mul_right c hk₁
      _ = n * (a * c) := by ring
  · calc n * (a * c) = n * a * c := by ring
      _ ≤ (k + 1) * b * c := Nat.mul_le_mul_right c hk₂.le
      _ = k * c * b + b * c := by ring
      _ ≤ (m + 1) * d * b + b * c := Nat.add_le_add_right (Nat.mul_le_mul_right b hm₂.le) _
      _ = m * (b * d) + (b * d + b * c) := by ring

/-! ## The even trade -/

/-- At the price, the trade makes the values of the reserves even. -/
structure Evens (u : UniswapYieldStrategy) (price : ℕ) (balance : Address → ℕ)
    (r : Rebalance) : Prop where
  /-- One asset is sold for the other. -/
  assets : r.assetToSell = u.assetOne ∧ r.assetToBuy = u.assetTwo ∨
    r.assetToSell = u.assetTwo ∧ r.assetToBuy = u.assetOne
  /-- No more than half of it is sold. -/
  half : 2 * r.quantityToSell ≤ balance r.assetToSell
  /-- What is left is worth no more than the other asset with what is sold, but for roundings. -/
  left_le : u.value price r.assetToSell (balance r.assetToSell - r.quantityToSell) ≤
    u.value price r.assetToBuy (balance r.assetToBuy) +
      u.value price r.assetToSell r.quantityToSell + 2 * u.grain price
  /-- It is worth no less, but for roundings. -/
  le_left : u.value price r.assetToBuy (balance r.assetToBuy) +
      u.value price r.assetToSell r.quantityToSell ≤
    u.value price r.assetToSell (balance r.assetToSell - r.quantityToSell) + u.grain price
  /-- What is to be bought is worth no more than what is sold. -/
  minimum_le : u.value price r.assetToBuy r.minimumBuyToken ≤
    u.value price r.assetToSell r.quantityToSell
  /-- It is worth no less, but for roundings. -/
  le_minimum : u.value price r.assetToSell r.quantityToSell ≤
    u.value price r.assetToBuy r.minimumBuyToken + u.grain price
  /-- What is sold fits a word. -/
  quantity : InUint256 r.quantityToSell

section Even

variable (hassets : u.assetOne ≠ u.assetTwo) {v k q m : ℕ}
  (hv : v * (price * u.assetTwoBaseUnit) ≤
    balance u.assetTwo * (preciseUnit * u.assetOneBaseUnit))
  (hv' : balance u.assetTwo * (preciseUnit * u.assetOneBaseUnit) ≤
    v * (price * u.assetTwoBaseUnit) +
      (price * u.assetTwoBaseUnit + price * u.assetOneBaseUnit))
include hassets hv hv'

/-- Of the first asset half of what it has more than the value `v` of the second one is sold. -/
theorem evens_of_assetOne (hlt : v < balance u.assetOne) (hq : (balance u.assetOne - v) / 2 = q)
    (hm : m * (preciseUnit * u.assetOneBaseUnit) ≤ q * (price * u.assetTwoBaseUnit))
    (hm' : q * (price * u.assetTwoBaseUnit) ≤ m * (preciseUnit * u.assetOneBaseUnit) +
      (preciseUnit * u.assetOneBaseUnit + preciseUnit * u.assetTwoBaseUnit))
    (hfit : InUint256 q) : u.Evens price balance ⟨u.assetOne, u.assetTwo, q, m⟩ := by
  have hvalueOne := u.value_assetOne price
  have hvalueTwo := value_assetTwo hassets price
  have hgrain := u.grain_eq price
  have hmore := Nat.mul_le_mul_right (price * u.assetTwoBaseUnit)
    (show v + q ≤ balance u.assetOne - q by omega)
  have hless := Nat.mul_le_mul_right (price * u.assetTwoBaseUnit)
    (show balance u.assetOne - q ≤ v + q + 1 by omega)
  rw [Nat.add_mul] at hmore
  rw [Nat.add_mul, Nat.add_mul, Nat.one_mul] at hless
  refine ⟨.inl ⟨rfl, rfl⟩, ?_, ?_, ?_, ?_, ?_, hfit⟩
  · show 2 * q ≤ balance u.assetOne
    omega
  · show u.value price u.assetOne (balance u.assetOne - q) ≤
      u.value price u.assetTwo (balance u.assetTwo) + u.value price u.assetOne q +
        2 * u.grain price
    rw [hvalueOne, hvalueOne, hvalueTwo, hgrain]
    omega
  · show u.value price u.assetTwo (balance u.assetTwo) + u.value price u.assetOne q ≤
      u.value price u.assetOne (balance u.assetOne - q) + u.grain price
    rw [hvalueOne, hvalueOne, hvalueTwo, hgrain]
    omega
  · show u.value price u.assetTwo m ≤ u.value price u.assetOne q
    rw [hvalueOne, hvalueTwo]
    exact hm
  · show u.value price u.assetOne q ≤ u.value price u.assetTwo m + u.grain price
    rw [hvalueOne, hvalueTwo, hgrain]
    omega

/-- Of the second asset as much is sold as half of that what its value `v` has more than the first
one is worth. -/
theorem evens_of_assetTwo (hone : 0 < u.assetOneBaseUnit) (hle : balance u.assetOne ≤ v)
    (hk : (v - balance u.assetOne) / 2 = k)
    (hq : q * (preciseUnit * u.assetOneBaseUnit) ≤ k * (price * u.assetTwoBaseUnit))
    (hq' : k * (price * u.assetTwoBaseUnit) ≤ q * (preciseUnit * u.assetOneBaseUnit) +
      (preciseUnit * u.assetOneBaseUnit + preciseUnit * u.assetTwoBaseUnit))
    (hm : m * (price * u.assetTwoBaseUnit) ≤ q * (preciseUnit * u.assetOneBaseUnit))
    (hm' : q * (preciseUnit * u.assetOneBaseUnit) ≤ m * (price * u.assetTwoBaseUnit) +
      (price * u.assetTwoBaseUnit + price * u.assetOneBaseUnit))
    (hfit : InUint256 q) : u.Evens price balance ⟨u.assetTwo, u.assetOne, q, m⟩ := by
  have hvalueOne := u.value_assetOne price
  have hvalueTwo := value_assetTwo hassets price
  have hgrain := u.grain_eq price
  have hmore := Nat.mul_le_mul_right (price * u.assetTwoBaseUnit)
    (show balance u.assetOne + (k + k) ≤ v by omega)
  have hless := Nat.mul_le_mul_right (price * u.assetTwoBaseUnit)
    (show v ≤ balance u.assetOne + (k + k) + 1 by omega)
  rw [Nat.add_mul, Nat.add_mul] at hmore
  rw [Nat.add_mul, Nat.add_mul, Nat.add_mul, Nat.one_mul] at hless
  have hhalf : 2 * q ≤ balance u.assetTwo := by
    apply Nat.le_of_mul_le_mul_right _ (Nat.mul_pos preciseUnit_pos hone)
    rw [Nat.mul_assoc]
    omega
  have hsplit : (balance u.assetTwo - q) * (preciseUnit * u.assetOneBaseUnit) +
      q * (preciseUnit * u.assetOneBaseUnit) =
        balance u.assetTwo * (preciseUnit * u.assetOneBaseUnit) := by
    rw [← Nat.add_mul, Nat.sub_add_cancel (by omega)]
  refine ⟨.inr ⟨rfl, rfl⟩, hhalf, ?_, ?_, ?_, ?_, hfit⟩
  · show u.value price u.assetTwo (balance u.assetTwo - q) ≤
      u.value price u.assetOne (balance u.assetOne) + u.value price u.assetTwo q +
        2 * u.grain price
    rw [hvalueOne, hvalueTwo, hvalueTwo, hgrain]
    omega
  · show u.value price u.assetOne (balance u.assetOne) + u.value price u.assetTwo q ≤
      u.value price u.assetTwo (balance u.assetTwo - q) + u.grain price
    rw [hvalueOne, hvalueTwo, hvalueTwo, hgrain]
    omega
  · show u.value price u.assetOne m ≤ u.value price u.assetTwo q
    rw [hvalueOne, hvalueTwo]
    exact hm
  · show u.value price u.assetTwo q ≤ u.value price u.assetOne m + u.grain price
    rw [hvalueOne, hvalueTwo, hgrain]
    omega

end Even

/-- **The even trade**: half of the difference is sold.

**Proof sketch.** With `v` the value of the second asset in terms of the first, half of the difference
of the first balance and `v` is sold, in the one asset or in the other. Each quantity is found by a
conversion, and the bounds of the conversions add up. -/
theorem evens_of_calculateRebalance (hassets : u.assetOne ≠ u.assetTwo)
    (h : u.calculateRebalance price (balance u.assetOne) (balance u.assetTwo) = .ok r) :
    u.Evens price balance r := by
  simp only [calculateRebalance, bind_eq_ok, PreciseUnitMath.preciseDiv_eq_ok,
    SafeMath.mul_eq_ok, SafeMath.div_eq_ok] at h
  obtain ⟨_, ⟨-, hprice, rfl⟩, _, ⟨-, rfl⟩, v, ⟨htwo, hv⟩, h⟩ := h
  obtain ⟨hv, hv'⟩ := convert_bounds hprice htwo rfl hv
  split_ifs at h with hlt
  · simp only [bind_eq_ok, SafeMath.sub_eq_ok, SafeMath.mul_eq_ok, SafeMath.div_eq_ok,
      PreciseUnitMath.preciseMul_eq_ok, pure_eq_ok] at h
    obtain ⟨_, ⟨-, rfl⟩, q, ⟨-, hq⟩, _, ⟨hfit, rfl⟩, _, ⟨-, rfl⟩, m, ⟨hone, hm⟩, rfl⟩ := h
    obtain ⟨hm, hm'⟩ := convert_bounds preciseUnit_pos hone rfl hm
    have hword : InUint256 q := lt_of_le_of_lt (Nat.le_mul_of_pos_right q hprice) hfit
    exact evens_of_assetOne hassets hv hv' hlt hq hm hm' hword
  · simp only [bind_eq_ok, SafeMath.sub_eq_ok, SafeMath.mul_eq_ok, SafeMath.div_eq_ok,
      PreciseUnitMath.preciseMul_eq_ok, PreciseUnitMath.preciseDiv_eq_ok, pure_eq_ok] at h
    obtain ⟨_, ⟨-, rfl⟩, k, ⟨-, hk⟩, _, ⟨-, rfl⟩, _, ⟨hfit, rfl⟩, q, ⟨hone, hq⟩, _, ⟨-, -, rfl⟩, _,
      ⟨-, rfl⟩, m, ⟨-, hm⟩, rfl⟩ := h
    have hword : InUint256 q := lt_of_le_of_lt (hq ▸ Nat.div_le_self _ _) hfit
    obtain ⟨hq, hq'⟩ := convert_bounds preciseUnit_pos hone rfl hq
    obtain ⟨hm, hm'⟩ := convert_bounds hprice htwo rfl hm
    exact evens_of_assetTwo hassets hv hv' hone (Nat.le_of_not_lt hlt) hk hq hq' hm hm' hword

/-! ## The limited trade -/

/-- The roundings of a trade, in grains for each unit that might have been sold. -/
def roundings (sellTokenQuantity quantity : ℕ) : ℕ :=
  if 0 < sellTokenQuantity then 3 * quantity + preciseUnit else 2 * quantity

/-- A smaller quantity may be asked for, and the minimum is lowered by the tolerance. -/
structure Limits (u : UniswapYieldStrategy) (price sellTokenQuantity : ℕ)
    (r r' : Rebalance) : Prop where
  /-- The assets stay. -/
  assetToSell : r'.assetToSell = r.assetToSell
  /-- The assets stay. -/
  assetToBuy : r'.assetToBuy = r.assetToBuy
  /-- What is sold. -/
  quantity : r'.quantityToSell = if 0 < sellTokenQuantity then sellTokenQuantity
    else r.quantityToSell
  /-- It is no more than half of the difference. -/
  quantity_le : r'.quantityToSell ≤ r.quantityToSell
  /-- The tolerance is no more than everything. -/
  tolerance : u.slippageTolerance ≤ preciseUnit
  /-- The minimum is worth no more than what is sold, less the tolerance. -/
  minimum_le : u.value price r.assetToBuy r'.minimumBuyToken * preciseUnit ≤
    u.value price r.assetToSell r'.quantityToSell * (preciseUnit - u.slippageTolerance)
  /-- It is worth no less, but for roundings. -/
  le_minimum : r.quantityToSell * (u.value price r.assetToSell r'.quantityToSell *
      (preciseUnit - u.slippageTolerance)) ≤
    r.quantityToSell * (u.value price r.assetToBuy r'.minimumBuyToken * preciseUnit) +
      u.grain price * preciseUnit * roundings sellTokenQuantity r.quantityToSell
  /-- The minimum fits a word. -/
  fits : InUint256 r'.minimumBuyToken

/-- A part of the trade has that part of the minimum, but for roundings. -/
theorem scale_bounds (he : u.Evens price balance r) {n k m : ℕ} (hn : n ≤ r.quantityToSell)
    (hpos : 0 < r.quantityToSell) (hk : r.minimumBuyToken * n / preciseUnit = k)
    (hm : k * preciseUnit / r.quantityToSell = m) :
    u.value price r.assetToBuy m ≤ u.value price r.assetToSell n ∧
      r.quantityToSell * u.value price r.assetToSell n ≤
        r.quantityToSell * u.value price r.assetToBuy m +
          u.grain price * (2 * r.quantityToSell + preciseUnit) := by
  obtain ⟨hm₁, hm₂⟩ := convert_bounds preciseUnit_pos hpos hk hm
  have hW := preciseUnit_pos
  constructor
  · apply Nat.le_of_mul_le_mul_left _ (Nat.mul_pos hW hpos)
    calc preciseUnit * r.quantityToSell * u.value price r.assetToBuy m
        = u.value price r.assetToBuy (m * (preciseUnit * r.quantityToSell)) := by
          rw [← value_mul, Nat.mul_comm m]
      _ ≤ u.value price r.assetToBuy (r.minimumBuyToken * (n * preciseUnit)) :=
          value_le _ _ _ hm₁
      _ = n * preciseUnit * u.value price r.assetToBuy r.minimumBuyToken := by
          rw [← value_mul, Nat.mul_comm r.minimumBuyToken]
      _ ≤ n * preciseUnit * u.value price r.assetToSell r.quantityToSell :=
          Nat.mul_le_mul_left _ he.minimum_le
      _ = preciseUnit * r.quantityToSell * u.value price r.assetToSell n := by
          rw [← value_mul, ← value_mul]
          congr 1
          ring
  · apply Nat.le_of_mul_le_mul_left _ hW
    calc preciseUnit * (r.quantityToSell * u.value price r.assetToSell n)
        = n * preciseUnit * u.value price r.assetToSell r.quantityToSell := by
          rw [← Nat.mul_assoc, ← value_mul, ← value_mul]
          congr 1
          ring
      _ ≤ n * preciseUnit * (u.value price r.assetToBuy r.minimumBuyToken + u.grain price) :=
          Nat.mul_le_mul_left _ he.le_minimum
      _ = u.value price r.assetToBuy (r.minimumBuyToken * (n * preciseUnit)) +
            n * preciseUnit * u.grain price := by
          rw [Nat.mul_add, Nat.mul_comm r.minimumBuyToken, value_mul]
      _ ≤ u.value price r.assetToBuy (m * (preciseUnit * r.quantityToSell) +
            (preciseUnit * r.quantityToSell + preciseUnit * preciseUnit) * 1) +
            r.quantityToSell * preciseUnit * u.grain price := by
          refine Nat.add_le_add (value_le _ _ _ (by omega)) ?_
          exact Nat.mul_le_mul_right _ (Nat.mul_le_mul_right _ hn)
      _ = preciseUnit * r.quantityToSell * u.value price r.assetToBuy m +
            (preciseUnit * r.quantityToSell + preciseUnit * preciseUnit) *
              u.value price r.assetToBuy 1 + r.quantityToSell * preciseUnit * u.grain price := by
          rw [value_add, Nat.mul_comm m, value_mul, value_mul]
      _ ≤ preciseUnit * r.quantityToSell * u.value price r.assetToBuy m +
            (preciseUnit * r.quantityToSell + preciseUnit * preciseUnit) * u.grain price +
              r.quantityToSell * preciseUnit * u.grain price := by
          gcongr
          exact value_one_le _ _ _
      _ = preciseUnit * (r.quantityToSell * u.value price r.assetToBuy m +
            u.grain price * (2 * r.quantityToSell + preciseUnit)) := by ring

/-- The tolerance takes its part of the minimum, but for a rounding. -/
theorem tolerance_bounds {asset : Address} {t m m' q e total : ℕ} (ht : t ≤ preciseUnit)
    (hm : m * t / preciseUnit = m') (hle : u.value price asset m ≤ total)
    (hge : q * total ≤ q * u.value price asset m + u.grain price * e) :
    u.value price asset m' * preciseUnit ≤ total * t ∧
      q * (total * t) ≤ q * (u.value price asset m' * preciseUnit) +
        u.grain price * preciseUnit * (e + q) := by
  have hW := preciseUnit_pos
  have hm₁ : preciseUnit * m' ≤ t * m := by
    rw [← hm, Nat.mul_comm, Nat.mul_comm t]
    exact Nat.div_mul_le_self _ _
  have hm₂ : t * m ≤ preciseUnit * m' + preciseUnit * 1 := by
    rw [← hm, Nat.mul_comm t, Nat.mul_comm preciseUnit, Nat.mul_one]
    exact (Nat.lt_div_mul_add hW).le
  constructor
  · calc u.value price asset m' * preciseUnit
        = u.value price asset (preciseUnit * m') := by rw [value_mul, Nat.mul_comm]
      _ ≤ u.value price asset (t * m) := value_le _ _ _ hm₁
      _ = t * u.value price asset m := value_mul _ _ _ _ _
      _ ≤ t * total := Nat.mul_le_mul_left _ hle
      _ = total * t := Nat.mul_comm _ _
  · calc q * (total * t) = t * (q * total) := by ring
      _ ≤ t * (q * u.value price asset m + u.grain price * e) := Nat.mul_le_mul_left _ hge
      _ = q * u.value price asset (t * m) + u.grain price * e * t := by
          rw [value_mul]
          ring
      _ ≤ q * u.value price asset (preciseUnit * m' + preciseUnit * 1) +
            u.grain price * e * preciseUnit := by
          gcongr
          exact value_le _ _ _ hm₂
      _ = q * (u.value price asset m' * preciseUnit) +
            q * (preciseUnit * u.value price asset 1) + u.grain price * e * preciseUnit := by
          rw [value_add, value_mul, value_mul]
          ring
      _ ≤ q * (u.value price asset m' * preciseUnit) + q * (preciseUnit * u.grain price) +
            u.grain price * e * preciseUnit := by
          gcongr
          exact value_one_le _ _ _
      _ = q * (u.value price asset m' * preciseUnit) +
            u.grain price * preciseUnit * (e + q) := by ring

/-- The minimum of the trade that is made loses no more than the tolerance. -/
theorem limits_of_limitRebalance (he : u.Evens price balance r)
    (h : u.limitRebalance r sellTokenQuantity = .ok r') :
    u.Limits price sellTokenQuantity r r' := by
  simp only [limitRebalance, bind_eq_ok, SafeMath.sub_eq_ok, PreciseUnitMath.preciseMul_eq_ok,
    pure_eq_ok] at h
  obtain ⟨r₁, h, _, ⟨htolerance, rfl⟩, m', ⟨hfit, hm'⟩, rfl⟩ := h
  have hword : InUint256 m' := lt_of_le_of_lt (hm' ▸ Nat.div_le_self _ _) hfit
  split_ifs at h with hpos
  · simp only [bind_eq_ok, require_eq_ok, PreciseUnitMath.preciseMul_eq_ok,
      PreciseUnitMath.preciseDiv_eq_ok, pure_eq_ok] at h
    obtain ⟨-, hle, k, ⟨-, hk⟩, m, ⟨-, hq, hm⟩, rfl⟩ := h
    obtain ⟨hmin, hmax⟩ := scale_bounds he hle hq hk hm
    obtain ⟨hmin', hmax'⟩ := tolerance_bounds (Nat.sub_le _ _) hm' hmin hmax
    refine ⟨rfl, rfl, (if_pos hpos).symm, hle, htolerance, hmin', ?_, hword⟩
    refine hmax'.trans (le_of_eq ?_)
    rw [roundings, if_pos hpos]
    ring
  · obtain rfl := Except.ok.inj h
    have hmax : r.quantityToSell * u.value price r.assetToSell r.quantityToSell ≤
        r.quantityToSell * u.value price r.assetToBuy r.minimumBuyToken +
          u.grain price * r.quantityToSell := by
      rw [Nat.mul_comm (u.grain price), ← Nat.mul_add]
      exact Nat.mul_le_mul_left _ he.le_minimum
    obtain ⟨hmin', hmax'⟩ := tolerance_bounds (Nat.sub_le _ _) hm' he.minimum_le hmax
    refine ⟨rfl, rfl, (if_neg hpos).symm, Nat.le_refl _, htolerance, hmin', ?_, hword⟩
    refine hmax'.trans (le_of_eq ?_)
    rw [roundings, if_neg hpos]
    ring

/-! ## What a rebalance costs -/

/-- What the Set has of the two assets is worth at a price. -/
def totalValue (u : UniswapYieldStrategy) (price : ℕ) (w : World) : ℕ :=
  u.value price u.assetOne (u.balanceOnSet w u.assetOne) +
    u.value price u.assetTwo (u.balanceOnSet w u.assetTwo)

/-- Sold for at least a minimum, an asset leaves the Set with no less than what it had and what the
minimum is worth, but for what is sold. -/
theorem totalValue_of_flow {minimum n : ℕ} (he : u.Evens price balance r)
    (hflow : Flow u.setToken w w' (only r.assetToBuy minimum) (only r.assetToSell n))
    (hassets : u.assetOne ≠ u.assetTwo) :
    u.totalValue price w + u.value price r.assetToBuy minimum ≤
      u.totalValue price w' + u.value price r.assetToSell n := by
  have hone := hflow.balances u.assetOne
  have htwo := hflow.balances u.assetTwo
  rcases he.assets with ⟨hsell, hbuy⟩ | ⟨hsell, hbuy⟩
  · rw [hsell, hbuy] at hone htwo ⊢
    simp only [only, if_true, if_neg hassets, if_neg hassets.symm, Nat.add_zero] at hone htwo
    have hvalueOne := u.value_le price u.assetOne hone
    have hvalueTwo := u.value_le price u.assetTwo htwo
    rw [value_add] at hvalueOne hvalueTwo
    unfold totalValue balanceOnSet
    omega
  · rw [hsell, hbuy] at hone htwo ⊢
    simp only [only, if_true, if_neg hassets, if_neg hassets.symm, Nat.add_zero] at hone htwo
    have hvalueOne := u.value_le price u.assetOne hone
    have hvalueTwo := u.value_le price u.assetTwo htwo
    rw [value_add] at hvalueOne hvalueTwo
    unfold totalValue balanceOnSet
    omega

/-- The trade of a rebalance is the even one, as it is limited. -/
theorem rebalanceInternal_spec (hr : u.Reliable env) (hassets : u.assetOne ≠ u.assetTwo)
    (h : u.rebalanceInternal self env w sellTokenQuantity = .ok w') :
    ∃ price r r', (env.priceOracles w.controller.getPriceOracle).getPrice w.controller env.readings
        self u.assetOne u.assetTwo = .ok price ∧
      u.calculateRebalance price (u.balanceOnSet w u.assetOne) (u.balanceOnSet w u.assetTwo) =
        .ok r ∧ u.limitRebalance r sellTokenQuantity = .ok r' ∧
      u.Evens price (u.balanceOnSet w) r ∧ u.Limits price sellTokenQuantity r r' ∧
      Flow u.setToken w w'
        (only r.assetToBuy (if 0 < r'.quantityToSell then r'.minimumBuyToken else 0))
        (only r.assetToSell r'.quantityToSell) := by
  simp only [rebalanceInternal, bind_eq_ok] at h
  obtain ⟨price, hprice, r, hr₁, r', hr', w₁, happrove, h⟩ := h
  have he : u.Evens price (u.balanceOnSet w) r := evens_of_calculateRebalance hassets hr₁
  have hl := limits_of_limitRebalance he hr'
  refine ⟨price, r, r', hprice, hr₁, hr', he, hl, ?_⟩
  rw [hl.assetToSell, hl.assetToBuy] at h
  have happrove := Flow.of_invokeApprove happrove
  have hword : InUint256 r'.quantityToSell := lt_of_le_of_lt hl.quantity_le he.quantity
  split_ifs at h ⊢ with hpos
  · have htrade := flow_of_invokeUniswapTrade hr hword hl.fits h
    refine (happrove.trans htrade).mono (fun c => ?_) fun c => ?_
    · exact Nat.le_add_left _ _
    · rw [Nat.zero_add]
  · obtain rfl := Except.ok.inj h
    refine happrove.mono (fun c => ?_) fun c => Nat.zero_le _
    simp [only]

end UniswapYieldStrategy

end SetProtocol
