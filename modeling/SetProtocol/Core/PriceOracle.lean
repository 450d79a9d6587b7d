import SetProtocol.Core.Controller
import SetProtocol.Math.PreciseUnitMath

set_option relaxedAutoImplicit false
set_option autoImplicit false

/-!
# Prices

`contracts/protocol/PriceOracle.sol`. The price of a pair is read from its oracle in either
direction; failing that, it is computed from the prices of the two assets in the master quote asset;
failing that, the adapters are asked.

## Main definitions

* `SetProtocol.PriceOracle` — the storage.
* `SetProtocol.PriceOracle.getPrice` — the price of a pair.
* `SetProtocol.PriceOracle.Route`, `route` — which of the three ways a price comes from.

## Main results

* `SetProtocol.PriceOracle.getPrice_spec` — a price comes from its route.
* `SetProtocol.PriceOracle.route_comm` — the two directions of a pair use the same route.
* `SetProtocol.PriceOracle.getPrice_mul_getPrice_le` — the prices of the two directions have a
  product of at most one.

## Implementation notes

The oracles and the adapters are outside the protocol. `Readings` has what they answer.
-/

namespace SetProtocol

open Checked

/-- The storage of the price oracle. -/
structure PriceOracle where
  /-- The controller. -/
  controller : Address := zeroAddress
  /-- The oracle of each pair. -/
  oracles : Address → Address → Address := fun _ _ => zeroAddress
  /-- The asset that links pairs without an oracle. -/
  masterQuoteAsset : Address := zeroAddress
  /-- The adapters that price the assets of other protocols. -/
  adapters : List Address := []

/-- What the contracts outside the protocol answer. -/
structure Readings where
  /-- `IOracle.read`. -/
  read : Address → Except Revert ℕ := fun _ => .ok 0
  /-- `IOracleAdapter.getPrice`. -/
  getPrice (adapter assetOne assetTwo : Address) : Except Revert (Bool × ℕ) := .ok (false, 0)

namespace PriceOracle

/-- `_calculateInversePrice`. -/
def calculateInversePrice (R : Readings) (inverseOracle : Address) : Except Revert ℕ := do
  let inverseValue ← R.read inverseOracle
  PreciseUnitMath.preciseDiv preciseUnit inverseValue

/-- `_getDirectOrInversePrice`. -/
def getDirectOrInversePrice (P : PriceOracle) (R : Readings) (assetOne assetTwo : Address) :
    Except Revert (Bool × ℕ) :=
  let directOracle := P.oracles assetOne assetTwo
  if directOracle ≠ zeroAddress then do
    let price ← R.read directOracle
    return (true, price)
  else
    let inverseOracle := P.oracles assetTwo assetOne
    if inverseOracle ≠ zeroAddress then do
      let price ← calculateInversePrice R inverseOracle
      return (true, price)
    else .ok (false, 0)

/-- `_getPriceFromMasterQuote`. -/
def getPriceFromMasterQuote (P : PriceOracle) (R : Readings) (assetOne assetTwo : Address) :
    Except Revert (Bool × ℕ) := do
  let (priceFoundOne, assetOnePrice) ← P.getDirectOrInversePrice R assetOne P.masterQuoteAsset
  let (priceFoundTwo, assetTwoPrice) ← P.getDirectOrInversePrice R assetTwo P.masterQuoteAsset
  if priceFoundOne ∧ priceFoundTwo then do
    let price ← PreciseUnitMath.preciseDiv assetOnePrice assetTwoPrice
    return (true, price)
  else .ok (false, 0)

/-- The loop of `_getPriceFromAdapters`, over the adapters to come. -/
def getPriceFromAdaptersLoop (R : Readings) (assetOne assetTwo : Address) :
    List Address → Except Revert (Bool × ℕ)
  | [] => .ok (false, 0)
  | adapter :: adapters => do
    let (priceFound, price) ← R.getPrice adapter assetOne assetTwo
    if priceFound then return (priceFound, price)
    getPriceFromAdaptersLoop R assetOne assetTwo adapters

/-- `_getPriceFromAdapters`. -/
def getPriceFromAdapters (P : PriceOracle) (R : Readings) (assetOne assetTwo : Address) :
    Except Revert (Bool × ℕ) :=
  getPriceFromAdaptersLoop R assetOne assetTwo P.adapters

/-- `getPrice`. -/
def getPrice (P : PriceOracle) (c : Controller) (R : Readings)
    (msgSender assetOne assetTwo : Address) : Except Revert ℕ := do
  require (c.isSystemContract P.controller msgSender = true)
    "PriceOracle.getPrice: Caller must be system contract."
  let (priceFound, price) ← P.getDirectOrInversePrice R assetOne assetTwo
  let (priceFound, price) ← (
    if !priceFound then P.getPriceFromMasterQuote R assetOne assetTwo
    else .ok (priceFound, price))
  let (priceFound, price) ← (
    if !priceFound then P.getPriceFromAdapters R assetOne assetTwo
    else .ok (priceFound, price))
  require (priceFound = true) "PriceOracle.getPrice: Price not found."
  return price

/-! ## Routes -/

/-- Where a price comes from. -/
inductive Route
  /-- The oracle of the pair, in either direction. -/
  | oracle
  /-- The oracles of the two assets and the master quote asset. -/
  | masterQuote
  /-- An adapter. -/
  | adapters
  deriving DecidableEq

/-- The pair has an oracle in one of the directions. -/
def HasOracle (P : PriceOracle) (assetOne assetTwo : Address) : Prop :=
  P.oracles assetOne assetTwo ≠ zeroAddress ∨ P.oracles assetTwo assetOne ≠ zeroAddress

instance (P : PriceOracle) (assetOne assetTwo : Address) :
    Decidable (P.HasOracle assetOne assetTwo) := inferInstanceAs (Decidable (_ ∨ _))

/-- The first of the three ways that finds a price. -/
def route (P : PriceOracle) (assetOne assetTwo : Address) : Route :=
  if P.HasOracle assetOne assetTwo then .oracle
  else if P.HasOracle assetOne P.masterQuoteAsset ∧ P.HasOracle assetTwo P.masterQuoteAsset then
    .masterQuote
  else .adapters

variable {P : PriceOracle} {c : Controller} {R : Readings}
  {sender sender' assetOne assetTwo : Address} {p q : ℕ} {found : Bool}

/-- A pair has an oracle in either direction or in neither. -/
theorem hasOracle_comm (P : PriceOracle) (assetOne assetTwo : Address) :
    P.HasOracle assetOne assetTwo ↔ P.HasOracle assetTwo assetOne := or_comm

/-- The two directions of a pair use the same route. -/
theorem route_comm (P : PriceOracle) (assetOne assetTwo : Address) :
    P.route assetOne assetTwo = P.route assetTwo assetOne := by
  simp only [route, hasOracle_comm P assetOne assetTwo,
    and_comm (a := P.HasOracle assetOne P.masterQuoteAsset)]

/-- The oracle of a pair finds a price when there is one in either direction. -/
theorem found_of_getDirectOrInversePrice
    (h : P.getDirectOrInversePrice R assetOne assetTwo = .ok (found, p)) :
    found = true ↔ P.HasOracle assetOne assetTwo := by
  simp only [getDirectOrInversePrice] at h
  unfold HasOracle
  split_ifs at h with hdirect hinverse
  · simp only [bind_eq_ok, pure_eq_ok, Prod.mk.injEq] at h
    obtain ⟨_, -, rfl, -⟩ := h
    exact ⟨fun _ => Or.inl hdirect, fun _ => rfl⟩
  · simp only [bind_eq_ok, pure_eq_ok, Prod.mk.injEq] at h
    obtain ⟨_, -, rfl, -⟩ := h
    exact ⟨fun _ => Or.inr hinverse, fun _ => rfl⟩
  · simp only [Except.ok.injEq, Prod.mk.injEq] at h
    rw [← h.1]
    exact ⟨fun hfound => absurd hfound (by decide), fun hor => (hor.elim hdirect hinverse).elim⟩

/-- The master quote asset finds a price when both assets have an oracle with it. -/
theorem found_of_getPriceFromMasterQuote
    (h : P.getPriceFromMasterQuote R assetOne assetTwo = .ok (found, p)) :
    found = true ↔
      P.HasOracle assetOne P.masterQuoteAsset ∧ P.HasOracle assetTwo P.masterQuoteAsset := by
  simp only [getPriceFromMasterQuote, bind_eq_ok] at h
  obtain ⟨⟨foundOne, priceOne⟩, hone, ⟨foundTwo, priceTwo⟩, htwo, h⟩ := h
  rw [← found_of_getDirectOrInversePrice hone, ← found_of_getDirectOrInversePrice htwo]
  split_ifs at h with hboth
  · simp only [bind_eq_ok, pure_eq_ok, Prod.mk.injEq] at h
    obtain ⟨_, -, rfl, -⟩ := h
    simpa using hboth
  · simp only [Except.ok.injEq, Prod.mk.injEq] at h
    simpa [← h.1] using hboth

/-- A price comes from its route. -/
theorem getPrice_spec (h : P.getPrice c R sender assetOne assetTwo = .ok p) :
    match P.route assetOne assetTwo with
    | .oracle => P.getDirectOrInversePrice R assetOne assetTwo = .ok (true, p)
    | .masterQuote => P.getPriceFromMasterQuote R assetOne assetTwo = .ok (true, p)
    | .adapters => P.getPriceFromAdapters R assetOne assetTwo = .ok (true, p) := by
  simp only [getPrice, bind_eq_ok, require_eq_ok, pure_eq_ok] at h
  obtain ⟨-, -, ⟨found₁, p₁⟩, h₁, ⟨found₂, p₂⟩, h₂, ⟨found₃, p₃⟩, h₃, -, rfl, rfl⟩ := h
  have hfound₁ := found_of_getDirectOrInversePrice h₁
  cases found₁ with
  | true =>
    obtain ⟨rfl, rfl⟩ : true = found₂ ∧ p₁ = p₂ := by simpa using h₂
    obtain rfl : p₁ = p₃ := by simpa using h₃
    rw [route, if_pos (hfound₁.mp rfl)]
    exact h₁
  | false =>
    have hnone : ¬P.HasOracle assetOne assetTwo := fun hp => by simpa using hfound₁.mpr hp
    have h₂ : P.getPriceFromMasterQuote R assetOne assetTwo = .ok (found₂, p₂) := by simpa using h₂
    have hfound₂ := found_of_getPriceFromMasterQuote h₂
    cases found₂ with
    | true =>
      obtain rfl : p₂ = p₃ := by simpa using h₃
      rw [route, if_neg hnone, if_pos (hfound₂.mp rfl)]
      exact h₂
    | false =>
      rw [route, if_neg hnone, if_neg fun hp => by simpa using hfound₂.mpr hp]
      simpa using h₃

/-! ## The two directions of a pair -/

/-- The prices of the two directions, from one oracle. -/
theorem direct_mul_inverse_le (hnone : P.oracles assetTwo assetOne = zeroAddress)
    (h₁ : P.getDirectOrInversePrice R assetOne assetTwo = .ok (true, p))
    (h₂ : P.getDirectOrInversePrice R assetTwo assetOne = .ok (true, q)) :
    p * q ≤ preciseUnit * preciseUnit := by
  have hdirect : P.oracles assetOne assetTwo ≠ zeroAddress := by
    intro hdirect
    simp [getDirectOrInversePrice, hdirect, hnone] at h₁
  simp only [getDirectOrInversePrice, hdirect, hnone, ne_eq, not_false_eq_true, not_true, if_true,
    if_false, bind_eq_ok, pure_eq_ok, Prod.mk.injEq, true_and, exists_eq_right] at h₁ h₂
  simp only [calculateInversePrice, bind_eq_ok, h₁, Except.ok.injEq, exists_eq_left',
    PreciseUnitMath.preciseDiv_eq_ok] at h₂
  obtain ⟨-, -, rfl⟩ := h₂
  exact Nat.mul_div_le _ _

/-- The prices of the two directions, from the prices of the assets in the master quote asset. -/
theorem masterQuote_mul_masterQuote_le
    (h₁ : P.getPriceFromMasterQuote R assetOne assetTwo = .ok (true, p))
    (h₂ : P.getPriceFromMasterQuote R assetTwo assetOne = .ok (true, q)) :
    p * q ≤ preciseUnit * preciseUnit := by
  simp only [getPriceFromMasterQuote, bind_eq_ok] at h₁ h₂
  obtain ⟨⟨foundOne, priceOne⟩, hone, ⟨foundTwo, priceTwo⟩, htwo, h₁⟩ := h₁
  simp only [hone, htwo, Except.ok.injEq, exists_eq_left'] at h₂
  split_ifs at h₁ h₂ with hboth hboth'
  · simp only [bind_eq_ok, pure_eq_ok, Prod.mk.injEq, true_and, exists_eq_right,
      PreciseUnitMath.preciseDiv_eq_ok] at h₁ h₂
    obtain ⟨-, htwo, rfl⟩ := h₁
    obtain ⟨-, hone, rfl⟩ := h₂
    exact Rounding.div_mul_inverse_le hone htwo
  · simp at h₂
  · simp at h₁
  · simp at h₁

/-- **Inverting a query creates no value**: where a pair has an oracle in at most one direction, and
the price of one direction is not from an adapter, neither is the other one, both use the same
route, and their product is at most one. -/
theorem getPrice_mul_getPrice_le
    (hone : P.oracles assetOne assetTwo = zeroAddress ∨ P.oracles assetTwo assetOne = zeroAddress)
    (h₁ : P.getPrice c R sender assetOne assetTwo = .ok p)
    (h₂ : P.getPrice c R sender' assetTwo assetOne = .ok q)
    (hroute : P.route assetOne assetTwo ≠ .adapters) :
    P.route assetTwo assetOne = P.route assetOne assetTwo ∧ p * q ≤ 10 ^ 36 := by
  have hcomm := route_comm P assetOne assetTwo
  have hp := getPrice_spec h₁
  have hq := getPrice_spec h₂
  refine ⟨hcomm.symm, ?_⟩
  rw [show 10 ^ 36 = preciseUnit * preciseUnit by decide]
  rw [← hcomm] at hq
  cases hr : P.route assetOne assetTwo with
  | oracle =>
    rw [hr] at hp hq
    rcases hone with hnone | hnone
    · rw [Nat.mul_comm]
      exact direct_mul_inverse_le hnone hq hp
    · exact direct_mul_inverse_le hnone hp hq
  | masterQuote =>
    rw [hr] at hp hq
    exact masterQuote_mul_masterQuote_le hp hq
  | adapters => exact absurd hr hroute

/-- The asset `12` has an oracle that quotes the master quote asset `10` in it, and the asset `11`
one that it is quoted by; there is none for the pair. -/
def exampleOracle : PriceOracle :=
  { oracles := fun a b => if a = 11 ∧ b = 10 then 21 else if a = 10 ∧ b = 12 then 22 else 0
    masterQuoteAsset := 10 }

/-- In the example, which asset is priced in the other one makes no difference to the route. -/
theorem getPrice_mul_getPrice_le_example :
    ∃ p q, exampleOracle.getPrice { isModule := fun a => a = 4 } { read := fun a => .ok a.toNat }
        4 11 12 = .ok p ∧
      exampleOracle.getPrice { isModule := fun a => a = 4 } { read := fun a => .ok a.toNat }
        4 12 11 = .ok q ∧
      exampleOracle.route 12 11 = exampleOracle.route 11 12 ∧ p * q ≤ 10 ^ 36 := by
  obtain ⟨p, hp, -⟩ := exists_of_yields
    (x := exampleOracle.getPrice { isModule := fun a => a = 4 } { read := fun a => .ok a.toNat }
      4 11 12) (p := fun _ => true) (by decide +kernel)
  obtain ⟨q, hq, -⟩ := exists_of_yields
    (x := exampleOracle.getPrice { isModule := fun a => a = 4 } { read := fun a => .ok a.toNat }
      4 12 11) (p := fun _ => true) (by decide +kernel)
  exact ⟨p, q, hp, hq, getPrice_mul_getPrice_le (Or.inl rfl) hp hq (by decide +kernel)⟩

end PriceOracle

end SetProtocol
