import Mathlib.Algebra.BigOperators.Ring.Finset
import SetProtocol.Core.PositionViews
import SetProtocol.Core.PriceOracle
import SetProtocol.Core.World
import SetProtocol.Lib.Quotients

set_option relaxedAutoImplicit false
set_option autoImplicit false

/-!
# Valuations

`contracts/protocol/SetValuer.sol`. The value of a Set is the sum of the values of the units of its
components, debts included. Each term is rounded towards zero, so a debt is rounded in favour of
the Set.

## Main definitions

* `SetProtocol.SetValuer.calculateSetTokenValuation` — the value of a Set in a quote asset.
* `SetProtocol.SetValuer.exactValuation` — the value without rounding.

## Main results

* `SetProtocol.SetValuer.valuation_eq_sum` — in the master quote asset the valuation is the sum of
  the truncated terms.
* `SetProtocol.SetValuer.valuation_bounds` — it exceeds the exact value by at most the number of
  debts, and falls short of it by at most the number of holdings.
* `SetProtocol.SetValuer.valuation_overstated` — a valuation that exceeds the exact value.

## Implementation notes

The storage of the price oracles is not in the state of the protocol: the valuation takes it by
address, together with what the oracles read.
-/

namespace SetProtocol

open Checked

/-- `ResourceIdentifier.getPriceOracle`. -/
def Controller.getPriceOracle (c : Controller) : Address := c.resourceId 1

namespace SetValuer

/-! ## The valuation -/

/-- One round of the loop of `calculateSetTokenValuation`. -/
def addComponentValue (self : Address) (priceOracle : PriceOracle) (R : Readings) (w : World)
    (setToken : Address) (valuation : ℤ) (component : Address) : Except Revert ℤ := do
  let componentPrice ←
    priceOracle.getPrice w.controller R self component priceOracle.masterQuoteAsset
  let aggregateUnits ← (w.setTokens setToken).getTotalComponentRealUnits component
  -- the power is not checked for overflow
  let baseUnits := 10 ^ (w.tokens component).decimals % 2 ^ 256
  let normalizedUnits ←
    PreciseUnitMath.preciseDivInt aggregateUnits (← SafeCast.toInt256 baseUnits)
  SignedSafeMath.add
    (← PreciseUnitMath.preciseMulInt normalizedUnits (← SafeCast.toInt256 componentPrice)) valuation

/-- `calculateSetTokenValuation`, of the valuer at `self`. -/
def calculateSetTokenValuation (self : Address) (priceOracles : Address → PriceOracle)
    (R : Readings) (w : World) (setToken quoteAsset : Address) : Except Revert ℕ := do
  let priceOracle := priceOracles w.controller.getPriceOracle
  let masterQuoteAsset := priceOracle.masterQuoteAsset
  let components := (w.setTokens setToken).components
  let valuation ← components.foldlM (addComponentValue self priceOracle R w setToken) 0
  let valuation ← (
    if masterQuoteAsset ≠ quoteAsset then do
      let quoteToMaster ←
        priceOracle.getPrice w.controller R self quoteAsset masterQuoteAsset
      PreciseUnitMath.preciseDivInt valuation (← SafeCast.toInt256 quoteToMaster)
    else .ok valuation)
  SafeCast.toUint256 valuation

/-- The value of the components without rounding, from their units and prices. -/
def exactValuation (w : World) (components : List Address) (units : Address → ℤ)
    (price : Address → ℕ) : ℚ :=
  (components.map fun c =>
    ((units c * price c : ℤ) : ℚ) / ((10 ^ (w.tokens c).decimals : ℤ) : ℚ)).sum

/-! ## The sum of truncated terms -/

variable {self setToken quoteAsset : Address} {priceOracle : PriceOracle}
  {priceOracles : Address → PriceOracle} {R : Readings} {w : World} {units : Address → ℤ}
  {price : Address → ℕ} {c : Address} {valuation valuation' : ℤ} {value : ℕ}

/-- The two roundings of a term are one: the first one is exact. -/
theorem tdiv_mul_tdiv {u p : ℤ} {decimals : ℕ} (h : decimals ≤ 18) :
    ((u * preciseUnitInt).tdiv (10 ^ decimals) * p).tdiv preciseUnitInt =
      (u * p).tdiv (10 ^ decimals) := by
  have hpos : (0 : ℤ) < 10 ^ decimals := by positivity
  have hpos' : (0 : ℤ) < 10 ^ (18 - decimals) := by positivity
  have hunit : preciseUnitInt = 10 ^ (18 - decimals) * 10 ^ decimals := by
    rw [← pow_add, Nat.sub_add_cancel h]
    rfl
  have hexact : (u * preciseUnitInt).tdiv (10 ^ decimals) = 10 ^ (18 - decimals) * u := by
    rw [hunit, ← Int.mul_assoc, Int.mul_tdiv_cancel _ hpos.ne', Int.mul_comm]
  rw [hexact, hunit, Int.mul_assoc, Int.mul_tdiv_mul_of_pos _ _ hpos']

/-- A round adds the truncated value of the units of the component. -/
theorem addComponentValue_spec
    (hunits : (w.setTokens setToken).getTotalComponentRealUnits c = .ok (units c))
    (hprice : priceOracle.getPrice w.controller R self c priceOracle.masterQuoteAsset =
      .ok (price c))
    (hdecimals : (w.tokens c).decimals ≤ 18)
    (h : addComponentValue self priceOracle R w setToken valuation c = .ok valuation') :
    valuation' = (units c * price c).tdiv (10 ^ (w.tokens c).decimals) + valuation := by
  simp only [addComponentValue, hunits, hprice, ERC20.ten_pow_mod_of_le hdecimals, bind_eq_ok,
    Except.ok.injEq, exists_eq_left', SafeCast.toInt256_eq_ok, PreciseUnitMath.preciseDivInt,
    PreciseUnitMath.preciseMulInt, SignedSafeMath.mul_eq_ok, SignedSafeMath.div_eq_ok,
    SignedSafeMath.add_eq_ok] at h
  obtain ⟨_, ⟨-, rfl⟩, _, ⟨_, ⟨-, rfl⟩, -, -, rfl⟩, _, ⟨-, rfl⟩, _, ⟨_, ⟨-, rfl⟩, -, -, rfl⟩, -,
    rfl⟩ := h
  rw [Nat.cast_pow, Nat.cast_ofNat, tdiv_mul_tdiv hdecimals]

/-- The loop adds up the truncated values. -/
theorem foldlM_addComponentValue {components : List Address}
    (hunits : ∀ c ∈ components,
      (w.setTokens setToken).getTotalComponentRealUnits c = .ok (units c))
    (hprice : ∀ c ∈ components,
      priceOracle.getPrice w.controller R self c priceOracle.masterQuoteAsset = .ok (price c))
    (hdecimals : ∀ c ∈ components, (w.tokens c).decimals ≤ 18)
    (h : components.foldlM (addComponentValue self priceOracle R w setToken) valuation =
      .ok valuation') :
    valuation' = valuation +
      (components.map fun c => (units c * price c).tdiv (10 ^ (w.tokens c).decimals)).sum := by
  induction components generalizing valuation with
  | nil =>
    obtain rfl : valuation = valuation' := by simpa using h
    simp
  | cons c components ih =>
    obtain ⟨hunit, hunits⟩ := List.forall_mem_cons.mp hunits
    obtain ⟨hcprice, hprice⟩ := List.forall_mem_cons.mp hprice
    obtain ⟨hcdecimals, hdecimals⟩ := List.forall_mem_cons.mp hdecimals
    obtain ⟨next, hround, hrest⟩ := foldlM_cons_eq_ok.mp h
    rw [ih hunits hprice hdecimals hrest, addComponentValue_spec hunit hcprice hcdecimals hround,
      List.map_cons, List.sum_cons]
    ring

/-- In the master quote asset the valuation is the sum of the truncated values. -/
theorem valuation_eq_sum
    (hunits : ∀ c ∈ (w.setTokens setToken).components,
      (w.setTokens setToken).getTotalComponentRealUnits c = .ok (units c))
    (hprice : ∀ c ∈ (w.setTokens setToken).components,
      (priceOracles w.controller.getPriceOracle).getPrice w.controller R self c quoteAsset =
        .ok (price c))
    (hdecimals : ∀ c ∈ (w.setTokens setToken).components, (w.tokens c).decimals ≤ 18)
    (hquote : (priceOracles w.controller.getPriceOracle).masterQuoteAsset = quoteAsset)
    (h : calculateSetTokenValuation self priceOracles R w setToken quoteAsset = .ok value) :
    (value : ℤ) = ((w.setTokens setToken).components.map fun c =>
      (units c * price c).tdiv (10 ^ (w.tokens c).decimals)).sum := by
  subst hquote
  simp only [calculateSetTokenValuation, bind_eq_ok, ne_eq, not_true_eq_false, if_false,
    Except.ok.injEq, exists_eq_left', SafeCast.toUint256_eq_ok] at h
  obtain ⟨_, hloop, rfl⟩ := h
  rw [foldlM_addComponentValue hunits hprice hdecimals hloop, Int.zero_add]

/-- **The error of a valuation** in the master quote asset, for components of at most 18 decimals:
it is the sum of the exact values, each truncated towards zero. It exceeds the exact value by no
more than the number of components with a debt, and falls short of it by no more than the number of
components with holdings. -/
theorem valuation_bounds
    (hunits : ∀ c ∈ (w.setTokens setToken).components,
      (w.setTokens setToken).getTotalComponentRealUnits c = .ok (units c))
    (hprice : ∀ c ∈ (w.setTokens setToken).components,
      (priceOracles w.controller.getPriceOracle).getPrice w.controller R self c quoteAsset =
        .ok (price c))
    (hdecimals : ∀ c ∈ (w.setTokens setToken).components, (w.tokens c).decimals ≤ 18)
    (hquote : (priceOracles w.controller.getPriceOracle).masterQuoteAsset = quoteAsset)
    (h : calculateSetTokenValuation self priceOracles R w setToken quoteAsset = .ok value) :
    (value : ℤ) = ((w.setTokens setToken).components.map fun c =>
      (units c * price c).tdiv (10 ^ (w.tokens c).decimals)).sum ∧
    (value : ℚ) ≤ exactValuation w (w.setTokens setToken).components units price +
      (w.setTokens setToken).components.countP (fun c => units c < 0) ∧
    exactValuation w (w.setTokens setToken).components units price ≤
      value + (w.setTokens setToken).components.countP (fun c => 0 < units c) := by
  have hsum := valuation_eq_sum hunits hprice hdecimals hquote h
  have hcast : (value : ℚ) = ((w.setTokens setToken).components.map fun c =>
      (((units c * price c).tdiv (10 ^ (w.tokens c).decimals) : ℤ) : ℚ)).sum := by
    rw [← Int.cast_natCast, hsum, Int.cast_list_sum, List.map_map]
    rfl
  have hpos : ∀ c, (0 : ℤ) < 10 ^ (w.tokens c).decimals := fun c => by positivity
  refine ⟨hsum, ?_, ?_⟩
  · rw [hcast]
    refine Rounding.sum_map_le_add_countP fun c _ => ?_
    refine (Rounding.tdiv_le_add_ite (units c * price c) (hpos c)).trans ?_
    have hmark : units c * price c < 0 → units c < 0 := fun hneg =>
      neg_of_mul_neg_left hneg (Int.natCast_nonneg _)
    split_ifs with h₁ h₂
    · exact le_rfl
    · exact absurd (hmark h₁) h₂
    · linarith
    · exact le_rfl
  · rw [hcast]
    refine Rounding.sum_map_le_add_countP fun c _ => ?_
    refine (Rounding.div_le_tdiv_add_ite (units c * price c) (hpos c)).trans ?_
    have hmark : 0 < units c * price c → 0 < units c := fun hpos =>
      pos_of_mul_pos_left hpos (Int.natCast_nonneg _)
    split_ifs with h₁ h₂
    · exact le_rfl
    · exact absurd (hmark h₁) h₂
    · linarith
    · exact le_rfl

/-! ## Example -/

/-- The Set `100` of one token `11` and of a debt of one base unit of the token `12`, with the price
oracle `8`. -/
def exampleWorld : World :=
  { controller :=
      { isResource := fun a => a = 8 ∨ a = 9
        resourceId := fun id => if id = 1 then 8 else zeroAddress }
    setTokens := fun _ =>
      { components := [11, 12]
        componentPositions := fun c =>
          if c = 11 then { virtualUnit := 10 ^ 18 }
          else
            { externalPositionModules := [5]
              externalPositions := fun m => if m = 5 then { virtualUnit := -1 } else {} }
        positionMultiplier := 10 ^ 18 } }

/-- The oracles of both tokens, which quote the same asset. -/
def exampleOracles (a : Address) : PriceOracle :=
  if a = 8 then
    { oracles := fun _ b => if b = 10 then 20 else zeroAddress
      masterQuoteAsset := 10 }
  else {}

/-- The units of the example. -/
def exampleUnits (c : Address) : ℤ := if c = 11 then 10 ^ 18 else -1

/-- The components of the example. -/
private theorem mem_components_exampleWorld (hc : c ∈ (exampleWorld.setTokens 100).components) :
    c = 11 ∨ c = 12 := by
  simpa [exampleWorld] using hc

/-- The units of the components of the example. -/
private theorem getTotalComponentRealUnits_exampleWorld :
    ∀ c ∈ (exampleWorld.setTokens 100).components,
      (exampleWorld.setTokens 100).getTotalComponentRealUnits c = .ok (exampleUnits c) := by
  intro c hc
  rcases mem_components_exampleWorld hc with rfl | rfl <;> rfl

/-- The price of both components of the example is one half. -/
private theorem getPrice_exampleWorld :
    ∀ c ∈ (exampleWorld.setTokens 100).components,
      (exampleOracles exampleWorld.controller.getPriceOracle).getPrice exampleWorld.controller
        { read := fun _ => .ok (5 * 10 ^ 17) } 9 c 10 = .ok (5 * 10 ^ 17) := by
  intro c hc
  rcases mem_components_exampleWorld hc with rfl | rfl <;> rfl

/-- The valuation of the example leaves out the debt. -/
private theorem valuation_exampleWorld :
    calculateSetTokenValuation 9 exampleOracles { read := fun _ => .ok (5 * 10 ^ 17) } exampleWorld
      100 10 = .ok (5 * 10 ^ 17) := by
  rfl

/-- A debt of one base unit at a price of one half counts for nothing, so that the valuation is
more than the exact value. -/
theorem valuation_overstated :
    (∀ c ∈ (exampleWorld.setTokens 100).components,
      (exampleWorld.setTokens 100).getTotalComponentRealUnits c = .ok (exampleUnits c)) ∧
    (∀ c ∈ (exampleWorld.setTokens 100).components,
      (exampleOracles exampleWorld.controller.getPriceOracle).getPrice exampleWorld.controller
        { read := fun _ => .ok (5 * 10 ^ 17) } 9 c 10 = .ok (5 * 10 ^ 17)) ∧
    (∀ c ∈ (exampleWorld.setTokens 100).components, (exampleWorld.tokens c).decimals ≤ 18) ∧
    (exampleOracles exampleWorld.controller.getPriceOracle).masterQuoteAsset = 10 ∧
    ∃ value : ℕ, calculateSetTokenValuation 9 exampleOracles { read := fun _ => .ok (5 * 10 ^ 17) }
        exampleWorld 100 10 = .ok value ∧
      exactValuation exampleWorld (exampleWorld.setTokens 100).components exampleUnits
        (fun _ => 5 * 10 ^ 17) < value := by
  refine ⟨getTotalComponentRealUnits_exampleWorld, getPrice_exampleWorld, fun _ _ => le_rfl,
    by decide, 5 * 10 ^ 17, valuation_exampleWorld, ?_⟩
  have hother : (12 : Address) ≠ 11 := by decide
  simp only [exactValuation, exampleWorld, exampleUnits, List.map_cons, List.map_nil,
    List.sum_cons, List.sum_nil, if_true, hother, if_false]
  norm_num

/-- By less than one. -/
theorem valuation_bounds_example :
    ((5 * 10 ^ 17 : ℕ) : ℚ) ≤
      exactValuation exampleWorld (exampleWorld.setTokens 100).components exampleUnits
        (fun _ => 5 * 10 ^ 17) +
      ((exampleWorld.setTokens 100).components.countP fun c => exampleUnits c < 0 : ℕ) :=
  (valuation_bounds getTotalComponentRealUnits_exampleWorld getPrice_exampleWorld
    (fun _ _ => le_rfl) (by decide) valuation_exampleWorld).2.1

end SetValuer

end SetProtocol
