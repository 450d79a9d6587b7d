import SetProtocol.Modules.StreamingFeeModule

set_option relaxedAutoImplicit false
set_option autoImplicit false

/-!
# What an accrual mints against what it takes

An accrual of the share `f` mints the quantity that makes up the share `f` of the new supply, and
scales the multiplier by `1 - f`. Both are rounded down, and so is the part of the protocol, which
is taken out of the quantity.

## Main results

* `SetProtocol.StreamingFeeModule.Accrued.inflation_mul_le` — the fee recipients get no more than
  the share.
* `SetProtocol.StreamingFeeModule.Accrued.lt_inflation_succ_mul` — they lose less than one unit.
* `SetProtocol.StreamingFeeModule.Accrued.supply_mul_le` — the supply grows by no more than the
  share.
* `SetProtocol.StreamingFeeModule.Accrued.scaled_mul_supply_le` — the claims of all Sets together
  do not grow.
* `SetProtocol.StreamingFeeModule.accrueFee_balanced` — the three of them, for an accrual.
-/

namespace SetProtocol

open Checked

namespace StreamingFeeModule

variable {self setToken : Address} {w w' : World}

/-- The quantity minted is no more than the share of the supply it makes up. -/
theorem Accrued.inflation_mul_le (hw' : Accrued self setToken w w') :
    inflation w setToken * preciseUnit ≤ streamingFee w setToken * w'.totalSupply setToken := by
  have hfloor : inflation w setToken * (preciseUnit - streamingFee w setToken) ≤
      streamingFee w setToken * w.totalSupply setToken := Nat.div_mul_le_self _ _
  obtain ⟨rest, hrest⟩ := Nat.exists_eq_add_of_le hw'.fee_lt.le
  rw [hrest, Nat.add_sub_cancel_left] at hfloor
  rw [hw'.supply]
  calc inflation w setToken * preciseUnit
      = streamingFee w setToken * inflation w setToken + inflation w setToken * rest := by
        rw [hrest, Nat.mul_add, Nat.mul_comm (inflation w setToken)]
    _ ≤ streamingFee w setToken * inflation w setToken +
          streamingFee w setToken * w.totalSupply setToken := Nat.add_le_add_left hfloor _
    _ = streamingFee w setToken * (w.totalSupply setToken + inflation w setToken) := by
        rw [Nat.mul_add, Nat.add_comm]

/-- One unit more would be more than the share. -/
theorem Accrued.lt_inflation_succ_mul (hw' : Accrued self setToken w w') :
    streamingFee w setToken * w.totalSupply setToken <
      (inflation w setToken + 1) * (preciseUnit - streamingFee w setToken) := by
  have hpos : 0 < preciseUnit - streamingFee w setToken := Nat.sub_pos_of_lt hw'.fee_lt
  rw [Nat.mul_comm (inflation w setToken + 1)]
  exact Nat.lt_mul_div_succ _ hpos

/-- What is left of a whole Set after the fee. -/
theorem Accrued.fee_lt_int (hw' : Accrued self setToken w w') :
    (0 : ℤ) < preciseUnitInt - (streamingFee w setToken : ℤ) := by
  have := hw'.fee_lt
  rw [← natCast_preciseUnit]
  omega

/-- The part of the new supply that is left after the fee is no more than the supply before. -/
theorem Accrued.supply_mul_le (hw' : Accrued self setToken w w') :
    (w'.totalSupply setToken : ℤ) * (preciseUnitInt - (streamingFee w setToken : ℤ)) ≤
      (w.totalSupply setToken : ℤ) * preciseUnitInt := by
  have hfloor := Nat.div_mul_le_self (streamingFee w setToken * w.totalSupply setToken)
    (preciseUnit - streamingFee w setToken)
  rw [← inflation] at hfloor
  have hfloor' : (inflation w setToken : ℤ) * (preciseUnitInt - streamingFee w setToken) ≤
      streamingFee w setToken * w.totalSupply setToken := by
    rw [← natCast_preciseUnit, ← Nat.cast_sub hw'.fee_lt.le]
    exact_mod_cast hfloor
  rw [hw'.supply, Nat.cast_add]
  linarith

/-- Accrual scales the multiplier and the supply against each other. -/
theorem Accrued.scaled_mul_supply_le (hw' : Accrued self setToken w w')
    (hm : 0 < (w.setTokens setToken).positionMultiplier) :
    scaledMultiplier w setToken * (w'.totalSupply setToken : ℤ) ≤
      (w.setTokens setToken).positionMultiplier * (w.totalSupply setToken : ℤ) := by
  have hfee := hw'.fee_lt_int
  refine Rounding.mul_le_of_scaled preciseUnitInt_pos hfee ?_ (Int.natCast_nonneg _) ?_
    hw'.supply_mul_le
  · exact Int.ediv_nonneg (Int.mul_nonneg hm.le hfee.le) preciseUnitInt_pos.le
  · exact Int.ediv_mul_le _ preciseUnitInt_pos.ne'

/-- What the manager and the protocol are minted makes up no more than the fee share of the new
supply, falls short of it by less than one unit, and is paid for by the multiplier: the claims of
all Sets together do not grow. -/
theorem accrueFee_balanced (hm : 0 < (w.setTokens setToken).positionMultiplier)
    (h : accrueFee self w setToken = .ok w') :
    ∃ managerFee protocolFee : ℕ,
      (∀ a, (w'.tokens setToken).balances a = (w.tokens setToken).balances a +
        ((if a = (w.feeStates setToken).feeRecipient then managerFee else 0) +
          if a = w.controller.feeRecipient then protocolFee else 0)) ∧
      w'.totalSupply setToken = w.totalSupply setToken + (managerFee + protocolFee) ∧
      streamingFee w setToken < preciseUnit ∧
      (managerFee + protocolFee) * preciseUnit ≤
        streamingFee w setToken * (w.totalSupply setToken + (managerFee + protocolFee)) ∧
      streamingFee w setToken * w.totalSupply setToken <
        (managerFee + protocolFee + 1) * (preciseUnit - streamingFee w setToken) ∧
      ((w.totalSupply setToken + (managerFee + protocolFee) : ℕ) : ℤ) *
          (w'.setTokens setToken).positionMultiplier ≤
        w.totalSupply setToken * (w.setTokens setToken).positionMultiplier := by
  have hw' := accrueFee_spec hm h
  have htotal : inflation w setToken - protocolInflation self w setToken +
      protocolInflation self w setToken = inflation w setToken :=
    Nat.sub_add_cancel hw'.protocol_le
  refine ⟨inflation w setToken - protocolInflation self w setToken,
    protocolInflation self w setToken, fun a => ?_, ?_⟩
  · rw [hw'.balances, if_pos rfl]
    rfl
  rw [htotal, ← hw'.supply]
  refine ⟨rfl, hw'.fee_lt, hw'.inflation_mul_le, hw'.lt_inflation_succ_mul, ?_⟩
  have hclaims := hw'.scaled_mul_supply_le hm
  rw [hw'.scaled, Int.mul_comm, Int.mul_comm (w.totalSupply setToken : ℤ)]
  exact hclaims

/-- The Set `100` has been without an accrual for a year at a rate of one percent; the protocol
takes a tenth. -/
def accrualExample : World :=
  { controller :=
      { isSet := fun a => a = 100
        isModule := fun a => a = 4
        feeRecipient := 60
        fees := fun _ _ => 10 ^ 17 }
    tokens := fun _ =>
      { balances := fun b => if b = 50 then 10 ^ 18 else 0, totalSupply := 10 ^ 18 }
    setTokens := fun _ =>
      { moduleStates := fun _ => .initialized
        components := [11]
        componentPositions := fun _ => { virtualUnit := 10 ^ 18 }
        positionMultiplier := 10 ^ 18 }
    feeStates := fun _ =>
      { feeRecipient := 61
        maxStreamingFeePercentage := 10 ^ 17
        streamingFeePercentage := 10 ^ 16 }
    timestamp := oneYearInSeconds }

/-- In the example the supply grows by no more than a hundredth of what it grows to. -/
theorem accrueFee_balanced_example :
    ∃ w', accrueFee 4 accrualExample 100 = .ok w' ∧ ∃ managerFee protocolFee : ℕ,
      w'.totalSupply 100 = 10 ^ 18 + (managerFee + protocolFee) ∧
      (managerFee + protocolFee) * preciseUnit ≤
        10 ^ 16 * (10 ^ 18 + (managerFee + protocolFee)) := by
  obtain ⟨w', hw', -⟩ := exists_of_yields (x := accrueFee 4 accrualExample 100)
    (p := fun _ => true) (by decide +kernel)
  obtain ⟨managerFee, protocolFee, -, hsupply, -, hle, -⟩ :=
    accrueFee_balanced (by decide +kernel) hw'
  exact ⟨w', hw', managerFee, protocolFee, hsupply, hle⟩

end StreamingFeeModule

end SetProtocol
