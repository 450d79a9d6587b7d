import SetProtocol.Positions.Collateralised
import SetProtocol.Streaming.Accrual

set_option relaxedAutoImplicit false
set_option autoImplicit false

/-!
# Streaming fees and collateral

Accrual inflates the supply by some ratio and scales the multiplier down by at least that ratio,
so what a Set needs of a component before rounding does not grow. But a Set may hold less than
that: it only holds what its rounded unit asks for. Where a unit hides a fraction, accrual can take
from the fraction and leave the rounded unit as it is, while the supply grows.

Two conditions on the state before keep a component collateralised. The balance backs the unit
before rounding, and then it goes with the multiplier; or it has enough to spare for the supply to
grow by the share of the fee, and then the unit need not fall at all.

## Main definitions

* `SetProtocol.StreamingCollateral.CoversFee` — one of the two conditions.

## Main results

* `SetProtocol.StreamingCollateral.collateralised_of_accrueFee` — the Set stays collateralised where
  there is no fee, or its balances cover the fee.
* `SetProtocol.StreamingCollateral.accrueFee_undercollateralises` — an accrual after which the Set
  is not collateralised.
-/

namespace SetProtocol

namespace StreamingCollateral

open Checked StreamingFeeModule

variable {self setToken c : Address} {w w' : World}

/-- The Set holds enough of the component for the unit before rounding, or it holds so much that the
part of the balance that is left after the fee covers the unit for the whole supply. -/
def CoversFee (w : World) (setToken c : Address) : Prop :=
  BackedBeforeRounding w setToken c ∨
    (w.setTokens setToken).defaultRealUnit c * (w.totalSupply setToken : ℤ) ≤
      ((w.tokens c).balances setToken : ℤ) * (preciseUnitInt - (streamingFee w setToken : ℤ))

instance (w : World) (setToken c : Address) : Decidable (CoversFee w setToken c) :=
  inferInstanceAs (Decidable (_ ∨ _))

/-- Without a fee the whole balance is left. -/
theorem coversFee_of_collateralised (h : Collateralised w setToken c)
    (hfee : streamingFee w setToken = 0) : CoversFee w setToken c := by
  right
  rw [hfee, Nat.cast_zero, Int.sub_zero]
  exact h

/-- Accrual takes nothing from the Set. -/
theorem balances_le_of_accrued (hw' : Accrued self setToken w w') :
    (w.tokens c).balances setToken ≤ (w'.tokens c).balances setToken := by
  rw [hw'.balances]
  exact Nat.le_add_right _ _

/-- A unit that is not negative does not grow. -/
theorem defaultRealUnit_le_of_accrued (hw' : Accrued self setToken w w')
    (hm : 0 < (w.setTokens setToken).positionMultiplier)
    (hunit : 0 ≤ (w.setTokens setToken).defaultPositionVirtualUnit c) :
    (w'.setTokens setToken).defaultRealUnit c ≤ (w.setTokens setToken).defaultRealUnit c := by
  have hscaled : scaledMultiplier w setToken ≤ (w.setTokens setToken).positionMultiplier := by
    apply Int.ediv_le_of_le_mul preciseUnitInt_pos
    apply Int.mul_le_mul_of_nonneg_left _ hm.le
    exact Int.sub_le_self _ (Int.natCast_nonneg _)
  rw [hw'.scaled]
  exact Int.ediv_le_ediv preciseUnitInt_pos (Int.mul_le_mul_of_nonneg_left hscaled hunit)

/-- A balance that covers the unit for the growth of the supply covers it after an accrual. -/
theorem collateralised_of_spare (hw' : Accrued self setToken w w')
    (hm : 0 < (w.setTokens setToken).positionMultiplier)
    (hunit : 0 ≤ (w.setTokens setToken).defaultPositionVirtualUnit c)
    (hspare : (w.setTokens setToken).defaultRealUnit c * (w.totalSupply setToken : ℤ) ≤
      ((w.tokens c).balances setToken : ℤ) * (preciseUnitInt - (streamingFee w setToken : ℤ))) :
    Collateralised w' setToken c := by
  have hreal : 0 ≤ (w.setTokens setToken).defaultRealUnit c :=
    Int.ediv_nonneg (Int.mul_nonneg hunit hm.le) preciseUnitInt_pos.le
  have hbalance : ((w.tokens c).balances setToken : ℤ) ≤ (w'.tokens c).balances setToken := by
    exact_mod_cast balances_le_of_accrued hw'
  exact Rounding.mul_le_of_spare preciseUnitInt_pos.le hw'.fee_lt_int hreal (Int.natCast_nonneg _)
    (defaultRealUnit_le_of_accrued hw' hm hunit) hw'.supply_mul_le hspare hbalance

/-- A component that covers the fee is collateralised after an accrual. -/
theorem CoversFee.collateralised (h : CoversFee w setToken c)
    (hm : 0 < (w.setTokens setToken).positionMultiplier) (hw' : Accrued self setToken w w') :
    Collateralised w' setToken c := by
  have hvirtual : (w'.setTokens setToken).defaultPositionVirtualUnit c =
      (w.setTokens setToken).defaultPositionVirtualUnit c := by
    rw [hw'.scaled]
    rfl
  have hmultiplier : (w'.setTokens setToken).positionMultiplier =
      scaledMultiplier w setToken := by
    rw [hw'.scaled]
  rcases h with hbacked | hspare
  · refine hbacked.collateralised_of_scaled hvirtual ?_ ?_ (balances_le_of_accrued hw')
    · exact hmultiplier ▸ hw'.multiplier_pos.le
    · exact hmultiplier ▸ hw'.scaled_mul_supply_le hm
  · rcases le_or_gt 0 ((w.setTokens setToken).defaultPositionVirtualUnit c) with hunit | hunit
    · exact collateralised_of_spare hw' hm hunit hspare
    · exact collateralised_of_neg hvirtual hunit (hmultiplier ▸ hw'.multiplier_pos.le)

/-- **Accrual and collateral**: a collateralised Set stays so at an accrual where no fee has
accrued, or where the balance of each component backs the unit before rounding, or has enough to
spare for the growth of the supply. -/
theorem collateralised_of_accrueFee (hm : 0 < (w.setTokens setToken).positionMultiplier)
    (hcol : ∀ c ∈ (w.setTokens setToken).components, Collateralised w setToken c)
    (hcovers : 0 < streamingFee w setToken →
      ∀ c ∈ (w.setTokens setToken).components, CoversFee w setToken c)
    (h : accrueFee self w setToken = .ok w') :
    ∀ c ∈ (w'.setTokens setToken).components, Collateralised w' setToken c := by
  have hw' := accrueFee_spec hm h
  intro c hc
  have hc' : c ∈ (w.setTokens setToken).components := by
    rw [hw'.scaled] at hc
    exact hc
  rcases Nat.eq_zero_or_pos (streamingFee w setToken) with hfee | hfee
  · exact (coversFee_of_collateralised (hcol c hc') hfee).collateralised hm hw'
  · exact (hcovers hfee c hc').collateralised hm hw'

/-- A Set at `100` of three virtual units of the token `11` under the multiplier `0.98`, with a
supply of one and the balance that issuance asks for. The fee module `4` takes one percent a year,
and a year has passed. -/
def exampleWorld (balance : ℕ) : World :=
  { controller := { isSet := fun a => a = 100, isModule := fun a => a = 4, feeRecipient := 60 }
    tokens := fun a =>
      if a = 11 then { balances := fun b => if b = 100 then balance else 0 }
      else { balances := fun b => if b = 50 then 10 ^ 18 else 0, totalSupply := 10 ^ 18 }
    setTokens := fun _ =>
      { moduleStates := fun _ => .initialized
        components := [11]
        componentPositions := fun c => if c = 11 then { virtualUnit := 3 } else {}
        positionMultiplier := 98 * 10 ^ 16 }
    feeStates := fun _ =>
      { feeRecipient := 61
        maxStreamingFeePercentage := 10 ^ 17
        streamingFeePercentage := 10 ^ 16 }
    timestamp := oneYearInSeconds }

/-- The only component of the example. -/
private theorem mem_components_exampleWorld {balance : ℕ}
    (hc : c ∈ ((exampleWorld balance).setTokens 100).components) : c = 11 := by
  simpa [exampleWorld] using hc

/-- With a balance of three, what the unit hides is there. -/
theorem collateralised_of_accrueFee_example :
    ∃ w', 0 < streamingFee (exampleWorld 3) 100 ∧ accrueFee 4 (exampleWorld 3) 100 = .ok w' ∧
      ∀ c ∈ (w'.setTokens 100).components, Collateralised w' 100 c := by
  obtain ⟨w', hw', -⟩ := exists_of_yields (x := accrueFee 4 (exampleWorld 3) 100)
    (p := fun _ => true) (by decide +kernel)
  have hcol : Collateralised (exampleWorld 3) 100 11 := by decide +kernel
  have hcovers : CoversFee (exampleWorld 3) 100 11 := by decide +kernel
  refine ⟨w', by decide +kernel, hw', collateralised_of_accrueFee (by decide +kernel)
    (fun c hc => ?_) (fun _ c hc => ?_) hw'⟩
  · rwa [mem_components_exampleWorld hc]
  · rwa [mem_components_exampleWorld hc]

/-- The unit reads two before and after the accrual, and the Set holds two for a supply of one;
the accrual raises the supply. -/
theorem accrueFee_undercollateralises :
    ∃ w', accrueFee 4 (exampleWorld 2) 100 = .ok w' ∧
      DefaultOnly ((exampleWorld 2).setTokens 100) ∧
      (∀ c ∈ ((exampleWorld 2).setTokens 100).components, Collateralised (exampleWorld 2) 100 c) ∧
      ¬∀ c ∈ (w'.setTokens 100).components, Collateralised w' 100 c := by
  obtain ⟨w', hw', h⟩ := exists_of_yields (x := accrueFee 4 (exampleWorld 2) 100)
    (p := fun w' => 11 ∈ (w'.setTokens 100).components ∧ ¬Collateralised w' 100 11)
    (by decide +kernel)
  obtain ⟨hlisted, hshort⟩ := of_decide_eq_true h
  have hdefault : DefaultOnly ((exampleWorld 2).setTokens 100) :=
    ⟨by decide, fun c hc => by rw [mem_components_exampleWorld hc]; rfl⟩
  have hcol : Collateralised (exampleWorld 2) 100 11 := by decide +kernel
  refine ⟨w', hw', hdefault, fun c hc => ?_, fun hall => hshort (hall 11 hlisted)⟩
  rwa [mem_components_exampleWorld hc]

end StreamingCollateral

end SetProtocol
