import SetProtocol.Core.Flow
import SetProtocol.Modules.AirdropModule
import SetProtocol.Positions.Edits

set_option relaxedAutoImplicit false
set_option autoImplicit false

/-!
# What an absorbed airdrop is worth to the holders

The module recomputes the unit of the token from the whole balance less the fees. A fee below `100%`
leaves at least one token of the airdrop, which makes up for the fraction of a token that the
rounding of the tracked balance dropped; a fee of `100%` does not. The new unit is then stored
through the multiplier, which can round it down below the old one again.

## Main definitions

* `SetProtocol.AirdropAbsorption.airdropped`, `remaining` — what there is beyond the tracked
  balance, and what the Set keeps.

## Main results

* `SetProtocol.AirdropAbsorption.moves_of_handleFees` — the fees are all that the Set pays.
* `SetProtocol.AirdropAbsorption.absorb_bounds` — the unit after an absorption.
* `SetProtocol.AirdropAbsorption.absorb_lowers_unit` — absorptions that take a unit from the
  holders.
-/

namespace SetProtocol

namespace AirdropAbsorption

open Checked AirdropModule

variable {self msgSender setToken token : Address} {env : Env} {w w' : World} {unit amount : ℕ}

/-! ## The amounts -/

/-- What the Set holds beyond the notional amount of the unit. -/
def airdropped (w : World) (setToken token : Address) (unit : ℕ) : ℕ :=
  (w.tokens token).balances setToken - unit * w.totalSupply setToken / preciseUnit

/-- What the Set holds after the fees. -/
def remaining (w : World) (setToken token : Address) (unit : ℕ) : ℕ :=
  (w.tokens token).balances setToken -
    airdropped w setToken token unit * (w.airdropSettings setToken).airdropFee / preciseUnit

/-- The fees are all that the Set pays, and they are the share of the airdrop. -/
theorem moves_of_handleFees {r : World × ℕ × ℕ × ℕ}
    (hrecipient : (w.airdropSettings setToken).feeRecipient ≠ setToken)
    (h : handleFees self env w setToken token amount = .ok r) :
    r.2.2.2 = amount * (w.airdropSettings setToken).airdropFee / preciseUnit ∧
      Moves setToken w r.1 (fun _ => 0) (only token r.2.2.2) := by
  simp only [handleFees] at h
  split_ifs at h with hfee
  · simp only [bind_eq_ok, pure_eq_ok, PreciseUnitMath.preciseMul_eq_ok, SafeMath.sub_eq_ok,
      SafeMath.add_eq_ok] at h
    obtain ⟨_, ⟨-, rfl⟩, protocolTake, -, _, ⟨hle, rfl⟩, _, ⟨-, rfl⟩, w₁, htransfer, w₂, hpay,
      rfl⟩ := h
    have htotal := Nat.sub_add_cancel hle
    have hmanager := Moves.of_invokeTransfer hrecipient htransfer
    refine ⟨htotal, ?_⟩
    unfold ModuleBase.payProtocolFeeFromSetToken at hpay
    split_ifs at hpay with hprotocol
    · refine (hmanager.trans (Moves.of_strictInvokeTransfer hpay)).congr ?_ ?_
      · simp [only]
      · intro c
        by_cases hc : c = token <;> simp [only, hc]
    · obtain rfl := Except.ok.inj hpay
      have hzero : protocolTake = 0 := by omega
      refine hmanager.congr ?_ ?_
      · simp [only]
      · intro c
        simp [hzero]
  · obtain rfl := Except.ok.inj h
    have hzero : (w.airdropSettings setToken).airdropFee = 0 := by omega
    refine ⟨by simp [hzero], rfl, rfl, fun c => ?_⟩
    simp [only]

/-! ## The new unit -/

section Numbers

variable {supply balance fee : ℕ}

/-- The unit of what is left is no less than the old one up to the rounding of the tracked balance,
which is left whole by any fee. -/
theorem roundedUnit_le_of_tracked (htracked : unit * supply / preciseUnit ≤ balance) :
    roundedUnit supply unit ≤ balance * preciseUnit / supply :=
  Nat.div_le_div_right (Nat.mul_le_mul_right preciseUnit htracked)

/-- One token beyond the tracked balance makes up for its rounding. -/
theorem unit_le_of_beyond_tracked (hsupply : 0 < supply)
    (hbeyond : unit * supply / preciseUnit < balance) : unit ≤ balance * preciseUnit / supply := by
  rw [Nat.mul_comm] at hbeyond
  exact Rounding.le_mul_div_of_div_lt preciseUnit_pos hsupply hbeyond

/-- A fee of at most `100%` takes no more than the amount. -/
theorem fee_le (hfee : fee ≤ preciseUnit) : amount * fee / preciseUnit ≤ amount := by
  rw [Nat.div_le_iff_le_mul_add_pred preciseUnit_pos]
  have := Nat.mul_le_mul_left amount hfee
  have := preciseUnit_pos
  rw [Nat.mul_comm preciseUnit]
  omega

/-- A fee below `100%` leaves something of the amount. -/
theorem fee_lt (hfee : fee < preciseUnit) (hamount : 0 < amount) :
    amount * fee / preciseUnit < amount := by
  rw [Nat.div_lt_iff_lt_mul preciseUnit_pos]
  exact Nat.mul_lt_mul_of_pos_left hfee hamount

end Numbers

/-- What is left after the fees covers the tracked balance. -/
theorem tracked_le_remaining (hfee : (w.airdropSettings setToken).airdropFee ≤ preciseUnit)
    (hheld : unit * w.totalSupply setToken / preciseUnit ≤ (w.tokens token).balances setToken) :
    unit * w.totalSupply setToken / preciseUnit ≤ remaining w setToken token unit := by
  have : airdropped w setToken token unit * (w.airdropSettings setToken).airdropFee / preciseUnit ≤
      airdropped w setToken token unit := fee_le hfee
  unfold remaining
  unfold airdropped at this ⊢
  omega

/-- A fee below `100%` leaves something beyond it. -/
theorem tracked_lt_remaining (hfee : (w.airdropSettings setToken).airdropFee < preciseUnit)
    (hpos : 0 < airdropped w setToken token unit) :
    unit * w.totalSupply setToken / preciseUnit < remaining w setToken token unit := by
  have := fee_lt hfee hpos
  unfold remaining
  unfold airdropped at this hpos ⊢
  omega

/-- An absorption that finds something beyond the tracked balance keeps what remains after the fees,
and edits the position to the unit of that. -/
theorem absorb_spec
    (hunit : (w.setTokens setToken).getDefaultPositionRealUnit token = .ok (unit : ℤ))
    (hrecipient : (w.airdropSettings setToken).feeRecipient ≠ setToken)
    (h : absorb self env w msgSender setToken token = .ok w') :
    unit * w.totalSupply setToken / preciseUnit ≤ (w.tokens token).balances setToken ∧
      w'.totalSupply setToken = w.totalSupply setToken ∧
      (w'.tokens token).balances setToken = remaining w setToken token unit ∧
      (airdropped w setToken token unit = 0 ∧ w' = w ∨
        0 < airdropped w setToken token unit ∧ ∃ m,
          Position.editDefaultPosition m (w.setTokens setToken) token
            (remaining w setToken token unit * preciseUnit / w.totalSupply setToken) =
              .ok (w'.setTokens setToken)) := by
  simp only [absorb, absorbToken, handleAirdropPosition, Position.getDefaultTrackedBalance, hunit,
    bind_eq_ok, Except.ok.injEq, exists_eq_left', SafeCast.toUint256_eq_ok, Nat.cast_inj,
    PreciseUnitMath.preciseMul_eq_ok, SafeMath.sub_eq_ok] at h
  obtain ⟨-, -, -, -, -, -, _, ⟨_, rfl, -, rfl⟩, _, ⟨hheld, rfl⟩, h⟩ := h
  rw [Nat.mul_comm] at hheld h
  rw [← airdropped] at h
  refine ⟨hheld, ?_⟩
  split_ifs at h with hpos
  · simp only [bind_eq_ok, getPostAirdropUnit, SafeMath.sub_eq_ok, Position.getDefaultPositionUnit,
      PreciseUnitMath.preciseDiv_eq_ok, World.editSetToken_eq_ok, Prod.exists] at h
    obtain ⟨w₁, _, _, totalFees, hfees, _, ⟨_, ⟨-, rfl⟩, -, -, rfl⟩, s', hedit, rfl⟩ := h
    obtain ⟨htotal, hmoves⟩ := moves_of_handleFees hrecipient hfees
    have hbalance := hmoves.balances token
    simp only at htotal hbalance hmoves
    rw [hmoves.supply, hmoves.positions, htotal, ← remaining] at hedit
    refine ⟨hmoves.supply, ?_, Or.inr ⟨hpos, w₁.message self, ?_⟩⟩
    · simp only [only, if_true, htotal, World.setSetToken] at hbalance ⊢
      unfold remaining
      omega
    · rw [World.setTokens_setSetToken]
      exact hedit
  · obtain rfl := Except.ok.inj h
    have hzero : airdropped w setToken token unit = 0 := by omega
    refine ⟨rfl, ?_, Or.inl ⟨hzero, rfl⟩⟩
    rw [remaining, hzero, Nat.zero_mul, Nat.zero_div, Nat.sub_zero]

/-- The unit that is read after an absorption, at most the unit of what remains. -/
theorem readBack_of_absorb (hm : 0 < (w.setTokens setToken).positionMultiplier)
    (hedit : ∃ m, Position.editDefaultPosition m (w.setTokens setToken) token amount =
      .ok (w'.setTokens setToken)) :
    ∃ u' : ℤ, (w'.setTokens setToken).getDefaultPositionRealUnit token = .ok u' ∧ 0 ≤ u' ∧
      ReadBack (w.setTokens setToken).positionMultiplier amount u' ∧
      ((w.setTokens setToken).positionMultiplier ∣ preciseUnitInt → u' = amount) := by
  obtain ⟨m, hedit⟩ := hedit
  refine ⟨_, getDefaultPositionRealUnit_of_edit hm hedit, ?_, .of_floors hm, fun hdvd => ?_⟩
  · have hstored : 0 ≤ (amount : ℤ) * preciseUnitInt / (w.setTokens setToken).positionMultiplier :=
      Int.ediv_nonneg (Int.mul_nonneg (Int.natCast_nonneg _) preciseUnitInt_pos.le) hm.le
    exact Int.ediv_nonneg (Int.mul_nonneg hstored hm.le) preciseUnitInt_pos.le
  · exact (Rounding.ediv_mul_ediv_eq_iff preciseUnitInt_pos hm).mpr (hdvd.mul_left _)

/-- **The unit after an absorption**: for a Set with a supply and a positive multiplier `m`, whose
unit of the token is `u`, under a fee of at most `100%` for a recipient other than the Set. The
balance left covers the unit `u'` read afterwards. The unit is lower than `u` by less than two and
the shares of the supply and of the multiplier, and under a fee below `100%` by less than one and
the share of the multiplier. It is no lower where the multiplier divides one, and the fee is below
`100%` or the notional amount of `u` is a whole number. -/
theorem absorb_bounds (hm : 0 < (w.setTokens setToken).positionMultiplier)
    (hsupply : 0 < w.totalSupply setToken)
    (hunit : (w.setTokens setToken).getDefaultPositionRealUnit token = .ok (unit : ℤ))
    (hfee : (w.airdropSettings setToken).airdropFee ≤ preciseUnit)
    (hrecipient : (w.airdropSettings setToken).feeRecipient ≠ setToken)
    (h : absorb self env w msgSender setToken token = .ok w') :
    ∃ u' : ℤ, (w'.setTokens setToken).getDefaultPositionRealUnit token = .ok u' ∧
      u' * w'.totalSupply setToken / preciseUnitInt ≤ (w'.tokens token).balances setToken ∧
      (unit - u' - 2) * (w.totalSupply setToken * preciseUnitInt) <
        preciseUnitInt * preciseUnitInt +
          (w.setTokens setToken).positionMultiplier * w.totalSupply setToken ∧
      ((w.airdropSettings setToken).airdropFee < preciseUnit →
        (unit - u' - 1) * preciseUnitInt < (w.setTokens setToken).positionMultiplier) ∧
      ((w.setTokens setToken).positionMultiplier ∣ preciseUnitInt →
        (w.airdropSettings setToken).airdropFee < preciseUnit ∨
          preciseUnit ∣ unit * w.totalSupply setToken → (unit : ℤ) ≤ u') := by
  obtain ⟨hheld, htotal, hbalance, hcases⟩ := absorb_spec hunit hrecipient h
  rcases hcases with ⟨-, rfl⟩ | ⟨hpos, hedit⟩
  · -- nothing to absorb
    have hheld' : (unit : ℤ) * w'.totalSupply setToken / preciseUnitInt ≤
        (w'.tokens token).balances setToken := by
      rw [← natCast_preciseUnit]
      exact_mod_cast hheld
    refine ⟨unit, hunit, hheld', ?_, fun _ => ?_, fun _ _ => le_rfl⟩
    · have hsupply' : (0 : ℤ) < w'.totalSupply setToken := Int.natCast_pos.mpr hsupply
      have hloss := Int.mul_pos hm hsupply'
      have hunits := Int.mul_pos preciseUnitInt_pos preciseUnitInt_pos
      have hscale := Int.mul_pos hsupply' preciseUnitInt_pos
      linarith
    · have := preciseUnitInt_pos
      linarith
  · obtain ⟨u', hread, hnonneg, hback, hexact⟩ := readBack_of_absorb hm hedit
    have htracked := tracked_le_remaining hfee hheld
    have hrounded : roundedUnit (w.totalSupply setToken) unit ≤
        remaining w setToken token unit * preciseUnit / w.totalSupply setToken :=
      roundedUnit_le_of_tracked htracked
    refine ⟨u', hread, ?_, ?_, fun hbelow => ?_, fun hdvd hwhole => ?_⟩
    · rw [htotal, hbalance]
      apply Int.ediv_le_of_le_mul preciseUnitInt_pos
      calc u' * w.totalSupply setToken
          ≤ ((remaining w setToken token unit * preciseUnit / w.totalSupply setToken : ℕ) : ℤ) *
              w.totalSupply setToken :=
            Int.mul_le_mul_of_nonneg_right hback.le (Int.natCast_nonneg _)
        _ ≤ remaining w setToken token unit * preciseUnitInt := by
            rw [← natCast_preciseUnit]
            exact_mod_cast Nat.div_mul_le_self _ _
    · refine loss_of_roundings hsupply (lt_of_le_of_lt ?_ hback.loss)
      apply Int.mul_le_mul_of_nonneg_right _ preciseUnitInt_pos.le
      omega
    · have hunit' := unit_le_of_beyond_tracked hsupply (tracked_lt_remaining hbelow hpos)
      refine lt_of_le_of_lt ?_ hback.loss
      apply Int.mul_le_mul_of_nonneg_right _ preciseUnitInt_pos.le
      omega
    · rw [hexact hdvd, Nat.cast_le]
      rcases hwhole with hbelow | hwhole
      · exact unit_le_of_beyond_tracked hsupply (tracked_lt_remaining hbelow hpos)
      · rwa [(roundedUnit_eq_iff hsupply).mpr hwhole] at hrounded

/-! ## Example -/

/-- The Set `100` of the token `11`, of which it holds `balance`, with the manager `3` and the
airdrop module `7`. -/
def exampleWorld (positionMultiplier virtualUnit : ℤ) (supply balance airdropFee : ℕ) : World :=
  { controller := { isSet := fun a => a = 100, isModule := fun a => a = 7, feeRecipient := 60 }
    tokens := fun a =>
      if a = 11 then { balances := fun b => if b = 100 then balance else 0 }
      else { totalSupply := supply }
    setTokens := fun _ =>
      { manager := 3
        components := [11]
        componentPositions := fun _ => { virtualUnit := virtualUnit }
        moduleStates := fun a => if a = 7 then .initialized else .none
        positionMultiplier := positionMultiplier }
    airdropSettings := fun _ =>
      { airdrops := [11], feeRecipient := 61, airdropFee := airdropFee } }

/-- Half of an airdrop of `40` is paid as a fee, and the unit grows from `2` to `4`. -/
theorem absorb_bounds_example :
    ∃ w', absorb 7 {} (exampleWorld preciseUnitInt 2 (10 ^ 19) 60 (5 * 10 ^ 17)) 3 100 11 =
        .ok w' ∧
      ∃ u' : ℤ, (w'.setTokens 100).getDefaultPositionRealUnit 11 = .ok u' ∧ 2 ≤ u' ∧
        u' * w'.totalSupply 100 / preciseUnitInt ≤ (w'.tokens 11).balances 100 := by
  obtain ⟨w', hw', -⟩ := exists_of_yields
    (x := absorb 7 {} (exampleWorld preciseUnitInt 2 (10 ^ 19) 60 (5 * 10 ^ 17)) 3 100 11)
    (p := fun _ => true) (by decide +kernel)
  have hunit : ((exampleWorld preciseUnitInt 2 (10 ^ 19) 60 (5 * 10 ^ 17)).setTokens
      100).getDefaultPositionRealUnit 11 = .ok ((2 : ℕ) : ℤ) :=
    SetToken.getDefaultPositionRealUnit_eq_ok.mpr (by decide)
  obtain ⟨u', hread, hcovered, -, -, hkept⟩ :=
    absorb_bounds (by decide) (by decide) hunit (by decide) (by decide) hw'
  exact ⟨w', hw', u', hread, hkept (by decide) (Or.inl (by decide)), hcovered⟩

/-- With a supply of 1.5, a fee of `100%` on an airdrop of one token leaves no unit of the one that
there was. Under the multiplier 0.3 five virtual units, which are a unit of one, become three by an
absorption without a fee, and the unit none. -/
theorem absorb_lowers_unit :
    (∃ w', absorb 7 {} (exampleWorld preciseUnitInt 1 (15 * 10 ^ 17) 2 (10 ^ 18)) 3 100 11 =
        .ok w' ∧
      ((exampleWorld preciseUnitInt 1 (15 * 10 ^ 17) 2 (10 ^ 18)).setTokens 100).defaultRealUnit
        11 = 1 ∧ (w'.setTokens 100).defaultRealUnit 11 = 0) ∧
    ∃ w', absorb 7 {} (exampleWorld (3 * 10 ^ 17) 5 (10 ^ 19) 11 0) 3 100 11 = .ok w' ∧
      ((exampleWorld (3 * 10 ^ 17) 5 (10 ^ 19) 11 0).setTokens 100).defaultRealUnit 11 = 1 ∧
      (w'.setTokens 100).defaultRealUnit 11 = 0 := by
  constructor
  · obtain ⟨w', hw', hunit⟩ := exists_of_yields
      (x := absorb 7 {} (exampleWorld preciseUnitInt 1 (15 * 10 ^ 17) 2 (10 ^ 18)) 3 100 11)
      (p := fun w' => (w'.setTokens 100).defaultRealUnit 11 = 0) (by decide +kernel)
    exact ⟨w', hw', by decide, of_decide_eq_true hunit⟩
  · obtain ⟨w', hw', hunit⟩ := exists_of_yields
      (x := absorb 7 {} (exampleWorld (3 * 10 ^ 17) 5 (10 ^ 19) 11 0) 3 100 11)
      (p := fun w' => (w'.setTokens 100).defaultRealUnit 11 = 0) (by decide +kernel)
    exact ⟨w', hw', by decide, of_decide_eq_true hunit⟩

end AirdropAbsorption

end SetProtocol
