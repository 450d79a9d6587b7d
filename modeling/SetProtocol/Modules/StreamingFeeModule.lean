import SetProtocol.Core.Flow

set_option relaxedAutoImplicit false
set_option autoImplicit false

/-!
# Streaming fees

`contracts/protocol/modules/StreamingFeeModule.sol`. The module deployed at `self` mints new Sets
for the fee that accrued, and scales all positions down by the position multiplier.

## Main definitions

* `SetProtocol.StreamingFeeModule.accrueFee`.
* `SetProtocol.StreamingFeeModule.streamingFee`, `inflation`, `scaledMultiplier`, `mintedTo` — what
  accrual computes, as numbers.
* `SetProtocol.StreamingFeeModule.Accrued` — what accrual changes.

## Main results

* `SetProtocol.StreamingFeeModule.accrueFee_spec` — a successful accrual changes just that.
-/

namespace SetProtocol

open Checked

namespace StreamingFeeModule

/-- `ONE_YEAR_IN_SECONDS`, which is `365.25 days`. -/
def oneYearInSeconds : ℕ := 31557600

/-- `PROTOCOL_STREAMING_FEE_INDEX`. -/
def protocolStreamingFeeIndex : ℕ := 0

/-- Write the fee state of a Set. -/
def setFeeState (w : World) (setToken : Address) (state : FeeState) : World :=
  { w with feeStates := Function.update w.feeStates setToken state }

/-! ## Accrual -/

/-- `_calculateStreamingFee`, which `getFee` returns. -/
def calculateStreamingFee (w : World) (setToken : Address) : Except Revert ℕ := do
  let timeSinceLastFee ←
    SafeMath.sub w.timestamp (w.feeStates setToken).lastStreamingFeeTimestamp
  let product ← SafeMath.mul timeSinceLastFee (w.feeStates setToken).streamingFeePercentage
  SafeMath.div product oneYearInSeconds

/-- `_calculateStreamingFeeInflation`. -/
def calculateStreamingFeeInflation (w : World) (setToken : Address) (feePercentage : ℕ) :
    Except Revert ℕ := do
  let a ← SafeMath.mul feePercentage (w.totalSupply setToken)
  let b ← SafeMath.sub preciseUnit feePercentage
  SafeMath.div a b

/-- `_mintManagerAndProtocolFee`, without the amounts it returns for an event. -/
def mintManagerAndProtocolFee (self : Address) (w : World) (setToken : Address)
    (feeQuantity : ℕ) : Except Revert World := do
  let protocolFeeRecipient := w.controller.feeRecipient
  let protocolFee := w.controller.getModuleFee self protocolStreamingFeeIndex
  let protocolFeeAmount ← PreciseUnitMath.preciseMul feeQuantity protocolFee
  let managerFeeAmount ← SafeMath.sub feeQuantity protocolFeeAmount
  let w ← w.mint self setToken (w.feeStates setToken).feeRecipient managerFeeAmount
  if 0 < protocolFeeAmount then w.mint self setToken protocolFeeRecipient protocolFeeAmount
  else .ok w

/-- `_editPositionMultiplier`. -/
def editPositionMultiplier (self : Address) (w : World) (setToken : Address)
    (inflationFee : ℕ) : Except Revert World := do
  let currentMultiplier := (w.setTokens setToken).positionMultiplier
  let factor ← SafeCast.toInt256 (← SafeMath.sub preciseUnit inflationFee)
  let newMultiplier ← PreciseUnitMath.preciseMulInt currentMultiplier factor
  w.editSetToken self setToken fun m s => s.editPositionMultiplier m newMultiplier

/-- `accrueFee`. -/
def accrueFee (self : Address) (w : World) (setToken : Address) : Except Revert World := do
  ModuleBase.onlyValidAndInitializedSet self w setToken
  let w ← (
    if 0 < (w.feeStates setToken).streamingFeePercentage then do
      let inflationFeePercentage ← calculateStreamingFee w setToken
      let feeQuantity ← calculateStreamingFeeInflation w setToken inflationFeePercentage
      let w ← mintManagerAndProtocolFee self w setToken feeQuantity
      editPositionMultiplier self w setToken inflationFeePercentage
    else .ok w)
  return setFeeState w setToken
    { w.feeStates setToken with lastStreamingFeeTimestamp := w.timestamp }

/-! ## Configuration -/

/-- `initialize`. -/
def initializeModule (self : Address) (w : World) (msgSender setToken : Address)
    (settings : FeeState) : Except Revert World := do
  ModuleBase.onlySetManager w setToken msgSender
  ModuleBase.onlyValidAndPendingSet self w setToken
  require (settings.feeRecipient ≠ zeroAddress) "Fee Recipient must be non-zero address."
  require (settings.maxStreamingFeePercentage < preciseUnit) "Max fee must be < 100%."
  require (settings.streamingFeePercentage ≤ settings.maxStreamingFeePercentage)
    "Fee must be <= max."
  let w := setFeeState w setToken { settings with lastStreamingFeeTimestamp := w.timestamp }
  w.editSetToken self setToken SetToken.initializeModule

/-- `removeModule`, which the Set calls. -/
def removeModule (w : World) (msgSender : Address) : World := setFeeState w msgSender {}

/-- `updateStreamingFee`. -/
def updateStreamingFee (self : Address) (w : World) (msgSender setToken : Address)
    (newFee : ℕ) : Except Revert World := do
  ModuleBase.onlySetManager w setToken msgSender
  ModuleBase.onlyValidAndInitializedSet self w setToken
  require (newFee < (w.feeStates setToken).maxStreamingFeePercentage) "Fee must be less than max"
  let w ← accrueFee self w setToken
  return setFeeState w setToken
    { w.feeStates setToken with streamingFeePercentage := newFee }

/-- `updateFeeRecipient`. -/
def updateFeeRecipient (self : Address) (w : World) (msgSender setToken newFeeRecipient : Address) :
    Except Revert World := do
  ModuleBase.onlySetManager w setToken msgSender
  ModuleBase.onlyValidAndInitializedSet self w setToken
  require (newFeeRecipient ≠ zeroAddress) "Fee Recipient must be non-zero address."
  return setFeeState w setToken { w.feeStates setToken with feeRecipient := newFeeRecipient }

/-! ## What accrual computes -/

section Numbers

variable (self : Address) (w : World) (setToken : Address)

/-- The share of the Set that the fee comes to. -/
def streamingFee : ℕ :=
  (w.timestamp - (w.feeStates setToken).lastStreamingFeeTimestamp) *
    (w.feeStates setToken).streamingFeePercentage / oneYearInSeconds

/-- The quantity of Sets to mint for the fee. -/
def inflation : ℕ :=
  streamingFee w setToken * w.totalSupply setToken / (preciseUnit - streamingFee w setToken)

/-- The multiplier after the fee. -/
def scaledMultiplier : ℤ :=
  (w.setTokens setToken).positionMultiplier *
    (preciseUnitInt - (streamingFee w setToken : ℤ)) / preciseUnitInt

/-- The part of the inflation that the protocol receives. -/
def protocolInflation : ℕ :=
  inflation w setToken * w.controller.getModuleFee self protocolStreamingFeeIndex / preciseUnit

/-- The part of the inflation that an account receives. -/
def mintedTo (account : Address) : ℕ :=
  (if account = (w.feeStates setToken).feeRecipient then
      inflation w setToken - protocolInflation self w setToken
    else 0) +
    if account = w.controller.feeRecipient then protocolInflation self w setToken else 0

end Numbers

/-- What accrual changes: the multiplier, the supply, and who holds the new Sets. -/
structure Accrued (module setToken : Address) (w w' : World) : Prop where
  /-- The fee is less than the whole Set. -/
  fee_lt : streamingFee w setToken < preciseUnit
  /-- The protocol takes no more than the inflation. -/
  protocol_le : protocolInflation module w setToken ≤ inflation w setToken
  /-- The new multiplier is positive. -/
  multiplier_pos : 0 < scaledMultiplier w setToken
  /-- The Set is scaled. -/
  scaled : w'.setTokens setToken =
    { w.setTokens setToken with positionMultiplier := scaledMultiplier w setToken }
  /-- The supply is inflated. -/
  supply : w'.totalSupply setToken = w.totalSupply setToken + inflation w setToken
  /-- The recipients hold the new Sets. -/
  balances : ∀ c a, (w'.tokens c).balances a =
    (w.tokens c).balances a + if c = setToken then mintedTo module w setToken a else 0
  /-- Staking positions are left alone. -/
  stakingPositions : w'.stakingPositions = w.stakingPositions

variable {self setToken : Address} {w w' : World}

/-- Without a rate there is no fee. -/
theorem streamingFee_eq_zero (h : ¬0 < (w.feeStates setToken).streamingFeePercentage) :
    streamingFee w setToken = 0 := by
  have h0 : (w.feeStates setToken).streamingFeePercentage = 0 := by omega
  rw [streamingFee, h0, Nat.mul_zero, Nat.zero_div]

/-- Without a fee the multiplier stays. -/
theorem scaledMultiplier_of_fee_eq_zero (h : streamingFee w setToken = 0) :
    scaledMultiplier w setToken = (w.setTokens setToken).positionMultiplier := by
  rw [scaledMultiplier, h, Nat.cast_zero, Int.sub_zero,
    Int.mul_ediv_cancel _ preciseUnitInt_pos.ne']

/-- A fee lowers the multiplier. -/
theorem scaledMultiplier_lt (hm : 0 < (w.setTokens setToken).positionMultiplier)
    (h : 0 < streamingFee w setToken) :
    scaledMultiplier w setToken < (w.setTokens setToken).positionMultiplier := by
  apply Int.ediv_lt_of_lt_mul preciseUnitInt_pos
  have hfee : (0 : ℤ) < (streamingFee w setToken : ℤ) := Int.natCast_pos.mpr h
  exact Int.mul_lt_mul_of_pos_left (by omega) hm

/-- Where there is no fee, accrual changes nothing. -/
theorem accrued_refl (hm : 0 < (w.setTokens setToken).positionMultiplier)
    (h : streamingFee w setToken = 0) : Accrued self setToken w w := by
  have hinflation : inflation w setToken = 0 := by rw [inflation, h, Nat.zero_mul, Nat.zero_div]
  have hprotocol : protocolInflation self w setToken = 0 := by
    rw [protocolInflation, hinflation, Nat.zero_mul, Nat.zero_div]
  have hscaled := scaledMultiplier_of_fee_eq_zero h
  refine ⟨h ▸ preciseUnit_pos, hprotocol ▸ Nat.zero_le _, hscaled ▸ hm, by rw [hscaled],
    by rw [hinflation, Nat.add_zero], fun c a => ?_, rfl⟩
  · simp [mintedTo, hinflation, hprotocol]

/-- What `_mintManagerAndProtocolFee` mints. -/
private theorem mintManagerAndProtocolFee_spec
    (h : mintManagerAndProtocolFee self w setToken (inflation w setToken) = .ok w') :
    protocolInflation self w setToken ≤ inflation w setToken ∧
      w'.setTokens = w.setTokens ∧ w'.stakingPositions = w.stakingPositions ∧
      w'.totalSupply setToken = w.totalSupply setToken + inflation w setToken ∧
      ∀ c a, (w'.tokens c).balances a =
        (w.tokens c).balances a + if c = setToken then mintedTo self w setToken a else 0 := by
  simp only [mintManagerAndProtocolFee, bind_eq_ok, PreciseUnitMath.preciseMul_eq_ok,
    SafeMath.sub_eq_ok] at h
  obtain ⟨_, ⟨-, rfl⟩, _, ⟨hle, rfl⟩, w₁, hmanager, h⟩ := h
  rw [← protocolInflation] at hle hmanager h
  obtain ⟨-, hw₁⟩ := World.mint_spec hmanager
  have hbal := World.balances_of_mint hmanager
  have hsupply := (World.flow_of_mint hmanager).2.1
  split_ifs at h with hprotocol
  · have hbal' := World.balances_of_mint h
    have hsupply' := (World.flow_of_mint h).2.1
    obtain ⟨-, rfl⟩ := World.mint_spec h
    refine ⟨hle, by rw [hw₁]; rfl, by rw [hw₁]; rfl, by omega, fun c a => ?_⟩
    rw [hbal', hbal]
    by_cases hc : c = setToken <;> simp [hc, mintedTo, Nat.add_assoc]
  · obtain rfl : w₁ = w' := by simpa using h
    have hzero : protocolInflation self w setToken = 0 := by omega
    refine ⟨hle, by rw [hw₁]; rfl, by rw [hw₁]; rfl, by omega, fun c a => ?_⟩
    rw [hbal]
    by_cases hc : c = setToken <;> simp [hc, mintedTo, hzero]

/-- A successful accrual under a positive multiplier. -/
theorem accrueFee_spec (hm : 0 < (w.setTokens setToken).positionMultiplier)
    (h : accrueFee self w setToken = .ok w') : Accrued self setToken w w' := by
  simp only [accrueFee, bind_eq_ok, pure_eq_ok] at h
  obtain ⟨-, -, w₂, h, rfl⟩ := h
  suffices hw₂ : Accrued self setToken w w₂ from
    ⟨hw₂.fee_lt, hw₂.protocol_le, hw₂.multiplier_pos, hw₂.scaled, hw₂.supply, hw₂.balances,
      hw₂.stakingPositions⟩
  split_ifs at h with hrate
  · simp only [calculateStreamingFee, calculateStreamingFeeInflation, bind_eq_ok,
      SafeMath.sub_eq_ok, SafeMath.mul_eq_ok, SafeMath.div_eq_ok] at h
    obtain ⟨_, ⟨_, ⟨-, rfl⟩, _, ⟨-, rfl⟩, -, rfl⟩, _, ⟨_, ⟨-, rfl⟩, _, ⟨-, rfl⟩, hlt, rfl⟩, w₁,
      hmint, hscale⟩ := h
    rw [← streamingFee] at hlt hmint hscale
    rw [← inflation] at hmint
    obtain ⟨hle, hset, hstaking, hsupply, hbal⟩ := mintManagerAndProtocolFee_spec hmint
    simp only [editPositionMultiplier, hset, bind_eq_ok, SafeMath.sub_eq_ok,
      SafeCast.toInt256_eq_ok, PreciseUnitMath.preciseMulInt, SignedSafeMath.mul_eq_ok,
      SignedSafeMath.div_eq_ok, World.editSetToken_eq_ok] at hscale
    obtain ⟨_, ⟨hfee, rfl⟩, _, ⟨-, rfl⟩, _, ⟨_, ⟨-, rfl⟩, -, -, rfl⟩, _, hedit, rfl⟩ := hscale
    have hpos := SetToken.pos_of_editPositionMultiplier hedit
    obtain ⟨-, -, rfl⟩ := SetToken.editPositionMultiplier_eq_ok.mp hedit
    have hscaled : ((w.setTokens setToken).positionMultiplier *
        ((preciseUnit - streamingFee w setToken : ℕ) : ℤ)).tdiv preciseUnitInt =
          scaledMultiplier w setToken := by
      rw [Int.tdiv_eq_ediv_of_nonneg (Int.mul_nonneg hm.le (Int.natCast_nonneg _)),
        Nat.cast_sub hfee, natCast_preciseUnit, scaledMultiplier]
    refine ⟨by omega, hle, hscaled ▸ hpos, ?_, hsupply, hbal, hstaking⟩
    rw [← hscaled]
    simp [World.setSetToken, hset]
  · obtain rfl : w = w₂ := by simpa using h
    exact accrued_refl hm (streamingFee_eq_zero hrate)

end StreamingFeeModule

end SetProtocol
