import SetProtocol.Core.Flow

set_option relaxedAutoImplicit false
set_option autoImplicit false

/-!
# Issuance at net asset value

`contracts/protocol/modules/NAVIssuanceModule.sol`. The module deployed at `self` is called by
`msgSender`, who pays or receives one reserve asset. The Sets to mint, and the reserve to pay out,
are computed from the valuation of the Set in that asset.

Issuance does not touch the other components: it lowers the position multiplier by the ratio by
which it raises the supply, and writes a new unit of the reserve asset. Redemption does the reverse.

## Main definitions

* `SetProtocol.NavIssuanceModule.issue`, `redeem`.
* `SetProtocol.NavIssuanceModule.isRedeemValid` — the view that tells whether to redeem.
* `SetProtocol.NavIssuanceModule.mintedSets`, `redeemedReserve`, `issueReserveUnit` and so on —
  what they compute, as numbers.

## Main results

* `SetProtocol.NavIssuanceModule.createIssuanceInfo_spec`, `createRedemptionInfo_spec` — the
  fields of an `ActionInfo`.
* `SetProtocol.NavIssuanceModule.createRedemptionInfo_eq_ok` — when a redemption is computed.
-/

namespace SetProtocol

open Checked

namespace NavIssuanceModule

/-- `ActionInfo`. -/
structure ActionInfo where
  /-- The reserve before fees; at redemption, after the premium. -/
  preFeeReserveQuantity : ℕ := 0
  /-- What the protocol receives of the reserve. -/
  protocolFees : ℕ := 0
  /-- What the manager receives of the reserve. -/
  managerFee : ℕ := 0
  /-- What the Set receives at issuance, and the redeemer at redemption. -/
  netFlowQuantity : ℕ := 0
  /-- The Sets minted or burned. -/
  setTokenQuantity : ℕ := 0
  /-- The supply before. -/
  previousSetTokenSupply : ℕ := 0
  /-- The supply after. -/
  newSetTokenSupply : ℕ := 0
  /-- The position multiplier after. -/
  newPositionMultiplier : ℤ := 0
  /-- The unit of the reserve asset after. -/
  newReservePositionUnit : ℕ := 0

/-- `MANAGER_ISSUE_FEE_INDEX`. -/
def managerIssueFeeIndex : ℕ := 0

/-- `MANAGER_REDEEM_FEE_INDEX`. -/
def managerRedeemFeeIndex : ℕ := 1

/-- `PROTOCOL_ISSUE_MANAGER_REVENUE_SHARE_FEE_INDEX`. -/
def protocolIssueManagerRevenueShareFeeIndex : ℕ := 0

/-- `PROTOCOL_REDEEM_MANAGER_REVENUE_SHARE_FEE_INDEX`. -/
def protocolRedeemManagerRevenueShareFeeIndex : ℕ := 1

/-- `PROTOCOL_ISSUE_DIRECT_FEE_INDEX`. -/
def protocolIssueDirectFeeIndex : ℕ := 2

/-- `PROTOCOL_REDEEM_DIRECT_FEE_INDEX`. -/
def protocolRedeemDirectFeeIndex : ℕ := 3

/-! ## Fees and quantities -/

/-- `getManagerFee`. The array has two entries. -/
def getManagerFee (w : World) (setToken : Address) (managerFeeIndex : ℕ) : Except Revert ℕ :=
  match managerFeeIndex with
  | 0 => .ok (w.navIssuanceSettings setToken).managerFees.1
  | 1 => .ok (w.navIssuanceSettings setToken).managerFees.2
  | _ => .error "invalid opcode"

/-- `_getProtocolAndManagerFeePercentages`. -/
def getProtocolAndManagerFeePercentages (self : Address) (w : World) (setToken : Address)
    (protocolManagerFeeIndex protocolDirectFeeIndex managerFeeIndex : ℕ) :
    Except Revert (ℕ × ℕ) := do
  let protocolDirectFeePercent := w.controller.getModuleFee self protocolDirectFeeIndex
  let protocolManagerShareFeePercent := w.controller.getModuleFee self protocolManagerFeeIndex
  let managerFeePercent ← getManagerFee w setToken managerFeeIndex
  let protocolRevenueSharePercentage ←
    PreciseUnitMath.preciseMul protocolManagerShareFeePercent managerFeePercent
  let managerRevenueSharePercentage ← SafeMath.sub managerFeePercent protocolRevenueSharePercentage
  let totalProtocolFeePercentage ←
    SafeMath.add protocolRevenueSharePercentage protocolDirectFeePercent
  return (totalProtocolFeePercentage, managerRevenueSharePercentage)

/-- `_getFees`: the fee of the protocol, the fee of the manager, and what is left. -/
def getFees (self : Address) (w : World) (setToken : Address) (reserveAssetQuantity : ℕ)
    (protocolManagerFeeIndex protocolDirectFeeIndex managerFeeIndex : ℕ) :
    Except Revert (ℕ × ℕ × ℕ) := do
  let (protocolFeePercentage, managerFeePercentage) ← getProtocolAndManagerFeePercentages self w
    setToken protocolManagerFeeIndex protocolDirectFeeIndex managerFeeIndex
  let protocolFees ← PreciseUnitMath.preciseMul protocolFeePercentage reserveAssetQuantity
  let managerFee ← PreciseUnitMath.preciseMul managerFeePercentage reserveAssetQuantity
  let netReserveFlow ← SafeMath.sub (← SafeMath.sub reserveAssetQuantity protocolFees) managerFee
  return (protocolFees, managerFee, netReserveFlow)

/-- `_getIssuePremium`, which `getIssuePremium` returns. -/
def getIssuePremium (w : World) (setToken : Address) : ℕ :=
  (w.navIssuanceSettings setToken).premiumPercentage

/-- `_getRedeemPremium`, which `getRedeemPremium` returns. -/
def getRedeemPremium (w : World) (setToken : Address) : ℕ :=
  (w.navIssuanceSettings setToken).premiumPercentage

/-- `10 ** ERC20(_reserveAsset).decimals()`, which is not checked for overflow. -/
def reserveAssetUnit (w : World) (reserveAsset : Address) : ℕ :=
  10 ^ (w.tokens reserveAsset).decimals % 2 ^ 256

/-- `_getSetTokenMintQuantity`. -/
def getSetTokenMintQuantity (env : Env) (w : World) (setToken reserveAsset : Address)
    (netReserveFlows setTotalSupply : ℕ) : Except Revert ℕ := do
  let premiumValue ← PreciseUnitMath.preciseMul netReserveFlows (getIssuePremium w setToken)
  let setTokenValuation ← env.calculateSetTokenValuation setToken reserveAsset w
  let normalizedTotalReserveQuantityNetFees ←
    PreciseUnitMath.preciseDiv netReserveFlows (reserveAssetUnit w reserveAsset)
  let normalizedTotalReserveQuantityNetFeesAndPremium ←
    PreciseUnitMath.preciseDiv (← SafeMath.sub netReserveFlows premiumValue)
      (reserveAssetUnit w reserveAsset)
  let totalValue ← PreciseUnitMath.preciseMul setTotalSupply setTokenValuation
  let denominator ← SafeMath.sub (← SafeMath.add totalValue normalizedTotalReserveQuantityNetFees)
    normalizedTotalReserveQuantityNetFeesAndPremium
  PreciseUnitMath.preciseDiv
    (← PreciseUnitMath.preciseMul normalizedTotalReserveQuantityNetFeesAndPremium setTotalSupply)
    denominator

/-- `_getRedeemReserveQuantity`. -/
def getRedeemReserveQuantity (env : Env) (w : World) (setToken reserveAsset : Address)
    (setTokenQuantity : ℕ) : Except Revert ℕ := do
  let setTokenValuation ← env.calculateSetTokenValuation setToken reserveAsset w
  let totalRedeemValueInPreciseUnits ←
    PreciseUnitMath.preciseMul setTokenQuantity setTokenValuation
  let prePremiumReserveQuantity ←
    PreciseUnitMath.preciseMul totalRedeemValueInPreciseUnits (reserveAssetUnit w reserveAsset)
  let premiumQuantity ←
    PreciseUnitMath.preciseMulCeil prePremiumReserveQuantity (getRedeemPremium w setToken)
  SafeMath.sub prePremiumReserveQuantity premiumQuantity

/-! ## Positions after an action -/

/-- The multiplier that both actions compute from the supply before and after. -/
def scaleMultiplier (w : World) (setToken : Address) (previousSupply newTotalSupply : ℕ) :
    Except Revert ℤ := do
  let product ← SignedSafeMath.mul (w.setTokens setToken).positionMultiplier
    (← SafeCast.toInt256 previousSupply)
  SignedSafeMath.div product (← SafeCast.toInt256 newTotalSupply)

/-- `_getIssuePositionMultiplier`. -/
def getIssuePositionMultiplier (w : World) (setToken : Address) (issueInfo : ActionInfo) :
    Except Revert (ℕ × ℤ) := do
  let newTotalSupply ← SafeMath.add issueInfo.setTokenQuantity issueInfo.previousSetTokenSupply
  let newPositionMultiplier ←
    scaleMultiplier w setToken issueInfo.previousSetTokenSupply newTotalSupply
  return (newTotalSupply, newPositionMultiplier)

/-- `_getRedeemPositionMultiplier`. -/
def getRedeemPositionMultiplier (w : World) (setToken : Address) (setTokenQuantity : ℕ)
    (redeemInfo : ActionInfo) : Except Revert (ℕ × ℤ) := do
  let newTotalSupply ← SafeMath.sub redeemInfo.previousSetTokenSupply setTokenQuantity
  let newPositionMultiplier ←
    scaleMultiplier w setToken redeemInfo.previousSetTokenSupply newTotalSupply
  return (newTotalSupply, newPositionMultiplier)

/-- `_getIssuePositionUnit`. -/
def getIssuePositionUnit (w : World) (setToken reserveAsset : Address) (issueInfo : ActionInfo) :
    Except Revert ℕ := do
  let existingUnit ←
    SafeCast.toUint256 (← (w.setTokens setToken).getDefaultPositionRealUnit reserveAsset)
  let existingReserve ←
    PreciseUnitMath.preciseMul existingUnit issueInfo.previousSetTokenSupply
  let totalReserve ← SafeMath.add existingReserve issueInfo.netFlowQuantity
  PreciseUnitMath.preciseDiv totalReserve issueInfo.newSetTokenSupply

/-- `_getRedeemPositionUnit`. -/
def getRedeemPositionUnit (w : World) (setToken reserveAsset : Address)
    (redeemInfo : ActionInfo) : Except Revert ℕ := do
  let existingUnit ←
    SafeCast.toUint256 (← (w.setTokens setToken).getDefaultPositionRealUnit reserveAsset)
  let totalExistingUnits ←
    PreciseUnitMath.preciseMul existingUnit redeemInfo.previousSetTokenSupply
  let outflow ← SafeMath.add
    (← SafeMath.add redeemInfo.netFlowQuantity redeemInfo.protocolFees) redeemInfo.managerFee
  require (outflow ≤ totalExistingUnits) "Must be greater than total available collateral"
  PreciseUnitMath.preciseDiv (← SafeMath.sub totalExistingUnits outflow)
    redeemInfo.newSetTokenSupply

/-- `_createIssuanceInfo`. -/
def createIssuanceInfo (self : Address) (env : Env) (w : World) (setToken reserveAsset : Address)
    (reserveAssetQuantity : ℕ) : Except Revert ActionInfo := do
  let issueInfo : ActionInfo :=
    { previousSetTokenSupply := w.totalSupply setToken
      preFeeReserveQuantity := reserveAssetQuantity }
  let (protocolFees, managerFee, netFlowQuantity) ← getFees self w setToken
    issueInfo.preFeeReserveQuantity protocolIssueManagerRevenueShareFeeIndex
    protocolIssueDirectFeeIndex managerIssueFeeIndex
  let issueInfo := { issueInfo with
    protocolFees := protocolFees
    managerFee := managerFee
    netFlowQuantity := netFlowQuantity }
  let setTokenQuantity ← getSetTokenMintQuantity env w setToken reserveAsset
    issueInfo.netFlowQuantity issueInfo.previousSetTokenSupply
  let issueInfo := { issueInfo with setTokenQuantity := setTokenQuantity }
  let (newSetTokenSupply, newPositionMultiplier) ← getIssuePositionMultiplier w setToken issueInfo
  let issueInfo := { issueInfo with
    newSetTokenSupply := newSetTokenSupply
    newPositionMultiplier := newPositionMultiplier }
  let newReservePositionUnit ← getIssuePositionUnit w setToken reserveAsset issueInfo
  return { issueInfo with newReservePositionUnit := newReservePositionUnit }

/-- `_createRedemptionInfo`. -/
def createRedemptionInfo (self : Address) (env : Env) (w : World)
    (setToken reserveAsset : Address) (setTokenQuantity : ℕ) : Except Revert ActionInfo := do
  let redeemInfo : ActionInfo := { setTokenQuantity := setTokenQuantity }
  let preFeeReserveQuantity ←
    getRedeemReserveQuantity env w setToken reserveAsset setTokenQuantity
  let redeemInfo := { redeemInfo with preFeeReserveQuantity := preFeeReserveQuantity }
  let (protocolFees, managerFee, netFlowQuantity) ← getFees self w setToken
    redeemInfo.preFeeReserveQuantity protocolRedeemManagerRevenueShareFeeIndex
    protocolRedeemDirectFeeIndex managerRedeemFeeIndex
  let redeemInfo := { redeemInfo with
    protocolFees := protocolFees
    managerFee := managerFee
    netFlowQuantity := netFlowQuantity
    previousSetTokenSupply := w.totalSupply setToken }
  let (newSetTokenSupply, newPositionMultiplier) ←
    getRedeemPositionMultiplier w setToken setTokenQuantity redeemInfo
  let redeemInfo := { redeemInfo with
    newSetTokenSupply := newSetTokenSupply
    newPositionMultiplier := newPositionMultiplier }
  let newReservePositionUnit ← getRedeemPositionUnit w setToken reserveAsset redeemInfo
  return { redeemInfo with newReservePositionUnit := newReservePositionUnit }

/-! ## Issuance and redemption -/

/-- `_validateCommon`. -/
def validateCommon (w : World) (setToken reserveAsset : Address) (quantity : ℕ) :
    Except Revert Unit := do
  require (0 < quantity) "Quantity must be > 0"
  require (w.isReserveAsset setToken reserveAsset = true) "Must be valid reserve asset"

/-- `_validateIssuanceInfo`. -/
def validateIssuanceInfo (w : World) (setToken : Address) (minSetTokenReceiveQuantity : ℕ)
    (issueInfo : ActionInfo) : Except Revert Unit := do
  require ((w.navIssuanceSettings setToken).minSetTokenSupply ≤ issueInfo.previousSetTokenSupply)
    "Supply must be greater than minimum to enable issuance"
  require (minSetTokenReceiveQuantity ≤ issueInfo.setTokenQuantity)
    "Must be greater than min SetToken"

/-- `_validateRedemptionInfo`. -/
def validateRedemptionInfo (w : World) (setToken : Address) (minReserveReceiveQuantity : ℕ)
    (redeemInfo : ActionInfo) : Except Revert Unit := do
  require ((w.navIssuanceSettings setToken).minSetTokenSupply ≤ redeemInfo.newSetTokenSupply)
    "Supply must be greater than minimum to enable redemption"
  require (minReserveReceiveQuantity ≤ redeemInfo.netFlowQuantity)
    "Must be greater than min receive reserve quantity"

/-- `_callPreIssueHooks`. -/
def callPreIssueHooks (env : Env) (w : World) (setToken reserveAsset : Address)
    (reserveAssetQuantity : ℕ) (caller recipient : Address) : Except Revert World :=
  let preIssueHook := (w.navIssuanceSettings setToken).managerIssuanceHook
  if preIssueHook ≠ zeroAddress then
    env.navPreIssueHook preIssueHook setToken reserveAsset reserveAssetQuantity caller recipient w
  else .ok w

/-- `_callPreRedeemHooks`. -/
def callPreRedeemHooks (env : Env) (w : World) (setToken : Address) (setQuantity : ℕ)
    (caller recipient : Address) : Except Revert World :=
  let preRedeemHook := (w.navIssuanceSettings setToken).managerRedemptionHook
  if preRedeemHook ≠ zeroAddress then
    env.navPreRedeemHook preRedeemHook setToken setQuantity caller recipient w
  else .ok w

/-- `_transferCollateralAndHandleFees`. -/
def transferCollateralAndHandleFees (self : Address) (w : World)
    (msgSender setToken reserveAsset : Address) (issueInfo : ActionInfo) :
    Except Revert World := do
  let w ← ModuleBase.transferFrom self w reserveAsset msgSender setToken issueInfo.netFlowQuantity
  let w ← (
    if 0 < issueInfo.protocolFees then
      ModuleBase.transferFrom self w reserveAsset msgSender w.controller.feeRecipient
        issueInfo.protocolFees
    else .ok w)
  if 0 < issueInfo.managerFee then
    ModuleBase.transferFrom self w reserveAsset msgSender
      (w.navIssuanceSettings setToken).feeRecipient issueInfo.managerFee
  else .ok w

/-- The calls to the Set that `_handleIssueStateUpdates` and `_handleRedeemStateUpdates` share. -/
def editPositions (self : Address) (w : World) (setToken reserveAsset : Address)
    (info : ActionInfo) : Except Revert World := do
  let w ← w.editSetToken self setToken fun m s =>
    s.editPositionMultiplier m info.newPositionMultiplier
  w.editSetToken self setToken fun m s =>
    Position.editDefaultPosition m s reserveAsset info.newReservePositionUnit

/-- `_handleIssueStateUpdates`. -/
def handleIssueStateUpdates (self : Address) (w : World)
    (setToken reserveAsset recipient : Address) (issueInfo : ActionInfo) : Except Revert World := do
  let w ← editPositions self w setToken reserveAsset issueInfo
  w.mint self setToken recipient issueInfo.setTokenQuantity

/-- `_handleRedeemStateUpdates`. -/
def handleRedeemStateUpdates (self : Address) (w : World) (setToken reserveAsset : Address)
    (redeemInfo : ActionInfo) : Except Revert World :=
  editPositions self w setToken reserveAsset redeemInfo

/-- `_handleRedemptionFees`. -/
def handleRedemptionFees (self : Address) (env : Env) (w : World)
    (setToken reserveAsset : Address) (redeemInfo : ActionInfo) : Except Revert World := do
  let w ← ModuleBase.payProtocolFeeFromSetToken self env w setToken reserveAsset
    redeemInfo.protocolFees
  if 0 < redeemInfo.managerFee then
    Invoke.strictInvokeTransfer self env w setToken reserveAsset
      (w.navIssuanceSettings setToken).feeRecipient redeemInfo.managerFee
  else .ok w

/-- `issue`. -/
def issue (self : Address) (env : Env) (w : World) (msgSender setToken reserveAsset : Address)
    (reserveAssetQuantity minSetTokenReceiveQuantity : ℕ) (recipient : Address) :
    Except Revert World := do
  ModuleBase.onlyValidAndInitializedSet self w setToken
  validateCommon w setToken reserveAsset reserveAssetQuantity
  let w ← callPreIssueHooks env w setToken reserveAsset reserveAssetQuantity msgSender recipient
  let issueInfo ← createIssuanceInfo self env w setToken reserveAsset reserveAssetQuantity
  validateIssuanceInfo w setToken minSetTokenReceiveQuantity issueInfo
  let w ← transferCollateralAndHandleFees self w msgSender setToken reserveAsset issueInfo
  handleIssueStateUpdates self w setToken reserveAsset recipient issueInfo

/-- `redeem`. -/
def redeem (self : Address) (env : Env) (w : World) (msgSender setToken reserveAsset : Address)
    (setTokenQuantity minReserveReceiveQuantity : ℕ) (recipient : Address) :
    Except Revert World := do
  ModuleBase.onlyValidAndInitializedSet self w setToken
  validateCommon w setToken reserveAsset setTokenQuantity
  let w ← callPreRedeemHooks env w setToken setTokenQuantity msgSender recipient
  let redeemInfo ← createRedemptionInfo self env w setToken reserveAsset setTokenQuantity
  validateRedemptionInfo w setToken minReserveReceiveQuantity redeemInfo
  let w ← w.burn self setToken msgSender setTokenQuantity
  let w ← Invoke.strictInvokeTransfer self env w setToken reserveAsset recipient
    redeemInfo.netFlowQuantity
  let w ← handleRedemptionFees self env w setToken reserveAsset redeemInfo
  handleRedeemStateUpdates self w setToken reserveAsset redeemInfo

/-- `isRedeemValid`. -/
def isRedeemValid (self : Address) (env : Env) (w : World) (setToken reserveAsset : Address)
    (setTokenQuantity : ℕ) : Except Revert Bool :=
  let setTotalSupply := w.totalSupply setToken
  if setTokenQuantity = 0 ∨ w.isReserveAsset setToken reserveAsset = false then .ok false
  else do
    let minSupply ←
      SafeMath.add (w.navIssuanceSettings setToken).minSetTokenSupply setTokenQuantity
    if setTotalSupply < minSupply then return false
    else
      let totalRedeemValue ←
        getRedeemReserveQuantity env w setToken reserveAsset setTokenQuantity
      let (_, _, expectedRedeemQuantity) ← getFees self w setToken totalRedeemValue
        protocolRedeemManagerRevenueShareFeeIndex protocolRedeemDirectFeeIndex
        managerRedeemFeeIndex
      let existingUnit ←
        SafeCast.toUint256 (← (w.setTokens setToken).getDefaultPositionRealUnit reserveAsset)
      -- the quantity net of fees is compared with what is there
      return expectedRedeemQuantity ≤ (← PreciseUnitMath.preciseMul existingUnit setTotalSupply)

/-! ## Configuration -/

/-- Write the settings of a Set. -/
def setSettings (w : World) (setToken : Address) (settings : NAVIssuanceSettings) : World :=
  { w with navIssuanceSettings := Function.update w.navIssuanceSettings setToken settings }

/-- Write whether an asset is a reserve asset of a Set. -/
def setReserveAsset (w : World) (setToken reserveAsset : Address) (enabled : Bool) : World :=
  { w with
    isReserveAsset := Function.update w.isReserveAsset setToken
      (Function.update (w.isReserveAsset setToken) reserveAsset enabled) }

/-- `addReserveAsset`. -/
def addReserveAsset (self : Address) (w : World) (msgSender setToken reserveAsset : Address) :
    Except Revert World := do
  ModuleBase.onlyManagerAndValidSet self w setToken msgSender
  require (w.isReserveAsset setToken reserveAsset = false) "Reserve asset already exists"
  let settings := w.navIssuanceSettings setToken
  let w := setSettings w setToken
    { settings with reserveAssets := settings.reserveAssets ++ [reserveAsset] }
  return setReserveAsset w setToken reserveAsset true

/-- `removeReserveAsset`. -/
def removeReserveAsset (self : Address) (w : World) (msgSender setToken reserveAsset : Address) :
    Except Revert World := do
  ModuleBase.onlyManagerAndValidSet self w setToken msgSender
  require (w.isReserveAsset setToken reserveAsset = true) "Reserve asset does not exist"
  let settings := w.navIssuanceSettings setToken
  let reserveAssets ← AddressArrayUtils.remove settings.reserveAssets reserveAsset
  let w := setSettings w setToken { settings with reserveAssets := reserveAssets }
  return setReserveAsset w setToken reserveAsset false

/-- `editPremium`. -/
def editPremium (self : Address) (w : World) (msgSender setToken : Address)
    (premiumPercentage : ℕ) : Except Revert World := do
  ModuleBase.onlyManagerAndValidSet self w setToken msgSender
  let settings := w.navIssuanceSettings setToken
  require (premiumPercentage ≤ settings.maxPremiumPercentage)
    "Premium must be less than maximum allowed"
  return setSettings w setToken { settings with premiumPercentage := premiumPercentage }

/-- `editManagerFee`. -/
def editManagerFee (self : Address) (w : World) (msgSender setToken : Address)
    (managerFeePercentage managerFeeIndex : ℕ) : Except Revert World := do
  ModuleBase.onlyManagerAndValidSet self w setToken msgSender
  let settings := w.navIssuanceSettings setToken
  require (managerFeePercentage ≤ settings.maxManagerFee)
    "Manager fee must be less than maximum allowed"
  let managerFees ← match managerFeeIndex with
    | 0 => .ok (managerFeePercentage, settings.managerFees.2)
    | 1 => .ok (settings.managerFees.1, managerFeePercentage)
    | _ => .error "invalid opcode"
  return setSettings w setToken { settings with managerFees := managerFees }

/-- `editFeeRecipient`. -/
def editFeeRecipient (self : Address) (w : World) (msgSender setToken : Address)
    (managerFeeRecipient : Address) : Except Revert World := do
  ModuleBase.onlyManagerAndValidSet self w setToken msgSender
  require (managerFeeRecipient ≠ zeroAddress) "Fee recipient must not be 0 address"
  return setSettings w setToken
    { w.navIssuanceSettings setToken with feeRecipient := managerFeeRecipient }

/-- `initialize`. -/
def initializeModule (self : Address) (w : World) (msgSender setToken : Address)
    (settings : NAVIssuanceSettings) : Except Revert World := do
  ModuleBase.onlySetManager w setToken msgSender
  ModuleBase.onlyValidAndPendingSet self w setToken
  require (0 < settings.reserveAssets.length) "Reserve assets must be greater than 0"
  require (settings.maxManagerFee < preciseUnit) "Max manager fee must be less than 100%"
  require (settings.maxPremiumPercentage < preciseUnit)
    "Max premium percentage must be less than 100%"
  require (settings.managerFees.1 ≤ settings.maxManagerFee)
    "Manager issue fee must be less than max"
  require (settings.managerFees.2 ≤ settings.maxManagerFee)
    "Manager redeem fee must be less than max"
  require (settings.premiumPercentage ≤ settings.maxPremiumPercentage)
    "Premium must be less than max"
  require (settings.feeRecipient ≠ zeroAddress) "Fee Recipient must be non-zero address."
  require (0 < settings.minSetTokenSupply) "Min SetToken supply must be greater than 0"
  let w ← settings.reserveAssets.foldlM (fun w reserveAsset => do
    require (w.isReserveAsset setToken reserveAsset = false) "Reserve assets must be unique"
    return setReserveAsset w setToken reserveAsset true) w
  (setSettings w setToken settings).editSetToken self setToken SetToken.initializeModule

/-- `removeModule`, which the Set calls. -/
def removeModule (w : World) (msgSender : Address) : World :=
  let w := (w.navIssuanceSettings msgSender).reserveAssets.foldl
    (fun w reserveAsset => setReserveAsset w msgSender reserveAsset false) w
  setSettings w msgSender {}

/-! ## What issuance and redemption compute -/

section Numbers

variable (self : Address) (env : Env) (w : World) (setToken reserveAsset : Address) (quantity : ℕ)

/-- What the protocol takes of a quantity, by its share of the manager's fee and a direct fee. -/
def protocolFeesOf (share direct manager quantity : ℕ) : ℕ :=
  (share * manager / preciseUnit + direct) * quantity / preciseUnit

/-- What the manager takes of a quantity, less the protocol's share. -/
def managerFeeOf (share manager quantity : ℕ) : ℕ :=
  (manager - share * manager / preciseUnit) * quantity / preciseUnit

/-- The Sets minted for a net quantity of the reserve asset. -/
def mintQuantityOf (net supply valuation premium unit : ℕ) : ℕ :=
  let value := net * preciseUnit / unit
  let valueLessPremium := (net - net * premium / preciseUnit) * preciseUnit / unit
  valueLessPremium * supply / preciseUnit * preciseUnit /
    (supply * valuation / preciseUnit + value - valueLessPremium)

/-- The reserve paid out for Sets, fees included. -/
def reserveQuantityOf (quantity valuation premium unit : ℕ) : ℕ :=
  let value := quantity * valuation / preciseUnit * unit / preciseUnit
  value - (value * premium) ⌈/⌉ preciseUnit

/-- The value of a Set in the reserve asset. -/
def valuation : ℕ :=
  match env.calculateSetTokenValuation setToken reserveAsset w with
  | .ok valuation => valuation
  | .error _ => 0

/-- What the protocol takes of a reserve quantity at issuance. -/
def issueProtocolFees : ℕ :=
  protocolFeesOf (w.controller.getModuleFee self protocolIssueManagerRevenueShareFeeIndex)
    (w.controller.getModuleFee self protocolIssueDirectFeeIndex)
    (w.navIssuanceSettings setToken).managerFees.1 quantity

/-- What the manager takes of a reserve quantity at issuance. -/
def issueManagerFee : ℕ :=
  managerFeeOf (w.controller.getModuleFee self protocolIssueManagerRevenueShareFeeIndex)
    (w.navIssuanceSettings setToken).managerFees.1 quantity

/-- What the Set receives of a reserve quantity at issuance. -/
def issueNetFlow : ℕ :=
  quantity - issueProtocolFees self w setToken quantity - issueManagerFee self w setToken quantity

/-- The Sets minted for a reserve quantity. -/
def mintedSets : ℕ :=
  mintQuantityOf (issueNetFlow self w setToken quantity) (w.totalSupply setToken)
    (valuation env w setToken reserveAsset) (w.navIssuanceSettings setToken).premiumPercentage
    (reserveAssetUnit w reserveAsset)

/-- The reserve that the Set pays out for a quantity of Sets. -/
def redeemedReserve : ℕ :=
  reserveQuantityOf quantity (valuation env w setToken reserveAsset)
    (w.navIssuanceSettings setToken).premiumPercentage (reserveAssetUnit w reserveAsset)

/-- What the redeemer receives of the reserve that the Set pays out. -/
def redeemNetFlow : ℕ :=
  let total := redeemedReserve env w setToken reserveAsset quantity
  let share := w.controller.getModuleFee self protocolRedeemManagerRevenueShareFeeIndex
  let direct := w.controller.getModuleFee self protocolRedeemDirectFeeIndex
  let manager := (w.navIssuanceSettings setToken).managerFees.2
  total - protocolFeesOf share direct manager total - managerFeeOf share manager total

/-- The multiplier for another supply. -/
def scaledMultiplier (newSupply : ℕ) : ℤ :=
  (w.setTokens setToken).positionMultiplier * (w.totalSupply setToken : ℤ) / (newSupply : ℤ)

/-- The reserve that the unit of the reserve asset stands for. -/
def trackedReserve : ℕ :=
  ((w.setTokens setToken).defaultRealUnit reserveAsset).toNat * w.totalSupply setToken / preciseUnit

/-- The unit of the reserve asset after issuance. -/
def issueReserveUnit : ℕ :=
  (trackedReserve w setToken reserveAsset + issueNetFlow self w setToken quantity) * preciseUnit /
    (mintedSets self env w setToken reserveAsset quantity + w.totalSupply setToken)

/-- The unit of the reserve asset after redemption. -/
def redeemReserveUnit : ℕ :=
  (trackedReserve w setToken reserveAsset -
    redeemedReserve env w setToken reserveAsset quantity) * preciseUnit /
      (w.totalSupply setToken - quantity)

end Numbers

variable {self setToken reserveAsset : Address} {env : Env} {w : World} {quantity : ℕ}

/-- The fees and the net flow add up. -/
theorem getFees_eq_ok {i j k : ℕ} {r : ℕ × ℕ × ℕ}
    (h : getFees self w setToken quantity i j k = .ok r) :
    ∃ manager, getManagerFee w setToken k = .ok manager ∧
      r.1 = protocolFeesOf (w.controller.getModuleFee self i) (w.controller.getModuleFee self j)
        manager quantity ∧
      r.2.1 = managerFeeOf (w.controller.getModuleFee self i) manager quantity ∧
      r.2.2 = quantity - r.1 - r.2.1 ∧ r.1 + r.2.1 ≤ quantity := by
  simp only [getFees, getProtocolAndManagerFeePercentages, bind_eq_ok, pure_eq_ok,
    PreciseUnitMath.preciseMul_eq_ok, SafeMath.sub_eq_ok, SafeMath.add_eq_ok] at h
  obtain ⟨_, ⟨manager, hmanager, _, ⟨-, rfl⟩, _, ⟨-, rfl⟩, _, ⟨-, rfl⟩, rfl⟩, _, ⟨-, rfl⟩, _,
    ⟨-, rfl⟩, _, ⟨hprotocol, rfl⟩, _, ⟨hleft, rfl⟩, rfl⟩ := h
  refine ⟨manager, hmanager, rfl, rfl, rfl, ?_⟩
  dsimp only at hprotocol hleft ⊢
  omega

/-- The Sets minted, by their formula. -/
theorem getSetTokenMintQuantity_eq_ok {net supply minted : ℕ}
    (h : getSetTokenMintQuantity env w setToken reserveAsset net supply = .ok minted) :
    minted = mintQuantityOf net supply (valuation env w setToken reserveAsset)
      (w.navIssuanceSettings setToken).premiumPercentage (reserveAssetUnit w reserveAsset) := by
  simp only [getSetTokenMintQuantity, bind_eq_ok, PreciseUnitMath.preciseMul_eq_ok,
    PreciseUnitMath.preciseDiv_eq_ok, SafeMath.sub_eq_ok, SafeMath.add_eq_ok] at h
  obtain ⟨_, ⟨-, rfl⟩, v, hv, _, ⟨-, -, rfl⟩, _, ⟨-, rfl⟩, _, ⟨-, -, rfl⟩, _, ⟨-, rfl⟩, _,
    ⟨-, rfl⟩, _, ⟨-, rfl⟩, _, ⟨-, rfl⟩, -, -, rfl⟩ := h
  rw [valuation, hv]
  rfl

/-- The reserve paid out, by its formula. -/
theorem getRedeemReserveQuantity_eq_ok {r : ℕ}
    (h : getRedeemReserveQuantity env w setToken reserveAsset quantity = .ok r) :
    r = redeemedReserve env w setToken reserveAsset quantity := by
  simp only [getRedeemReserveQuantity, bind_eq_ok, PreciseUnitMath.preciseMul_eq_ok,
    PreciseUnitMath.preciseMulCeil_eq_ok, SafeMath.sub_eq_ok] at h
  obtain ⟨v, hv, _, ⟨-, rfl⟩, _, ⟨-, rfl⟩, _, ⟨-, rfl⟩, -, rfl⟩ := h
  rw [redeemedReserve, valuation, hv]
  rfl

/-- The multiplier is divided by a supply that is not zero, rounded down. -/
theorem scaleMultiplier_eq_ok (hm : 0 < (w.setTokens setToken).positionMultiplier)
    {newSupply : ℕ} {m : ℤ}
    (h : scaleMultiplier w setToken (w.totalSupply setToken) newSupply = .ok m) :
    0 < newSupply ∧ m = scaledMultiplier w setToken newSupply := by
  simp only [scaleMultiplier, bind_eq_ok, SafeCast.toInt256_eq_ok, SignedSafeMath.mul_eq_ok,
    SignedSafeMath.div_eq_ok] at h
  obtain ⟨_, ⟨-, rfl⟩, _, ⟨-, rfl⟩, _, ⟨-, rfl⟩, hzero, -, rfl⟩ := h
  refine ⟨Nat.pos_of_ne_zero fun h0 => hzero (by rw [h0, Nat.cast_zero]), ?_⟩
  exact Int.tdiv_eq_ediv_of_nonneg (Int.mul_nonneg hm.le (Int.natCast_nonneg _))

/-- The `ActionInfo` of an issuance. -/
structure IssuanceInfo (module : Address) (env : Env) (w : World)
    (setToken reserveAsset : Address) (quantity : ℕ) (info : ActionInfo) : Prop where
  protocolFees : info.protocolFees = issueProtocolFees module w setToken quantity
  managerFee : info.managerFee = issueManagerFee module w setToken quantity
  netFlowQuantity : info.netFlowQuantity = issueNetFlow module w setToken quantity
  /-- The quantity is split without a remainder. -/
  fees_le : info.protocolFees + info.managerFee ≤ quantity
  setTokenQuantity :
    info.setTokenQuantity = mintedSets module env w setToken reserveAsset quantity
  /-- There are Sets after the issuance. -/
  supply_pos : 0 < info.setTokenQuantity + w.totalSupply setToken
  newPositionMultiplier : info.newPositionMultiplier =
    scaledMultiplier w setToken (info.setTokenQuantity + w.totalSupply setToken)
  /-- The reserve asset has no negative unit. -/
  unit_nonneg : 0 ≤ (w.setTokens setToken).defaultRealUnit reserveAsset
  newReservePositionUnit :
    info.newReservePositionUnit = issueReserveUnit module env w setToken reserveAsset quantity

/-- What `_createIssuanceInfo` computes. -/
theorem createIssuanceInfo_spec (hm : 0 < (w.setTokens setToken).positionMultiplier)
    {info : ActionInfo}
    (h : createIssuanceInfo self env w setToken reserveAsset quantity = .ok info) :
    IssuanceInfo self env w setToken reserveAsset quantity info := by
  simp only [createIssuanceInfo, getIssuePositionMultiplier, getIssuePositionUnit, bind_eq_ok,
    pure_eq_ok, SafeMath.add_eq_ok, SetToken.getDefaultPositionRealUnit_eq_ok,
    SafeCast.toUint256_eq_ok, PreciseUnitMath.preciseMul_eq_ok,
    PreciseUnitMath.preciseDiv_eq_ok] at h
  obtain ⟨⟨protocolFees, managerFee, net⟩, hfees, minted, hmint, _, ⟨_, ⟨-, rfl⟩, m, hscale, rfl⟩,
    _, ⟨_, ⟨-, rfl⟩, u, hu, _, ⟨-, rfl⟩, _, ⟨-, rfl⟩, -, -, rfl⟩, rfl⟩ := h
  obtain ⟨manager, hmanager, hprotocol, hfee, hnet, hle⟩ := getFees_eq_ok hfees
  obtain rfl : (w.navIssuanceSettings setToken).managerFees.1 = manager := by
    simpa [getManagerFee, managerIssueFeeIndex] using hmanager
  dsimp only at hprotocol hfee hnet hle
  obtain ⟨hpos, rfl⟩ := scaleMultiplier_eq_ok hm hscale
  have hnet' : net = issueNetFlow self w setToken quantity := by
    rw [hnet, hprotocol, hfee]
    rfl
  have hminted : minted = mintedSets self env w setToken reserveAsset quantity := by
    rw [getSetTokenMintQuantity_eq_ok hmint, hnet']
    rfl
  refine ⟨hprotocol, hfee, hnet', hle, hminted, hpos, rfl, hu ▸ Int.natCast_nonneg u, ?_⟩
  rw [issueReserveUnit, trackedReserve, hu, Int.toNat_natCast, ← hminted, ← hnet']

/-- The numbers that both the view and the redemption compute: what is paid out, its parts, and the
unit of the reserve asset. -/
structure Computed (module : Address) (env : Env) (w : World) (setToken reserveAsset : Address)
    (quantity total unit protocolFees managerFee net : ℕ) : Prop where
  paid : getRedeemReserveQuantity env w setToken reserveAsset quantity = .ok total
  split : getFees module w setToken total protocolRedeemManagerRevenueShareFeeIndex
    protocolRedeemDirectFeeIndex managerRedeemFeeIndex = .ok (protocolFees, managerFee, net)
  existing : (w.setTokens setToken).getDefaultPositionRealUnit reserveAsset = .ok (unit : ℤ)
  fits : InUint256 (unit * w.totalSupply setToken)

namespace Computed

variable {total unit protocolFees managerFee net : ℕ}

/-- The net flow and the fees add up to what is paid out. -/
theorem outflow (h : Computed self env w setToken reserveAsset quantity total unit protocolFees
    managerFee net) :
    net + protocolFees + managerFee = redeemedReserve env w setToken reserveAsset quantity := by
  obtain ⟨_, -, -, -, hnet, hle⟩ := getFees_eq_ok h.split
  rw [← getRedeemReserveQuantity_eq_ok h.paid]
  dsimp only at hnet hle
  omega

/-- The net flow, by its formula. -/
theorem net_eq (h : Computed self env w setToken reserveAsset quantity total unit protocolFees
    managerFee net) : net = redeemNetFlow self env w setToken reserveAsset quantity := by
  obtain ⟨manager, hmanager, hprotocol, hfee, hnet, -⟩ := getFees_eq_ok h.split
  obtain rfl : (w.navIssuanceSettings setToken).managerFees.2 = manager := by
    simpa [getManagerFee, managerRedeemFeeIndex] using hmanager
  dsimp only at hprotocol hfee hnet
  rw [hnet, hprotocol, hfee, getRedeemReserveQuantity_eq_ok h.paid]
  rfl

/-- What is there, by its formula. -/
theorem tracked_eq (h : Computed self env w setToken reserveAsset quantity total unit protocolFees
    managerFee net) :
    unit * w.totalSupply setToken / preciseUnit = trackedReserve w setToken reserveAsset := by
  obtain ⟨-, hunit⟩ := SetToken.getDefaultPositionRealUnit_eq_ok.mp h.existing
  rw [trackedReserve, hunit, Int.toNat_natCast]

/-- What is paid out is a `uint256`. -/
theorem inUint256_outflow (h : Computed self env w setToken reserveAsset quantity total unit
    protocolFees managerFee net) : InUint256 (net + protocolFees + managerFee) := by
  have hpaid := h.paid
  rw [h.outflow, ← getRedeemReserveQuantity_eq_ok hpaid]
  simp only [getRedeemReserveQuantity, bind_eq_ok, PreciseUnitMath.preciseMul_eq_ok,
    PreciseUnitMath.preciseMulCeil_eq_ok, SafeMath.sub_eq_ok] at hpaid
  obtain ⟨_, -, _, ⟨-, rfl⟩, _, ⟨hfit, rfl⟩, _, -, -, rfl⟩ := hpaid
  refine lt_of_le_of_lt ?_ hfit
  exact (Nat.sub_le _ _).trans (Nat.div_le_self _ _)

end Computed

/-- The multiplier is scaled to a supply that is not zero. -/
theorem pos_of_scaleMultiplier {supply newSupply : ℕ} {m : ℤ}
    (h : scaleMultiplier w setToken supply newSupply = .ok m) : 0 < newSupply := by
  simp only [scaleMultiplier, bind_eq_ok, SafeCast.toInt256_eq_ok, SignedSafeMath.div_eq_ok] at h
  obtain ⟨_, -, _, -, _, ⟨-, rfl⟩, hzero, -⟩ := h
  omega

/-- The data of a redemption: there are some exactly when these numbers are computed, some supply is
left, and what is paid out is tracked. -/
theorem createRedemptionInfo_eq_ok {info : ActionInfo} :
    createRedemptionInfo self env w setToken reserveAsset quantity = .ok info ↔
      ∃ total unit protocolFees managerFee net m,
        Computed self env w setToken reserveAsset quantity total unit protocolFees managerFee net ∧
        quantity < w.totalSupply setToken ∧
        scaleMultiplier w setToken (w.totalSupply setToken) (w.totalSupply setToken - quantity) =
          .ok m ∧
        redeemedReserve env w setToken reserveAsset quantity ≤
          trackedReserve w setToken reserveAsset ∧
        InUint256 ((trackedReserve w setToken reserveAsset -
          redeemedReserve env w setToken reserveAsset quantity) * preciseUnit) ∧
        info = {
          preFeeReserveQuantity := total
          protocolFees := protocolFees
          managerFee := managerFee
          netFlowQuantity := net
          setTokenQuantity := quantity
          previousSetTokenSupply := w.totalSupply setToken
          newSetTokenSupply := w.totalSupply setToken - quantity
          newPositionMultiplier := m
          newReservePositionUnit := redeemReserveUnit env w setToken reserveAsset quantity } := by
  simp only [createRedemptionInfo, getRedeemPositionMultiplier, getRedeemPositionUnit, bind_eq_ok,
    pure_eq_ok, SafeMath.add_eq_ok, SafeMath.sub_eq_ok, require_eq_ok, SafeCast.toUint256_eq_ok,
    PreciseUnitMath.preciseMul_eq_ok, PreciseUnitMath.preciseDiv_eq_ok, redeemReserveUnit]
  constructor
  · rintro ⟨total, hpaid, ⟨protocolFees, managerFee, net⟩, hsplit, _, ⟨_, ⟨hle, rfl⟩, m, hscale,
      rfl⟩, _, ⟨_, hexisting, unit, rfl, _, ⟨hfits, rfl⟩, _, ⟨-, rfl⟩, _, ⟨-, rfl⟩, -, hcovered, _,
      ⟨-, rfl⟩, hreserve, -, rfl⟩, rfl⟩
    have hcomputed : Computed self env w setToken reserveAsset quantity total unit protocolFees
        managerFee net := ⟨hpaid, hsplit, hexisting, hfits⟩
    have hpos := pos_of_scaleMultiplier hscale
    rw [← hcomputed.outflow, ← hcomputed.tracked_eq]
    exact ⟨total, unit, protocolFees, managerFee, net, m, hcomputed, by omega, hscale, hcovered,
      hreserve, rfl⟩
  · rintro ⟨total, unit, protocolFees, managerFee, net, m, hcomputed, hlt, hscale, hcovered,
      hreserve, rfl⟩
    rw [← hcomputed.outflow, ← hcomputed.tracked_eq] at hcovered hreserve ⊢
    have houtflow := hcomputed.inUint256_outflow
    have hflow : InUint256 (net + protocolFees) :=
      lt_of_le_of_lt (Nat.le_add_right _ managerFee) houtflow
    exact ⟨total, hcomputed.paid, (protocolFees, managerFee, net), hcomputed.split, _,
      ⟨_, ⟨hlt.le, rfl⟩, m, hscale, rfl⟩, _, ⟨_, hcomputed.existing, unit, rfl, _,
        ⟨hcomputed.fits, rfl⟩, _, ⟨hflow, rfl⟩, _, ⟨houtflow, rfl⟩, (), hcovered, _,
        ⟨hcovered, rfl⟩, hreserve, Nat.sub_pos_of_lt hlt, rfl⟩, rfl⟩

/-- The `ActionInfo` of a redemption. -/
structure RedemptionInfo (env : Env) (w : World) (setToken reserveAsset : Address)
    (quantity : ℕ) (info : ActionInfo) : Prop where
  /-- What is paid out is split without a remainder. -/
  outflow : info.netFlowQuantity + info.protocolFees + info.managerFee =
    redeemedReserve env w setToken reserveAsset quantity
  /-- There are Sets after the redemption. -/
  supply_pos : 0 < w.totalSupply setToken - quantity
  newPositionMultiplier : info.newPositionMultiplier =
    scaledMultiplier w setToken (w.totalSupply setToken - quantity)
  /-- The reserve asset has no negative unit. -/
  unit_nonneg : 0 ≤ (w.setTokens setToken).defaultRealUnit reserveAsset
  /-- What is paid out is tracked. -/
  outflow_le : redeemedReserve env w setToken reserveAsset quantity ≤
    trackedReserve w setToken reserveAsset
  newReservePositionUnit :
    info.newReservePositionUnit = redeemReserveUnit env w setToken reserveAsset quantity

/-- What `_createRedemptionInfo` computes. -/
theorem createRedemptionInfo_spec (hm : 0 < (w.setTokens setToken).positionMultiplier)
    {info : ActionInfo}
    (h : createRedemptionInfo self env w setToken reserveAsset quantity = .ok info) :
    RedemptionInfo env w setToken reserveAsset quantity info := by
  obtain ⟨total, unit, protocolFees, managerFee, net, m, hcomputed, -, hscale, hcovered, -, rfl⟩ :=
    createRedemptionInfo_eq_ok.mp h
  obtain ⟨hpos, rfl⟩ := scaleMultiplier_eq_ok hm hscale
  obtain ⟨-, hunit⟩ := SetToken.getDefaultPositionRealUnit_eq_ok.mp hcomputed.existing
  exact
    { outflow := hcomputed.outflow
      supply_pos := hpos
      newPositionMultiplier := rfl
      unit_nonneg := hunit ▸ Int.natCast_nonneg unit
      outflow_le := hcovered
      newReservePositionUnit := rfl }

end NavIssuanceModule

end SetProtocol
