import SetProtocol.Core.ModuleBase

set_option relaxedAutoImplicit false
set_option autoImplicit false

/-!
# Absorbing airdrops

`contracts/protocol/modules/AirdropModule.sol`. Tokens that were sent to a Set are no part of its
positions. The module deployed at `self` absorbs what a Set holds beyond its default position of a
token, less a fee. For each Set it keeps a list of the tokens that may be absorbed.

## Main definitions

* `SetProtocol.AirdropModule.absorb`, `batchAbsorb` — the tokens become a part of the position.
* `SetProtocol.AirdropModule.addAirdrop`, `removeAirdrop` — the manager edits the list.
* `SetProtocol.AirdropModule.initializeModule`, `removeModule` — the life of the module on a Set.
* `SetProtocol.AirdropModule.isAirdropToken` — the token is on the list.
-/

namespace SetProtocol

open Checked

namespace AirdropModule

/-- `AIRDROP_MODULE_PROTOCOL_FEE_INDEX`. -/
def airdropModuleProtocolFeeIndex : ℕ := 0

/-- Write the settings of a Set. -/
def setSettings (w : World) (setToken : Address) (settings : AirdropSettings) : World :=
  { w with airdropSettings := Function.update w.airdropSettings setToken settings }

/-- `getAirdrops`, and `_airdrops`. -/
def getAirdrops (w : World) (setToken : Address) : List Address :=
  (w.airdropSettings setToken).airdrops

/-- `isAirdropToken`. -/
def isAirdropToken (w : World) (setToken token : Address) : Bool :=
  AddressArrayUtils.contains (getAirdrops w setToken) token

/-- The modifier `onlyValidCaller`, with `_isValidCaller`. -/
def onlyValidCaller (w : World) (setToken msgSender : Address) : Except Revert Unit :=
  require ((w.airdropSettings setToken).anyoneAbsorb = true ∨
    (w.setTokens setToken).manager = msgSender) "Must be valid caller"

/-! ## Absorption -/

/-- `_handleFees`, with what the manager and the protocol take, and the sum of both. -/
def handleFees (self : Address) (env : Env) (w : World) (setToken component : Address)
    (amountAirdropped : ℕ) : Except Revert (World × ℕ × ℕ × ℕ) :=
  let airdropFee := (w.airdropSettings setToken).airdropFee
  if 0 < airdropFee then do
    let managerTake ← PreciseUnitMath.preciseMul amountAirdropped airdropFee
    let protocolTake ← ModuleBase.getModuleFee self w airdropModuleProtocolFeeIndex managerTake
    let netManagerTake ← SafeMath.sub managerTake protocolTake
    let totalFees ← SafeMath.add netManagerTake protocolTake
    let w ← Invoke.invokeTransfer self env w setToken component
      (w.airdropSettings setToken).feeRecipient netManagerTake
    let w ← ModuleBase.payProtocolFeeFromSetToken self env w setToken component protocolTake
    return (w, netManagerTake, protocolTake, totalFees)
  else .ok (w, 0, 0, 0)

/-- `_getPostAirdropUnit`. -/
def getPostAirdropUnit (w : World) (setToken : Address)
    (totalComponentBalance totalFeesPaid : ℕ) : Except Revert ℕ := do
  let totalSupply := w.totalSupply setToken
  Position.getDefaultPositionUnit totalSupply (← SafeMath.sub totalComponentBalance totalFeesPaid)

/-- `_handleAirdropPosition`. -/
def handleAirdropPosition (self : Address) (env : Env) (w : World) (setToken token : Address) :
    Except Revert World := do
  let preFeeTokenBalance := (w.tokens token).balances setToken
  let trackedBalance ←
    Position.getDefaultTrackedBalance (w.setTokens setToken) (w.totalSupply setToken) token
  let amountAirdropped ← SafeMath.sub preFeeTokenBalance trackedBalance
  if 0 < amountAirdropped then do
    let (w, _, _, totalFees) ← handleFees self env w setToken token amountAirdropped
    let newUnit ← getPostAirdropUnit w setToken preFeeTokenBalance totalFees
    w.editSetToken self setToken fun m s => Position.editDefaultPosition m s token newUnit
  else .ok w

/-- `_absorb`. -/
def absorbToken (self : Address) (env : Env) (setToken : Address) (w : World) (token : Address) :
    Except Revert World := do
  require (isAirdropToken w setToken token = true) "Must be approved token."
  handleAirdropPosition self env w setToken token

/-- `_batchAbsorb`. -/
def batchAbsorbTokens (self : Address) (env : Env) (setToken : Address) (w : World)
    (tokens : List Address) : Except Revert World :=
  tokens.foldlM (absorbToken self env setToken) w

/-- `absorb`. -/
def absorb (self : Address) (env : Env) (w : World) (msgSender setToken token : Address) :
    Except Revert World := do
  onlyValidCaller w setToken msgSender
  ModuleBase.onlyValidAndInitializedSet self w setToken
  absorbToken self env setToken w token

/-- `batchAbsorb`. -/
def batchAbsorb (self : Address) (env : Env) (w : World) (msgSender setToken : Address)
    (tokens : List Address) : Except Revert World := do
  onlyValidCaller w setToken msgSender
  ModuleBase.onlyValidAndInitializedSet self w setToken
  batchAbsorbTokens self env setToken w tokens

/-! ## The operations of the manager -/

/-- `addAirdrop`. -/
def addAirdrop (self : Address) (w : World) (msgSender setToken airdrop : Address) :
    Except Revert World := do
  ModuleBase.onlyManagerAndValidSet self w setToken msgSender
  require (isAirdropToken w setToken airdrop = false) "Token already added."
  let settings := w.airdropSettings setToken
  return setSettings w setToken { settings with airdrops := settings.airdrops ++ [airdrop] }

/-- `removeAirdrop`. -/
def removeAirdrop (self : Address) (w : World) (msgSender setToken airdrop : Address) :
    Except Revert World := do
  ModuleBase.onlyManagerAndValidSet self w setToken msgSender
  require (isAirdropToken w setToken airdrop = true) "Token not added."
  let settings := w.airdropSettings setToken
  let airdrops ← AddressArrayUtils.remove settings.airdrops airdrop
  return setSettings w setToken { settings with airdrops := airdrops }

/-- `updateAnyoneAbsorb`. -/
def updateAnyoneAbsorb (self : Address) (w : World) (msgSender setToken : Address) :
    Except Revert World := do
  ModuleBase.onlyManagerAndValidSet self w setToken msgSender
  let settings := w.airdropSettings setToken
  return setSettings w setToken { settings with anyoneAbsorb := !settings.anyoneAbsorb }

/-- `updateFeeRecipient`. -/
def updateFeeRecipient (self : Address) (w : World) (msgSender setToken newFeeRecipient : Address) :
    Except Revert World := do
  ModuleBase.onlySetManager w setToken msgSender
  ModuleBase.onlyValidAndInitializedSet self w setToken
  require (newFeeRecipient ≠ zeroAddress) "Passed address must be non-zero"
  return setSettings w setToken
    { w.airdropSettings setToken with feeRecipient := newFeeRecipient }

/-- `updateAirdropFee`, which absorbs all tokens under the old fee. -/
def updateAirdropFee (self : Address) (env : Env) (w : World) (msgSender setToken : Address)
    (newFee : ℕ) : Except Revert World := do
  ModuleBase.onlySetManager w setToken msgSender
  ModuleBase.onlyValidAndInitializedSet self w setToken
  require (newFee < preciseUnit) "Airdrop fee can't exceed 100%"
  let w ← batchAbsorbTokens self env setToken w (w.airdropSettings setToken).airdrops
  return setSettings w setToken { w.airdropSettings setToken with airdropFee := newFee }

/-! ## Initialization and removal -/

/-- `initialize`. -/
def initializeModule (self : Address) (w : World) (msgSender setToken : Address)
    (settings : AirdropSettings) : Except Revert World := do
  ModuleBase.onlySetManager w setToken msgSender
  ModuleBase.onlyValidAndPendingSet self w setToken
  require (0 < settings.airdrops.length) "At least one token must be passed."
  require (settings.airdropFee ≤ preciseUnit) "Fee must be <= 100%."
  let w := setSettings w setToken settings
  w.editSetToken self setToken SetToken.initializeModule

/-- `removeModule`, which the Set calls. -/
def removeModule (w : World) (msgSender : Address) : World := setSettings w msgSender {}

end AirdropModule

end SetProtocol
