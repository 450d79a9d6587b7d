import SetProtocol.Core.ModuleBase

set_option relaxedAutoImplicit false
set_option autoImplicit false

/-!
# Claiming rewards

`contracts/protocol/modules/ClaimModule.sol`. For each Set the module deployed at `self` keeps the
reward pools, and for each pool the adapters by which rewards are claimed from it. An adapter is
named, and the integration registry says at the time of a call which contract the name stands for.

A pool is listed as long as it has adapters. The module does not test this on the list of pools: it
looks at the number of adapters after it added or removed one.

## Main definitions

* `SetProtocol.ClaimModule.addClaimSetting`, `removeClaimSetting` — an adapter joins and leaves a
  pool.
* `SetProtocol.ClaimModule.addClaim`, `batchAddClaim`, `removeClaim`, `batchRemoveClaim` — the
  operations of the manager.
* `SetProtocol.ClaimModule.initializeModule`, `removeModule` — the life of the module on a Set.
* `SetProtocol.ClaimModule.claim` — the rewards of a pool are claimed by an adapter.
-/

namespace SetProtocol

open Checked

namespace ClaimModule

/-! ## The registry of a Set -/

/-- Write the adapters of a pool. -/
def setClaimSettings (w : World) (setToken rewardPool : Address) (adapters : List Address) :
    World :=
  { w with
    claimSettings := Function.update w.claimSettings setToken
      (Function.update (w.claimSettings setToken) rewardPool adapters) }

/-- Write the pools of a Set. -/
def setRewardPoolList (w : World) (setToken : Address) (rewardPools : List Address) : World :=
  { w with rewardPoolList := Function.update w.rewardPoolList setToken rewardPools }

/-- Write whether anyone may claim for a Set. -/
def setAnyoneClaim (w : World) (setToken : Address) (anyoneClaim : Bool) : World :=
  { w with anyoneClaim := Function.update w.anyoneClaim setToken anyoneClaim }

/-- `_addClaim`. -/
def addClaimSetting (self : Address) (env : Env) (setToken : Address) (w : World)
    (rewardPool : Address) (integrationName : String) : Except Revert World := do
  let adapter ← ModuleBase.getAndValidateAdapter self env w integrationName
  let rewardPoolClaimSettings := w.claimSettings setToken rewardPool
  require (AddressArrayUtils.contains rewardPoolClaimSettings adapter = false)
    "Integration names must be unique"
  let w := setClaimSettings w setToken rewardPool (rewardPoolClaimSettings ++ [adapter])
  if (w.claimSettings setToken rewardPool).length = 1 then
    return setRewardPoolList w setToken (w.rewardPoolList setToken ++ [rewardPool])
  else
    return w

/-- `_removeClaim`. -/
def removeClaimSetting (self : Address) (env : Env) (setToken : Address) (w : World)
    (rewardPool : Address) (integrationName : String) : Except Revert World := do
  let adapter ← ModuleBase.getAndValidateAdapter self env w integrationName
  let rewardPoolClaimSettings := w.claimSettings setToken rewardPool
  require (AddressArrayUtils.contains rewardPoolClaimSettings adapter = true)
    "Integration must be added"
  let adapters ← AddressArrayUtils.remove rewardPoolClaimSettings adapter
  let w := setClaimSettings w setToken rewardPool adapters
  if (w.claimSettings setToken rewardPool).length = 0 then do
    let rewardPools ← AddressArrayUtils.remove (w.rewardPoolList setToken) rewardPool
    let w := setRewardPoolList w setToken rewardPools
    return setClaimSettings w setToken rewardPool []
  else
    return w

/-- `_validateBatchArrays`. -/
def validateBatchArrays (rewardPools : List Address) (integrationNames : List String) :
    Except Revert Unit := do
  require (rewardPools.length = integrationNames.length) "Array length mismatch"
  require (0 < rewardPools.length) "Arrays must not be empty"

/-- The loop of the batch functions over pools and names. -/
def batch (f : World → Address → String → Except Revert World) (w : World)
    (rewardPools : List Address) (integrationNames : List String) : Except Revert World := do
  validateBatchArrays rewardPools integrationNames
  (rewardPools.zip integrationNames).foldlM (fun w entry => f w entry.1 entry.2) w

/-- `_batchAddClaim`. -/
def batchAddClaimSettings (self : Address) (env : Env) (setToken : Address) (w : World)
    (rewardPools : List Address) (integrationNames : List String) : Except Revert World :=
  batch (addClaimSetting self env setToken) w rewardPools integrationNames

/-! ## The operations of the manager -/

/-- `updateAnyoneClaim`. -/
def updateAnyoneClaim (self : Address) (w : World) (msgSender setToken : Address) :
    Except Revert World := do
  ModuleBase.onlyManagerAndValidSet self w setToken msgSender
  return setAnyoneClaim w setToken (!w.anyoneClaim setToken)

/-- `addClaim`. -/
def addClaim (self : Address) (env : Env) (w : World) (msgSender setToken rewardPool : Address)
    (integrationName : String) : Except Revert World := do
  ModuleBase.onlyManagerAndValidSet self w setToken msgSender
  addClaimSetting self env setToken w rewardPool integrationName

/-- `batchAddClaim`. -/
def batchAddClaim (self : Address) (env : Env) (w : World) (msgSender setToken : Address)
    (rewardPools : List Address) (integrationNames : List String) : Except Revert World := do
  ModuleBase.onlyManagerAndValidSet self w setToken msgSender
  batchAddClaimSettings self env setToken w rewardPools integrationNames

/-- `removeClaim`. -/
def removeClaim (self : Address) (env : Env) (w : World) (msgSender setToken rewardPool : Address)
    (integrationName : String) : Except Revert World := do
  ModuleBase.onlyManagerAndValidSet self w setToken msgSender
  removeClaimSetting self env setToken w rewardPool integrationName

/-- `batchRemoveClaim`. -/
def batchRemoveClaim (self : Address) (env : Env) (w : World) (msgSender setToken : Address)
    (rewardPools : List Address) (integrationNames : List String) : Except Revert World := do
  ModuleBase.onlyManagerAndValidSet self w setToken msgSender
  batch (removeClaimSetting self env setToken) w rewardPools integrationNames

/-! ## Initialization and removal -/

/-- `initialize`. -/
def initializeModule (self : Address) (env : Env) (w : World) (msgSender setToken : Address)
    (anyoneClaim : Bool) (rewardPools : List Address) (integrationNames : List String) :
    Except Revert World := do
  ModuleBase.onlySetManager w setToken msgSender
  ModuleBase.onlyValidAndPendingSet self w setToken
  let w ← batchAddClaimSettings self env setToken w rewardPools integrationNames
  let w := setAnyoneClaim w setToken anyoneClaim
  w.editSetToken self setToken SetToken.initializeModule

/-- `removeModule`, which the Set calls. -/
def removeModule (w : World) (msgSender : Address) : World :=
  let w := setAnyoneClaim w msgSender false
  let setTokenPoolList := w.rewardPoolList msgSender
  let w := setTokenPoolList.foldl
    (fun w rewardPool => setClaimSettings w msgSender rewardPool []) w
  setRewardPoolList w msgSender []

/-! ## Claims -/

/-- `isRewardPool`. -/
def isRewardPool (w : World) (setToken rewardPool : Address) : Bool :=
  AddressArrayUtils.contains (w.rewardPoolList setToken) rewardPool

/-- `_getAndValidateIntegrationAdapter`. -/
def getAndValidateIntegrationAdapter (self : Address) (env : Env) (w : World)
    (rewardPoolClaimSettings : List Address) (integrationName : String) :
    Except Revert Address := do
  let adapter ← ModuleBase.getAndValidateAdapter self env w integrationName
  require (AddressArrayUtils.contains rewardPoolClaimSettings adapter = true)
    "Adapter integration not present"
  return adapter

/-- The modifier `onlyValidCaller`. -/
def onlyValidCaller (w : World) (setToken msgSender : Address) : Except Revert Unit :=
  require (w.anyoneClaim setToken = true ∨ (w.setTokens setToken).manager = msgSender)
    "Must be valid caller"

/-- `_claim`. -/
def claimRewards (self : Address) (env : Env) (setToken : Address) (w : World)
    (rewardPool : Address) (integrationName : String) : Except Revert World := do
  require (isRewardPool w setToken rewardPool = true) "RewardPool not present"
  let adapter ← getAndValidateIntegrationAdapter self env w (w.claimSettings setToken rewardPool)
    integrationName
  let _rewards ← env.getRewards adapter setToken rewardPool w
  let (callTarget, callValue, callByteData) ← env.getClaimCallData adapter setToken rewardPool w
  let (w, _) ← w.invoke env self setToken callTarget callValue callByteData
  return w

/-- `claim`. -/
def claim (self : Address) (env : Env) (w : World) (msgSender setToken rewardPool : Address)
    (integrationName : String) : Except Revert World := do
  ModuleBase.onlyValidAndInitializedSet self w setToken
  onlyValidCaller w setToken msgSender
  claimRewards self env setToken w rewardPool integrationName

/-- `batchClaim`. -/
def batchClaim (self : Address) (env : Env) (w : World) (msgSender setToken : Address)
    (rewardPools : List Address) (integrationNames : List String) : Except Revert World := do
  ModuleBase.onlyValidAndInitializedSet self w setToken
  onlyValidCaller w setToken msgSender
  batch (claimRewards self env setToken) w rewardPools integrationNames

end ClaimModule

end SetProtocol
