import SetProtocol.Core.ModuleBase

set_option relaxedAutoImplicit false
set_option autoImplicit false

/-!
# Liquidity

`contracts/protocol/modules/AmmModule.sol`. The manager adds components of a Set to the pool of an
exchange, for tokens of the pool, or removes them again. The module deployed at `self` reaches the
exchange by an adapter. Amounts are given in units of the Set; `_getActionInfo` makes them notional.

## Main definitions

* `SetProtocol.AmmModule.ActionInfo` — the data of an action.
* `SetProtocol.AmmModule.addLiquidity`, `addLiquiditySingleAsset`, `removeLiquidity`,
  `removeLiquiditySingleAsset`.
* `SetProtocol.AmmModule.validateAddLiquidity`, `validateRemoveLiquidity` — the checks before an
  action.

## Main results

* `SetProtocol.AmmModule.getActionInfo_eq_ok` — the data of an action, from its arguments.
* `SetProtocol.AmmModule.validateAddLiquidity_eq_ok`, `validateRemoveLiquidity_eq_ok` — when an
  action passes its checks.
-/

namespace SetProtocol

open Checked

namespace AmmModule

/-- `ActionInfo`. -/
structure ActionInfo where
  /-- The Set. -/
  setToken : Address
  /-- The supply of the Set. -/
  totalSupply : ℕ
  /-- The adapter of the exchange. -/
  ammAdapter : Address
  /-- The token of the pool. -/
  liquidityToken : Address
  /-- The balance of the pool token before the action. -/
  preActionLiquidityTokenBalance : ℕ
  /-- The balances of the components before the action. -/
  preActionComponentBalances : List ℕ
  /-- The least quantity of pool tokens to receive, or the quantity to give. -/
  liquidityQuantity : ℕ
  /-- The largest quantities of components to give, or the least ones to receive. -/
  totalNotionalComponents : List ℕ
  /-- The same as real units. -/
  componentUnits : List ℕ
  /-- The components. -/
  components : List Address

/-! ## The data of an action -/

/-- `_getTokenBalances`. -/
def getTokenBalances (w : World) (owner : Address) (tokens : List Address) : List ℕ :=
  tokens.map fun token => (w.tokens token).balances owner

/-- `_getTotalNotionalComponents`. -/
def getTotalNotionalComponents (w : World) (setToken : Address) (tokenAmounts : List ℕ) :
    Except Revert (List ℕ) :=
  tokenAmounts.mapM (Position.getDefaultTotalNotional (w.totalSupply setToken))

/-- `_getActionInfo`. -/
def getActionInfo (self : Address) (env : Env) (w : World) (setToken : Address)
    (integrationName : String) (ammPool : Address) (components : List Address)
    (componentUnits : List ℕ) (poolTokenInPositionUnit : ℕ) : Except Revert ActionInfo := do
  let totalSupply := w.totalSupply setToken
  let ammAdapter ← ModuleBase.getAndValidateAdapter self env w integrationName
  let liquidityQuantity ← Position.getDefaultTotalNotional totalSupply poolTokenInPositionUnit
  let totalNotionalComponents ← getTotalNotionalComponents w setToken componentUnits
  return {
    setToken := setToken
    totalSupply := totalSupply
    ammAdapter := ammAdapter
    liquidityToken := ammPool
    preActionLiquidityTokenBalance := (w.tokens ammPool).balances setToken
    preActionComponentBalances := getTokenBalances w setToken components
    liquidityQuantity := liquidityQuantity
    totalNotionalComponents := totalNotionalComponents
    componentUnits := componentUnits
    components := components }

/-- `_getActionInfoSingleAsset`. -/
def getActionInfoSingleAsset (self : Address) (env : Env) (w : World) (setToken : Address)
    (integrationName : String) (ammPool component : Address)
    (maxPositionUnitToPool minPoolToken : ℕ) : Except Revert ActionInfo :=
  getActionInfo self env w setToken integrationName ammPool [component] [maxPositionUnitToPool]
    minPoolToken

/-! ## Checks before an action -/

/-- `_validateCommon`. -/
def validateCommon (env : Env) (w : World) (actionInfo : ActionInfo) : Except Revert Unit := do
  require (actionInfo.componentUnits.length = actionInfo.components.length)
    "Components and units must be equal length"
  require (0 < actionInfo.liquidityQuantity) "Token quantity must be nonzero"
  let valid ← env.isValidPool actionInfo.ammAdapter actionInfo.liquidityToken w
  require (valid = true) "Pool token must be enabled on the Adapter"

/-- One round of the loop of `_validateAddLiquidity`. -/
def validateComponentUnit (s : SetToken) (entry : Address × ℕ) : Except Revert Unit := do
  let sufficient ← Position.hasSufficientDefaultUnits s entry.1 entry.2
  require (sufficient = true) "Unit cant be greater than positions owned"

/-- `_validateAddLiquidity`. -/
def validateAddLiquidity (env : Env) (w : World) (actionInfo : ActionInfo) :
    Except Revert Unit := do
  validateCommon env w actionInfo
  (actionInfo.components.zip actionInfo.componentUnits).forM
    (validateComponentUnit (w.setTokens actionInfo.setToken))

/-- `_validateRemoveLiquidity`. -/
def validateRemoveLiquidity (env : Env) (w : World) (actionInfo : ActionInfo) :
    Except Revert Unit := do
  validateCommon env w actionInfo
  (actionInfo.components.zip actionInfo.componentUnits).forM fun entry =>
    require (0 < entry.2) "Component quantity must be nonzero"
  -- the notional quantity is compared with the unit of the position
  let sufficient ← Position.hasSufficientDefaultUnits (w.setTokens actionInfo.setToken)
    actionInfo.liquidityToken actionInfo.liquidityQuantity
  require (sufficient = true) "SetToken must own enough liquidity token"

/-! ## The action -/

/-- `_executeApprovals`. -/
def executeApprovals (self : Address) (env : Env) (w : World) (actionInfo : ActionInfo) :
    Except Revert World := do
  let spender ← env.getAmmSpenderAddress actionInfo.ammAdapter actionInfo.liquidityToken w
  (actionInfo.components.zip actionInfo.totalNotionalComponents).foldlM
    (fun w entry => Invoke.invokeApprove self env w actionInfo.setToken entry.1 spender entry.2) w

/-- What the four functions that call the exchange share: they differ in the function of the
adapter. -/
def executeCall (self : Address) (env : Env) (w : World) (setToken : Address)
    (getCalldata : World → Except Revert (Address × ℕ × CallData)) : Except Revert World := do
  let (targetAmm, callValue, methodData) ← getCalldata w
  let (w, _) ← w.invoke env self setToken targetAmm callValue methodData
  return w

/-- `_executeAddLiquidity`. -/
def executeAddLiquidity (self : Address) (env : Env) (w : World) (actionInfo : ActionInfo) :
    Except Revert World :=
  executeCall self env w actionInfo.setToken
    (env.getProvideLiquidityCalldata actionInfo.ammAdapter actionInfo.liquidityToken
      actionInfo.components actionInfo.totalNotionalComponents actionInfo.liquidityQuantity)

/-- `_executeAddLiquiditySingleAsset`, with the component and its notional quantity. -/
def executeAddLiquiditySingleAsset (self : Address) (env : Env) (w : World)
    (actionInfo : ActionInfo) : Except Revert World :=
  match actionInfo.components, actionInfo.totalNotionalComponents with
  | component :: _, totalNotional :: _ =>
    executeCall self env w actionInfo.setToken
      (env.getProvideLiquiditySingleAssetCalldata actionInfo.ammAdapter actionInfo.liquidityToken
        component totalNotional actionInfo.liquidityQuantity)
  | _, _ => .error ""

/-- `_executeRemoveLiquidity`. -/
def executeRemoveLiquidity (self : Address) (env : Env) (w : World) (actionInfo : ActionInfo) :
    Except Revert World :=
  executeCall self env w actionInfo.setToken
    (env.getRemoveLiquidityCalldata actionInfo.ammAdapter actionInfo.liquidityToken
      actionInfo.components actionInfo.totalNotionalComponents actionInfo.liquidityQuantity)

/-- `_executeRemoveLiquiditySingleAsset`. -/
def executeRemoveLiquiditySingleAsset (self : Address) (env : Env) (w : World)
    (actionInfo : ActionInfo) : Except Revert World :=
  match actionInfo.components, actionInfo.totalNotionalComponents with
  | component :: _, totalNotional :: _ =>
    executeCall self env w actionInfo.setToken
      (env.getRemoveLiquiditySingleAssetCalldata actionInfo.ammAdapter actionInfo.liquidityToken
        component totalNotional actionInfo.liquidityQuantity)
  | _, _ => .error ""

/-! ## Checks and updates after an action -/

/-- `_validateMinimumLiquidityReceived`. -/
def validateMinimumLiquidityReceived (w : World) (actionInfo : ActionInfo) :
    Except Revert Unit := do
  let liquidityTokenBalance :=
    (w.tokens actionInfo.liquidityToken).balances actionInfo.setToken
  let expected ←
    SafeMath.add actionInfo.liquidityQuantity actionInfo.preActionLiquidityTokenBalance
  require (expected ≤ liquidityTokenBalance)
    "Liquidity tokens received must be greater than minimum specified"

/-- One round of the loop of `_validateMinimumUnderlyingReceived`, for a component with its least
quantity and its balance before the action. -/
def validateMinimumReceived (w : World) (setToken : Address) (entry : Address × ℕ × ℕ) :
    Except Revert Unit := do
  let underlyingBalance := (w.tokens entry.1).balances setToken
  let expected ← SafeMath.add entry.2.1 entry.2.2
  require (expected ≤ underlyingBalance)
    "Underlying tokens received must be greater than minimum specified"

/-- `_validateMinimumUnderlyingReceived`. -/
def validateMinimumUnderlyingReceived (w : World) (actionInfo : ActionInfo) :
    Except Revert Unit :=
  (actionInfo.components.zip
    (actionInfo.totalNotionalComponents.zip actionInfo.preActionComponentBalances)).forM
    (validateMinimumReceived w actionInfo.setToken)

/-- `calculateAndEditDefaultPosition` for a token with its balance before the action, with the
change of the balance. -/
def updateTokenPosition (self : Address) (w : World) (actionInfo : ActionInfo) (token : Address)
    (preActionBalance : ℕ) : Except Revert (World × ℤ) := do
  let (w, currentBalance, _) ← Position.calculateAndEditDefaultPosition self w actionInfo.setToken
    token actionInfo.totalSupply preActionBalance
  let delta ← SignedSafeMath.sub (← SafeCast.toInt256 currentBalance)
    (← SafeCast.toInt256 preActionBalance)
  return (w, delta)

/-- `_updateComponentPositions`, without the changes it returns for an event. -/
def updateComponentPositions (self : Address) (w : World) (actionInfo : ActionInfo) :
    Except Revert World :=
  (actionInfo.components.zip actionInfo.preActionComponentBalances).foldlM (fun w entry => do
    let (w, _) ← updateTokenPosition self w actionInfo entry.1 entry.2
    return w) w

/-- `_updateLiquidityTokenPositions`, without the change it returns for an event. -/
def updateLiquidityTokenPositions (self : Address) (w : World) (actionInfo : ActionInfo) :
    Except Revert World := do
  let (w, _) ← updateTokenPosition self w actionInfo actionInfo.liquidityToken
    actionInfo.preActionLiquidityTokenBalance
  return w

/-! ## The operations of the manager -/

/-- What `addLiquidity` and `addLiquiditySingleAsset` do with the data of the action: they differ in
the call to the exchange. -/
def addLiquidityBy (self : Address) (env : Env) (w : World) (actionInfo : ActionInfo)
    (execute : World → ActionInfo → Except Revert World) : Except Revert World := do
  validateAddLiquidity env w actionInfo
  let w ← executeApprovals self env w actionInfo
  let w ← execute w actionInfo
  validateMinimumLiquidityReceived w actionInfo
  let w ← updateComponentPositions self w actionInfo
  updateLiquidityTokenPositions self w actionInfo

/-- `addLiquidity`. -/
def addLiquidity (self : Address) (env : Env) (w : World) (msgSender setToken : Address)
    (ammName : String) (ammPool : Address) (minPoolTokenPositionUnit : ℕ)
    (components : List Address) (maxComponentUnits : List ℕ) : Except Revert World := do
  ModuleBase.onlyManagerAndValidSet self w setToken msgSender
  let actionInfo ← getActionInfo self env w setToken ammName ammPool components maxComponentUnits
    minPoolTokenPositionUnit
  addLiquidityBy self env w actionInfo (executeAddLiquidity self env)

/-- `addLiquiditySingleAsset`. -/
def addLiquiditySingleAsset (self : Address) (env : Env) (w : World) (msgSender setToken : Address)
    (ammName : String) (ammPool : Address) (minPoolTokenPositionUnit : ℕ) (component : Address)
    (maxComponentUnit : ℕ) : Except Revert World := do
  ModuleBase.onlyManagerAndValidSet self w setToken msgSender
  let actionInfo ← getActionInfoSingleAsset self env w setToken ammName ammPool component
    maxComponentUnit minPoolTokenPositionUnit
  addLiquidityBy self env w actionInfo (executeAddLiquiditySingleAsset self env)

/-- What `removeLiquidity` and `removeLiquiditySingleAsset` do with the data of the action: they
differ in the call to the exchange. -/
def removeLiquidityBy (self : Address) (env : Env) (w : World) (actionInfo : ActionInfo)
    (execute : World → ActionInfo → Except Revert World) : Except Revert World := do
  validateRemoveLiquidity env w actionInfo
  let w ← execute w actionInfo
  validateMinimumUnderlyingReceived w actionInfo
  let w ← updateLiquidityTokenPositions self w actionInfo
  updateComponentPositions self w actionInfo

/-- `removeLiquidity`. -/
def removeLiquidity (self : Address) (env : Env) (w : World) (msgSender setToken : Address)
    (ammName : String) (ammPool : Address) (poolTokenPositionUnits : ℕ)
    (components : List Address) (minComponentUnitsReceived : List ℕ) : Except Revert World := do
  ModuleBase.onlyManagerAndValidSet self w setToken msgSender
  let actionInfo ← getActionInfo self env w setToken ammName ammPool components
    minComponentUnitsReceived poolTokenPositionUnits
  removeLiquidityBy self env w actionInfo (executeRemoveLiquidity self env)

/-- `removeLiquiditySingleAsset`. -/
def removeLiquiditySingleAsset (self : Address) (env : Env) (w : World)
    (msgSender setToken : Address) (ammName : String) (ammPool : Address)
    (poolTokenPositionUnits : ℕ) (component : Address) (minComponentUnitsReceived : ℕ) :
    Except Revert World := do
  ModuleBase.onlyManagerAndValidSet self w setToken msgSender
  let actionInfo ← getActionInfoSingleAsset self env w setToken ammName ammPool component
    minComponentUnitsReceived poolTokenPositionUnits
  removeLiquidityBy self env w actionInfo (executeRemoveLiquiditySingleAsset self env)

/-- `initialize`. -/
def initializeModule (self : Address) (w : World) (msgSender setToken : Address) :
    Except Revert World := do
  ModuleBase.onlySetManager w setToken msgSender
  ModuleBase.onlyValidAndPendingSet self w setToken
  w.editSetToken self setToken SetToken.initializeModule

/-! ## What the checks say -/

section Checks

variable {self setToken ammPool ammAdapter : Address} {env : Env} {w : World}
  {integrationName : String} {components : List Address} {componentUnits : List ℕ}
  {poolTokenInPositionUnit : ℕ} {info : ActionInfo}

/-- The notional quantity of some units of a Set, where the product fits. -/
def notional (w : World) (setToken : Address) (unit : ℕ) : ℕ :=
  w.totalSupply setToken * unit / preciseUnit

/-- The data of an action through an adapter, where nothing overflows. -/
def actionInfo (w : World) (setToken ammAdapter ammPool : Address) (components : List Address)
    (componentUnits : List ℕ) (poolTokenInPositionUnit : ℕ) : ActionInfo where
  setToken := setToken
  totalSupply := w.totalSupply setToken
  ammAdapter := ammAdapter
  liquidityToken := ammPool
  preActionLiquidityTokenBalance := (w.tokens ammPool).balances setToken
  preActionComponentBalances := getTokenBalances w setToken components
  liquidityQuantity := notional w setToken poolTokenInPositionUnit
  totalNotionalComponents := componentUnits.map (notional w setToken)
  componentUnits := componentUnits
  components := components

theorem getTotalNotionalComponents_eq_ok {r : List ℕ} :
    getTotalNotionalComponents w setToken componentUnits = .ok r ↔
      (∀ unit ∈ componentUnits, InUint256 (w.totalSupply setToken * unit)) ∧
        componentUnits.map (notional w setToken) = r :=
  mapM_eq_ok_map fun _ _ => PreciseUnitMath.preciseMul_eq_ok

/-- The data of an action, when the integration is known and the products fit. -/
theorem getActionInfo_eq_ok :
    getActionInfo self env w setToken integrationName ammPool components componentUnits
        poolTokenInPositionUnit = .ok info ↔
      ∃ ammAdapter, ModuleBase.getAndValidateAdapter self env w integrationName = .ok ammAdapter ∧
        InUint256 (w.totalSupply setToken * poolTokenInPositionUnit) ∧
        (∀ unit ∈ componentUnits, InUint256 (w.totalSupply setToken * unit)) ∧
        actionInfo w setToken ammAdapter ammPool components componentUnits
          poolTokenInPositionUnit = info := by
  simp only [getActionInfo, Position.getDefaultTotalNotional, bind_eq_ok, pure_eq_ok,
    PreciseUnitMath.preciseMul_eq_ok, getTotalNotionalComponents_eq_ok]
  constructor
  · rintro ⟨ammAdapter, hadapter, _, ⟨hpool, rfl⟩, _, ⟨hunits, rfl⟩, rfl⟩
    exact ⟨ammAdapter, hadapter, hpool, hunits, rfl⟩
  · rintro ⟨ammAdapter, hadapter, hpool, hunits, rfl⟩
    exact ⟨ammAdapter, hadapter, _, ⟨hpool, rfl⟩, _, ⟨hunits, rfl⟩, rfl⟩

/-- The checks that all actions share. -/
theorem validateCommon_eq_ok {u : Unit} :
    validateCommon env w info = .ok u ↔
      info.componentUnits.length = info.components.length ∧ 0 < info.liquidityQuantity ∧
        env.isValidPool info.ammAdapter info.liquidityToken w = .ok true := by
  simp only [validateCommon, bind_eq_ok, require_eq_ok]
  constructor
  · rintro ⟨-, hlength, -, hquantity, _, hvalid, rfl⟩
    exact ⟨hlength, hquantity, hvalid⟩
  · rintro ⟨hlength, hquantity, hvalid⟩
    exact ⟨(), hlength, (), hquantity, true, hvalid, rfl⟩

/-- Liquidity is added when the default positions have the units of all components. -/
theorem validateAddLiquidity_eq_ok :
    validateAddLiquidity env w info = .ok () ↔ validateCommon env w info = .ok () ∧
      ∀ entry ∈ info.components.zip info.componentUnits,
        Position.hasSufficientDefaultUnits (w.setTokens info.setToken) entry.1 entry.2 =
          .ok true := by
  have hround : ∀ entry, validateComponentUnit (w.setTokens info.setToken) entry = .ok () ↔
      Position.hasSufficientDefaultUnits (w.setTokens info.setToken) entry.1 entry.2 =
        .ok true := by
    intro entry
    simp only [validateComponentUnit, bind_eq_ok, require_eq_ok]
    constructor
    · rintro ⟨_, hsufficient, rfl⟩
      exact hsufficient
    · intro hsufficient
      exact ⟨true, hsufficient, rfl⟩
  simp only [validateAddLiquidity, bind_eq_ok, forM_eq_ok, hround]
  constructor
  · rintro ⟨⟨⟩, hcommon, hunits⟩
    exact ⟨hcommon, hunits⟩
  · rintro ⟨hcommon, hunits⟩
    exact ⟨(), hcommon, hunits⟩

/-- Liquidity is removed when the default position of the pool token has as many units as pool
tokens are given. -/
theorem validateRemoveLiquidity_eq_ok :
    validateRemoveLiquidity env w info = .ok () ↔ validateCommon env w info = .ok () ∧
      (∀ unit ∈ info.componentUnits, 0 < unit) ∧
      Position.hasSufficientDefaultUnits (w.setTokens info.setToken) info.liquidityToken
        info.liquidityQuantity = .ok true := by
  simp only [validateRemoveLiquidity, bind_eq_ok, forM_eq_ok, require_eq_ok]
  constructor
  · rintro ⟨⟨⟩, hcommon, -, hunits, _, hsufficient, rfl⟩
    refine ⟨hcommon, fun unit hunit => ?_, hsufficient⟩
    -- the arrays have one length, so that the loop sees each unit
    have hlength := (validateCommon_eq_ok.mp hcommon).1
    rw [← List.map_snd_zip hlength.le] at hunit
    obtain ⟨entry, hentry, rfl⟩ := List.mem_map.mp hunit
    exact hunits entry hentry
  · rintro ⟨hcommon, hunits, hsufficient⟩
    exact ⟨(), hcommon, (), fun entry hentry => hunits _ (List.of_mem_zip hentry).2, true,
      hsufficient, rfl⟩

end Checks

end AmmModule

end SetProtocol
