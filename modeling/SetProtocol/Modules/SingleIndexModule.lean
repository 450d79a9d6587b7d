import SetProtocol.Core.ModuleBase
import SetProtocol.Core.PositionViews

set_option relaxedAutoImplicit false
set_option autoImplicit false

/-!
# Rebalances of an index

`contracts/protocol/modules/SingleIndexModule.sol`. The manager of one Set, the index, gives its
components target units. Traders then buy or sell a component against wrapped Ether, each time by at
most the largest size for it, until its unit is the target. Targets are given for a position
multiplier, and are scaled to the one that the index has.

## Main definitions

* `SetProtocol.SingleIndexModule.startRebalance` — new targets.
* `SetProtocol.SingleIndexModule.calculateTradeSizeAndDirection` — what a trade does.
* `SetProtocol.SingleIndexModule.trade`, `tradeRemainingWETH`, `raiseAssetTargets`.
* `SetProtocol.SingleIndexModule.allTargetsMet` — whether the rebalance is done.

## Main results

* `SetProtocol.SingleIndexModule.allTargetsMet_eq_true` — what the loop over the components tests.

## Implementation notes

The storage of the module is `SetProtocol.World.singleIndex`, as the constructor leaves it with its
four addresses filled in. Exchanges are called with the data that the module encodes.
-/

namespace SetProtocol

open Checked

namespace SingleIndexModule

/-! ## Constants -/

/-- `ExchangeId`. -/
inductive ExchangeId
  | none
  | uniswap
  | sushiswap
  | balancer
  | last

/-- The number of an exchange. -/
def ExchangeId.toNat : ExchangeId → ℕ
  | .none => 0
  | .uniswap => 1
  | .sushiswap => 2
  | .balancer => 3
  | .last => 4

/-- `TARGET_RAISE_DIVISOR`, which raises targets by 25 basis points. -/
def targetRaiseDivisor : ℕ := 10025 * 10 ^ 14

/-- `BALANCER_POOL_LIMIT`. -/
def balancerPoolLimit : ℕ := 3

/-- `UNISWAP_OUT`. -/
def uniswapOut : String := "swapTokensForExactTokens(uint256,uint256,address[],address,uint256)"

/-- `UNISWAP_IN`. -/
def uniswapIn : String := "swapExactTokensForTokens(uint256,uint256,address[],address,uint256)"

/-- `BALANCER_OUT`. -/
def balancerOut : String := "smartSwapExactOut(address,address,uint256,uint256,uint256)"

/-- `BALANCER_IN`. -/
def balancerIn : String := "smartSwapExactIn(address,address,uint256,uint256,uint256)"

/-! ## The storage -/

/-- Write the storage of the module. -/
def setStorage (w : World) (storage : SingleIndex) : World := { w with singleIndex := storage }

/-- Write the restrictions on a component. -/
def setAssetInfo (w : World) (component : Address) (info : AssetTradeInfo) : World :=
  setStorage w { w.singleIndex with
    assetInfo := Function.update w.singleIndex.assetInfo component info }

/-! ## Units and targets -/

/-- The position multiplier of the index, as an unsigned number. -/
def currentPositionMultiplier (w : World) : Except Revert ℕ :=
  SafeCast.toUint256 (w.setTokens w.singleIndex.index).positionMultiplier

/-- The default unit of a component of the index, as an unsigned number. -/
def currentUnit (w : World) (component : Address) : Except Revert ℕ := do
  SafeCast.toUint256
    (← (w.setTokens w.singleIndex.index).getDefaultPositionRealUnit component)

/-- `_normalizeTargetUnit`. -/
def normalizeTargetUnit (w : World) (component : Address) (currentPositionMultiplier : ℕ) :
    Except Revert ℕ := do
  let scaled ←
    SafeMath.mul (w.singleIndex.assetInfo component).targetUnit currentPositionMultiplier
  SafeMath.div scaled w.singleIndex.positionMultiplier

/-- The loop that `_noTokensToSell` and `_allTargetsMet` share: it stops at the first component
whose target and unit are bad. -/
def noneIsBad (bad : ℕ → ℕ → Bool) (w : World) (currentPositionMultiplier : ℕ) :
    List Address → Except Revert Bool
  | [] => .ok true
  | component :: components => do
    let targetUnit ← normalizeTargetUnit w component currentPositionMultiplier
    let unit ← currentUnit w component
    if bad targetUnit unit = true then return false
    noneIsBad bad w currentPositionMultiplier components

/-- `_noTokensToSell`. -/
def noTokensToSell (w : World) : Except Revert Bool := do
  noneIsBad (fun targetUnit unit => targetUnit < unit) w (← currentPositionMultiplier w)
    w.singleIndex.rebalanceComponents

/-- `_allTargetsMet`. -/
def allTargetsMet (w : World) : Except Revert Bool := do
  noneIsBad (fun targetUnit unit => targetUnit ≠ unit) w (← currentPositionMultiplier w)
    w.singleIndex.rebalanceComponents

/-- `getTargetUnits`. -/
def getTargetUnits (w : World) (components : List Address) : Except Revert (List ℕ) := do
  let multiplier ← currentPositionMultiplier w
  components.mapM fun component => normalizeTargetUnit w component multiplier

/-! ## Trades -/

/-- The modifier `onlyAllowedTrader`, with `_isAllowedTrader`. -/
def onlyAllowedTrader (w : World) (caller : Address) : Except Revert Unit :=
  require (w.singleIndex.anyoneTrade = true ∨ w.singleIndex.tradeAllowList caller = true)
    "Address not permitted to trade"

/-- The modifier `onlyEOA`. -/
def onlyEOA (msgSender txOrigin : Address) : Except Revert Unit :=
  require (msgSender = txOrigin) "Caller must be EOA Address"

/-- `_validateTradeParameters`. -/
def validateTradeParameters (w : World) (component : Address) : Except Revert Unit := do
  require (AddressArrayUtils.contains w.singleIndex.rebalanceComponents component = true)
    "Passed component not included in rebalance"
  let componentInfo := w.singleIndex.assetInfo component
  require (componentInfo.exchange ≠ ExchangeId.none.toNat) "Exchange must be specified"
  let ready ← SafeMath.add componentInfo.lastTradeTimestamp componentInfo.coolOffPeriod
  require (ready ≤ w.timestamp) "Cool off period has not elapsed."

/-- `_calculateTradeSizeAndDirection`: whether the trade is a buy, and its size. -/
def calculateTradeSizeAndDirection (w : World) (component : Address) :
    Except Revert (Bool × ℕ) := do
  let totalSupply := w.totalSupply w.singleIndex.index
  let componentMaxSize := (w.singleIndex.assetInfo component).maxSize
  let multiplier ← currentPositionMultiplier w
  let unit ← currentUnit w component
  let targetUnit ← normalizeTargetUnit w component multiplier
  require (unit ≠ targetUnit) "Target already met"
  let currentNotional ← Position.getDefaultTotalNotional totalSupply unit
  let targetNotional ← PreciseUnitMath.preciseMulCeil totalSupply targetUnit
  if currentNotional < targetNotional then do
    let missing ← SafeMath.sub targetNotional currentNotional
    return (true, min componentMaxSize missing)
  else do
    let excess ← SafeMath.sub currentNotional targetNotional
    return (false, min componentMaxSize excess)

/-- `_getBalancerTradeData`. -/
def getBalancerTradeData (w : World) (sellComponent buyComponent : Address) (fixIn : Bool)
    (amount maxOut : ℕ) : Address × CallData :=
  let (functionSignature, limit) := if fixIn = true then (balancerIn, 1) else (balancerOut, maxOut)
  (w.singleIndex.balancerProxy,
    .smartSwap functionSignature sellComponent buyComponent amount limit balancerPoolLimit)

/-- `_getUniswapLikeTradeData`. -/
def getUniswapLikeTradeData (w : World) (sellComponent buyComponent : Address) (fixIn : Bool)
    (amount exchange : ℕ) : Except Revert (Address × CallData) := do
  let exchangeAddress :=
    if exchange = ExchangeId.uniswap.toNat then w.singleIndex.uniswapRouter
    else w.singleIndex.sushiswapRouter
  let (functionSignature, limit) :=
    if fixIn = true then (uniswapIn, 1) else (uniswapOut, PreciseUnitMath.maxUint256)
  let deadline ← SafeMath.add w.timestamp 180
  return (exchangeAddress,
    .swap functionSignature amount limit [sellComponent, buyComponent] w.singleIndex.index deadline)

/-- `_executeTrade`. -/
def executeTrade (self : Address) (env : Env) (w : World) (sellComponent buyComponent : Address)
    (fixIn : Bool) (amount exchange : ℕ) : Except Revert World := do
  let index := w.singleIndex.index
  let wethBalance := (w.tokens w.singleIndex.weth).balances index
  let (exchangeAddress, tradeCallData) ← (
    if exchange = ExchangeId.balancer.toNat then
      .ok (getBalancerTradeData w sellComponent buyComponent fixIn amount wethBalance)
    else getUniswapLikeTradeData w sellComponent buyComponent fixIn amount exchange)
  let approveAmount := if sellComponent = w.singleIndex.weth then wethBalance else amount
  let w ← Invoke.invokeApprove self env w index sellComponent exchangeAddress approveAmount
  let (w, _) ← w.invoke env self index exchangeAddress 0 tradeCallData
  return w

/-- `_updatePositionState`, with the amounts sold and bought. -/
def updatePositionState (self : Address) (w : World) (sellComponent buyComponent : Address)
    (preTradeSellComponentAmount preTradeBuyComponentAmount : ℕ) :
    Except Revert (World × ℕ × ℕ) := do
  let index := w.singleIndex.index
  let totalSupply := w.totalSupply index
  let (w, postTradeSellComponentAmount, _) ← Position.calculateAndEditDefaultPosition self w index
    sellComponent totalSupply preTradeSellComponentAmount
  let (w, postTradeBuyComponentAmount, _) ← Position.calculateAndEditDefaultPosition self w index
    buyComponent totalSupply preTradeBuyComponentAmount
  let sellAmount ← SafeMath.sub preTradeSellComponentAmount postTradeSellComponentAmount
  let buyAmount ← SafeMath.sub postTradeBuyComponentAmount preTradeBuyComponentAmount
  return (w, sellAmount, buyAmount)

/-- What `_buyUnderweight`, `_sellOverweight` and `tradeRemainingWETH` share: a trade on the
exchange of `component`, and the edits of both positions. -/
def tradeAndUpdate (self : Address) (env : Env) (w : World)
    (component sellComponent buyComponent : Address) (fixIn : Bool) (amount : ℕ) :
    Except Revert (World × ℕ × ℕ) := do
  let index := w.singleIndex.index
  let preTradeSellComponentAmount := (w.tokens sellComponent).balances index
  let preTradeBuyComponentAmount := (w.tokens buyComponent).balances index
  let w ← executeTrade self env w sellComponent buyComponent fixIn amount
    (w.singleIndex.assetInfo component).exchange
  updatePositionState self w sellComponent buyComponent preTradeSellComponentAmount
    preTradeBuyComponentAmount

/-- `_buyUnderweight`. -/
def buyUnderweight (self : Address) (env : Env) (w : World) (component : Address) (amount : ℕ) :
    Except Revert World := do
  let (w, _) ← tradeAndUpdate self env w component w.singleIndex.weth component false amount
  return w

/-- `_sellOverweight`. -/
def sellOverweight (self : Address) (env : Env) (w : World) (component : Address) (amount : ℕ) :
    Except Revert World := do
  let (w, _) ← tradeAndUpdate self env w component component w.singleIndex.weth true amount
  return w

/-- `assetInfo[_component].lastTradeTimestamp = block.timestamp`. -/
def recordTrade (w : World) (component : Address) : World :=
  setAssetInfo w component
    { w.singleIndex.assetInfo component with lastTradeTimestamp := w.timestamp }

/-- `trade`. -/
def trade (self : Address) (env : Env) (w : World) (msgSender txOrigin component : Address) :
    Except Revert World := do
  onlyAllowedTrader w msgSender
  onlyEOA msgSender txOrigin
  validateTradeParameters w component
  let (isBuy, tradeAmount) ← calculateTradeSizeAndDirection w component
  let w ← (
    if isBuy = true then buyUnderweight self env w component tradeAmount
    else sellOverweight self env w component tradeAmount)
  return recordTrade w component

/-- `tradeRemainingWETH`. -/
def tradeRemainingWETH (self : Address) (env : Env) (w : World)
    (msgSender txOrigin component : Address) : Except Revert World := do
  onlyAllowedTrader w msgSender
  onlyEOA msgSender txOrigin
  let noneToSell ← noTokensToSell w
  require (noneToSell = true) "Must sell all sellable tokens before can be called"
  validateTradeParameters w component
  let (_, tradeLimit) ← calculateTradeSizeAndDirection w component
  let preTradeWethAmount := (w.tokens w.singleIndex.weth).balances w.singleIndex.index
  let (w, _, componentTradeSize) ←
    tradeAndUpdate self env w component w.singleIndex.weth component true preTradeWethAmount
  require (componentTradeSize < tradeLimit) "Trade size exceeds trade size limit"
  return recordTrade w component

/-- `raiseAssetTargets`. -/
def raiseAssetTargets (w : World) (msgSender : Address) : Except Revert World := do
  onlyAllowedTrader w msgSender
  let met ← allTargetsMet w
  let remaining ← (
    if met = true then do
      let wethUnit ←
        (w.setTokens w.singleIndex.index).getDefaultPositionRealUnit w.singleIndex.weth
      return decide (0 < wethUnit)
    else .ok false)
  require (remaining = true) "Targets must be met and ETH remaining in order to raise target"
  let positionMultiplier ←
    PreciseUnitMath.preciseDiv w.singleIndex.positionMultiplier targetRaiseDivisor
  return setStorage w { w.singleIndex with positionMultiplier := positionMultiplier }

/-! ## The operations of the manager -/

/-- One round of the loop of `startRebalance`. -/
def setTargetUnit (w : World) (entry : Address × ℕ) : Except Revert World := do
  require (entry.1 ≠ w.singleIndex.weth) "WETH cannot be an index component"
  return setAssetInfo w entry.1
    { w.singleIndex.assetInfo entry.1 with targetUnit := entry.2 }

/-- `startRebalance`. -/
def startRebalance (self : Address) (w : World) (msgSender : Address)
    (newComponents : List Address) (newComponentsTargetUnits oldComponentsTargetUnits : List ℕ)
    (positionMultiplier : ℕ) : Except Revert World := do
  ModuleBase.onlyManagerAndValidSet self w w.singleIndex.index msgSender
  require (newComponents.length = newComponentsTargetUnits.length) "Array length mismatch"
  let currentComponents := (w.setTokens w.singleIndex.index).components
  require (currentComponents.length = oldComponentsTargetUnits.length)
    "New allocation must have target for all old components"
  let aggregateComponents := currentComponents ++ newComponents
  let aggregateTargetUnits := oldComponentsTargetUnits ++ newComponentsTargetUnits
  let duplicated ← AddressArrayUtils.hasDuplicate aggregateComponents
  require (duplicated = false) "Cannot duplicate components"
  let w ← (aggregateComponents.zip aggregateTargetUnits).foldlM setTargetUnit w
  return setStorage w { w.singleIndex with
    rebalanceComponents := aggregateComponents
    positionMultiplier := positionMultiplier }

/-- `_validateArrays`. -/
def validateArrays (components : List Address) (data : List ℕ) : Except Revert Unit := do
  require (components.length = data.length) "Array length mismatch"
  require (0 < components.length) "Array length must be > 0"
  let duplicated ← AddressArrayUtils.hasDuplicate components
  require (duplicated = false) "Cannot duplicate components"

/-- What the three functions that write a field of the restrictions share: they differ in the field
and in the check of its values. -/
def setAssetInfos (self : Address) (w : World) (msgSender : Address) (components : List Address)
    (data : List ℕ) (check : ℕ → Except Revert Unit)
    (write : AssetTradeInfo → ℕ → AssetTradeInfo) : Except Revert World := do
  ModuleBase.onlyManagerAndValidSet self w w.singleIndex.index msgSender
  validateArrays components data
  (components.zip data).foldlM (fun w entry => do
    check entry.2
    return setAssetInfo w entry.1 (write (w.singleIndex.assetInfo entry.1) entry.2)) w

/-- `setTradeMaximums`. -/
def setTradeMaximums (self : Address) (w : World) (msgSender : Address)
    (components : List Address) (tradeMaximums : List ℕ) : Except Revert World :=
  setAssetInfos self w msgSender components tradeMaximums (fun _ => .ok ())
    fun info maxSize => { info with maxSize := maxSize }

/-- `setExchanges`. -/
def setExchanges (self : Address) (w : World) (msgSender : Address)
    (components : List Address) (exchanges : List ℕ) : Except Revert World :=
  setAssetInfos self w msgSender components exchanges
    (fun exchange =>
      require (exchange < ExchangeId.last.toNat) "Unrecognized exchange identifier")
    fun info exchange => { info with exchange := exchange }

/-- `setCoolOffPeriods`. -/
def setCoolOffPeriods (self : Address) (w : World) (msgSender : Address)
    (components : List Address) (coolOffPeriods : List ℕ) : Except Revert World :=
  setAssetInfos self w msgSender components coolOffPeriods (fun _ => .ok ())
    fun info coolOffPeriod => { info with coolOffPeriod := coolOffPeriod }

/-- `updateTraderStatus`. -/
def updateTraderStatus (self : Address) (w : World) (msgSender : Address)
    (traders : List Address) (statuses : List Bool) : Except Revert World := do
  ModuleBase.onlyManagerAndValidSet self w w.singleIndex.index msgSender
  require (traders.length = statuses.length) "Array length mismatch"
  require (0 < traders.length) "Array length must be > 0"
  let duplicated ← AddressArrayUtils.hasDuplicate traders
  require (duplicated = false) "Cannot duplicate traders"
  let tradeAllowList := (traders.zip statuses).foldl
    (fun allowed entry => Function.update allowed entry.1 entry.2) w.singleIndex.tradeAllowList
  return setStorage w { w.singleIndex with tradeAllowList := tradeAllowList }

/-- `updateAnyoneTrade`. -/
def updateAnyoneTrade (self : Address) (w : World) (msgSender : Address) (status : Bool) :
    Except Revert World := do
  ModuleBase.onlyManagerAndValidSet self w w.singleIndex.index msgSender
  return setStorage w { w.singleIndex with anyoneTrade := status }

/-- One round of the loop of `initialize`. -/
def setInitialTarget (w : World) (position : ISetToken.Position) : Except Revert World := do
  let unit ← SafeCast.toUint256 position.unit
  return setAssetInfo w position.component
    { w.singleIndex.assetInfo position.component with
      targetUnit := unit
      lastTradeTimestamp := 0 }

/-- `initialize`. -/
def initializeModule (self : Address) (w : World) (msgSender index : Address) :
    Except Revert World := do
  ModuleBase.onlySetManager w index msgSender
  ModuleBase.onlyValidAndPendingSet self w index
  require (w.singleIndex.index = zeroAddress) "Module already in use"
  let positions ← (w.setTokens index).getPositions
  let w ← positions.foldlM setInitialTarget w
  let w := setStorage w { w.singleIndex with index := index }
  w.editSetToken self index SetToken.initializeModule

/-! ## Met targets -/

variable {w : World} {component : Address}

/-- The unit of a component is its target, for the multiplier that the index has. -/
def TargetMet (w : World) (component : Address) : Prop :=
  ∃ multiplier unit : ℕ,
    (w.setTokens w.singleIndex.index).positionMultiplier = multiplier ∧
      normalizeTargetUnit w component multiplier = .ok unit ∧
      (w.setTokens w.singleIndex.index).getDefaultPositionRealUnit component = .ok (unit : ℤ)

theorem currentUnit_eq_ok {unit : ℕ} :
    currentUnit w component = .ok unit ↔
      (w.setTokens w.singleIndex.index).getDefaultPositionRealUnit component =
        .ok (unit : ℤ) := by
  simp only [currentUnit, bind_eq_ok, SafeCast.toUint256_eq_ok]
  constructor
  · rintro ⟨_, h, rfl⟩
    exact h
  · exact fun h => ⟨_, h, rfl⟩

/-- The loop comes to its end exactly when nothing on its way is bad. -/
theorem noneIsBad_eq_true {bad : ℕ → ℕ → Bool} {multiplier : ℕ} {components : List Address} :
    noneIsBad bad w multiplier components = .ok true ↔
      ∀ c ∈ components, ∃ targetUnit unit,
        normalizeTargetUnit w c multiplier = .ok targetUnit ∧ currentUnit w c = .ok unit ∧
          bad targetUnit unit = false := by
  induction components with
  | nil => simp [noneIsBad]
  | cons c components ih =>
    simp only [noneIsBad, bind_eq_ok, List.forall_mem_cons, ← ih]
    constructor
    · rintro ⟨targetUnit, htarget, unit, hunit, h⟩
      split_ifs at h with hbad
      · simp at h
      · exact ⟨⟨targetUnit, unit, htarget, hunit, Bool.eq_false_of_not_eq_true hbad⟩, h⟩
    · rintro ⟨⟨targetUnit, unit, htarget, hunit, hbad⟩, h⟩
      refine ⟨targetUnit, htarget, unit, hunit, ?_⟩
      rw [if_neg (by simp [hbad])]
      exact h

/-- All targets are met exactly when the target of each component of the rebalance is. -/
theorem allTargetsMet_eq_true {multiplier : ℕ}
    (hmultiplier : (w.setTokens w.singleIndex.index).positionMultiplier = multiplier) :
    allTargetsMet w = .ok true ↔ ∀ c ∈ w.singleIndex.rebalanceComponents, TargetMet w c := by
  simp only [allTargetsMet, currentPositionMultiplier, bind_eq_ok, SafeCast.toUint256_eq_ok,
    hmultiplier, Nat.cast_inj, exists_eq_left', noneIsBad_eq_true]
  refine forall₂_congr fun c _ => ?_
  constructor
  · rintro ⟨targetUnit, unit, htarget, hunit, hmet⟩
    obtain rfl : targetUnit = unit := by simpa using hmet
    exact ⟨multiplier, targetUnit, hmultiplier, htarget, currentUnit_eq_ok.mp hunit⟩
  · rintro ⟨multiplier', unit, hmultiplier', htarget, hunit⟩
    obtain rfl : multiplier = multiplier' := by
      exact_mod_cast hmultiplier.symm.trans hmultiplier'
    exact ⟨unit, unit, htarget, currentUnit_eq_ok.mpr hunit, by simp⟩

end SingleIndexModule

end SetProtocol
