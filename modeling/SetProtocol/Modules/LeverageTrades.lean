import SetProtocol.Modules.CompoundLeverageModule

set_option relaxedAutoImplicit false
set_option autoImplicit false

/-!
# Leverage by trades

The trades of `contracts/protocol/modules/CompoundLeverageModule.sol`. To lever up, a Set borrows on
Compound, sells what it borrowed, and puts what it received in as collateral. To delever, it takes
out collateral, sells it, and repays. Only the positions of the two markets are written.

## Main definitions

* `SetProtocol.CompoundLeverageModule.lever`, `delever` — more and less debt.
* `SetProtocol.CompoundLeverageModule.deleverToZeroBorrowBalance` — all of the debt is repaid, and
  what is left of the trade becomes a default position.
-/

namespace SetProtocol

open Checked

namespace CompoundLeverageModule

/-- `PROTOCOL_TRADE_FEE_INDEX`. -/
def protocolTradeFeeIndex : ℕ := 0

/-- `ActionInfo`. -/
structure ActionInfo where
  /-- The Set. -/
  setToken : Address
  /-- The adapter of the exchange. -/
  exchangeAdapter : Address
  /-- The supply of the Set. -/
  setTotalSupply : ℕ
  /-- The quantity that is sold. -/
  notionalSendQuantity : ℕ
  /-- The least quantity to receive. -/
  minNotionalReceiveQuantity : ℕ
  /-- The market of the collateral. -/
  collateralCTokenAsset : Address
  /-- The market of the debt. -/
  borrowCTokenAsset : Address
  /-- The balance of the bought token before the trade. -/
  preTradeReceiveTokenBalance : ℕ

/-- `_validateCommon`. -/
def validateCommon (w : World) (actionInfo : ActionInfo) : Except Revert Unit := do
  let cl := w.compoundLeverage
  require (cl.collateralCTokenEnabled actionInfo.setToken actionInfo.collateralCTokenAsset = true)
    "Collateral not enabled"
  require (cl.borrowCTokenEnabled actionInfo.setToken actionInfo.borrowCTokenAsset = true)
    "Borrow not enabled"
  require (actionInfo.collateralCTokenAsset ≠ actionInfo.borrowCTokenAsset) "Must be different"
  require (0 < actionInfo.notionalSendQuantity) "Quantity is 0"

/-- `_createAndValidateActionInfoNotional`. -/
def createAndValidateActionInfoNotional (self : Address) (env : Env) (w : World)
    (setToken sendToken receiveToken : Address)
    (notionalSendQuantity minNotionalReceiveQuantity : ℕ) (tradeAdapterName : String)
    (isLever : Bool) : Except Revert ActionInfo := do
  let exchangeAdapter ← ModuleBase.getAndValidateAdapter self env w tradeAdapterName
  let cl := w.compoundLeverage
  let actionInfo : ActionInfo := {
    setToken := setToken
    exchangeAdapter := exchangeAdapter
    setTotalSupply := w.totalSupply setToken
    notionalSendQuantity := notionalSendQuantity
    minNotionalReceiveQuantity := minNotionalReceiveQuantity
    collateralCTokenAsset :=
      cl.underlyingToCToken (if isLever = true then receiveToken else sendToken)
    borrowCTokenAsset :=
      cl.underlyingToCToken (if isLever = true then sendToken else receiveToken)
    preTradeReceiveTokenBalance := (w.tokens receiveToken).balances setToken }
  validateCommon w actionInfo
  return actionInfo

/-- `_createAndValidateActionInfo`. -/
def createAndValidateActionInfo (self : Address) (env : Env) (w : World)
    (setToken sendToken receiveToken : Address) (sendQuantityUnits minReceiveQuantityUnits : ℕ)
    (tradeAdapterName : String) (isLever : Bool) : Except Revert ActionInfo := do
  let totalSupply := w.totalSupply setToken
  createAndValidateActionInfoNotional self env w setToken sendToken receiveToken
    (← PreciseUnitMath.preciseMul sendQuantityUnits totalSupply)
    (← PreciseUnitMath.preciseMul minReceiveQuantityUnits totalSupply) tradeAdapterName isLever

/-- `_executeTrade`, with the quantity received. -/
def executeTrade (self : Address) (env : Env) (w : World) (actionInfo : ActionInfo)
    (sendToken receiveToken : Address) (data : Bytes) : Except Revert (World × ℕ) := do
  let spender ← env.getSpender actionInfo.exchangeAdapter w
  let w ← Invoke.invokeApprove self env w actionInfo.setToken sendToken spender
    actionInfo.notionalSendQuantity
  let (targetExchange, callValue, methodData) ← env.getTradeCalldata actionInfo.exchangeAdapter
    sendToken receiveToken actionInfo.setToken actionInfo.notionalSendQuantity
    actionInfo.minNotionalReceiveQuantity data w
  let (w, _) ← w.invoke env self actionInfo.setToken targetExchange callValue methodData
  let receiveTokenQuantity ← SafeMath.sub
    ((w.tokens receiveToken).balances actionInfo.setToken) actionInfo.preTradeReceiveTokenBalance
  require (actionInfo.minNotionalReceiveQuantity ≤ receiveTokenQuantity) "Slippage too high"
  return (w, receiveTokenQuantity)

/-- `_accrueProtocolFee`, with the fee. -/
def accrueProtocolFee (self : Address) (env : Env) (w : World) (setToken receiveToken : Address)
    (exchangedQuantity : ℕ) : Except Revert (World × ℕ) := do
  let protocolFeeTotal ← ModuleBase.getModuleFee self w protocolTradeFeeIndex exchangedQuantity
  let w ← ModuleBase.payProtocolFeeFromSetToken self env w setToken receiveToken protocolFeeTotal
  return (w, protocolFeeTotal)

/-- `_mintCToken`. -/
def mintCToken (self : Address) (env : Env) (w : World)
    (setToken cToken underlyingToken : Address) (mintNotional : ℕ) : Except Revert World :=
  if cToken = w.compoundLeverage.cEther then do
    let w ← Invoke.invokeUnwrapWETH self env w setToken w.compoundLeverage.weth mintNotional
    Compound.invokeMintCEther self env w setToken cToken mintNotional
  else do
    let w ← Invoke.invokeApprove self env w setToken underlyingToken cToken mintNotional
    Compound.invokeMintCToken self env w setToken cToken mintNotional

/-- `_redeemUnderlying`. -/
def redeemUnderlying (self : Address) (env : Env) (w : World) (setToken cToken : Address)
    (redeemNotional : ℕ) : Except Revert World := do
  let w ← Compound.invokeRedeemUnderlying self env w setToken cToken redeemNotional
  if cToken = w.compoundLeverage.cEther then
    Invoke.invokeWrapWETH self env w setToken w.compoundLeverage.weth redeemNotional
  else .ok w

/-- `_updateLeverPositions`. -/
def updateLeverPositions (self : Address) (env : Env) (w : World) (actionInfo : ActionInfo)
    (borrowAsset : Address) : Except Revert World := do
  let collateralUnit ← getCollateralPosition w actionInfo.setToken
    actionInfo.collateralCTokenAsset actionInfo.setTotalSupply
  let w ← updateCollateralPosition self w actionInfo.setToken actionInfo.collateralCTokenAsset
    collateralUnit
  -- interest is not accrued
  let (w, borrowUnit) ← getBorrowPosition env w actionInfo.setToken actionInfo.borrowCTokenAsset
    actionInfo.setTotalSupply false
  updateBorrowPosition self w actionInfo.setToken borrowAsset borrowUnit

/-- `lever`. -/
def lever (self : Address) (env : Env) (w : World)
    (msgSender setToken borrowAsset collateralAsset : Address)
    (borrowQuantity minReceiveQuantity : ℕ) (tradeAdapterName : String) (tradeData : Bytes) :
    Except Revert World := do
  ModuleBase.onlyManagerAndValidSet self w setToken msgSender
  -- what is borrowed is sold, for the collateral
  let leverInfo ← createAndValidateActionInfo self env w setToken borrowAsset collateralAsset
    borrowQuantity minReceiveQuantity tradeAdapterName true
  let w ← borrow self env w leverInfo.setToken leverInfo.borrowCTokenAsset
    leverInfo.notionalSendQuantity
  let (w, postTradeReceiveQuantity) ←
    executeTrade self env w leverInfo borrowAsset collateralAsset tradeData
  let (w, protocolFee) ←
    accrueProtocolFee self env w setToken collateralAsset postTradeReceiveQuantity
  let postTradeCollateralQuantity ← SafeMath.sub postTradeReceiveQuantity protocolFee
  let w ← mintCToken self env w leverInfo.setToken leverInfo.collateralCTokenAsset collateralAsset
    postTradeCollateralQuantity
  updateLeverPositions self env w leverInfo borrowAsset

/-- `delever`. -/
def delever (self : Address) (env : Env) (w : World)
    (msgSender setToken collateralAsset repayAsset : Address)
    (redeemQuantity minRepayQuantity : ℕ) (tradeAdapterName : String) (tradeData : Bytes) :
    Except Revert World := do
  ModuleBase.onlyManagerAndValidSet self w setToken msgSender
  -- the collateral is sold, for what is repaid
  let deleverInfo ← createAndValidateActionInfo self env w setToken collateralAsset repayAsset
    redeemQuantity minRepayQuantity tradeAdapterName false
  let w ← redeemUnderlying self env w deleverInfo.setToken deleverInfo.collateralCTokenAsset
    deleverInfo.notionalSendQuantity
  let (w, postTradeReceiveQuantity) ←
    executeTrade self env w deleverInfo collateralAsset repayAsset tradeData
  let (w, protocolFee) ←
    accrueProtocolFee self env w setToken repayAsset postTradeReceiveQuantity
  let repayQuantity ← SafeMath.sub postTradeReceiveQuantity protocolFee
  let w ← repayBorrow self env w deleverInfo.setToken deleverInfo.borrowCTokenAsset repayAsset
    repayQuantity
  updateLeverPositions self env w deleverInfo repayAsset

/-- `deleverToZeroBorrowBalance`. -/
def deleverToZeroBorrowBalance (self : Address) (env : Env) (w : World)
    (msgSender setToken collateralAsset repayAsset : Address) (redeemQuantity : ℕ)
    (tradeAdapterName : String) (tradeData : Bytes) : Except Revert World := do
  ModuleBase.onlyManagerAndValidSet self w setToken msgSender
  let notionalRedeemQuantity ← PreciseUnitMath.preciseMul redeemQuantity (w.totalSupply setToken)
  let cl := w.compoundLeverage
  require (cl.borrowCTokenEnabled setToken (cl.underlyingToCToken repayAsset) = true)
    "Borrow not enabled"
  let (w, notionalRepayQuantity) ←
    env.borrowBalanceCurrent (cl.underlyingToCToken repayAsset) setToken w
  let deleverInfo ← createAndValidateActionInfoNotional self env w setToken collateralAsset
    repayAsset notionalRedeemQuantity notionalRepayQuantity tradeAdapterName false
  let w ← redeemUnderlying self env w deleverInfo.setToken deleverInfo.collateralCTokenAsset
    deleverInfo.notionalSendQuantity
  let (w, _) ← executeTrade self env w deleverInfo collateralAsset repayAsset tradeData
  let w ← repayBorrow self env w deleverInfo.setToken deleverInfo.borrowCTokenAsset repayAsset
    notionalRepayQuantity
  -- what the trade left over is a default position
  let (w, _) ← Position.calculateAndEditDefaultPosition self w setToken repayAsset
    deleverInfo.setTotalSupply deleverInfo.preTradeReceiveTokenBalance
  updateLeverPositions self env w deleverInfo repayAsset

end CompoundLeverageModule

end SetProtocol
