import SetProtocol.Core.ModuleBase

set_option relaxedAutoImplicit false
set_option autoImplicit false

/-!
# Trades

`contracts/protocol/modules/TradeModule.sol`. The manager sells units of one token for another one
on an exchange, which is reached through an adapter. The module deployed at `self` checks the units
before the trade and what was received after it, and sets both positions by the balances.

## Main definitions

* `SetProtocol.TradeModule.trade`.
* `SetProtocol.TradeModule.validatePreTradeData` — the Set has the units to sell.

## Main results

* `SetProtocol.TradeModule.validatePreTradeData_spec` — the units and the quantity of a trade that
  passes.
-/

namespace SetProtocol

open Checked

namespace TradeModule

/-- `TRADE_MODULE_PROTOCOL_FEE_INDEX`. -/
def tradeModuleProtocolFeeIndex : ℕ := 0

/-- `TradeInfo`. -/
structure TradeInfo where
  /-- The Set. -/
  setToken : Address
  /-- The adapter of the exchange. -/
  exchangeAdapter : Address
  /-- The token that is sold. -/
  sendToken : Address
  /-- The token that is bought. -/
  receiveToken : Address
  /-- The supply of the Set. -/
  setTotalSupply : ℕ
  /-- The quantity to sell. -/
  totalSendQuantity : ℕ
  /-- The least quantity to receive. -/
  totalMinReceiveQuantity : ℕ
  /-- The balance of the sold token before the trade. -/
  preTradeSendTokenBalance : ℕ
  /-- The balance of the bought token before the trade. -/
  preTradeReceiveTokenBalance : ℕ

/-- `_createTradeInfo`. -/
def createTradeInfo (self : Address) (env : Env) (w : World) (setToken : Address)
    (exchangeName : String) (sendToken receiveToken : Address)
    (sendQuantity minReceiveQuantity : ℕ) : Except Revert TradeInfo := do
  let exchangeAdapter ← ModuleBase.getAndValidateAdapter self env w exchangeName
  let setTotalSupply := w.totalSupply setToken
  let totalSendQuantity ← Position.getDefaultTotalNotional setTotalSupply sendQuantity
  let totalMinReceiveQuantity ← Position.getDefaultTotalNotional setTotalSupply minReceiveQuantity
  return {
    setToken := setToken
    exchangeAdapter := exchangeAdapter
    sendToken := sendToken
    receiveToken := receiveToken
    setTotalSupply := setTotalSupply
    totalSendQuantity := totalSendQuantity
    totalMinReceiveQuantity := totalMinReceiveQuantity
    preTradeSendTokenBalance := (w.tokens sendToken).balances setToken
    preTradeReceiveTokenBalance := (w.tokens receiveToken).balances setToken }

/-- `_validatePreTradeData`. -/
def validatePreTradeData (w : World) (tradeInfo : TradeInfo) (sendQuantity : ℕ) :
    Except Revert Unit := do
  require (0 < tradeInfo.totalSendQuantity) "Token to sell must be nonzero"
  let sufficient ← Position.hasSufficientDefaultUnits (w.setTokens tradeInfo.setToken)
    tradeInfo.sendToken sendQuantity
  require (sufficient = true) "Unit cant be greater than existing"

/-- `_executeTrade`. -/
def executeTrade (self : Address) (env : Env) (w : World) (tradeInfo : TradeInfo) (data : Bytes) :
    Except Revert World := do
  let spender ← env.getSpender tradeInfo.exchangeAdapter w
  let w ← Invoke.invokeApprove self env w tradeInfo.setToken tradeInfo.sendToken spender
    tradeInfo.totalSendQuantity
  let (targetExchange, callValue, methodData) ← env.getTradeCalldata tradeInfo.exchangeAdapter
    tradeInfo.sendToken tradeInfo.receiveToken tradeInfo.setToken tradeInfo.totalSendQuantity
    tradeInfo.totalMinReceiveQuantity data w
  let (w, _) ← w.invoke env self tradeInfo.setToken targetExchange callValue methodData
  return w

/-- `_validatePostTrade`. -/
def validatePostTrade (w : World) (tradeInfo : TradeInfo) : Except Revert ℕ := do
  let exchangedQuantity ← SafeMath.sub
    ((w.tokens tradeInfo.receiveToken).balances tradeInfo.setToken)
    tradeInfo.preTradeReceiveTokenBalance
  require (tradeInfo.totalMinReceiveQuantity ≤ exchangedQuantity) "Slippage greater than allowed"
  return exchangedQuantity

/-- `_accrueProtocolFee`, without the fee it returns for an event. -/
def accrueProtocolFee (self : Address) (env : Env) (w : World) (tradeInfo : TradeInfo)
    (exchangedQuantity : ℕ) : Except Revert World := do
  let protocolFeeTotal ←
    ModuleBase.getModuleFee self w tradeModuleProtocolFeeIndex exchangedQuantity
  ModuleBase.payProtocolFeeFromSetToken self env w tradeInfo.setToken tradeInfo.receiveToken
    protocolFeeTotal

/-- `_updateSetTokenPositions`, with the amounts sent and received. -/
def updateSetTokenPositions (self : Address) (w : World) (tradeInfo : TradeInfo) :
    Except Revert (World × ℕ × ℕ) := do
  let (w, currentSendTokenBalance, _) ← Position.calculateAndEditDefaultPosition self w
    tradeInfo.setToken tradeInfo.sendToken tradeInfo.setTotalSupply
    tradeInfo.preTradeSendTokenBalance
  let (w, currentReceiveTokenBalance, _) ← Position.calculateAndEditDefaultPosition self w
    tradeInfo.setToken tradeInfo.receiveToken tradeInfo.setTotalSupply
    tradeInfo.preTradeReceiveTokenBalance
  let netSendAmount ← SafeMath.sub tradeInfo.preTradeSendTokenBalance currentSendTokenBalance
  let netReceiveAmount ←
    SafeMath.sub currentReceiveTokenBalance tradeInfo.preTradeReceiveTokenBalance
  return (w, netSendAmount, netReceiveAmount)

/-- `trade`. -/
def trade (self : Address) (env : Env) (w : World) (msgSender setToken : Address)
    (exchangeName : String) (sendToken : Address) (sendQuantity : ℕ) (receiveToken : Address)
    (minReceiveQuantity : ℕ) (data : Bytes) : Except Revert World := do
  ModuleBase.onlyManagerAndValidSet self w setToken msgSender
  let tradeInfo ← createTradeInfo self env w setToken exchangeName sendToken receiveToken
    sendQuantity minReceiveQuantity
  validatePreTradeData w tradeInfo sendQuantity
  let w ← executeTrade self env w tradeInfo data
  let exchangedQuantity ← validatePostTrade w tradeInfo
  let w ← accrueProtocolFee self env w tradeInfo exchangedQuantity
  let (w, _) ← updateSetTokenPositions self w tradeInfo
  return w

/-- `initialize`. -/
def initializeModule (self : Address) (w : World) (msgSender setToken : Address) :
    Except Revert World := do
  ModuleBase.onlyValidAndPendingSet self w setToken
  ModuleBase.onlySetManager w setToken msgSender
  w.editSetToken self setToken SetToken.initializeModule

/-! ## What the checks say -/

/-- A trade that passes sells no more units than the position has, and the notional amount of
these. -/
theorem validatePreTradeData_spec {self setToken sendToken receiveToken : Address} {env : Env}
    {w : World} {exchangeName : String} {sendQuantity minReceiveQuantity : ℕ} {info : TradeInfo}
    (hinfo : createTradeInfo self env w setToken exchangeName sendToken receiveToken sendQuantity
      minReceiveQuantity = .ok info)
    (hvalid : validatePreTradeData w info sendQuantity = .ok ()) :
    (sendQuantity : ℤ) ≤ (w.setTokens setToken).defaultRealUnit sendToken ∧
      info.totalSendQuantity = w.totalSupply setToken * sendQuantity / preciseUnit := by
  simp only [createTradeInfo, Position.getDefaultTotalNotional, bind_eq_ok,
    PreciseUnitMath.preciseMul_eq_ok, pure_eq_ok] at hinfo
  obtain ⟨_, -, _, ⟨-, rfl⟩, _, ⟨-, rfl⟩, rfl⟩ := hinfo
  simp only [validatePreTradeData, bind_eq_ok, require_eq_ok] at hvalid
  obtain ⟨-, -, sufficient, hunits, rfl⟩ := hvalid
  exact ⟨Position.le_of_hasSufficientDefaultUnits hunits, rfl⟩

end TradeModule

end SetProtocol
