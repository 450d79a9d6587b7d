import SetProtocol.Core.ModuleBase
import SetProtocol.Core.SetValuer
import SetProtocol.Integration.ExchangeAdapters

set_option relaxedAutoImplicit false
set_option autoImplicit false

/-!
# A yield strategy on Uniswap

`contracts/protocol/modules/UniswapYieldStrategy.sol`. The module deployed at `self` serves one Set
with two assets. It keeps a part of them as a reserve, half of the value in each, and puts the rest
into their Uniswap pool. The liquidity tokens are staked, and are an external position of the Set.

## Main definitions

* `SetProtocol.UniswapYieldStrategy` — the storage of the module.
* `SetProtocol.YieldEnv` — the contracts that the module uses.
* `SetProtocol.UniswapYieldStrategy.rebalance`, `engage`, `disengage`, `reap` — what anybody may
  have the module do.
* `SetProtocol.UniswapYieldStrategy.unstakeAndRedeem` — Sets for what is behind them.

## Implementation notes

The internal functions `_engage` and `_rebalance` have the names of external ones, and are called
`engageInternal` and `rebalanceInternal` here.
-/

namespace SetProtocol

open Checked

/-- The storage of a `UniswapYieldStrategy`. -/
structure UniswapYieldStrategy where
  /-- The router. -/
  uniswapRouter : Address
  /-- The pool of the two assets, which is the liquidity token. -/
  lpToken : Address
  /-- The first asset. -/
  assetOne : Address
  /-- The second asset. -/
  assetTwo : Address
  /-- The token in which staking is rewarded. -/
  uni : Address
  /-- The recipient of fees. -/
  feeRecipient : Address
  /-- The contract at which liquidity tokens are staked. -/
  rewarder : Address
  /-- The Set, once there is one. -/
  setToken : Address := zeroAddress
  /-- The part of each asset that is kept as a reserve, in precise units. -/
  reservePercentage : ℕ := 0
  /-- The part of the value that a trade may lose. -/
  slippageTolerance : ℕ := 0
  /-- The part of rewards that is taken as a fee. -/
  rewardFee : ℕ := 0
  /-- The part of redemptions that is taken as a fee. -/
  withdrawalFee : ℕ := 0
  /-- One whole token of the first asset. -/
  assetOneBaseUnit : ℕ
  /-- One whole token of the second asset. -/
  assetTwoBaseUnit : ℕ
  /-- One whole liquidity token. -/
  lpTokenBaseUnit : ℕ

/-- The contracts that the strategy uses. -/
structure YieldEnv extends Env where
  /-- The storage of the price oracles. -/
  priceOracles : Address → PriceOracle
  /-- What the price oracles read. -/
  readings : Readings
  /-- `IUniswapV2Pair.getReserves`, of the tokens in the order of their addresses. -/
  getReserves (pair : Address) : World → Except Revert (ℕ × ℕ)
  /-- `IStakingRewards.balanceOf`. -/
  stakedBalance (rewarder account : Address) : World → ℕ

namespace UniswapYieldStrategy

/-- The constructor, whose powers are not checked for overflow. -/
def create (w : World)
    (uniswapRouter lpToken assetOne assetTwo uni rewarder feeRecipient : Address) :
    UniswapYieldStrategy where
  uniswapRouter := uniswapRouter
  lpToken := lpToken
  assetOne := assetOne
  assetTwo := assetTwo
  uni := uni
  rewarder := rewarder
  feeRecipient := feeRecipient
  assetOneBaseUnit := 10 ^ (w.tokens assetOne).decimals % 2 ^ 256
  assetTwoBaseUnit := 10 ^ (w.tokens assetTwo).decimals % 2 ^ 256
  lpTokenBaseUnit := 10 ^ (w.tokens lpToken).decimals % 2 ^ 256

variable (u : UniswapYieldStrategy) (self : Address) (env : YieldEnv)

/-- What the Set has of a token. -/
def balanceOnSet (w : World) (token : Address) : ℕ := (w.tokens token).balances u.setToken

/-! ## The pool -/

/-- `_getReservesSafe`. -/
def getReservesSafe (w : World) : Except Revert (ℕ × ℕ) := do
  let firstAsset := if u.assetOne < u.assetTwo then u.assetOne else u.assetTwo
  let (reserve0, reserve1) ← env.getReserves u.lpToken w
  return if u.assetOne = firstAsset then (reserve0, reserve1) else (reserve1, reserve0)

/-- `_getTotalLPReserves`. -/
def getTotalLPReserves (w : World) : Except Revert (ℕ × ℕ) := do
  let (reserve0, reserve1) ← u.getReservesSafe env w
  let totalSupply := w.totalSupply u.lpToken
  let lpTokenBalance := env.stakedBalance u.rewarder u.setToken w
  return (← SafeMath.div (← SafeMath.mul reserve0 lpTokenBalance) totalSupply,
    ← SafeMath.div (← SafeMath.mul reserve1 lpTokenBalance) totalSupply)

/-- `_getLPReserveExchangeRate`. -/
def getLPReserveExchangeRate (w : World) : Except Revert (ℕ × ℕ) := do
  let (reserve0, reserve1) ← u.getReservesSafe env w
  let totalSupply := w.totalSupply u.lpToken
  return (← PreciseUnitMath.preciseDiv reserve0 totalSupply,
    ← PreciseUnitMath.preciseDiv reserve1 totalSupply)

/-- `_getDesiredSingleAssetReserve`: the reserves to keep, and the balances of the Set. -/
def getDesiredSingleAssetReserve (w : World) : Except Revert (ℕ × ℕ × ℕ × ℕ) := do
  let (assetOneReserve, assetTwoReserve) ← u.getTotalLPReserves env w
  let balanceAssetOne := u.balanceOnSet w u.assetOne
  let balanceAssetTwo := u.balanceOnSet w u.assetTwo
  let desiredOneReserve ← PreciseUnitMath.preciseMul
    (← SafeMath.add assetOneReserve balanceAssetOne) u.reservePercentage
  let desiredTwoReserve ← PreciseUnitMath.preciseMul
    (← SafeMath.add assetTwoReserve balanceAssetTwo) u.reservePercentage
  return (desiredOneReserve, desiredTwoReserve, balanceAssetOne, balanceAssetTwo)

/-- `_calculateEngageQuantities`. -/
def calculateEngageQuantities (w : World) : Except Revert (ℕ × ℕ) := do
  let (desiredAssetOne, desiredAssetTwo, assetOneOnSetToken, assetTwoOnSetToken) ←
    u.getDesiredSingleAssetReserve env w
  require (desiredAssetOne < assetOneOnSetToken ∧ desiredAssetTwo < assetTwoOnSetToken)
    "SetToken assets must be > desired"
  return (← SafeMath.sub assetOneOnSetToken desiredAssetOne,
    ← SafeMath.sub assetTwoOnSetToken desiredAssetTwo)

/-- `_calculateDisengageLPQuantity`. -/
def calculateDisengageLPQuantity (w : World) : Except Revert ℕ := do
  let (assetOneToLPRate, assetTwoToLPRate) ← u.getLPReserveExchangeRate env w
  let (desiredOne, desiredTwo, assetOneOnSetToken, assetTwoOnSetToken) ←
    u.getDesiredSingleAssetReserve env w
  require (assetOneOnSetToken < desiredOne ∧ assetTwoOnSetToken < desiredTwo)
    "SetToken assets must be < desired"
  -- the rates already account for decimals
  let minLPForOneToRedeem ← PreciseUnitMath.preciseDiv
    (← SafeMath.sub desiredOne assetOneOnSetToken) assetOneToLPRate
  let minLPForTwoToRedeem ← PreciseUnitMath.preciseDiv
    (← SafeMath.sub desiredTwo assetTwoOnSetToken) assetTwoToLPRate
  return max minLPForOneToRedeem minLPForTwoToRedeem

/-! ## Calls by the Set -/

/-- `_invokeUniswapTrade`. -/
def invokeUniswapTrade (w : World) (sellToken buyToken : Address) (amountIn amountOutMin : ℕ) :
    Except Revert World := do
  let path := [sellToken, buyToken]
  let deadline ← SafeMath.add w.timestamp 180
  let tradeBytes := encodeWithSignature env.keccak256
    "swapExactTokensForTokens(uint256,uint256,address[],address,uint256)" swapLayout
    (amountIn, amountOutMin, path, u.setToken, deadline, ())
  let (w, _) ← w.invoke env.toEnv self u.setToken u.uniswapRouter 0 (.bytes tradeBytes)
  return w

/-- The arguments of `addLiquidity` of the router: the assets, the quantities, the least ones, the
recipient and the deadline. -/
def addLiquidityLayout : Abi.Layout (Address × Address × ℕ × ℕ × ℕ × ℕ × Address × ℕ × Unit) :=
  .cons addressCodec <| .cons addressCodec <| .cons uint256Codec <| .cons uint256Codec <|
    .cons uint256Codec <| .cons uint256Codec <| .cons addressCodec <| .cons uint256Codec .nil

/-- `_approveAndAddLiquidity`, with the liquidity tokens that the Set has then. -/
def approveAndAddLiquidity (w : World) (assetOneQuantity assetTwoQuantity : ℕ) :
    Except Revert (World × ℕ) := do
  let w ← Invoke.invokeApprove self env.toEnv w u.setToken u.assetOne u.uniswapRouter
    assetOneQuantity
  let w ← Invoke.invokeApprove self env.toEnv w u.setToken u.assetTwo u.uniswapRouter
    assetTwoQuantity
  let deadline ← SafeMath.add w.timestamp 60
  let addLiquidityBytes := encodeWithSignature env.keccak256
    "addLiquidity(address,address,uint256,uint256,uint256,uint256,address,uint256)"
    addLiquidityLayout (u.assetOne, u.assetTwo, assetOneQuantity, assetTwoQuantity, 1, 1,
      u.setToken, deadline, ())
  let (w, _) ← w.invoke env.toEnv self u.setToken u.uniswapRouter 0 (.bytes addLiquidityBytes)
  return (w, u.balanceOnSet w u.lpToken)

/-- The arguments of `removeLiquidity` of the router: the assets, the liquidity tokens, the least
quantities, the recipient and the deadline. -/
def removeLiquidityLayout : Abi.Layout (Address × Address × ℕ × ℕ × ℕ × Address × ℕ × Unit) :=
  .cons addressCodec <| .cons addressCodec <| .cons uint256Codec <| .cons uint256Codec <|
    .cons uint256Codec <| .cons addressCodec <| .cons uint256Codec .nil

/-- `_approveAndRemoveLiquidity`. -/
def approveAndRemoveLiquidity (w : World) (liquidityQuantity : ℕ) : Except Revert World := do
  let w ← Invoke.invokeApprove self env.toEnv w u.setToken u.lpToken u.uniswapRouter
    liquidityQuantity
  let deadline ← SafeMath.add w.timestamp 60
  let removeLiquidityBytes := encodeWithSignature env.keccak256
    "removeLiquidity(address,address,uint256,uint256,uint256,address,uint256)"
    removeLiquidityLayout
    (u.assetOne, u.assetTwo, liquidityQuantity, 1, 1, u.setToken, deadline, ())
  let (w, _) ← w.invoke env.toEnv self u.setToken u.uniswapRouter 0 (.bytes removeLiquidityBytes)
  return w

/-- The arguments of `stake` of the rewarder. -/
def stakeLayout : Abi.Layout (ℕ × Unit) := .cons uint256Codec .nil

/-- `_approveAndStake`. -/
def approveAndStake (w : World) (lpTokenQuantity : ℕ) : Except Revert World := do
  let w ← Invoke.invokeApprove self env.toEnv w u.setToken u.lpToken u.rewarder lpTokenQuantity
  let stakeBytes := encodeWithSignature env.keccak256 "stake(uint256)" stakeLayout
    (lpTokenQuantity, ())
  let (w, _) ← w.invoke env.toEnv self u.setToken u.rewarder 0 (.bytes stakeBytes)
  return w

/-- `_unstake`. -/
def unstake (w : World) (lpTokenQuantity : ℕ) : Except Revert World := do
  let (w, _) ← w.invoke env.toEnv self u.setToken u.rewarder 0 (.withdraw lpTokenQuantity)
  return w

/-! ## Positions -/

/-- `_updatePositions`. -/
def updatePositions (w : World) : Except Revert World := do
  let totalSupply := w.totalSupply u.setToken
  let assetOneBalance := u.balanceOnSet w u.assetOne
  let assetTwoBalance := u.balanceOnSet w u.assetTwo
  let lpBalance := env.stakedBalance u.rewarder u.setToken w
  -- liquidity tokens that the Set has itself are in no position
  let assetOneUnit ← Position.getDefaultPositionUnit totalSupply assetOneBalance
  let w ← w.editSetToken self u.setToken fun m s =>
    Position.editDefaultPosition m s u.assetOne assetOneUnit
  let assetTwoUnit ← Position.getDefaultPositionUnit totalSupply assetTwoBalance
  let w ← w.editSetToken self u.setToken fun m s =>
    Position.editDefaultPosition m s u.assetTwo assetTwoUnit
  let lpUnit ← SafeCast.toInt256 (← Position.getDefaultPositionUnit totalSupply lpBalance)
  w.editSetToken self u.setToken fun m s =>
    Position.editExternalPosition m s u.lpToken self lpUnit []

/-! ## Rebalancing -/

/-- A trade that brings the reserves closer together. -/
structure Rebalance where
  /-- The asset that there is more of, by value. -/
  assetToSell : Address
  /-- The other asset. -/
  assetToBuy : Address
  /-- How much is sold. -/
  quantityToSell : ℕ
  /-- The least to be bought. -/
  minimumBuyToken : ℕ

/-- The first part of `_rebalance`: half of the difference is sold at the price of the oracle. -/
def calculateRebalance (assetOneToTwoPrice balanceAssetOne balanceAssetTwo : ℕ) :
    Except Revert Rebalance := do
  -- the second asset in terms of the first, for their different decimals
  let valueAssetTwoDenomOne ← SafeMath.div
    (← SafeMath.mul (← PreciseUnitMath.preciseDiv balanceAssetTwo assetOneToTwoPrice)
      u.assetOneBaseUnit) u.assetTwoBaseUnit
  if valueAssetTwoDenomOne < balanceAssetOne then do
    let quantityToSell ← SafeMath.div (← SafeMath.sub balanceAssetOne valueAssetTwoDenomOne) 2
    let minimumBuyToken ← SafeMath.div
      (← SafeMath.mul (← PreciseUnitMath.preciseMul quantityToSell assetOneToTwoPrice)
        u.assetTwoBaseUnit) u.assetOneBaseUnit
    return ⟨u.assetOne, u.assetTwo, quantityToSell, minimumBuyToken⟩
  else do
    let halfDenomOne ← SafeMath.div (← SafeMath.sub valueAssetTwoDenomOne balanceAssetOne) 2
    let quantityToSell ← SafeMath.div
      (← SafeMath.mul (← PreciseUnitMath.preciseMul halfDenomOne assetOneToTwoPrice)
        u.assetTwoBaseUnit) u.assetOneBaseUnit
    let minimumBuyToken ← SafeMath.div
      (← SafeMath.mul (← PreciseUnitMath.preciseDiv quantityToSell assetOneToTwoPrice)
        u.assetOneBaseUnit) u.assetTwoBaseUnit
    return ⟨u.assetTwo, u.assetOne, quantityToSell, minimumBuyToken⟩

/-- The second part of `_rebalance`: a smaller quantity that was asked for, and the slippage. -/
def limitRebalance (r : Rebalance) (sellTokenQuantity : ℕ) : Except Revert Rebalance := do
  let r ← (
    if 0 < sellTokenQuantity then do
      require (sellTokenQuantity ≤ r.quantityToSell) "Delta must be less than max"
      let minimumBuyToken ← PreciseUnitMath.preciseDiv
        (← PreciseUnitMath.preciseMul r.minimumBuyToken sellTokenQuantity) r.quantityToSell
      return { r with quantityToSell := sellTokenQuantity, minimumBuyToken := minimumBuyToken }
    else .ok r)
  let minimumBuyToken ← PreciseUnitMath.preciseMul r.minimumBuyToken
    (← SafeMath.sub preciseUnit u.slippageTolerance)
  return { r with minimumBuyToken := minimumBuyToken }

/-- `_rebalance`. -/
def rebalanceInternal (w : World) (sellTokenQuantity : ℕ) : Except Revert World := do
  let priceOracle := env.priceOracles w.controller.getPriceOracle
  let assetOneToTwoPrice ←
    priceOracle.getPrice w.controller env.readings self u.assetOne u.assetTwo
  let r ← u.calculateRebalance assetOneToTwoPrice (u.balanceOnSet w u.assetOne)
    (u.balanceOnSet w u.assetTwo)
  let r ← u.limitRebalance r sellTokenQuantity
  let w ← Invoke.invokeApprove self env.toEnv w u.setToken r.assetToSell u.uniswapRouter
    r.quantityToSell
  if 0 < r.quantityToSell then
    u.invokeUniswapTrade self env w r.assetToSell r.assetToBuy r.quantityToSell r.minimumBuyToken
  else .ok w

/-- `rebalance`. -/
def rebalance (w : World) : Except Revert World := do
  let w ← u.rebalanceInternal self env w 0
  u.updatePositions self env w

/-- `rebalanceSome`. -/
def rebalanceSome (w : World) (sellTokenQuantity : ℕ) : Except Revert World := do
  let w ← u.rebalanceInternal self env w sellTokenQuantity
  u.updatePositions self env w

/-! ## The pool and its rewards -/

/-- `_engage`. -/
def engageInternal (w : World) : Except Revert World := do
  let w ← u.rebalanceInternal self env w 0
  let (assetOneQuantity, assetTwoQuantity) ← u.calculateEngageQuantities env w
  let (w, lpBalance) ← u.approveAndAddLiquidity self env w assetOneQuantity assetTwoQuantity
  let w ← u.approveAndStake self env w lpBalance
  u.updatePositions self env w

/-- `engage`. -/
def engage (w : World) : Except Revert World := u.engageInternal self env w

/-- `disengage`. -/
def disengage (w : World) : Except Revert World := do
  let w ← u.rebalanceInternal self env w 0
  let lpTokenQuantity ← u.calculateDisengageLPQuantity env w
  let w ← u.unstake self env w lpTokenQuantity
  let w ← u.approveAndRemoveLiquidity self env w lpTokenQuantity
  u.updatePositions self env w

/-- `_handleReward`. -/
def handleReward (w : World) : Except Revert World := do
  let (w, _) ← w.invoke env.toEnv self u.setToken u.rewarder 0
    (.bytes (encodeWithSignature env.keccak256 "getReward()" .nil ()))
  let uniBalance := u.balanceOnSet w u.uni
  let assetOneBalance := u.balanceOnSet w u.assetOne
  let w ← Invoke.invokeApprove self env.toEnv w u.setToken u.uni u.uniswapRouter uniBalance
  let w ← u.invokeUniswapTrade self env w u.uni u.assetOne uniBalance 1
  let postTradeAssetOneBalance := u.balanceOnSet w u.assetOne
  let fee ← PreciseUnitMath.preciseMul
    (← SafeMath.sub postTradeAssetOneBalance assetOneBalance) u.rewardFee
  Invoke.strictInvokeTransfer self env.toEnv w u.setToken u.assetOne u.feeRecipient fee

/-- `reap`. -/
def reap (w : World) : Except Revert World := do
  let w ← u.handleReward self env w
  u.engageInternal self env w

/-! ## Redemption -/

/-- What `unstakeAndRedeem` pays of one token: the notional quantity, of which a part is a fee. -/
def payNotional (w : World) (msgSender token : Address) (notional : ℕ) : Except Revert World := do
  let fee ← PreciseUnitMath.preciseMul notional u.withdrawalFee
  let w ← Invoke.invokeTransfer self env.toEnv w u.setToken token msgSender
    (← SafeMath.sub notional fee)
  Invoke.invokeTransfer self env.toEnv w u.setToken token u.feeRecipient fee

/-- What `unstakeAndRedeem` pays of an asset with a default position. -/
def payAsset (w : World) (msgSender asset : Address) (setTokenQuantity : ℕ) :
    Except Revert World := do
  let unit ← SafeCast.toUint256 (← (w.setTokens u.setToken).getDefaultPositionRealUnit asset)
  u.payNotional self env w msgSender asset (← PreciseUnitMath.preciseMul unit setTokenQuantity)

/-- `unstakeAndRedeem`. -/
def unstakeAndRedeem (w : World) (msgSender : Address) (setTokenQuantity : ℕ) :
    Except Revert World := do
  require (setTokenQuantity ≤ (w.tokens u.setToken).balances msgSender)
    "User must have sufficient SetToken"
  let w ← w.burn self u.setToken msgSender setTokenQuantity
  let lpTokenUnit ← SafeCast.toUint256
    (← (w.setTokens u.setToken).getExternalPositionRealUnit u.lpToken self)
  let userLPBalance ← PreciseUnitMath.preciseMul lpTokenUnit setTokenQuantity
  let w ← u.unstake self env w userLPBalance
  let w ← u.payNotional self env w msgSender u.lpToken userLPBalance
  let w ← u.payAsset self env w msgSender u.assetOne setTokenQuantity
  u.payAsset self env w msgSender u.assetTwo setTokenQuantity

/-! ## First and last -/

/-- `initialize`. -/
def initializeModule (w : World) (msgSender setToken : Address)
    (reservePercentage slippageTolerance rewardFee withdrawalFee : ℕ) :
    Except Revert (World × UniswapYieldStrategy) := do
  ModuleBase.onlySetManager w setToken msgSender
  require (u.setToken = zeroAddress) "May only be called once"
  let w ← w.editSetToken self setToken SetToken.initializeModule
  return (w, { u with
    setToken := setToken
    reservePercentage := reservePercentage
    slippageTolerance := slippageTolerance
    rewardFee := rewardFee
    withdrawalFee := withdrawalFee })

/-- `removeModule`, which the Set calls. -/
def removeModule (w : World) (msgSender : Address) : Except Revert World := do
  require (msgSender = u.setToken) "Caller must be SetToken"
  let lpBalance := env.stakedBalance u.rewarder u.setToken w
  let w ← u.unstake self env w lpBalance
  let w ← u.approveAndRemoveLiquidity self env w lpBalance
  u.updatePositions self env w

end UniswapYieldStrategy

end SetProtocol
