import SetProtocol.Core.Flow
import SetProtocol.Modules.UniswapYieldStrategy

set_option relaxedAutoImplicit false
set_option autoImplicit false

/-!
# What the strategy relies on

The Set calls a router, which swaps the assets and moves them into their pool and out of it, and a
rewarder, which holds the liquidity tokens that are staked. Both are outside the protocol. The router
takes no more than it is given, and gives no less than was asked for; for liquidity tokens it gives
their share of the reserves.

## Main definitions

* `SetProtocol.UniswapYieldStrategy.Separate` — the two assets and the liquidity token are three
  tokens.
* `SetProtocol.UniswapYieldStrategy.Reliable` — what the strategy relies on.
* `SetProtocol.UniswapYieldStrategy.farm` — a router, a pool and a rewarder that can be relied on.

## Main results

* `SetProtocol.UniswapYieldStrategy.flow_of_invokeUniswapTrade`, `flow_of_approveAndAddLiquidity`,
  `flow_of_approveAndRemoveLiquidity`, `flow_of_approveAndStake`, `flow_of_unstake` — what the calls
  of the strategy do to the balances of the Set.
* `SetProtocol.UniswapYieldStrategy.reliable_farm` — the farm can be relied on.
-/

namespace SetProtocol

open Checked

namespace UniswapYieldStrategy

/-- The two assets and the liquidity token are three tokens. -/
structure Separate (u : UniswapYieldStrategy) : Prop where
  /-- The assets differ. -/
  assets : u.assetOne ≠ u.assetTwo
  /-- The first asset is not the liquidity token. -/
  assetOne : u.assetOne ≠ u.lpToken
  /-- The second asset is not the liquidity token. -/
  assetTwo : u.assetTwo ≠ u.lpToken

/-- What the Set has staked. -/
def staked (u : UniswapYieldStrategy) (env : YieldEnv) (w : World) : ℕ :=
  env.stakedBalance u.rewarder u.setToken w

/-! ## Calldata -/

/-- The data of a swap. -/
def swapCalldata (u : UniswapYieldStrategy) (env : YieldEnv) (sellToken buyToken : Address)
    (amountIn amountOutMin deadline : ℕ) : Bytes :=
  encodeWithSignature env.keccak256
    "swapExactTokensForTokens(uint256,uint256,address[],address,uint256)" swapLayout
    (amountIn, amountOutMin, [sellToken, buyToken], u.setToken, deadline, ())

/-- The data with which assets are put into the pool. -/
def addLiquidityCalldata (u : UniswapYieldStrategy) (env : YieldEnv)
    (assetOneQuantity assetTwoQuantity deadline : ℕ) : Bytes :=
  encodeWithSignature env.keccak256
    "addLiquidity(address,address,uint256,uint256,uint256,uint256,address,uint256)"
    addLiquidityLayout (u.assetOne, u.assetTwo, assetOneQuantity, assetTwoQuantity, 1, 1,
      u.setToken, deadline, ())

/-- The data with which they are taken out. -/
def removeLiquidityCalldata (u : UniswapYieldStrategy) (env : YieldEnv)
    (liquidityQuantity deadline : ℕ) : Bytes :=
  encodeWithSignature env.keccak256
    "removeLiquidity(address,address,uint256,uint256,uint256,address,uint256)"
    removeLiquidityLayout
    (u.assetOne, u.assetTwo, liquidityQuantity, 1, 1, u.setToken, deadline, ())

/-- The data with which liquidity tokens are staked. -/
def stakeCalldata (env : YieldEnv) (lpTokenQuantity : ℕ) : Bytes :=
  encodeWithSignature env.keccak256 "stake(uint256)" stakeLayout (lpTokenQuantity, ())

/-! ## The contracts outside -/

/-- Whenever the Set calls the contract so, the worlds before and after are related. -/
def Answers (u : UniswapYieldStrategy) (env : YieldEnv) (target : Address) (data : CallData)
    (related : World → World → Prop) : Prop :=
  ∀ w w' words, World.execute env.toEnv w ⟨u.setToken, target, 0, data⟩ = .ok (w', words) →
    related w w'

/-- The positions of the Set and its supply are as they were. -/
def SameSet (u : UniswapYieldStrategy) (w w' : World) : Prop :=
  w'.setTokens u.setToken = w.setTokens u.setToken ∧
    w'.totalSupply u.setToken = w.totalSupply u.setToken

/-- The reserves of the pool are as they were, and as many liquidity tokens stand for them. -/
def SamePool (u : UniswapYieldStrategy) (env : YieldEnv) (w w' : World) : Prop :=
  env.getReserves u.lpToken w' = env.getReserves u.lpToken w ∧
    w'.totalSupply u.lpToken = w.totalSupply u.lpToken

/-- What the strategy relies on. -/
structure Reliable (u : UniswapYieldStrategy) (env : YieldEnv) : Prop where
  /-- What is staked, and the reserves of the pool, are kept in a storage outside the protocol. -/
  storage : ∀ w w', w'.storage = w.storage → u.staked env w' = u.staked env w ∧
    env.getReserves u.lpToken w' = env.getReserves u.lpToken w
  /-- The router is not a module. -/
  router : ∀ data, u.Answers env u.uniswapRouter (.bytes data) u.SameSet
  /-- Nor is the rewarder. -/
  rewarder : ∀ data, u.Answers env u.rewarder (.bytes data) u.SameSet
  /-- A swap takes no more than what is to be sold, and gives no less than the minimum. -/
  swap : ∀ sellToken buyToken amountIn amountOutMin deadline, InUint256 amountIn →
    InUint256 amountOutMin → InUint256 deadline →
      u.Answers env u.uniswapRouter
        (.bytes (u.swapCalldata env sellToken buyToken amountIn amountOutMin deadline))
        fun w w' => Flow u.setToken w w' (only buyToken amountOutMin) (only sellToken amountIn)
  /-- The pool takes no more of the assets than what it is given. -/
  addLiquidity : ∀ quantityOne quantityTwo deadline, InUint256 quantityOne →
    InUint256 quantityTwo → InUint256 deadline →
      u.Answers env u.uniswapRouter
        (.bytes (u.addLiquidityCalldata env quantityOne quantityTwo deadline))
        fun w w' => Flow u.setToken w w' (fun _ => 0)
          fun c => only u.assetOne quantityOne c + only u.assetTwo quantityTwo c
  /-- For liquidity tokens it gives their share of the reserves. -/
  removeLiquidity : ∀ quantity deadline, InUint256 quantity → InUint256 deadline →
    u.Answers env u.uniswapRouter (.bytes (u.removeLiquidityCalldata env quantity deadline))
      fun w w' => ∀ reserveOne reserveTwo,
        u.getReservesSafe env w = .ok (reserveOne, reserveTwo) →
          Flow u.setToken w w'
            (fun c => only u.assetOne (reserveOne * quantity / w.totalSupply u.lpToken) c +
              only u.assetTwo (reserveTwo * quantity / w.totalSupply u.lpToken) c)
            (only u.lpToken quantity)
  /-- Staking takes liquidity tokens only. -/
  stake : ∀ quantity, u.Answers env u.rewarder (.bytes (stakeCalldata env quantity))
    fun w w' => ∃ taken, Flow u.setToken w w' (fun _ => 0) (only u.lpToken taken)
  /-- What is taken out is no longer staked. The pool has no part in it. -/
  withdraw : ∀ quantity, u.Answers env u.rewarder (.withdraw quantity)
    fun w w' => Flow u.setToken w w' (only u.lpToken quantity) (fun _ => 0) ∧
      u.staked env w' + quantity = u.staked env w ∧ u.SamePool env w w'

variable {u : UniswapYieldStrategy} {self : Address} {env : YieldEnv} {w w' : World}

/-- A call by the Set does what the contract does, for it is only logged before. -/
theorem Answers.of_invoke {target : Address} {data : CallData} {related : World → World → Prop}
    {words : List ℕ} (h : u.Answers env target data related)
    (hinvoke : w.invoke env.toEnv self u.setToken target 0 data = .ok (w', words)) :
    related (w.log ⟨u.setToken, target, 0, data⟩) w' :=
  h _ _ _ (World.invoke_eq_ok.mp hinvoke).2

/-- A record of a call moves nothing. -/
theorem flow_of_log {call : Call} {into out : Address → ℕ}
    (h : Flow u.setToken (w.log call) w' into out) : Flow u.setToken w w' into out :=
  ⟨h.positions, h.supply, h.balances⟩

/-- A flow leaves the positions and the supply alone. -/
theorem sameSet_of_flow {into out : Address → ℕ} (h : Flow u.setToken w w' into out) :
    u.SameSet w w' :=
  ⟨h.positions, h.supply⟩

/-- One after the other. -/
theorem SameSet.trans {w₁ : World} (h : u.SameSet w w₁) (h' : u.SameSet w₁ w') : u.SameSet w w' :=
  ⟨h'.1.trans h.1, h'.2.trans h.2⟩

/-- An approval does not change the pool, even where it is one for liquidity tokens. -/
theorem samePool_of_invokeApprove (hr : u.Reliable env) {token spender : Address} {quantity : ℕ}
    (h : Invoke.invokeApprove self env.toEnv w u.setToken token spender quantity = .ok w') :
    u.SamePool env w w' := by
  obtain ⟨t', -, hsupply, rfl⟩ := Invoke.invokeApprove_spec h
  refine ⟨(hr.storage _ _ ?_).2, ?_⟩
  · rfl
  · by_cases hc : u.lpToken = token
    · subst hc
      simpa [World.totalSupply, World.setTokenLedger] using hsupply
    · simp [World.totalSupply, World.setTokenLedger, hc]

/-! ## The calls of the strategy -/

section Calls

variable (hr : u.Reliable env)
include hr

/-- A trade sells no more than the amount, and buys no less than the minimum. -/
theorem flow_of_invokeUniswapTrade {sellToken buyToken : Address} {amountIn amountOutMin : ℕ}
    (hin : InUint256 amountIn) (hout : InUint256 amountOutMin)
    (h : u.invokeUniswapTrade self env w sellToken buyToken amountIn amountOutMin = .ok w') :
    Flow u.setToken w w' (only buyToken amountOutMin) (only sellToken amountIn) := by
  simp only [invokeUniswapTrade, bind_eq_ok, SafeMath.add_eq_ok, pure_eq_ok, Prod.exists] at h
  obtain ⟨_, ⟨hdeadline, rfl⟩, w₁, words, hinvoke, rfl⟩ := h
  exact flow_of_log ((hr.swap _ _ _ _ _ hin hout hdeadline).of_invoke hinvoke)

/-- A trade leaves the positions and the supply alone. -/
theorem sameSet_of_invokeUniswapTrade {sellToken buyToken : Address} {amountIn amountOutMin : ℕ}
    (h : u.invokeUniswapTrade self env w sellToken buyToken amountIn amountOutMin = .ok w') :
    u.SameSet w w' := by
  simp only [invokeUniswapTrade, bind_eq_ok, pure_eq_ok, Prod.exists] at h
  obtain ⟨_, -, w₁, words, hinvoke, rfl⟩ := h
  exact (hr.router _).of_invoke hinvoke

/-- Putting assets into the pool takes no more of them. -/
theorem flow_of_approveAndAddLiquidity {quantityOne quantityTwo lpBalance : ℕ}
    (hone : InUint256 quantityOne) (htwo : InUint256 quantityTwo)
    (h : u.approveAndAddLiquidity self env w quantityOne quantityTwo = .ok (w', lpBalance)) :
    Flow u.setToken w w' (fun _ => 0)
      fun c => only u.assetOne quantityOne c + only u.assetTwo quantityTwo c := by
  simp only [approveAndAddLiquidity, bind_eq_ok, SafeMath.add_eq_ok, pure_eq_ok, Prod.exists,
    Prod.mk.injEq] at h
  obtain ⟨w₁, hone', w₂, htwo', _, ⟨hdeadline, rfl⟩, w₃, words, hinvoke, rfl, -⟩ := h
  have happrovals := (Flow.of_invokeApprove hone').trans (Flow.of_invokeApprove htwo')
  have hadd := flow_of_log ((hr.addLiquidity _ _ _ hone htwo hdeadline).of_invoke hinvoke)
  refine (happrovals.trans hadd).mono (fun c => Nat.zero_le _) fun c => ?_
  omega

/-- It leaves the positions and the supply alone. -/
theorem sameSet_of_approveAndAddLiquidity {quantityOne quantityTwo lpBalance : ℕ}
    (h : u.approveAndAddLiquidity self env w quantityOne quantityTwo = .ok (w', lpBalance)) :
    u.SameSet w w' := by
  simp only [approveAndAddLiquidity, bind_eq_ok, pure_eq_ok, Prod.exists, Prod.mk.injEq] at h
  obtain ⟨w₁, hone, w₂, htwo, _, -, w₃, words, hinvoke, rfl, -⟩ := h
  have happrovals := (Flow.of_invokeApprove hone).trans (Flow.of_invokeApprove htwo)
  exact (sameSet_of_flow happrovals).trans ((hr.router _).of_invoke hinvoke)

/-- Staking takes liquidity tokens only. -/
theorem flow_of_approveAndStake {quantity : ℕ}
    (h : u.approveAndStake self env w quantity = .ok w') :
    ∃ taken, Flow u.setToken w w' (fun _ => 0) (only u.lpToken taken) := by
  simp only [approveAndStake, bind_eq_ok, pure_eq_ok, Prod.exists] at h
  obtain ⟨w₁, happrove, w₂, words, hinvoke, rfl⟩ := h
  obtain ⟨taken, hstake⟩ := (hr.stake quantity).of_invoke hinvoke
  refine ⟨taken, ((Flow.of_invokeApprove happrove).trans (flow_of_log hstake)).mono
    (fun c => Nat.zero_le _) fun c => ?_⟩
  omega

/-- What is taken out of the rewarder is no longer staked. -/
theorem flow_of_unstake {quantity : ℕ} (h : u.unstake self env w quantity = .ok w') :
    Flow u.setToken w w' (only u.lpToken quantity) (fun _ => 0) ∧
      u.staked env w' + quantity = u.staked env w ∧ u.SamePool env w w' := by
  simp only [unstake, bind_eq_ok, pure_eq_ok, Prod.exists] at h
  obtain ⟨w₁, words, hinvoke, rfl⟩ := h
  obtain ⟨hflow, hstaked, hreserves, hsupply⟩ := (hr.withdraw quantity).of_invoke hinvoke
  have hlog := hr.storage w (w.log ⟨u.setToken, u.rewarder, 0, .withdraw quantity⟩) rfl
  exact ⟨flow_of_log hflow, hstaked.trans hlog.1, hreserves.trans hlog.2, hsupply⟩

/-- Liquidity tokens bring in their share of the reserves. -/
theorem flow_of_approveAndRemoveLiquidity {quantity reserveOne reserveTwo : ℕ}
    (hquantity : InUint256 quantity)
    (hreserves : u.getReservesSafe env w = .ok (reserveOne, reserveTwo))
    (h : u.approveAndRemoveLiquidity self env w quantity = .ok w') :
    Flow u.setToken w w'
      (fun c => only u.assetOne (reserveOne * quantity / w.totalSupply u.lpToken) c +
        only u.assetTwo (reserveTwo * quantity / w.totalSupply u.lpToken) c)
      (only u.lpToken quantity) := by
  simp only [approveAndRemoveLiquidity, bind_eq_ok, SafeMath.add_eq_ok, pure_eq_ok,
    Prod.exists] at h
  obtain ⟨w₁, happrove, _, ⟨hdeadline, rfl⟩, w₂, words, hinvoke, rfl⟩ := h
  obtain ⟨hsame, hsupply⟩ := samePool_of_invokeApprove hr happrove
  have hpool := (hr.removeLiquidity _ _ hquantity hdeadline).of_invoke hinvoke
  have hlog := (hr.storage w₁ (w₁.log ⟨u.setToken, u.uniswapRouter, 0,
    .bytes (u.removeLiquidityCalldata env quantity (w₁.timestamp + 60))⟩) rfl).2
  have hremove := flow_of_log (hpool reserveOne reserveTwo (by
    rw [getReservesSafe, hlog.trans hsame]
    exact hreserves))
  refine ((Flow.of_invokeApprove happrove).trans hremove).mono (fun c => ?_) fun c => ?_
  · rw [← hsupply, Nat.zero_add]
    exact Nat.le_refl _
  · rw [Nat.zero_add]

/-- It leaves the positions and the supply alone. -/
theorem sameSet_of_approveAndRemoveLiquidity {quantity : ℕ}
    (h : u.approveAndRemoveLiquidity self env w quantity = .ok w') : u.SameSet w w' := by
  simp only [approveAndRemoveLiquidity, bind_eq_ok, pure_eq_ok, Prod.exists] at h
  obtain ⟨w₁, happrove, _, -, w₂, words, hinvoke, rfl⟩ := h
  exact (sameSet_of_flow (Flow.of_invokeApprove happrove)).trans ((hr.router _).of_invoke hinvoke)

end Calls

/-- Positions are written without a transfer. -/
theorem updatePositions_spec (h : u.updatePositions self env w = .ok w') :
    w'.tokens = w.tokens ∧ w'.storage = w.storage := by
  simp only [updatePositions, bind_eq_ok, World.editSetToken_eq_ok] at h
  obtain ⟨_, -, _, ⟨_, -, rfl⟩, _, -, _, ⟨_, -, rfl⟩, _, -, _, -, _, -, rfl⟩ := h
  exact ⟨rfl, rfl⟩

/-! ## A farm -/

/-- The hashes of the signatures that the router and the rewarder know. -/
def farmHash (signature : String) : ℕ :=
  if signature = "swapExactTokensForTokens(uint256,uint256,address[],address,uint256)" then
    0x38ed1739 * 2 ^ 224
  else if signature =
      "addLiquidity(address,address,uint256,uint256,uint256,uint256,address,uint256)" then
    0xe8e33700 * 2 ^ 224
  else if signature =
      "removeLiquidity(address,address,uint256,uint256,uint256,address,uint256)" then
    0xbaa2abde * 2 ^ 224
  else if signature = "stake(uint256)" then 0xa694fc3a * 2 ^ 224
  else if signature = "getReward()" then 0x3d18b912 * 2 ^ 224
  else 0

/-- The pool at `30` with other reserves of the tokens `11` and `12`, and another supply. -/
def farmPool (w : World) (reserveOne reserveTwo supply : ℕ) : World :=
  ((w.setTokenLedger 30 { w.tokens 30 with totalSupply := supply }).store 30 0 reserveOne).store
    30 1 reserveTwo

/-- A swap, which gives as much as it takes. -/
def farmSwap (w : World) (account sellToken buyToken : Address) (amountIn amountOutMin : ℕ) :
    Except Revert World := do
  require (amountOutMin ≤ amountIn) "UniswapV2Router: INSUFFICIENT_OUTPUT_AMOUNT"
  let w ← w.lose sellToken account amountIn
  return w.gain buyToken account amountIn

/-- A liquidity token for one token of each kind. -/
def farmAdd (w : World) (account : Address) (quantityOne quantityTwo : ℕ) :
    Except Revert World := do
  let n := min quantityOne quantityTwo
  let w ← w.lose 11 account n
  let w ← w.lose 12 account n
  return farmPool (w.gain 30 account n) (w.storage 30 0 + n) (w.storage 30 1 + n)
    (w.totalSupply 30 + n)

/-- The share of the reserves for liquidity tokens. -/
def farmRemove (w : World) (account : Address) (quantity : ℕ) : Except Revert World := do
  let one := w.storage 30 0 * quantity / w.totalSupply 30
  let two := w.storage 30 1 * quantity / w.totalSupply 30
  let w ← w.lose 30 account quantity
  return farmPool ((w.gain 11 account one).gain 12 account two) (w.storage 30 0 - one)
    (w.storage 30 1 - two) (w.totalSupply 30 - quantity)

/-- The router. -/
def farmRouter (w : World) (account : Address) (data : Bytes) : Except Revert World :=
  match decodeCall farmHash
      "swapExactTokensForTokens(uint256,uint256,address[],address,uint256)" swapLayout data with
  | some (amountIn, amountOutMin, [sellToken, buyToken], _) =>
    farmSwap w account sellToken buyToken amountIn amountOutMin
  | some _ => .error "UniswapV2Library: INVALID_PATH"
  | none =>
    match decodeCall farmHash
        "addLiquidity(address,address,uint256,uint256,uint256,uint256,address,uint256)"
        addLiquidityLayout data with
    | some (_, _, quantityOne, quantityTwo, _) => farmAdd w account quantityOne quantityTwo
    | none =>
      match decodeCall farmHash
          "removeLiquidity(address,address,uint256,uint256,uint256,address,uint256)"
          removeLiquidityLayout data with
      | some (_, _, quantity, _) => farmRemove w account quantity
      | none => .error ""

/-- A rewarder, which gives forty tokens `13` whenever it is asked. -/
def farmRewarder (w : World) (account : Address) (data : Bytes) : Except Revert World :=
  match decodeCall farmHash "stake(uint256)" stakeLayout data with
  | some (n, _) => do
    let w ← w.lose 30 account n
    return w.store 70 account.toNat (w.storage 70 account.toNat + n)
  | none =>
    match decodeCall farmHash "getReward()" .nil data with
    | some _ => .ok (w.gain 13 account 40)
    | none => .error ""

/-- The router is at `90` and the rewarder at `70`. The token `12` costs as much as the token `11`,
which the oracle at `21` knows. -/
def farm : YieldEnv where
  keccak256 := farmHash
  call call w :=
    if call.target = 90 then
      match call.data with
      | .bytes data => do
        let w ← farmRouter w call.caller data
        return (w, [])
      | _ => .error ""
    else if call.target = 70 then
      match call.data with
      | .bytes data => do
        let w ← farmRewarder w call.caller data
        return (w, [])
      | .withdraw n => do
        require (n ≤ w.storage 70 call.caller.toNat) "SafeMath: subtraction overflow"
        return ((w.store 70 call.caller.toNat (w.storage 70 call.caller.toNat - n)).gain 30
          call.caller n, [])
      | _ => .error ""
    else .error ""
  priceOracles _ := { oracles := fun a b => if a = 11 ∧ b = 12 then 21 else zeroAddress }
  readings := { read := fun _ => .ok (10 ^ 18) }
  getReserves pair w := .ok (w.storage pair 0, w.storage pair 1)
  stakedBalance rewarder account w := w.storage rewarder account.toNat

/-- The strategy of the Set at `100`. A tenth is kept as a reserve, trades may lose a hundredth, and
a hundredth of rewards and redemptions is a fee. -/
def farmStrategy : UniswapYieldStrategy where
  uniswapRouter := 90
  lpToken := 30
  assetOne := 11
  assetTwo := 12
  uni := 13
  feeRecipient := 60
  rewarder := 70
  setToken := 100
  reservePercentage := 10 ^ 17
  slippageTolerance := 10 ^ 16
  rewardFee := 10 ^ 16
  withdrawalFee := 10 ^ 16
  assetOneBaseUnit := 10 ^ 6
  assetTwoBaseUnit := 10 ^ 6
  lpTokenBaseUnit := 10 ^ 18

/-- One token of the Set at `100`, with some of each asset, of which half of the pool is staked. The
strategy is at `7`. -/
def farmWorld (one two : ℕ) : World where
  controller := { isSet := fun a => a = 100, isModule := fun a => a = 7 }
  tokens := fun a =>
    if a = 11 then { balances := fun b => if b = 100 then one else 0 }
    else if a = 12 then { balances := fun b => if b = 100 then two else 0 }
    else if a = 30 then { totalSupply := 10 ^ 9 }
    else if a = 100 then
      { totalSupply := 10 ^ 18, balances := fun b => if b = 51 then 10 ^ 18 else 0 }
    else {}
  setTokens := fun _ =>
    { manager := 50
      modules := [7]
      moduleStates := fun _ => .initialized
      components := [11, 12, 30]
      componentPositions := fun c =>
        if c = 11 then { virtualUnit := one }
        else if c = 12 then { virtualUnit := two }
        else if c = 30 then
          { externalPositionModules := [7]
            externalPositions := fun _ => { virtualUnit := 5 * 10 ^ 8 } }
        else {} }
  storage := fun a key =>
    if a = 30 ∧ key ≤ 1 then 10 ^ 9 else if a = 70 ∧ key = 100 then 5 * 10 ^ 8 else 0

section Farm

private theorem flow_farmPool (w : World) (reserveOne reserveTwo supply : ℕ) :
    Flow 100 w (farmPool w reserveOne reserveTwo supply) (fun _ => 0) fun _ => 0 := by
  refine ⟨rfl, ?_, fun c => ?_⟩
  · simp [farmPool, World.totalSupply, World.setTokenLedger, World.store]
  · by_cases hc : c = 30
    · subst hc
      simp [farmPool, World.setTokenLedger, World.store]
    · change (w.tokens c).balances 100 ≤ (Function.update w.tokens 30 _ c).balances 100
      rw [Function.update_of_ne hc]

private theorem flow_exchange {w₁ : World} {sell : Address} {n : ℕ} (buy : Address) (m : ℕ)
    (h : w.lose sell 100 n = .ok w₁) :
    Flow 100 w (w₁.gain buy 100 m) (only buy m) (only sell n) := by
  refine ((World.flow_of_lose h).trans (World.flow_gain 100 w₁ buy m)).mono (fun c => ?_)
    fun c => ?_
  · exact Nat.le_add_left _ _
  · simp [only]

private theorem flow_of_farmSwap {sell buy : Address} {n m : ℕ}
    (h : farmSwap w 100 sell buy n m = .ok w') : Flow 100 w w' (only buy m) (only sell n) := by
  simp only [farmSwap, bind_eq_ok, require_eq_ok, pure_eq_ok] at h
  obtain ⟨-, hle, w₁, hlose, rfl⟩ := h
  refine (flow_exchange buy n hlose).mono (fun c => ?_) fun c => Nat.le_refl _
  unfold only
  split_ifs
  · exact hle
  · exact Nat.le_refl 0

private theorem flow_of_farmAdd {one two : ℕ} (h : farmAdd w 100 one two = .ok w') :
    Flow 100 w w' (fun _ => 0) fun c => only 11 one c + only 12 two c := by
  simp only [farmAdd, bind_eq_ok, pure_eq_ok] at h
  obtain ⟨w₁, hone, w₂, htwo, rfl⟩ := h
  have hpaid := (World.flow_of_lose hone).trans (flow_exchange 30 (min one two) htwo)
  refine (hpaid.trans (flow_farmPool _ _ _ _)).mono (fun c => Nat.zero_le _) fun c => ?_
  simp only [only]
  split_ifs <;> omega

private theorem flow_of_farmRemove {quantity : ℕ} (h : farmRemove w 100 quantity = .ok w') :
    Flow 100 w w' (fun c => only 11 (w.storage 30 0 * quantity / w.totalSupply 30) c +
      only 12 (w.storage 30 1 * quantity / w.totalSupply 30) c) (only 30 quantity) := by
  simp only [farmRemove, bind_eq_ok, pure_eq_ok] at h
  obtain ⟨w₁, hlose, rfl⟩ := h
  have hpaid := (flow_exchange 11 (w.storage 30 0 * quantity / w.totalSupply 30) hlose).trans
    (World.flow_gain 100 _ 12 (w.storage 30 1 * quantity / w.totalSupply 30))
  refine (hpaid.trans (flow_farmPool _ _ _ _)).mono (fun c => Nat.le_refl _) fun c => ?_
  simp [only]

/-- What the router does for the Set leaves the positions and the supply alone. -/
private theorem sameSet_of_farmRouter {data : Bytes} (h : farmRouter w 100 data = .ok w') :
    farmStrategy.SameSet w w' := by
  unfold farmRouter at h
  split at h
  next => exact sameSet_of_flow (u := farmStrategy) (flow_of_farmSwap h)
  next => cases h
  next =>
    split at h
    next => exact sameSet_of_flow (u := farmStrategy) (flow_of_farmAdd h)
    next =>
      split at h
      next => exact sameSet_of_flow (u := farmStrategy) (flow_of_farmRemove h)
      next => cases h

private theorem farmRouter_of_execute {data : Bytes} {words : List ℕ}
    (h : World.execute farm.toEnv w ⟨100, 90, 0, .bytes data⟩ = .ok (w', words)) :
    farmRouter w 100 data = .ok w' := by
  simp only [World.execute, farm, if_true, bind_eq_ok, pure_eq_ok, Prod.mk.injEq] at h
  obtain ⟨w₁, hrouter, rfl, -⟩ := h
  exact hrouter

private theorem farmRewarder_of_execute {data : Bytes} {words : List ℕ}
    (h : World.execute farm.toEnv w ⟨100, 70, 0, .bytes data⟩ = .ok (w', words)) :
    farmRewarder w 100 data = .ok w' := by
  simp only [World.execute, farm] at h
  rw [if_neg (by decide), if_pos trivial] at h
  simp only [bind_eq_ok, pure_eq_ok, Prod.mk.injEq] at h
  obtain ⟨w₁, hrewarder, rfl, -⟩ := h
  exact hrewarder

private theorem flow_store (w : World) (target : Address) (key word : ℕ) :
    Flow 100 w (w.store target key word) (fun _ => 0) fun _ => 0 :=
  ⟨rfl, rfl, fun _ => Nat.le_refl _⟩

/-- The functions of the router are told apart. -/
private theorem addLiquidity_ne_swap : functionSelector farmHash
      "addLiquidity(address,address,uint256,uint256,uint256,uint256,address,uint256)" ≠
    functionSelector farmHash
      "swapExactTokensForTokens(uint256,uint256,address[],address,uint256)" := by
  decide +kernel

private theorem removeLiquidity_ne_swap : functionSelector farmHash
      "removeLiquidity(address,address,uint256,uint256,uint256,address,uint256)" ≠
    functionSelector farmHash
      "swapExactTokensForTokens(uint256,uint256,address[],address,uint256)" := by
  decide +kernel

private theorem removeLiquidity_ne_addLiquidity : functionSelector farmHash
      "removeLiquidity(address,address,uint256,uint256,uint256,address,uint256)" ≠
    functionSelector farmHash
      "addLiquidity(address,address,uint256,uint256,uint256,uint256,address,uint256)" := by
  decide +kernel

private theorem farmRouter_swap {sell buy : Address} {n m deadline : ℕ} (hn : InUint256 n)
    (hm : InUint256 m) (hd : InUint256 deadline) :
    farmRouter w 100 (farmStrategy.swapCalldata farm sell buy n m deadline) =
      farmSwap w 100 sell buy n m := by
  have hpath : (Abi.array addressCodec).Valid [sell, buy] := valid_path (by
    change 2 ≤ Abi.maxLength
    decide)
  have hvalid : (Abi.tuple swapLayout).Valid (n, m, [sell, buy], 100, deadline, ()) :=
    ⟨valid_uint256 hn, valid_uint256 hm, hpath, by decide, valid_address _, valid_uint256 hd,
      trivial⟩
  have hswap : decodeCall farmHash
      "swapExactTokensForTokens(uint256,uint256,address[],address,uint256)" swapLayout
      (farmStrategy.swapCalldata farm sell buy n m deadline) =
        some (n, m, [sell, buy], 100, deadline, ()) := decodeCall_encodeWithSignature hvalid
  simp only [farmRouter, hswap]

private theorem farmRouter_addLiquidity {one two deadline : ℕ} (hone : InUint256 one)
    (htwo : InUint256 two) (hd : InUint256 deadline) :
    farmRouter w 100 (farmStrategy.addLiquidityCalldata farm one two deadline) =
      farmAdd w 100 one two := by
  have hleast : uint256Codec.Valid 1 := valid_uint256 (by decide)
  have hvalid : (Abi.tuple addLiquidityLayout).Valid
      (11, 12, one, two, 1, 1, 100, deadline, ()) :=
    ⟨valid_address _, valid_address _, valid_uint256 hone, valid_uint256 htwo, hleast, hleast,
      valid_address _, valid_uint256 hd, trivial⟩
  have hswap : decodeCall farmHash
      "swapExactTokensForTokens(uint256,uint256,address[],address,uint256)" swapLayout
      (farmStrategy.addLiquidityCalldata farm one two deadline) = none :=
    decodeCall_of_ne addLiquidity_ne_swap
  have hadd : decodeCall farmHash
      "addLiquidity(address,address,uint256,uint256,uint256,uint256,address,uint256)"
      addLiquidityLayout (farmStrategy.addLiquidityCalldata farm one two deadline) =
        some (11, 12, one, two, 1, 1, 100, deadline, ()) := decodeCall_encodeWithSignature hvalid
  simp only [farmRouter, hswap, hadd]

private theorem farmRouter_removeLiquidity {n deadline : ℕ} (hn : InUint256 n)
    (hd : InUint256 deadline) :
    farmRouter w 100 (farmStrategy.removeLiquidityCalldata farm n deadline) =
      farmRemove w 100 n := by
  have hleast : uint256Codec.Valid 1 := valid_uint256 (by decide)
  have hvalid : (Abi.tuple removeLiquidityLayout).Valid (11, 12, n, 1, 1, 100, deadline, ()) :=
    ⟨valid_address _, valid_address _, valid_uint256 hn, hleast, hleast, valid_address _,
      valid_uint256 hd, trivial⟩
  have hswap : decodeCall farmHash
      "swapExactTokensForTokens(uint256,uint256,address[],address,uint256)" swapLayout
      (farmStrategy.removeLiquidityCalldata farm n deadline) = none :=
    decodeCall_of_ne removeLiquidity_ne_swap
  have hadd : decodeCall farmHash
      "addLiquidity(address,address,uint256,uint256,uint256,uint256,address,uint256)"
      addLiquidityLayout (farmStrategy.removeLiquidityCalldata farm n deadline) = none :=
    decodeCall_of_ne removeLiquidity_ne_addLiquidity
  have hremove : decodeCall farmHash
      "removeLiquidity(address,address,uint256,uint256,uint256,address,uint256)"
      removeLiquidityLayout (farmStrategy.removeLiquidityCalldata farm n deadline) =
        some (11, 12, n, 1, 1, 100, deadline, ()) := decodeCall_encodeWithSignature hvalid
  simp only [farmRouter, hswap, hadd, hremove]

/-- What the rewarder does for the Set takes liquidity tokens only. -/
private theorem flow_of_farmRewarder {data : Bytes} (h : farmRewarder w 100 data = .ok w') :
    ∃ taken, Flow 100 w w' (fun _ => 0) (only 30 taken) := by
  unfold farmRewarder at h
  split at h
  next n _ _ =>
    simp only [bind_eq_ok, pure_eq_ok] at h
    obtain ⟨w₁, hlose, rfl⟩ := h
    refine ⟨n, ((World.flow_of_lose hlose).trans (flow_store _ _ _ _)).mono
      (fun c => Nat.zero_le _) fun c => Nat.le_refl _⟩
  next =>
    split at h
    next =>
      obtain rfl := Except.ok.inj h
      refine ⟨0, (World.flow_gain 100 w 13 40).mono (fun c => Nat.zero_le _) fun c => ?_⟩
      simp [only]
    next => cases h

/-- The farm can be relied on. -/
theorem reliable_farm : farmStrategy.Reliable farm where
  storage w w' h := by
    constructor
    · change w'.storage 70 _ = w.storage 70 _
      rw [h]
    · change Except.ok (w'.storage 30 0, w'.storage 30 1) = Except.ok _
      rw [h]
      rfl
  router data w w' words h := sameSet_of_farmRouter (farmRouter_of_execute h)
  rewarder data w w' words h := by
    obtain ⟨taken, hflow⟩ := flow_of_farmRewarder (farmRewarder_of_execute h)
    exact sameSet_of_flow (u := farmStrategy) hflow
  swap sell buy n m deadline hn hm hd w w' words h := by
    have hrouter := farmRouter_of_execute h
    rw [farmRouter_swap hn hm hd] at hrouter
    exact flow_of_farmSwap hrouter
  addLiquidity one two deadline hone htwo hd w w' words h := by
    have hrouter := farmRouter_of_execute h
    rw [farmRouter_addLiquidity hone htwo hd] at hrouter
    exact flow_of_farmAdd hrouter
  removeLiquidity n deadline hn hd w w' words h reserveOne reserveTwo hreserves := by
    have hrouter := farmRouter_of_execute h
    rw [farmRouter_removeLiquidity hn hd] at hrouter
    have hpool : Except.ok (w.storage 30 0, w.storage 30 1) =
      (Except.ok (reserveOne, reserveTwo) : Except Revert (ℕ × ℕ)) := hreserves
    obtain ⟨rfl, rfl⟩ := Prod.mk.inj (Except.ok.inj hpool)
    exact flow_of_farmRemove hrouter
  stake quantity w w' words h := flow_of_farmRewarder (farmRewarder_of_execute h)
  withdraw quantity w w' words h := by
    simp only [World.execute, farm, farmStrategy] at h
    rw [if_neg (by decide), if_pos trivial] at h
    simp only [bind_eq_ok, require_eq_ok, pure_eq_ok, Prod.mk.injEq] at h
    obtain ⟨-, hle, rfl, -⟩ := h
    refine ⟨((flow_store w 70 _ _).trans (World.flow_gain 100 _ 30 quantity)).mono
      (fun c => Nat.le_add_left _ _) (fun c => ?_), ?_, ?_, ?_⟩
    · simp [only]
    · change (w.store 70 (100 : Address).toNat _).storage 70 (100 : Address).toNat + quantity =
        w.storage 70 (100 : Address).toNat
      simp only [World.store, Function.update_self]
      exact Nat.sub_add_cancel hle
    · have hne : (30 : Address) ≠ 70 := by decide
      have hsame : ∀ n, (w.store 70 (100 : Address).toNat
          (w.storage 70 (100 : Address).toNat - quantity)).storage 30 n = w.storage 30 n := by
        intro n
        simp only [World.store, Function.update_of_ne hne]
      exact congrArg Except.ok (Prod.ext (hsame 0) (hsame 1))
    · simp [World.totalSupply, World.gain, World.setTokenLedger, World.store, farmStrategy]

/-- Its tokens are three. -/
theorem separate_farmStrategy : farmStrategy.Separate := ⟨by decide, by decide, by decide⟩

end Farm

end UniswapYieldStrategy

end SetProtocol
