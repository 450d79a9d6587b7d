import SetProtocol.Modules.AirdropModule
import SetProtocol.Modules.AmmModule
import SetProtocol.Modules.ClaimModule
import SetProtocol.Modules.GovernanceModule
import SetProtocol.Modules.SingleIndexModule
import SetProtocol.Modules.TradeModule
import SetProtocol.Modules.WrapModule
import SetProtocol.Solvency.Accounts

set_option relaxedAutoImplicit false
set_option autoImplicit false

/-!
# The operations of a manager as steps

Trades, wrapping, liquidity, airdrops and the trades of an index let tokens leave the Set by a call
to a contract outside the protocol, and then edit the positions of these tokens by what is there.
Claims and governance make a call and edit nothing. Under adapters that name calls for the tokens of
the operation only, all of them are steps of the fund without a cost.

## Main definitions

* `SetProtocol.Solvency.Adapters` — the calls that adapters name take only the tokens of the
  operation.

## Main results

* `SetProtocol.Solvency.accounted_trade`, `accounted_wrap`, `accounted_addLiquidityBy`,
  `accounted_absorb`, `accounted_indexTrade` and so on — the operations.
-/

namespace SetProtocol

open Checked

namespace Solvency

variable {self setToken weth msgSender token : Address} {env : Env}
  {governance : GovernanceAdapters} {w w₁ w₂ w' : World} {l : List Address}

/-! ## Adapters -/

/-- The calls that an adapter names take only the given tokens. -/
def DrawsBy (env : Env) (setToken : Address) (tokens : List Address)
    (getCalldata : World → Except Revert (Address × ℕ × CallData)) : Prop :=
  ∀ w target value data, getCalldata w = .ok (target, value, data) →
    Draws env setToken tokens target value data

/-- The calls that adapters name, and those to wrapped Ether and to the exchanges of an index, take
from the Set only the tokens of the operation. -/
structure Adapters (env : Env) (governance : GovernanceAdapters) (setToken weth : Address) :
    Prop where
  /-- Exchanges take the tokens of the trade. -/
  trade : ∀ adapter sendToken receiveToken quantity minReceive data,
    DrawsBy env setToken [sendToken, receiveToken]
      (env.getTradeCalldata adapter sendToken receiveToken setToken quantity minReceive data)
  /-- Wrapping takes the underlying and the wrapped token. -/
  wrap : ∀ adapter underlying wrapped units,
    DrawsBy env setToken [underlying, wrapped]
      (env.getWrapCallData adapter underlying wrapped units)
  /-- Unwrapping does. -/
  unwrap : ∀ adapter underlying wrapped units,
    DrawsBy env setToken [underlying, wrapped]
      (env.getUnwrapCallData adapter underlying wrapped units)
  /-- The underlying of Ether is wrapped Ether. -/
  wrapEther : ∀ adapter ether wrapped units w, env.ethTokenAddress adapter w = .ok ether →
    DrawsBy env setToken [weth, wrapped] (env.getWrapCallData adapter ether wrapped units)
  /-- And so it is in unwrapping. -/
  unwrapEther : ∀ adapter ether wrapped units w, env.ethTokenAddress adapter w = .ok ether →
    DrawsBy env setToken [weth, wrapped] (env.getUnwrapCallData adapter ether wrapped units)
  /-- Ether is unwrapped and wrapped without taking other tokens. -/
  withdraw : ∀ quantity, Draws env setToken [weth] weth 0 (.withdraw quantity)
  /-- Ether is wrapped. -/
  deposit : ∀ quantity, Draws env setToken [weth] weth quantity .deposit
  /-- A pool takes its token and the components. -/
  provide : ∀ adapter pool components maxTokensIn minLiquidity,
    DrawsBy env setToken (pool :: components)
      (env.getProvideLiquidityCalldata adapter pool components maxTokensIn minLiquidity)
  /-- A pool takes its token and the component. -/
  provideSingle : ∀ adapter pool component maxTokenIn minLiquidity,
    DrawsBy env setToken [pool, component]
      (env.getProvideLiquiditySingleAssetCalldata adapter pool component maxTokenIn minLiquidity)
  /-- A pool takes its token and the components. -/
  remove : ∀ adapter pool components minTokensOut liquidity,
    DrawsBy env setToken (pool :: components)
      (env.getRemoveLiquidityCalldata adapter pool components minTokensOut liquidity)
  /-- A pool takes its token and the component. -/
  removeSingle : ∀ adapter pool component minTokenOut liquidity,
    DrawsBy env setToken [pool, component]
      (env.getRemoveLiquiditySingleAssetCalldata adapter pool component minTokenOut liquidity)
  /-- Claims take nothing. -/
  claim : ∀ adapter rewardPool,
    DrawsBy env setToken [] (env.getClaimCallData adapter setToken rewardPool)
  /-- Exchanges of an index take the tokens of the path. -/
  swap : ∀ target functionSignature amount limit sell buy deadline,
    Draws env setToken [sell, buy] target 0
      (.swap functionSignature amount limit [sell, buy] setToken deadline)
  /-- The proxy of Balancer does. -/
  smartSwap : ∀ target functionSignature sell buy amount limit poolLimit,
    Draws env setToken [sell, buy] target 0
      (.smartSwap functionSignature sell buy amount limit poolLimit)
  /-- Calls leave the storage of the index alone. -/
  index : ∀ call w w' words, env.call call w = .ok (w', words) → w'.singleIndex = w.singleIndex
  /-- Governance takes nothing. -/
  delegate : ∀ adapter delegatee,
    DrawsBy env setToken [] (governance.getDelegateCalldata adapter delegatee)
  /-- Proposals take nothing. -/
  propose : ∀ adapter proposalData,
    DrawsBy env setToken [] (governance.getProposeCalldata adapter proposalData)
  /-- Registrations take nothing. -/
  register : ∀ adapter, DrawsBy env setToken [] (governance.getRegisterCalldata adapter setToken)
  /-- Revocations take nothing. -/
  revoke : ∀ adapter, DrawsBy env setToken [] (governance.getRevokeCalldata adapter)
  /-- Votes take nothing. -/
  vote : ∀ adapter proposalId support data,
    DrawsBy env setToken [] (governance.getVoteCalldata adapter proposalId support data)

/-! ## Fees and positions -/

/-- A fee to the protocol takes one token. -/
theorem TakesOnly.of_payProtocolFee {feeQuantity : ℕ}
    (h : ModuleBase.payProtocolFeeFromSetToken self env w setToken token feeQuantity = .ok w₁) :
    TakesOnly setToken [token] w w₁ := by
  unfold ModuleBase.payProtocolFeeFromSetToken at h
  split_ifs at h
  · exact .of_flow (Flow.of_strictInvokeTransfer h)
  · obtain rfl := Except.ok.inj h
    exact .refl setToken [token] w

/-- What takes only some tokens leaves a Set sound. -/
theorem TakesOnly.sound (h : TakesOnly setToken l w w₁) (hs : Sound (w.setTokens setToken)) :
    Sound (w₁.setTokens setToken) := by
  rw [h.positions]
  exact hs

/-- Two edits in a row by balances mark both tokens. -/
theorem marked_of_two_edits {a b : Address} {supply preA preB : ℕ} {r r' : World × ℕ × ℕ × ℕ}
    (hs : Sound (w.setTokens setToken)) (hsupply : w.totalSupply setToken = supply)
    (ha : Position.calculateAndEditDefaultPosition self w setToken a supply preA = .ok r)
    (hb : Position.calculateAndEditDefaultPosition self r.1 setToken b supply preB = .ok r') :
    Marked setToken [a, b] w r'.1 := by
  have hfirst := marked_of_calculateAndEdit hs hsupply ha
  have hsame : r.1.totalSupply setToken = supply := by
    rw [← hsupply, World.totalSupply, World.totalSupply, hfirst.ledgers]
  exact hfirst.append (marked_of_calculateAndEdit hfirst.sound hsame hb)

/-! ## Trades -/

/-- `TradeModule.trade`. -/
theorem accounted_trade (adapters : Adapters env governance setToken weth)
    (hs : Sound (w.setTokens setToken)) {exchangeName : String}
    {sendToken receiveToken : Address} {sendQuantity minReceiveQuantity : ℕ} {data : Bytes}
    (h : TradeModule.trade self env w msgSender setToken exchangeName sendToken sendQuantity
      receiveToken minReceiveQuantity data = .ok w') : Accounted setToken 0 w w' := by
  simp only [TradeModule.trade, TradeModule.createTradeInfo, bind_eq_ok, pure_eq_ok] at h
  obtain ⟨-, -, _, ⟨adapter, -, sold, -, received, -, rfl⟩, -, -, w₃, htrade, exchanged, -, w₄,
    hfee, ⟨w₅, sent⟩, hupdate, rfl⟩ := h
  simp only [TradeModule.executeTrade, bind_eq_ok, pure_eq_ok] at htrade
  obtain ⟨spender, -, w₁, happrove, ⟨target, value, callData⟩, hdata, ⟨w₂, words⟩, hinvoke,
    rfl⟩ := htrade
  simp only [TradeModule.accrueProtocolFee, bind_eq_ok] at hfee
  obtain ⟨fee, -, hpay⟩ := hfee
  have htakes : TakesOnly setToken [sendToken, receiveToken] w w₄ := by
    have hcall : TakesOnly setToken [sendToken, receiveToken] w₁ w₂ :=
      .of_invoke (adapters.trade _ _ _ _ _ _ _ _ _ _ hdata) hinvoke
    have hpaid : TakesOnly setToken [receiveToken] w₂ w₄ := .of_payProtocolFee hpay
    exact ((TakesOnly.of_invokeApprove happrove).trans hcall).trans (hpaid.mono (by simp))
  simp only [TradeModule.updateSetTokenPositions, bind_eq_ok, pure_eq_ok] at hupdate
  obtain ⟨⟨w₆, _⟩, hsend, ⟨w₇, _⟩, hreceive, _, -, _, -, hlast⟩ := hupdate
  obtain ⟨rfl, -⟩ := Prod.mk.inj hlast
  exact accounted_of_marked htakes
    (marked_of_two_edits (htakes.sound hs) htakes.supply hsend hreceive) (List.Subset.refl _)

/-! ## Wrapping -/

/-- `_updatePosition` marks the token, when it is given the balance. -/
theorem marked_of_updatePosition {pre : ℕ} (hs : Sound (w.setTokens setToken))
    (h : WrapModule.updatePosition self w setToken token pre
      ((w.tokens token).balances setToken) = .ok w₁) : Marked setToken [token] w w₁ := by
  simp only [WrapModule.updatePosition, bind_eq_ok, SafeCast.toUint256_eq_ok] at h
  obtain ⟨_, -, old, rfl, n, hn, hedit⟩ := h
  exact marked_of_edit hs (covered_of_calculateDefaultEditPositionUnit hn) hedit

/-- Two updates in a row mark both tokens. -/
theorem marked_of_two_updates {a b : Address} {preA preB : ℕ} (hs : Sound (w.setTokens setToken))
    (ha : WrapModule.updatePosition self w setToken a preA
      ((w.tokens a).balances setToken) = .ok w₁)
    (hb : WrapModule.updatePosition self w₁ setToken b preB
      ((w.tokens b).balances setToken) = .ok w₂) : Marked setToken [a, b] w w₂ := by
  have hfirst := marked_of_updatePosition hs ha
  rw [← hfirst.ledgers] at hb
  exact hfirst.append (marked_of_updatePosition hfirst.sound hb)

/-- The Set makes the call that an adapter names. -/
theorem takesOnly_of_createDataAndInvoke
    {getCallData : World → Except Revert (Address × ℕ × CallData)}
    (hdraws : DrawsBy env setToken l getCallData)
    (h : WrapModule.createDataAndInvoke self env w setToken getCallData = .ok w₁) :
    TakesOnly setToken l w w₁ := by
  simp only [WrapModule.createDataAndInvoke, bind_eq_ok, pure_eq_ok] at h
  obtain ⟨⟨target, value, data⟩, hdata, ⟨w₂, words⟩, hinvoke, rfl⟩ := h
  exact .of_invoke (hdraws _ _ _ _ hdata) hinvoke

/-- `_validateWrapAndUpdate`, where Ether is underlying only as wrapped Ether. -/
theorem accounted_validateWrapAndUpdate (adapters : Adapters env governance setToken weth)
    (hs : Sound (w.setTokens setToken)) {integrationName : String}
    {underlyingToken wrappedToken : Address} {underlyingUnits : ℕ} {usesEther : Bool}
    {r : World × ℕ × ℕ} (hether : usesEther = true → underlyingToken = weth)
    (h : WrapModule.validateWrapAndUpdate self weth env w integrationName setToken underlyingToken
      wrappedToken underlyingUnits usesEther = .ok r) : Accounted setToken 0 w r.1 := by
  simp only [WrapModule.validateWrapAndUpdate, WrapModule.snapshotTargetAssetsBalance, bind_eq_ok,
    pure_eq_ok] at h
  obtain ⟨-, -, notional, -, adapter, -, w₁, hbefore, ether, hadapterToken, w₂, hcall, w₃,
    hunderlying, w₄, hwrapped, _, -, _, -, rfl⟩ := h
  have htakes : TakesOnly setToken [underlyingToken, wrappedToken] w w₂ := by
    cases usesEther with
    | true =>
      obtain rfl := hether rfl
      simp only [if_true, Invoke.invokeUnwrapWETH, bind_eq_ok, pure_eq_ok] at hbefore hadapterToken
      obtain ⟨⟨_, words⟩, hinvoke, rfl⟩ := hbefore
      have hwithdraw := TakesOnly.of_invoke (adapters.withdraw notional) hinvoke
      exact (hwithdraw.mono (by simp)).trans
        (takesOnly_of_createDataAndInvoke (adapters.wrapEther _ _ _ _ _ hadapterToken) hcall)
    | false =>
      simp only [Bool.false_eq_true, if_false, bind_eq_ok, Except.ok.injEq] at hbefore hadapterToken
      obtain ⟨spender, -, happrove⟩ := hbefore
      subst hadapterToken
      exact (TakesOnly.of_invokeApprove happrove).trans
        (takesOnly_of_createDataAndInvoke (adapters.wrap _ _ _ _) hcall)
  exact accounted_of_marked htakes
    (marked_of_two_updates (htakes.sound hs) hunderlying hwrapped) (List.Subset.refl _)

/-- `_validateUnwrapAndUpdate`. -/
theorem accounted_validateUnwrapAndUpdate (adapters : Adapters env governance setToken weth)
    (hs : Sound (w.setTokens setToken)) {integrationName : String}
    {underlyingToken wrappedToken : Address} {wrappedUnits : ℕ} {usesEther : Bool}
    {r : World × ℕ × ℕ} (hether : usesEther = true → underlyingToken = weth)
    (h : WrapModule.validateUnwrapAndUpdate self weth env w integrationName setToken
      underlyingToken wrappedToken wrappedUnits usesEther = .ok r) :
    Accounted setToken 0 w r.1 := by
  simp only [WrapModule.validateUnwrapAndUpdate, WrapModule.snapshotTargetAssetsBalance, bind_eq_ok,
    pure_eq_ok] at h
  obtain ⟨-, -, notional, -, adapter, -, ether, hadapterToken, w₁, hcall, w₂, hafter, w₃,
    hunderlying, w₄, hwrapped, _, -, _, -, rfl⟩ := h
  have htakes : TakesOnly setToken [underlyingToken, wrappedToken] w w₂ := by
    cases usesEther with
    | true =>
      obtain rfl := hether rfl
      simp only [if_true, Invoke.invokeWrapWETH, bind_eq_ok, pure_eq_ok] at hafter hadapterToken
      obtain ⟨⟨_, words⟩, hinvoke, rfl⟩ := hafter
      have hdeposit := TakesOnly.of_invoke (adapters.deposit _) hinvoke
      exact (takesOnly_of_createDataAndInvoke (adapters.unwrapEther _ _ _ _ _ hadapterToken)
        hcall).trans (hdeposit.mono (by simp))
    | false =>
      simp only [Bool.false_eq_true, if_false, Except.ok.injEq] at hafter hadapterToken
      subst hadapterToken hafter
      exact takesOnly_of_createDataAndInvoke (adapters.unwrap _ _ _ _) hcall
  exact accounted_of_marked htakes
    (marked_of_two_updates (htakes.sound hs) hunderlying hwrapped) (List.Subset.refl _)

/-- `WrapModule.wrap`. -/
theorem accounted_wrap (adapters : Adapters env governance setToken weth)
    (hs : Sound (w.setTokens setToken)) {underlyingToken wrappedToken : Address}
    {underlyingUnits : ℕ} {integrationName : String}
    (h : WrapModule.wrap self weth env w msgSender setToken underlyingToken wrappedToken
      underlyingUnits integrationName = .ok w') : Accounted setToken 0 w w' := by
  simp only [WrapModule.wrap, bind_eq_ok, pure_eq_ok] at h
  obtain ⟨-, -, r, hr, rfl⟩ := h
  exact accounted_validateWrapAndUpdate adapters hs (fun he => absurd he Bool.false_ne_true) hr

/-- `WrapModule.wrapWithEther`. -/
theorem accounted_wrapWithEther (adapters : Adapters env governance setToken weth)
    (hs : Sound (w.setTokens setToken)) {wrappedToken : Address} {underlyingUnits : ℕ}
    {integrationName : String}
    (h : WrapModule.wrapWithEther self weth env w msgSender setToken wrappedToken underlyingUnits
      integrationName = .ok w') : Accounted setToken 0 w w' := by
  simp only [WrapModule.wrapWithEther, bind_eq_ok, pure_eq_ok] at h
  obtain ⟨-, -, r, hr, rfl⟩ := h
  exact accounted_validateWrapAndUpdate adapters hs (fun _ => rfl) hr

/-- `WrapModule.unwrap`. -/
theorem accounted_unwrap (adapters : Adapters env governance setToken weth)
    (hs : Sound (w.setTokens setToken)) {underlyingToken wrappedToken : Address}
    {wrappedUnits : ℕ} {integrationName : String}
    (h : WrapModule.unwrap self weth env w msgSender setToken underlyingToken wrappedToken
      wrappedUnits integrationName = .ok w') : Accounted setToken 0 w w' := by
  simp only [WrapModule.unwrap, bind_eq_ok, pure_eq_ok] at h
  obtain ⟨-, -, r, hr, rfl⟩ := h
  exact accounted_validateUnwrapAndUpdate adapters hs (fun he => absurd he Bool.false_ne_true) hr

/-- `WrapModule.unwrapWithEther`. -/
theorem accounted_unwrapWithEther (adapters : Adapters env governance setToken weth)
    (hs : Sound (w.setTokens setToken)) {wrappedToken : Address} {wrappedUnits : ℕ}
    {integrationName : String}
    (h : WrapModule.unwrapWithEther self weth env w msgSender setToken wrappedToken wrappedUnits
      integrationName = .ok w') : Accounted setToken 0 w w' := by
  simp only [WrapModule.unwrapWithEther, bind_eq_ok, pure_eq_ok] at h
  obtain ⟨-, -, r, hr, rfl⟩ := h
  exact accounted_validateUnwrapAndUpdate adapters hs (fun _ => rfl) hr

/-! ## Liquidity -/

section Liquidity

open AmmModule

variable {info : ActionInfo} {execute : World → ActionInfo → Except Revert World}

/-- The data of an action are those of the Set before it. -/
structure Prepared (setToken : Address) (w : World) (info : ActionInfo) : Prop where
  /-- The Set. -/
  set : info.setToken = setToken
  /-- Its supply. -/
  totalSupply : info.totalSupply = w.totalSupply setToken
  /-- There is a balance for each component. -/
  length : info.preActionComponentBalances.length = info.components.length

/-- `_getActionInfo` reads the Set. -/
theorem prepared_of_getActionInfo {integrationName : String} {ammPool : Address}
    {components : List Address} {componentUnits : List ℕ} {poolTokenInPositionUnit : ℕ}
    (h : getActionInfo self env w setToken integrationName ammPool components componentUnits
      poolTokenInPositionUnit = .ok info) :
    Prepared setToken w info ∧ info.liquidityToken = ammPool ∧ info.components = components := by
  simp only [getActionInfo, bind_eq_ok, pure_eq_ok] at h
  obtain ⟨_, -, _, -, _, -, rfl⟩ := h
  exact ⟨⟨rfl, rfl, List.length_map _⟩, rfl, rfl⟩

/-- An update by the balance marks the token. -/
theorem marked_of_updateTokenPosition {pre : ℕ} {r : World × ℤ} (hset : info.setToken = setToken)
    (hs : Sound (w.setTokens setToken)) (hsupply : w.totalSupply setToken = info.totalSupply)
    (h : updateTokenPosition self w info token pre = .ok r) : Marked setToken [token] w r.1 := by
  simp only [updateTokenPosition, bind_eq_ok, pure_eq_ok] at h
  obtain ⟨⟨w₁, _⟩, hedit, _, -, _, -, _, -, rfl⟩ := h
  rw [hset] at hedit
  exact marked_of_calculateAndEdit hs hsupply hedit

/-- `_updateComponentPositions` marks the components. -/
theorem marked_of_updateComponentPositions {w₀ : World} (hinfo : Prepared setToken w₀ info)
    (hs : Sound (w.setTokens setToken)) (hsupply : w.totalSupply setToken = info.totalSupply)
    (h : updateComponentPositions self w info = .ok w₁) :
    Marked setToken info.components w w₁ := by
  have hloop : Marked setToken
      ((info.components.zip info.preActionComponentBalances).map Prod.fst) w w₁ := by
    refine Marked.foldlM (fun entry _ s s' hs' hsame hround => ?_) hs h
    simp only [bind_eq_ok, pure_eq_ok] at hround
    obtain ⟨r, hr, rfl⟩ := hround
    exact marked_of_updateTokenPosition hinfo.set hs' (hsame.trans hsupply) hr
  rwa [List.map_fst_zip (by rw [hinfo.length])] at hloop

/-- `_updateLiquidityTokenPositions` marks the token of the pool. -/
theorem marked_of_updateLiquidityTokenPositions (hset : info.setToken = setToken)
    (hs : Sound (w.setTokens setToken)) (hsupply : w.totalSupply setToken = info.totalSupply)
    (h : updateLiquidityTokenPositions self w info = .ok w₁) :
    Marked setToken [info.liquidityToken] w w₁ := by
  simp only [updateLiquidityTokenPositions, bind_eq_ok, pure_eq_ok] at h
  obtain ⟨r, hr, rfl⟩ := h
  exact marked_of_updateTokenPosition hset hs hsupply hr

/-- `_executeApprovals` takes nothing. -/
theorem takesOnly_of_executeApprovals (hset : info.setToken = setToken)
    (h : executeApprovals self env w info = .ok w₁) : TakesOnly setToken l w w₁ := by
  simp only [executeApprovals, bind_eq_ok] at h
  obtain ⟨spender, -, hloop⟩ := h
  refine TakesOnly.foldlM (fun entry _ s s' hround => ?_) hloop
  rw [hset] at hround
  exact .of_invokeApprove hround

/-- The Set makes the call that an adapter names. -/
theorem takesOnly_of_executeCall
    {getCalldata : World → Except Revert (Address × ℕ × CallData)}
    (hdraws : DrawsBy env setToken l getCalldata)
    (h : executeCall self env w setToken getCalldata = .ok w₁) : TakesOnly setToken l w w₁ := by
  simp only [executeCall, bind_eq_ok, pure_eq_ok] at h
  obtain ⟨⟨target, value, data⟩, hdata, ⟨w₂, words⟩, hinvoke, rfl⟩ := h
  exact .of_invoke (hdraws _ _ _ _ hdata) hinvoke

/-- Adding liquidity, by a call that takes the token of the pool and the components. -/
theorem accounted_addLiquidityBy (hinfo : Prepared setToken w info)
    (hs : Sound (w.setTokens setToken))
    (hexecute : ∀ s s', execute s info = .ok s' →
      TakesOnly setToken (info.liquidityToken :: info.components) s s')
    (h : addLiquidityBy self env w info execute = .ok w') : Accounted setToken 0 w w' := by
  simp only [addLiquidityBy, bind_eq_ok] at h
  obtain ⟨-, -, w₁, happrovals, w₂, hcall, -, -, w₃, hcomponents, hliquidity⟩ := h
  have htakes : TakesOnly setToken (info.liquidityToken :: info.components) w w₂ :=
    (takesOnly_of_executeApprovals hinfo.set happrovals).trans (hexecute _ _ hcall)
  have hsupply : w₂.totalSupply setToken = info.totalSupply := by
    rw [htakes.supply, hinfo.totalSupply]
  have hfirst := marked_of_updateComponentPositions hinfo (htakes.sound hs) hsupply hcomponents
  have hsame : w₃.totalSupply setToken = info.totalSupply := by
    rw [← hsupply, World.totalSupply, World.totalSupply, hfirst.ledgers]
  have hsecond :=
    marked_of_updateLiquidityTokenPositions hinfo.set hfirst.sound hsame hliquidity
  refine accounted_of_marked htakes (hfirst.append hsecond) fun c hc => ?_
  rw [List.mem_append, List.mem_singleton]
  exact (List.mem_cons.mp hc).symm

/-- Removing liquidity does the updates in the other order. -/
theorem accounted_removeLiquidityBy (hinfo : Prepared setToken w info)
    (hs : Sound (w.setTokens setToken))
    (hexecute : ∀ s s', execute s info = .ok s' →
      TakesOnly setToken (info.liquidityToken :: info.components) s s')
    (h : removeLiquidityBy self env w info execute = .ok w') : Accounted setToken 0 w w' := by
  simp only [removeLiquidityBy, bind_eq_ok] at h
  obtain ⟨-, -, w₁, hcall, -, -, w₂, hliquidity, hcomponents⟩ := h
  have htakes := hexecute _ _ hcall
  have hsupply : w₁.totalSupply setToken = info.totalSupply := by
    rw [htakes.supply, hinfo.totalSupply]
  have hfirst :=
    marked_of_updateLiquidityTokenPositions hinfo.set (htakes.sound hs) hsupply hliquidity
  have hsame : w₂.totalSupply setToken = info.totalSupply := by
    rw [← hsupply, World.totalSupply, World.totalSupply, hfirst.ledgers]
  have hsecond := marked_of_updateComponentPositions hinfo hfirst.sound hsame hcomponents
  exact accounted_of_marked htakes (hfirst.append hsecond) (List.Subset.refl _)

variable {ammName : String} {ammPool component : Address} {components : List Address}
  {units : List ℕ} {componentUnit poolUnits : ℕ}

/-- `AmmModule.addLiquidity`. -/
theorem accounted_addLiquidity (adapters : Adapters env governance setToken weth)
    (hs : Sound (w.setTokens setToken))
    (h : addLiquidity self env w msgSender setToken ammName ammPool poolUnits components units =
      .ok w') : Accounted setToken 0 w w' := by
  simp only [addLiquidity, bind_eq_ok] at h
  obtain ⟨-, -, info, hinfo, hadd⟩ := h
  obtain ⟨hprepared, -, -⟩ := prepared_of_getActionInfo hinfo
  refine accounted_addLiquidityBy hprepared hs (fun s s' hcall => ?_) hadd
  rw [executeAddLiquidity, hprepared.set] at hcall
  exact takesOnly_of_executeCall (adapters.provide _ _ _ _ _) hcall

/-- `AmmModule.removeLiquidity`. -/
theorem accounted_removeLiquidity (adapters : Adapters env governance setToken weth)
    (hs : Sound (w.setTokens setToken))
    (h : removeLiquidity self env w msgSender setToken ammName ammPool poolUnits components units =
      .ok w') : Accounted setToken 0 w w' := by
  simp only [removeLiquidity, bind_eq_ok] at h
  obtain ⟨-, -, info, hinfo, hremove⟩ := h
  obtain ⟨hprepared, -, -⟩ := prepared_of_getActionInfo hinfo
  refine accounted_removeLiquidityBy hprepared hs (fun s s' hcall => ?_) hremove
  rw [executeRemoveLiquidity, hprepared.set] at hcall
  exact takesOnly_of_executeCall (adapters.remove _ _ _ _ _) hcall

/-- `AmmModule.addLiquiditySingleAsset`. -/
theorem accounted_addLiquiditySingleAsset (adapters : Adapters env governance setToken weth)
    (hs : Sound (w.setTokens setToken))
    (h : addLiquiditySingleAsset self env w msgSender setToken ammName ammPool poolUnits component
      componentUnit = .ok w') : Accounted setToken 0 w w' := by
  simp only [addLiquiditySingleAsset, getActionInfoSingleAsset, bind_eq_ok] at h
  obtain ⟨-, -, info, hinfo, hadd⟩ := h
  obtain ⟨hprepared, -, hcomponents⟩ := prepared_of_getActionInfo hinfo
  refine accounted_addLiquidityBy hprepared hs (fun s s' hcall => ?_) hadd
  rw [hcomponents]
  rw [executeAddLiquiditySingleAsset, hcomponents] at hcall
  cases hnotional : info.totalNotionalComponents with
  | nil =>
    rw [hnotional] at hcall
    cases hcall
  | cons totalNotional _ =>
    rw [hnotional, hprepared.set] at hcall
    exact takesOnly_of_executeCall (adapters.provideSingle _ _ _ _ _) hcall

/-- `AmmModule.removeLiquiditySingleAsset`. -/
theorem accounted_removeLiquiditySingleAsset (adapters : Adapters env governance setToken weth)
    (hs : Sound (w.setTokens setToken))
    (h : removeLiquiditySingleAsset self env w msgSender setToken ammName ammPool poolUnits
      component componentUnit = .ok w') : Accounted setToken 0 w w' := by
  simp only [removeLiquiditySingleAsset, getActionInfoSingleAsset, bind_eq_ok] at h
  obtain ⟨-, -, info, hinfo, hremove⟩ := h
  obtain ⟨hprepared, -, hcomponents⟩ := prepared_of_getActionInfo hinfo
  refine accounted_removeLiquidityBy hprepared hs (fun s s' hcall => ?_) hremove
  rw [hcomponents]
  rw [executeRemoveLiquiditySingleAsset, hcomponents] at hcall
  cases hnotional : info.totalNotionalComponents with
  | nil =>
    rw [hnotional] at hcall
    cases hcall
  | cons totalNotional _ =>
    rw [hnotional, hprepared.set] at hcall
    exact takesOnly_of_executeCall (adapters.removeSingle _ _ _ _ _) hcall

end Liquidity

/-! ## Airdrops -/

section Airdrops

open AirdropModule

/-- The fees of an airdrop are all that they take. -/
theorem flow_of_handleFees {amount : ℕ} {r : World × ℕ × ℕ × ℕ}
    (h : handleFees self env w setToken token amount = .ok r) :
    Flow setToken w r.1 (only token 0) (only token r.2.2.2) := by
  simp only [handleFees] at h
  split_ifs at h
  · simp only [bind_eq_ok, pure_eq_ok, SafeMath.add_eq_ok] at h
    obtain ⟨_, -, protocolTake, -, netManagerTake, -, _, ⟨-, rfl⟩, w₁, htransfer, w₂, hpay,
      rfl⟩ := h
    have hmanager := Flow.of_invokeTransfer htransfer
    have hprotocol : Flow setToken w₁ w₂ (only token 0) (only token protocolTake) := by
      unfold ModuleBase.payProtocolFeeFromSetToken at hpay
      split_ifs at hpay
      · exact Flow.of_strictInvokeTransfer hpay
      · obtain rfl := Except.ok.inj hpay
        refine (Flow.refl setToken w₁).mono (fun c => ?_) fun c => Nat.zero_le _
        simp [only]
    refine (hmanager.trans hprotocol).mono (fun c => ?_) fun c => ?_
    · simp [only]
    · by_cases hc : c = token <;> simp [only, hc]
  · obtain rfl := Except.ok.inj h
    refine (Flow.refl setToken w).mono (fun c => ?_) fun c => Nat.zero_le _
    simp [only]

/-- `_absorb`. -/
theorem accounted_absorbToken (hs : Sound (w.setTokens setToken))
    (h : absorbToken self env setToken w token = .ok w') : Accounted setToken 0 w w' := by
  simp only [absorbToken, handleAirdropPosition, bind_eq_ok, SafeMath.sub_eq_ok] at h
  obtain ⟨-, -, tracked, -, _, ⟨-, rfl⟩, h⟩ := h
  split_ifs at h
  · simp only [getPostAirdropUnit, Position.getDefaultPositionUnit, bind_eq_ok, SafeMath.sub_eq_ok,
      PreciseUnitMath.preciseDiv_eq_ok] at h
    obtain ⟨⟨w₁, _, _, totalFees⟩, hfees, n, ⟨_, ⟨-, rfl⟩, -, -, rfl⟩, hedit⟩ := h
    have hflow := flow_of_handleFees hfees
    have htakes : TakesOnly setToken [token] w w₁ := .of_flow hflow
    -- what was there before the fees, less the fees, is there now
    have hleft : (w.tokens token).balances setToken - totalFees ≤
        (w₁.tokens token).balances setToken := by
      have hbalance := hflow.balances token
      simp only [only, if_true] at hbalance
      omega
    refine accounted_of_marked htakes (marked_of_edit (htakes.sound hs) ?_ hedit)
      (List.Subset.refl _)
    exact (Nat.div_mul_le_self _ _).trans (Nat.mul_le_mul_right preciseUnit hleft)
  · obtain rfl := Except.ok.inj h
    exact ⟨hs, .start⟩

/-- `AirdropModule.absorb`. -/
theorem accounted_absorb (hs : Sound (w.setTokens setToken))
    (h : absorb self env w msgSender setToken token = .ok w') : Accounted setToken 0 w w' := by
  simp only [absorb, bind_eq_ok] at h
  obtain ⟨-, -, -, -, habsorb⟩ := h
  exact accounted_absorbToken hs habsorb

/-- `_batchAbsorb`. -/
theorem accounted_batchAbsorbTokens (hs : Sound (w.setTokens setToken))
    (h : batchAbsorbTokens self env setToken w l = .ok w') : Accounted setToken 0 w w' :=
  Accounted.foldlM (fun _ _ _ _ hs' hround => accounted_absorbToken hs' hround) hs h

/-- `AirdropModule.batchAbsorb`. -/
theorem accounted_batchAbsorb (hs : Sound (w.setTokens setToken))
    (h : batchAbsorb self env w msgSender setToken l = .ok w') : Accounted setToken 0 w w' := by
  simp only [batchAbsorb, bind_eq_ok] at h
  obtain ⟨-, -, -, -, habsorb⟩ := h
  exact accounted_batchAbsorbTokens hs habsorb

/-- `AirdropModule.updateAirdropFee`, which absorbs first. -/
theorem accounted_updateAirdropFee (hs : Sound (w.setTokens setToken)) {newFee : ℕ}
    (h : updateAirdropFee self env w msgSender setToken newFee = .ok w') :
    Accounted setToken 0 w w' := by
  simp only [updateAirdropFee, bind_eq_ok, pure_eq_ok] at h
  obtain ⟨-, -, -, -, -, -, w₁, habsorb, rfl⟩ := h
  have habsorbed := accounted_batchAbsorbTokens hs habsorb
  exact ⟨habsorbed.sound, habsorbed.run⟩

end Airdrops

/-! ## Claims and governance -/

section Calls

variable {rewardPool : Address} {rewardPools : List Address} {name : String} {names : List String}

/-- `_claim` takes nothing. -/
theorem takesOnly_of_claimRewards (adapters : Adapters env governance setToken weth)
    (h : ClaimModule.claimRewards self env setToken w rewardPool name = .ok w₁) :
    TakesOnly setToken [] w w₁ := by
  simp only [ClaimModule.claimRewards, bind_eq_ok, pure_eq_ok] at h
  obtain ⟨-, -, adapter, -, _, -, ⟨target, value, data⟩, hdata, ⟨w₂, words⟩, hinvoke, rfl⟩ := h
  exact .of_invoke (adapters.claim _ _ _ _ _ _ hdata) hinvoke

/-- `ClaimModule.claim`. -/
theorem accounted_claim (adapters : Adapters env governance setToken weth)
    (hs : Sound (w.setTokens setToken))
    (h : ClaimModule.claim self env w msgSender setToken rewardPool name = .ok w') :
    Accounted setToken 0 w w' := by
  simp only [ClaimModule.claim, bind_eq_ok] at h
  obtain ⟨-, -, -, -, hclaim⟩ := h
  exact accounted_of_takesOnly hs (takesOnly_of_claimRewards adapters hclaim)

/-- `ClaimModule.batchClaim`. -/
theorem accounted_batchClaim (adapters : Adapters env governance setToken weth)
    (hs : Sound (w.setTokens setToken))
    (h : ClaimModule.batchClaim self env w msgSender setToken rewardPools names = .ok w') :
    Accounted setToken 0 w w' := by
  simp only [ClaimModule.batchClaim, ClaimModule.batch, bind_eq_ok] at h
  obtain ⟨-, -, -, -, -, -, hloop⟩ := h
  exact accounted_of_takesOnly hs
    (TakesOnly.foldlM (fun _ _ _ _ hround => takesOnly_of_claimRewards adapters hround) hloop)

/-- The functions of `GovernanceModule`. -/
theorem accounted_governBy
    {getCalldata : Address → World → Except Revert (Address × ℕ × CallData)}
    (hdraws : ∀ adapter, DrawsBy env setToken [] (getCalldata adapter))
    (hs : Sound (w.setTokens setToken))
    (h : GovernanceModule.governBy self env w msgSender setToken name getCalldata = .ok w') :
    Accounted setToken 0 w w' := by
  obtain ⟨adapter, target, value, data, words, hdata, hinvoke⟩ :=
    GovernanceModule.governBy_eq_ok h
  exact accounted_of_takesOnly hs (.of_invoke (hdraws adapter _ _ _ _ hdata) hinvoke)

end Calls

/-! ## Trades of an index -/

section Index

open SingleIndexModule

variable {component sellComponent buyComponent : Address} {fixIn : Bool} {amount exchange : ℕ}

/-- `_executeTrade` takes the tokens of the trade, and leaves the storage of the index alone. -/
theorem takesOnly_of_executeTrade (adapters : Adapters env governance setToken weth)
    (hindex : w.singleIndex.index = setToken)
    (h : executeTrade self env w sellComponent buyComponent fixIn amount exchange = .ok w₁) :
    TakesOnly setToken [sellComponent, buyComponent] w w₁ ∧
      w₁.singleIndex = w.singleIndex := by
  simp only [executeTrade, hindex, bind_eq_ok, pure_eq_ok] at h
  obtain ⟨⟨target, data⟩, hdata, w₂, happrove, ⟨w₃, words⟩, hinvoke, rfl⟩ := h
  have hdraws : Draws env setToken [sellComponent, buyComponent] target 0 data := by
    split_ifs at hdata
    · obtain ⟨rfl, rfl⟩ := Prod.mk.inj (Except.ok.inj hdata)
      exact adapters.smartSwap _ _ _ _ _ _ _
    · simp only [getUniswapLikeTradeData, hindex, bind_eq_ok, pure_eq_ok] at hdata
      obtain ⟨deadline, -, hpair⟩ := hdata
      obtain ⟨rfl, rfl⟩ := Prod.mk.inj hpair
      exact adapters.swap _ _ _ _ _ _ _
  refine ⟨(TakesOnly.of_invokeApprove happrove).trans (.of_invoke hdraws hinvoke), ?_⟩
  have hkept : w₃.singleIndex = w₂.singleIndex :=
    World.invoke_keeps World.singleIndex (fun _ _ => rfl) (fun _ _ _ => rfl) adapters.index hinvoke
  rw [hkept]
  obtain ⟨t', -, -, rfl⟩ := Invoke.invokeApprove_spec happrove
  rfl

/-- A trade of the index. -/
theorem accounted_tradeAndUpdate (adapters : Adapters env governance setToken weth)
    (hindex : w.singleIndex.index = setToken) (hs : Sound (w.setTokens setToken))
    {r : World × ℕ × ℕ}
    (h : tradeAndUpdate self env w component sellComponent buyComponent fixIn amount = .ok r) :
    Accounted setToken 0 w r.1 := by
  simp only [tradeAndUpdate, bind_eq_ok] at h
  obtain ⟨w₁, htrade, hupdate⟩ := h
  obtain ⟨htakes, hstorage⟩ := takesOnly_of_executeTrade adapters hindex htrade
  simp only [updatePositionState, hstorage, hindex, bind_eq_ok, pure_eq_ok] at hupdate
  obtain ⟨r₁, hsell, r₂, hbuy, _, -, _, -, rfl⟩ := hupdate
  exact accounted_of_marked htakes (marked_of_two_edits (htakes.sound hs) rfl hsell hbuy)
    (List.Subset.refl _)

/-- `SingleIndexModule.trade`. -/
theorem accounted_indexTrade (adapters : Adapters env governance setToken weth)
    (hindex : w.singleIndex.index = setToken) (hs : Sound (w.setTokens setToken))
    {txOrigin : Address}
    (h : trade self env w msgSender txOrigin component = .ok w') :
    Accounted setToken 0 w w' := by
  simp only [trade, bind_eq_ok, pure_eq_ok] at h
  obtain ⟨-, -, -, -, -, -, ⟨isBuy, tradeAmount⟩, -, w₁, htrade, rfl⟩ := h
  have htraded : Accounted setToken 0 w w₁ := by
    cases isBuy with
    | true =>
      simp only [if_true, buyUnderweight, bind_eq_ok, pure_eq_ok] at htrade
      obtain ⟨r, hr, rfl⟩ := htrade
      exact accounted_tradeAndUpdate adapters hindex hs hr
    | false =>
      simp only [Bool.false_eq_true, if_false, sellOverweight, bind_eq_ok, pure_eq_ok] at htrade
      obtain ⟨r, hr, rfl⟩ := htrade
      exact accounted_tradeAndUpdate adapters hindex hs hr
  exact ⟨htraded.sound, htraded.run⟩

/-- `SingleIndexModule.tradeRemainingWETH`. -/
theorem accounted_tradeRemainingWETH (adapters : Adapters env governance setToken weth)
    (hindex : w.singleIndex.index = setToken) (hs : Sound (w.setTokens setToken))
    {txOrigin : Address}
    (h : tradeRemainingWETH self env w msgSender txOrigin component = .ok w') :
    Accounted setToken 0 w w' := by
  simp only [tradeRemainingWETH, bind_eq_ok, pure_eq_ok] at h
  obtain ⟨-, -, -, -, _, -, -, -, -, -, _, -, r, hr, -, -, rfl⟩ := h
  have htraded := accounted_tradeAndUpdate adapters hindex hs hr
  exact ⟨htraded.sound, htraded.run⟩

end Index

end Solvency

end SetProtocol
