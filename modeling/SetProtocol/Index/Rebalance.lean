import SetProtocol.Lib.Transition
import SetProtocol.Modules.SingleIndexModule
import SetProtocol.Positions.Edits

set_option relaxedAutoImplicit false
set_option autoImplicit false

/-!
# Steps of a rebalance

A trade calls an exchange, which is outside the protocol, and then edits the positions of the
component and of wrapped Ether by what the index held before and holds now. Wrapped Ether is never a
component of a rebalance, so that the two edits do not meet.

## Main definitions

* `SetProtocol.IndexRebalance.ExactExchange` — an exchange that takes or delivers the amount that
  its caller fixes.
* `SetProtocol.IndexRebalance.Traded` — the index before and after a trade of a component.
* `SetProtocol.IndexRebalance.Action`, `step` — the calls of the module.

## Main results

* `SetProtocol.IndexRebalance.trade_spec` — what a trade does to the index.
* `SetProtocol.IndexRebalance.wethApart_of_run` — wrapped Ether is never a component of a rebalance.
-/

namespace SetProtocol

open Checked Transition

namespace IndexRebalance

open SingleIndexModule

/-! ## The exchange -/

/-- The exchange leaves alone the positions of the index, its supply, and the storage of the
module. -/
structure Spares (index : Address) (w w' : World) : Prop where
  /-- The positions. -/
  setToken : w'.setTokens index = w.setTokens index
  /-- The supply. -/
  totalSupply : w'.totalSupply index = w.totalSupply index
  /-- The storage. -/
  storage : w'.singleIndex = w.singleIndex

/-- The data of a swap of a fixed amount of a token for another one. -/
inductive FixesIn (sell : Address) (amount : ℕ) : CallData → Prop
  | swap {buy recipient : Address} {limit deadline : ℕ} (distinct : sell ≠ buy) :
    FixesIn sell amount (.swap uniswapIn amount limit [sell, buy] recipient deadline)
  | smartSwap {buy : Address} {limit poolLimit : ℕ} (distinct : sell ≠ buy) :
    FixesIn sell amount (.smartSwap balancerIn sell buy amount limit poolLimit)

/-- The data of a swap of a token for a fixed amount of another one, which the caller `index`
receives. -/
inductive FixesOut (index buy : Address) (amount : ℕ) : CallData → Prop
  | swap {sell : Address} {limit deadline : ℕ} (distinct : sell ≠ buy) :
    FixesOut index buy amount (.swap uniswapOut amount limit [sell, buy] index deadline)
  | smartSwap {sell : Address} {limit poolLimit : ℕ} (distinct : sell ≠ buy) :
    FixesOut index buy amount (.smartSwap balancerOut sell buy amount limit poolLimit)

/-- The exchanges take, or deliver, exactly the amount that the index fixes, and change nothing of
the protocol but balances. -/
structure ExactExchange (env : Env) (index : Address) : Prop where
  /-- Nothing else changes. -/
  spares : ∀ call w w' words, env.call call w = .ok (w', words) → Spares index w w'
  /-- A fixed amount is sold. -/
  sells : ∀ call w w' words sell amount, call.caller = index → FixesIn sell amount call.data →
    env.call call w = .ok (w', words) →
    (w'.tokens sell).balances index + amount = (w.tokens sell).balances index
  /-- A fixed amount is delivered. -/
  delivers : ∀ call w w' words buy amount, call.caller = index →
    FixesOut index buy amount call.data → env.call call w = .ok (w', words) →
    (w'.tokens buy).balances index = (w.tokens buy).balances index + amount

/-- Contracts outside the protocol leave the storage of the module alone. -/
def StorageSpared (env : Env) : Prop :=
  ∀ call w w' words, env.call call w = .ok (w', words) → w'.singleIndex = w.singleIndex

variable {self msgSender txOrigin component sell buy index : Address} {env : Env} {w w' s : World}
  {fixIn : Bool} {amount exchange supply : ℕ}

/-- Exact exchanges do. -/
theorem ExactExchange.storageSpared (h : ExactExchange env index) : StorageSpared env :=
  fun call w w' words hcall => (h.spares call w w' words hcall).storage

namespace Spares

theorem refl (index : Address) (w : World) : Spares index w w := ⟨rfl, rfl, rfl⟩

theorem trans (h₁ : Spares index w s) (h₂ : Spares index s w') : Spares index w w' :=
  ⟨h₂.setToken.trans h₁.setToken, h₂.totalSupply.trans h₁.totalSupply,
    h₂.storage.trans h₁.storage⟩

end Spares

/-- A ledger with the same supply is spared. -/
theorem spares_setTokenLedger {token : Address} {t : ERC20}
    (h : t.totalSupply = (w.tokens token).totalSupply) :
    Spares index w (w.setTokenLedger token t) := by
  refine ⟨rfl, ?_, rfl⟩
  rcases eq_or_ne index token with rfl | hne
  · simpa [World.totalSupply, World.setTokenLedger] using h
  · simp [World.totalSupply, World.setTokenLedger, hne]

/-- An approval changes no balances, and nothing that exchanges spare. -/
theorem spares_of_invokeApprove {spender : Address}
    (h : Invoke.invokeApprove self env w index sell spender amount = .ok w') :
    Spares index w w' ∧ ∀ token, (w'.tokens token).balances = (w.tokens token).balances := by
  obtain ⟨t', hbalances, hsupply, rfl⟩ := Invoke.invokeApprove_spec h
  obtain ⟨hset, htotal, hstorage⟩ : Spares index w (w.setTokenLedger sell t') :=
    spares_setTokenLedger hsupply
  refine ⟨⟨hset, htotal, hstorage⟩, fun token => ?_⟩
  rcases eq_or_ne token sell with rfl | hne
  · simpa [World.setTokenLedger] using hbalances
  · simp [World.setTokenLedger, hne]

/-- The data of a trade fixes the amount that is sold or bought, and is understood by exchanges
only. -/
theorem tradeData_spec {target : Address} {data : CallData} {maxOut : ℕ} (hne : sell ≠ buy)
    (h : (if exchange = ExchangeId.balancer.toNat then
        .ok (getBalancerTradeData w sell buy fixIn amount maxOut)
      else getUniswapLikeTradeData w sell buy fixIn amount exchange) = .ok (target, data)) :
    (fixIn = true → FixesIn sell amount data) ∧
      (fixIn = false → FixesOut w.singleIndex.index buy amount data) ∧
      ∀ s caller value, World.execute env s ⟨caller, target, value, data⟩ =
        env.call ⟨caller, target, value, data⟩ s := by
  split_ifs at h with hbalancer
  · obtain ⟨-, rfl⟩ := Prod.mk.inj (Except.ok.inj h)
    cases fixIn with
    | true => exact ⟨fun _ => .smartSwap hne, nofun, fun _ _ _ => rfl⟩
    | false => exact ⟨nofun, fun _ => .smartSwap hne, fun _ _ _ => rfl⟩
  · simp only [getUniswapLikeTradeData, bind_eq_ok, pure_eq_ok, Prod.mk.injEq] at h
    obtain ⟨deadline, -, -, rfl⟩ := h
    cases fixIn with
    | true => exact ⟨fun _ => .swap hne, nofun, fun _ _ _ => rfl⟩
    | false => exact ⟨nofun, fun _ => .swap hne, fun _ _ _ => rfl⟩

/-- A trade on an exact exchange moves the amount that is fixed. -/
theorem executeTrade_spec (hexchange : ExactExchange env w.singleIndex.index) (hne : sell ≠ buy)
    (h : executeTrade self env w sell buy fixIn amount exchange = .ok w') :
    Spares w.singleIndex.index w w' ∧
      (fixIn = true → (w'.tokens sell).balances w.singleIndex.index + amount =
        (w.tokens sell).balances w.singleIndex.index) ∧
      (fixIn = false → (w'.tokens buy).balances w.singleIndex.index =
        (w.tokens buy).balances w.singleIndex.index + amount) := by
  simp only [executeTrade, bind_eq_ok, pure_eq_ok, Prod.exists] at h
  obtain ⟨target, data, hdata, w₁, happrove, w₂, words, hinvoke, rfl⟩ := h
  obtain ⟨hspares, hbalances⟩ := spares_of_invokeApprove happrove
  obtain ⟨hin, hout, hexternal⟩ := tradeData_spec hne hdata
  have hcall := (World.invoke_eq_ok.mp hinvoke).2
  rw [hexternal] at hcall
  have hlogged : Spares w.singleIndex.index w₁
      (w₁.log ⟨w.singleIndex.index, target, 0, data⟩) := ⟨rfl, rfl, rfl⟩
  refine ⟨(hspares.trans hlogged).trans (hexchange.spares _ _ _ _ hcall), fun hfix => ?_,
    fun hfix => ?_⟩
  · have hsold := hexchange.sells _ _ _ _ sell amount rfl (hin hfix) hcall
    exact hsold.trans (congrFun (hbalances sell) _)
  · have hbought := hexchange.delivers _ _ _ _ buy amount rfl (hout hfix) hcall
    exact hbought.trans (congrArg (· + amount) (congrFun (hbalances buy) _))

/-! ## The update of the positions -/

/-- The index before and after the positions of the tokens `edited` are edited by the balances `pre`
before the action and the present ones. -/
structure Updated (supply : ℕ) (pre : Address → ℕ) (edited : List Address) (index : Address)
    (w w' : World) : Prop where
  /-- No tokens move. -/
  tokens : w'.tokens = w.tokens
  /-- The storage of the module. -/
  storage : w'.singleIndex = w.singleIndex
  /-- The multiplier. -/
  multiplier : (w'.setTokens index).positionMultiplier = (w.setTokens index).positionMultiplier
  /-- The units of other tokens. -/
  others : ∀ d, d ∉ edited → (w'.setTokens index).getDefaultPositionRealUnit d =
    (w.setTokens index).getDefaultPositionRealUnit d
  /-- The units of the tokens. -/
  units : ∀ d ∈ edited, ∃ unit n : ℕ,
    (w.setTokens index).getDefaultPositionRealUnit d = .ok (unit : ℤ) ∧
    (if 0 < (w.tokens d).balances index then
      Position.calculateDefaultEditPositionUnit supply (pre d) ((w.tokens d).balances index) unit
    else .ok 0) = .ok n ∧
    (w'.setTokens index).getDefaultPositionRealUnit d =
      .ok (n * preciseUnitInt / (w.setTokens index).positionMultiplier *
        (w.setTokens index).positionMultiplier / preciseUnitInt)

/-- An edit by the balances updates one token. -/
theorem updated_of_edit {pre : Address → ℕ} {token : Address} {r : World × ℕ × ℕ × ℕ}
    (hm : 0 < (w.setTokens index).positionMultiplier)
    (h : Position.calculateAndEditDefaultPosition self w index token supply (pre token) = .ok r) :
    Updated supply pre [token] index w r.1 := by
  have hedit := editedByBalance_of_calculateAndEdit hm h
  refine ⟨hedit.tokens, ?_, hedit.multiplier, fun d hd => ?_, fun d hd => ?_⟩
  · rw [hedit.world]
    rfl
  · exact hedit.others d (List.ne_of_not_mem_cons hd)
  · obtain rfl := List.mem_singleton.mp hd
    exact hedit.unit

/-- Two updates of different tokens do not meet. -/
theorem Updated.trans {pre : Address → ℕ} {a b : Address} (hne : a ≠ b)
    (h₁ : Updated supply pre [a] index w s) (h₂ : Updated supply pre [b] index s w') :
    Updated supply pre [a, b] index w w' := by
  refine ⟨h₂.tokens.trans h₁.tokens, h₂.storage.trans h₁.storage,
    h₂.multiplier.trans h₁.multiplier, fun d hd => ?_, fun d hd => ?_⟩
  · rw [List.mem_cons, not_or] at hd
    rw [h₂.others d hd.2, h₁.others d (by simpa using hd.1)]
  · rcases List.mem_cons.mp hd with rfl | hd
    · obtain ⟨unit, n, hunit, hn, hread⟩ := h₁.units d List.mem_cons_self
      refine ⟨unit, n, hunit, hn, ?_⟩
      rw [h₂.others d (by simpa using hne), hread]
    · obtain rfl := List.mem_singleton.mp hd
      obtain ⟨unit, n, hunit, hn, hread⟩ := h₂.units d List.mem_cons_self
      rw [h₁.tokens] at hn
      rw [h₁.others d (by simpa using hne.symm)] at hunit
      rw [h₁.multiplier] at hread
      exact ⟨unit, n, hunit, hn, hread⟩

/-- The update of a trade edits the token that is sold and the one that is bought. -/
theorem updatePositionState_spec {pre : Address → ℕ} {r : World × ℕ × ℕ}
    (hm : 0 < (w.setTokens w.singleIndex.index).positionMultiplier) (hne : sell ≠ buy)
    (h : updatePositionState self w sell buy (pre sell) (pre buy) = .ok r) :
    Updated (w.totalSupply w.singleIndex.index) pre [sell, buy] w.singleIndex.index w r.1 := by
  simp only [updatePositionState, bind_eq_ok, pure_eq_ok, Prod.exists] at h
  obtain ⟨w₁, _, _, _, hsell, w₂, _, _, _, hbuy, _, -, _, -, rfl⟩ := h
  have hsold := updated_of_edit hm hsell
  rw [← hsold.multiplier] at hm
  exact hsold.trans hne (updated_of_edit hm hbuy)

/-! ## Trades -/

/-- The index before and after a trade of `component`. -/
structure Traded (w w' : World) (component : Address) (isBuy : Bool) (amount : ℕ) : Prop where
  /-- The time of the trade is recorded. -/
  storage : ∃ time, w'.singleIndex = { w.singleIndex with
    assetInfo := Function.update w.singleIndex.assetInfo component
      { w.singleIndex.assetInfo component with lastTradeTimestamp := time } }
  /-- What is bought or sold. -/
  moved : (w'.tokens component).balances w.singleIndex.index +
      (if isBuy = true then 0 else amount) =
    (w.tokens component).balances w.singleIndex.index + (if isBuy = true then amount else 0)
  /-- The multiplier. -/
  multiplier : (w'.setTokens w.singleIndex.index).positionMultiplier =
    (w.setTokens w.singleIndex.index).positionMultiplier
  /-- The units of other components. -/
  others : ∀ d, d ≠ component → d ≠ w.singleIndex.weth →
    (w'.setTokens w.singleIndex.index).getDefaultPositionRealUnit d =
      (w.setTokens w.singleIndex.index).getDefaultPositionRealUnit d
  /-- The unit of the component. -/
  unit : ∃ unit n : ℕ,
    (w.setTokens w.singleIndex.index).getDefaultPositionRealUnit component = .ok (unit : ℤ) ∧
    (if 0 < (w'.tokens component).balances w.singleIndex.index then
      Position.calculateDefaultEditPositionUnit (w.totalSupply w.singleIndex.index)
        ((w.tokens component).balances w.singleIndex.index)
        ((w'.tokens component).balances w.singleIndex.index) unit
    else .ok 0) = .ok n ∧
    (w'.setTokens w.singleIndex.index).getDefaultPositionRealUnit component =
      .ok (n * preciseUnitInt / (w.setTokens w.singleIndex.index).positionMultiplier *
        (w.setTokens w.singleIndex.index).positionMultiplier / preciseUnitInt)

/-- The targets of a rebalance do not depend on the time of the last trade. -/
theorem Traded.targets {isBuy : Bool} (h : Traded w w' component isBuy amount) :
    w'.singleIndex.index = w.singleIndex.index ∧
      w'.singleIndex.rebalanceComponents = w.singleIndex.rebalanceComponents ∧
      ∀ c multiplier, normalizeTargetUnit w' c multiplier = normalizeTargetUnit w c multiplier := by
  obtain ⟨time, hstorage⟩ := h.storage
  have htarget : ∀ c, (w'.singleIndex.assetInfo c).targetUnit =
      (w.singleIndex.assetInfo c).targetUnit := by
    intro c
    rw [hstorage]
    rcases eq_or_ne c component with rfl | hne
    · simp
    · simp [hne]
  have hmultiplier : w'.singleIndex.positionMultiplier = w.singleIndex.positionMultiplier := by
    rw [hstorage]
  refine ⟨by rw [hstorage], by rw [hstorage], fun c multiplier => ?_⟩
  rw [normalizeTargetUnit, normalizeTargetUnit, htarget, hmultiplier]

/-- A trade on an exact exchange moves the amount that is fixed, and then updates both tokens. -/
theorem tradeAndUpdate_spec {r : World × ℕ × ℕ}
    (hexchange : ExactExchange env w.singleIndex.index)
    (hm : 0 < (w.setTokens w.singleIndex.index).positionMultiplier) (hne : sell ≠ buy)
    (h : tradeAndUpdate self env w component sell buy fixIn amount = .ok r) :
    ∃ s, Spares w.singleIndex.index w s ∧
      (fixIn = true → (s.tokens sell).balances w.singleIndex.index + amount =
        (w.tokens sell).balances w.singleIndex.index) ∧
      (fixIn = false → (s.tokens buy).balances w.singleIndex.index =
        (w.tokens buy).balances w.singleIndex.index + amount) ∧
      Updated (w.totalSupply w.singleIndex.index)
        (fun token => (w.tokens token).balances w.singleIndex.index) [sell, buy]
        w.singleIndex.index s r.1 := by
  simp only [tradeAndUpdate, bind_eq_ok] at h
  obtain ⟨s, hexecute, hupdate⟩ := h
  obtain ⟨hspares, hin, hout⟩ := executeTrade_spec hexchange hne hexecute
  refine ⟨s, hspares, hin, hout, ?_⟩
  rw [← hspares.setToken, ← hspares.storage] at hm
  have hupdated : Updated (s.totalSupply s.singleIndex.index)
      (fun token => (w.tokens token).balances w.singleIndex.index) [sell, buy]
      s.singleIndex.index s r.1 := updatePositionState_spec hm hne hupdate
  rwa [hspares.storage, hspares.totalSupply] at hupdated

/-- What the exchange moves and the update writes make up a trade. -/
theorem traded_of_updated {isBuy : Bool} {edited : List Address} {s' : World}
    (hspares : Spares w.singleIndex.index w s)
    (hupdated : Updated (w.totalSupply w.singleIndex.index)
      (fun token => (w.tokens token).balances w.singleIndex.index) edited w.singleIndex.index s s')
    (hmem : component ∈ edited) (honly : ∀ d ∈ edited, d = component ∨ d = w.singleIndex.weth)
    (hmoved : (s.tokens component).balances w.singleIndex.index +
        (if isBuy = true then 0 else amount) =
      (w.tokens component).balances w.singleIndex.index + (if isBuy = true then amount else 0)) :
    Traded w (recordTrade s' component) component isBuy amount := by
  have hstorage : s'.singleIndex = w.singleIndex := hupdated.storage.trans hspares.storage
  obtain ⟨unit, n, hunit, hn, hread⟩ := hupdated.units component hmem
  rw [hspares.setToken] at hunit hread
  rw [← hupdated.tokens] at hn hmoved
  refine ⟨⟨s'.timestamp, ?_⟩, hmoved, ?_, fun d hd hd' => ?_, unit, n, hunit, hn, hread⟩
  · rw [recordTrade, setAssetInfo, setStorage, hstorage]
  · exact hupdated.multiplier.trans (congrArg _ hspares.setToken)
  · refine (hupdated.others d fun hmem => ?_).trans (congrArg (·.getDefaultPositionRealUnit d)
      hspares.setToken)
    rcases honly d hmem with rfl | rfl
    · exact hd rfl
    · exact hd' rfl

/-- All that a trade does: its checks, one exchange with the update of both positions, in one of the
two directions, and the record of its time. -/
theorem trade_cases (h : trade self env w msgSender txOrigin component = .ok w') :
    component ∈ w.singleIndex.rebalanceComponents ∧ ∃ isBuy amount r,
      calculateTradeSizeAndDirection w component = .ok (isBuy, amount) ∧
      (if isBuy = true then
          tradeAndUpdate self env w component w.singleIndex.weth component false amount
        else tradeAndUpdate self env w component component w.singleIndex.weth true amount) =
        .ok r ∧ recordTrade r.1 component = w' := by
  simp only [trade, bind_eq_ok, pure_eq_ok, Prod.exists, validateTradeParameters, require_eq_ok,
    AddressArrayUtils.contains_eq_true] at h
  obtain ⟨-, -, -, -, -, ⟨-, hmem, -⟩, isBuy, amount, hsize, s, htraded, rfl⟩ := h
  refine ⟨hmem, isBuy, amount, ?_⟩
  cases isBuy with
  | true =>
    simp only [if_true, buyUnderweight, bind_eq_ok, pure_eq_ok, Prod.exists] at htraded ⊢
    obtain ⟨_, _, _, htraded, rfl⟩ := htraded
    exact ⟨_, _, _, hsize, htraded, rfl⟩
  | false =>
    simp only [Bool.false_eq_true, if_false, sellOverweight, bind_eq_ok, pure_eq_ok,
      Prod.exists] at htraded ⊢
    obtain ⟨_, _, _, htraded, rfl⟩ := htraded
    exact ⟨_, _, _, hsize, htraded, rfl⟩

/-- **A trade** on an exact exchange buys or sells the computed amount. -/
theorem trade_spec (hexchange : ExactExchange env w.singleIndex.index)
    (hm : 0 < (w.setTokens w.singleIndex.index).positionMultiplier)
    (hweth : component ≠ w.singleIndex.weth)
    (h : trade self env w msgSender txOrigin component = .ok w') :
    component ∈ w.singleIndex.rebalanceComponents ∧ ∃ isBuy amount,
      calculateTradeSizeAndDirection w component = .ok (isBuy, amount) ∧
      Traded w w' component isBuy amount := by
  obtain ⟨hmem, isBuy, amount, r, hsize, htraded, rfl⟩ := trade_cases h
  refine ⟨hmem, isBuy, amount, hsize, ?_⟩
  split_ifs at htraded with hbuy
  · obtain ⟨s, hspares, -, hout, hupdated⟩ := tradeAndUpdate_spec hexchange hm hweth.symm htraded
    refine traded_of_updated hspares hupdated (by simp) (by simp [or_comm]) ?_
    simpa [hbuy] using hout rfl
  · obtain ⟨s, hspares, hin, -, hupdated⟩ := tradeAndUpdate_spec hexchange hm hweth htraded
    refine traded_of_updated hspares hupdated (by simp) (by simp) ?_
    simpa [hbuy] using hin rfl

/-! ## The components of a rebalance -/

/-- Wrapped Ether is not a component of the rebalance. -/
def WethApart (w : World) : Prop := w.singleIndex.weth ∉ w.singleIndex.rebalanceComponents

/-- A call of the module, or anything that happens elsewhere. -/
inductive Action
  | initializeModule (msgSender index : Address)
  | startRebalance (msgSender : Address) (newComponents : List Address)
      (newComponentsTargetUnits oldComponentsTargetUnits : List ℕ) (positionMultiplier : ℕ)
  | trade (msgSender txOrigin component : Address)
  | tradeRemainingWETH (msgSender txOrigin component : Address)
  | raiseAssetTargets (msgSender : Address)
  | setTradeMaximums (msgSender : Address) (components : List Address) (tradeMaximums : List ℕ)
  | setExchanges (msgSender : Address) (components : List Address) (exchanges : List ℕ)
  | setCoolOffPeriods (msgSender : Address) (components : List Address) (coolOffPeriods : List ℕ)
  | updateTraderStatus (msgSender : Address) (traders : List Address) (statuses : List Bool)
  | updateAnyoneTrade (msgSender : Address) (status : Bool)
  /-- Everything but the storage of the module changes to what it is in another world. -/
  | elsewhere (w' : World)

/-- The effect of an action, for the module at the address `self`. -/
def step (self : Address) (env : Env) : Action → World → Except Revert World
  | .initializeModule msgSender index, w =>
    SingleIndexModule.initializeModule self w msgSender index
  | .startRebalance msgSender newComponents newComponentsTargetUnits oldComponentsTargetUnits
      positionMultiplier, w =>
    SingleIndexModule.startRebalance self w msgSender newComponents newComponentsTargetUnits
      oldComponentsTargetUnits positionMultiplier
  | .trade msgSender txOrigin component, w =>
    SingleIndexModule.trade self env w msgSender txOrigin component
  | .tradeRemainingWETH msgSender txOrigin component, w =>
    SingleIndexModule.tradeRemainingWETH self env w msgSender txOrigin component
  | .raiseAssetTargets msgSender, w => SingleIndexModule.raiseAssetTargets w msgSender
  | .setTradeMaximums msgSender components tradeMaximums, w =>
    SingleIndexModule.setTradeMaximums self w msgSender components tradeMaximums
  | .setExchanges msgSender components exchanges, w =>
    SingleIndexModule.setExchanges self w msgSender components exchanges
  | .setCoolOffPeriods msgSender components coolOffPeriods, w =>
    SingleIndexModule.setCoolOffPeriods self w msgSender components coolOffPeriods
  | .updateTraderStatus msgSender traders statuses, w =>
    SingleIndexModule.updateTraderStatus self w msgSender traders statuses
  | .updateAnyoneTrade msgSender status, w =>
    SingleIndexModule.updateAnyoneTrade self w msgSender status
  | .elsewhere w', w => .ok { w' with singleIndex := w.singleIndex }

/-- Wrapped Ether and the components of the rebalance are as they were. -/
def Kept (w w' : World) : Prop :=
  w'.singleIndex.weth = w.singleIndex.weth ∧
    w'.singleIndex.rebalanceComponents = w.singleIndex.rebalanceComponents

/-- Equal storage keeps both. -/
theorem Kept.of_storage (h : w'.singleIndex = w.singleIndex) : Kept w w' := by
  rw [Kept, h]
  exact ⟨rfl, rfl⟩

/-- A trade leaves the storage of the module alone when contracts outside the protocol do. -/
theorem kept_of_tradeAndUpdate {r : World × ℕ × ℕ} (hspare : StorageSpared env)
    (h : tradeAndUpdate self env w component sell buy fixIn amount = .ok r) :
    Kept w (recordTrade r.1 component) := by
  simp only [tradeAndUpdate, executeTrade, updatePositionState, bind_eq_ok, pure_eq_ok,
    Prod.exists] at h
  obtain ⟨w₁, ⟨_, _, -, w₂, happrove, w₃, _, hinvoke, rfl⟩, w₄, _, _, _, hsell, w₅, _, _, _, hbuy,
    _, -, _, -, rfl⟩ := h
  have happroved : w₂.singleIndex = w.singleIndex := (spares_of_invokeApprove happrove).1.storage
  have hinvoked : w₃.singleIndex = w₂.singleIndex :=
    World.invoke_keeps (fun w => w.singleIndex) (fun _ _ => rfl) (fun _ _ _ => rfl) hspare hinvoke
  obtain ⟨_, -, _, -, _, -, hsell⟩ := Position.calculateAndEditDefaultPosition_eq_ok.mp hsell
  obtain ⟨_, -, _, -, _, -, hbuy⟩ := Position.calculateAndEditDefaultPosition_eq_ok.mp hbuy
  obtain ⟨rfl, -⟩ := Prod.mk.inj hsell
  obtain ⟨rfl, -⟩ := Prod.mk.inj hbuy
  have hkept : Kept w w₃ := Kept.of_storage (hinvoked.trans happroved)
  exact hkept

/-- So does a trade in either direction. -/
theorem kept_of_trade (hspare : StorageSpared env)
    (h : SingleIndexModule.trade self env w msgSender txOrigin component = .ok w') : Kept w w' := by
  obtain ⟨-, isBuy, amount, r, -, htraded, rfl⟩ := trade_cases h
  split_ifs at htraded
  · exact kept_of_tradeAndUpdate hspare htraded
  · exact kept_of_tradeAndUpdate hspare htraded

/-- The loop of `startRebalance` passes when none of the components is wrapped Ether. -/
theorem setTargetUnits_spec {entries : List (Address × ℕ)}
    (h : entries.foldlM setTargetUnit w = .ok w') :
    w'.singleIndex.weth = w.singleIndex.weth ∧
      ∀ entry ∈ entries, entry.1 ≠ w.singleIndex.weth := by
  induction entries generalizing w with
  | nil =>
    obtain rfl : w = w' := by simpa using h
    exact ⟨rfl, by simp⟩
  | cons entry entries ih =>
    obtain ⟨s, hround, hrest⟩ := foldlM_cons_eq_ok.mp h
    simp only [setTargetUnit, bind_eq_ok, require_eq_ok, pure_eq_ok] at hround
    obtain ⟨-, hne, rfl⟩ := hround
    obtain ⟨hweth, hall⟩ := ih hrest
    exact ⟨hweth, List.forall_mem_cons.mpr ⟨hne, hall⟩⟩

/-- A rebalance is not started with wrapped Ether. -/
theorem wethApart_of_startRebalance {newComponents : List Address}
    {newUnits oldUnits : List ℕ} {multiplier : ℕ}
    (h : SingleIndexModule.startRebalance self w msgSender newComponents newUnits oldUnits
      multiplier = .ok w') : WethApart w' := by
  simp only [SingleIndexModule.startRebalance, bind_eq_ok, require_eq_ok, pure_eq_ok] at h
  obtain ⟨-, -, -, hnew, -, hold, _, -, -, -, s, hloop, rfl⟩ := h
  obtain ⟨hweth, hall⟩ := setTargetUnits_spec hloop
  intro hmem
  simp only [setStorage, hweth] at hmem
  -- each component has a target, so that the loop comes to it
  have hlength : ((w.setTokens w.singleIndex.index).components ++ newComponents).length ≤
      (oldUnits ++ newUnits).length := by
    rw [List.length_append, List.length_append, hnew, hold]
  rw [← List.map_fst_zip hlength, List.mem_map] at hmem
  obtain ⟨entry, hentry, hfst⟩ := hmem
  exact hall entry hentry hfst

/-- Writing restrictions keeps wrapped Ether and the components. -/
theorem kept_of_setAssetInfos {components : List Address} {data : List ℕ}
    {check : ℕ → Except Revert Unit} {write : AssetTradeInfo → ℕ → AssetTradeInfo}
    (h : setAssetInfos self w msgSender components data check write = .ok w') : Kept w w' := by
  simp only [setAssetInfos, bind_eq_ok] at h
  obtain ⟨-, -, -, -, h⟩ := h
  refine foldlM_preserves (Kept w) (fun entry _ s s' hs hround => ?_) ⟨rfl, rfl⟩ h
  simp only [bind_eq_ok, pure_eq_ok] at hround
  obtain ⟨-, -, rfl⟩ := hround
  exact hs

/-- Initialization keeps them. -/
theorem kept_of_initializeModule
    (h : SingleIndexModule.initializeModule self w msgSender index = .ok w') : Kept w w' := by
  simp only [SingleIndexModule.initializeModule, bind_eq_ok, World.editSetToken_eq_ok] at h
  obtain ⟨-, -, -, -, -, -, positions, -, s, hloop, _, -, rfl⟩ := h
  have hs : Kept w s := by
    refine foldlM_preserves (Kept w) (fun position _ s s' hs hround => ?_) ⟨rfl, rfl⟩ hloop
    simp only [setInitialTarget, bind_eq_ok, pure_eq_ok] at hround
    obtain ⟨_, -, rfl⟩ := hround
    exact hs
  exact hs

/-- A step other than the start of a rebalance keeps wrapped Ether and the components; the start of
one refuses wrapped Ether. -/
theorem wethApart_step (hspare : StorageSpared env) {a : Action} (hw : WethApart w)
    (h : step self env a w = .ok w') : WethApart w' := by
  suffices hcases : WethApart w' ∨ Kept w w' by
    rcases hcases with hapart | ⟨hweth, hcomponents⟩
    · exact hapart
    · rw [WethApart, hweth, hcomponents]
      exact hw
  cases a with
  | initializeModule msgSender index => exact Or.inr (kept_of_initializeModule h)
  | startRebalance msgSender newComponents newUnits oldUnits multiplier =>
    exact Or.inl (wethApart_of_startRebalance h)
  | trade msgSender txOrigin component => exact Or.inr (kept_of_trade hspare h)
  | tradeRemainingWETH msgSender txOrigin component =>
    simp only [step, SingleIndexModule.tradeRemainingWETH, bind_eq_ok, pure_eq_ok, Prod.exists] at h
    obtain ⟨-, -, -, -, _, -, -, -, -, -, _, _, -, _, _, _, htraded, -, -, rfl⟩ := h
    exact Or.inr (kept_of_tradeAndUpdate hspare htraded)
  | raiseAssetTargets msgSender =>
    simp only [step, SingleIndexModule.raiseAssetTargets, bind_eq_ok, pure_eq_ok] at h
    obtain ⟨-, -, _, -, _, -, -, -, _, -, rfl⟩ := h
    exact Or.inr ⟨rfl, rfl⟩
  | setTradeMaximums msgSender components tradeMaximums =>
    rw [step, SingleIndexModule.setTradeMaximums] at h
    exact Or.inr (kept_of_setAssetInfos h)
  | setExchanges msgSender components exchanges =>
    rw [step, SingleIndexModule.setExchanges] at h
    exact Or.inr (kept_of_setAssetInfos h)
  | setCoolOffPeriods msgSender components coolOffPeriods =>
    rw [step, SingleIndexModule.setCoolOffPeriods] at h
    exact Or.inr (kept_of_setAssetInfos h)
  | updateTraderStatus msgSender traders statuses =>
    simp only [step, SingleIndexModule.updateTraderStatus, bind_eq_ok, pure_eq_ok] at h
    obtain ⟨-, -, -, -, -, -, _, -, -, -, rfl⟩ := h
    exact Or.inr ⟨rfl, rfl⟩
  | updateAnyoneTrade msgSender status =>
    simp only [step, SingleIndexModule.updateAnyoneTrade, bind_eq_ok, pure_eq_ok] at h
    obtain ⟨-, -, rfl⟩ := h
    exact Or.inr ⟨rfl, rfl⟩
  | elsewhere s =>
    obtain rfl := Except.ok.inj h
    exact Or.inr ⟨rfl, rfl⟩

/-- **Components of a rebalance**: from the state that the constructor leaves, whatever is called
and whatever happens elsewhere, wrapped Ether is never one of them. -/
theorem wethApart_of_run (hspare : StorageSpared env)
    (fresh : w.singleIndex.rebalanceComponents = [])
    (reached : Reach (step self env) w w') : WethApart w' := by
  refine reached.invariant WethApart (fun a w w' hw _ h => wethApart_step hspare hw h) ?_
  rw [WethApart, fresh]
  exact List.not_mem_nil

end IndexRebalance

end SetProtocol
