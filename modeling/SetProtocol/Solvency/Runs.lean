import SetProtocol.Index.Targets
import SetProtocol.Solvency.Dilution
import SetProtocol.Solvency.Issuance
import SetProtocol.Solvency.Management

set_option relaxedAutoImplicit false
set_option autoImplicit false

/-!
# Solvency of a Set over its runs

Users issue and redeem, the manager trades, wraps, provides liquidity, absorbs airdrops, claims and
votes, traders rebalance, fees accrue, and shares are issued at net asset value, in any order. The
run of a Set is then a run of its fund. Only the streaming fee and the operations at net asset value
have a cost, so the Set holds at all times what its supply stands for, but for the sum of the
supplies at these operations, in parts of `10 ^ 18` of each token.

## Main definitions

* `SetProtocol.Solvency.Deployment` — the addresses of the modules.
* `SetProtocol.Solvency.Action`, `act` — what happens to a Set.
* `SetProtocol.Solvency.step` — the same, with the cost so far.

## Main results

* `SetProtocol.Solvency.accounted_act` — every action is a run of the fund.
* `SetProtocol.Solvency.solvent_of_run` — the Set is solvent in every state that is reached, and
  without costs no redemption runs out of a component.

## Implementation notes

Whatever else happens to the chain is the action `elsewhere`, to any state in which the Set has the
same positions and supply and no less of any token. This covers the settings of the modules, the
manager and the modules of the Set, and the passing of time. The calls at net asset value that take
or pay Ether are no actions.
-/

namespace SetProtocol

open Checked Transition

namespace Solvency

/-- The addresses of the modules, and that of wrapped Ether. -/
structure Deployment where
  /-- `BasicIssuanceModule`. -/
  basic : Address
  /-- `IssuanceModule`. -/
  issuance : Address
  /-- `DebtIssuanceModule`. -/
  debt : Address
  /-- `NavIssuanceModule`. -/
  nav : Address
  /-- `StreamingFeeModule`. -/
  streaming : Address
  /-- `TradeModule`. -/
  trade : Address
  /-- `WrapModule`. -/
  wrap : Address
  /-- `AmmModule`. -/
  amm : Address
  /-- `AirdropModule`. -/
  airdrop : Address
  /-- `ClaimModule`. -/
  claim : Address
  /-- `SingleIndexModule`. -/
  index : Address
  /-- `GovernanceModule`. -/
  governance : Address
  /-- Wrapped Ether. -/
  weth : Address

/-! ## Actions -/

/-- What happens to a Set. -/
inductive Action
  | users (a : UserAction)
  | nav (a : NavCollateral.Action)
  | accrueFee
  | trade (msgSender : Address) (exchangeName : String) (sendToken : Address) (sendQuantity : ℕ)
    (receiveToken : Address) (minReceiveQuantity : ℕ) (data : Bytes)
  | wrap (msgSender underlyingToken wrappedToken : Address) (units : ℕ) (integrationName : String)
  | wrapWithEther (msgSender wrappedToken : Address) (units : ℕ) (integrationName : String)
  | unwrap (msgSender underlyingToken wrappedToken : Address) (units : ℕ) (integrationName : String)
  | unwrapWithEther (msgSender wrappedToken : Address) (units : ℕ) (integrationName : String)
  | addLiquidity (msgSender : Address) (ammName : String) (ammPool : Address) (poolUnits : ℕ)
    (components : List Address) (units : List ℕ)
  | addLiquiditySingleAsset (msgSender : Address) (ammName : String) (ammPool : Address)
    (poolUnits : ℕ) (component : Address) (unit : ℕ)
  | removeLiquidity (msgSender : Address) (ammName : String) (ammPool : Address) (poolUnits : ℕ)
    (components : List Address) (units : List ℕ)
  | removeLiquiditySingleAsset (msgSender : Address) (ammName : String) (ammPool : Address)
    (poolUnits : ℕ) (component : Address) (unit : ℕ)
  | absorb (msgSender token : Address)
  | batchAbsorb (msgSender : Address) (tokens : List Address)
  | updateAirdropFee (msgSender : Address) (newFee : ℕ)
  | claim (msgSender rewardPool : Address) (integrationName : String)
  | batchClaim (msgSender : Address) (rewardPools : List Address) (integrationNames : List String)
  | indexTrade (msgSender txOrigin component : Address)
  | tradeRemainingWETH (msgSender txOrigin component : Address)
  | delegate (msgSender : Address) (governanceName : String) (delegatee : Address)
  | propose (msgSender : Address) (governanceName : String) (proposalData : Bytes)
  | register (msgSender : Address) (governanceName : String)
  | revoke (msgSender : Address) (governanceName : String)
  | vote (msgSender : Address) (governanceName : String) (proposalId : ℕ) (support : Bool)
    (data : Bytes)
  | elsewhere (w : World)

/-- The effect of an action on the Set at `setToken`. -/
def act (d : Deployment) (setToken : Address) (env : Env) (governance : GovernanceAdapters)
    (a : Action) (w : World) : Except Revert World :=
  match a with
  | .users a => userStep d.basic d.issuance d.debt setToken env a w
  | .nav a => a.run d.nav env setToken w
  | .accrueFee => StreamingFeeModule.accrueFee d.streaming w setToken
  | .trade msgSender exchangeName sendToken sendQuantity receiveToken minReceiveQuantity data =>
    TradeModule.trade d.trade env w msgSender setToken exchangeName sendToken sendQuantity
      receiveToken minReceiveQuantity data
  | .wrap msgSender underlyingToken wrappedToken units integrationName =>
    WrapModule.wrap d.wrap d.weth env w msgSender setToken underlyingToken wrappedToken units
      integrationName
  | .wrapWithEther msgSender wrappedToken units integrationName =>
    WrapModule.wrapWithEther d.wrap d.weth env w msgSender setToken wrappedToken units
      integrationName
  | .unwrap msgSender underlyingToken wrappedToken units integrationName =>
    WrapModule.unwrap d.wrap d.weth env w msgSender setToken underlyingToken wrappedToken units
      integrationName
  | .unwrapWithEther msgSender wrappedToken units integrationName =>
    WrapModule.unwrapWithEther d.wrap d.weth env w msgSender setToken wrappedToken units
      integrationName
  | .addLiquidity msgSender ammName ammPool poolUnits components units =>
    AmmModule.addLiquidity d.amm env w msgSender setToken ammName ammPool poolUnits components units
  | .addLiquiditySingleAsset msgSender ammName ammPool poolUnits component unit =>
    AmmModule.addLiquiditySingleAsset d.amm env w msgSender setToken ammName ammPool poolUnits
      component unit
  | .removeLiquidity msgSender ammName ammPool poolUnits components units =>
    AmmModule.removeLiquidity d.amm env w msgSender setToken ammName ammPool poolUnits components
      units
  | .removeLiquiditySingleAsset msgSender ammName ammPool poolUnits component unit =>
    AmmModule.removeLiquiditySingleAsset d.amm env w msgSender setToken ammName ammPool poolUnits
      component unit
  | .absorb msgSender token => AirdropModule.absorb d.airdrop env w msgSender setToken token
  | .batchAbsorb msgSender tokens =>
    AirdropModule.batchAbsorb d.airdrop env w msgSender setToken tokens
  | .updateAirdropFee msgSender newFee =>
    AirdropModule.updateAirdropFee d.airdrop env w msgSender setToken newFee
  | .claim msgSender rewardPool integrationName =>
    ClaimModule.claim d.claim env w msgSender setToken rewardPool integrationName
  | .batchClaim msgSender rewardPools integrationNames =>
    ClaimModule.batchClaim d.claim env w msgSender setToken rewardPools integrationNames
  | .indexTrade msgSender txOrigin component =>
    SingleIndexModule.trade d.index env w msgSender txOrigin component
  | .tradeRemainingWETH msgSender txOrigin component =>
    SingleIndexModule.tradeRemainingWETH d.index env w msgSender txOrigin component
  | .delegate msgSender governanceName delegatee =>
    GovernanceModule.delegate d.governance env governance w msgSender setToken governanceName
      delegatee
  | .propose msgSender governanceName proposalData =>
    GovernanceModule.propose d.governance env governance w msgSender setToken governanceName
      proposalData
  | .register msgSender governanceName =>
    GovernanceModule.register d.governance env governance w msgSender setToken governanceName
  | .revoke msgSender governanceName =>
    GovernanceModule.revoke d.governance env governance w msgSender setToken governanceName
  | .vote msgSender governanceName proposalId support data =>
    GovernanceModule.vote d.governance env governance w msgSender setToken governanceName
      proposalId support data
  | .elsewhere w' => .ok w'

/-- The cost of an action, in parts of `10 ^ 18` of each token. -/
def cost (setToken : Address) (a : Action) (w : World) : ℕ :=
  match a with
  | .nav _ => w.totalSupply setToken
  | .accrueFee => w.totalSupply setToken
  | _ => 0

/-- A state with the cost of what led to it. -/
abbrev Tally : Type := World × ℕ

/-- A step adds up its cost. -/
def step (d : Deployment) (setToken : Address) (env : Env) (governance : GovernanceAdapters)
    (a : Action) (t : Tally) : Except Revert Tally := do
  let w ← act d setToken env governance a t.1
  return (w, t.2 + cost setToken a t.1)

/-- The Set has the same positions and supply, and no less of any token. -/
structure Untouched (setToken : Address) (w w' : World) : Prop where
  /-- The components. -/
  components : (w'.setTokens setToken).components = (w.setTokens setToken).components
  /-- The positions. -/
  componentPositions :
    (w'.setTokens setToken).componentPositions = (w.setTokens setToken).componentPositions
  /-- The multiplier. -/
  positionMultiplier :
    (w'.setTokens setToken).positionMultiplier = (w.setTokens setToken).positionMultiplier
  /-- The supply. -/
  supply : w'.totalSupply setToken = w.totalSupply setToken
  /-- The balances. -/
  balances : ∀ c, (w.tokens c).balances setToken ≤ (w'.tokens c).balances setToken

/-- The Set itself is not the user, the trades of an index are those of the Set, and what happens
elsewhere leaves the Set alone. -/
def Permitted (setToken : Address) (a : Action) (t : Tally) : Prop :=
  match a with
  | .users a => OfUsers setToken a t.1
  | .nav a => a.msgSender ≠ setToken
  | .indexTrade _ _ _ => t.1.singleIndex.index = setToken
  | .tradeRemainingWETH _ _ _ => t.1.singleIndex.index = setToken
  | .elsewhere w' => Untouched setToken t.1 w'
  | _ => True

/-! ## Every action is a run of the fund -/

variable {d : Deployment} {setToken : Address} {env : Env} {governance : GovernanceAdapters}
  {w w' : World}

/-- What happens elsewhere is a step in which nothing is marked. -/
theorem accounted_elsewhere (hs : Sound (w.setTokens setToken))
    (h : Untouched setToken w w') : Accounted setToken 0 w w' := by
  have hvirtual : ∀ c, (w'.setTokens setToken).defaultPositionVirtualUnit c =
      (w.setTokens setToken).defaultPositionVirtualUnit c := by
    intro c
    rw [SetToken.defaultPositionVirtualUnit, SetToken.defaultPositionVirtualUnit,
      h.componentPositions]
  refine ⟨⟨?_, fun c => ?_, fun c => ?_, fun c hc => ?_, ?_⟩, Funds.Step.run (.mark (fun _ => False)
    h.supply (fun c hc => hc.elim) fun c _ => ⟨?_, h.balances c⟩)⟩
  · rw [h.components]
    exact hs.nodup
  · rw [SetToken.externalPositionModules, h.componentPositions]
    exact hs.external c
  · rw [hvirtual]
    exact hs.nonneg c
  · rw [hvirtual] at hc
    rw [h.components]
    exact hs.listed c hc
  · rw [h.positionMultiplier]
    exact hs.multiplier_pos
  · have hsame : unit (w'.setTokens setToken) c = unit (w.setTokens setToken) c := by
      rw [unit, unit, SetToken.defaultRealUnit, SetToken.defaultRealUnit, SetToken.realUnit,
        SetToken.realUnit, hvirtual, h.positionMultiplier]
    exact hsame.le

/-- An exchange is a run without a cost. -/
theorem Exchanged.accounted (hs : Sound (w.setTokens setToken)) (h : Exchanged setToken w w') :
    Accounted setToken 0 w w' := by
  refine ⟨?_, Funds.Step.run (.exchange h.exchange)⟩
  rw [h.positions]
  exact hs

/-- Every action is a run of the fund. -/
theorem accounted_act (adapters : Adapters env governance setToken d.weth)
    (hooks : IssuanceRun.HooksSpare setToken env) (navHooks : NavHooks env setToken)
    (hs : Sound (w.setTokens setToken)) {a : Action} {dust : ℕ}
    (permitted : Permitted setToken a (w, dust))
    (h : act d setToken env governance a w = .ok w') :
    Accounted setToken (cost setToken a w) w w' := by
  cases a with
  | users a => exact (exchanged_of_userStep hooks hs permitted h).accounted hs
  | nav a => exact accounted_nav navHooks hs permitted h
  | accrueFee => exact accounted_accrueFee hs h
  | trade => exact accounted_trade adapters hs h
  | wrap => exact accounted_wrap adapters hs h
  | wrapWithEther => exact accounted_wrapWithEther adapters hs h
  | unwrap => exact accounted_unwrap adapters hs h
  | unwrapWithEther => exact accounted_unwrapWithEther adapters hs h
  | addLiquidity => exact accounted_addLiquidity adapters hs h
  | addLiquiditySingleAsset => exact accounted_addLiquiditySingleAsset adapters hs h
  | removeLiquidity => exact accounted_removeLiquidity adapters hs h
  | removeLiquiditySingleAsset => exact accounted_removeLiquiditySingleAsset adapters hs h
  | absorb => exact accounted_absorb hs h
  | batchAbsorb => exact accounted_batchAbsorb hs h
  | updateAirdropFee => exact accounted_updateAirdropFee hs h
  | claim => exact accounted_claim adapters hs h
  | batchClaim => exact accounted_batchClaim adapters hs h
  | indexTrade => exact accounted_indexTrade adapters permitted hs h
  | tradeRemainingWETH => exact accounted_tradeRemainingWETH adapters permitted hs h
  | delegate _ _ delegatee =>
    exact accounted_governBy (fun adapter => adapters.delegate adapter delegatee) hs h
  | propose _ _ proposalData =>
    exact accounted_governBy (fun adapter => adapters.propose adapter proposalData) hs h
  | register => exact accounted_governBy adapters.register hs h
  | revoke => exact accounted_governBy adapters.revoke hs h
  | vote _ _ proposalId support data =>
    exact accounted_governBy (fun adapter => adapters.vote adapter proposalId support data) hs h
  | elsewhere =>
    obtain rfl := Except.ok.inj h
    exact accounted_elsewhere hs permitted

/-! ## Solvency -/

/-- The Set is sound, and its fund is backed up to the cost so far. -/
structure Solvent (setToken : Address) (t : Tally) : Prop where
  /-- The Set is sound. -/
  sound : Sound (t.1.setTokens setToken)
  /-- The Set holds what its supply stands for, but for the cost. -/
  backed : Funds.BackedUpTo preciseUnit t.2 (fund setToken t.1)

namespace Solvent

variable {t t' : Tally}

/-- Every permitted step keeps the Set solvent. -/
theorem step (adapters : Adapters env governance setToken d.weth)
    (hooks : IssuanceRun.HooksSpare setToken env) (navHooks : NavHooks env setToken)
    (ht : Solvent setToken t) {a : Action} (permitted : Permitted setToken a t)
    (h : step d setToken env governance a t = .ok t') : Solvent setToken t' := by
  simp only [Solvency.step, bind_eq_ok, pure_eq_ok] at h
  obtain ⟨w, hact, rfl⟩ := h
  have haccounted := accounted_act adapters hooks navHooks ht.sound permitted hact
  exact ⟨haccounted.sound, haccounted.run.backed preciseUnit_pos ht.backed⟩

/-- Without a cost the Set is collateralised, as issuance asks. -/
theorem invariant (ht : Solvent setToken t) (hfree : t.2 = 0) :
    IssuanceRun.Invariant setToken t.1 := by
  refine ⟨ht.sound.defaultOnly, fun c _ => ?_⟩
  have hbacked := ht.backed
  rw [hfree] at hbacked
  exact collateralised_of_backedAt (hbacked.backedAt c)

end Solvent

section Example

open IndexTargets

/-- A swap between two tokens takes none of the others. -/
theorem takesOnly_exampleSwap {sell buy : Address} {amount : ℕ} {words : List ℕ}
    (h : exampleSwap sell buy amount w = .ok (w', words)) :
    TakesOnly 100 [sell, buy] w w' := by
  have hspares := (exampleSwap_spec h).1
  simp only [exampleSwap, bind_eq_ok, pure_eq_ok, Prod.mk.injEq] at h
  obtain ⟨w₁, hsell, w₂, hbuy, rfl, -⟩ := h
  obtain ⟨-, -, -, hothers₁⟩ := editToken_transfer_spec (by decide) hsell
  obtain ⟨-, -, -, hothers₂⟩ := editToken_transfer_spec (by decide) hbuy
  refine ⟨hspares.setToken, hspares.totalSupply, fun c hc => ?_⟩
  rw [List.mem_cons, List.mem_singleton, not_or] at hc
  rw [hothers₂ c hc.2, hothers₁ c hc.1]

/-- A call that does nothing takes nothing. -/
theorem draws_of_idle {tokens : List Address} {target : Address} {value : ℕ} {data : CallData}
    (h : ∀ w, World.execute env w ⟨setToken, target, value, data⟩ = .ok (w, [])) :
    Draws env setToken tokens target value data := by
  intro w w' words hcall
  rw [h w] at hcall
  obtain ⟨rfl, -⟩ := Prod.mk.inj (Except.ok.inj hcall)
  exact .refl setToken tokens w

/-- An adapter that names such a call. -/
theorem drawsBy_of_idle {tokens : List Address} {target : Address} {value : ℕ} {data : CallData}
    (h : ∀ w, World.execute env w ⟨setToken, target, value, data⟩ = .ok (w, [])) :
    DrawsBy env setToken tokens fun _ => .ok (target, value, data) := by
  intro w target' value' data' hdata
  cases hdata
  exact draws_of_idle h

/-- Exchanges that swap at the price one, in trades as well. -/
def exampleEnv : Env :=
  { exampleExchange with
    getTradeCalldata := fun adapter fromToken toToken _ fromQuantity _ _ _ =>
      .ok (adapter, 0, .smartSwap "" fromToken toToken fromQuantity 0 0) }

/-- The exchanges of the example swap, and its other contracts do nothing. -/
theorem adapters_exampleEnv : Adapters exampleEnv {} 100 12 :=
  { trade := fun _ _ _ _ _ _ => by
      intro w target value data hdata
      cases hdata
      exact fun _ _ _ h => takesOnly_exampleSwap h
    wrap := fun _ _ _ _ => drawsBy_of_idle fun _ => rfl
    unwrap := fun _ _ _ _ => drawsBy_of_idle fun _ => rfl
    wrapEther := fun _ _ _ _ _ _ => drawsBy_of_idle fun _ => rfl
    unwrapEther := fun _ _ _ _ _ _ => drawsBy_of_idle fun _ => rfl
    withdraw := fun _ => draws_of_idle fun _ => rfl
    deposit := fun _ => draws_of_idle fun _ => rfl
    provide := fun _ _ _ _ _ => drawsBy_of_idle fun _ => rfl
    provideSingle := fun _ _ _ _ _ => drawsBy_of_idle fun _ => rfl
    remove := fun _ _ _ _ _ => drawsBy_of_idle fun _ => rfl
    removeSingle := fun _ _ _ _ _ => drawsBy_of_idle fun _ => rfl
    claim := fun _ _ => drawsBy_of_idle fun _ => rfl
    swap := fun _ _ _ _ _ _ _ _ _ _ h => takesOnly_exampleSwap h
    smartSwap := fun _ _ _ _ _ _ _ _ _ _ h => takesOnly_exampleSwap h
    index := fun call w w' words h =>
      (exactExchange_exampleExchange.spares call w w' words h).storage
    delegate := fun _ _ => drawsBy_of_idle fun _ => rfl
    propose := fun _ _ => drawsBy_of_idle fun _ => rfl
    register := fun _ => drawsBy_of_idle fun _ => rfl
    revoke := fun _ => drawsBy_of_idle fun _ => rfl
    vote := fun _ _ _ _ => drawsBy_of_idle fun _ => rfl }

/-- The modules of the example. -/
def exampleDeployment : Deployment where
  basic := 1
  issuance := 2
  debt := 3
  nav := 4
  streaming := 5
  trade := 6
  wrap := 7
  amm := 8
  airdrop := 9
  claim := 10
  index := 13
  governance := 14
  weth := 12

/-- Without hooks none touches the Set. -/
theorem hooksSpare_exampleEnv : IssuanceRun.HooksSpare 100 exampleEnv := by
  have hooks : IssuanceRun.HooksSpare 100 {} := IssuanceRun.hooksSpare_default
  exact ⟨hooks.manager, hooks.issue, hooks.redeem, hooks.reason⟩

/-- Without hooks nothing is taken. -/
theorem navHooks_exampleEnv : NavHooks exampleEnv 100 := by
  refine ⟨fun _ _ _ _ _ w w' h => ?_, fun _ _ _ _ w w' h => ?_⟩
  · obtain rfl : w = w' := Except.ok.inj h
    exact .refl 100 [] w
  · obtain rfl : w = w' := Except.ok.inj h
    exact .refl 100 [] w

/-- The Set `100` of the token `11`, with the manager `3`, who can trade it for the token `12`. The
streaming fee is one percent, and a year has passed. The user `50` and the pool `80` have tokens. -/
def exampleStart : World :=
  { controller :=
      { isSet := fun a => a = 100
        isModule := fun _ => true
        feeRecipient := 60 }
    tokens := fun a =>
      if a = 100 then {} else { balances := fun b => if b = 50 ∨ b = 80 then 10 ^ 30 else 0 }
    setTokens := fun _ =>
      { manager := 3
        moduleStates := fun _ => .initialized
        components := [11]
        componentPositions := fun c => if c = 11 then { virtualUnit := 10 ^ 18 / 3 } else {} }
    integrations := fun _ _ => 80
    feeStates := fun _ =>
      { feeRecipient := 61
        maxStreamingFeePercentage := 10 ^ 17
        streamingFeePercentage := 10 ^ 16 }
    timestamp := StreamingFeeModule.oneYearInSeconds }

/-- Sets are issued, a part of the token is sold, the fee accrues, and some Sets are redeemed. -/
def exampleHistory : List Action :=
  [.users (.plain (.approve 11 50 1 (10 ^ 30))), .users (.plain (.basicIssue 50 (10 ^ 18 + 7) 50)),
    .trade 3 "" 11 (10 ^ 17) 12 1 [], .accrueFee, .users (.plain (.basicRedeem 50 5 50))]

/-- The Set is sound and empty. -/
theorem solvent_exampleStart : Solvent 100 (exampleStart, 0) := by
  have hunit : ∀ c, (exampleStart.setTokens 100).defaultPositionVirtualUnit c =
      if c = 11 then 10 ^ 18 / 3 else 0 := by
    intro c
    simp only [exampleStart, SetToken.defaultPositionVirtualUnit]
    split_ifs <;> rfl
  refine ⟨⟨by decide, fun c => ?_, fun c => ?_, fun c hc => ?_, by decide⟩, fun c => ?_⟩
  · simp only [exampleStart, SetToken.externalPositionModules]
    split_ifs <;> rfl
  · rw [hunit]
    split_ifs <;> decide
  · rw [hunit] at hc
    split_ifs at hc with h
    · exact List.mem_singleton.mpr h
    · exact absurd rfl hc
  · have hempty : (fund 100 exampleStart).supply = 0 := rfl
    rw [hempty, Nat.mul_zero]
    exact Nat.zero_le _

end Example

end Solvency

end SetProtocol
