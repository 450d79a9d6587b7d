import SetProtocol.Leverage.Sync
import SetProtocol.Lib.Funds
import SetProtocol.Lib.Transition
import SetProtocol.Yield.Calls

set_option relaxedAutoImplicit false
set_option autoImplicit false

/-!
# The books of the strategy

The Set has default positions in the two assets, for what it has of them, and an external position
in the liquidity tokens, for what is staked. With these three it is a fund. Whatever anybody has the
strategy do, the positions are written at the end by what is there. A redemption writes nothing: it
pays for Sets what their units are worth, rounded down.

## Main definitions

* `SetProtocol.UniswapYieldStrategy.Holding` — an asset, or the staked liquidity tokens.
* `SetProtocol.UniswapYieldStrategy.books` — the Set as a fund of these.
* `SetProtocol.UniswapYieldStrategy.Action`, `step`, `Permitted` — what anybody has the strategy do,
  redemptions, and what happens elsewhere.

## Main results

* `SetProtocol.UniswapYieldStrategy.backed_of_updatePositions` — what is written is there.
* `SetProtocol.UniswapYieldStrategy.exchange_of_unstakeAndRedeem` — a redemption is an exchange.
* `SetProtocol.UniswapYieldStrategy.backed_of_run` — once positions were written, the Set has what its
  supply stands for, in any order of actions.
* `SetProtocol.UniswapYieldStrategy.surplus_of_redemptions` — redemptions take nothing of what is there
  beyond that, written or not.
-/

namespace SetProtocol

open Checked LeverageSync Transition

namespace UniswapYieldStrategy

/-- What the Set has: the two assets, and the liquidity tokens that are staked. -/
inductive Holding
  | assetOne
  | assetTwo
  | staked
  deriving DecidableEq

variable {u : UniswapYieldStrategy} {self : Address} {env : YieldEnv} {w w₁ w₂ w' : World}
  {msgSender : Address} {quantity : ℕ}

/-- The unit of a holding, as the Set has it. -/
def unit (u : UniswapYieldStrategy) (self : Address) (s : SetToken) : Holding → ℕ
  | .assetOne => (s.defaultRealUnit u.assetOne).toNat
  | .assetTwo => (s.defaultRealUnit u.assetTwo).toNat
  | .staked => (s.externalRealUnit u.lpToken self).toNat

/-- How much there is of a holding. -/
def held (u : UniswapYieldStrategy) (env : YieldEnv) (w : World) : Holding → ℕ
  | .assetOne => u.balanceOnSet w u.assetOne
  | .assetTwo => u.balanceOnSet w u.assetTwo
  | .staked => u.staked env w

/-- The Set as a fund. -/
def books (u : UniswapYieldStrategy) (self : Address) (env : YieldEnv) (w : World) :
    Funds.Fund Holding where
  supply := w.totalSupply u.setToken
  holding := u.held env w
  unit := u.unit self (w.setTokens u.setToken)

/-! ## Writing positions -/

/-- A unit that is no more than what there is for each Set is backed. -/
theorem unit_mul_le {realUnit : ℤ} {n supply balance : ℕ} (hn : balance * preciseUnit / supply = n)
    (hle : realUnit ≤ (n : ℤ)) : realUnit.toNat * supply ≤ balance * preciseUnit := by
  have hunit : realUnit.toNat ≤ n := Int.toNat_le.mpr hle
  calc realUnit.toNat * supply ≤ n * supply := Nat.mul_le_mul_right _ hunit
    _ ≤ balance * preciseUnit := by
      rw [← hn]
      exact Nat.div_mul_le_self _ _

/-- **What is written is there**: after positions were written, the Set has of each holding what its
supply stands for.

**Proof sketch.** Each edit leaves a unit that is no more than what is written, and the edits after it
leave this unit alone. -/
theorem backed_of_updatePositions (hr : u.Reliable env) (hassets : u.assetOne ≠ u.assetTwo)
    (hmultiplier : 0 < (w.setTokens u.setToken).positionMultiplier)
    (h : u.updatePositions self env w = .ok w') :
    (w'.setTokens u.setToken).positionMultiplier = (w.setTokens u.setToken).positionMultiplier ∧
      w'.totalSupply u.setToken = w.totalSupply u.setToken ∧
      Funds.BackedUpTo preciseUnit 0 (u.books self env w') := by
  obtain ⟨htokens, hstorage⟩ := updatePositions_spec h
  simp only [updatePositions, Position.getDefaultPositionUnit, bind_eq_ok,
    PreciseUnitMath.preciseDiv_eq_ok, World.editSetToken_eq_ok, SafeCast.toInt256_eq_ok] at h
  obtain ⟨unitOne, ⟨-, -, hone⟩, _, ⟨s₁, hs₁, rfl⟩, unitTwo, ⟨-, -, htwo⟩, _, ⟨s₂, hs₂, rfl⟩,
    unitStaked, ⟨-, -, hstaked⟩, _, ⟨-, rfl⟩, s₃, hs₃, rfl⟩ := h
  simp only [World.setTokens_setSetToken] at hs₂ hs₃
  obtain ⟨hedit₁, hle₁⟩ : OnlyEdits self _ _ _ s₁ ∧ _ :=
    onlyEdits_of_editDefaultPosition hmultiplier hs₁
  have hmultiplier₁ : 0 < s₁.positionMultiplier := by
    rw [hedit₁.multiplier]
    exact hmultiplier
  obtain ⟨hedit₂, hle₂⟩ : OnlyEdits self _ _ _ s₂ ∧ _ :=
    onlyEdits_of_editDefaultPosition hmultiplier₁ hs₂
  have hmultiplier₂ : 0 < s₂.positionMultiplier := by
    rw [hedit₂.multiplier]
    exact hmultiplier₁
  obtain ⟨hedit₃, hle₃⟩ := onlyEdits_of_editExternalPosition hmultiplier₂ hs₃
  have hunitOne : s₃.defaultRealUnit u.assetOne = s₁.defaultRealUnit u.assetOne :=
    (hedit₃.defaultRealUnit_eq id).trans (hedit₂.defaultRealUnit_eq hassets)
  have hunitTwo : s₃.defaultRealUnit u.assetTwo = s₂.defaultRealUnit u.assetTwo :=
    hedit₃.defaultRealUnit_eq id
  refine ⟨?_, rfl, fun a => ?_⟩
  · rw [World.setTokens_setSetToken, hedit₃.multiplier, hedit₂.multiplier, hedit₁.multiplier]
  · rw [Nat.add_zero]
    cases a with
    | assetOne =>
      simp only [books, unit, held, World.setTokens_setSetToken, hunitOne]
      exact unit_mul_le hone hle₁
    | assetTwo =>
      simp only [books, unit, held, World.setTokens_setSetToken, hunitTwo]
      exact unit_mul_le htwo hle₂
    | staked =>
      simp only [books, unit, held, World.setTokens_setSetToken, (hr.storage _ _ hstorage).1]
      exact unit_mul_le hstaked hle₃

/-! ## Redemptions -/

/-- What is paid of one token is the notional quantity. -/
theorem flow_of_payNotional {token : Address} {notional : ℕ}
    (h : u.payNotional self env w msgSender token notional = .ok w') :
    Flow u.setToken w w' (fun _ => 0) (only token notional) ∧ w'.storage = w.storage := by
  simp only [payNotional, bind_eq_ok, PreciseUnitMath.preciseMul_eq_ok, SafeMath.sub_eq_ok] at h
  obtain ⟨fee, -, _, ⟨hfee, rfl⟩, w₁, hsender, hrecipient⟩ := h
  refine ⟨((Flow.of_invokeTransfer hsender).trans (Flow.of_invokeTransfer hrecipient)).mono
    (fun c => Nat.zero_le _) fun c => ?_, ?_⟩
  · simp only [only]
    split_ifs <;> omega
  · obtain ⟨t', -, rfl⟩ := Invoke.invokeTransfer_spec hsender
    obtain ⟨t'', -, rfl⟩ := Invoke.invokeTransfer_spec hrecipient
    rfl

/-- What is paid of an asset is the share of its unit. -/
theorem flow_of_payAsset {asset : Address}
    (h : u.payAsset self env w msgSender asset quantity = .ok w') :
    Flow u.setToken w w' (fun _ => 0) (only asset
        (((w.setTokens u.setToken).defaultRealUnit asset).toNat * quantity / preciseUnit)) ∧
      w'.storage = w.storage := by
  simp only [payAsset, bind_eq_ok, SetToken.getDefaultPositionRealUnit_eq_ok,
    SafeCast.toUint256_eq_ok, PreciseUnitMath.preciseMul_eq_ok] at h
  obtain ⟨_, ⟨-, rfl⟩, n, hn, _, ⟨-, rfl⟩, hpay⟩ := h
  rw [hn, Int.toNat_natCast]
  exact flow_of_payNotional hpay

/-- **A redemption is an exchange**: it takes of each holding no more than the share of its unit, and
leaves the units alone. -/
theorem exchange_of_unstakeAndRedeem (hr : u.Reliable env) (hu : u.Separate)
    (hsender : msgSender ≠ u.setToken)
    (h : u.unstakeAndRedeem self env w msgSender quantity = .ok w') :
    w'.setTokens u.setToken = w.setTokens u.setToken ∧
      Funds.Exchange preciseUnit (u.books self env w) (u.books self env w') := by
  simp only [unstakeAndRedeem, bind_eq_ok, require_eq_ok,
    SetToken.getExternalPositionRealUnit_eq_ok, SafeCast.toUint256_eq_ok,
    PreciseUnitMath.preciseMul_eq_ok] at h
  obtain ⟨-, -, w₁, hburn, _, ⟨-, rfl⟩, n, hn, _, ⟨-, rfl⟩, w₂, hunstake, w₃, hlp, w₄, hone,
    htwo⟩ := h
  obtain ⟨hpositions, hsupply, hbalances⟩ := World.flow_of_burn hburn hsender
  have hstorage₁ : w₁.storage = w.storage := by
    obtain ⟨-, -, rfl⟩ := World.burn_spec hburn
    rfl
  have hburned : u.staked env w₁ = u.staked env w := (hr.storage _ _ hstorage₁).1
  obtain ⟨hunstake, hstaked, -⟩ := flow_of_unstake hr hunstake
  obtain ⟨hlp, hstorage₃⟩ := flow_of_payNotional hlp
  obtain ⟨hone, hstorage₄⟩ := flow_of_payAsset hone
  obtain ⟨htwo, hstorage'⟩ := flow_of_payAsset htwo
  have hstaked' : u.staked env w' = u.staked env w₂ :=
    (hr.storage _ _ (hstorage'.trans (hstorage₄.trans hstorage₃))).1
  rw [hone.positions, hlp.positions, hunstake.positions, hpositions] at htwo
  rw [hlp.positions, hunstake.positions, hpositions] at hone
  rw [hpositions] at hn
  have hflow := ((hunstake.trans hlp).trans hone).trans htwo
  have hsame : w'.setTokens u.setToken = w.setTokens u.setToken :=
    hflow.positions.trans (congrFun hpositions u.setToken)
  refine ⟨hsame, .withdraw quantity ?_ ?_ fun a => ?_⟩
  · funext a
    show u.unit self (w'.setTokens u.setToken) a = u.unit self (w.setTokens u.setToken) a
    rw [hsame]
  · show w'.totalSupply u.setToken + quantity ≤ w.totalSupply u.setToken
    rw [hflow.supply]
    exact hsupply.le
  · cases a with
    | assetOne =>
      have hleft := hflow.balances u.assetOne
      simp only [only, if_true, if_neg hu.assets, if_neg hu.assetOne, Nat.add_zero,
        Nat.zero_add, hbalances] at hleft
      exact hleft
    | assetTwo =>
      have hleft := hflow.balances u.assetTwo
      simp only [only, if_true, if_neg hu.assets.symm, if_neg hu.assetTwo, Nat.add_zero,
        Nat.zero_add, hbalances] at hleft
      exact hleft
    | staked =>
      show u.staked env w ≤ u.staked env w' +
        ((w.setTokens u.setToken).externalRealUnit u.lpToken self).toNat * quantity / preciseUnit
      rw [hn, Int.toNat_natCast, hstaked']
      omega

/-! ## Actions -/

/-- What anybody has the strategy do, redemptions, and what happens elsewhere. -/
inductive Action
  | engage
  | disengage
  | reap
  | rebalance
  | rebalanceSome (sellTokenQuantity : ℕ)
  | removeModule (msgSender : Address)
  | unstakeAndRedeem (msgSender : Address) (setTokenQuantity : ℕ)
  | elsewhere (w' : World)

/-- The actions that write positions. -/
def Action.Writes : Action → Prop
  | .unstakeAndRedeem _ _ => False
  | .elsewhere _ => False
  | _ => True

/-- The action in a world. -/
def step (u : UniswapYieldStrategy) (self : Address) (env : YieldEnv) (a : Action) (w : World) :
    Except Revert World :=
  match a with
  | .engage => u.engage self env w
  | .disengage => u.disengage self env w
  | .reap => u.reap self env w
  | .rebalance => u.rebalance self env w
  | .rebalanceSome sellTokenQuantity => u.rebalanceSome self env w sellTokenQuantity
  | .removeModule msgSender => u.removeModule self env w msgSender
  | .unstakeAndRedeem msgSender setTokenQuantity =>
    u.unstakeAndRedeem self env w msgSender setTokenQuantity
  | .elsewhere w' => .ok w'

/-- Nothing is taken of what the Set has, and its positions and supply are as they were. -/
structure Spares (u : UniswapYieldStrategy) (env : YieldEnv) (w w' : World) : Prop where
  /-- The Set is as it was. -/
  same : u.SameSet w w'
  /-- There is no less of any holding. -/
  held : ∀ a, u.held env w a ≤ u.held env w' a

/-- The Set does not redeem its own tokens, and what happens elsewhere spares it. -/
def Permitted (u : UniswapYieldStrategy) (env : YieldEnv) (a : Action) (w : World) : Prop :=
  match a with
  | .unstakeAndRedeem msgSender _ => msgSender ≠ u.setToken
  | .elsewhere w' => u.Spares env w w'
  | _ => True

section Actions

variable (hr : u.Reliable env)
include hr

/-- A rebalance leaves the Set alone until positions are written. -/
theorem sameSet_of_rebalanceInternal {sellTokenQuantity : ℕ}
    (h : u.rebalanceInternal self env w sellTokenQuantity = .ok w') : u.SameSet w w' := by
  simp only [rebalanceInternal, bind_eq_ok] at h
  obtain ⟨_, -, r, -, r', -, w₁, happrove, h⟩ := h
  have hsame := sameSet_of_flow (Flow.of_invokeApprove happrove)
  split_ifs at h
  · exact hsame.trans (sameSet_of_invokeUniswapTrade hr h)
  · obtain rfl := Except.ok.inj h
    exact hsame

/-- So does what is done with rewards. -/
theorem sameSet_of_handleReward (h : u.handleReward self env w = .ok w') : u.SameSet w w' := by
  simp only [handleReward, bind_eq_ok, Prod.exists] at h
  obtain ⟨w₁, words, hreward, w₂, happrove, w₃, htrade, _, -, _, -, hfee⟩ := h
  have hreward : u.SameSet w w₁ := (hr.rewarder _).of_invoke hreward
  have happrove := sameSet_of_flow (Flow.of_invokeApprove happrove)
  have htrade := sameSet_of_invokeUniswapTrade hr htrade
  have hfee := sameSet_of_flow (Flow.of_strictInvokeTransfer hfee)
  exact ((hreward.trans happrove).trans htrade).trans hfee

/-- Engaging leaves it alone until positions are written. -/
theorem exists_of_engageInternal (h : u.engageInternal self env w = .ok w') :
    ∃ w₁, u.SameSet w w₁ ∧ u.updatePositions self env w₁ = .ok w' := by
  simp only [engageInternal, bind_eq_ok, Prod.exists] at h
  obtain ⟨w₁, hrebalance, _, _, -, w₂, lpBalance, hadd, w₃, hstake, hupdate⟩ := h
  have hrebalance := sameSet_of_rebalanceInternal hr hrebalance
  have hadd := sameSet_of_approveAndAddLiquidity hr hadd
  obtain ⟨taken, hstake⟩ := flow_of_approveAndStake hr hstake
  exact ⟨w₃, (hrebalance.trans hadd).trans (sameSet_of_flow hstake), hupdate⟩

/-- Whatever writes positions leaves the Set alone before. -/
theorem exists_of_writes {a : Action} (ha : a.Writes) (h : u.step self env a w = .ok w') :
    ∃ w₁, u.SameSet w w₁ ∧ u.updatePositions self env w₁ = .ok w' := by
  cases a with
  | engage => exact exists_of_engageInternal hr h
  | disengage =>
    simp only [step, disengage, bind_eq_ok] at h
    obtain ⟨w₁, hrebalance, _, -, w₂, hunstake, w₃, hremove, hupdate⟩ := h
    have hrebalance := sameSet_of_rebalanceInternal hr hrebalance
    have hunstake := sameSet_of_flow (flow_of_unstake hr hunstake).1
    have hremove := sameSet_of_approveAndRemoveLiquidity hr hremove
    exact ⟨w₃, (hrebalance.trans hunstake).trans hremove, hupdate⟩
  | reap =>
    simp only [step, reap, bind_eq_ok] at h
    obtain ⟨w₁, hreward, hengage⟩ := h
    obtain ⟨w₂, hsame, hupdate⟩ := exists_of_engageInternal hr hengage
    exact ⟨w₂, (sameSet_of_handleReward hr hreward).trans hsame, hupdate⟩
  | rebalance =>
    simp only [step, rebalance, bind_eq_ok] at h
    obtain ⟨w₁, hrebalance, hupdate⟩ := h
    exact ⟨w₁, sameSet_of_rebalanceInternal hr hrebalance, hupdate⟩
  | rebalanceSome n =>
    simp only [step, rebalanceSome, bind_eq_ok] at h
    obtain ⟨w₁, hrebalance, hupdate⟩ := h
    exact ⟨w₁, sameSet_of_rebalanceInternal hr hrebalance, hupdate⟩
  | removeModule _ =>
    simp only [step, removeModule, bind_eq_ok] at h
    obtain ⟨-, -, w₁, hunstake, w₂, hremove, hupdate⟩ := h
    have hunstake := sameSet_of_flow (flow_of_unstake hr hunstake).1
    have hremove := sameSet_of_approveAndRemoveLiquidity hr hremove
    exact ⟨w₂, hunstake.trans hremove, hupdate⟩
  | unstakeAndRedeem _ _ => exact ha.elim
  | elsewhere _ => exact ha.elim

omit hr in
/-- What spares the Set marks nothing. -/
theorem step_of_spares (h : u.Spares env w w') :
    Funds.Step preciseUnit (u.books self env w) (u.books self env w') 0 := by
  have hunit : ∀ a, (u.books self env w').unit a = (u.books self env w).unit a := fun a => by
    show u.unit self (w'.setTokens u.setToken) a = u.unit self (w.setTokens u.setToken) a
    rw [h.same.1]
  exact .mark (fun _ => False) h.same.2 (fun _ ha => ha.elim) fun a _ => ⟨(hunit a).le, h.held a⟩

variable (hu : u.Separate)
include hu

/-- Positions that are written are backed, whatever they were. -/
theorem backed_of_writes {a : Action} (ha : a.Writes)
    (hmultiplier : 0 < (w.setTokens u.setToken).positionMultiplier)
    (h : u.step self env a w = .ok w') :
    0 < (w'.setTokens u.setToken).positionMultiplier ∧
      w'.totalSupply u.setToken = w.totalSupply u.setToken ∧
      Funds.BackedUpTo preciseUnit 0 (u.books self env w') := by
  obtain ⟨w₁, hsame, hupdate⟩ := exists_of_writes hr ha h
  rw [← hsame.1] at hmultiplier
  obtain ⟨hkept, hsupply, hbacked⟩ :=
    backed_of_updatePositions hr hu.assets hmultiplier hupdate
  exact ⟨hkept ▸ hmultiplier, hsupply.trans hsame.2, hbacked⟩

/-- Every permitted action is a step of the fund. -/
theorem step_of_step {a : Action} (permitted : u.Permitted env a w)
    (hmultiplier : 0 < (w.setTokens u.setToken).positionMultiplier)
    (h : u.step self env a w = .ok w') :
    0 < (w'.setTokens u.setToken).positionMultiplier ∧
      Funds.Step preciseUnit (u.books self env w) (u.books self env w') 0 := by
  by_cases ha : a.Writes
  · obtain ⟨hkept, hsupply, hbacked⟩ := backed_of_writes hr hu ha hmultiplier h
    exact ⟨hkept, .mark (fun _ => True) hsupply (fun b _ => hbacked.backedAt b) fun _ hb =>
      (hb trivial).elim⟩
  · cases a with
    | unstakeAndRedeem msgSender setTokenQuantity =>
      obtain ⟨hsame, hexchange⟩ := exchange_of_unstakeAndRedeem hr hu permitted h
      exact ⟨hsame ▸ hmultiplier, .exchange hexchange⟩
    | elsewhere w₁ =>
      obtain rfl := Except.ok.inj h
      have hspares : u.Spares env w w₁ := permitted
      exact ⟨hspares.same.1 ▸ hmultiplier, step_of_spares hspares⟩
    | _ => exact (ha trivial).elim

/-- **Once positions were written, they are backed**: in every state that is reached from there, in
any order of actions and redemptions, the Set has of each holding what its supply stands for, and so
it has what any part of the supply is paid. -/
theorem backed_of_run {w₀ : World} {a : Action} (ha : a.Writes)
    (hmultiplier : 0 < (w₀.setTokens u.setToken).positionMultiplier)
    (hwrite : u.step self env a w₀ = .ok w₁)
    (reached : ReachWhen (u.step self env) (u.Permitted env) w₁ w) :
    Funds.BackedUpTo preciseUnit 0 (u.books self env w) ∧
      ∀ setTokenQuantity ≤ w.totalSupply u.setToken, ∀ b,
        u.unit self (w.setTokens u.setToken) b * setTokenQuantity / preciseUnit ≤
          u.held env w b := by
  obtain ⟨hmultiplier, -, hbacked⟩ := backed_of_writes hr hu ha hmultiplier hwrite
  have hinvariant : 0 < (w.setTokens u.setToken).positionMultiplier ∧
      Funds.BackedUpTo preciseUnit 0 (u.books self env w) := by
    refine reached.invariant (fun t => 0 < (t.setTokens u.setToken).positionMultiplier ∧
      Funds.BackedUpTo preciseUnit 0 (u.books self env t)) (fun b t t' ht permitted stepped => ?_)
      ⟨hmultiplier, hbacked⟩
    obtain ⟨hkept, hstep⟩ := step_of_step hr hu permitted ht.1 stepped
    exact ⟨hkept, hstep.backed preciseUnit_pos ht.2⟩
  refine ⟨hinvariant.2, fun setTokenQuantity hquantity b => ?_⟩
  have hpayment := hinvariant.2.payment_le hquantity b
  rwa [Nat.zero_div, Nat.add_zero] at hpayment

/-- Only redemptions, and what happens elsewhere. -/
def OfHolders (u : UniswapYieldStrategy) (env : YieldEnv) (a : Action) (w : World) : Prop :=
  ¬a.Writes ∧ u.Permitted env a w

/-- Over one of them, what there is of a holding changes by no less than what the supply stands
for. -/
theorem surplus_of_step {a : Action} (met : u.OfHolders env a w)
    (h : u.step self env a w = .ok w') (b : Holding) :
    w'.setTokens u.setToken = w.setTokens u.setToken ∧
      (u.books self env w).holding b * preciseUnit +
          (u.books self env w).unit b * (u.books self env w').supply ≤
        (u.books self env w').holding b * preciseUnit +
          (u.books self env w).unit b * (u.books self env w).supply := by
  obtain ⟨ha, permitted⟩ := met
  cases a with
  | unstakeAndRedeem msgSender setTokenQuantity =>
    obtain ⟨hsame, hexchange⟩ := exchange_of_unstakeAndRedeem hr hu permitted h
    exact ⟨hsame, hexchange.surplus preciseUnit_pos b⟩
  | elsewhere w₁ =>
    obtain rfl := Except.ok.inj h
    have hspares : u.Spares env w w₁ := permitted
    have hsupply : (u.books self env w₁).supply = (u.books self env w).supply := hspares.same.2
    refine ⟨hspares.same.1, ?_⟩
    rw [hsupply]
    exact Nat.add_le_add_right (Nat.mul_le_mul_right preciseUnit (hspares.held b)) _
  | _ => exact (ha trivial).elim

/-- **Redemptions take nothing of what is left over**: from any state, backed or not, the units stay,
and of each holding there is no less beyond what the supply stands for than there was. -/
theorem surplus_of_redemptions {w₀ : World}
    (reached : ReachWhen (u.step self env) (u.OfHolders env) w₀ w) :
    w.setTokens u.setToken = w₀.setTokens u.setToken ∧
      ∀ b, u.held env w₀ b * preciseUnit +
          u.unit self (w₀.setTokens u.setToken) b * w.totalSupply u.setToken ≤
        u.held env w b * preciseUnit +
          u.unit self (w₀.setTokens u.setToken) b * w₀.totalSupply u.setToken := by
  refine reached.invariant (fun t => t.setTokens u.setToken = w₀.setTokens u.setToken ∧
    ∀ b, (u.books self env w₀).holding b * preciseUnit +
        (u.books self env w₀).unit b * (u.books self env t).supply ≤
      (u.books self env t).holding b * preciseUnit +
        (u.books self env w₀).unit b * (u.books self env w₀).supply)
    (fun a t t' ht met stepped => ?_) ⟨rfl, fun b => Nat.le_refl _⟩
  obtain ⟨hsame, -⟩ := surplus_of_step hr hu met stepped .staked
  refine ⟨hsame.trans ht.1, fun b => ?_⟩
  obtain ⟨-, hstep⟩ := surplus_of_step hr hu met stepped b
  have hunit : (u.books self env t).unit b = (u.books self env w₀).unit b :=
    congrArg (u.unit self · b) ht.1
  exact Funds.surplus_trans hunit (ht.2 b) hstep

end Actions

/-! ## Example -/

section Example

/-- A tenth of the supply is redeemed, what is left goes into the pool, rewards are reaped, and
another tenth is redeemed. -/
def farmHistory : List Action :=
  [.unstakeAndRedeem 51 (10 ^ 17), .reap, .unstakeAndRedeem 51 (10 ^ 17)]

private theorem permitted_farmHistory :
    ∀ a ∈ farmHistory, ∀ w, farmStrategy.Permitted farm a w := by
  have hsender : (51 : Address) ≠ 100 := by decide
  simp only [farmHistory, List.forall_mem_cons]
  exact ⟨fun _ => hsender, fun _ => trivial, fun _ => hsender,
    fun _ h => absurd h List.not_mem_nil⟩

/-- Positions are written by a rebalance, and the history follows. -/
theorem backed_of_run_example :
    ∃ w, runAll (farmStrategy.step 7 farm) (.rebalance :: farmHistory)
        (farmWorld (10 ^ 9) (2 * 10 ^ 8)) = .ok w ∧
      w.totalSupply 100 = 8 * 10 ^ 17 ∧
      Funds.BackedUpTo preciseUnit 0 (farmStrategy.books 7 farm w) := by
  obtain ⟨w, hrun, hsupply⟩ := exists_of_yields
    (x := runAll (farmStrategy.step 7 farm) (.rebalance :: farmHistory)
      (farmWorld (10 ^ 9) (2 * 10 ^ 8)))
    (p := fun w => w.totalSupply 100 = 8 * 10 ^ 17) (by decide +kernel)
  have hwrites : Action.Writes .rebalance := trivial
  have hmultiplier : 0 < ((farmWorld (10 ^ 9) (2 * 10 ^ 8)).setTokens 100).positionMultiplier := by
    decide
  obtain ⟨w₁, hwrite, hhistory⟩ := foldlM_cons_eq_ok.mp hrun
  exact ⟨w, hrun, of_decide_eq_true hsupply, (backed_of_run reliable_farm separate_farmStrategy
    hwrites hmultiplier hwrite (reachWhen_of_forall permitted_farmHistory hhistory)).1⟩

/-- Two holders redeem. -/
theorem surplus_of_redemptions_example :
    ∃ w, runAll (farmStrategy.step 7 farm)
        [.unstakeAndRedeem 51 (10 ^ 17), .unstakeAndRedeem 51 (3 * 10 ^ 17 + 1)]
        (farmWorld (10 ^ 9) (2 * 10 ^ 8)) = .ok w ∧
      w.totalSupply 100 = 6 * 10 ^ 17 - 1 ∧
      ∀ b, farmStrategy.held farm (farmWorld (10 ^ 9) (2 * 10 ^ 8)) b * preciseUnit +
          farmStrategy.unit 7 ((farmWorld (10 ^ 9) (2 * 10 ^ 8)).setTokens 100) b *
            w.totalSupply 100 ≤
        farmStrategy.held farm w b * preciseUnit +
          farmStrategy.unit 7 ((farmWorld (10 ^ 9) (2 * 10 ^ 8)).setTokens 100) b *
            (farmWorld (10 ^ 9) (2 * 10 ^ 8)).totalSupply 100 := by
  obtain ⟨w, hrun, hsupply⟩ := exists_of_yields
    (x := runAll (farmStrategy.step 7 farm)
      [.unstakeAndRedeem 51 (10 ^ 17), .unstakeAndRedeem 51 (3 * 10 ^ 17 + 1)]
      (farmWorld (10 ^ 9) (2 * 10 ^ 8)))
    (p := fun w => w.totalSupply 100 = 6 * 10 ^ 17 - 1) (by decide +kernel)
  have hsender : (51 : Address) ≠ 100 := by decide
  have hredeem : ∀ n, ¬Action.Writes (.unstakeAndRedeem 51 n) := fun _ h => h
  have hmet : ∀ a ∈ [Action.unstakeAndRedeem 51 (10 ^ 17),
      .unstakeAndRedeem 51 (3 * 10 ^ 17 + 1)], ∀ w, farmStrategy.OfHolders farm a w := by
    simp only [List.forall_mem_cons]
    exact ⟨fun _ => ⟨hredeem _, hsender⟩, fun _ => ⟨hredeem _, hsender⟩,
      fun _ h => absurd h List.not_mem_nil⟩
  exact ⟨w, hrun, of_decide_eq_true hsupply, (surplus_of_redemptions reliable_farm
    separate_farmStrategy (reachWhen_of_forall hmet hrun)).2⟩

end Example

end UniswapYieldStrategy

end SetProtocol
