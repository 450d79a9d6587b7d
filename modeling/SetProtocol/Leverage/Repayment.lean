import SetProtocol.Leverage.Calls
import SetProtocol.Modules.DebtIssuanceModule

set_option relaxedAutoImplicit false
set_option autoImplicit false

/-!
# What a redemption repays

Before a redemption, the leverage module writes what the Set owes per Set, rounded up. The hook for
the redemption multiplies this unit by the quantity and rounds up again. Of a large quantity that is
more than the Set owes, and Compound refuses it.

## Main definitions

* `SetProtocol.LeverageRepayment.redeemDebt` — the amount that the hook asks to repay.
* `SetProtocol.LeverageRepayment.Accrual` — the function of Compound that tells what is owed.

## Main results

* `SetProtocol.LeverageRepayment.repays_at_most_owed_iff` — when the hook asks for no more than is
  owed.
* `SetProtocol.LeverageRepayment.redeem_repays_too_much` — a redemption that cannot succeed.
-/

namespace SetProtocol

open Checked

namespace LeverageRepayment

open CompoundLeverageModule

variable {clm caller setToken c cToken : Address} {env : Env} {owed : World → Address → ℕ}
  {w w' w₁ w₂ : World} {i quantity n : ℕ}

/-- The amount that `componentRedeemHook` asks to repay. -/
def redeemDebt (clm : Address) (w : World) (caller setToken : Address) (quantity : ℕ)
    (component : Address) : Except Revert ℕ := do
  ModuleBase.onlyModule w setToken caller
  PreciseUnitMath.preciseMulCeil (← componentDebt clm w setToken component) quantity

/-- The hook asks to repay this amount. -/
theorem componentRedeemHook_eq :
    componentRedeemHook clm env w caller setToken quantity c = (do
      let notionalDebt ← redeemDebt clm w caller setToken quantity c
      repayBorrow clm env w setToken (w.compoundLeverage.underlyingToCToken c) c notionalDebt) := by
  simp only [componentRedeemHook, redeemDebt, bind_assoc]

/-- What is asked is the debt of the quantity, rounded up. -/
theorem redeemDebt_eq_ok (h : redeemDebt clm w caller setToken quantity c = .ok n) :
    n = (debtUnit clm c (w.setTokens setToken) * quantity) ⌈/⌉ preciseUnit := by
  simp only [redeemDebt, bind_eq_ok, PreciseUnitMath.preciseMulCeil_eq_ok] at h
  obtain ⟨-, -, debt, hdebt, -, rfl⟩ := h
  obtain ⟨hneg, hdebt⟩ := componentDebt_eq_ok hdebt
  have hunit : debtUnit clm c (w.setTokens setToken) = debt := by
    unfold debtUnit
    omega
  rw [hunit]

/-- What Compound says of the debt of a Set: `borrowBalanceCurrent` returns what is owed on the
market, with the interest up to the block. Neither accruing it nor what happens to positions changes
what is owed. -/
structure Accrual (env : Env) (setToken : Address) (owed : World → Address → ℕ) : Prop where
  /-- What is owed is returned. -/
  balance : ∀ m w w' n, env.borrowBalanceCurrent m setToken w = .ok (w', n) → n = owed w m
  /-- What is owed does not change by accruing interest. -/
  keeps : ∀ m w w' n, env.borrowBalanceCurrent m setToken w = .ok (w', n) → owed w' = owed w
  /-- The positions of the Set are left alone. -/
  positions : ∀ m w w' n, env.borrowBalanceCurrent m setToken w = .ok (w', n) →
    w'.setTokens setToken = w.setTokens setToken
  /-- The markets of the module are left alone. -/
  leverage : ∀ m w w' n, env.borrowBalanceCurrent m setToken w = .ok (w', n) →
    w'.compoundLeverage = w.compoundLeverage
  /-- What is owed does not depend on positions. -/
  edits : ∀ w s, owed (w.setSetToken setToken s) = owed w

/-- The component is an enabled asset to borrow, on the market at the same index. -/
structure EnabledBorrow (setToken c cToken : Address) (i : ℕ) (cl : CompoundLeverage) : Prop where
  /-- The market is listed. -/
  market : (cl.enabledAssets setToken).borrowCTokens[i]? = some cToken
  /-- The component is listed at the same index. -/
  asset : (cl.enabledAssets setToken).borrowAssets[i]? = some c
  /-- The component is listed once. -/
  once : ∀ j, (cl.enabledAssets setToken).borrowAssets[j]? = some c → j = i
  /-- The module finds the market by the component. -/
  mapped : cl.underlyingToCToken c = cToken

/-! ## The sync before a redemption -/

/-- What the rounds of `sync` do not change: the multiplier, the markets and the debt. -/
structure Kept (setToken : Address) (owed : World → Address → ℕ) (cl : CompoundLeverage)
    (debt : Address → ℕ) (w : World) : Prop where
  /-- The multiplier is one. -/
  multiplier : (w.setTokens setToken).positionMultiplier = preciseUnitInt
  /-- The markets are the same. -/
  leverage : w.compoundLeverage = cl
  /-- The debt is the same. -/
  owed : owed w = debt

variable {cl : CompoundLeverage} {debt : Address → ℕ} {supply : ℕ}

/-- An edit of positions that keeps the multiplier keeps them. -/
theorem Kept.setSetToken (hacc : Accrual env setToken owed) (hw : Kept setToken owed cl debt w)
    {s : SetToken} (hs : s.positionMultiplier = (w.setTokens setToken).positionMultiplier) :
    Kept setToken owed cl debt (w.setSetToken setToken s) := by
  refine ⟨?_, hw.leverage, (hacc.edits w s).trans hw.owed⟩
  rw [World.setTokens_setSetToken, hs, hw.multiplier]

/-- A round over collateral keeps them. -/
theorem Kept.syncCollateral (hacc : Accrual env setToken owed) (hw : Kept setToken owed cl debt w)
    {collateral : Address} (h : syncCollateral clm setToken supply w collateral = .ok w') :
    Kept setToken owed cl debt w' := by
  simp only [CompoundLeverageModule.syncCollateral, bind_eq_ok] at h
  obtain ⟨_, -, _, -, _, -, h⟩ := h
  split_ifs at h
  · obtain ⟨s, hs, rfl⟩ := World.editSetToken_eq_ok.mp h
    exact hw.setSetToken hacc (Position.positionMultiplier_of_editDefaultPosition
      (hw.multiplier ▸ preciseUnitInt_pos) hs)
  · obtain rfl : w = w' := by simpa using h
    exact hw

/-- The unit of a market's debt is what is owed per Set, rounded up. -/
theorem getBorrowPosition_spec (hacc : Accrual env setToken owed) {market : Address} {unit : ℤ}
    (h : getBorrowPosition env w setToken market supply true = .ok (w', unit)) :
    w'.setTokens setToken = w.setTokens setToken ∧ w'.compoundLeverage = w.compoundLeverage ∧
      owed w' = owed w ∧ unit = -((owed w market * preciseUnit) ⌈/⌉ supply : ℕ) := by
  obtain ⟨n, hbalance, hunit, -⟩ := getBorrowPosition_eq_ok h
  rw [if_pos rfl] at hbalance
  rw [hacc.balance _ _ _ _ hbalance] at hunit
  exact ⟨hacc.positions _ _ _ _ hbalance, hacc.leverage _ _ _ _ hbalance,
    hacc.keeps _ _ _ _ hbalance, hunit⟩

/-- A round over debt keeps them. It writes the debt of its market for its asset, and nothing for
the others. -/
theorem Kept.syncBorrow (hacc : Accrual env setToken owed) (hw : Kept setToken owed cl debt w)
    {assets : List Address} {market : Address × ℕ}
    (h : syncBorrow clm env setToken supply true assets w market = .ok w') :
    Kept setToken owed cl debt w' ∧ ∃ asset, assets[market.2]? = some asset ∧
      (w'.setTokens setToken).externalRealUnit asset clm =
        -((debt market.1 * preciseUnit) ⌈/⌉ supply : ℕ) ∧
      ∀ d, d ≠ asset → (w'.setTokens setToken).externalRealUnit d clm =
        (w.setTokens setToken).externalRealUnit d clm := by
  simp only [CompoundLeverageModule.syncBorrow, bind_eq_ok, AddressArrayUtils.read_eq_ok,
    SetToken.getExternalPositionRealUnit_eq_ok, Prod.exists] at h
  obtain ⟨asset, hasset, previous, ⟨-, hprevious⟩, w₁, unit, hposition, h⟩ := h
  obtain ⟨hset, hleverage, howed, hunit⟩ := getBorrowPosition_spec hacc hposition
  rw [hw.owed] at hunit
  have hw₁ : Kept setToken owed cl debt w₁ :=
    ⟨by rw [hset, hw.multiplier], hleverage.trans hw.leverage, howed.trans hw.owed⟩
  have hpos : 0 < (w₁.setTokens setToken).positionMultiplier := hw₁.multiplier ▸ preciseUnitInt_pos
  split_ifs at h with hchange
  · obtain ⟨s, hs, rfl⟩ := World.editSetToken_eq_ok.mp h
    refine ⟨hw₁.setSetToken hacc (Position.positionMultiplier_of_editExternalPosition hpos hs),
      asset, hasset, ?_, fun d hd => ?_⟩
    · rw [World.setTokens_setSetToken, ← hunit]
      exact Position.externalRealUnit_of_editExternalPosition hw₁.multiplier hs
    · rw [World.setTokens_setSetToken, ← hset]
      exact Position.externalRealUnit_of_editExternalPosition_of_ne hpos hd hs
  · obtain rfl : w₁ = w' := by simpa using h
    refine ⟨hw₁, asset, hasset, ?_, fun d _ => by rw [hset]⟩
    rw [hset, hprevious, ← hunit]
    exact (not_not.mp hchange).symm

/-- After a sync, the unit of an asset to borrow is what is owed per Set, rounded up. -/
theorem sync_spec (hacc : Accrual env setToken owed)
    (hmultiplier : (w.setTokens setToken).positionMultiplier = preciseUnitInt)
    (hborrow : EnabledBorrow setToken c cToken i w.compoundLeverage)
    (hsupply : 0 < w.totalSupply setToken) (h : sync clm env w setToken true = .ok w') :
    w'.compoundLeverage = w.compoundLeverage ∧
      (w'.setTokens setToken).externalRealUnit c clm =
        -((owed w cToken * preciseUnit) ⌈/⌉ w.totalSupply setToken : ℕ) := by
  simp only [sync, bind_eq_ok, hsupply, if_true] at h
  obtain ⟨-, -, w₁, hcollateral, h⟩ := h
  have hw : Kept setToken owed w.compoundLeverage (owed w) w := ⟨hmultiplier, rfl, rfl⟩
  have hw₁ := foldlM_preserves (Kept setToken owed w.compoundLeverage (owed w))
    (fun _ _ _ _ hw h => hw.syncCollateral hacc h) hw hcollateral
  rw [hw₁.leverage] at h
  -- the market of the component is still to come, or its unit is written
  have hdone := foldlM_rest (fun rest w' =>
    (∀ market ∈ rest, market ∈ (w.compoundLeverage.enabledAssets setToken).borrowCTokens.zipIdx) ∧
      Kept setToken owed w.compoundLeverage (owed w) w' ∧
      ((cToken, i) ∈ rest ∨ (w'.setTokens setToken).externalRealUnit c clm =
        -((owed w cToken * preciseUnit) ⌈/⌉ w.totalSupply setToken : ℕ)))
    (fun market rest w₂ w₃ hinv h => ?_)
    ⟨fun _ h => h, hw₁, .inl (List.mem_zipIdx_iff_getElem?.mpr hborrow.market)⟩ h
  · obtain ⟨-, hw', hunit⟩ := hdone
    exact ⟨hw'.leverage, hunit.resolve_left List.not_mem_nil⟩
  · obtain ⟨hrest, hw₂, hcome⟩ := hinv
    obtain ⟨hw₃, asset, hasset, hunit, hothers⟩ := hw₂.syncBorrow hacc h
    refine ⟨fun m hm => hrest m (List.mem_cons_of_mem _ hm), hw₃, ?_⟩
    by_cases hc : c = asset
    · -- the component is listed once, so this is its market
      subst hc
      have hmarket := List.mem_zipIdx_iff_getElem?.mp (hrest market List.mem_cons_self)
      rw [hborrow.once _ hasset, hborrow.market] at hmarket
      rw [Option.some.inj hmarket]
      exact .inr hunit
    · rcases hcome with hcome | hcome
      · rcases List.mem_cons.mp hcome with rfl | hcome
        · exact absurd (Option.some.inj (hborrow.asset.symm.trans hasset)) hc
        · exact .inl hcome
      · exact .inr ((hothers c hc).trans hcome)

/-! ## The redemption -/

/-- **Repayment**: after the sync before a redemption, the hook asks Compound to take back at most
what is owed if and only if the quantity times the unit of the debt, which is rounded up, is at most
what is owed times the precise unit.

**Proof sketch.** The sync writes the unit, and its rounds for other assets leave it. The amount
asked for is the unit times the quantity over the precise unit, rounded up; a ceiling is at most a
number when that number covers the exact quotient. -/
theorem repays_at_most_owed_iff (hacc : Accrual env setToken owed)
    (hmultiplier : (w.setTokens setToken).positionMultiplier = preciseUnitInt)
    (hborrow : EnabledBorrow setToken c cToken i w.compoundLeverage)
    (hsupply : 0 < w.totalSupply setToken)
    (hsync : moduleRedeemHook clm env w caller setToken = .ok w₁)
    (hset : w₂.setTokens setToken = w₁.setTokens setToken)
    (hleverage : w₂.compoundLeverage = w₁.compoundLeverage)
    (hdebt : redeemDebt clm w₂ caller setToken quantity c = .ok n) :
    componentRedeemHook clm env w₂ caller setToken quantity c =
        repayBorrow clm env w₂ setToken cToken c n ∧
      (n ≤ owed w cToken ↔
        quantity * ((owed w cToken * preciseUnit) ⌈/⌉ w.totalSupply setToken) ≤
          owed w cToken * preciseUnit) := by
  simp only [moduleRedeemHook, bind_eq_ok] at hsync
  obtain ⟨-, -, hsync⟩ := hsync
  obtain ⟨hkept, hunit⟩ := sync_spec hacc hmultiplier hborrow hsupply hsync
  constructor
  · rw [componentRedeemHook_eq, hdebt, hleverage, hkept, hborrow.mapped]
    rfl
  · rw [redeemDebt_eq_ok hdebt, hset, debtUnit, hunit, Int.natAbs_neg, Int.natAbs_natCast,
      Nat.mul_comm _ quantity]
    exact Rounding.ceilDiv_le_iff preciseUnit_pos

/-- What is owed on the market of the example. -/
def owedToMarket (w : World) (cToken : Address) : ℕ := w.storage cToken 100

private theorem accrual_market : Accrual (market 11) 100 owedToMarket := by
  have hkept : ∀ m w w' n, (market 11).borrowBalanceCurrent m 100 w = .ok (w', n) →
      w = w' ∧ w.storage m 100 = n := fun m w w' n h => Prod.mk.inj (Except.ok.inj h)
  refine ⟨fun m w w' n h => (hkept m w w' n h).2.symm, fun m w w' n h => ?_, fun m w w' n h => ?_,
    fun m w w' n h => ?_, fun _ _ => rfl⟩
  all_goals rw [(hkept m w w' n h).1]

private theorem enabledBorrow_marketWorld {equity : ℤ} {supply debt : ℕ} :
    EnabledBorrow 100 11 22 0 (marketWorld equity supply debt).compoundLeverage := by
  refine ⟨rfl, rfl, fun j hj => ?_, rfl⟩
  cases j with
  | zero => rfl
  | succ j => exact absurd hj (by simp [marketWorld])

/-- Half a token is owed per Set, and one Set is redeemed of one. -/
theorem repays_at_most_owed_iff_example :
    ∃ w₁, moduleRedeemHook 7 (market 11) (marketWorld 0 (10 ^ 18) (5 * 10 ^ 17)) 6 100 = .ok w₁ ∧
      ∃ n, redeemDebt 7 w₁ 6 100 (10 ^ 18) 11 = .ok n ∧ n ≤ 5 * 10 ^ 17 := by
  obtain ⟨w₁, hsync, h⟩ := exists_of_yields
    (x := moduleRedeemHook 7 (market 11) (marketWorld 0 (10 ^ 18) (5 * 10 ^ 17)) 6 100)
    (p := fun w₁ => yields (redeemDebt 7 w₁ 6 100 (10 ^ 18) 11) fun _ => true) (by decide +kernel)
  obtain ⟨n, hdebt, -⟩ := exists_of_yields h
  have hiff := (repays_at_most_owed_iff accrual_market rfl enabledBorrow_marketWorld (by decide)
    hsync rfl rfl hdebt).2
  exact ⟨w₁, hsync, n, hdebt, hiff.mpr (by decide +kernel)⟩

/-- A Set of a supply of three owes the market a single unit of the token. The sync rounds it up to
one unit per Set, and a redemption of the supply asks the market to take back three: it fails. -/
theorem redeem_repays_too_much :
    ∃ w₁, Accrual (market 11) 100 owedToMarket ∧
      EnabledBorrow 100 11 22 0 (marketWorld 0 (3 * 10 ^ 18) 1).compoundLeverage ∧
      moduleRedeemHook 7 (market 11) (marketWorld 0 (3 * 10 ^ 18) 1) 6 100 = .ok w₁ ∧
      (∃ n, redeemDebt 7 w₁ 6 100 (3 * 10 ^ 18) 11 = .ok n ∧
        ¬n ≤ owedToMarket (marketWorld 0 (3 * 10 ^ 18) 1) 22) ∧
      (DebtIssuanceModule.redeem 6 (attach 7 (market 11)) (marketWorld 0 (3 * 10 ^ 18) 1) 50 100
        (3 * 10 ^ 18) 50).isOk = false := by
  obtain ⟨w₁, hsync, h⟩ := exists_of_yields
    (x := moduleRedeemHook 7 (market 11) (marketWorld 0 (3 * 10 ^ 18) 1) 6 100)
    (p := fun w₁ => yields (redeemDebt 7 w₁ 6 100 (3 * 10 ^ 18) 11) fun n => 1 < n)
    (by decide +kernel)
  obtain ⟨n, hdebt, hn⟩ := exists_of_yields h
  exact ⟨w₁, accrual_market, enabledBorrow_marketWorld, hsync,
    ⟨n, hdebt, Nat.not_le.mpr (of_decide_eq_true hn)⟩, by decide +kernel⟩

end LeverageRepayment

end SetProtocol
