import SetProtocol.Nav.Collateral
import SetProtocol.Solvency.Accounts
import SetProtocol.Streaming.Accrual

set_option relaxedAutoImplicit false
set_option autoImplicit false

/-!
# Operations that dilute

The streaming fee, and issuance and redemption at net asset value, change the multiplier against the
supply. A rounded unit can hide a fraction of the virtual one, and the larger supply then claims a
little more than before: less than one part of `10 ^ 18` for each of the Sets that there were. So
these operations are dilutions of the fund at the cost of the supply before them.

## Main definitions

* `SetProtocol.Solvency.NavHooks` — the manager's hooks at net asset value take nothing.

## Main results

* `SetProtocol.Solvency.unit_mul_supply_le` — what a scaled Set stands for.
* `SetProtocol.Solvency.accounted_accrueFee`, `accounted_nav` — the operations.
-/

namespace SetProtocol

open Checked

namespace Solvency

variable {self setToken : Address} {env : Env} {w w₁ w' : World} {s : SetToken}

/-- Under a multiplier that is scaled against the supply, the unit of a token stands for less than
one more part per Set. -/
theorem unit_mul_supply_le {multiplier : ℤ} {supply supply' : ℕ} (hs : Sound s)
    (hpos : 0 < multiplier)
    (hscaled : multiplier * (supply' : ℤ) ≤ s.positionMultiplier * (supply : ℤ)) (c : Address) :
    unit { s with positionMultiplier := multiplier } c * supply' ≤ unit s c * supply + supply := by
  have hs' := hs.scaled hpos
  have hle := Rounding.ediv_mul_le_of_scaled preciseUnitInt_pos (hs.nonneg c)
    (Int.natCast_nonneg supply) (Int.natCast_nonneg supply') hscaled
  have hnew : (unit { s with positionMultiplier := multiplier } c : ℤ) =
      s.defaultPositionVirtualUnit c * multiplier / preciseUnitInt := hs'.natCast_unit c
  have hold : (unit s c : ℤ) =
      s.defaultPositionVirtualUnit c * s.positionMultiplier / preciseUnitInt := hs.natCast_unit c
  rw [← hnew, ← hold] at hle
  exact_mod_cast hle

/-! ## The streaming fee -/

/-- `StreamingFeeModule.accrueFee`. -/
theorem accounted_accrueFee (hs : Sound (w.setTokens setToken))
    (h : StreamingFeeModule.accrueFee self w setToken = .ok w') :
    Accounted setToken (w.totalSupply setToken) w w' := by
  have hw' := StreamingFeeModule.accrueFee_spec hs.multiplier_pos h
  have hscaled := hw'.scaled_mul_supply_le hs.multiplier_pos
  refine ⟨?_, Funds.Step.run (.dilute _ fun c => ?_)⟩
  · rw [hw'.scaled]
    exact hs.scaled hw'.multiplier_pos
  · have hunit := unit_mul_supply_le hs hw'.multiplier_pos hscaled c
    have hbalance : (w.tokens c).balances setToken ≤ (w'.tokens c).balances setToken :=
      hw'.balances c setToken ▸ Nat.le_add_right _ _
    have hholding := Nat.mul_le_mul_right preciseUnit hbalance
    simp only [fund, hw'.scaled]
    omega

/-! ## Issuance and redemption at net asset value -/

/-- The hooks of a manager on issuance and redemption at net asset value take nothing. -/
structure NavHooks (env : Env) (setToken : Address) : Prop where
  /-- The hook on issuance. -/
  issue : ∀ hook reserveAsset quantity caller recipient w w',
    env.navPreIssueHook hook setToken reserveAsset quantity caller recipient w = .ok w' →
      TakesOnly setToken [] w w'
  /-- The hook on redemption. -/
  redeem : ∀ hook quantity caller recipient w w',
    env.navPreRedeemHook hook setToken quantity caller recipient w = .ok w' →
      TakesOnly setToken [] w w'

open NavCollateral NavIssuanceModule

variable {a : NavCollateral.Action}

/-- The hook of a call, and what it took. -/
theorem takesOnly_of_callHooks (hooks : NavHooks env setToken)
    (h : a.callHooks env setToken w = .ok w₁) : TakesOnly setToken [] w w₁ := by
  cases a with
  | issue =>
    simp only [Action.callHooks, callPreIssueHooks] at h
    split_ifs at h
    · exact hooks.issue _ _ _ _ _ _ _ h
    · obtain rfl := Except.ok.inj h
      exact .refl setToken [] w
  | redeem =>
    simp only [Action.callHooks, callPreRedeemHooks] at h
    split_ifs at h
    · exact hooks.redeem _ _ _ _ _ _ h
    · obtain rfl := Except.ok.inj h
      exact .refl setToken [] w

/-- A call that succeeds called its hook. A redemption pays out no more than is tracked. -/
theorem callHooks_of_run (hm : 0 < (w.setTokens setToken).positionMultiplier)
    (hooks : NavHooks env setToken) (h : a.run self env setToken w = .ok w') :
    ∃ w₁, a.callHooks env setToken w = .ok w₁ ∧
      ∀ msgSender reserveAsset quantity minReceive recipient,
        a = .redeem msgSender reserveAsset quantity minReceive recipient →
          redeemedReserve env w₁ setToken reserveAsset quantity ≤
            trackedReserve w₁ setToken reserveAsset := by
  cases a with
  | issue msgSender reserveAsset quantity minReceive recipient =>
    simp only [Action.run, issue, bind_eq_ok] at h
    obtain ⟨-, -, -, -, w₁, hhook, -⟩ := h
    exact ⟨w₁, hhook, fun _ _ _ _ _ he => nomatch he⟩
  | redeem msgSender reserveAsset quantity minReceive recipient =>
    simp only [Action.run, redeem, bind_eq_ok] at h
    obtain ⟨-, -, -, -, w₁, hhook, info, hinfo, -⟩ := h
    have htakes := takesOnly_of_callHooks (a := .redeem msgSender reserveAsset quantity minReceive
      recipient) hooks hhook
    have hspec := createRedemptionInfo_spec (by rw [htakes.positions]; exact hm) hinfo
    refine ⟨w₁, hhook, fun _ _ _ _ _ he => ?_⟩
    cases he
    exact hspec.outflow_le

variable (self) in
/-- What a call leaves of the reserve asset is the unit that it writes, for the new supply. -/
theorem reserve_le (hsender : a.msgSender ≠ setToken)
    (hredeemed : ∀ msgSender reserveAsset quantity minReceive recipient,
      a = .redeem msgSender reserveAsset quantity minReceive recipient →
        redeemedReserve env w setToken reserveAsset quantity ≤
          trackedReserve w setToken reserveAsset) :
    reserveUnitAfter self env w setToken a * supplyAfter self env w setToken a +
        (w.tokens a.reserveAsset).balances setToken * preciseUnit ≤
      unit (w.setTokens setToken) a.reserveAsset * w.totalSupply setToken +
        balanceAfter self env w setToken a a.reserveAsset * preciseUnit := by
  have htracked : trackedReserve w setToken a.reserveAsset * preciseUnit ≤
      unit (w.setTokens setToken) a.reserveAsset * w.totalSupply setToken :=
    Nat.div_mul_le_self _ _
  cases a with
  | issue msgSender reserveAsset quantity minReceive recipient =>
    have hsender' : msgSender ≠ setToken := hsender
    have hfloor : reserveUnitAfter self env w setToken
          (.issue msgSender reserveAsset quantity minReceive recipient) *
        supplyAfter self env w setToken
          (.issue msgSender reserveAsset quantity minReceive recipient) ≤
        (trackedReserve w setToken reserveAsset + issueNetFlow self w setToken quantity) *
          preciseUnit := Nat.div_mul_le_self _ _
    have hbalance : (w.tokens reserveAsset).balances setToken +
        issueNetFlow self w setToken quantity ≤ balanceAfter self env w setToken
          (.issue msgSender reserveAsset quantity minReceive recipient) reserveAsset := by
      simp only [balanceAfter, received, paid, only, hsender', if_true, if_false]
      omega
    have hheld := Nat.mul_le_mul_right preciseUnit hbalance
    simp only [Action.reserveAsset] at htracked ⊢
    rw [Nat.add_mul] at hfloor hheld
    omega
  | redeem msgSender reserveAsset quantity minReceive recipient =>
    have hsender' : msgSender ≠ setToken := hsender
    have hpaid := hredeemed _ _ _ _ _ rfl
    have hfloor : reserveUnitAfter self env w setToken
          (.redeem msgSender reserveAsset quantity minReceive recipient) *
        supplyAfter self env w setToken
          (.redeem msgSender reserveAsset quantity minReceive recipient) ≤
        (trackedReserve w setToken reserveAsset -
          redeemedReserve env w setToken reserveAsset quantity) * preciseUnit :=
      Nat.div_mul_le_self _ _
    have hbalance : (w.tokens reserveAsset).balances setToken ≤ balanceAfter self env w setToken
          (.redeem msgSender reserveAsset quantity minReceive recipient) reserveAsset +
        redeemedReserve env w setToken reserveAsset quantity := by
      simp only [balanceAfter, received, paid, only, hsender', if_true, if_false, ite_self]
      omega
    have hheld := Nat.mul_le_mul_right preciseUnit hbalance
    have hpaid' := Nat.mul_le_mul_right preciseUnit hpaid
    simp only [Action.reserveAsset] at htracked ⊢
    rw [Nat.sub_mul] at hfloor
    rw [Nat.add_mul] at hheld
    omega

/-- `NavIssuanceModule.issue` and `redeem`. -/
theorem accounted_nav (hooks : NavHooks env setToken) (hs : Sound (w.setTokens setToken))
    (hsender : a.msgSender ≠ setToken) (h : a.run self env setToken w = .ok w') :
    Accounted setToken (w.totalSupply setToken) w w' := by
  obtain ⟨w₁, hhook, hredeemed⟩ := callHooks_of_run hs.multiplier_pos hooks h
  have htakes := takesOnly_of_callHooks hooks hhook
  have hbefore := accounted_of_takesOnly hs htakes
  have hs₁ := hbefore.sound
  have hw' := rebalanced_of_run hs₁.multiplier_pos hhook h
  obtain ⟨l, hlist, hpositions⟩ := hw'.positions
  obtain ⟨hsound, hreserve, hothers⟩ :=
    (hs₁.scaled hw'.multiplier_pos).withDefaultPosition hlist hpositions
  rw [← htakes.supply, ← Nat.zero_add (w₁.totalSupply setToken)]
  refine hbefore.trans ⟨hsound, Funds.Step.run (.dilute _ fun c => ?_)⟩
  change unit (w'.setTokens setToken) c * w'.totalSupply setToken +
      (w₁.tokens c).balances setToken * preciseUnit ≤
    unit (w₁.setTokens setToken) c * w₁.totalSupply setToken +
      (w'.tokens c).balances setToken * preciseUnit + w₁.totalSupply setToken
  rw [hw'.supply, hw'.balances c]
  by_cases hc : c = a.reserveAsset
  · -- the unit of the reserve asset is written, and what is tracked of it covers it
    subst hc
    have hwritten := Nat.mul_le_mul_right (supplyAfter self env w₁ setToken a) hreserve
    have htracked := reserve_le self hsender hredeemed
    omega
  · -- the other components are scaled
    have hne : (supplyAfter self env w₁ setToken a : ℤ) ≠ 0 := by
      have := hw'.supply_pos
      omega
    have hunit : unit (rescaled w₁ setToken (supplyAfter self env w₁ setToken a)) c *
          supplyAfter self env w₁ setToken a ≤
        unit (w₁.setTokens setToken) c * w₁.totalSupply setToken + w₁.totalSupply setToken :=
      unit_mul_supply_le hs₁ hw'.multiplier_pos (Int.ediv_mul_le _ hne) c
    have hsame : unit (w'.setTokens setToken) c =
        unit (rescaled w₁ setToken (supplyAfter self env w₁ setToken a)) c := hothers c hc
    have hheld := Nat.mul_le_mul_right preciseUnit
      (le_balanceAfter self env w₁ hc hsender)
    rw [hsame]
    omega

end Solvency

end SetProtocol
