import SetProtocol.Yield.Rebalance

set_option relaxedAutoImplicit false
set_option autoImplicit false

/-!
# The reserve

Of each asset the strategy keeps a part on the Set, and has the rest in the pool. What it has in the
pool is its share of the reserves of the pool, for the liquidity tokens that are staked. What is more
than the part may be put into the pool, and where there is less, liquidity tokens are unstaked and
given back for assets.

## Main definitions

* `SetProtocol.UniswapYieldStrategy.desiredReserve` — what is to be kept of an asset.

## Main results

* `SetProtocol.UniswapYieldStrategy.reserve_of_engageInternal` — what goes into the pool leaves the
  desired reserve on the Set.
* `SetProtocol.UniswapYieldStrategy.reserve_of_disengage` — what comes out of the pool makes up for
  what lacks of it, but for roundings.
-/

namespace SetProtocol

open Checked

namespace UniswapYieldStrategy

variable {u : UniswapYieldStrategy} {self : Address} {env : YieldEnv} {w w' : World}
  {quantity : ℕ}

/-- What is to be kept of an asset, where the pool has `reserve` of it and the Set `balance`. -/
def desiredReserve (u : UniswapYieldStrategy) (env : YieldEnv) (w : World)
    (reserve balance : ℕ) : ℕ :=
  (reserve * u.staked env w / w.totalSupply u.lpToken + balance) * u.reservePercentage /
    preciseUnit

/-- The reserves to keep, and the balances of the Set. -/
theorem getDesiredSingleAssetReserve_spec {r : ℕ × ℕ × ℕ × ℕ}
    (h : u.getDesiredSingleAssetReserve env w = .ok r) :
    ∃ reserveOne reserveTwo, u.getReservesSafe env w = .ok (reserveOne, reserveTwo) ∧
      r = (u.desiredReserve env w reserveOne (u.balanceOnSet w u.assetOne),
        u.desiredReserve env w reserveTwo (u.balanceOnSet w u.assetTwo),
        u.balanceOnSet w u.assetOne, u.balanceOnSet w u.assetTwo) ∧
      InUint256 (u.balanceOnSet w u.assetOne) ∧ InUint256 (u.balanceOnSet w u.assetTwo) := by
  simp only [getDesiredSingleAssetReserve, getTotalLPReserves, bind_eq_ok, SafeMath.mul_eq_ok,
    SafeMath.div_eq_ok, SafeMath.add_eq_ok, PreciseUnitMath.preciseMul_eq_ok, pure_eq_ok,
    Prod.exists, Prod.mk.injEq] at h
  obtain ⟨_, _, ⟨reserveOne, reserveTwo, hreserves, _, ⟨-, rfl⟩, _, ⟨-, rfl⟩, _, ⟨-, rfl⟩, _,
    ⟨-, rfl⟩, rfl, rfl⟩, _, ⟨hone, rfl⟩, _, ⟨-, rfl⟩, _, ⟨htwo, rfl⟩, _, ⟨-, rfl⟩, rfl⟩ := h
  refine ⟨reserveOne, reserveTwo, hreserves, rfl, ?_, ?_⟩
  · exact lt_of_le_of_lt (Nat.le_add_left _ _) hone
  · exact lt_of_le_of_lt (Nat.le_add_left _ _) htwo

/-! ## Into the pool -/

/-- What the Set has more than the reserve of each asset goes into the pool. -/
theorem calculateEngageQuantities_spec {quantityOne quantityTwo : ℕ}
    (h : u.calculateEngageQuantities env w = .ok (quantityOne, quantityTwo)) :
    ∃ reserveOne reserveTwo, u.getReservesSafe env w = .ok (reserveOne, reserveTwo) ∧
      u.desiredReserve env w reserveOne (u.balanceOnSet w u.assetOne) + quantityOne =
        u.balanceOnSet w u.assetOne ∧
      u.desiredReserve env w reserveTwo (u.balanceOnSet w u.assetTwo) + quantityTwo =
        u.balanceOnSet w u.assetTwo ∧
      InUint256 quantityOne ∧ InUint256 quantityTwo := by
  simp only [calculateEngageQuantities, bind_eq_ok, require_eq_ok, SafeMath.sub_eq_ok, pure_eq_ok,
    Prod.exists, Prod.mk.injEq] at h
  obtain ⟨_, _, _, _, hdesired, -, -, _, ⟨hone, rfl⟩, _, ⟨htwo, rfl⟩, rfl, rfl⟩ := h
  obtain ⟨reserveOne, reserveTwo, hreserves, heq, hfitOne, hfitTwo⟩ :=
    getDesiredSingleAssetReserve_spec hdesired
  simp only [Prod.mk.injEq] at heq
  obtain ⟨rfl, rfl, rfl, rfl⟩ := heq
  refine ⟨reserveOne, reserveTwo, hreserves, Nat.add_sub_cancel' hone, Nat.add_sub_cancel' htwo,
    ?_, ?_⟩
  · exact lt_of_le_of_lt (Nat.sub_le _ _) hfitOne
  · exact lt_of_le_of_lt (Nat.sub_le _ _) hfitTwo

/-- **Engaging keeps the reserve**: after the assets were rebalanced, what goes into the pool leaves
on the Set the part of each that is to be kept. -/
theorem reserve_of_engageInternal (hr : u.Reliable env) (hu : u.Separate)
    (h : u.engageInternal self env w = .ok w') :
    ∃ w₁ reserveOne reserveTwo, u.rebalanceInternal self env w 0 = .ok w₁ ∧
      u.getReservesSafe env w₁ = .ok (reserveOne, reserveTwo) ∧
      u.desiredReserve env w₁ reserveOne (u.balanceOnSet w₁ u.assetOne) ≤
        u.balanceOnSet w' u.assetOne ∧
      u.desiredReserve env w₁ reserveTwo (u.balanceOnSet w₁ u.assetTwo) ≤
        u.balanceOnSet w' u.assetTwo := by
  simp only [engageInternal, bind_eq_ok, Prod.exists] at h
  obtain ⟨w₁, hrebalance, quantityOne, quantityTwo, hquantities, w₂, lpBalance, hadd, w₃, hstake,
    hupdate⟩ := h
  obtain ⟨reserveOne, reserveTwo, hreserves, hone, htwo, hfitOne, hfitTwo⟩ :=
    calculateEngageQuantities_spec hquantities
  obtain ⟨taken, hstake⟩ := flow_of_approveAndStake hr hstake
  obtain ⟨htokens, -⟩ := updatePositions_spec hupdate
  have hflow := (flow_of_approveAndAddLiquidity hr hfitOne hfitTwo hadd).trans hstake
  have hleftOne := hflow.balances u.assetOne
  have hleftTwo := hflow.balances u.assetTwo
  simp only [only, if_true, if_neg hu.assets, if_neg hu.assets.symm, if_neg hu.assetOne,
    if_neg hu.assetTwo, Nat.add_zero, Nat.zero_add] at hleftOne hleftTwo
  refine ⟨w₁, reserveOne, reserveTwo, hrebalance, hreserves, ?_, ?_⟩
  · unfold balanceOnSet at hone ⊢
    rw [htokens]
    omega
  · unfold balanceOnSet at htwo ⊢
    rw [htokens]
    omega

/-- A tenth of eleven hundred tokens stays on the Set, five hundred of which were in the pool. -/
theorem reserve_of_engageInternal_example :
    ∃ w w₁ reserveOne reserveTwo,
      farmStrategy.engageInternal 7 farm (farmWorld (10 ^ 9) (2 * 10 ^ 8)) = .ok w ∧
      farmStrategy.balanceOnSet w 11 = 11 * 10 ^ 7 ∧
      farmStrategy.desiredReserve farm w₁ reserveOne (farmStrategy.balanceOnSet w₁ 11) ≤
        11 * 10 ^ 7 ∧
      farmStrategy.desiredReserve farm w₁ reserveTwo (farmStrategy.balanceOnSet w₁ 12) ≤
        farmStrategy.balanceOnSet w 12 := by
  obtain ⟨w, hrun, hbalance⟩ := exists_of_yields
    (x := farmStrategy.engageInternal 7 farm (farmWorld (10 ^ 9) (2 * 10 ^ 8)))
    (p := fun w => farmStrategy.balanceOnSet w 11 = 11 * 10 ^ 7) (by decide +kernel)
  obtain ⟨w₁, reserveOne, reserveTwo, -, -, hone, htwo⟩ :=
    reserve_of_engageInternal reliable_farm separate_farmStrategy hrun
  have hbalance := of_decide_eq_true hbalance
  exact ⟨w, w₁, reserveOne, reserveTwo, hrun, hbalance, hone.trans hbalance.le, htwo⟩

/-! ## Out of the pool -/

/-- What the share of `lp` tokens is short of the need that the tokens are computed from: no more than
one unit, and what one liquidity token stands for. -/
theorem need_lt_of_rate {need reserve supply rate lp lp' : ℕ} (hsupply : 0 < supply)
    (hrate : 0 < rate) (heq : reserve * preciseUnit / supply = rate)
    (hlp : need * preciseUnit / rate = lp) (hle : lp ≤ lp') :
    need * supply < (reserve * lp' / supply + 1) * supply + reserve := by
  have hfloor : rate * supply ≤ reserve * preciseUnit := by
    rw [← heq]
    exact Nat.div_mul_le_self _ _
  have hneed : need * preciseUnit < (lp + 1) * rate := by
    rw [← hlp, Nat.add_mul, Nat.one_mul]
    exact Nat.lt_div_mul_add hrate
  have hpaid : reserve * lp' < (reserve * lp' / supply + 1) * supply := by
    rw [Nat.add_mul, Nat.one_mul]
    exact Nat.lt_div_mul_add hsupply
  have hscaled : need * supply * preciseUnit < (reserve * lp' + reserve) * preciseUnit := by
    calc need * supply * preciseUnit = need * preciseUnit * supply := by ring
      _ < (lp + 1) * rate * supply := Nat.mul_lt_mul_of_pos_right hneed hsupply
      _ = (lp + 1) * (rate * supply) := by ring
      _ ≤ (lp' + 1) * (reserve * preciseUnit) :=
          Nat.mul_le_mul (Nat.add_le_add_right hle 1) hfloor
      _ = (reserve * lp' + reserve) * preciseUnit := by ring
  have hshort : need * supply < reserve * lp' + reserve := Nat.lt_of_mul_lt_mul_right hscaled
  omega

/-- Enough liquidity tokens are taken out for what lacks of either asset. -/
theorem calculateDisengageLPQuantity_spec
    (h : u.calculateDisengageLPQuantity env w = .ok quantity) :
    ∃ reserveOne reserveTwo needOne needTwo,
      u.getReservesSafe env w = .ok (reserveOne, reserveTwo) ∧
      u.balanceOnSet w u.assetOne + needOne =
        u.desiredReserve env w reserveOne (u.balanceOnSet w u.assetOne) ∧
      u.balanceOnSet w u.assetTwo + needTwo =
        u.desiredReserve env w reserveTwo (u.balanceOnSet w u.assetTwo) ∧
      needOne * w.totalSupply u.lpToken <
        (reserveOne * quantity / w.totalSupply u.lpToken + 1) * w.totalSupply u.lpToken +
          reserveOne ∧
      needTwo * w.totalSupply u.lpToken <
        (reserveTwo * quantity / w.totalSupply u.lpToken + 1) * w.totalSupply u.lpToken +
          reserveTwo ∧
      InUint256 quantity := by
  simp only [calculateDisengageLPQuantity, getLPReserveExchangeRate, bind_eq_ok, require_eq_ok,
    SafeMath.sub_eq_ok, PreciseUnitMath.preciseDiv_eq_ok, pure_eq_ok, Prod.exists,
    Prod.mk.injEq] at h
  obtain ⟨_, _, ⟨reserveOne, reserveTwo, hreserves, _, ⟨-, hsupply, rfl⟩, _, ⟨-, -, rfl⟩, rfl, rfl⟩,
    _, _, _, _, hdesired, -, -, _, ⟨hone, rfl⟩, lpOne, ⟨hfitOne, hrateOne, hlpOne⟩, _, ⟨htwo, rfl⟩,
    lpTwo, ⟨hfitTwo, hrateTwo, hlpTwo⟩, rfl⟩ := h
  obtain ⟨_, _, hreserves', heq, -, -⟩ := getDesiredSingleAssetReserve_spec hdesired
  obtain ⟨rfl, rfl⟩ := Prod.mk.inj (Except.ok.inj (hreserves.symm.trans hreserves'))
  simp only [Prod.mk.injEq] at heq
  obtain ⟨rfl, rfl, rfl, rfl⟩ := heq
  refine ⟨reserveOne, reserveTwo, _, _, hreserves, Nat.add_sub_cancel' hone,
    Nat.add_sub_cancel' htwo, ?_, ?_, ?_⟩
  · exact need_lt_of_rate hsupply hrateOne rfl hlpOne (Nat.le_max_left _ _)
  · exact need_lt_of_rate hsupply hrateTwo rfl hlpTwo (Nat.le_max_right _ _)
  · apply max_lt
    · exact lt_of_le_of_lt (hlpOne ▸ Nat.div_le_self _ _) hfitOne
    · exact lt_of_le_of_lt (hlpTwo ▸ Nat.div_le_self _ _) hfitTwo

/-- **Disengaging restores the reserve**: after the assets were rebalanced, what comes out of the pool
makes up for what lacks of the part of each that is to be kept, but for one unit and what one
liquidity token stands for. -/
theorem reserve_of_disengage (hr : u.Reliable env) (hu : u.Separate)
    (h : u.disengage self env w = .ok w') :
    ∃ w₁ reserveOne reserveTwo, u.rebalanceInternal self env w 0 = .ok w₁ ∧
      u.getReservesSafe env w₁ = .ok (reserveOne, reserveTwo) ∧
      u.desiredReserve env w₁ reserveOne (u.balanceOnSet w₁ u.assetOne) *
          w₁.totalSupply u.lpToken <
        (u.balanceOnSet w' u.assetOne + 1) * w₁.totalSupply u.lpToken + reserveOne ∧
      u.desiredReserve env w₁ reserveTwo (u.balanceOnSet w₁ u.assetTwo) *
          w₁.totalSupply u.lpToken <
        (u.balanceOnSet w' u.assetTwo + 1) * w₁.totalSupply u.lpToken + reserveTwo := by
  simp only [disengage, bind_eq_ok] at h
  obtain ⟨w₁, hrebalance, quantity, hquantity, w₂, hunstake, w₃, hremove, hupdate⟩ := h
  obtain ⟨reserveOne, reserveTwo, needOne, needTwo, hreserves, hone, htwo, hneedOne, hneedTwo,
    hfit⟩ := calculateDisengageLPQuantity_spec hquantity
  obtain ⟨hunstake, -, hpool, hsupply⟩ := flow_of_unstake hr hunstake
  obtain ⟨htokens, -⟩ := updatePositions_spec hupdate
  have hreserves₂ : u.getReservesSafe env w₂ = .ok (reserveOne, reserveTwo) := by
    rw [getReservesSafe, hpool]
    exact hreserves
  have hflow := hunstake.trans (flow_of_approveAndRemoveLiquidity hr hfit hreserves₂ hremove)
  have hgotOne := hflow.balances u.assetOne
  have hgotTwo := hflow.balances u.assetTwo
  simp only [only, if_true, if_neg hu.assets, if_neg hu.assets.symm, if_neg hu.assetOne,
    if_neg hu.assetTwo, Nat.add_zero, Nat.zero_add, hsupply] at hgotOne hgotTwo
  refine ⟨w₁, reserveOne, reserveTwo, hrebalance, hreserves, ?_, ?_⟩
  · have hscaled := Nat.mul_le_mul_right (w₁.totalSupply u.lpToken) hgotOne
    rw [← hone, balanceOnSet, balanceOnSet, htokens]
    rw [Nat.add_mul] at hscaled hneedOne ⊢
    rw [Nat.add_mul]
    omega
  · have hscaled := Nat.mul_le_mul_right (w₁.totalSupply u.lpToken) hgotTwo
    rw [← htwo, balanceOnSet, balanceOnSet, htokens]
    rw [Nat.add_mul] at hscaled hneedTwo ⊢
    rw [Nat.add_mul]
    omega

/-- Ten tokens are on the Set, and fifty-one are a tenth of all. -/
theorem reserve_of_disengage_example :
    ∃ w w₁ reserveOne reserveTwo,
      farmStrategy.disengage 7 farm (farmWorld (10 ^ 7) (10 ^ 7)) = .ok w ∧
      farmStrategy.balanceOnSet w 11 = 51 * 10 ^ 6 ∧
      farmStrategy.desiredReserve farm w₁ reserveOne (farmStrategy.balanceOnSet w₁ 11) *
          w₁.totalSupply 30 <
        (farmStrategy.balanceOnSet w 11 + 1) * w₁.totalSupply 30 + reserveOne ∧
      farmStrategy.desiredReserve farm w₁ reserveTwo (farmStrategy.balanceOnSet w₁ 12) *
          w₁.totalSupply 30 <
        (farmStrategy.balanceOnSet w 12 + 1) * w₁.totalSupply 30 + reserveTwo := by
  obtain ⟨w, hrun, hbalance⟩ := exists_of_yields
    (x := farmStrategy.disengage 7 farm (farmWorld (10 ^ 7) (10 ^ 7)))
    (p := fun w => farmStrategy.balanceOnSet w 11 = 51 * 10 ^ 6) (by decide +kernel)
  obtain ⟨w₁, reserveOne, reserveTwo, -, -, hone, htwo⟩ :=
    reserve_of_disengage reliable_farm separate_farmStrategy hrun
  exact ⟨w, w₁, reserveOne, reserveTwo, hrun, of_decide_eq_true hbalance, hone, htwo⟩

end UniswapYieldStrategy

end SetProtocol
