import SetProtocol.Modules.NavIssuanceModule

set_option relaxedAutoImplicit false
set_option autoImplicit false

/-!
# Whether a redemption is valid

`isRedeemValid` tells before a redemption whether it will pass. It repeats what the redemption
checks: the quantity, the reserve asset, the least supply, and whether the Set has the reserve to
pay out. In the last point it looks at what the redeemer receives, while the redemption pays fees on
top of that. Nor does it look at the supply that is left, which must not be zero.

## Main definitions

* `SetProtocol.NavIssuanceModule.RedeemPasses` — the redemption passes its own checks.

## Main results

* `SetProtocol.NavIssuanceModule.redeemPasses_iff` — when the checks pass.
* `SetProtocol.NavIssuanceModule.isRedeemValid_predicts_iff` — when the view is right.
-/

namespace SetProtocol

open Checked

namespace NavIssuanceModule

variable {self setToken reserveAsset : Address} {env : Env} {w : World} {quantity : ℕ}

/-- The checks of `redeem` pass without a minimum: `_validateCommon`, `_createRedemptionInfo` and
`_validateRedemptionInfo`. -/
def RedeemPasses (self : Address) (env : Env) (w : World) (setToken reserveAsset : Address)
    (quantity : ℕ) : Prop :=
  validateCommon w setToken reserveAsset quantity = .ok () ∧
    ∃ info, createRedemptionInfo self env w setToken reserveAsset quantity = .ok info ∧
      validateRedemptionInfo w setToken 0 info = .ok ()

/-- What the view and the redemption test alike. -/
structure RedeemGuards (w : World) (setToken reserveAsset : Address) (quantity : ℕ) : Prop where
  /-- Something is redeemed. -/
  quantity_pos : 0 < quantity
  /-- The asset is one of the reserve assets. -/
  reserve : w.isReserveAsset setToken reserveAsset = true
  /-- The least supply is left. -/
  supply : (w.navIssuanceSettings setToken).minSetTokenSupply + quantity ≤ w.totalSupply setToken

/-- The numbers of which the view knows nothing fit their types. -/
structure RedeemFits (env : Env) (w : World) (setToken reserveAsset : Address) (quantity : ℕ) :
    Prop where
  /-- The supply as a signed number. -/
  supply : w.totalSupply setToken < 2 ^ 255
  /-- The scaled multiplier. -/
  multiplier : InInt256
    ((w.setTokens setToken).positionMultiplier * (w.totalSupply setToken : ℤ))
  /-- The reserve that is left, in precise units. -/
  reserve : InUint256 ((trackedReserve w setToken reserveAsset -
    redeemedReserve env w setToken reserveAsset quantity) * preciseUnit)

/-! ## What the redemption checks -/

/-- The multiplier is scaled to any supply that is not zero and less than the one before. -/
theorem exists_scaleMultiplier {supply newSupply : ℕ} (hpos : 0 < newSupply)
    (hle : newSupply ≤ supply) (hsupply : supply < 2 ^ 255)
    (hmultiplier : InInt256 ((w.setTokens setToken).positionMultiplier * (supply : ℤ))) :
    ∃ m, scaleMultiplier w setToken supply newSupply = .ok m := by
  simp only [scaleMultiplier, bind_eq_ok, SafeCast.toInt256_eq_ok, SignedSafeMath.mul_eq_ok,
    SignedSafeMath.div_eq_ok]
  exact ⟨_, _, ⟨hsupply, rfl⟩, _, ⟨hmultiplier, rfl⟩, _, ⟨by omega, rfl⟩, by omega, by omega, rfl⟩

/-- A redemption that passes satisfies the tests of the view, leaves some supply, and is covered
with its fees. -/
theorem RedeemPasses.guards (h : RedeemPasses self env w setToken reserveAsset quantity) :
    RedeemGuards w setToken reserveAsset quantity ∧ quantity < w.totalSupply setToken ∧
      redeemedReserve env w setToken reserveAsset quantity ≤
        trackedReserve w setToken reserveAsset := by
  obtain ⟨hcommon, info, hinfo, hvalid⟩ := h
  simp only [validateCommon, bind_eq_ok, require_eq_ok] at hcommon
  obtain ⟨-, hpos, hreserve⟩ := hcommon
  simp only [validateRedemptionInfo, bind_eq_ok, require_eq_ok] at hvalid
  obtain ⟨-, hmin, -⟩ := hvalid
  obtain ⟨_, _, _, _, _, _, -, hlt, -, hcovered, -, rfl⟩ := createRedemptionInfo_eq_ok.mp hinfo
  refine ⟨⟨hpos, hreserve, ?_⟩, hlt, hcovered⟩
  dsimp only at hmin
  omega

/-- A redemption passes when it satisfies the tests of the view, leaves some supply, and is covered
with its fees. -/
theorem redeemPasses_iff {total unit protocolFees managerFee net : ℕ}
    (h : Computed self env w setToken reserveAsset quantity total unit protocolFees managerFee net)
    (hfits : RedeemFits env w setToken reserveAsset quantity) :
    RedeemPasses self env w setToken reserveAsset quantity ↔
      RedeemGuards w setToken reserveAsset quantity ∧ quantity < w.totalSupply setToken ∧
        redeemedReserve env w setToken reserveAsset quantity ≤
          trackedReserve w setToken reserveAsset := by
  constructor
  · exact RedeemPasses.guards
  · rintro ⟨hguards, hlt, hcovered⟩
    have hleft : 0 < w.totalSupply setToken - quantity := Nat.sub_pos_of_lt hlt
    obtain ⟨m, hscale⟩ :=
      exists_scaleMultiplier hleft (Nat.sub_le _ quantity) hfits.supply hfits.multiplier
    have hinfo := createRedemptionInfo_eq_ok.mpr ⟨total, unit, protocolFees, managerFee, net, m, h,
      hlt, hscale, hcovered, hfits.reserve, rfl⟩
    have hmin := Nat.le_sub_of_add_le hguards.supply
    simp only [RedeemPasses, validateCommon, validateRedemptionInfo, bind_eq_ok, require_eq_ok]
    exact ⟨⟨(), hguards.quantity_pos, hguards.reserve⟩, _, hinfo, (), hmin, Nat.zero_le _⟩

/-! ## What the view computes -/

/-- The view is true when its tests pass and the reserve covers what the redeemer receives. Where
the tests pass it computes what the redemption computes. -/
theorem isRedeemValid_spec {valid : Bool}
    (h : isRedeemValid self env w setToken reserveAsset quantity = .ok valid) :
    (¬RedeemGuards w setToken reserveAsset quantity ∧ valid = false) ∨
      (RedeemGuards w setToken reserveAsset quantity ∧
        (∃ total unit protocolFees managerFee net,
          Computed self env w setToken reserveAsset quantity total unit protocolFees managerFee
            net) ∧
        valid = decide (redeemNetFlow self env w setToken reserveAsset quantity ≤
          trackedReserve w setToken reserveAsset)) := by
  unfold isRedeemValid at h
  split_ifs at h with hfirst
  · obtain rfl : false = valid := by simpa using h
    refine .inl ⟨fun hguards => ?_, rfl⟩
    rcases hfirst with hzero | hreserve
    · exact hguards.quantity_pos.ne' hzero
    · rw [hguards.reserve] at hreserve
      exact absurd hreserve (by decide)
  · obtain ⟨hpos, hreserve⟩ := not_or.mp hfirst
    simp only [bind_eq_ok, SafeMath.add_eq_ok] at h
    obtain ⟨_, ⟨-, rfl⟩, h⟩ := h
    split_ifs at h with hsupply
    · obtain rfl : false = valid := by simpa using h
      exact .inl ⟨fun hguards => absurd hguards.supply (not_le.mpr hsupply), rfl⟩
    · simp only [bind_eq_ok, pure_eq_ok, SafeCast.toUint256_eq_ok,
        PreciseUnitMath.preciseMul_eq_ok] at h
      obtain ⟨total, hpaid, ⟨protocolFees, managerFee, net⟩, hsplit, _, hexisting, unit, rfl, _,
        ⟨hfits, rfl⟩, rfl⟩ := h
      have hcomputed : Computed self env w setToken reserveAsset quantity total unit protocolFees
          managerFee net := ⟨hpaid, hsplit, hexisting, hfits⟩
      refine .inr ⟨⟨Nat.pos_of_ne_zero hpos, by simpa using hreserve, not_lt.mp hsupply⟩,
        ⟨total, unit, protocolFees, managerFee, net, hcomputed⟩, ?_⟩
      rw [hcomputed.tracked_eq, ← hcomputed.net_eq]

/-- **The view and the redemption**: where `isRedeemValid` returns, and the numbers of which it
knows nothing fit their types, it predicts whether the checks of `redeem` pass, except in one case.
Its tests pass and the tracked reserve covers what the redeemer receives, but the reserve does not
cover the fees on top of that, or no supply is left. Then it returns `true` for a redemption that
reverts. That no supply is left cannot happen once the module is initialized, for the least supply
that the tests leave is then above zero. -/
theorem isRedeemValid_predicts_iff (hfits : RedeemFits env w setToken reserveAsset quantity)
    {valid : Bool} (h : isRedeemValid self env w setToken reserveAsset quantity = .ok valid) :
    ((valid = true → RedeemPasses self env w setToken reserveAsset quantity) ∧
        (valid = false → ¬RedeemPasses self env w setToken reserveAsset quantity)) ↔
      ¬(RedeemGuards w setToken reserveAsset quantity ∧
        redeemNetFlow self env w setToken reserveAsset quantity ≤
          trackedReserve w setToken reserveAsset ∧
        (trackedReserve w setToken reserveAsset <
            redeemedReserve env w setToken reserveAsset quantity ∨
          w.totalSupply setToken = quantity)) := by
  rcases isRedeemValid_spec h with ⟨hguards, rfl⟩ |
    ⟨hguards, ⟨total, unit, protocolFees, managerFee, net, hcomputed⟩, rfl⟩
  · constructor
    · intro _ hcase
      exact hguards hcase.1
    · intro _
      exact ⟨fun h => absurd h (by decide), fun _ hpasses => hguards hpasses.guards.1⟩
  · rw [decide_eq_true_eq, decide_eq_false_iff_not, redeemPasses_iff hcomputed hfits]
    have houtflow := hcomputed.outflow
    have hnet := hcomputed.net_eq
    have hmin := hguards.supply
    constructor
    · rintro ⟨hvalid, -⟩ ⟨-, hcovered, hcase⟩
      obtain ⟨-, hlt, hpaid⟩ := hvalid hcovered
      omega
    · intro hcase
      refine ⟨fun hcovered => ⟨hguards, ?_⟩, fun hshort hpasses => ?_⟩
      · by_contra hnot
        exact hcase ⟨hguards, hcovered, by omega⟩
      · omega

/-- The Set `100` with the supply of two whole Sets, the reserve asset `50` at the given unit, and a
fee of a tenth on redemption. -/
def exampleRedeemWorld (unit : ℤ) : World :=
  { tokens := fun a => if a = 100 then { totalSupply := 2 * 10 ^ 18 } else { decimals := 18 }
    setTokens := fun _ => { componentPositions := fun _ => { virtualUnit := unit } }
    navIssuanceSettings := fun _ => { managerFees := (0, 10 ^ 17), minSetTokenSupply := 1 }
    isReserveAsset := fun _ a => a = 50 }

/-- Each Set has the value of one whole unit of the reserve asset. -/
def exampleRedeemEnv : Env := { calculateSetTokenValuation := fun _ _ _ => .ok (10 ^ 18) }

/-- The reserve at the unit 1 covers a redemption, and the view says so. -/
theorem isRedeemValid_predicts_iff_example :
    isRedeemValid 8 exampleRedeemEnv (exampleRedeemWorld (10 ^ 18)) 100 50 (10 ^ 18) = .ok true ∧
      RedeemPasses 8 exampleRedeemEnv (exampleRedeemWorld (10 ^ 18)) 100 50 (10 ^ 18) := by
  have hfits : RedeemFits exampleRedeemEnv (exampleRedeemWorld (10 ^ 18)) 100 50 (10 ^ 18) :=
    ⟨by decide, by decide, by decide +kernel⟩
  have hview : isRedeemValid 8 exampleRedeemEnv (exampleRedeemWorld (10 ^ 18)) 100 50 (10 ^ 18) =
      .ok true := by decide +kernel
  have hcase : ¬(trackedReserve (exampleRedeemWorld (10 ^ 18)) 100 50 <
      redeemedReserve exampleRedeemEnv (exampleRedeemWorld (10 ^ 18)) 100 50 (10 ^ 18) ∨
      (exampleRedeemWorld (10 ^ 18)).totalSupply 100 = 10 ^ 18) := by decide +kernel
  have hpredicts := (isRedeemValid_predicts_iff hfits hview).mpr fun h => hcase h.2.2
  exact ⟨hview, hpredicts.1 rfl⟩

/-- The reserve at the unit 0.475 covers what the redeemer receives, 0.9, but not the fee on top of
that: the view is true, and the redemption reverts. -/
theorem isRedeemValid_ignores_fees :
    isRedeemValid 8 exampleRedeemEnv (exampleRedeemWorld (475 * 10 ^ 15)) 100 50 (10 ^ 18) =
        .ok true ∧
      RedeemFits exampleRedeemEnv (exampleRedeemWorld (475 * 10 ^ 15)) 100 50 (10 ^ 18) ∧
      ¬RedeemPasses 8 exampleRedeemEnv (exampleRedeemWorld (475 * 10 ^ 15)) 100 50 (10 ^ 18) := by
  refine ⟨by decide +kernel, ⟨by decide, by decide, by decide +kernel⟩, fun hpasses => ?_⟩
  exact absurd hpasses.guards.2.2 (by decide +kernel)

end NavIssuanceModule

end SetProtocol
