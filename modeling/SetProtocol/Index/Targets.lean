import SetProtocol.Index.Rebalance

set_option relaxedAutoImplicit false
set_option autoImplicit false

/-!
# Trades towards the target

The direction and the size of a trade are decided on amounts for the whole supply: the target
rounded up, and the unit rounded down. What is held after the trade gives the new unit, rounded
down, which is stored under the position multiplier and read back, rounded down twice more.

A supply below one can make a trade a buy although the unit is above its target. The last two
roundings lose as soon as the multiplier does not divide the unit, so that a trade that is not
capped ends below its target, and the target is not met.

## Main definitions

* `SetProtocol.IndexTargets.notionalGap` — the size of a trade that is not capped.
* `SetProtocol.IndexTargets.TradesTowards` — the direction of a trade, and the unit after it.

## Main results

* `SetProtocol.IndexTargets.trade_towards_target` — every trade is such a trade, and when it makes
  all targets met.
* `SetProtocol.IndexTargets.trade_misses_target` — trades in the wrong direction, and beyond the
  target.
-/

namespace SetProtocol

open Checked Transition

namespace IndexTargets

open SingleIndexModule IndexRebalance

/-! ## The sizes -/

section Sizes

variable {supply m maxSize t u amount post n : ℕ} {isBuy : Bool} {u' : ℤ}

/-- The amount of the unit `u` for the whole supply. -/
def currentNotional (supply u : ℕ) : ℕ := supply * u / preciseUnit

/-- The amount of the target `t` for the whole supply. -/
def targetNotional (supply t : ℕ) : ℕ := (supply * t) ⌈/⌉ preciseUnit

/-- What is to be traded in all, in whichever direction. -/
def notionalGap (supply t u : ℕ) : ℕ :=
  (targetNotional supply t - currentNotional supply u) +
    (currentNotional supply u - targetNotional supply t)

/-- What is held after a trade of the gap, or of the largest size `maxSize`. -/
structure HeldAfter (supply maxSize t u : ℕ) (isBuy : Bool) (post : ℕ) : Prop where
  /-- The direction is decided on the amounts. -/
  direction : isBuy = true ↔ currentNotional supply u < targetNotional supply t
  /-- A sale stays between both amounts. -/
  sold : isBuy = false → targetNotional supply t ≤ post ∧ post ≤ currentNotional supply u
  /-- So does a buy. -/
  bought : isBuy = true → currentNotional supply u ≤ post ∧ post ≤ targetNotional supply t
  /-- A buy of some size buys something. -/
  gained : isBuy = true → 0 < maxSize → currentNotional supply u < post
  /-- A trade that is not capped comes to the amount of the target. -/
  met : notionalGap supply t u ≤ maxSize → post = targetNotional supply t

/-- The smaller one of the largest size and the gap moves the amount like this. -/
theorem heldAfter_of_moved
    (hdirection : isBuy = true ↔ currentNotional supply u < targetNotional supply t)
    (hmoved : post + (if isBuy = true then 0 else min maxSize (notionalGap supply t u)) =
      currentNotional supply u +
        (if isBuy = true then min maxSize (notionalGap supply t u) else 0)) :
    HeldAfter supply maxSize t u isBuy post := by
  unfold notionalGap at hmoved
  cases isBuy with
  | true =>
    have hlt := hdirection.mp rfl
    simp only [if_true] at hmoved
    refine ⟨hdirection, nofun, fun _ => ⟨by omega, by omega⟩, fun _ hsize => by omega, ?_⟩
    unfold notionalGap
    omega
  | false =>
    have hle : targetNotional supply t ≤ currentNotional supply u :=
      not_lt.mp fun hlt => Bool.false_ne_true (hdirection.mpr hlt)
    simp only [Bool.false_eq_true, if_false] at hmoved
    refine ⟨hdirection, fun _ => ⟨by omega, by omega⟩, nofun, nofun, ?_⟩
    unfold notionalGap
    omega

/-! ## The unit after the trade -/

/-- The direction of a trade of a component with the unit `u` and the target `t`, and the unit `u'`
that is read after it, under the multiplier `m`. -/
structure TradesTowards (supply m maxSize t u : ℕ) (isBuy : Bool) (u' : ℤ) : Prop where
  /-- The direction is decided on the amounts for the whole supply. -/
  direction : isBuy = true ↔ currentNotional supply u < targetNotional supply t
  /-- What is below its target is bought. -/
  buys : u < t → isBuy = true
  /-- What is above its target is sold, for a supply of one or more. -/
  sells : preciseUnit ≤ supply → t < u → isBuy = false
  /-- A sale does not raise the unit, and takes it below the target by less than one and the share
  of the multiplier. -/
  sold : isBuy = false → u' ≤ u ∧ (t - u' - 1) * preciseUnitInt < m
  /-- A buy takes the unit above the target by less than the share of the supply, and lowers it by
  less than two and the shares of the supply and of the multiplier. -/
  bought : isBuy = true → (u' - t) * supply < preciseUnitInt ∧
    (u - u' - 2) * (supply * preciseUnitInt) < preciseUnitInt * preciseUnitInt + m * supply
  /-- A buy of some size lowers the unit by less than one and the share of the multiplier. -/
  gained : isBuy = true → 0 < maxSize → (u - u' - 1) * preciseUnitInt < m
  /-- Under a multiplier that divides one, a sale does not take the unit below the target, and a buy
  of some size does not lower it. -/
  exact : (m : ℤ) ∣ preciseUnitInt →
    (isBuy = false → (t : ℤ) ≤ u') ∧ (isBuy = true → 0 < maxSize → (u : ℤ) ≤ u')
  /-- A trade that is not capped comes as close to the target as the supply and the multiplier
  allow. -/
  uncapped : notionalGap supply t u ≤ maxSize →
    (u' - t) * supply < preciseUnitInt ∧ (t - u' - 1) * preciseUnitInt < m
  /-- For a supply of one or more it meets the target exactly when the multiplier divides it. -/
  met_iff : preciseUnit ≤ supply → notionalGap supply t u ≤ maxSize →
    (u' = t ↔ (m : ℤ) ∣ t * preciseUnitInt)

/-- The unit of what is held is at least the target after a sale, and no more than the unit
before. -/
theorem HeldAfter.sold_unit (hsupply : 0 < supply) (h : HeldAfter supply maxSize t u false post) :
    t ≤ post * preciseUnit / supply ∧ post * preciseUnit / supply ≤ u := by
  obtain ⟨hlow, hhigh⟩ := h.sold rfl
  exact ⟨Rounding.le_mul_div_of_ceilDiv_le preciseUnit_pos hsupply hlow,
    Rounding.mul_div_le_of_le_div hhigh⟩

/-- It is above the target by less than the share of the supply after a buy, and no less than the
rounded unit before. -/
theorem HeldAfter.bought_unit (h : HeldAfter supply maxSize t u true post) :
    post * preciseUnit / supply * supply < t * supply + preciseUnit ∧
      roundedUnit supply u ≤ post * preciseUnit / supply := by
  obtain ⟨hlow, hhigh⟩ := h.bought rfl
  refine ⟨Rounding.mul_div_mul_lt_of_le_ceilDiv preciseUnit_pos hhigh, ?_⟩
  rw [currentNotional, Nat.mul_comm] at hlow
  exact Nat.div_le_div_right (Nat.mul_le_mul_right preciseUnit hlow)

/-- It is no less than the unit before after a buy of some size. -/
theorem HeldAfter.gained_unit (hsupply : 0 < supply) (hsize : 0 < maxSize)
    (h : HeldAfter supply maxSize t u true post) : u ≤ post * preciseUnit / supply :=
  Rounding.le_mul_div_of_div_lt preciseUnit_pos hsupply (h.gained rfl hsize)

/-- A bound on what is above the target, of the unit that is held and of the one that is read. -/
theorem excess_lt (hle : u' ≤ n) (h : n * supply < t * supply + preciseUnit) :
    (u' - t) * supply < preciseUnitInt := by
  have hn : (n : ℤ) * supply < t * supply + preciseUnitInt := by
    rw [← natCast_preciseUnit]
    exact_mod_cast h
  have hmul : u' * supply ≤ n * supply :=
    Int.mul_le_mul_of_nonneg_right hle (Int.natCast_nonneg supply)
  linarith

/-- A bound on what is lost of a unit `k` by reading back what is at least `k`. -/
theorem loss_lt {k : ℕ} (hk : k ≤ n) (hback : ReadBack m n u') :
    (k - u' - 1) * preciseUnitInt < m := by
  refine lt_of_le_of_lt ?_ hback.loss
  apply Int.mul_le_mul_of_nonneg_right _ preciseUnitInt_pos.le
  omega

/-- What is held makes the unit that is read one of a trade towards the target. -/
theorem HeldAfter.tradesTowards (hsupply : 0 < supply) (hm : 0 < m)
    (h : HeldAfter supply maxSize t u isBuy post)
    (hu' : u' = (post * preciseUnit / supply : ℕ) * preciseUnitInt / (m : ℤ) * m / preciseUnitInt) :
    TradesTowards supply m maxSize t u isBuy u' := by
  have hm' : (0 : ℤ) < m := Int.natCast_pos.mpr hm
  have hback : ReadBack m (post * preciseUnit / supply : ℕ) u' := hu' ▸ .of_floors hm'
  have hexact : (m : ℤ) ∣ preciseUnitInt → u' = (post * preciseUnit / supply : ℕ) := by
    intro hdvd
    rw [hu']
    exact (Rounding.ediv_mul_ediv_eq_iff preciseUnitInt_pos hm').mpr (hdvd.mul_left _)
  refine ⟨h.direction, fun hlt => ?_, fun hone hlt => ?_, ?_, ?_, ?_, fun hdvd => ⟨?_, ?_⟩,
    fun hmet => ?_, fun hone hmet => ?_⟩
  · exact h.direction.mpr (Rounding.div_lt_ceilDiv preciseUnit_pos hsupply hlt)
  · rw [← Bool.not_eq_true, h.direction, not_lt]
    exact Rounding.ceilDiv_le_div preciseUnit_pos hone hlt
  · rintro rfl
    obtain ⟨hlow, hhigh⟩ := h.sold_unit hsupply
    exact ⟨hback.le.trans (by exact_mod_cast hhigh), loss_lt hlow hback⟩
  · rintro rfl
    obtain ⟨hhigh, hlow⟩ := h.bought_unit
    exact ⟨excess_lt hback.le hhigh, loss_of_roundings hsupply (loss_lt hlow hback)⟩
  · rintro rfl hsize
    exact loss_lt (h.gained_unit hsupply hsize) hback
  · rintro rfl
    rw [hexact hdvd]
    exact_mod_cast (h.sold_unit hsupply).1
  · rintro rfl hsize
    rw [hexact hdvd]
    exact_mod_cast h.gained_unit hsupply hsize
  · have hpost := h.met hmet
    refine ⟨excess_lt hback.le ?_, loss_lt ?_ hback⟩
    · exact Rounding.mul_div_mul_lt_of_le_ceilDiv preciseUnit_pos hpost.le
    · exact Rounding.le_mul_div_of_ceilDiv_le preciseUnit_pos hsupply hpost.ge
  · -- the unit that is held is the target, and what is lost is lost by storing it
    have hunit : post * preciseUnit / supply = t := by
      rw [h.met hmet]
      exact Rounding.ceilDiv_mul_div_eq preciseUnit_pos hone
    rw [hu', hunit]
    exact Rounding.ediv_mul_ediv_eq_iff preciseUnitInt_pos hm'

end Sizes

/-! ## Trades of the module -/

variable {self msgSender txOrigin component : Address} {env : Env} {w w' : World} {m t u : ℕ}
  {isBuy : Bool} {amount : ℕ}

/-- The direction and the size, from the unit and the target. -/
theorem calculateTradeSizeAndDirection_spec
    (hmultiplier : (w.setTokens w.singleIndex.index).positionMultiplier = m)
    (hunit : (w.setTokens w.singleIndex.index).getDefaultPositionRealUnit component =
      .ok (u : ℤ))
    (htarget : normalizeTargetUnit w component m = .ok t)
    (h : calculateTradeSizeAndDirection w component = .ok (isBuy, amount)) :
    (isBuy = true ↔ currentNotional (w.totalSupply w.singleIndex.index) u <
        targetNotional (w.totalSupply w.singleIndex.index) t) ∧
      amount = min (w.singleIndex.assetInfo component).maxSize
        (notionalGap (w.totalSupply w.singleIndex.index) t u) := by
  simp only [calculateTradeSizeAndDirection, currentPositionMultiplier, hmultiplier,
    currentUnit_eq_ok.mpr hunit, htarget, bind_eq_ok, SafeCast.toUint256_eq_ok, Nat.cast_inj,
    exists_eq_left', Except.ok.injEq, Position.getDefaultTotalNotional,
    PreciseUnitMath.preciseMul_eq_ok, PreciseUnitMath.preciseMulCeil_eq_ok] at h
  obtain ⟨-, -, _, ⟨-, rfl⟩, _, ⟨-, rfl⟩, h⟩ := h
  rw [← currentNotional, ← targetNotional] at h
  unfold notionalGap
  split_ifs at h with hdirection
  · simp only [bind_eq_ok, SafeMath.sub_eq_ok, pure_eq_ok, Prod.mk.injEq] at h
    obtain ⟨_, ⟨-, rfl⟩, rfl, rfl⟩ := h
    rw [Nat.sub_eq_zero_of_le hdirection.le, Nat.add_zero]
    exact ⟨by simp [hdirection], rfl⟩
  · simp only [bind_eq_ok, SafeMath.sub_eq_ok, pure_eq_ok, Prod.mk.injEq] at h
    obtain ⟨_, ⟨-, rfl⟩, rfl, rfl⟩ := h
    rw [Nat.sub_eq_zero_of_le (not_lt.mp hdirection), Nat.zero_add]
    exact ⟨by simp [hdirection], rfl⟩

/-- A trade of a component without an untracked balance leaves the unit of what is held. -/
theorem tradesTowards_of_traded (hsupply : 0 < w.totalSupply w.singleIndex.index) (hm : 0 < m)
    (hmultiplier : (w.setTokens w.singleIndex.index).positionMultiplier = m)
    (hunit : (w.setTokens w.singleIndex.index).getDefaultPositionRealUnit component =
      .ok (u : ℤ))
    (htarget : normalizeTargetUnit w component m = .ok t)
    (hbalance : (w.tokens component).balances w.singleIndex.index =
      w.totalSupply w.singleIndex.index * u / preciseUnit)
    (hsize : calculateTradeSizeAndDirection w component = .ok (isBuy, amount))
    (htraded : Traded w w' component isBuy amount) :
    ∃ u' : ℤ,
      (w'.setTokens w.singleIndex.index).getDefaultPositionRealUnit component = .ok u' ∧
      TradesTowards (w.totalSupply w.singleIndex.index) m
        (w.singleIndex.assetInfo component).maxSize t u isBuy u' := by
  obtain ⟨hdirection, rfl⟩ := calculateTradeSizeAndDirection_spec hmultiplier hunit htarget hsize
  have hmoved := htraded.moved
  rw [hbalance, ← currentNotional] at hmoved
  have hheld := heldAfter_of_moved hdirection hmoved
  obtain ⟨unit, n, hunit', hn, hread⟩ := htraded.unit
  rw [hunit] at hunit'
  obtain rfl : u = unit := by exact_mod_cast Except.ok.inj hunit'
  have hnew : (w'.tokens component).balances w.singleIndex.index * preciseUnit /
      w.totalSupply w.singleIndex.index = n := by
    split_ifs at hn with hpost
    · obtain ⟨-, -, -, -, -, hn⟩ := Position.calculateDefaultEditPositionUnit_eq_ok.mp hn
      -- nothing is airdropped
      rwa [hbalance, Nat.mul_comm u, Nat.sub_self, Nat.sub_zero] at hn
    · rw [Nat.eq_zero_of_not_pos hpost, Nat.zero_mul, Nat.zero_div]
      exact Except.ok.inj hn
  rw [hmultiplier, ← hnew] at hread
  exact ⟨_, hread, hheld.tradesTowards hsupply hm rfl⟩

/-- A trade does not change whether the targets of other components are met. -/
theorem targetMet_of_traded {c : Address} (hc : c ≠ component) (hweth : c ≠ w.singleIndex.weth)
    (htraded : Traded w w' component isBuy amount) : TargetMet w' c ↔ TargetMet w c := by
  obtain ⟨hindex, -, htargets⟩ := htraded.targets
  simp only [TargetMet, hindex, htargets, htraded.multiplier, htraded.others c hc hweth]

/-- The target of the component itself is met when the unit that is read is the target. -/
theorem targetMet_iff_of_traded {u' : ℤ}
    (hmultiplier : (w.setTokens w.singleIndex.index).positionMultiplier = m)
    (htarget : normalizeTargetUnit w component m = .ok t)
    (htraded : Traded w w' component isBuy amount)
    (hread : (w'.setTokens w.singleIndex.index).getDefaultPositionRealUnit component = .ok u') :
    TargetMet w' component ↔ u' = t := by
  obtain ⟨hindex, -, htargets⟩ := htraded.targets
  simp only [TargetMet, hindex, htargets, htraded.multiplier, hmultiplier, Nat.cast_inj,
    exists_and_left, exists_eq_left', htarget, hread, Except.ok.injEq]

/-- When all targets are met after a trade: when that of the component is, and those of the others
were before. -/
theorem allTargetsMet_of_traded {u' : ℤ} (hapart : WethApart w)
    (hmem : component ∈ w.singleIndex.rebalanceComponents)
    (hmultiplier : (w.setTokens w.singleIndex.index).positionMultiplier = m)
    (htarget : normalizeTargetUnit w component m = .ok t)
    (htraded : Traded w w' component isBuy amount)
    (hread : (w'.setTokens w.singleIndex.index).getDefaultPositionRealUnit component = .ok u') :
    allTargetsMet w' = .ok true ↔
      u' = t ∧ ∀ c ∈ w.singleIndex.rebalanceComponents, c ≠ component → TargetMet w c := by
  obtain ⟨hindex, hcomponents, -⟩ := htraded.targets
  have hmultiplier' : (w'.setTokens w'.singleIndex.index).positionMultiplier = m := by
    rw [hindex, htraded.multiplier, hmultiplier]
  rw [allTargetsMet_eq_true hmultiplier', hcomponents,
    ← targetMet_iff_of_traded hmultiplier htarget htraded hread]
  have hothers : ∀ c ∈ w.singleIndex.rebalanceComponents, c ≠ component →
      (TargetMet w' c ↔ TargetMet w c) := by
    intro c hc hne
    refine targetMet_of_traded hne ?_ htraded
    rintro rfl
    exact hapart hc
  constructor
  · intro hall
    exact ⟨hall component hmem, fun c hc hne => (hothers c hc hne).mp (hall c hc)⟩
  · rintro ⟨hself, hrest⟩ c hc
    rcases eq_or_ne c component with rfl | hne
    · exact hself
    · exact (hothers c hc hne).mpr (hrest c hc hne)

/-- A state of the module before a trade of `component`: it is reached from the one that the
constructor leaves, exchanges are exact, the index has a supply and the multiplier `m`, and of the
component, with the unit `u` and the target `t`, it holds no untracked balance. -/
structure Tradeable (module : Address) (env : Env) (w : World) (component : Address)
    (m t u : ℕ) : Prop where
  /-- The calls of the module so far. -/
  reached : ∃ w₀, w₀.singleIndex.rebalanceComponents = [] ∧ Reach (step module env) w₀ w
  /-- The exchange. -/
  exchange : ExactExchange env w.singleIndex.index
  /-- The supply. -/
  supply_pos : 0 < w.totalSupply w.singleIndex.index
  /-- The multiplier is positive. -/
  multiplier_pos : 0 < m
  /-- The multiplier. -/
  multiplier : (w.setTokens w.singleIndex.index).positionMultiplier = m
  /-- The unit. -/
  unit : (w.setTokens w.singleIndex.index).getDefaultPositionRealUnit component = .ok (u : ℤ)
  /-- The target. -/
  target : normalizeTargetUnit w component m = .ok t
  /-- The balance. -/
  balance : (w.tokens component).balances w.singleIndex.index =
    currentNotional (w.totalSupply w.singleIndex.index) u

/-- **Trades towards the target**: a trade of a component with the unit `u` and the target `t` has
the direction, and leaves the unit, of a trade towards the target. One that is not capped makes all
targets met, for a supply of one or more, exactly when the multiplier divides the target and the
targets of the other components were met before. -/
theorem trade_towards_target (hw : Tradeable self env w component m t u)
    (h : trade self env w msgSender txOrigin component = .ok w') :
    ∃ isBuy amount, calculateTradeSizeAndDirection w component = .ok (isBuy, amount) ∧
      Traded w w' component isBuy amount ∧
      ∃ u' : ℤ,
        (w'.setTokens w.singleIndex.index).getDefaultPositionRealUnit component = .ok u' ∧
        TradesTowards (w.totalSupply w.singleIndex.index) m
          (w.singleIndex.assetInfo component).maxSize t u isBuy u' ∧
        (preciseUnit ≤ w.totalSupply w.singleIndex.index →
          notionalGap (w.totalSupply w.singleIndex.index) t u ≤
            (w.singleIndex.assetInfo component).maxSize →
          (allTargetsMet w' = .ok true ↔ (m : ℤ) ∣ t * preciseUnitInt ∧
            ∀ c ∈ w.singleIndex.rebalanceComponents, c ≠ component → TargetMet w c)) := by
  obtain ⟨w₀, fresh, reached⟩ := hw.reached
  have hapart : WethApart w := wethApart_of_run hw.exchange.storageSpared fresh reached
  have hm : 0 < (w.setTokens w.singleIndex.index).positionMultiplier := by
    rw [hw.multiplier]
    exact Int.natCast_pos.mpr hw.multiplier_pos
  have hweth : component ≠ w.singleIndex.weth := by
    rintro rfl
    exact hapart (trade_cases h).1
  obtain ⟨hmem, isBuy, amount, hsize, htraded⟩ := trade_spec hw.exchange hm hweth h
  obtain ⟨u', hread, htowards⟩ := tradesTowards_of_traded hw.supply_pos hw.multiplier_pos
    hw.multiplier hw.unit hw.target hw.balance hsize htraded
  refine ⟨isBuy, amount, hsize, htraded, u', hread, htowards, fun hone hmet => ?_⟩
  rw [allTargetsMet_of_traded hapart hmem hw.multiplier hw.target htraded hread,
    htowards.met_iff hone hmet]

/-! ## Example -/

/-- One token is swapped for another one, between the index `100` and the pool `80`. -/
def exampleSwap (sell buy : Address) (amount : ℕ) (w : World) :
    Except Revert (World × List ℕ) := do
  let w ← w.editToken sell fun t => t.transfer 100 80 amount
  let w ← w.editToken buy fun t => t.transfer 80 100 amount
  return (w, [])

/-- Exchanges that swap at the price one. -/
def exampleExchange : Env :=
  { call := fun call w =>
      match call.data with
      | .swap _ amount _ [sell, buy] _ _ => exampleSwap sell buy amount w
      | .smartSwap _ sell buy amount _ _ => exampleSwap sell buy amount w
      | _ => .ok (w, []) }

/-- A transfer changes the balances of one token. -/
theorem editToken_transfer_spec {token sender recipient : Address} (hne : sender ≠ recipient)
    (h : (w.editToken token fun t => t.transfer sender recipient amount) = .ok w') :
    Spares 100 w w' ∧
      (w'.tokens token).balances sender + amount = (w.tokens token).balances sender ∧
      (w'.tokens token).balances recipient = (w.tokens token).balances recipient + amount ∧
      ∀ c, c ≠ token → w'.tokens c = w.tokens c := by
  simp only [World.editToken_eq_ok, ERC20.transfer, ERC20.move_eq_ok] at h
  obtain ⟨_, ⟨-, -, hle, -, rfl⟩, rfl⟩ := h
  have hbalances := ERC20.balances_transferred recipient hle
  refine ⟨spares_setTokenLedger rfl, ?_, ?_, fun c hc => ?_⟩
  · simpa [World.setTokenLedger, hne] using hbalances sender
  · simpa [World.setTokenLedger, hne.symm] using hbalances recipient
  · simp [World.setTokenLedger, hc]

/-- A swap takes and delivers the amount. -/
theorem exampleSwap_spec {sell buy : Address} {words : List ℕ}
    (h : exampleSwap sell buy amount w = .ok (w', words)) :
    Spares 100 w w' ∧ (sell ≠ buy →
      (w'.tokens sell).balances 100 + amount = (w.tokens sell).balances 100 ∧
      (w'.tokens buy).balances 100 = (w.tokens buy).balances 100 + amount) := by
  simp only [exampleSwap, bind_eq_ok, pure_eq_ok, Prod.mk.injEq] at h
  obtain ⟨w₁, hsell, w₂, hbuy, rfl, -⟩ := h
  obtain ⟨hspares₁, hsold, -, hothers₁⟩ := editToken_transfer_spec (by decide) hsell
  obtain ⟨hspares₂, -, hbought, hothers₂⟩ := editToken_transfer_spec (by decide) hbuy
  refine ⟨hspares₁.trans hspares₂, fun hne => ⟨?_, ?_⟩⟩
  · rw [hothers₂ sell hne, hsold]
  · rw [hbought, hothers₁ buy hne.symm]

/-- The exchanges are exact. -/
theorem exactExchange_exampleExchange : ExactExchange exampleExchange 100 := by
  refine ⟨fun call w w' words h => ?_, fun call w w' words sell amount _ hfix h => ?_,
    fun call w w' words buy amount _ hfix h => ?_⟩
  · simp only [exampleExchange] at h
    split at h
    · exact (exampleSwap_spec h).1
    · exact (exampleSwap_spec h).1
    · obtain ⟨rfl, -⟩ := Prod.mk.inj (Except.ok.inj h)
      exact .refl 100 w
  · obtain ⟨caller, target, value, data⟩ := call
    cases hfix with
    | swap distinct => exact ((exampleSwap_spec h).2 distinct).1
    | smartSwap distinct => exact ((exampleSwap_spec h).2 distinct).1
  · obtain ⟨caller, target, value, data⟩ := call
    cases hfix with
    | swap distinct => exact ((exampleSwap_spec h).2 distinct).2
    | smartSwap distinct => exact ((exampleSwap_spec h).2 distinct).2

/-- The Set `100` of the token `11`, with the manager `3`, on which the module `7` is pending.
Wrapped Ether is the token `12`, of which the Set holds one. -/
def exampleWorld (positionMultiplier virtualUnit : ℤ) (supply balance : ℕ) : World :=
  { controller := { isSet := fun a => a = 100, isModule := fun a => a = 7 }
    tokens := fun a =>
      if a = 11 then
        { balances := fun b => if b = 100 then balance else if b = 80 then 1000 else 0
          totalSupply := balance + 1000 }
      else if a = 12 then
        { balances := fun b => if b = 100 then 1 else if b = 80 then 1000 else 0
          totalSupply := 1001 }
      else if a = 100 then
        { balances := fun b => if b = 50 then supply else 0, totalSupply := supply }
      else {}
    setTokens := fun _ =>
      { manager := 3
        components := [11]
        componentPositions := fun a => { virtualUnit := if a = 11 then virtualUnit else 0 }
        moduleStates := fun a => if a = 7 then .pending else .none
        positionMultiplier := positionMultiplier }
    singleIndex := { weth := 12, uniswapRouter := 80 } }

/-- The calls that let anyone trade the token `11` on Uniswap, up to its target. -/
def exampleActions (target positionMultiplier : ℕ) : List Action :=
  [.initializeModule 3 100, .startRebalance 3 [] [] [target] positionMultiplier,
    .setTradeMaximums 3 [11] [1000], .setExchanges 3 [11] [1], .updateAnyoneTrade 3 true]

/-- What is known of a run of these calls, from tests of the state that it ends in. -/
theorem tradeable_of_run {positionMultiplier virtualUnit : ℤ} {supply balance : ℕ}
    {actions : List Action}
    (hrun : runAll (step 7 exampleExchange) actions
      (exampleWorld positionMultiplier virtualUnit supply balance) = .ok w)
    (hindex : w.singleIndex.index = 100)
    (hsupply : 0 < w.totalSupply 100) (hm : 0 < m)
    (hmultiplier : (w.setTokens 100).positionMultiplier = m)
    (hunit : (w.setTokens 100).getDefaultPositionRealUnit 11 = .ok (u : ℤ))
    (htarget : normalizeTargetUnit w 11 m = .ok t)
    (hbalance : (w.tokens 11).balances 100 = currentNotional (w.totalSupply 100) u) :
    Tradeable 7 exampleExchange w 11 m t u := by
  refine ⟨⟨_, ?_, reach_of_runAll hrun⟩, ?_, ?_, hm, ?_, ?_, htarget, ?_⟩
  · rfl
  all_goals rw [hindex]
  · exact exactExchange_exampleExchange
  · exact hsupply
  · exact hmultiplier
  · exact hunit
  · exact hbalance

/-- The unit falls from `20` to the target `11`, and all targets are met. -/
theorem trade_towards_target_example :
    ∃ w w', Tradeable 7 exampleExchange w 11 (10 ^ 18) 11 20 ∧
      trade 7 exampleExchange w 5 5 11 = .ok w' ∧
      (w'.setTokens w.singleIndex.index).getDefaultPositionRealUnit 11 = .ok ((11 : ℕ) : ℤ) ∧
      allTargetsMet w' = .ok true := by
  obtain ⟨w, hrun, h⟩ := exists_of_yields
    (x := runAll (step 7 exampleExchange) (exampleActions 11 (10 ^ 18))
      (exampleWorld preciseUnitInt 20 (10 ^ 19) 200))
    (p := fun w => w.singleIndex.index = 100 ∧ w.totalSupply 100 = 10 ^ 19 ∧
      (w.setTokens 100).positionMultiplier = ((10 ^ 18 : ℕ) : ℤ) ∧
      (w.setTokens 100).getDefaultPositionRealUnit 11 = .ok ((20 : ℕ) : ℤ) ∧
      normalizeTargetUnit w 11 (10 ^ 18) = .ok 11 ∧
      (w.tokens 11).balances 100 = currentNotional (w.totalSupply 100) 20 ∧
      (w.singleIndex.assetInfo 11).maxSize = 1000 ∧
      w.singleIndex.rebalanceComponents = [11] ∧
      yields (trade 7 exampleExchange w 5 5 11) fun _ => true) (by decide +kernel)
  obtain ⟨hindex, hsupply, hmultiplier, hunit, htarget, hbalance, hsize, hcomponents, h⟩ :=
    of_decide_eq_true h
  obtain ⟨w', hw', -⟩ := exists_of_yields h
  have hw : Tradeable 7 exampleExchange w 11 (10 ^ 18) 11 20 := by
    refine tradeable_of_run hrun hindex ?_ (by decide) hmultiplier hunit htarget hbalance
    rw [hsupply]
    decide
  obtain ⟨isBuy, amount, -, -, u', hread, htowards, hall⟩ := trade_towards_target hw hw'
  rw [hindex, hsupply, hsize] at htowards hall
  have hdvd : ((10 ^ 18 : ℕ) : ℤ) ∣ ((11 : ℕ) : ℤ) * preciseUnitInt := by decide
  obtain rfl := (htowards.met_iff (by decide) (by decide)).mpr hdvd
  refine ⟨w, w', hw, hw', hread, (hall (by decide) (by decide)).mpr ⟨hdvd, ?_⟩⟩
  rw [hcomponents]
  intro c hc hne
  exact absurd (List.mem_singleton.mp hc) hne

/-- Under the multiplier 0.9 a sale that is not capped takes the unit from `20` to `10`, below the
target `11`. For a supply of the smallest part of a Set, a component with the unit `2` and the
target `1` is bought, and its unit becomes `10 ^ 18`. -/
theorem trade_misses_target :
    (∃ w w', Tradeable 7 exampleExchange w 11 (9 * 10 ^ 17) 11 20 ∧
      trade 7 exampleExchange w 5 5 11 = .ok w' ∧
      notionalGap (w.totalSupply 100) 11 20 ≤ (w.singleIndex.assetInfo 11).maxSize ∧
      (w'.setTokens 100).getDefaultPositionRealUnit 11 = .ok 10 ∧
      allTargetsMet w' = .ok false) ∧
    ∃ w w', Tradeable 7 exampleExchange w 11 (10 ^ 18) 1 2 ∧
      trade 7 exampleExchange w 5 5 11 = .ok w' ∧
      calculateTradeSizeAndDirection w 11 = .ok (true, 1) ∧
      (w'.setTokens 100).getDefaultPositionRealUnit 11 = .ok (10 ^ 18) := by
  constructor
  · obtain ⟨w, hrun, h⟩ := exists_of_yields
      (x := runAll (step 7 exampleExchange) (exampleActions 11 (9 * 10 ^ 17))
        (exampleWorld (9 * 10 ^ 17) 23 (10 ^ 18) 20))
      (p := fun w => w.singleIndex.index = 100 ∧ 0 < w.totalSupply 100 ∧
        (w.setTokens 100).positionMultiplier = ((9 * 10 ^ 17 : ℕ) : ℤ) ∧
        (w.setTokens 100).getDefaultPositionRealUnit 11 = .ok ((20 : ℕ) : ℤ) ∧
        normalizeTargetUnit w 11 (9 * 10 ^ 17) = .ok 11 ∧
        (w.tokens 11).balances 100 = currentNotional (w.totalSupply 100) 20 ∧
        notionalGap (w.totalSupply 100) 11 20 ≤ (w.singleIndex.assetInfo 11).maxSize ∧
        yields (trade 7 exampleExchange w 5 5 11) fun w' =>
          (w'.setTokens 100).getDefaultPositionRealUnit 11 = .ok 10 ∧
            allTargetsMet w' = .ok false) (by decide +kernel)
    obtain ⟨hindex, hsupply, hmultiplier, hunit, htarget, hbalance, hgap, h⟩ :=
      of_decide_eq_true h
    obtain ⟨w', hw', h⟩ := exists_of_yields h
    obtain ⟨hread, hunmet⟩ := of_decide_eq_true h
    exact ⟨w, w', tradeable_of_run hrun hindex hsupply (by decide) hmultiplier hunit htarget
      hbalance, hw', hgap, hread, hunmet⟩
  · obtain ⟨w, hrun, h⟩ := exists_of_yields
      (x := runAll (step 7 exampleExchange) (exampleActions 1 (10 ^ 18))
        (exampleWorld preciseUnitInt 2 1 0))
      (p := fun w => w.singleIndex.index = 100 ∧ 0 < w.totalSupply 100 ∧
        (w.setTokens 100).positionMultiplier = ((10 ^ 18 : ℕ) : ℤ) ∧
        (w.setTokens 100).getDefaultPositionRealUnit 11 = .ok ((2 : ℕ) : ℤ) ∧
        normalizeTargetUnit w 11 (10 ^ 18) = .ok 1 ∧
        (w.tokens 11).balances 100 = currentNotional (w.totalSupply 100) 2 ∧
        calculateTradeSizeAndDirection w 11 = .ok (true, 1) ∧
        yields (trade 7 exampleExchange w 5 5 11) fun w' =>
          (w'.setTokens 100).getDefaultPositionRealUnit 11 = .ok (10 ^ 18)) (by decide +kernel)
    obtain ⟨hindex, hsupply, hmultiplier, hunit, htarget, hbalance, hsize, h⟩ :=
      of_decide_eq_true h
    obtain ⟨w', hw', hread⟩ := exists_of_yields h
    exact ⟨w, w', tradeable_of_run hrun hindex hsupply (by decide) hmultiplier hunit htarget
      hbalance, hw', hsize, of_decide_eq_true hread⟩

end IndexTargets

end SetProtocol
