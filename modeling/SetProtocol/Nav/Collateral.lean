import SetProtocol.Modules.NavIssuanceModule
import SetProtocol.Positions.Collateralised

set_option relaxedAutoImplicit false
set_option autoImplicit false

/-!
# Issuance at net asset value and collateral

Issuance and redemption scale the multiplier against the supply, and give the reserve asset a unit
that what the Set tracks of it covers. For the other components the balance stays as it is, so a
fraction that the rounded unit hides can come to light: the multiplier falls a little, the unit
reads as before, and the supply grows.

## Main definitions

* `SetProtocol.NavCollateral.Action` — a call to the module.
* `SetProtocol.NavCollateral.Rebalanced` — what a successful call does to the Set.

## Main results

* `SetProtocol.NavCollateral.rebalanced_of_run` — the effect of a call.
* `SetProtocol.NavCollateral.collateralised_of_action` — the Set stays collateralised where its
  balances back the units of the other components before rounding.
* `SetProtocol.NavCollateral.issue_undercollateralises` — an issuance after which the Set is not
  collateralised.
-/

namespace SetProtocol

namespace NavCollateral

open Checked NavIssuanceModule

/-- A call to the module. -/
inductive Action
  | issue (msgSender reserveAsset : Address) (quantity minReceive : ℕ) (recipient : Address)
  | redeem (msgSender reserveAsset : Address) (quantity minReceive : ℕ) (recipient : Address)

namespace Action

/-- The caller. -/
def msgSender : Action → Address
  | .issue msgSender .. => msgSender
  | .redeem msgSender .. => msgSender

/-- The reserve asset that is paid in or out. -/
def reserveAsset : Action → Address
  | .issue _ reserveAsset .. => reserveAsset
  | .redeem _ reserveAsset .. => reserveAsset

/-- The call of the manager's hook. -/
def callHooks (env : Env) (setToken : Address) : Action → World → Except Revert World
  | .issue msgSender reserveAsset quantity _ recipient, w =>
    callPreIssueHooks env w setToken reserveAsset quantity msgSender recipient
  | .redeem msgSender _ quantity _ recipient, w =>
    callPreRedeemHooks env w setToken quantity msgSender recipient

/-- The whole call. -/
def run (self : Address) (env : Env) (setToken : Address) : Action → World → Except Revert World
  | .issue msgSender reserveAsset quantity minReceive recipient, w =>
    NavIssuanceModule.issue self env w msgSender setToken reserveAsset quantity minReceive recipient
  | .redeem msgSender reserveAsset quantity minReceive recipient, w =>
    NavIssuanceModule.redeem self env w msgSender setToken reserveAsset quantity minReceive
      recipient

end Action

/-! ## What a call computes -/

section Numbers

variable (self : Address) (env : Env) (w : World) (setToken : Address)

/-- The supply after a call. -/
def supplyAfter : Action → ℕ
  | .issue _ reserveAsset quantity _ _ =>
    mintedSets self env w setToken reserveAsset quantity + w.totalSupply setToken
  | .redeem _ _ quantity _ _ => w.totalSupply setToken - quantity

/-- The unit of the reserve asset that a call writes. -/
def reserveUnitAfter : Action → ℕ
  | .issue _ reserveAsset quantity _ _ => issueReserveUnit self env w setToken reserveAsset quantity
  | .redeem _ reserveAsset quantity _ _ => redeemReserveUnit env w setToken reserveAsset quantity

/-- What the Set receives of each token: the reserve net of fees, fees where it is their recipient,
and Sets where it is their recipient. A Set that pays itself receives nothing. -/
def received : Action → Address → ℕ
  | .issue msgSender reserveAsset quantity _ recipient, c =>
    only reserveAsset (
      if msgSender = setToken then 0
      else issueNetFlow self w setToken quantity +
        (if w.controller.feeRecipient = setToken then issueProtocolFees self w setToken quantity
          else 0) +
        if (w.navIssuanceSettings setToken).feeRecipient = setToken then
          issueManagerFee self w setToken quantity
        else 0) c +
      only setToken (
        if recipient = setToken then mintedSets self env w setToken reserveAsset quantity else 0) c
  | .redeem .., _ => 0

/-- What the Set pays of each token: the reserve at redemption, and what a caller pays where the
Set is the caller. -/
def paid : Action → Address → ℕ
  | .issue msgSender reserveAsset quantity _ _, c =>
    only reserveAsset (if msgSender = setToken then quantity else 0) c
  | .redeem msgSender reserveAsset quantity _ _, c =>
    only reserveAsset (redeemedReserve env w setToken reserveAsset quantity) c +
      only setToken (if msgSender = setToken then quantity else 0) c

/-- What the Set holds of a token after a call. -/
def balanceAfter (a : Action) (c : Address) : ℕ :=
  (w.tokens c).balances setToken + received self env w setToken a c - paid env w setToken a c

/-- The Set under the multiplier for another supply. -/
def rescaled (supply : ℕ) : SetToken :=
  { w.setTokens setToken with positionMultiplier := scaledMultiplier w setToken supply }

end Numbers

/-- What a successful call does to the Set. -/
structure Rebalanced (module : Address) (env : Env) (w w' : World) (setToken : Address)
    (a : Action) : Prop where
  /-- There are Sets after the call. -/
  supply_pos : 0 < supplyAfter module env w setToken a
  /-- The new multiplier is positive. -/
  multiplier_pos : 0 < scaledMultiplier w setToken (supplyAfter module env w setToken a)
  /-- The supply changes. -/
  supply : w'.totalSupply setToken = supplyAfter module env w setToken a
  /-- The balances change. -/
  balances : ∀ c, (w'.tokens c).balances setToken = balanceAfter module env w setToken a c
  /-- The multiplier changes, and the position in the reserve asset. -/
  positions : ∃ l, Position.ListEdit
      (rescaled w setToken (supplyAfter module env w setToken a)) a.reserveAsset
      (reserveUnitAfter module env w setToken a) l ∧
    w'.setTokens setToken = Position.withDefaultPosition
      (rescaled w setToken (supplyAfter module env w setToken a)) a.reserveAsset l
      ((reserveUnitAfter module env w setToken a : ℤ) * preciseUnitInt /
        scaledMultiplier w setToken (supplyAfter module env w setToken a))
  /-- The reserve asset has no negative unit. -/
  unit_nonneg : 0 ≤ (w.setTokens setToken).defaultRealUnit a.reserveAsset
  /-- What is tracked of the reserve asset covers the new unit, where it is there. -/
  backed : a.msgSender ≠ setToken →
    trackedReserve w setToken a.reserveAsset ≤ (w.tokens a.reserveAsset).balances setToken →
    reserveUnitAfter module env w setToken a * supplyAfter module env w setToken a ≤
      balanceAfter module env w setToken a a.reserveAsset * preciseUnit

variable {self setToken : Address} {env : Env} {w₀ w w' : World}

/-! ## Transfers -/

/-- The check for a positive amount is made twice. -/
private theorem ite_transferFrom {token sender recipient : Address} {quantity : ℕ} :
    (if 0 < quantity then ModuleBase.transferFrom self w token sender recipient quantity
      else .ok w) = ModuleBase.transferFrom self w token sender recipient quantity := by
  unfold ModuleBase.transferFrom
  split_ifs <;> rfl

/-- The check for a positive amount is made twice. -/
private theorem ite_strictInvokeTransfer {token recipient : Address} {quantity : ℕ} :
    (if 0 < quantity then
        Invoke.strictInvokeTransfer self env w setToken token recipient quantity
      else .ok w) = Invoke.strictInvokeTransfer self env w setToken token recipient quantity := by
  unfold Invoke.strictInvokeTransfer
  split_ifs <;> rfl

/-- What the payments of an issuance move. -/
private theorem moves_of_transferCollateralAndHandleFees {msgSender reserveAsset : Address}
    {info : ActionInfo}
    (h : transferCollateralAndHandleFees self w msgSender setToken reserveAsset info = .ok w') :
    Moves setToken w w'
      (only reserveAsset (
        if msgSender = setToken then 0
        else info.netFlowQuantity +
          (if w.controller.feeRecipient = setToken then info.protocolFees else 0) +
          if (w.navIssuanceSettings setToken).feeRecipient = setToken then info.managerFee else 0))
      (only reserveAsset (
        if msgSender = setToken then
          info.netFlowQuantity + info.protocolFees + info.managerFee
        else 0)) := by
  simp only [transferCollateralAndHandleFees, ite_transferFrom, bind_eq_ok] at h
  obtain ⟨w₁, h₁, w₂, h₂, h₃⟩ := h
  have hmoves := ((Moves.of_transferFrom setToken h₁).trans (.of_transferFrom setToken h₂)).trans
    (.of_transferFrom setToken h₃)
  obtain ⟨t₁, -, -, hw₁⟩ := ModuleBase.transferFrom_spec h₁
  obtain ⟨t₂, -, -, hw₂⟩ := ModuleBase.transferFrom_spec h₂
  have hcontroller : w₁.controller = w.controller := by rw [hw₁]; rfl
  have hsettings : w₂.navIssuanceSettings = w.navIssuanceSettings := by rw [hw₂, hw₁]; rfl
  rw [hcontroller, hsettings] at hmoves
  refine hmoves.congr (fun c => ?_) fun c => ?_
  · by_cases hc : c = reserveAsset <;> by_cases hs : msgSender = setToken <;> simp [only, hc, hs]
  · by_cases hc : c = reserveAsset <;> by_cases hs : msgSender = setToken <;> simp [only, hc, hs]

/-- What the fees of a redemption move. -/
private theorem moves_of_handleRedemptionFees {reserveAsset : Address} {info : ActionInfo}
    (h : handleRedemptionFees self env w setToken reserveAsset info = .ok w') :
    Moves setToken w w' (fun _ => 0)
      (only reserveAsset (info.protocolFees + info.managerFee)) := by
  simp only [handleRedemptionFees, ModuleBase.payProtocolFeeFromSetToken,
    ite_strictInvokeTransfer, bind_eq_ok] at h
  obtain ⟨w₁, h₁, h₂⟩ := h
  have hmoves := (Moves.of_strictInvokeTransfer h₁).trans (Moves.of_strictInvokeTransfer h₂)
  refine hmoves.congr (fun c => ?_) fun c => ?_
  · simp [only]
  · by_cases hc : c = reserveAsset <;> simp [only, hc]

/-! ## Positions -/

/-- What the edits of positions change. -/
private theorem editPositions_spec {reserveAsset : Address} {info : ActionInfo}
    (h : editPositions self w setToken reserveAsset info = .ok w') :
    0 < info.newPositionMultiplier ∧ ∃ l,
      Position.ListEdit
        { w.setTokens setToken with positionMultiplier := info.newPositionMultiplier }
        reserveAsset info.newReservePositionUnit l ∧
      w'.tokens = w.tokens ∧
      w'.setTokens setToken = Position.withDefaultPosition
        { w.setTokens setToken with positionMultiplier := info.newPositionMultiplier }
        reserveAsset l
        ((info.newReservePositionUnit : ℤ) * preciseUnitInt / info.newPositionMultiplier) := by
  simp only [editPositions, bind_eq_ok, World.editSetToken_eq_ok] at h
  obtain ⟨_, ⟨s, hs, rfl⟩, s', hs', rfl⟩ := h
  have hpos := SetToken.pos_of_editPositionMultiplier hs
  obtain ⟨-, -, rfl⟩ := SetToken.editPositionMultiplier_eq_ok.mp hs
  rw [World.setTokens_setSetToken] at hs'
  obtain ⟨-, l, v, hl, rfl, -, rfl⟩ := Position.editDefaultPosition_cases hpos hs'
  exact ⟨hpos, l, hl, rfl, World.setTokens_setSetToken⟩

/-! ## The effect of a call -/

/-- What an account that may be the Set has in a ledger that may be that of the Set. -/
private theorem ite_and_eq_only {account c : Address} {amount : ℕ} :
    (if c = setToken ∧ setToken = account then amount else 0) =
      only setToken (if account = setToken then amount else 0) c := by
  simp only [only, ite_and, eq_comm (a := setToken)]

/-- The effect of an issuance. -/
private theorem rebalanced_of_issue {msgSender reserveAsset recipient : Address}
    {quantity minReceive : ℕ} (hm : 0 < (w.setTokens setToken).positionMultiplier)
    (hhook : callPreIssueHooks env w₀ setToken reserveAsset quantity msgSender recipient = .ok w)
    (h : issue self env w₀ msgSender setToken reserveAsset quantity minReceive recipient = .ok w') :
    Rebalanced self env w w' setToken
      (.issue msgSender reserveAsset quantity minReceive recipient) := by
  simp only [issue, handleIssueStateUpdates, bind_eq_ok, hhook, Except.ok.injEq] at h
  obtain ⟨-, -, -, -, _, rfl, info, hinfo, -, -, w₁, htransfer, w₂, hedit, hmint⟩ := h
  have hspec := createIssuanceInfo_spec hm hinfo
  have hmoves := moves_of_transferCollateralAndHandleFees htransfer
  obtain ⟨hpos, l, hl, htokens, hpositions⟩ := editPositions_spec hedit
  obtain ⟨hset, hsupply, -⟩ := World.flow_of_mint hmint
  rw [hmoves.positions, hspec.newPositionMultiplier, hspec.newReservePositionUnit,
    hspec.setTokenQuantity] at hl hpositions
  rw [hspec.newPositionMultiplier, hspec.setTokenQuantity] at hpos
  have hsplit : info.netFlowQuantity + info.protocolFees + info.managerFee = quantity := by
    have := hspec.fees_le
    rw [hspec.netFlowQuantity, issueNetFlow, ← hspec.protocolFees, ← hspec.managerFee]
    omega
  rw [hsplit, hspec.netFlowQuantity, hspec.protocolFees, hspec.managerFee] at hmoves
  have hsupplyPos := hspec.supply_pos
  rw [hspec.setTokenQuantity] at hsupplyPos
  refine ⟨hsupplyPos, hpos, ?_, fun c => ?_, ⟨l, hl, ?_⟩, hspec.unit_nonneg,
    fun hsender hcover => ?_⟩
  · rw [hsupply, World.totalSupply, htokens, ← World.totalSupply, hmoves.supply,
      hspec.setTokenQuantity, supplyAfter, Nat.add_comm]
  · have hmove := hmoves.balances c
    have hminted := World.balances_of_mint hmint c setToken
    rw [hminted, htokens, ite_and_eq_only, hspec.setTokenQuantity]
    simp only [balanceAfter, received, paid]
    omega
  · rw [hset, hpositions]
    rfl
  · have hbalance : trackedReserve w setToken reserveAsset + issueNetFlow self w setToken quantity ≤
        balanceAfter self env w setToken
          (.issue msgSender reserveAsset quantity minReceive recipient) reserveAsset := by
      have hsender' : msgSender ≠ setToken := hsender
      have hcover' : trackedReserve w setToken reserveAsset ≤
          (w.tokens reserveAsset).balances setToken := hcover
      simp only [balanceAfter, received, paid, only, hsender', if_true, if_false]
      omega
    exact (Nat.div_mul_le_self _ _).trans (Nat.mul_le_mul_right preciseUnit hbalance)

/-- The effect of a redemption. -/
private theorem rebalanced_of_redeem {msgSender reserveAsset recipient : Address}
    {quantity minReceive : ℕ} (hm : 0 < (w.setTokens setToken).positionMultiplier)
    (hhook : callPreRedeemHooks env w₀ setToken quantity msgSender recipient = .ok w)
    (h : redeem self env w₀ msgSender setToken reserveAsset quantity minReceive recipient =
      .ok w') :
    Rebalanced self env w w' setToken
      (.redeem msgSender reserveAsset quantity minReceive recipient) := by
  simp only [redeem, handleRedeemStateUpdates, bind_eq_ok, hhook, Except.ok.injEq] at h
  obtain ⟨-, -, -, -, _, rfl, info, hinfo, -, -, w₁, hburn, w₂, hpay, w₃, hfees, hedit⟩ := h
  have hspec := createRedemptionInfo_spec hm hinfo
  have hmoves := (Moves.of_strictInvokeTransfer hpay).trans (moves_of_handleRedemptionFees hfees)
  obtain ⟨hle, hleSupply, hw₁⟩ := World.burn_spec hburn
  have hset : w₁.setTokens = w.setTokens := by rw [hw₁]; rfl
  have hsupply : w₁.totalSupply setToken = w.totalSupply setToken - quantity := by
    rw [hw₁]
    simp [World.totalSupply, World.setTokenLedger]
  obtain ⟨hpos, l, hl, htokens, hpositions⟩ := editPositions_spec hedit
  rw [hmoves.positions, hset, hspec.newPositionMultiplier,
    hspec.newReservePositionUnit] at hl hpositions
  rw [hspec.newPositionMultiplier] at hpos
  refine ⟨hspec.supply_pos, hpos, ?_, fun c => ?_, ⟨l, hl, hpositions⟩, hspec.unit_nonneg,
    fun hsender hcover => ?_⟩
  · rw [World.totalSupply, htokens, ← World.totalSupply, hmoves.supply, hsupply, supplyAfter]
  · have hmove := hmoves.balances c
    have hburned := World.balances_of_burn hburn c setToken
    rw [ite_and_eq_only] at hburned
    have hout : only reserveAsset info.netFlowQuantity c +
        only reserveAsset (info.protocolFees + info.managerFee) c =
          only reserveAsset (redeemedReserve env w setToken reserveAsset quantity) c := by
      have := hspec.outflow
      simp only [only]
      split_ifs <;> omega
    have hin : only reserveAsset 0 c = 0 := by simp [only]
    rw [htokens]
    simp only [balanceAfter, received, paid]
    omega
  · have hbalance : trackedReserve w setToken reserveAsset -
        redeemedReserve env w setToken reserveAsset quantity ≤
        balanceAfter self env w setToken
          (.redeem msgSender reserveAsset quantity minReceive recipient) reserveAsset := by
      have hsender' : msgSender ≠ setToken := hsender
      have hcover' : trackedReserve w setToken reserveAsset ≤
          (w.tokens reserveAsset).balances setToken := hcover
      simp only [balanceAfter, received, paid, only, hsender', if_true, if_false, ite_self]
      omega
    exact (Nat.div_mul_le_self _ _).trans (Nat.mul_le_mul_right preciseUnit hbalance)

/-- The effect of a call. -/
theorem rebalanced_of_run {a : Action} (hm : 0 < (w.setTokens setToken).positionMultiplier)
    (hhook : a.callHooks env setToken w₀ = .ok w) (h : a.run self env setToken w₀ = .ok w') :
    Rebalanced self env w w' setToken a := by
  cases a with
  | issue => exact rebalanced_of_issue hm hhook h
  | redeem => exact rebalanced_of_redeem hm hhook h

/-! ## Collateral after a call -/

variable {a : Action} {c : Address}

/-- What a Set tracks of a collateralised component is there. -/
private theorem trackedReserve_le (h : Collateralised w setToken c) :
    trackedReserve w setToken c ≤ (w.tokens c).balances setToken :=
  Nat.div_le_of_le_mul ((collateralised_iff.mp h).trans (Nat.mul_comm _ _).le)

/-- A call by another account takes nothing from the Set but the reserve asset. -/
theorem le_balanceAfter (self : Address) (env : Env) (w : World) (hc : c ≠ a.reserveAsset)
    (hsender : a.msgSender ≠ setToken) :
    (w.tokens c).balances setToken ≤ balanceAfter self env w setToken a c := by
  have hpaid : paid env w setToken a c = 0 := by
    cases a with
    | issue msgSender reserveAsset =>
      have hc' : c ≠ reserveAsset := hc
      simp [paid, only, hc']
    | redeem msgSender reserveAsset =>
      have hc' : c ≠ reserveAsset := hc
      have hsender' : msgSender ≠ setToken := hsender
      simp [paid, only, hc', hsender']
  rw [balanceAfter, hpaid]
  omega

namespace Rebalanced

/-- The new multiplier. -/
private theorem positionMultiplier (hw' : Rebalanced self env w w' setToken a) :
    (w'.setTokens setToken).positionMultiplier =
      scaledMultiplier w setToken (supplyAfter self env w setToken a) := by
  obtain ⟨l, -, hset⟩ := hw'.positions
  rw [hset, Position.positionMultiplier_withDefaultPosition]
  rfl

/-- Components other than the reserve asset keep their virtual units. -/
private theorem virtualUnit_of_ne (hw' : Rebalanced self env w w' setToken a)
    (hc : c ≠ a.reserveAsset) :
    (w'.setTokens setToken).defaultPositionVirtualUnit c =
      (w.setTokens setToken).defaultPositionVirtualUnit c := by
  obtain ⟨l, -, hset⟩ := hw'.positions
  rw [hset, Position.defaultPositionVirtualUnit_withDefaultPosition, if_neg hc]
  rfl

/-- Components other than the reserve asset stay listed. -/
private theorem mem_components_iff (hw' : Rebalanced self env w w' setToken a)
    (hdefault : DefaultOnly (w.setTokens setToken)) (hc : c ≠ a.reserveAsset) :
    c ∈ (w'.setTokens setToken).components ↔ c ∈ (w.setTokens setToken).components := by
  obtain ⟨l, hl, hset⟩ := hw'.positions
  rw [hset]
  exact hl.mem_of_ne hdefault.nodup hc

/-- The multiplier and the supply are scaled against each other. -/
private theorem scaled_mul_supply_le (hw' : Rebalanced self env w w' setToken a) :
    (w'.setTokens setToken).positionMultiplier * (w'.totalSupply setToken : ℤ) ≤
      (w.setTokens setToken).positionMultiplier * (w.totalSupply setToken : ℤ) := by
  have hpos : (supplyAfter self env w setToken a : ℤ) ≠ 0 := by
    exact_mod_cast hw'.supply_pos.ne'
  rw [hw'.positionMultiplier, hw'.supply]
  exact Int.ediv_mul_le _ hpos

/-- The reserve asset reads no more than the unit that is written, which what is left of the
tracked reserve covers. -/
private theorem collateralised_reserve (hw' : Rebalanced self env w w' setToken a)
    (hsender : a.msgSender ≠ setToken) (hcol : Collateralised w setToken a.reserveAsset) :
    Collateralised w' setToken a.reserveAsset := by
  have hread : (w'.setTokens setToken).defaultRealUnit a.reserveAsset ≤
      reserveUnitAfter self env w setToken a := by
    obtain ⟨l, -, hset⟩ := hw'.positions
    unfold SetToken.defaultRealUnit SetToken.realUnit
    rw [hset, Position.defaultPositionVirtualUnit_withDefaultPosition, if_pos rfl,
      Position.positionMultiplier_withDefaultPosition]
    exact Rounding.ediv_mul_ediv_le preciseUnitInt_pos hw'.multiplier_pos
  have hbacked := hw'.backed hsender (trackedReserve_le hcol)
  unfold Collateralised
  rw [hw'.supply, hw'.balances]
  calc (w'.setTokens setToken).defaultRealUnit a.reserveAsset *
        (supplyAfter self env w setToken a : ℤ)
      ≤ (reserveUnitAfter self env w setToken a : ℤ) * supplyAfter self env w setToken a :=
        Int.mul_le_mul_of_nonneg_right hread (Int.natCast_nonneg _)
    _ ≤ (balanceAfter self env w setToken a a.reserveAsset : ℤ) * preciseUnitInt := by
        rw [← natCast_preciseUnit]
        exact_mod_cast hbacked

/-- What was backed before rounding is collateralised. -/
private theorem collateralised_of_ne (hw' : Rebalanced self env w w' setToken a)
    (hsender : a.msgSender ≠ setToken) (hc : c ≠ a.reserveAsset)
    (hbacked : BackedBeforeRounding w setToken c) : Collateralised w' setToken c := by
  refine hbacked.collateralised_of_scaled (hw'.virtualUnit_of_ne hc) ?_ hw'.scaled_mul_supply_le ?_
  · rw [hw'.positionMultiplier]
    exact hw'.multiplier_pos.le
  · rw [hw'.balances]
    exact le_balanceAfter self env w hc hsender

end Rebalanced

/-- **Collateral of a call at net asset value**: a collateralised Set with default positions only
stays so at a call by another account, where the balances back the units of the components other
than the reserve asset before rounding, and the reserve asset is a component, or the Set holds
enough for the unit it has of it all the same. -/
theorem collateralised_of_action (hm : 0 < (w.setTokens setToken).positionMultiplier)
    (hdefault : DefaultOnly (w.setTokens setToken))
    (hcol : ∀ c ∈ (w.setTokens setToken).components, Collateralised w setToken c)
    (hsender : a.msgSender ≠ setToken)
    (hreserve : a.reserveAsset ∈ (w.setTokens setToken).components ∨
      Collateralised w setToken a.reserveAsset)
    (hbacked : ∀ c ∈ (w.setTokens setToken).components, c ≠ a.reserveAsset →
      BackedBeforeRounding w setToken c)
    (hhook : a.callHooks env setToken w₀ = .ok w) (h : a.run self env setToken w₀ = .ok w') :
    ∀ c ∈ (w'.setTokens setToken).components, Collateralised w' setToken c := by
  have hw' := rebalanced_of_run hm hhook h
  intro c hc
  rcases eq_or_ne c a.reserveAsset with rfl | hne
  · apply hw'.collateralised_reserve hsender
    rcases hreserve with hlisted | hheld
    · exact hcol _ hlisted
    · exact hheld
  · have hc' := (hw'.mem_components_iff hdefault hne).mp hc
    exact hw'.collateralised_of_ne hsender hne (hbacked c hc' hne)

/-- A Set at `100` of three virtual units of the token `11` and of the reserve asset `12`, under the
multiplier `0.98`, with a supply of one and, of the token `11`, some balance. The module is `4`, and
the user `50` has a hundredth of the reserve asset to issue with. -/
def exampleWorld (balance : ℕ) : World :=
  { controller := { isSet := fun a => a = 100, isModule := fun a => a = 4 }
    tokens := fun a =>
      if a = 11 then { balances := fun b => if b = 100 then balance else 0 }
      else if a = 12 then
        { balances := fun b => if b = 100 then 98 * 10 ^ 16 else 10 ^ 16
          allowances := fun _ _ => 10 ^ 16 }
      else { balances := fun b => if b = 50 then 10 ^ 18 else 0, totalSupply := 10 ^ 18 }
    setTokens := fun _ =>
      { moduleStates := fun _ => .initialized
        components := [11, 12]
        componentPositions := fun c =>
          if c = 11 then { virtualUnit := 3 } else { virtualUnit := 10 ^ 18 }
        positionMultiplier := 98 * 10 ^ 16 }
    navIssuanceSettings := fun _ => { feeRecipient := 61, minSetTokenSupply := 1 }
    isReserveAsset := fun _ a => a = 12 }

/-- The Set is worth one of the reserve asset. -/
def exampleEnv : Env := { calculateSetTokenValuation := fun _ _ _ => .ok (10 ^ 18) }

/-- The user issues for all of the reserve asset. -/
def exampleAction : Action := .issue 50 12 (10 ^ 16) 0 50

/-- The components of the example. -/
private theorem of_mem_components_exampleWorld {balance : ℕ} {p : Address → Prop} (h₁ : p 11)
    (h₂ : p 12) {c : Address} (hc : c ∈ ((exampleWorld balance).setTokens 100).components) :
    p c := by
  have hc' : c = 11 ∨ c = 12 := by simpa [exampleWorld] using hc
  rcases hc' with rfl | rfl
  · exact h₁
  · exact h₂

/-- The example has default positions only. -/
private theorem defaultOnly_exampleWorld {balance : ℕ} :
    DefaultOnly ((exampleWorld balance).setTokens 100) := by
  refine ⟨?_, fun c => of_mem_components_exampleWorld
    (p := fun c => ((exampleWorld balance).setTokens 100).externalPositionModules c = []) rfl rfl⟩
  simp [exampleWorld]

/-- With a balance of three, what the unit of the token `11` hides is there. -/
theorem collateralised_of_action_example :
    ∃ w', exampleAction.run 4 exampleEnv 100 (exampleWorld 3) = .ok w' ∧
      ∀ c ∈ (w'.setTokens 100).components, Collateralised w' 100 c := by
  obtain ⟨w', hw', -⟩ := exists_of_yields
    (x := exampleAction.run 4 exampleEnv 100 (exampleWorld 3)) (p := fun _ => true)
    (by decide +kernel)
  refine ⟨w', hw', collateralised_of_action (by decide +kernel) defaultOnly_exampleWorld
    (fun c => ?_) (by decide) (.inl (by decide)) (fun c => ?_) rfl hw'⟩
  · exact of_mem_components_exampleWorld (p := fun c => Collateralised (exampleWorld 3) 100 c)
      (by decide +kernel) (by decide +kernel)
  · exact of_mem_components_exampleWorld
      (p := fun c => c ≠ 12 → BackedBeforeRounding (exampleWorld 3) 100 c)
      (fun _ => by decide +kernel) (fun h => absurd rfl h)

/-- The unit of the token `11` reads two before and after the issuance, and the Set holds two for a
supply of one; the issuance raises the supply. -/
theorem issue_undercollateralises :
    ∃ w', NavIssuanceModule.issue 4 exampleEnv (exampleWorld 2) 50 100 12 (10 ^ 16) 0 50 =
        .ok w' ∧
      DefaultOnly ((exampleWorld 2).setTokens 100) ∧
      (∀ c ∈ ((exampleWorld 2).setTokens 100).components,
        Collateralised (exampleWorld 2) 100 c) ∧
      ¬∀ c ∈ (w'.setTokens 100).components, Collateralised w' 100 c := by
  obtain ⟨w', hw', h⟩ := exists_of_yields
    (x := NavIssuanceModule.issue 4 exampleEnv (exampleWorld 2) 50 100 12 (10 ^ 16) 0 50)
    (p := fun w' => 11 ∈ (w'.setTokens 100).components ∧ ¬Collateralised w' 100 11)
    (by decide +kernel)
  obtain ⟨hlisted, hshort⟩ := of_decide_eq_true h
  refine ⟨w', hw', defaultOnly_exampleWorld, fun c => ?_, fun hall => hshort (hall 11 hlisted)⟩
  exact of_mem_components_exampleWorld (p := fun c => Collateralised (exampleWorld 2) 100 c)
    (by decide +kernel) (by decide +kernel)

end NavCollateral

end SetProtocol
