import SetProtocol.Core.Flow
import SetProtocol.Core.LackOfBalance
import SetProtocol.Lib.Transition
import SetProtocol.Modules.BasicIssuanceModule
import SetProtocol.Modules.DebtIssuanceModule
import SetProtocol.Positions.Collateralised

set_option relaxedAutoImplicit false
set_option autoImplicit false

/-!
# Issuance keeps a Set collateralised

A Set with default positions is collateralised when it holds, of each component, the default unit
times the supply. Issuance collects rounded up, redemption pays out rounded down, and fees mint no
more than was collected for; so the Set stays collateralised over any run, and what a redemption
pays out is always there.

## Main definitions

* `SetProtocol.IssuanceRun.Action`, `step` — issuance, redemption, token transfers and changes of
  configuration.

## Main results

* `SetProtocol.IssuanceRun.collateralised_of_run` — the Set is collateralised after any run from
  the supply zero, and no redemption runs out of a component.
-/

namespace SetProtocol

open Checked Transition

namespace IssuanceRun

/-! ## Runs -/

variable {basicModule debtModule setToken : Address} {env : Env} {w w' : World}

/-- What happens to a Set: issuance and redemption by its users in one of two modules, transfers
of tokens, the Set's own included, and changes of the configuration. -/
inductive Action
  | basicIssue (msgSender : Address) (quantity : ℕ) (recipient : Address)
  | basicRedeem (msgSender : Address) (quantity : ℕ) (recipient : Address)
  | debtIssue (msgSender : Address) (quantity : ℕ) (recipient : Address)
  | debtRedeem (msgSender : Address) (quantity : ℕ) (recipient : Address)
  | transfer (token msgSender recipient : Address) (amount : ℕ)
  | transferFrom (token msgSender sender recipient : Address) (amount : ℕ)
  | approve (token msgSender spender : Address) (amount : ℕ)
  | configure (controller : Controller) (settings : Address → IssuanceSettings)
    (basicIssuanceHook : Address → Address)

/-- The effect of an action on the Set at `setToken`, with the modules at the given addresses. -/
def step (basicModule debtModule setToken : Address) (env : Env) (a : Action) (w : World) :
    Except Revert World :=
  match a with
  | .basicIssue msgSender quantity recipient =>
    BasicIssuanceModule.issue basicModule env w msgSender setToken quantity recipient
  | .basicRedeem msgSender quantity recipient =>
    BasicIssuanceModule.redeem basicModule env w msgSender setToken quantity recipient
  | .debtIssue msgSender quantity recipient =>
    DebtIssuanceModule.issue debtModule env w msgSender setToken quantity recipient
  | .debtRedeem msgSender quantity recipient =>
    DebtIssuanceModule.redeem debtModule env w msgSender setToken quantity recipient
  | .transfer token msgSender recipient amount =>
    w.editToken token fun t => t.transfer msgSender recipient amount
  | .transferFrom token msgSender sender recipient amount =>
    w.editToken token fun t => t.transferFrom msgSender sender recipient amount
  | .approve token msgSender spender amount =>
    w.editToken token fun t => t.approve msgSender spender amount
  | .configure controller settings basicIssuanceHook =>
    .ok { w with
      controller := controller
      issuanceSettings := settings
      basicIssuanceHook := basicIssuanceHook }

/-- The action is one of users: tokens leave the Set through its own transfers only. -/
def ByUsers (setToken : Address) (a : Action) (_ : World) : Prop :=
  match a with
  | .basicRedeem msgSender _ _ => msgSender ≠ setToken
  | .debtRedeem msgSender _ _ => msgSender ≠ setToken
  | .transfer _ msgSender _ _ => msgSender ≠ setToken
  | .transferFrom _ _ sender _ _ => sender ≠ setToken
  | _ => True

instance : ∀ (setToken : Address) (a : Action) (w : World), Decidable (ByUsers setToken a w)
  | _, .basicIssue _ _ _, _ => inferInstanceAs (Decidable True)
  | _, .basicRedeem _ _ _, _ => inferInstanceAs (Decidable (_ ≠ _))
  | _, .debtIssue _ _ _, _ => inferInstanceAs (Decidable True)
  | _, .debtRedeem _ _ _, _ => inferInstanceAs (Decidable (_ ≠ _))
  | _, .transfer _ _ _ _, _ => inferInstanceAs (Decidable (_ ≠ _))
  | _, .transferFrom _ _ _ _ _, _ => inferInstanceAs (Decidable (_ ≠ _))
  | _, .approve _ _ _ _, _ => inferInstanceAs (Decidable True)
  | _, .configure _ _ _, _ => inferInstanceAs (Decidable True)

/-- The call took nothing from the Set. -/
abbrev Spares (setToken : Address) (w w' : World) : Prop :=
  Flow setToken w w' (fun _ => 0) (fun _ => 0)

/-- The issuance hooks do not touch the Set, and do not fail with the reason of a token. -/
structure HooksSpare (setToken : Address) (env : Env) : Prop where
  /-- The manager's hook. -/
  manager : ∀ hook quantity caller recipient w w',
    env.invokePreIssueHook hook setToken quantity caller recipient w = .ok w' →
      Spares setToken w w'
  /-- The modules' hooks on issuance. -/
  issue : ∀ module caller quantity w w',
    env.moduleIssueHook module caller setToken quantity w = .ok w' → Spares setToken w w'
  /-- The modules' hooks on redemption. -/
  redeem : ∀ module caller quantity w w',
    env.moduleRedeemHook module caller setToken quantity w = .ok w' → Spares setToken w w'
  /-- Failures of the modules' hooks on redemption have reasons of their own. -/
  reason : ∀ module caller quantity w,
    NeverShort (env.moduleRedeemHook module caller setToken quantity w)

/-! ## The invariant -/

/-- The Set has default positions only and is collateralised. -/
structure Invariant (setToken : Address) (w : World) : Prop where
  /-- There are default positions only. -/
  defaultOnly : DefaultOnly (w.setTokens setToken)
  /-- There is enough of each component. -/
  collateralised : ∀ c ∈ (w.setTokens setToken).components, Collateralised w setToken c

namespace Invariant

/-- What takes nothing from the Set preserves the invariant. -/
theorem of_spares (hw : Invariant setToken w) (h : Spares setToken w w') :
    Invariant setToken w' := by
  have hpos := h.positions
  refine ⟨hpos ▸ hw.defaultOnly, fun c hc => ?_⟩
  rw [hpos] at hc
  have hcol := hw.collateralised c hc
  have hbal := h.balances c
  unfold Collateralised at hcol ⊢
  rw [hpos, h.supply]
  refine hcol.trans (Int.mul_le_mul_of_nonneg_right ?_ preciseUnitInt_pos.le)
  exact_mod_cast (by simpa using hbal)

/-- Collecting each component rounded up for at least the new supply preserves the invariant. -/
theorem of_deposit (hw : Invariant setToken w) (quantity : ℕ)
    (hpos : w'.setTokens setToken = w.setTokens setToken)
    (hsupply : w'.totalSupply setToken ≤ w.totalSupply setToken + quantity)
    (hbal : ∀ c ∈ (w.setTokens setToken).components, (w.tokens c).balances setToken +
      (((w.setTokens setToken).defaultRealUnit c).toNat * quantity) ⌈/⌉ preciseUnit ≤
        (w'.tokens c).balances setToken) : Invariant setToken w' := by
  refine ⟨hpos ▸ hw.defaultOnly, fun c hc => ?_⟩
  rw [hpos] at hc
  have hcol := collateralised_iff.mp (hw.collateralised c hc)
  rw [collateralised_iff, hpos]
  exact Rounding.backed_of_deposit preciseUnit_pos hcol hsupply (hbal c hc)

/-- Paying out each component rounded down for at most the lost supply preserves the invariant. -/
theorem of_withdrawal (hw : Invariant setToken w) (quantity : ℕ)
    (hpos : w'.setTokens setToken = w.setTokens setToken)
    (hsupply : w'.totalSupply setToken + quantity ≤ w.totalSupply setToken)
    (hbal : ∀ c ∈ (w.setTokens setToken).components, (w.tokens c).balances setToken ≤
      (w'.tokens c).balances setToken +
        ((w.setTokens setToken).defaultRealUnit c).toNat * quantity / preciseUnit) :
    Invariant setToken w' := by
  refine ⟨hpos ▸ hw.defaultOnly, fun c hc => ?_⟩
  rw [hpos] at hc
  have hcol := collateralised_iff.mp (hw.collateralised c hc)
  rw [collateralised_iff, hpos]
  exact Rounding.backed_of_withdrawal hcol hsupply (hbal c hc)

end Invariant

/-- The Set, in the middle of a redemption of the quantity, has what the components still to come
pay out. -/
private structure Stocked (setToken : Address) (s : SetToken) (quantity : ℕ) (l : List Address)
    (w : World) : Prop where
  /-- The components still to come are distinct. -/
  nodup : l.Nodup
  /-- The positions are those before the redemption. -/
  positions : w.setTokens setToken = s
  /-- There is enough of each component still to come. -/
  enough : ∀ c ∈ l, (s.defaultRealUnit c).toNat * quantity / preciseUnit ≤
    (w.tokens c).balances setToken

namespace Stocked

variable {s : SetToken} {quantity : ℕ}

/-- After the redeemed Sets are burnt, all components are stocked for what they were worth. -/
theorem of_burn {module msgSender : Address} {burnt : ℕ} (hw : Invariant setToken w)
    (h : w.burn module setToken msgSender burnt = .ok w') (hsender : msgSender ≠ setToken)
    (hq : quantity ≤ burnt) :
    Stocked setToken (w.setTokens setToken) quantity (w.setTokens setToken).components w' := by
  obtain ⟨hset, hsupply, hbal⟩ := World.flow_of_burn h hsender
  refine ⟨hw.defaultOnly.nodup, by rw [hset], fun c hc => ?_⟩
  rw [hbal]
  exact Rounding.withdrawal_le_of_backed
    (collateralised_iff.mp (hw.collateralised c hc)) (by omega)

/-- Paying out one component leaves the others stocked. -/
theorem next {c : Address} {l : List Address} {paid : ℕ}
    (h : Stocked setToken s quantity (c :: l) w)
    (hflow : Flow setToken w w' (only c 0) (only c paid)) : Stocked setToken s quantity l w' := by
  obtain ⟨hc, hl⟩ := List.nodup_cons.mp h.nodup
  refine ⟨hl, hflow.positions.trans h.positions, fun d hd => ?_⟩
  have hne : d ≠ c := fun he => hc (he ▸ hd)
  have hmono := hflow.balances d
  have henough := h.enough d (List.mem_cons_of_mem c hd)
  simp only [only, if_neg hne] at hmono
  omega

end Stocked

/-! ## Issuance and redemption with default positions only -/

section Basic

variable {msgSender recipient : Address} {quantity : ℕ}

/-- `BasicIssuanceModule.issue` preserves the invariant. -/
theorem Invariant.basicIssue (hooks : HooksSpare setToken env) (hw : Invariant setToken w)
    (h : BasicIssuanceModule.issue basicModule env w msgSender setToken quantity recipient =
      .ok w') : Invariant setToken w' := by
  simp only [BasicIssuanceModule.issue, BasicIssuanceModule.getRequiredComponentUnitsForIssue,
    bind_eq_ok] at h
  obtain ⟨-, -, -, -, w₁, hhook, required, ⟨-, -, hrequired⟩, w₂, hloop, hmint⟩ := h
  have hspare : Spares setToken w w₁ := by
    simp only [BasicIssuanceModule.callPreIssueHooks] at hhook
    split_ifs at hhook
    · exact hooks.manager _ _ _ _ _ _ hhook
    · obtain rfl : w = w₁ := by simpa using hhook
      exact .refl _ _
  have hw₁ := hw.of_spares hspare
  have hflow := Flow.foldlM Prod.fst Prod.snd (fun _ => 0)
    (fun b _ w w' _ h => Flow.of_transferFrom h) rfl hloop
  have hkeys : required.map Prod.fst = (w₁.setTokens setToken).components := by
    simpa using map_of_mapM_eq_ok (k := id)
      (fun _ _ h => (BasicIssuanceModule.requiredComponentUnit_eq_ok h).1) hrequired
  obtain ⟨hset, hsupply, hbal⟩ := World.flow_of_mint hmint
  refine hw₁.of_deposit quantity ?_ ?_ fun c hc => ?_
  · rw [hset, hflow.positions]
  · rw [hsupply, hflow.supply]
  · obtain ⟨b, hb, hreq⟩ := exists_of_mem_of_mapM_eq_ok hrequired hc
    obtain ⟨rfl, hamount⟩ := BasicIssuanceModule.requiredComponentUnit_eq_ok hreq
    have hinto := hflow.balances b.1
    rw [Flow.sum_only Prod.fst Prod.snd (hkeys ▸ hw₁.defaultOnly.nodup) hb, hamount] at hinto
    have hzero : (required.map fun a => only a.1 0 b.1).sum = 0 := by simp [only]
    have hmono := hbal b.1 setToken
    omega

/-- `BasicIssuanceModule.redeem` preserves the invariant. -/
theorem Invariant.basicRedeem (hw : Invariant setToken w) (hsender : msgSender ≠ setToken)
    (h : BasicIssuanceModule.redeem basicModule env w msgSender setToken quantity recipient =
      .ok w') : Invariant setToken w' := by
  simp only [BasicIssuanceModule.redeem, bind_eq_ok] at h
  obtain ⟨-, -, -, -, w₁, hburn, hloop⟩ := h
  obtain ⟨hset, hsupply, hbal⟩ := World.flow_of_burn hburn hsender
  rw [hset] at hloop
  have hflow := Flow.foldlM (s := w.setTokens setToken) id (fun _ => 0)
    (fun c => ((w.setTokens setToken).defaultRealUnit c).toNat * quantity / preciseUnit)
    (fun c _ w₂ w₃ hw₂ h =>
      hw₂ ▸ Flow.of_strictInvokeTransfer (BasicIssuanceModule.redeemComponent_eq_ok h))
    (by rw [hset]) hloop
  refine hw.of_withdrawal quantity ?_ ?_ fun c hc => ?_
  · rw [hflow.positions, hset]
  · rw [hflow.supply, hsupply]
  · have hout := hflow.balances c
    have hsum := Flow.sum_only id (fun c =>
      ((w.setTokens setToken).defaultRealUnit c).toNat * quantity / preciseUnit)
      (by simpa using hw.defaultOnly.nodup) hc
    rw [hbal] at hout
    simp only [id_eq] at hout hsum
    omega

/-- What a round of a redemption of at most the supply pays out is there. -/
private theorem neverShort_redeemComponent {c : Address}
    (hcol : ((w.setTokens setToken).defaultRealUnit c).toNat * quantity / preciseUnit ≤
      (w.tokens c).balances setToken) :
    NeverShort (BasicIssuanceModule.redeemComponent basicModule env setToken quantity recipient
      w c) := by
  refine (NeverShort.require (by decide)).bind fun _ _ =>
    (neverShort_getDefaultPositionRealUnit _ _).bind fun r hr =>
      (neverShort_toUint256 r).bind fun u hu => (neverShort_preciseMul _ _).bind fun x hx => ?_
  obtain ⟨-, rfl⟩ := SetToken.getDefaultPositionRealUnit_eq_ok.mp hr
  obtain ⟨-, rfl⟩ := PreciseUnitMath.preciseMul_eq_ok.mp hx
  rw [SafeCast.toUint256_eq_ok.mp hu, Int.toNat_natCast, Nat.mul_comm] at hcol
  exact neverShort_strictInvokeTransfer hcol

/-- `BasicIssuanceModule.redeem` does not run out of a component. -/
theorem Invariant.neverShort_basicRedeem (hw : Invariant setToken w)
    (hsender : msgSender ≠ setToken) :
    NeverShort (BasicIssuanceModule.redeem basicModule env w msgSender setToken quantity
      recipient) := by
  refine neverShort_onlyValidAndInitializedSet.bind fun _ _ =>
    (NeverShort.require (by decide)).bind fun _ _ => neverShort_burn.bind fun w₁ hburn => ?_
  have hstock := Stocked.of_burn hw hburn hsender (Nat.le_refl quantity)
  rw [hstock.positions]
  refine NeverShort.foldlM (Stocked setToken (w.setTokens setToken) quantity)
    (fun c l w₂ hw₂ => ?_) (fun c l w₂ w₃ hw₂ h => ?_) hstock
  · exact neverShort_redeemComponent (hw₂.positions ▸ hw₂.enough c List.mem_cons_self)
  · exact hw₂.next (Flow.of_strictInvokeTransfer (BasicIssuanceModule.redeemComponent_eq_ok h))

end Basic

section Debt

variable {msgSender recipient : Address} {quantity : ℕ} {isIssue : Bool} {s : SetToken}
  {units : List ComponentUnits}

/-- What an issuance or a redemption asks for of a component with a default position only. -/
structure PlainUnits (s : SetToken) (quantity : ℕ) (isIssue : Bool) (x : ComponentUnits) :
    Prop where
  /-- No module has a position of the component. -/
  external : s.externalPositionModules x.component = []
  /-- There is no debt. -/
  debt : x.debt = 0
  /-- The equity is that of the default unit. -/
  equity : x.equity =
    if isIssue then ((s.defaultRealUnit x.component).toNat * quantity) ⌈/⌉ preciseUnit
    else (s.defaultRealUnit x.component).toNat * quantity / preciseUnit

/-- With default positions only, the amounts are those of the equity, and there is no debt. -/
theorem requiredUnits_spec (hs : DefaultOnly s)
    (h : DebtIssuanceModule.calculateRequiredComponentIssuanceUnits s quantity isIssue =
      .ok units) :
    units.map ComponentUnits.component = s.components ∧
      ∀ x ∈ units, PlainUnits s quantity isIssue x := by
  obtain ⟨hkeys, hunits⟩ := DebtIssuanceModule.calculateRequiredComponentIssuanceUnits_eq_ok h
  refine ⟨hkeys, fun x hx => ?_⟩
  have hc : x.component ∈ s.components := hkeys ▸ List.mem_map_of_mem hx
  obtain ⟨y, hy, hxy⟩ := hunits x hx
  obtain ⟨hunit, hdebt⟩ :=
    DebtIssuanceModule.componentIssuanceUnits_of_default (hs.external _ hc) hy
  obtain ⟨-, hequity, hdebt'⟩ := DebtIssuanceModule.notionalUnits_eq_ok hxy
  rw [hdebt, Nat.zero_mul, Nat.zero_div] at hdebt'
  refine ⟨hs.external _ hc, ?_, ?_⟩
  · rw [hdebt']
    cases isIssue <;> simp
  · rw [hequity, hunit, Int.toNat_natCast]

/-- No hooks are called for a component without external positions. -/
theorem executeExternalPositionHooks_eq_ok {component : Address} {isEquity : Bool}
    (hext : (w.setTokens setToken).externalPositionModules component = [])
    (h : DebtIssuanceModule.executeExternalPositionHooks debtModule env w setToken quantity
      component isIssue isEquity = .ok w') : w' = w := by
  rw [DebtIssuanceModule.executeExternalPositionHooks, hext, List.foldlM_nil, pure_eq_ok] at h
  exact h.symm

/-- Without external positions, a round over equity moves the equity. -/
theorem flow_of_resolveEquityPosition (isIssue : Bool) {x : ComponentUnits}
    (hext : (w.setTokens setToken).externalPositionModules x.component = [])
    (h : DebtIssuanceModule.resolveEquityPosition debtModule env msgSender setToken quantity
      recipient isIssue w x = .ok w') :
    Flow setToken w w' (only x.component (if isIssue then x.equity else 0))
      (only x.component (if isIssue then 0 else x.equity)) := by
  unfold DebtIssuanceModule.resolveEquityPosition at h
  split_ifs at h with hequity hissue
  · simp only [bind_eq_ok] at h
    obtain ⟨w₁, htransfer, hhooks⟩ := h
    have hflow := Flow.of_transferFrom htransfer
    rw [executeExternalPositionHooks_eq_ok (by rw [hflow.positions, hext]) hhooks]
    simpa [hissue] using hflow
  · simp only [bind_eq_ok] at h
    obtain ⟨w₁, hhooks, htransfer⟩ := h
    rw [executeExternalPositionHooks_eq_ok hext hhooks] at htransfer
    simpa [hissue] using Flow.of_strictInvokeTransfer htransfer
  · obtain rfl : w = w' := by simpa using h
    have hzero : x.equity = 0 := by omega
    refine (Flow.refl setToken w).mono (fun c => ?_) fun c => Nat.zero_le _
    simp [only, hzero]

/-- Without debt there is nothing to resolve. -/
theorem resolveDebtPositions_eq {s : SetToken} {isIssue' : Bool} {totalQuantity : ℕ}
    (hunits : ∀ x ∈ units, PlainUnits s totalQuantity isIssue' x) :
    DebtIssuanceModule.resolveDebtPositions debtModule env w msgSender setToken quantity isIssue
      units = .ok w := by
  unfold DebtIssuanceModule.resolveDebtPositions
  induction units with
  | nil => rfl
  | cons x units ih =>
    have hx : DebtIssuanceModule.resolveDebtPosition debtModule env msgSender setToken quantity
        isIssue w x = .ok w := by
      rw [DebtIssuanceModule.resolveDebtPosition, (hunits x List.mem_cons_self).debt]
      rfl
    exact foldlM_cons_eq_ok.mpr ⟨w, hx, ih fun y hy => hunits y (List.mem_cons_of_mem x hy)⟩

/-- The modules' hooks on redemption spare the Set. -/
theorem spares_of_callPreRedeemHooks (hooks : HooksSpare setToken env)
    (h : DebtIssuanceModule.callPreRedeemHooks debtModule env w setToken quantity = .ok w') :
    Spares setToken w w' := by
  simp only [DebtIssuanceModule.callPreRedeemHooks, bind_eq_ok] at h
  obtain ⟨-, -, -, -, hmodules⟩ := h
  exact foldlM_rel (Spares setToken) (Flow.refl setToken) (fun h₁ h₂ => h₁.trans h₂)
    (fun hook _ w w' h => hooks.redeem hook _ _ w w' h) hmodules

/-- `DebtIssuanceModule.issue` preserves the invariant. -/
theorem Invariant.debtIssue (hooks : HooksSpare setToken env) (hw : Invariant setToken w)
    (h : DebtIssuanceModule.issue debtModule env w msgSender setToken quantity recipient =
      .ok w') : Invariant setToken w' := by
  simp only [DebtIssuanceModule.issue, DebtIssuanceModule.callPreIssueHooks,
    DebtIssuanceModule.issueAfterHooks, bind_eq_ok] at h
  obtain ⟨w₁, ⟨-, -, -, -, w₀, hmanager, hmodules⟩, fees, hfees, units, hunits, w₂, hequity, w₃,
    hdebt, w₄, hresolve, hmint⟩ := h
  have hspare₀ : Spares setToken w w₀ := by
    simp only [DebtIssuanceModule.callManagerPreIssueHooks] at hmanager
    split_ifs at hmanager
    · exact hooks.manager _ _ _ _ _ _ hmanager
    · obtain rfl : w = w₀ := by simpa using hmanager
      exact .refl _ _
  have hspare₁ : Spares setToken w₀ w₁ :=
    foldlM_rel (Spares setToken) (Flow.refl setToken) (fun h₁ h₂ => h₁.trans h₂)
      (fun hook _ w w' h => hooks.issue hook _ _ w w' h) hmodules
  have hw₁ := hw.of_spares (hspare₀.trans hspare₁)
  obtain ⟨hkeys, hplain⟩ := requiredUnits_spec hw₁.defaultOnly hunits
  rw [resolveDebtPositions_eq hplain] at hdebt
  obtain rfl : w₂ = w₃ := by simpa using hdebt
  have hflow := Flow.foldlM ComponentUnits.component ComponentUnits.equity (fun _ => 0)
    (fun x hx w₅ w₆ hw₅ h => flow_of_resolveEquityPosition true
      (hw₅ ▸ (hplain x hx).external) h) rfl hequity
  obtain ⟨-, hfee, htotal⟩ := DebtIssuanceModule.calculateTotalFees_spec hfees
  obtain ⟨hset, hsupply, hbal⟩ := DebtIssuanceModule.resolveFees_spec hresolve
  obtain ⟨hset', hsupply', hbal'⟩ := World.flow_of_mint hmint
  refine hw₁.of_deposit fees.totalQuantity ?_ ?_ fun c hc => ?_
  · rw [hset', hset, hflow.positions]
  · have hminted := DebtIssuanceModule.mintedFees_le fees.managerFee fees.protocolFee
    rw [hsupply', hsupply, hflow.supply]
    simp only [if_true] at htotal
    omega
  · rw [← hkeys] at hc
    obtain ⟨x, hx, rfl⟩ := List.mem_map.mp hc
    have hinto := hflow.balances x.component
    rw [Flow.sum_only ComponentUnits.component ComponentUnits.equity
      (hkeys ▸ hw₁.defaultOnly.nodup) hx, (hplain x hx).equity] at hinto
    have hzero : (units.map fun y => only y.component 0 x.component).sum = 0 := by simp [only]
    have hmono := (hbal x.component setToken).trans (hbal' x.component setToken)
    simp only [if_true] at hinto
    omega

/-- `DebtIssuanceModule.redeem` preserves the invariant. -/
theorem Invariant.debtRedeem (hooks : HooksSpare setToken env) (hw : Invariant setToken w)
    (hsender : msgSender ≠ setToken)
    (h : DebtIssuanceModule.redeem debtModule env w msgSender setToken quantity recipient =
      .ok w') : Invariant setToken w' := by
  simp only [DebtIssuanceModule.redeem, DebtIssuanceModule.redeemAfterHooks, bind_eq_ok] at h
  obtain ⟨w₁, hhooks, w₂, hburn, fees, hfees, units, hunits, w₃, hdebt, w₄, hequity,
    hresolve⟩ := h
  have hw₁ := hw.of_spares (spares_of_callPreRedeemHooks hooks hhooks)
  obtain ⟨hburned, hsupply₂, hbal₂⟩ := World.flow_of_burn hburn hsender
  rw [hburned] at hunits
  obtain ⟨hkeys, hplain⟩ := requiredUnits_spec hw₁.defaultOnly hunits
  rw [resolveDebtPositions_eq hplain] at hdebt
  obtain rfl : w₂ = w₃ := by simpa using hdebt
  have hflow := Flow.foldlM ComponentUnits.component (fun _ => 0) ComponentUnits.equity
    (fun x hx w₅ w₆ hw₅ h => flow_of_resolveEquityPosition false
      (hw₅ ▸ (hplain x hx).external) h) (by rw [hburned]) hequity
  obtain ⟨-, hfee, htotal⟩ := DebtIssuanceModule.calculateTotalFees_spec hfees
  obtain ⟨hset, hsupply, hbal⟩ := DebtIssuanceModule.resolveFees_spec hresolve
  refine hw₁.of_withdrawal fees.totalQuantity ?_ ?_ fun c hc => ?_
  · rw [hset, hflow.positions, hburned]
  · have hminted := DebtIssuanceModule.mintedFees_le fees.managerFee fees.protocolFee
    rw [hsupply, hflow.supply]
    simp only [Bool.false_eq_true, if_false] at htotal
    omega
  · rw [← hkeys] at hc
    obtain ⟨x, hx, rfl⟩ := List.mem_map.mp hc
    have hout := hflow.balances x.component
    rw [Flow.sum_only ComponentUnits.component ComponentUnits.equity
      (hkeys ▸ hw₁.defaultOnly.nodup) hx, (hplain x hx).equity, hbal₂] at hout
    have hmono := hbal x.component setToken
    simp only [Bool.false_eq_true, if_false] at hout
    omega

/-- The computations of a redemption are not transfers. -/
private theorem neverShort_calculateTotalFees :
    NeverShort (DebtIssuanceModule.calculateTotalFees debtModule w setToken quantity isIssue) :=
  (neverShort_preciseMul _ _).bind fun _ _ => (neverShort_preciseMul _ _).bind fun _ _ =>
    (neverShort_sub _ _).bind fun _ _ =>
      (NeverShort.ite (fun _ => neverShort_add _ _) fun _ => neverShort_sub _ _).bind
        fun _ _ => .ok _

/-- The computations of a redemption are not transfers. -/
private theorem neverShort_calculateRequiredComponentIssuanceUnits :
    NeverShort (DebtIssuanceModule.calculateRequiredComponentIssuanceUnits s quantity isIssue) := by
  refine NeverShort.bind (.mapM fun c _ => ?_) fun units _ => .mapM fun x _ => ?_
  · refine (neverShort_getDefaultPositionRealUnit s c).bind fun _ _ =>
      NeverShort.bind (.foldlM (fun _ _ => True) (fun _ _ _ _ => ?_)
        (fun _ _ _ _ _ _ => trivial) trivial) fun _ _ =>
          (neverShort_toUint256 _).bind fun _ _ => (neverShort_mulInt _ _).bind fun _ _ =>
            (neverShort_toUint256 _).bind fun _ _ => .ok _
    refine (neverShort_getExternalPositionRealUnit s c _).bind fun _ _ => .ite (fun _ => ?_)
      fun _ => ?_
    · exact (neverShort_addInt _ _).bind fun _ _ => .ok _
    · exact (neverShort_addInt _ _).bind fun _ _ => .ok _
  · refine NeverShort.bind ?_ fun _ _ => NeverShort.bind ?_ fun _ _ => .ok _
    · exact .ite (fun _ => neverShort_preciseMulCeil _ _) fun _ => neverShort_preciseMul _ _
    · exact .ite (fun _ => neverShort_preciseMul _ _) fun _ => neverShort_preciseMulCeil _ _

/-- A round over equity pays out what is there. -/
private theorem neverShort_resolveEquityPosition {x : ComponentUnits}
    (hext : (w.setTokens setToken).externalPositionModules x.component = [])
    (hle : x.equity ≤ (w.tokens x.component).balances setToken) :
    NeverShort (DebtIssuanceModule.resolveEquityPosition debtModule env msgSender setToken
      quantity recipient false w x) := by
  refine .ite (fun _ => NeverShort.bind ?_ fun w₁ hhooks => ?_) fun _ => .ok _
  · rw [DebtIssuanceModule.executeExternalPositionHooks, hext]
    exact .ok _
  · rw [executeExternalPositionHooks_eq_ok hext hhooks]
    exact neverShort_strictInvokeTransfer hle

/-- Minting fees is no transfer. -/
private theorem neverShort_resolveFees {managerFee protocolFee : ℕ} :
    NeverShort (DebtIssuanceModule.resolveFees debtModule w setToken managerFee protocolFee) :=
  .ite (fun _ => neverShort_mint.bind fun _ _ => .ite (fun _ => neverShort_mint) fun _ => .ok _)
    fun _ => .ok _

/-- After the hooks, `DebtIssuanceModule.redeem` does not run out of a component. -/
private theorem Invariant.neverShort_redeemAfterHooks (hw : Invariant setToken w)
    (hsender : msgSender ≠ setToken) :
    NeverShort (DebtIssuanceModule.redeemAfterHooks debtModule env w msgSender setToken quantity
      recipient) := by
  refine neverShort_burn.bind fun w₁ hburn => neverShort_calculateTotalFees.bind fun fees hfees =>
    neverShort_calculateRequiredComponentIssuanceUnits.bind fun units hunits => ?_
  obtain ⟨-, -, htotal⟩ := DebtIssuanceModule.calculateTotalFees_spec hfees
  simp only [Bool.false_eq_true, if_false] at htotal
  have hstock := Stocked.of_burn hw hburn hsender (by omega : fees.totalQuantity ≤ quantity)
  rw [hstock.positions] at hunits
  obtain ⟨hkeys, hplain⟩ := requiredUnits_spec hw.defaultOnly hunits
  rw [resolveDebtPositions_eq hplain]
  refine (NeverShort.ok w₁).bind fun w₂ h₂ => NeverShort.bind ?_ fun _ _ => neverShort_resolveFees
  obtain rfl : w₁ = w₂ := by simpa using h₂
  rw [← hkeys] at hstock
  -- the invariant of the loop: the components still to come are stocked
  refine NeverShort.foldlM (fun l w₂ => (∀ x ∈ l, x ∈ units) ∧
    Stocked setToken (w.setTokens setToken) fees.totalQuantity (l.map ComponentUnits.component) w₂)
    (fun x l w₂ hl => ?_) (fun x l w₂ w₃ hl h => ?_) ⟨fun _ hx => hx, hstock⟩
  · have hx := hl.1 x List.mem_cons_self
    have henough := hl.2.enough x.component (List.mem_map_of_mem List.mem_cons_self)
    refine neverShort_resolveEquityPosition (hl.2.positions ▸ (hplain x hx).external) ?_
    simpa [(hplain x hx).equity] using henough
  · have hx := hl.1 x List.mem_cons_self
    have hflow := flow_of_resolveEquityPosition false
      (hl.2.positions ▸ (hplain x hx).external) h
    simp only [Bool.false_eq_true, if_false] at hflow
    exact ⟨fun y hy => hl.1 y (List.mem_cons_of_mem x hy), hl.2.next hflow⟩

/-- `DebtIssuanceModule.redeem` does not run out of a component. -/
theorem Invariant.neverShort_debtRedeem (hooks : HooksSpare setToken env)
    (hw : Invariant setToken w) (hsender : msgSender ≠ setToken) :
    NeverShort (DebtIssuanceModule.redeem debtModule env w msgSender setToken quantity
      recipient) := by
  refine NeverShort.bind ?_ fun w₁ hpre =>
    (hw.of_spares (spares_of_callPreRedeemHooks hooks hpre)).neverShort_redeemAfterHooks hsender
  exact neverShort_onlyValidAndInitializedSet.bind fun _ _ =>
    (NeverShort.require (by decide)).bind fun _ _ =>
      .foldlM (fun _ _ => True) (fun hook _ w _ => hooks.reason hook _ _ w)
        (fun _ _ _ _ _ _ => trivial) trivial

end Debt

/-! ## Token transfers -/

/-- A token call that takes nothing from the Set spares it. -/
theorem spares_of_editToken {token : Address} {f : ERC20 → Except Revert ERC20}
    (hf : ∀ t t', f t = .ok t' → t'.totalSupply = t.totalSupply ∧
      t.balances setToken ≤ t'.balances setToken)
    (h : w.editToken token f = .ok w') : Spares setToken w w' := by
  obtain ⟨t, ht, rfl⟩ := World.editToken_eq_ok.mp h
  obtain ⟨hsupply, hbal⟩ := hf _ _ ht
  refine ⟨rfl, ?_, fun c => ?_⟩
  · by_cases hc : setToken = token
    · subst hc
      simpa [World.totalSupply, World.setTokenLedger] using hsupply
    · simp [World.totalSupply, World.setTokenLedger, hc]
  · by_cases hc : c = token
    · subst hc
      simpa [World.setTokenLedger] using hbal
    · simp [World.setTokenLedger, hc]

/-- A transfer by another account takes nothing from the Set. -/
theorem le_balances_transferred {t : ERC20} {sender recipient : Address} {amount : ℕ}
    (hsender : sender ≠ setToken) (hle : amount ≤ t.balances sender) :
    t.balances setToken ≤ (t.transferred sender recipient amount).balances setToken := by
  have h := ERC20.balances_transferred recipient hle setToken
  rw [if_neg hsender.symm] at h
  omega

/-! ## Runs -/

/-- Every action of users preserves the invariant. -/
theorem Invariant.step (hooks : HooksSpare setToken env) {a : Action} (hw : Invariant setToken w)
    (husers : ByUsers setToken a w)
    (h : step basicModule debtModule setToken env a w = .ok w') : Invariant setToken w' := by
  cases a with
  | basicIssue => exact hw.basicIssue hooks h
  | basicRedeem => exact hw.basicRedeem husers h
  | debtIssue => exact hw.debtIssue hooks h
  | debtRedeem => exact hw.debtRedeem hooks husers h
  | transfer token msgSender recipient amount =>
    refine hw.of_spares (spares_of_editToken
      (f := fun t => t.transfer msgSender recipient amount) (fun t t' ht => ?_) h)
    obtain ⟨-, -, hle, -, rfl⟩ := ERC20.move_eq_ok.mp ht
    exact ⟨rfl, le_balances_transferred husers hle⟩
  | transferFrom token msgSender sender recipient amount =>
    refine hw.of_spares (spares_of_editToken
      (f := fun t => t.transferFrom msgSender sender recipient amount) (fun t t' ht => ?_) h)
    obtain ⟨-, hle, hbal, hsupply⟩ := ERC20.of_transferFrom_eq_ok ht
    exact ⟨hsupply, hbal ▸ le_balances_transferred husers hle⟩
  | approve token msgSender spender amount =>
    refine hw.of_spares (spares_of_editToken
      (f := fun t => t.approve msgSender spender amount) (fun t t' ht => ?_) h)
    obtain ⟨-, -, rfl⟩ := ERC20.approve_eq_ok.mp ht
    exact ⟨rfl, Nat.le_refl _⟩
  | configure controller settings basicIssuanceHook =>
    simp only [IssuanceRun.step, Except.ok.injEq] at h
    subst h
    exact ⟨hw.defaultOnly, hw.collateralised⟩

/-- From the supply zero, in every state that users reach, the Set holds of each component the
default unit times the supply, and no redemption, of whatever a caller holds, runs out of a
component. -/
theorem collateralised_of_run (hooks : HooksSpare setToken env) {w₀ : World}
    (defaultOnly : DefaultOnly (w₀.setTokens setToken)) (empty : w₀.totalSupply setToken = 0)
    (reached : ReachWhen (step basicModule debtModule setToken env) (ByUsers setToken) w₀ w) :
    (∀ c ∈ (w.setTokens setToken).components, Collateralised w setToken c) ∧
      ∀ msgSender quantity recipient, msgSender ≠ setToken →
        quantity ≤ (w.tokens setToken).balances msgSender →
          NeverShort (BasicIssuanceModule.redeem basicModule env w msgSender setToken quantity
            recipient) ∧
          NeverShort (DebtIssuanceModule.redeem debtModule env w msgSender setToken quantity
            recipient) := by
  have initial : Invariant setToken w₀ := by
    refine ⟨defaultOnly, fun c _ => ?_⟩
    rw [collateralised_iff, empty, Nat.mul_zero]
    exact Nat.zero_le _
  have hw := reached.invariant (Invariant setToken)
    (fun a t t' ht met stepped => ht.step hooks met stepped) initial
  exact ⟨hw.collateralised, fun msgSender quantity recipient hsender _ =>
    ⟨hw.neverShort_basicRedeem hsender, hw.neverShort_debtRedeem hooks hsender⟩⟩

/-- Without hooks none touches the Set. -/
theorem hooksSpare_default : HooksSpare setToken {} := by
  have hrefl : ∀ w w', (Except.ok w : Except Revert World) = .ok w' → Spares setToken w w' := by
    intro w w' h
    obtain rfl : w = w' := by simpa using h
    exact .refl _ _
  exact ⟨fun _ _ _ _ w w' h => hrefl w w' h, fun _ _ _ w w' h => hrefl w w' h,
    fun _ _ _ w w' h => hrefl w w' h, fun _ _ _ w => .ok w⟩

/-- A Set at `100` of a third of the token `11`, with the modules `1` and `2`, a fee of one percent
and a tenth of it for the protocol. The user `50` has tokens. -/
def exampleWorld : World :=
  { controller :=
      { isSet := fun a => a = 100
        isModule := fun a => a = 1 ∨ a = 2
        fees := fun _ _ => 10 ^ 17
        feeRecipient := 60 }
    tokens := fun a => if a = 11 then { balances := fun b => if b = 50 then 10 ^ 30 else 0 } else {}
    setTokens := fun _ =>
      { moduleStates := fun _ => .initialized
        components := [11]
        componentPositions := fun _ => { virtualUnit := 10 ^ 18 / 3 } }
    issuanceSettings := fun _ =>
      { managerIssueFee := 10 ^ 16, managerRedeemFee := 10 ^ 16, feeRecipient := 61 } }

/-- The user issues Sets in both modules, gives some away, and redeems some in both. -/
def exampleActions : List Action :=
  [.approve 11 50 1 (10 ^ 30), .approve 11 50 2 (10 ^ 30), .basicIssue 50 7 50,
    .debtIssue 50 (10 ^ 18 + 1) 51, .transfer 100 50 51 3, .basicRedeem 51 5 51,
    .debtRedeem 51 1000 51]

/-- A run in which some Sets are left. -/
theorem collateralised_of_run_example :
    ∃ w, runAll (step 1 2 100 {}) exampleActions exampleWorld = .ok w ∧ 0 < w.totalSupply 100 ∧
      Collateralised w 100 11 := by
  obtain ⟨w, hrun, hw⟩ := exists_of_yields
    (x := runAll (guarded (step 1 2 100 {}) (ByUsers 100) "") exampleActions exampleWorld)
    (p := fun w => 0 < w.totalSupply 100 ∧ 11 ∈ (w.setTokens 100).components) (by decide +kernel)
  obtain ⟨hsupply, hcomp⟩ := of_decide_eq_true hw
  have hdefault : DefaultOnly (exampleWorld.setTokens 100) :=
    ⟨by decide, fun c _ => by rfl⟩
  exact ⟨w, runAll_of_guarded hrun, hsupply,
    (collateralised_of_run hooksSpare_default hdefault rfl (reachWhen_of_runAll hrun)).1 11 hcomp⟩

end IssuanceRun

end SetProtocol
