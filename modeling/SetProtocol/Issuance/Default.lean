import SetProtocol.Lib.Lockstep
import SetProtocol.Modules.BasicIssuanceModule
import SetProtocol.Modules.DebtIssuanceModule
import SetProtocol.Modules.IssuanceModule

set_option relaxedAutoImplicit false
set_option autoImplicit false

/-!
# Issuance of Sets with default positions

`BasicIssuanceModule`, `IssuanceModule` and `DebtIssuanceModule` were written one after the other.
The first one reads the unit of a component where it uses it, the second one collects the units of
all components first, and the third one splits them into equity and debt and adds fees. On a Set
with default positions only, and without hooks and fees, all three do what issuance and redemption
are for, and nothing else: at one address they return the same state of the chain, for every input.

## Main definitions

* `SetProtocol.DefaultIssuance.issueDefault`, `redeemDefault` — what issuance and redemption are
  for.
* `SetProtocol.DefaultIssuance.Plain` — default positions only, no hooks, no fees.

## Main results

* `SetProtocol.DefaultIssuance.agree_basicIssue`, `agree_issuanceIssue`, `agree_debtIssue` — the
  issuance of each module.
* `SetProtocol.DefaultIssuance.agree_basicRedeem`, `agree_issuanceRedeem`, `agree_debtRedeem` — the
  redemption of each module.
-/

namespace SetProtocol

open Checked Lockstep

namespace DefaultIssuance

/-- The Set has default positions only, the issuance modules call no hooks for it, and the fees are
zero. -/
structure Plain (w : World) (setToken : Address) : Prop where
  /-- No component has an external position. -/
  external : ∀ c ∈ (w.setTokens setToken).components,
    (w.setTokens setToken).externalPositionModules c = []
  /-- The first module has no hook. -/
  basicHook : w.basicIssuanceHook setToken = zeroAddress
  /-- Nor has the second one. -/
  issuanceHook : w.issuanceHook setToken = zeroAddress
  /-- Nor has the third one. -/
  debtHook : (w.issuanceSettings setToken).managerIssuanceHook = zeroAddress
  /-- No module registered a hook with it. -/
  moduleHooks : (w.issuanceSettings setToken).moduleIssuanceHooks = []
  /-- There is no fee on issuance. -/
  issueFee : (w.issuanceSettings setToken).managerIssueFee = 0
  /-- There is no fee on redemption. -/
  redeemFee : (w.issuanceSettings setToken).managerRedeemFee = 0

variable {self caller setToken recipient c : Address} {env : Env} {w w' : World} {s : SetToken}
  {quantity : ℕ} {isIssue : Bool}

/-! ## What issuance and redemption are for -/

/-- The amount of a component that is due for a quantity: its default unit in proportion, rounded up
when it is collected and down when it is paid out. -/
def dueUnit (s : SetToken) (quantity : ℕ) (isIssue : Bool) (component : Address) :
    Except Revert (Address × ℕ) := do
  let unit ← SafeCast.toUint256 (← s.getDefaultPositionRealUnit component)
  let due ← (
    if isIssue then PreciseUnitMath.preciseMulCeil unit quantity
    else PreciseUnitMath.preciseMul unit quantity)
  return (component, due)

/-- The issuance of a Set with default positions by the module at `self`: the caller pays what is
due of each component, and the recipient gets the quantity. -/
def issueDefault (self : Address) (w : World) (caller setToken : Address) (quantity : ℕ)
    (recipient : Address) : Except Revert World := do
  ModuleBase.onlyValidAndInitializedSet self w setToken
  require (0 < quantity) "Issue quantity must be > 0"
  let due ← (w.setTokens setToken).components.mapM (dueUnit (w.setTokens setToken) quantity true)
  let w ← due.foldlM
    (fun w x => ModuleBase.transferFrom self w x.1 caller setToken x.2) w
  w.mint self setToken recipient quantity

/-- The redemption of a Set with default positions: the caller gives the quantity, and the recipient
gets what is due of each component. -/
def redeemDefault (self : Address) (env : Env) (w : World) (caller setToken : Address)
    (quantity : ℕ) (recipient : Address) : Except Revert World := do
  ModuleBase.onlyValidAndInitializedSet self w setToken
  require (0 < quantity) "Redeem quantity must be > 0"
  let w ← w.burn self setToken caller quantity
  let due ← (w.setTokens setToken).components.mapM (dueUnit (w.setTokens setToken) quantity false)
  due.foldlM (fun w x => Invoke.strictInvokeTransfer self env w setToken x.1 recipient x.2) w

/-! ## Amounts -/

/-- The first module asks for what is due. -/
theorem agree_requiredComponentUnit (hext : s.externalPositionModules c = []) :
    Agree Eq (dueUnit s quantity true c)
      (BasicIssuanceModule.requiredComponentUnit s quantity c) := by
  rw [agree_eq_iff]
  intro required
  have hnone : Position.hasExternalPosition s c = false :=
    Position.hasExternalPosition_eq_false.mpr hext
  simp [BasicIssuanceModule.requiredComponentUnit, dueUnit, hnone]

/-- The second module computes what is due in two steps. -/
theorem agree_totalIssuanceUnits (hext : s.externalPositionModules c = []) :
    Agree Eq (dueUnit s quantity isIssue c)
      (IssuanceModule.totalIssuanceUnits s c >>=
        IssuanceModule.notionalUnits quantity isIssue) := by
  rw [agree_eq_iff]
  intro due
  simp [dueUnit, IssuanceModule.totalIssuanceUnits, IssuanceModule.notionalUnits, hext]

/-- It does so for all components, the two steps in two loops. -/
theorem agree_issuanceUnits (hext : ∀ c ∈ s.components, s.externalPositionModules c = []) :
    Agree Eq (s.components.mapM (dueUnit s quantity isIssue))
      (IssuanceModule.getRequiredComponentIssuanceUnits s quantity isIssue) := by
  have hrounds : Agree Eq (s.components.mapM (dueUnit s quantity isIssue))
      (s.components.mapM fun c =>
        IssuanceModule.totalIssuanceUnits s c >>=
          IssuanceModule.notionalUnits quantity isIssue) :=
    agree_mapM_of_mem fun c hc => agree_totalIssuanceUnits (hext c hc)
  exact hrounds.eq_right (agree_mapM_mapM _)

/-- What is due of a component, as the third module has it: equity without debt. -/
def EquityOnly (x : Address × ℕ) (y : ComponentUnits) : Prop := y = ⟨x.1, x.2, 0⟩

/-- The third module computes what is due as equity, and finds no debt. -/
theorem agree_componentIssuanceUnits (hext : s.externalPositionModules c = []) :
    Agree EquityOnly (IssuanceModule.totalIssuanceUnits s c)
      (DebtIssuanceModule.componentIssuanceUnits s c) := by
  rw [agree_iff]
  simp only [IssuanceModule.totalIssuanceUnits, DebtIssuanceModule.componentIssuanceUnits, hext,
    List.foldlM_nil, bind_eq_ok, pure_eq_ok, SafeCast.toUint256_eq_ok, SignedSafeMath.mul_eq_ok]
  constructor
  · rintro _ ⟨unit, hunit, _, rfl, n, rfl, rfl⟩
    have hzero : InInt256 ((0 : ℤ) * -1) := by decide
    exact ⟨⟨c, n, 0⟩, ⟨_, hunit, _, rfl, n, rfl, 0, ⟨hzero, rfl⟩, 0, rfl, rfl⟩, rfl⟩
  · rintro _ ⟨unit, hunit, _, rfl, n, hn, _, ⟨-, rfl⟩, debt, hdebt, rfl⟩
    have hzero : debt = 0 := by
      have hdebt : (0 : ℤ) * -1 = debt := hdebt
      omega
    subst hzero
    exact ⟨(c, n), ⟨_, hunit, _, rfl, n, hn, rfl⟩, rfl⟩

/-- So does it for a quantity. -/
theorem agree_notionalUnits {x : Address × ℕ} {y : ComponentUnits} (h : EquityOnly x y) :
    Agree EquityOnly (IssuanceModule.notionalUnits quantity isIssue x)
      (DebtIssuanceModule.notionalUnits quantity isIssue y) := by
  obtain rfl := h
  refine agree_bind_same fun n _ => ?_
  have hdebt : (if isIssue then PreciseUnitMath.preciseMul 0 quantity
      else PreciseUnitMath.preciseMulCeil 0 quantity) = .ok 0 := by
    cases isIssue with
    | true => simp [InUint256]
    | false => simp [InUint256]
  exact Agree.bind_right hdebt rfl

/-- The third module computes what is due, and no debt, for all components. -/
theorem agree_debtUnits (hext : ∀ c ∈ s.components, s.externalPositionModules c = []) :
    Agree (List.Forall₂ EquityOnly) (s.components.mapM (dueUnit s quantity isIssue))
      (DebtIssuanceModule.calculateRequiredComponentIssuanceUnits s quantity isIssue) := by
  refine (agree_issuanceUnits hext).eq_left ?_
  refine Agree.bind (R := List.Forall₂ EquityOnly) ?_ fun l l' _ _ h => ?_
  · refine Agree.mapM (forall₂_self _) ?_
    rintro c _ ⟨rfl, hc⟩
    exact agree_componentIssuanceUnits (hext c hc)
  · exact Agree.mapM h fun x y hxy => agree_notionalUnits hxy

/-- What is due is due of the components. -/
theorem mem_of_dueUnits {due : List (Address × ℕ)}
    (h : s.components.mapM (dueUnit s quantity isIssue) = .ok due) {x : Address × ℕ}
    (hx : x ∈ due) : x.1 ∈ s.components := by
  obtain ⟨c, hc, hdue⟩ := exists_of_mem_mapM h hx
  simp only [dueUnit, bind_eq_ok, pure_eq_ok] at hdue
  obtain ⟨_, -, _, -, _, -, rfl⟩ := hdue
  exact hc

/-! ## Hooks and fees that do nothing -/

/-- Without external positions no hook of a component is called. -/
theorem issuanceHooks_eq_ok (hext : (w.setTokens setToken).externalPositionModules c = []) :
    IssuanceModule.executeExternalPositionHooks self env w setToken quantity c isIssue =
      .ok w := by
  unfold IssuanceModule.executeExternalPositionHooks
  rw [hext]
  rfl

/-- Nor by the third module. -/
theorem debtHooks_eq_ok {isEquity : Bool}
    (hext : (w.setTokens setToken).externalPositionModules c = []) :
    DebtIssuanceModule.executeExternalPositionHooks self env w setToken quantity c isIssue
      isEquity = .ok w := by
  unfold DebtIssuanceModule.executeExternalPositionHooks
  rw [hext]
  rfl

section Plain

variable (plain : Plain w setToken)

include plain

theorem Plain.basicHooks_eq_ok :
    BasicIssuanceModule.callPreIssueHooks env w setToken quantity caller recipient = .ok w := by
  unfold BasicIssuanceModule.callPreIssueHooks
  exact if_neg fun h => h plain.basicHook

theorem Plain.issuanceHooks_eq_ok :
    IssuanceModule.callPreIssueHooks env w setToken quantity caller recipient = .ok w := by
  unfold IssuanceModule.callPreIssueHooks
  exact if_neg fun h => h plain.issuanceHook

theorem Plain.managerHooks_eq_ok :
    DebtIssuanceModule.callManagerPreIssueHooks env w setToken quantity caller recipient =
      .ok w := by
  unfold DebtIssuanceModule.callManagerPreIssueHooks
  exact if_neg fun h => h plain.debtHook

theorem Plain.moduleIssueHooks_eq_ok :
    DebtIssuanceModule.callModulePreIssueHooks self env w setToken quantity = .ok w := by
  unfold DebtIssuanceModule.callModulePreIssueHooks
  rw [plain.moduleHooks]
  rfl

theorem Plain.moduleRedeemHooks_eq_ok :
    DebtIssuanceModule.callModulePreRedeemHooks self env w setToken quantity = .ok w := by
  unfold DebtIssuanceModule.callModulePreRedeemHooks
  rw [plain.moduleHooks]
  rfl

/-- Without fees the whole quantity is issued or redeemed. -/
theorem Plain.fees_eq_ok (hquantity : InUint256 quantity) :
    DebtIssuanceModule.calculateTotalFees self w setToken quantity isIssue =
      .ok ⟨quantity, 0, 0⟩ := by
  have hrate : (if isIssue then (w.issuanceSettings setToken).managerIssueFee
      else (w.issuanceSettings setToken).managerRedeemFee) = 0 := by
    rw [plain.issueFee, plain.redeemFee, ite_self]
  have hzero : ∀ n, InUint256 (0 * n) ∧ 0 * n / preciseUnit = 0 := by
    intro n
    simp [InUint256]
  simp only [DebtIssuanceModule.calculateTotalFees, hrate, bind_eq_ok,
    PreciseUnitMath.preciseMul_eq_ok, SafeMath.sub_eq_ok, pure_eq_ok]
  refine ⟨0, hzero _, 0, hzero _, 0, ⟨Nat.le_refl 0, rfl⟩, quantity, ?_, rfl⟩
  cases isIssue with
  | true => exact SafeMath.add_eq_ok.mpr ⟨hquantity, rfl⟩
  | false => exact SafeMath.sub_eq_ok.mpr ⟨Nat.zero_le _, rfl⟩

end Plain

/-! ## Rounds -/

/-- A transfer of a component leaves the Set alone. -/
theorem setTokens_of_transferFrom {token sender : Address} {amount : ℕ}
    (h : ModuleBase.transferFrom self w token sender recipient amount = .ok w') :
    w'.setTokens = w.setTokens := by
  obtain ⟨t, -, -, rfl⟩ := ModuleBase.transferFrom_spec h
  rfl

/-- So does a transfer by the Set. -/
theorem setTokens_of_strictInvokeTransfer {token : Address} {amount : ℕ}
    (h : Invoke.strictInvokeTransfer self env w setToken token recipient amount = .ok w') :
    w'.setTokens = w.setTokens := by
  obtain ⟨t, -, -, -, rfl⟩ := Invoke.strictInvokeTransfer_spec h
  rfl

section Rounds

variable {x : Address × ℕ} (hext : (w.setTokens setToken).externalPositionModules x.1 = [])

include hext

/-- A round of an issuance by the second module is a transfer. -/
theorem agree_issueComponent :
    Agree Eq (ModuleBase.transferFrom self w x.1 caller setToken x.2)
      (IssuanceModule.issueComponent self env caller setToken quantity w x) := by
  refine agree_bind_self fun w' h => issuanceHooks_eq_ok ?_
  rw [setTokens_of_transferFrom h]
  exact hext

/-- So is one by the third module, which skips an amount of zero. -/
theorem agree_resolveEquityPosition_issue :
    Agree Eq (ModuleBase.transferFrom self w x.1 caller setToken x.2)
      (DebtIssuanceModule.resolveEquityPosition self env caller setToken quantity recipient true w
        ⟨x.1, x.2, 0⟩) := by
  unfold DebtIssuanceModule.resolveEquityPosition
  rw [if_pos rfl]
  split
  · refine agree_bind_self fun w' h => debtHooks_eq_ok ?_
    rw [setTokens_of_transferFrom h]
    exact hext
  · rename_i hzero
    exact Agree.of_eq_ok (if_neg hzero) rfl rfl

/-- A round of a redemption by the second module is a transfer by the Set. -/
theorem agree_redeemComponent :
    Agree Eq (Invoke.strictInvokeTransfer self env w setToken x.1 recipient x.2)
      (IssuanceModule.redeemComponent self env setToken quantity recipient w x) :=
  Agree.bind_right (issuanceHooks_eq_ok hext) (Agree.refl (fun _ => rfl) _)

/-- So is one by the third module. -/
theorem agree_resolveEquityPosition_redeem :
    Agree Eq (Invoke.strictInvokeTransfer self env w setToken x.1 recipient x.2)
      (DebtIssuanceModule.resolveEquityPosition self env caller setToken quantity recipient false w
        ⟨x.1, x.2, 0⟩) := by
  unfold DebtIssuanceModule.resolveEquityPosition
  rw [if_neg Bool.false_ne_true]
  split
  · exact Agree.bind_right (debtHooks_eq_ok hext) (Agree.refl (fun _ => rfl) _)
  · rename_i hzero
    exact Agree.of_eq_ok (if_neg hzero) rfl rfl

end Rounds

/-- A round of a redemption by the first module computes what is due and pays it. -/
theorem agree_basicRedeemComponent (hext : (w.setTokens setToken).externalPositionModules c = []) :
    Agree Eq
      (dueUnit (w.setTokens setToken) quantity false c >>= fun x =>
        Invoke.strictInvokeTransfer self env w setToken x.1 recipient x.2)
      (BasicIssuanceModule.redeemComponent self env setToken quantity recipient w c) := by
  rw [agree_eq_iff]
  intro w'
  have hnone : Position.hasExternalPosition (w.setTokens setToken) c = false :=
    Position.hasExternalPosition_eq_false.mpr hext
  simp [BasicIssuanceModule.redeemComponent, dueUnit, hnone, Nat.mul_comm quantity]

/-! ## Loops -/

/-- Loops over positions agree when their rounds do, in worlds in which the Set is as at first. -/
theorem agree_rounds {α β : Type} {P : α → β → Prop} {f : World → α → Except Revert World}
    {g : World → β → Except Revert World} {l : List α} {l' : List β} (hl : List.Forall₂ P l l')
    (keeps : ∀ a w₁ w₂, f w₁ a = .ok w₂ → w₂.setTokens = w₁.setTokens)
    (hround : ∀ a b w₁, P a b → w₁.setTokens = w.setTokens → Agree Eq (f w₁ a) (g w₁ b)) :
    Agree Eq (l.foldlM f w) (l'.foldlM g w) := by
  have hloop : Agree (fun w₁ w₂ => w₁ = w₂ ∧ w₁.setTokens = w.setTokens) (l.foldlM f w)
      (l'.foldlM g w) := by
    refine Agree.foldlM hl ?_ ⟨rfl, rfl⟩
    rintro a b w₁ _ hab ⟨rfl, hsame⟩
    exact (hround a b w₁ hab hsame).and_left fun w₂ h => (keeps a w₁ w₂ h).trans hsame
  exact hloop.mono fun _ _ h => h.1

/-- Debt of zero is not resolved. -/
theorem resolveDebtPositions_eq_ok {due : List (Address × ℕ)} {units : List ComponentUnits}
    (h : List.Forall₂ EquityOnly due units) :
    DebtIssuanceModule.resolveDebtPositions self env w caller setToken quantity isIssue units =
      .ok w := by
  induction h with
  | nil => rfl
  | cons hxy _ ih =>
    obtain rfl := hxy
    exact foldlM_cons_eq_ok.mpr ⟨w, rfl, ih⟩

/-! ## The three modules at one address -/

section OneAddress

variable (plain : Plain w setToken)

include plain

/-- `BasicIssuanceModule.issue`. -/
theorem agree_basicIssue :
    Agree Eq (issueDefault self w caller setToken quantity recipient)
      (BasicIssuanceModule.issue self env w caller setToken quantity recipient) := by
  refine agree_bind_same fun _ hvalid => ?_
  refine agree_bind_same fun _ _ => ?_
  refine Agree.bind_right plain.basicHooks_eq_ok ?_
  have hamounts : Agree Eq
      ((w.setTokens setToken).components.mapM (dueUnit (w.setTokens setToken) quantity true))
      (BasicIssuanceModule.getRequiredComponentUnitsForIssue self w setToken quantity) := by
    refine Agree.bind_right hvalid (agree_mapM_of_mem fun c hc => ?_)
    exact agree_requiredComponentUnit (plain.external c hc)
  refine hamounts.bind_eq fun due _ => ?_
  exact agree_bind_same fun w₁ _ => Agree.refl (fun _ => rfl) _

/-- `IssuanceModule.issue`. -/
theorem agree_issuanceIssue :
    Agree Eq (issueDefault self w caller setToken quantity recipient)
      (IssuanceModule.issue self env w caller setToken quantity recipient) := by
  refine agree_bind_same fun _ _ => ?_
  refine agree_bind_same fun _ _ => ?_
  refine Agree.bind_right plain.issuanceHooks_eq_ok ?_
  refine (agree_issuanceUnits plain.external).bind_eq fun due hdue => ?_
  refine Agree.bind_eq ?_ fun w₁ _ => ?_
  · refine agree_rounds (forall₂_self due) (fun x w₁ w₂ h => setTokens_of_transferFrom h) ?_
    rintro x _ w₁ ⟨rfl, hx⟩ hsame
    refine agree_issueComponent ?_
    rw [hsame]
    exact plain.external x.1 (mem_of_dueUnits hdue hx)
  · exact Agree.refl (fun _ => rfl) _

/-- `DebtIssuanceModule.issue`. -/
theorem agree_debtIssue (hquantity : InUint256 quantity) :
    Agree Eq (issueDefault self w caller setToken quantity recipient)
      (DebtIssuanceModule.issue self env w caller setToken quantity recipient) := by
  simp only [DebtIssuanceModule.issue, DebtIssuanceModule.callPreIssueHooks, bind_assoc]
  refine agree_bind_same fun _ _ => ?_
  refine agree_bind_same fun _ _ => ?_
  refine Agree.bind_right plain.managerHooks_eq_ok ?_
  refine Agree.bind_right plain.moduleIssueHooks_eq_ok ?_
  refine Agree.bind_right (plain.fees_eq_ok hquantity) ?_
  refine (agree_debtUnits plain.external).bind fun due units hdue _ hunits => ?_
  refine Agree.bind_eq ?_ fun w₁ _ => ?_
  · have hmem := (List.forall₂_and_left due units).mpr ⟨fun x hx => mem_of_dueUnits hdue hx, hunits⟩
    refine agree_rounds hmem (fun x w₁ w₂ h => setTokens_of_transferFrom h) ?_
    rintro x _ w₁ ⟨hx, rfl⟩ hsame
    refine agree_resolveEquityPosition_issue ?_
    rw [hsame]
    exact plain.external x.1 hx
  · refine Agree.bind_right (resolveDebtPositions_eq_ok hunits) ?_
    exact Agree.bind_right rfl (Agree.refl (fun _ => rfl) _)

/-- The Set is not changed by a burn. -/
theorem Plain.of_burn {w₁ : World} (h : w.burn self setToken caller quantity = .ok w₁) :
    Plain w₁ setToken := by
  simp only [World.burn, bind_eq_ok, World.editToken_eq_ok] at h
  obtain ⟨-, -, _, -, rfl⟩ := h
  exact ⟨plain.external, plain.basicHook, plain.issuanceHook, plain.debtHook, plain.moduleHooks,
    plain.issueFee, plain.redeemFee⟩

/-- `BasicIssuanceModule.redeem`. -/
theorem agree_basicRedeem :
    Agree Eq (redeemDefault self env w caller setToken quantity recipient)
      (BasicIssuanceModule.redeem self env w caller setToken quantity recipient) := by
  refine agree_bind_same fun _ _ => ?_
  refine agree_bind_same fun _ _ => ?_
  refine agree_bind_same fun w₁ hburn => ?_
  have hplain := plain.of_burn hburn
  refine Agree.eq_left (Agree.symm_eq (agree_foldlM_mapM _ w₁)) ?_
  refine agree_rounds (forall₂_self _) (fun c w₂ w₃ h => ?_) ?_
  · obtain ⟨x, -, hpay⟩ := bind_eq_ok.mp h
    exact setTokens_of_strictInvokeTransfer hpay
  · rintro c _ w₂ ⟨rfl, hc⟩ hsame
    rw [← hsame]
    refine agree_basicRedeemComponent ?_
    rw [hsame]
    exact hplain.external c hc

/-- `IssuanceModule.redeem`. -/
theorem agree_issuanceRedeem :
    Agree Eq (redeemDefault self env w caller setToken quantity recipient)
      (IssuanceModule.redeem self env w caller setToken quantity recipient) := by
  refine agree_bind_same fun _ _ => ?_
  refine agree_bind_same fun _ _ => ?_
  refine agree_bind_same fun w₁ hburn => ?_
  have hplain := plain.of_burn hburn
  refine (agree_issuanceUnits hplain.external).bind_eq fun due hdue => ?_
  refine agree_rounds (forall₂_self due)
    (fun x w₂ w₃ h => setTokens_of_strictInvokeTransfer h) ?_
  rintro x _ w₂ ⟨rfl, hx⟩ hsame
  refine agree_redeemComponent ?_
  rw [hsame]
  exact hplain.external x.1 (mem_of_dueUnits hdue hx)

/-- `DebtIssuanceModule.redeem`. -/
theorem agree_debtRedeem (hquantity : InUint256 quantity) :
    Agree Eq (redeemDefault self env w caller setToken quantity recipient)
      (DebtIssuanceModule.redeem self env w caller setToken quantity recipient) := by
  simp only [DebtIssuanceModule.redeem, DebtIssuanceModule.callPreRedeemHooks, bind_assoc]
  refine agree_bind_same fun _ _ => ?_
  refine agree_bind_same fun _ _ => ?_
  refine Agree.bind_right plain.moduleRedeemHooks_eq_ok ?_
  refine agree_bind_same fun w₁ hburn => ?_
  have hplain := plain.of_burn hburn
  refine Agree.bind_right (hplain.fees_eq_ok hquantity) ?_
  refine (agree_debtUnits hplain.external).bind fun due units hdue _ hunits => ?_
  refine Agree.bind_right (resolveDebtPositions_eq_ok hunits) ?_
  have hmem := (List.forall₂_and_left due units).mpr ⟨fun x hx => mem_of_dueUnits hdue hx, hunits⟩
  have hloop : Agree Eq
      (due.foldlM (fun w x =>
        Invoke.strictInvokeTransfer self env w setToken x.1 recipient x.2) w₁)
      (DebtIssuanceModule.resolveEquityPositions self env w₁ caller setToken quantity recipient
        false units) := by
    refine agree_rounds hmem (fun x w₂ w₃ h => setTokens_of_strictInvokeTransfer h) ?_
    rintro x _ w₂ ⟨hx, rfl⟩ hsame
    refine agree_resolveEquityPosition_redeem ?_
    rw [hsame]
    exact hplain.external x.1 hx
  exact hloop.eq_right (agree_bind_self fun w₂ _ => rfl)

end OneAddress

end DefaultIssuance

end SetProtocol
