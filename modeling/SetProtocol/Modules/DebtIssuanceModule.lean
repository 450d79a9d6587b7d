import SetProtocol.Core.Flow

set_option relaxedAutoImplicit false
set_option autoImplicit false

/-!
# Issuance of Sets with debt

`contracts/protocol/modules/DebtIssuanceModule.sol`. The module deployed at `self` is called by
`msgSender`. The arrays of component amounts that the source keeps in parallel are one list here,
of a component with its equity and its debt.

## Main definitions

* `SetProtocol.DebtIssuanceModule.issue`, `redeem`.
* `SetProtocol.DebtIssuanceModule.calculateTotalFees` — the fees, and the quantity they leave.
* `SetProtocol.DebtIssuanceModule.initializeModule`, `updateIssueFee`, `updateRedeemFee`,
  `updateFeeRecipient` — the configuration of the fees.
* `SetProtocol.DebtIssuanceModule.totalFee`, `mintedFees` — the fee as a number, and what is minted
  for it.

## Main results

* `SetProtocol.DebtIssuanceModule.calculateTotalFees_spec` — the fee is split without a remainder.
* `SetProtocol.DebtIssuanceModule.resolveFees_spec` — what is minted for the fee.
* `SetProtocol.DebtIssuanceModule.notionalUnits_eq_ok` — issuance rounds up equity and rounds down
  debt, redemption the other way.
* `SetProtocol.DebtIssuanceModule.componentIssuanceUnits_of_default`, `..._of_debt` — equity and
  debt of a component.
-/

namespace SetProtocol

open Checked

/-- The amounts of a component that an issuance collects and pays out. -/
structure ComponentUnits where
  /-- The component. -/
  component : Address
  /-- The equity. -/
  equity : ℕ
  /-- The debt. -/
  debt : ℕ
  deriving DecidableEq

/-- What `calculateTotalFees` returns. -/
structure TotalFees where
  /-- The quantity with or without the fees, for an issuance or a redemption. -/
  totalQuantity : ℕ
  /-- The fee of the manager. -/
  managerFee : ℕ
  /-- The fee of the protocol. -/
  protocolFee : ℕ
  deriving DecidableEq

namespace DebtIssuanceModule

/-- `ISSUANCE_MODULE_PROTOCOL_FEE_SPLIT_INDEX`. -/
def issuanceModuleProtocolFeeSplitIndex : ℕ := 0

/-! ## Fees and units -/

/-- `calculateTotalFees`. -/
def calculateTotalFees (self : Address) (w : World) (setToken : Address) (quantity : ℕ)
    (isIssue : Bool) : Except Revert TotalFees := do
  let setIssuanceSettings := w.issuanceSettings setToken
  let protocolFeeSplit := w.controller.getModuleFee self issuanceModuleProtocolFeeSplitIndex
  let totalFeeRate :=
    if isIssue then setIssuanceSettings.managerIssueFee else setIssuanceSettings.managerRedeemFee
  let totalFee ← PreciseUnitMath.preciseMul totalFeeRate quantity
  let protocolFee ← PreciseUnitMath.preciseMul totalFee protocolFeeSplit
  let managerFee ← SafeMath.sub totalFee protocolFee
  let totalQuantity ← (
    if isIssue then SafeMath.add quantity totalFee else SafeMath.sub quantity totalFee)
  return ⟨totalQuantity, managerFee, protocolFee⟩

/-- One round of the inner loop of `_getTotalIssuanceUnits`, on equity and debt so far. -/
def addExternalUnit (s : SetToken) (component : Address) (units : ℤ × ℤ)
    (externalModule : Address) : Except Revert (ℤ × ℤ) := do
  let externalPositionUnit ← s.getExternalPositionRealUnit component externalModule
  -- a unit that is not positive is added to the debt
  if 0 < externalPositionUnit then
    return (← SignedSafeMath.add units.1 externalPositionUnit, units.2)
  else
    return (units.1, ← SignedSafeMath.add units.2 externalPositionUnit)

/-- One round of the outer loop of `_getTotalIssuanceUnits`. -/
def componentIssuanceUnits (s : SetToken) (component : Address) :
    Except Revert ComponentUnits := do
  let defaultUnit ← s.getDefaultPositionRealUnit component
  let (cumulativeEquity, cumulativeDebt) ←
    (s.externalPositionModules component).foldlM (addExternalUnit s component) (defaultUnit, 0)
  let equity ← SafeCast.toUint256 cumulativeEquity
  let debt ← SafeCast.toUint256 (← SignedSafeMath.mul cumulativeDebt (-1))
  return ⟨component, equity, debt⟩

/-- `_getTotalIssuanceUnits`. -/
def getTotalIssuanceUnits (s : SetToken) : Except Revert (List ComponentUnits) :=
  s.components.mapM (componentIssuanceUnits s)

/-- One round of the loop of `_calculateRequiredComponentIssuanceUnits`. -/
def notionalUnits (quantity : ℕ) (isIssue : Bool) (units : ComponentUnits) :
    Except Revert ComponentUnits := do
  let equity ← (
    if isIssue then PreciseUnitMath.preciseMulCeil units.equity quantity
    else PreciseUnitMath.preciseMul units.equity quantity)
  let debt ← (
    if isIssue then PreciseUnitMath.preciseMul units.debt quantity
    else PreciseUnitMath.preciseMulCeil units.debt quantity)
  return ⟨units.component, equity, debt⟩

/-- `_calculateRequiredComponentIssuanceUnits`. -/
def calculateRequiredComponentIssuanceUnits (s : SetToken) (quantity : ℕ) (isIssue : Bool) :
    Except Revert (List ComponentUnits) := do
  let units ← getTotalIssuanceUnits s
  units.mapM (notionalUnits quantity isIssue)

/-! ## Hooks -/

/-- `_callManagerPreIssueHooks`. -/
def callManagerPreIssueHooks (env : Env) (w : World) (setToken : Address) (quantity : ℕ)
    (caller recipient : Address) : Except Revert World :=
  let preIssueHook := (w.issuanceSettings setToken).managerIssuanceHook
  if preIssueHook ≠ zeroAddress then
    env.invokePreIssueHook preIssueHook setToken quantity caller recipient w
  else .ok w

/-- `_callModulePreIssueHooks`. -/
def callModulePreIssueHooks (self : Address) (env : Env) (w : World) (setToken : Address)
    (quantity : ℕ) : Except Revert World :=
  (w.issuanceSettings setToken).moduleIssuanceHooks.foldlM
    (fun w issuanceHook => env.moduleIssueHook issuanceHook self setToken quantity w) w

/-- `_callModulePreRedeemHooks`. -/
def callModulePreRedeemHooks (self : Address) (env : Env) (w : World) (setToken : Address)
    (quantity : ℕ) : Except Revert World :=
  (w.issuanceSettings setToken).moduleIssuanceHooks.foldlM
    (fun w issuanceHook => env.moduleRedeemHook issuanceHook self setToken quantity w) w

/-- `_executeExternalPositionHooks`. -/
def executeExternalPositionHooks (self : Address) (env : Env) (w : World) (setToken : Address)
    (setTokenQuantity : ℕ) (component : Address) (isIssue isEquity : Bool) :
    Except Revert World :=
  ((w.setTokens setToken).externalPositionModules component).foldlM (fun w externalModule =>
    if isIssue then
      env.componentIssueHook externalModule self setToken setTokenQuantity component isEquity w
    else
      env.componentRedeemHook externalModule self setToken setTokenQuantity component isEquity w) w

/-! ## Resolution of positions -/

/-- One round of `_resolveEquityPositions`. -/
def resolveEquityPosition (self : Address) (env : Env) (msgSender setToken : Address)
    (quantity : ℕ) (recipient : Address) (isIssue : Bool) (w : World) (units : ComponentUnits) :
    Except Revert World :=
  if 0 < units.equity then
    if isIssue then do
      let w ← ModuleBase.transferFrom self w units.component msgSender setToken units.equity
      executeExternalPositionHooks self env w setToken quantity units.component true true
    else do
      let w ← executeExternalPositionHooks self env w setToken quantity units.component false true
      Invoke.strictInvokeTransfer self env w setToken units.component recipient units.equity
  else .ok w

/-- `_resolveEquityPositions`. -/
def resolveEquityPositions (self : Address) (env : Env) (w : World) (msgSender setToken : Address)
    (quantity : ℕ) (recipient : Address) (isIssue : Bool) (units : List ComponentUnits) :
    Except Revert World :=
  units.foldlM (resolveEquityPosition self env msgSender setToken quantity recipient isIssue) w

/-- One round of `_resolveDebtPositions`. -/
def resolveDebtPosition (self : Address) (env : Env) (msgSender setToken : Address)
    (quantity : ℕ) (isIssue : Bool) (w : World) (units : ComponentUnits) : Except Revert World :=
  if 0 < units.debt then
    if isIssue then do
      let w ← executeExternalPositionHooks self env w setToken quantity units.component true false
      Invoke.strictInvokeTransfer self env w setToken units.component msgSender units.debt
    else do
      let w ← ModuleBase.transferFrom self w units.component msgSender setToken units.debt
      executeExternalPositionHooks self env w setToken quantity units.component false false
  else .ok w

/-- `_resolveDebtPositions`. -/
def resolveDebtPositions (self : Address) (env : Env) (w : World) (msgSender setToken : Address)
    (quantity : ℕ) (isIssue : Bool) (units : List ComponentUnits) : Except Revert World :=
  units.foldlM (resolveDebtPosition self env msgSender setToken quantity isIssue) w

/-- `_resolveFees`. -/
def resolveFees (self : Address) (w : World) (setToken : Address) (managerFee protocolFee : ℕ) :
    Except Revert World :=
  if 0 < managerFee then do
    let w ← w.mint self setToken (w.issuanceSettings setToken).feeRecipient managerFee
    -- protocol fees are only collected on manager fees
    if 0 < protocolFee then w.mint self setToken w.controller.feeRecipient protocolFee else .ok w
  else .ok w

/-! ## Issuance and redemption -/

/-- The hooks that `issue` calls first. -/
def callPreIssueHooks (self : Address) (env : Env) (w : World) (msgSender setToken : Address)
    (quantity : ℕ) (recipient : Address) : Except Revert World := do
  ModuleBase.onlyValidAndInitializedSet self w setToken
  require (0 < quantity) "Issue quantity must be > 0"
  let w ← callManagerPreIssueHooks env w setToken quantity msgSender recipient
  callModulePreIssueHooks self env w setToken quantity

/-- What `issue` does after the hooks. -/
def issueAfterHooks (self : Address) (env : Env) (w : World) (msgSender setToken : Address)
    (quantity : ℕ) (recipient : Address) : Except Revert World := do
  let fees ← calculateTotalFees self w setToken quantity true
  let units ← calculateRequiredComponentIssuanceUnits (w.setTokens setToken) fees.totalQuantity true
  let w ← resolveEquityPositions self env w msgSender setToken fees.totalQuantity recipient true
    units
  let w ← resolveDebtPositions self env w msgSender setToken fees.totalQuantity true units
  let w ← resolveFees self w setToken fees.managerFee fees.protocolFee
  w.mint self setToken recipient quantity

/-- `issue`. -/
def issue (self : Address) (env : Env) (w : World) (msgSender setToken : Address) (quantity : ℕ)
    (recipient : Address) : Except Revert World := do
  let w ← callPreIssueHooks self env w msgSender setToken quantity recipient
  issueAfterHooks self env w msgSender setToken quantity recipient

/-- The hooks that `redeem` calls first. -/
def callPreRedeemHooks (self : Address) (env : Env) (w : World) (setToken : Address)
    (quantity : ℕ) : Except Revert World := do
  ModuleBase.onlyValidAndInitializedSet self w setToken
  require (0 < quantity) "Redeem quantity must be > 0"
  callModulePreRedeemHooks self env w setToken quantity

/-- What `redeem` does after the hooks. -/
def redeemAfterHooks (self : Address) (env : Env) (w : World) (msgSender setToken : Address)
    (quantity : ℕ) (recipient : Address) : Except Revert World := do
  let w ← w.burn self setToken msgSender quantity
  let fees ← calculateTotalFees self w setToken quantity false
  let units ←
    calculateRequiredComponentIssuanceUnits (w.setTokens setToken) fees.totalQuantity false
  let w ← resolveDebtPositions self env w msgSender setToken fees.totalQuantity false units
  let w ← resolveEquityPositions self env w msgSender setToken fees.totalQuantity recipient false
    units
  resolveFees self w setToken fees.managerFee fees.protocolFee

/-- `redeem`. -/
def redeem (self : Address) (env : Env) (w : World) (msgSender setToken : Address)
    (quantity : ℕ) (recipient : Address) : Except Revert World := do
  let w ← callPreRedeemHooks self env w setToken quantity
  redeemAfterHooks self env w msgSender setToken quantity recipient

/-! ## Configuration -/

/-- Write the settings of a Set. -/
def setSettings (w : World) (setToken : Address) (settings : IssuanceSettings) : World :=
  { w with issuanceSettings := Function.update w.issuanceSettings setToken settings }

/-- `initialize`. -/
def initializeModule (self : Address) (w : World) (msgSender setToken : Address)
    (maxManagerFee managerIssueFee managerRedeemFee : ℕ)
    (feeRecipient managerIssuanceHook : Address) : Except Revert World := do
  ModuleBase.onlySetManager w setToken msgSender
  ModuleBase.onlyValidAndPendingSet self w setToken
  require (managerIssueFee ≤ maxManagerFee) "Issue fee can't exceed maximum fee"
  require (managerRedeemFee ≤ maxManagerFee) "Redeem fee can't exceed maximum fee"
  -- the mapping `isModuleHook` is not part of the value that is written
  let w := setSettings w setToken
    { w.issuanceSettings setToken with
      maxManagerFee := maxManagerFee
      managerIssueFee := managerIssueFee
      managerRedeemFee := managerRedeemFee
      feeRecipient := feeRecipient
      managerIssuanceHook := managerIssuanceHook
      moduleIssuanceHooks := [] }
  w.editSetToken self setToken SetToken.initializeModule

/-- `registerToIssuanceModule`. -/
def registerToIssuanceModule (self : Address) (w : World) (msgSender setToken : Address) :
    Except Revert World := do
  ModuleBase.onlyModule w setToken msgSender
  ModuleBase.onlyValidAndInitializedSet self w setToken
  let settings := w.issuanceSettings setToken
  require (settings.isModuleHook msgSender = false) "Module already registered."
  return setSettings w setToken
    { settings with
      moduleIssuanceHooks := settings.moduleIssuanceHooks ++ [msgSender]
      isModuleHook := Function.update settings.isModuleHook msgSender true }

/-- `unregisterFromIssuanceModule`. -/
def unregisterFromIssuanceModule (self : Address) (w : World) (msgSender setToken : Address) :
    Except Revert World := do
  ModuleBase.onlyModule w setToken msgSender
  ModuleBase.onlyValidAndInitializedSet self w setToken
  let settings := w.issuanceSettings setToken
  require (settings.isModuleHook msgSender = true) "Module not registered."
  let moduleIssuanceHooks ←
    AddressArrayUtils.removeStorage settings.moduleIssuanceHooks msgSender
  return setSettings w setToken
    { settings with
      moduleIssuanceHooks := moduleIssuanceHooks
      isModuleHook := Function.update settings.isModuleHook msgSender false }

/-- `removeModule`, which the Set calls. -/
def removeModule (w : World) (msgSender : Address) : Except Revert World := do
  require ((w.issuanceSettings msgSender).moduleIssuanceHooks.length = 0)
    "Registered modules must be removed."
  -- the mapping `isModuleHook` is not deleted
  return setSettings w msgSender { isModuleHook := (w.issuanceSettings msgSender).isModuleHook }

/-- The contracts with this module among them, at the address `self`. -/
def attach (self : Address) (env : Env) : Env :=
  { env with
    registerToIssuanceModule := fun module caller setToken w =>
      if module = self then registerToIssuanceModule self w caller setToken
      else env.registerToIssuanceModule module caller setToken w
    unregisterFromIssuanceModule := fun module caller setToken w =>
      if module = self then unregisterFromIssuanceModule self w caller setToken
      else env.unregisterFromIssuanceModule module caller setToken w }

/-- The body that `updateIssueFee` and `updateRedeemFee` share: they differ in the fee they read
and write, and in their reasons. -/
def updateFee (self : Address) (w : World) (msgSender setToken : Address)
    (fee : IssuanceSettings → ℕ) (setFee : IssuanceSettings → ℕ → IssuanceSettings)
    (exceeds same : Revert) (newFee : ℕ) : Except Revert World := do
  ModuleBase.onlyManagerAndValidSet self w setToken msgSender
  let settings := w.issuanceSettings setToken
  require (newFee ≤ settings.maxManagerFee) exceeds
  require (newFee ≠ fee settings) same
  return setSettings w setToken (setFee settings newFee)

/-- `updateIssueFee`. -/
def updateIssueFee (self : Address) (w : World) (msgSender setToken : Address)
    (newIssueFee : ℕ) : Except Revert World :=
  updateFee self w msgSender setToken IssuanceSettings.managerIssueFee
    (fun settings fee => { settings with managerIssueFee := fee })
    "Issue fee can't exceed maximum" "Same issue fee passed" newIssueFee

/-- `updateRedeemFee`. -/
def updateRedeemFee (self : Address) (w : World) (msgSender setToken : Address)
    (newRedeemFee : ℕ) : Except Revert World :=
  updateFee self w msgSender setToken IssuanceSettings.managerRedeemFee
    (fun settings fee => { settings with managerRedeemFee := fee })
    "Redeem fee can't exceed maximum" "Same redeem fee passed" newRedeemFee

/-- `updateFeeRecipient`. -/
def updateFeeRecipient (self : Address) (w : World) (msgSender setToken newFeeRecipient : Address) :
    Except Revert World := do
  ModuleBase.onlyManagerAndValidSet self w setToken msgSender
  let settings := w.issuanceSettings setToken
  require (newFeeRecipient ≠ zeroAddress) "Fee Recipient must be non-zero address."
  require (newFeeRecipient ≠ settings.feeRecipient) "Same fee recipient passed"
  return setSettings w setToken { settings with feeRecipient := newFeeRecipient }

/-! ## Fees -/

/-- The fee that `calculateTotalFees` splits. -/
def totalFee (w : World) (setToken : Address) (quantity : ℕ) (isIssue : Bool) : ℕ :=
  (if isIssue then (w.issuanceSettings setToken).managerIssueFee
    else (w.issuanceSettings setToken).managerRedeemFee) * quantity / preciseUnit

/-- The share of the fee that goes to the protocol. -/
def protocolFeeSplit (self : Address) (w : World) : ℕ :=
  w.controller.getModuleFee self issuanceModuleProtocolFeeSplitIndex

/-- `calculateTotalFees` splits the fee without a remainder, and moves the quantity by it. -/
theorem calculateTotalFees_spec {self setToken : Address} {w : World} {quantity : ℕ}
    {isIssue : Bool} {fees : TotalFees}
    (h : calculateTotalFees self w setToken quantity isIssue = .ok fees) :
    fees.protocolFee =
        totalFee w setToken quantity isIssue * protocolFeeSplit self w / preciseUnit ∧
      fees.managerFee + fees.protocolFee = totalFee w setToken quantity isIssue ∧
      fees.totalQuantity + (if isIssue then 0 else totalFee w setToken quantity isIssue) =
        quantity + (if isIssue then totalFee w setToken quantity isIssue else 0) := by
  simp only [calculateTotalFees, bind_eq_ok, PreciseUnitMath.preciseMul_eq_ok, SafeMath.sub_eq_ok,
    pure_eq_ok] at h
  obtain ⟨_, ⟨-, htotal⟩, _, ⟨-, rfl⟩, _, ⟨hle, rfl⟩, _, hquantity, rfl⟩ := h
  change totalFee w setToken quantity isIssue = _ at htotal
  subst htotal
  refine ⟨rfl, Nat.sub_add_cancel hle, ?_⟩
  cases isIssue with
  | true =>
    simp only [if_true, SafeMath.add_eq_ok] at hquantity
    obtain ⟨-, rfl⟩ := hquantity
    rfl
  | false =>
    simp only [Bool.false_eq_true, if_false, SafeMath.sub_eq_ok] at hquantity
    obtain ⟨hle, rfl⟩ := hquantity
    simpa using Nat.sub_add_cancel hle

/-- What `_resolveFees` mints: nothing without a fee of the manager. -/
def mintedFees (managerFee protocolFee : ℕ) : ℕ :=
  if 0 < managerFee then managerFee + protocolFee else 0

theorem mintedFees_le (managerFee protocolFee : ℕ) :
    mintedFees managerFee protocolFee ≤ managerFee + protocolFee := by
  unfold mintedFees
  split <;> omega

/-- `_resolveFees` raises the supply by the fees it mints, and takes no tokens from an account. -/
theorem resolveFees_spec {self setToken : Address} {w w' : World} {managerFee protocolFee : ℕ}
    (h : resolveFees self w setToken managerFee protocolFee = .ok w') :
    w'.setTokens = w.setTokens ∧
      w'.totalSupply setToken = w.totalSupply setToken + mintedFees managerFee protocolFee ∧
      ∀ c a, (w.tokens c).balances a ≤ (w'.tokens c).balances a := by
  unfold resolveFees at h
  split_ifs at h with hm hp
  · simp only [bind_eq_ok] at h
    obtain ⟨w₁, hmanager, hprotocol⟩ := h
    obtain ⟨hset, hsupply, hbal⟩ := World.flow_of_mint hmanager
    obtain ⟨hset', hsupply', hbal'⟩ := World.flow_of_mint hprotocol
    refine ⟨hset'.trans hset, ?_, fun c a => (hbal c a).trans (hbal' c a)⟩
    rw [hsupply', hsupply, mintedFees, if_pos hm, Nat.add_assoc]
  · simp only [bind_eq_ok, Except.ok.injEq, exists_eq_right] at h
    obtain ⟨hset, hsupply, hbal⟩ := World.flow_of_mint h
    refine ⟨hset, ?_, hbal⟩
    rw [hsupply, mintedFees, if_pos hm, Nat.eq_zero_of_not_pos hp, Nat.add_zero]
  · obtain rfl : w = w' := by simpa using h
    exact ⟨rfl, by rw [mintedFees, if_neg hm, Nat.add_zero], fun c a => Nat.le_refl _⟩

/-! ## Units -/

section Units

variable {s : SetToken} {component : Address}

/-- The amounts of a component are what its default unit and its external units add up to. -/
theorem componentIssuanceUnits_eq_ok {units : ComponentUnits}
    (h : componentIssuanceUnits s component = .ok units) :
    units.component = component ∧
      (s.externalPositionModules component).foldlM (addExternalUnit s component)
        (s.defaultRealUnit component, 0) = .ok ((units.equity : ℤ), -(units.debt : ℤ)) := by
  simp only [componentIssuanceUnits, bind_eq_ok, SetToken.getDefaultPositionRealUnit_eq_ok,
    SafeCast.toUint256_eq_ok, SignedSafeMath.mul_eq_ok, pure_eq_ok] at h
  obtain ⟨_, ⟨-, rfl⟩, ⟨equity, debt⟩, hfold, e, he, _, ⟨-, rfl⟩, d, hd, rfl⟩ := h
  have he : equity = (e : ℤ) := he
  have hd : debt = -(d : ℤ) := by
    have hd : debt * -1 = (d : ℤ) := hd
    omega
  exact ⟨rfl, by rw [hfold, he, hd]⟩

/-- Without external positions the equity is the default unit and there is no debt. -/
theorem componentIssuanceUnits_of_default {units : ComponentUnits}
    (hext : s.externalPositionModules component = [])
    (h : componentIssuanceUnits s component = .ok units) :
    s.defaultRealUnit component = units.equity ∧ units.debt = 0 := by
  obtain ⟨-, hfold⟩ := componentIssuanceUnits_eq_ok h
  rw [hext, List.foldlM_nil, pure_eq_ok, Prod.mk.injEq] at hfold
  obtain ⟨hequity, hdebt⟩ := hfold
  exact ⟨hequity, by omega⟩

/-- With one external position, of a negative unit, the debt is that of the position. -/
theorem componentIssuanceUnits_of_debt {externalModule : Address} {units : ComponentUnits}
    (hext : s.externalPositionModules component = [externalModule])
    (hneg : s.externalRealUnit component externalModule < 0)
    (h : componentIssuanceUnits s component = .ok units) :
    s.defaultRealUnit component = units.equity ∧
      units.debt = (s.externalRealUnit component externalModule).natAbs := by
  obtain ⟨-, hfold⟩ := componentIssuanceUnits_eq_ok h
  simp only [hext, List.foldlM_cons, List.foldlM_nil, addExternalUnit, bind_eq_ok, pure_eq_ok,
    SetToken.getExternalPositionRealUnit_eq_ok] at hfold
  obtain ⟨_, ⟨_, ⟨-, rfl⟩, hadd⟩, rfl⟩ := hfold
  rw [if_neg (by omega)] at hadd
  simp only [bind_eq_ok, SignedSafeMath.add_eq_ok, pure_eq_ok, Prod.mk.injEq] at hadd
  obtain ⟨_, ⟨-, rfl⟩, hequity, hdebt⟩ := hadd
  exact ⟨hequity, by omega⟩

/-- Equity is collected rounded up and paid out rounded down, debt the other way. -/
theorem notionalUnits_eq_ok {quantity : ℕ} {isIssue : Bool} {units required : ComponentUnits}
    (h : notionalUnits quantity isIssue units = .ok required) :
    required.component = units.component ∧
      required.equity = (if isIssue then (units.equity * quantity) ⌈/⌉ preciseUnit
        else units.equity * quantity / preciseUnit) ∧
      required.debt = (if isIssue then units.debt * quantity / preciseUnit
        else (units.debt * quantity) ⌈/⌉ preciseUnit) := by
  cases isIssue with
  | true =>
    simp only [notionalUnits, if_true, bind_eq_ok, PreciseUnitMath.preciseMulCeil_eq_ok,
      PreciseUnitMath.preciseMul_eq_ok, pure_eq_ok] at h
    obtain ⟨_, ⟨-, rfl⟩, _, ⟨-, rfl⟩, rfl⟩ := h
    simp
  | false =>
    simp only [notionalUnits, Bool.false_eq_true, if_false, bind_eq_ok,
      PreciseUnitMath.preciseMulCeil_eq_ok, PreciseUnitMath.preciseMul_eq_ok, pure_eq_ok] at h
    obtain ⟨_, ⟨-, rfl⟩, _, ⟨-, rfl⟩, rfl⟩ := h
    simp

/-- There is an amount for each component, and it comes from the units of the component. -/
theorem calculateRequiredComponentIssuanceUnits_eq_ok {quantity : ℕ} {isIssue : Bool}
    {required : List ComponentUnits}
    (h : calculateRequiredComponentIssuanceUnits s quantity isIssue = .ok required) :
    required.map ComponentUnits.component = s.components ∧ ∀ x ∈ required, ∃ units,
      componentIssuanceUnits s x.component = .ok units ∧
        notionalUnits quantity isIssue units = .ok x := by
  simp only [calculateRequiredComponentIssuanceUnits, getTotalIssuanceUnits, bind_eq_ok] at h
  obtain ⟨total, htotal, hrequired⟩ := h
  have hkeys : total.map ComponentUnits.component = s.components := by
    simpa using map_of_mapM_eq_ok (k := id) (fun _ _ h => (componentIssuanceUnits_eq_ok h).1) htotal
  refine ⟨?_, fun x hx => ?_⟩
  · rw [← hkeys]
    exact map_of_mapM_eq_ok (fun _ _ h => (notionalUnits_eq_ok h).1) hrequired
  · obtain ⟨units, hunits, hnotional⟩ := exists_of_mem_mapM hrequired hx
    obtain ⟨c, -, hc⟩ := exists_of_mem_mapM htotal hunits
    obtain ⟨hcomp, -⟩ := componentIssuanceUnits_eq_ok hc
    rw [(notionalUnits_eq_ok hnotional).1, hcomp]
    exact ⟨units, hc, hnotional⟩

end Units

end DebtIssuanceModule

end SetProtocol
