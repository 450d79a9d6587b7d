import SetProtocol.Core.ModuleBase

set_option relaxedAutoImplicit false
set_option autoImplicit false

/-!
# Issuance of Sets with external positions

`contracts/protocol/modules/IssuanceModule.sol`. The module deployed at `self` is called by
`msgSender`. It issues Sets whose external positions are not debt, and calls the hooks of the
modules that own them.

## Main definitions

* `SetProtocol.IssuanceModule.issue`, `redeem`.

## Main results

* `SetProtocol.IssuanceModule.map_fst_getRequiredComponentIssuanceUnits` — amounts are asked for the
  components of the Set, in order.
-/

namespace SetProtocol

open Checked

namespace IssuanceModule

/-! ## Units -/

/-- One round of the inner loop of `_getTotalIssuanceUnits`. -/
def addExternalUnit (s : SetToken) (component : Address) (cumulativeUnits : ℤ)
    (externalModule : Address) : Except Revert ℤ := do
  let externalPositionUnit ← s.getExternalPositionRealUnit component externalModule
  require (0 < externalPositionUnit) "Only positive external unit positions are supported"
  SignedSafeMath.add cumulativeUnits externalPositionUnit

/-- One round of the outer loop of `_getTotalIssuanceUnits`, a component with its units. -/
def totalIssuanceUnits (s : SetToken) (component : Address) : Except Revert (Address × ℕ) := do
  let defaultUnit ← s.getDefaultPositionRealUnit component
  let cumulativeUnits ←
    (s.externalPositionModules component).foldlM (addExternalUnit s component) defaultUnit
  return (component, ← SafeCast.toUint256 cumulativeUnits)

/-- `_getTotalIssuanceUnits`. -/
def getTotalIssuanceUnits (s : SetToken) : Except Revert (List (Address × ℕ)) :=
  s.components.mapM (totalIssuanceUnits s)

/-- One round of the loop of `getRequiredComponentIssuanceUnits`. -/
def notionalUnits (quantity : ℕ) (isIssue : Bool) (units : Address × ℕ) :
    Except Revert (Address × ℕ) := do
  let notional ← (
    if isIssue then PreciseUnitMath.preciseMulCeil units.2 quantity
    else PreciseUnitMath.preciseMul units.2 quantity)
  return (units.1, notional)

/-- `getRequiredComponentIssuanceUnits`. -/
def getRequiredComponentIssuanceUnits (s : SetToken) (quantity : ℕ) (isIssue : Bool) :
    Except Revert (List (Address × ℕ)) := do
  let units ← getTotalIssuanceUnits s
  units.mapM (notionalUnits quantity isIssue)

/-! ## Hooks -/

/-- `_callPreIssueHooks`. -/
def callPreIssueHooks (env : Env) (w : World) (setToken : Address) (quantity : ℕ)
    (caller recipient : Address) : Except Revert World :=
  let preIssueHook := w.issuanceHook setToken
  if preIssueHook ≠ zeroAddress then
    env.invokePreIssueHook preIssueHook setToken quantity caller recipient w
  else .ok w

/-- `_executeExternalPositionHooks`. -/
def executeExternalPositionHooks (self : Address) (env : Env) (w : World) (setToken : Address)
    (setTokenQuantity : ℕ) (component : Address) (isIssue : Bool) : Except Revert World :=
  ((w.setTokens setToken).externalPositionModules component).foldlM (fun w externalModule =>
    if isIssue then
      env.componentIssueHook externalModule self setToken setTokenQuantity component true w
    else
      env.componentRedeemHook externalModule self setToken setTokenQuantity component true w) w

/-! ## Issuance and redemption -/

/-- One round of the loop of `issue`. -/
def issueComponent (self : Address) (env : Env) (msgSender setToken : Address) (quantity : ℕ)
    (w : World) (required : Address × ℕ) : Except Revert World := do
  let w ← ModuleBase.transferFrom self w required.1 msgSender setToken required.2
  executeExternalPositionHooks self env w setToken quantity required.1 true

/-- `issue`. -/
def issue (self : Address) (env : Env) (w : World) (msgSender setToken : Address) (quantity : ℕ)
    (recipient : Address) : Except Revert World := do
  ModuleBase.onlyValidAndInitializedSet self w setToken
  require (0 < quantity) "Issue quantity must be > 0"
  let w ← callPreIssueHooks env w setToken quantity msgSender recipient
  let componentQuantities ←
    getRequiredComponentIssuanceUnits (w.setTokens setToken) quantity true
  let w ← componentQuantities.foldlM (issueComponent self env msgSender setToken quantity) w
  w.mint self setToken recipient quantity

/-- One round of the loop of `redeem`. -/
def redeemComponent (self : Address) (env : Env) (setToken : Address) (quantity : ℕ)
    (recipient : Address) (w : World) (required : Address × ℕ) : Except Revert World := do
  let w ← executeExternalPositionHooks self env w setToken quantity required.1 false
  Invoke.strictInvokeTransfer self env w setToken required.1 recipient required.2

/-- `redeem`. -/
def redeem (self : Address) (env : Env) (w : World) (msgSender setToken : Address)
    (quantity : ℕ) (recipient : Address) : Except Revert World := do
  ModuleBase.onlyValidAndInitializedSet self w setToken
  require (0 < quantity) "Redeem quantity must be > 0"
  let w ← w.burn self setToken msgSender quantity
  let componentQuantities ←
    getRequiredComponentIssuanceUnits (w.setTokens setToken) quantity false
  componentQuantities.foldlM (redeemComponent self env setToken quantity recipient) w

/-! ## Configuration -/

/-- `initialize`. -/
def initializeModule (self : Address) (w : World) (msgSender setToken preIssueHook : Address) :
    Except Revert World := do
  ModuleBase.onlySetManager w setToken msgSender
  ModuleBase.onlyValidAndPendingSet self w setToken
  let w := { w with issuanceHook := Function.update w.issuanceHook setToken preIssueHook }
  w.editSetToken self setToken SetToken.initializeModule

/-- `removeModule`. -/
def removeModule : Except Revert Unit := .error "The IssuanceModule module cannot be removed"

/-! ## Amounts -/

/-- The amounts are those of the components of the Set, in order. -/
theorem map_fst_getRequiredComponentIssuanceUnits {s : SetToken} {quantity : ℕ} {isIssue : Bool}
    {required : List (Address × ℕ)}
    (h : getRequiredComponentIssuanceUnits s quantity isIssue = .ok required) :
    required.map Prod.fst = s.components := by
  simp only [getRequiredComponentIssuanceUnits, getTotalIssuanceUnits, bind_eq_ok] at h
  obtain ⟨total, htotal, hrequired⟩ := h
  have hunits : total.map Prod.fst = s.components := by
    have hkey : ∀ c x, totalIssuanceUnits s c = .ok x → x.1 = id c := by
      intro c x h
      simp only [totalIssuanceUnits, bind_eq_ok, pure_eq_ok] at h
      obtain ⟨_, -, _, -, _, -, rfl⟩ := h
      rfl
    simpa using map_of_mapM_eq_ok hkey htotal
  rw [← hunits]
  refine map_of_mapM_eq_ok (fun x y h => ?_) hrequired
  simp only [notionalUnits, bind_eq_ok, pure_eq_ok] at h
  obtain ⟨_, -, rfl⟩ := h
  rfl

end IssuanceModule

end SetProtocol
