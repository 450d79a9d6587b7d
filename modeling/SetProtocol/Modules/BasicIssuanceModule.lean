import SetProtocol.Core.ModuleBase

set_option relaxedAutoImplicit false
set_option autoImplicit false

/-!
# Issuance of Sets with default positions

`contracts/protocol/modules/BasicIssuanceModule.sol`. The module deployed at `self` is called by
`msgSender`.

## Main definitions

* `SetProtocol.BasicIssuanceModule.issue`, `redeem`.

## Main results

* `SetProtocol.BasicIssuanceModule.requiredComponentUnit_eq_ok`, `redeemComponent_eq_ok` — issuance
  rounds up what it collects and redemption rounds down what it pays out.
-/

namespace SetProtocol

open Checked

namespace BasicIssuanceModule

/-- The amount of one component that `getRequiredComponentUnitsForIssue` asks for. -/
def requiredComponentUnit (s : SetToken) (quantity : ℕ) (component : Address) :
    Except Revert (Address × ℕ) := do
  require (Position.hasExternalPosition s component = false)
    "Only default positions are supported"
  let unit ← SafeCast.toUint256 (← s.getDefaultPositionRealUnit component)
  return (component, ← PreciseUnitMath.preciseMulCeil unit quantity)

/-- `getRequiredComponentUnitsForIssue`, each component with its amount. -/
def getRequiredComponentUnitsForIssue (self : Address) (w : World) (setToken : Address)
    (quantity : ℕ) : Except Revert (List (Address × ℕ)) := do
  ModuleBase.onlyValidAndInitializedSet self w setToken
  (w.setTokens setToken).components.mapM (requiredComponentUnit (w.setTokens setToken) quantity)

/-- `_callPreIssueHooks`. -/
def callPreIssueHooks (env : Env) (w : World) (setToken : Address) (quantity : ℕ)
    (caller recipient : Address) : Except Revert World :=
  let preIssueHook := w.basicIssuanceHook setToken
  if preIssueHook ≠ zeroAddress then
    env.invokePreIssueHook preIssueHook setToken quantity caller recipient w
  else .ok w

/-- `issue`. -/
def issue (self : Address) (env : Env) (w : World) (msgSender setToken : Address) (quantity : ℕ)
    (recipient : Address) : Except Revert World := do
  ModuleBase.onlyValidAndInitializedSet self w setToken
  require (0 < quantity) "Issue quantity must be > 0"
  let w ← callPreIssueHooks env w setToken quantity msgSender recipient
  let componentQuantities ← getRequiredComponentUnitsForIssue self w setToken quantity
  let w ← componentQuantities.foldlM (fun w (component, componentQuantity) =>
    ModuleBase.transferFrom self w component msgSender setToken componentQuantity) w
  w.mint self setToken recipient quantity

/-- One round of the loop of `redeem`. -/
def redeemComponent (self : Address) (env : Env) (setToken : Address) (quantity : ℕ)
    (recipient : Address) (w : World) (component : Address) : Except Revert World := do
  let s := w.setTokens setToken
  require (Position.hasExternalPosition s component = false)
    "Only default positions are supported"
  let unit ← SafeCast.toUint256 (← s.getDefaultPositionRealUnit component)
  let componentQuantity ← PreciseUnitMath.preciseMul quantity unit
  Invoke.strictInvokeTransfer self env w setToken component recipient componentQuantity

/-- `redeem`. -/
def redeem (self : Address) (env : Env) (w : World) (msgSender setToken : Address)
    (quantity : ℕ) (recipient : Address) : Except Revert World := do
  ModuleBase.onlyValidAndInitializedSet self w setToken
  require (0 < quantity) "Redeem quantity must be > 0"
  let w ← w.burn self setToken msgSender quantity
  (w.setTokens setToken).components.foldlM
    (redeemComponent self env setToken quantity recipient) w

/-! ## Amounts -/

/-- A component is asked for in proportion, rounded up. -/
theorem requiredComponentUnit_eq_ok {s : SetToken} {quantity : ℕ} {component : Address}
    {required : Address × ℕ} (h : requiredComponentUnit s quantity component = .ok required) :
    required.1 = component ∧
      required.2 = ((s.defaultRealUnit component).toNat * quantity) ⌈/⌉ preciseUnit := by
  simp only [requiredComponentUnit, bind_eq_ok, require_eq_ok, pure_eq_ok,
    SetToken.getDefaultPositionRealUnit_eq_ok, SafeCast.toUint256_eq_ok,
    PreciseUnitMath.preciseMulCeil_eq_ok] at h
  obtain ⟨-, -, _, ⟨-, rfl⟩, u, hu, _, ⟨-, rfl⟩, rfl⟩ := h
  rw [hu, Int.toNat_natCast]
  exact ⟨rfl, rfl⟩

/-- A round of `redeem` pays out in proportion, rounded down. -/
theorem redeemComponent_eq_ok {self setToken recipient component : Address} {env : Env}
    {quantity : ℕ} {w w' : World}
    (h : redeemComponent self env setToken quantity recipient w component = .ok w') :
    Invoke.strictInvokeTransfer self env w setToken component recipient
      (((w.setTokens setToken).defaultRealUnit component).toNat * quantity / preciseUnit) =
        .ok w' := by
  simp only [redeemComponent, bind_eq_ok, require_eq_ok,
    SetToken.getDefaultPositionRealUnit_eq_ok, SafeCast.toUint256_eq_ok,
    PreciseUnitMath.preciseMul_eq_ok] at h
  obtain ⟨-, -, _, ⟨-, rfl⟩, u, hu, _, ⟨-, rfl⟩, h⟩ := h
  rwa [hu, Int.toNat_natCast, Nat.mul_comm]

end BasicIssuanceModule

end SetProtocol
