import SetProtocol.Core.ModuleBase

set_option relaxedAutoImplicit false
set_option autoImplicit false

/-!
# Wrapping

`contracts/protocol/modules/WrapModule.sol`. The manager exchanges units of an underlying token for
a wrapped one, or back, by an adapter. The module is deployed at `self`, and wrapped Ether at
`weth`. Underlying Ether is held as wrapped Ether, which is unwrapped before and wrapped after.

## Main definitions

* `SetProtocol.WrapModule.wrap`, `wrapWithEther`, `unwrap`, `unwrapWithEther`.
* `SetProtocol.WrapModule.validateInputs` — the Set has the units.
* `SetProtocol.WrapModule.updatePosition` — a position is set by the balances before and after.

## Main results

* `SetProtocol.WrapModule.validateInputs_spec` — the units of a call that passes.
-/

namespace SetProtocol

open Checked

namespace WrapModule

/-- `_validateInputs`. -/
def validateInputs (w : World) (setToken transactPosition : Address)
    (transactPositionUnits : ℕ) : Except Revert Unit := do
  require (0 < transactPositionUnits) "Target position units must be > 0"
  let found ← Position.hasDefaultPosition (w.setTokens setToken) transactPosition
  require (found = true) "Target default position must be component"
  let sufficient ← Position.hasSufficientDefaultUnits (w.setTokens setToken) transactPosition
    transactPositionUnits
  require (sufficient = true) "Unit cant be greater than existing"

/-- `_snapshotTargetAssetsBalance`. -/
def snapshotTargetAssetsBalance (w : World) (setToken underlyingToken wrappedToken : Address) :
    ℕ × ℕ :=
  ((w.tokens underlyingToken).balances setToken, (w.tokens wrappedToken).balances setToken)

/-- `_updatePosition`. -/
def updatePosition (self : Address) (w : World) (setToken token : Address)
    (preActionTokenBalance postActionTokenBalance : ℕ) : Except Revert World := do
  let positionUnit ←
    SafeCast.toUint256 (← (w.setTokens setToken).getDefaultPositionRealUnit token)
  let newUnit ← Position.calculateDefaultEditPositionUnit (w.totalSupply setToken)
    preActionTokenBalance postActionTokenBalance positionUnit
  w.editSetToken self setToken fun m s => Position.editDefaultPosition m s token newUnit

/-- The body that `_createWrapDataAndInvoke` and `_createUnwrapDataAndInvoke` share: they differ in
the function of the adapter. -/
def createDataAndInvoke (self : Address) (env : Env) (w : World) (setToken : Address)
    (getCallData : World → Except Revert (Address × ℕ × CallData)) : Except Revert World := do
  let (callTarget, callValue, callByteData) ← getCallData w
  let (w, _) ← w.invoke env self setToken callTarget callValue callByteData
  return w

/-- `_createWrapDataAndInvoke`. -/
def createWrapDataAndInvoke (self : Address) (env : Env) (w : World)
    (setToken wrapAdapter underlyingToken wrappedToken : Address) (notionalUnderlying : ℕ) :
    Except Revert World :=
  createDataAndInvoke self env w setToken
    (env.getWrapCallData wrapAdapter underlyingToken wrappedToken notionalUnderlying)

/-- `_createUnwrapDataAndInvoke`. -/
def createUnwrapDataAndInvoke (self : Address) (env : Env) (w : World)
    (setToken wrapAdapter underlyingToken wrappedToken : Address) (notionalUnderlying : ℕ) :
    Except Revert World :=
  createDataAndInvoke self env w setToken
    (env.getUnwrapCallData wrapAdapter underlyingToken wrappedToken notionalUnderlying)

/-- `_validateWrapAndUpdate`, with the notional amounts wrapped and received. -/
def validateWrapAndUpdate (self weth : Address) (env : Env) (w : World) (integrationName : String)
    (setToken underlyingToken wrappedToken : Address) (underlyingUnits : ℕ) (usesEther : Bool) :
    Except Revert (World × ℕ × ℕ) := do
  validateInputs w setToken underlyingToken underlyingUnits
  let (preActionUnderlyingNotional, preActionWrapNotional) :=
    snapshotTargetAssetsBalance w setToken underlyingToken wrappedToken
  let notionalUnderlying ←
    Position.getDefaultTotalNotional (w.totalSupply setToken) underlyingUnits
  let wrapAdapter ← ModuleBase.getAndValidateAdapter self env w integrationName
  let w ← (
    if usesEther then Invoke.invokeUnwrapWETH self env w setToken weth notionalUnderlying
    else do
      let spender ← env.getWrapSpenderAddress wrapAdapter underlyingToken wrappedToken w
      Invoke.invokeApprove self env w setToken underlyingToken spender notionalUnderlying)
  let adapterToken ← (
    if usesEther then env.ethTokenAddress wrapAdapter w else .ok underlyingToken)
  let w ← createWrapDataAndInvoke self env w setToken wrapAdapter adapterToken wrappedToken
    notionalUnderlying
  let (postActionUnderlyingNotional, postActionWrapNotional) :=
    snapshotTargetAssetsBalance w setToken underlyingToken wrappedToken
  let w ← updatePosition self w setToken underlyingToken preActionUnderlyingNotional
    postActionUnderlyingNotional
  let w ← updatePosition self w setToken wrappedToken preActionWrapNotional postActionWrapNotional
  let notionalUnderlyingWrapped ←
    SafeMath.sub preActionUnderlyingNotional postActionUnderlyingNotional
  let notionalWrapped ← SafeMath.sub postActionWrapNotional preActionWrapNotional
  return (w, notionalUnderlyingWrapped, notionalWrapped)

/-- `_validateUnwrapAndUpdate`, with the notional amounts received and unwrapped. -/
def validateUnwrapAndUpdate (self weth : Address) (env : Env) (w : World)
    (integrationName : String) (setToken underlyingToken wrappedToken : Address)
    (wrappedTokenUnits : ℕ) (usesEther : Bool) : Except Revert (World × ℕ × ℕ) := do
  validateInputs w setToken wrappedToken wrappedTokenUnits
  let (preActionUnderlyingNotional, preActionWrapNotional) :=
    snapshotTargetAssetsBalance w setToken underlyingToken wrappedToken
  let notionalWrappedToken ←
    Position.getDefaultTotalNotional (w.totalSupply setToken) wrappedTokenUnits
  let wrapAdapter ← ModuleBase.getAndValidateAdapter self env w integrationName
  let adapterToken ← (
    if usesEther then env.ethTokenAddress wrapAdapter w else .ok underlyingToken)
  let w ← createUnwrapDataAndInvoke self env w setToken wrapAdapter adapterToken wrappedToken
    notionalWrappedToken
  let w ← (
    if usesEther then
      Invoke.invokeWrapWETH self env w setToken weth (env.etherBalance setToken w)
    else .ok w)
  let (postActionUnderlyingNotional, postActionWrapNotional) :=
    snapshotTargetAssetsBalance w setToken underlyingToken wrappedToken
  let w ← updatePosition self w setToken underlyingToken preActionUnderlyingNotional
    postActionUnderlyingNotional
  let w ← updatePosition self w setToken wrappedToken preActionWrapNotional postActionWrapNotional
  let notionalUnderlyingUnwrapped ←
    SafeMath.sub postActionUnderlyingNotional preActionUnderlyingNotional
  let notionalUnwrapped ← SafeMath.sub preActionWrapNotional postActionWrapNotional
  return (w, notionalUnderlyingUnwrapped, notionalUnwrapped)

/-! ## The operations of the manager -/

/-- `wrap`. -/
def wrap (self weth : Address) (env : Env) (w : World)
    (msgSender setToken underlyingToken wrappedToken : Address) (underlyingUnits : ℕ)
    (integrationName : String) : Except Revert World := do
  ModuleBase.onlyManagerAndValidSet self w setToken msgSender
  let (w, _) ← validateWrapAndUpdate self weth env w integrationName setToken underlyingToken
    wrappedToken underlyingUnits false
  return w

/-- `wrapWithEther`. -/
def wrapWithEther (self weth : Address) (env : Env) (w : World)
    (msgSender setToken wrappedToken : Address) (underlyingUnits : ℕ) (integrationName : String) :
    Except Revert World := do
  ModuleBase.onlyManagerAndValidSet self w setToken msgSender
  let (w, _) ← validateWrapAndUpdate self weth env w integrationName setToken weth wrappedToken
    underlyingUnits true
  return w

/-- `unwrap`. -/
def unwrap (self weth : Address) (env : Env) (w : World)
    (msgSender setToken underlyingToken wrappedToken : Address) (wrappedUnits : ℕ)
    (integrationName : String) : Except Revert World := do
  ModuleBase.onlyManagerAndValidSet self w setToken msgSender
  let (w, _) ← validateUnwrapAndUpdate self weth env w integrationName setToken underlyingToken
    wrappedToken wrappedUnits false
  return w

/-- `unwrapWithEther`. -/
def unwrapWithEther (self weth : Address) (env : Env) (w : World)
    (msgSender setToken wrappedToken : Address) (wrappedUnits : ℕ) (integrationName : String) :
    Except Revert World := do
  ModuleBase.onlyManagerAndValidSet self w setToken msgSender
  let (w, _) ← validateUnwrapAndUpdate self weth env w integrationName setToken weth wrappedToken
    wrappedUnits true
  return w

/-- `initialize`. -/
def initializeModule (self : Address) (w : World) (msgSender setToken : Address) :
    Except Revert World := do
  ModuleBase.onlySetManager w setToken msgSender
  ModuleBase.onlyValidAndPendingSet self w setToken
  w.editSetToken self setToken SetToken.initializeModule

/-! ## What the checks say -/

/-- A call that passes wraps or unwraps no more units than the position has. -/
theorem validateInputs_spec {setToken token : Address} {w : World} {units : ℕ}
    (h : validateInputs w setToken token units = .ok ()) :
    (units : ℤ) ≤ (w.setTokens setToken).defaultRealUnit token := by
  simp only [validateInputs, bind_eq_ok, require_eq_ok] at h
  obtain ⟨-, -, _, -, -, -, sufficient, hunits, rfl⟩ := h
  exact Position.le_of_hasSufficientDefaultUnits hunits

end WrapModule

end SetProtocol
