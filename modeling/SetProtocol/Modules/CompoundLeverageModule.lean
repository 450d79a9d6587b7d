import SetProtocol.Core.Compound

set_option relaxedAutoImplicit false
set_option autoImplicit false

/-!
# Leverage on Compound

`contracts/protocol/modules/CompoundLeverageModule.sol`, except for the trades. The module deployed
at `self` keeps the markets that a Set uses as collateral and for borrowing, writes what the Set
owes as external positions, and borrows and repays for issuance and redemption.

## Main definitions

* `SetProtocol.CompoundLeverageModule.sync` — reads the positions from Compound.
* `SetProtocol.CompoundLeverageModule.addCollateralAssets`, `removeCollateralAssets`,
  `addBorrowAssets`, `removeBorrowAssets` — the markets of a Set.
* `SetProtocol.CompoundLeverageModule.initializeModule`, `removeModule` — first and last of them.
* `SetProtocol.CompoundLeverageModule.componentIssueHook`, `componentRedeemHook` — what issuance and
  redemption call.
* `SetProtocol.CompoundLeverageModule.attach` — the module in its place among the contracts.
-/

namespace SetProtocol

open Checked

namespace CompoundLeverageModule

/-- `DEFAULT_ISSUANCE_MODULE_NAME`. -/
def defaultIssuanceModuleName : String := "DefaultIssuanceModule"

/-! ## Storage -/

/-- Write the storage of the module. -/
def setStorage (w : World) (cl : CompoundLeverage) : World := { w with compoundLeverage := cl }

/-- Flag a market as collateral, or not. -/
def flagCollateral (cl : CompoundLeverage) (setToken cToken : Address) (flag : Bool) :
    CompoundLeverage :=
  { cl with
    collateralCTokenEnabled := Function.update cl.collateralCTokenEnabled setToken
      (Function.update (cl.collateralCTokenEnabled setToken) cToken flag) }

/-- Flag a market as one to borrow on, or not. -/
def flagBorrow (cl : CompoundLeverage) (setToken cToken : Address) (flag : Bool) :
    CompoundLeverage :=
  { cl with
    borrowCTokenEnabled := Function.update cl.borrowCTokenEnabled setToken
      (Function.update (cl.borrowCTokenEnabled setToken) cToken flag) }

/-- Write the lists of markets of a Set. -/
def setEnabledAssets (cl : CompoundLeverage) (setToken : Address) (enabled : EnabledAssets) :
    CompoundLeverage :=
  { cl with enabledAssets := Function.update cl.enabledAssets setToken enabled }

/-! ## Positions -/

/-- `_updateCollateralPosition`. -/
def updateCollateralPosition (self : Address) (w : World) (setToken cToken : Address)
    (newPositionUnit : ℕ) : Except Revert World :=
  w.editSetToken self setToken fun m s => Position.editDefaultPosition m s cToken newPositionUnit

/-- `_updateBorrowPosition`. -/
def updateBorrowPosition (self : Address) (w : World) (setToken underlyingToken : Address)
    (newPositionUnit : ℤ) : Except Revert World :=
  w.editSetToken self setToken fun m s =>
    Position.editExternalPosition m s underlyingToken self newPositionUnit []

/-- `_getCollateralPosition`. -/
def getCollateralPosition (w : World) (setToken cToken : Address) (setTotalSupply : ℕ) :
    Except Revert ℕ :=
  PreciseUnitMath.preciseDiv ((w.tokens cToken).balances setToken) setTotalSupply

/-- `_getBorrowPosition`. -/
def getBorrowPosition (env : Env) (w : World) (setToken cToken : Address) (setTotalSupply : ℕ)
    (shouldAccrueInterest : Bool) : Except Revert (World × ℤ) := do
  let (w, borrowNotionalBalance) ← (
    if shouldAccrueInterest then env.borrowBalanceCurrent cToken setToken w
    else do return (w, ← env.borrowBalanceStored cToken setToken w))
  -- round negative away from 0
  let unit ← PreciseUnitMath.preciseDivCeil borrowNotionalBalance setTotalSupply
  let borrowPositionUnit ← SignedSafeMath.mul (← SafeCast.toInt256 unit) (-1)
  return (w, borrowPositionUnit)

/-- One round of the loop of `sync` over collateral. -/
def syncCollateral (self setToken : Address) (setTotalSupply : ℕ) (w : World)
    (collateralCToken : Address) : Except Revert World := do
  let previousUnit ← (w.setTokens setToken).getDefaultPositionRealUnit collateralCToken
  let previousPositionUnit ← SafeCast.toUint256 previousUnit
  let newPositionUnit ← getCollateralPosition w setToken collateralCToken setTotalSupply
  if previousPositionUnit ≠ newPositionUnit then
    updateCollateralPosition self w setToken collateralCToken newPositionUnit
  else .ok w

/-- One round of the loop of `sync` over debt, for the market at index `i`. -/
def syncBorrow (self : Address) (env : Env) (setToken : Address) (setTotalSupply : ℕ)
    (shouldAccrueInterest : Bool) (borrowAssets : List Address) (w : World)
    (borrowMarket : Address × ℕ) : Except Revert World := do
  let (borrowCToken, i) := borrowMarket
  let borrowAsset ← AddressArrayUtils.read borrowAssets i
  let previousPositionUnit ← (w.setTokens setToken).getExternalPositionRealUnit borrowAsset self
  let (w, newPositionUnit) ← getBorrowPosition env w setToken borrowCToken setTotalSupply
    shouldAccrueInterest
  if newPositionUnit ≠ previousPositionUnit then
    updateBorrowPosition self w setToken borrowAsset newPositionUnit
  else .ok w

/-- `sync`. -/
def sync (self : Address) (env : Env) (w : World) (setToken : Address)
    (shouldAccrueInterest : Bool) : Except Revert World := do
  ModuleBase.onlyValidAndInitializedSet self w setToken
  let setTotalSupply := w.totalSupply setToken
  -- only sync positions when the supply is not 0
  if 0 < setTotalSupply then do
    let collateralCTokens := (w.compoundLeverage.enabledAssets setToken).collateralCTokens
    let w ← collateralCTokens.foldlM (syncCollateral self setToken setTotalSupply) w
    let enabled := w.compoundLeverage.enabledAssets setToken
    enabled.borrowCTokens.zipIdx.foldlM
      (syncBorrow self env setToken setTotalSupply shouldAccrueInterest enabled.borrowAssets) w
  else .ok w

/-! ## Markets of a Set -/

/-- One round of the loop of `addCollateralAssets`. -/
def addCollateralAsset (self : Address) (env : Env) (setToken : Address) (w : World)
    (newCollateralAsset : Address) : Except Revert World := do
  let cl := w.compoundLeverage
  let cToken := cl.underlyingToCToken newCollateralAsset
  require (cToken ≠ zeroAddress) "cToken must exist"
  require (cl.collateralCTokenEnabled setToken cToken = false) "Collateral enabled"
  -- the market is entered already where it is one to borrow on
  let w ← (
    if cl.borrowCTokenEnabled setToken cToken = false then
      Compound.invokeEnterMarkets self env w setToken cToken cl.comptroller
    else .ok w)
  let cl := flagCollateral w.compoundLeverage setToken cToken true
  let enabled := cl.enabledAssets setToken
  return setStorage w (setEnabledAssets cl setToken
    { enabled with collateralCTokens := enabled.collateralCTokens ++ [cToken] })

/-- `addCollateralAssets`. -/
def addCollateralAssets (self : Address) (env : Env) (w : World) (msgSender setToken : Address)
    (newCollateralAssets : List Address) : Except Revert World := do
  ModuleBase.onlyManagerAndValidSet self w setToken msgSender
  newCollateralAssets.foldlM (addCollateralAsset self env setToken) w

/-- One round of the loop of `removeCollateralAssets`. -/
def removeCollateralAsset (self : Address) (env : Env) (setToken : Address) (w : World)
    (collateralAsset : Address) : Except Revert World := do
  let cl := w.compoundLeverage
  let cToken := cl.underlyingToCToken collateralAsset
  require (cl.collateralCTokenEnabled setToken cToken = true) "Collateral not enabled"
  let w ← (
    if cl.borrowCTokenEnabled setToken cToken = false then
      Compound.invokeExitMarket self env w setToken cToken cl.comptroller
    else .ok w)
  let cl := flagCollateral w.compoundLeverage setToken cToken false
  let enabled := cl.enabledAssets setToken
  let collateralCTokens ← AddressArrayUtils.removeStorage enabled.collateralCTokens cToken
  return setStorage w (setEnabledAssets cl setToken
    { enabled with collateralCTokens := collateralCTokens })

/-- `removeCollateralAssets`. -/
def removeCollateralAssets (self : Address) (env : Env) (w : World)
    (msgSender setToken : Address) (collateralAssets : List Address) : Except Revert World := do
  ModuleBase.onlyManagerAndValidSet self w setToken msgSender
  let w ← sync self env w setToken true
  collateralAssets.foldlM (removeCollateralAsset self env setToken) w

/-- One round of the loop of `addBorrowAssets`. -/
def addBorrowAsset (self : Address) (env : Env) (setToken : Address) (w : World)
    (newBorrowAsset : Address) : Except Revert World := do
  let cl := w.compoundLeverage
  let cToken := cl.underlyingToCToken newBorrowAsset
  require (cToken ≠ zeroAddress) "cToken must exist"
  require (cl.borrowCTokenEnabled setToken cToken = false) "Borrow enabled"
  -- the market is entered already where it is collateral
  let w ← (
    if cl.collateralCTokenEnabled setToken cToken = false then
      Compound.invokeEnterMarkets self env w setToken cToken cl.comptroller
    else .ok w)
  let cl := flagBorrow w.compoundLeverage setToken cToken true
  let enabled := cl.enabledAssets setToken
  return setStorage w (setEnabledAssets cl setToken
    { enabled with
      borrowCTokens := enabled.borrowCTokens ++ [cToken]
      borrowAssets := enabled.borrowAssets ++ [newBorrowAsset] })

/-- `addBorrowAssets`. -/
def addBorrowAssets (self : Address) (env : Env) (w : World) (msgSender setToken : Address)
    (newBorrowAssets : List Address) : Except Revert World := do
  ModuleBase.onlyManagerAndValidSet self w setToken msgSender
  newBorrowAssets.foldlM (addBorrowAsset self env setToken) w

/-- One round of the loop of `removeBorrowAssets`. -/
def removeBorrowAsset (self : Address) (env : Env) (setToken : Address) (w : World)
    (borrowAsset : Address) : Except Revert World := do
  let cl := w.compoundLeverage
  let cToken := cl.underlyingToCToken borrowAsset
  require (cl.borrowCTokenEnabled setToken cToken = true) "Borrow not enabled"
  let w ← (
    if cl.collateralCTokenEnabled setToken cToken = false then
      Compound.invokeExitMarket self env w setToken cToken cl.comptroller
    else .ok w)
  let cl := flagBorrow w.compoundLeverage setToken cToken false
  let enabled := cl.enabledAssets setToken
  let borrowCTokens ← AddressArrayUtils.removeStorage enabled.borrowCTokens cToken
  -- the two lists are searched for different values
  let borrowAssets ← AddressArrayUtils.removeStorage enabled.borrowAssets borrowAsset
  return setStorage w (setEnabledAssets cl setToken
    { enabled with borrowCTokens := borrowCTokens, borrowAssets := borrowAssets })

/-- `removeBorrowAssets`. -/
def removeBorrowAssets (self : Address) (env : Env) (w : World) (msgSender setToken : Address)
    (borrowAssets : List Address) : Except Revert World := do
  ModuleBase.onlyManagerAndValidSet self w setToken msgSender
  let w ← sync self env w setToken true
  borrowAssets.foldlM (removeBorrowAsset self env setToken) w

/-! ## Initialization and removal -/

/-- `initialize`. -/
def initializeModule (self : Address) (env : Env) (w : World) (msgSender setToken : Address)
    (collateralAssets borrowAssets : List Address) : Except Revert World := do
  ModuleBase.onlySetManager w setToken msgSender
  ModuleBase.onlyValidAndPendingSet self w setToken
  require (w.compoundLeverage.anySetAllowed = true ∨
    w.compoundLeverage.allowedSetTokens setToken = true) "Not allowed SetToken"
  let w ← w.editSetToken self setToken SetToken.initializeModule
  let issuanceModule ← ModuleBase.getAndValidateAdapter self env w defaultIssuanceModuleName
  require ((w.setTokens setToken).isInitializedModule issuanceModule = true)
    "Issuance not initialized"
  -- try if register exists on any of the modules
  let w := (w.setTokens setToken).modules.foldl
    (fun w module => w.attempt (env.registerToIssuanceModule module self setToken)) w
  let w ← addCollateralAssets self env w msgSender setToken collateralAssets
  addBorrowAssets self env w msgSender setToken borrowAssets

/-- One round of the loop of `removeModule` over the markets to borrow on. -/
def leaveBorrowMarket (self : Address) (env : Env) (setToken : Address) (w : World)
    (cToken : Address) : Except Revert World := do
  let cl := w.compoundLeverage
  let w ← (
    if cl.collateralCTokenEnabled setToken cToken = false then
      Compound.invokeExitMarket self env w setToken cToken cl.comptroller
    else .ok w)
  return setStorage w (flagBorrow w.compoundLeverage setToken cToken false)

/-- One round of the loop of `removeModule` over collateral. -/
def leaveCollateralMarket (self : Address) (env : Env) (setToken : Address) (w : World)
    (cToken : Address) : Except Revert World := do
  let w ← Compound.invokeExitMarket self env w setToken cToken w.compoundLeverage.comptroller
  return setStorage w (flagCollateral w.compoundLeverage setToken cToken false)

/-- `removeModule`, which the Set calls. -/
def removeModule (self : Address) (env : Env) (w : World) (msgSender : Address) :
    Except Revert World := do
  let setToken := msgSender
  ModuleBase.onlyValidAndInitializedSet self w setToken
  let w ← sync self env w setToken true
  let borrowCTokens := (w.compoundLeverage.enabledAssets setToken).borrowCTokens
  let w ← borrowCTokens.foldlM (leaveBorrowMarket self env setToken) w
  let collateralCTokens := (w.compoundLeverage.enabledAssets setToken).collateralCTokens
  let w ← collateralCTokens.foldlM (leaveCollateralMarket self env setToken) w
  let w := setStorage w (setEnabledAssets w.compoundLeverage setToken {})
  -- try if unregister exists on any of the modules
  return (w.setTokens setToken).modules.foldl
    (fun w module => w.attempt (env.unregisterFromIssuanceModule module self setToken)) w

/-- `registerToModule`. -/
def registerToModule (self : Address) (env : Env) (w : World)
    (msgSender setToken debtIssuanceModule : Address) : Except Revert World := do
  ModuleBase.onlyManagerAndValidSet self w setToken msgSender
  require ((w.setTokens setToken).isInitializedModule debtIssuanceModule = true)
    "Issuance not initialized"
  env.registerToIssuanceModule debtIssuanceModule self setToken w

/-- `getEnabledAssets`. -/
def getEnabledAssets (w : World) (setToken : Address) : List Address × List Address :=
  let enabled := w.compoundLeverage.enabledAssets setToken
  (enabled.collateralCTokens, enabled.borrowAssets)

/-! ## Governance -/

/-- The modifier `onlyOwner`. -/
def onlyOwner (w : World) (msgSender : Address) : Except Revert Unit :=
  require (msgSender = w.compoundLeverage.owner) "Ownable: caller is not the owner"

/-- `updateAllowedSetToken`. -/
def updateAllowedSetToken (w : World) (msgSender setToken : Address) (status : Bool) :
    Except Revert World := do
  onlyOwner w msgSender
  let cl := w.compoundLeverage
  return setStorage w
    { cl with allowedSetTokens := Function.update cl.allowedSetTokens setToken status }

/-- `updateAnySetAllowed`. -/
def updateAnySetAllowed (w : World) (msgSender : Address) (anySetAllowed : Bool) :
    Except Revert World := do
  onlyOwner w msgSender
  return setStorage w { w.compoundLeverage with anySetAllowed := anySetAllowed }

/-- `addCompoundMarket`. -/
def addCompoundMarket (w : World) (msgSender cToken underlying : Address) :
    Except Revert World := do
  onlyOwner w msgSender
  let cl := w.compoundLeverage
  require (cl.underlyingToCToken underlying = zeroAddress) "Already added"
  return setStorage w
    { cl with underlyingToCToken := Function.update cl.underlyingToCToken underlying cToken }

/-- `removeCompoundMarket`. -/
def removeCompoundMarket (w : World) (msgSender underlying : Address) : Except Revert World := do
  onlyOwner w msgSender
  let cl := w.compoundLeverage
  require (cl.underlyingToCToken underlying ≠ zeroAddress) "Not added"
  return setStorage w
    { cl with underlyingToCToken := Function.update cl.underlyingToCToken underlying zeroAddress }

/-! ## Hooks -/

/-- `_repayBorrow`. -/
def repayBorrow (self : Address) (env : Env) (w : World)
    (setToken cToken underlyingToken : Address) (repayNotional : ℕ) : Except Revert World :=
  if cToken = w.compoundLeverage.cEther then do
    let w ← Invoke.invokeUnwrapWETH self env w setToken w.compoundLeverage.weth repayNotional
    Compound.invokeRepayBorrowCEther self env w setToken cToken repayNotional
  else do
    let w ← Invoke.invokeApprove self env w setToken underlyingToken cToken repayNotional
    Compound.invokeRepayBorrowCToken self env w setToken cToken repayNotional

/-- `_borrow`. -/
def borrow (self : Address) (env : Env) (w : World) (setToken cToken : Address)
    (notionalBorrowQuantity : ℕ) : Except Revert World := do
  let w ← Compound.invokeBorrow self env w setToken cToken notionalBorrowQuantity
  if cToken = w.compoundLeverage.cEther then
    Invoke.invokeWrapWETH self env w setToken w.compoundLeverage.weth notionalBorrowQuantity
  else .ok w

/-- `moduleIssueHook`. -/
def moduleIssueHook (self : Address) (env : Env) (w : World) (caller setToken : Address) :
    Except Revert World := do
  ModuleBase.onlyModule w setToken caller
  sync self env w setToken false

/-- `moduleRedeemHook`. -/
def moduleRedeemHook (self : Address) (env : Env) (w : World) (caller setToken : Address) :
    Except Revert World := do
  ModuleBase.onlyModule w setToken caller
  sync self env w setToken true

/-- The debt of a component that `componentIssueHook` and `componentRedeemHook` read. -/
def componentDebt (self : Address) (w : World) (setToken component : Address) :
    Except Revert ℕ := do
  let componentDebt ← (w.setTokens setToken).getExternalPositionRealUnit component self
  require (componentDebt < 0) "Component must be negative"
  SafeCast.toUint256 (← SignedSafeMath.mul componentDebt (-1))

/-- `componentIssueHook`. -/
def componentIssueHook (self : Address) (env : Env) (w : World) (caller setToken : Address)
    (setTokenQuantity : ℕ) (component : Address) : Except Revert World := do
  ModuleBase.onlyModule w setToken caller
  let notionalDebt ←
    PreciseUnitMath.preciseMul (← componentDebt self w setToken component) setTokenQuantity
  borrow self env w setToken (w.compoundLeverage.underlyingToCToken component) notionalDebt

/-- `componentRedeemHook`. -/
def componentRedeemHook (self : Address) (env : Env) (w : World) (caller setToken : Address)
    (setTokenQuantity : ℕ) (component : Address) : Except Revert World := do
  ModuleBase.onlyModule w setToken caller
  let notionalDebt ←
    PreciseUnitMath.preciseMulCeil (← componentDebt self w setToken component) setTokenQuantity
  repayBorrow self env w setToken (w.compoundLeverage.underlyingToCToken component) component
    notionalDebt

/-- The contracts with this module among them, at the address `self`. -/
def attach (self : Address) (env : Env) : Env :=
  { env with
    moduleIssueHook := fun module caller setToken quantity w =>
      if module = self then moduleIssueHook self env w caller setToken
      else env.moduleIssueHook module caller setToken quantity w
    moduleRedeemHook := fun module caller setToken quantity w =>
      if module = self then moduleRedeemHook self env w caller setToken
      else env.moduleRedeemHook module caller setToken quantity w
    componentIssueHook := fun module caller setToken quantity component isEquity w =>
      if module = self then componentIssueHook self env w caller setToken quantity component
      else env.componentIssueHook module caller setToken quantity component isEquity w
    componentRedeemHook := fun module caller setToken quantity component isEquity w =>
      if module = self then componentRedeemHook self env w caller setToken quantity component
      else env.componentRedeemHook module caller setToken quantity component isEquity w }

/-! ## Amounts -/

/-- The unit of a debt is what Compound says per Set, rounded up, with the sign changed. -/
theorem getBorrowPosition_eq_ok {env : Env} {w w' : World} {setToken cToken : Address}
    {setTotalSupply : ℕ} {shouldAccrueInterest : Bool} {unit : ℤ}
    (h : getBorrowPosition env w setToken cToken setTotalSupply shouldAccrueInterest =
      .ok (w', unit)) :
    ∃ n, (if shouldAccrueInterest then env.borrowBalanceCurrent cToken setToken w
        else do return (w, ← env.borrowBalanceStored cToken setToken w)) = .ok (w', n) ∧
      unit = -((n * preciseUnit) ⌈/⌉ setTotalSupply : ℕ) ∧ 0 < setTotalSupply := by
  simp only [getBorrowPosition, bind_eq_ok, PreciseUnitMath.preciseDivCeil_eq_ok,
    SafeCast.toInt256_eq_ok, SignedSafeMath.mul_eq_ok, pure_eq_ok, Prod.exists,
    Prod.mk.injEq] at h
  obtain ⟨_, n, hbalance, _, ⟨hsupply, -, rfl⟩, _, ⟨-, rfl⟩, _, ⟨-, rfl⟩, rfl, rfl⟩ := h
  refine ⟨n, hbalance, ?_, hsupply⟩
  rw [Int.mul_neg_one]

/-- The debt of a component is what its external unit owes. -/
theorem componentDebt_eq_ok {self setToken component : Address} {w : World} {n : ℕ}
    (h : componentDebt self w setToken component = .ok n) :
    (w.setTokens setToken).externalRealUnit component self < 0 ∧
      (n : ℤ) = -(w.setTokens setToken).externalRealUnit component self := by
  simp only [componentDebt, bind_eq_ok, SetToken.getExternalPositionRealUnit_eq_ok, require_eq_ok,
    SignedSafeMath.mul_eq_ok, SafeCast.toUint256_eq_ok] at h
  obtain ⟨_, ⟨-, rfl⟩, -, hneg, _, ⟨-, rfl⟩, hn⟩ := h
  exact ⟨hneg, by omega⟩

end CompoundLeverageModule

end SetProtocol
