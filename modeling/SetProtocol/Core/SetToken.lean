import SetProtocol.Core.Controller
import SetProtocol.Math.PreciseUnitMath

set_option relaxedAutoImplicit false
set_option autoImplicit false

/-!
# The SetToken

The storage of `contracts/protocol/SetToken.sol` apart from what it inherits from `ERC20`, with
the functions that read and write it. Each function takes the message it is called with and
returns the new storage.

A position is stored as a virtual unit. What the rest of the protocol reads and writes are real
units: the real unit is the virtual one times the position multiplier, rounded down.

## Main definitions

* `SetProtocol.SetToken` — the storage.
* `SetProtocol.SetToken.Authorised` — the condition of the modifiers `onlyModule` and
  `whenLockedOnlyLocker`.
* `SetProtocol.SetToken.defaultRealUnit`, `externalRealUnit` — the real units as numbers.
* `SetProtocol.SetToken.validateRemoveModule`, `dropModule` — the parts of `removeModule` before and
  after its call to the module.

## Main results

* `SetProtocol.SetToken.addComponent_eq_ok` and its siblings — when a function succeeds, and with
  which storage.
* `SetProtocol.SetToken.convertRealToVirtualUnit_eq_ok` — the conversion is a floor.
* `SetProtocol.SetToken.pos_of_editPositionMultiplier` — an accepted multiplier is positive.
-/

namespace SetProtocol

open Checked

/-- `ISetToken.ModuleState`. -/
inductive ModuleState
  | none
  | pending
  | initialized
  deriving DecidableEq

/-- A string of bytes. -/
abbrev Bytes := List UInt8

/-- `ISetToken.ExternalPosition`. -/
structure ExternalPosition where
  /-- The virtual unit. -/
  virtualUnit : ℤ := 0
  /-- Data of the module that owns the position. -/
  data : Bytes := []

/-- `ISetToken.ComponentPosition`. -/
structure ComponentPosition where
  /-- The virtual unit of the default position. -/
  virtualUnit : ℤ := 0
  /-- The modules with an external position in the component. -/
  externalPositionModules : List Address := []
  /-- The external position of each module. -/
  externalPositions : Address → ExternalPosition := fun _ => {}

/-- The storage of a SetToken, without its token ledger. -/
structure SetToken where
  /-- The manager. -/
  manager : Address := zeroAddress
  /-- The module that locked the Set. -/
  locker : Address := zeroAddress
  /-- The initialized modules. -/
  modules : List Address := []
  /-- The state of each module. -/
  moduleStates : Address → ModuleState := fun _ => .none
  /-- Whether only the locker may use privileged functions. -/
  isLocked : Bool := false
  /-- The components. -/
  components : List Address := []
  /-- The positions of each component. -/
  componentPositions : Address → ComponentPosition := fun _ => {}
  /-- The factor between virtual and real units. -/
  positionMultiplier : ℤ := preciseUnitInt

namespace SetToken

variable {m : Message} {s s' : SetToken} {component positionModule : Address}

/-! ## Reading positions -/

/-- `_defaultPositionVirtualUnit`. -/
def defaultPositionVirtualUnit (s : SetToken) (component : Address) : ℤ :=
  (s.componentPositions component).virtualUnit

/-- `_externalPositionModules`, which `getExternalPositionModules` returns. -/
def externalPositionModules (s : SetToken) (component : Address) : List Address :=
  (s.componentPositions component).externalPositionModules

/-- `_externalPositionVirtualUnit`. -/
def externalPositionVirtualUnit (s : SetToken) (component positionModule : Address) : ℤ :=
  ((s.componentPositions component).externalPositions positionModule).virtualUnit

/-- `_externalPositionData`, which `getExternalPositionData` returns. -/
def externalPositionData (s : SetToken) (component positionModule : Address) : Bytes :=
  ((s.componentPositions component).externalPositions positionModule).data

/-- `isComponent`. -/
def isComponent (s : SetToken) (component : Address) : Bool :=
  AddressArrayUtils.contains s.components component

/-- `isExternalPositionModule`. -/
def isExternalPositionModule (s : SetToken) (component module : Address) : Bool :=
  AddressArrayUtils.contains (s.externalPositionModules component) module

/-- `isInitializedModule`. -/
def isInitializedModule (s : SetToken) (module : Address) : Bool :=
  s.moduleStates module = .initialized

/-- `isPendingModule`. -/
def isPendingModule (s : SetToken) (module : Address) : Bool :=
  s.moduleStates module = .pending

/-- `_convertRealToVirtualUnit`. -/
def convertRealToVirtualUnit (s : SetToken) (realUnit : ℤ) : Except Revert ℤ := do
  let virtualUnit ← PreciseUnitMath.conservativePreciseDiv realUnit s.positionMultiplier
  require (¬(0 < realUnit ∧ virtualUnit = 0)) "Virtual unit conversion invalid"
  return virtualUnit

/-- `_convertVirtualToRealUnit`. -/
def convertVirtualToRealUnit (s : SetToken) (virtualUnit : ℤ) : Except Revert ℤ :=
  PreciseUnitMath.conservativePreciseMul virtualUnit s.positionMultiplier

/-- `getDefaultPositionRealUnit`. -/
def getDefaultPositionRealUnit (s : SetToken) (component : Address) : Except Revert ℤ :=
  s.convertVirtualToRealUnit (s.defaultPositionVirtualUnit component)

/-- `getExternalPositionRealUnit`. -/
def getExternalPositionRealUnit (s : SetToken) (component positionModule : Address) :
    Except Revert ℤ :=
  s.convertVirtualToRealUnit (s.externalPositionVirtualUnit component positionModule)

/-- The real unit that a virtual unit stands for. -/
def realUnit (s : SetToken) (virtualUnit : ℤ) : ℤ :=
  virtualUnit * s.positionMultiplier / preciseUnitInt

/-- The real unit of the default position of a component. -/
def defaultRealUnit (s : SetToken) (component : Address) : ℤ :=
  s.realUnit (s.defaultPositionVirtualUnit component)

/-- The real unit of the external position of a component in a module. -/
def externalRealUnit (s : SetToken) (component positionModule : Address) : ℤ :=
  s.realUnit (s.externalPositionVirtualUnit component positionModule)

/-- What is read back is the virtual unit times the multiplier, rounded down. -/
@[simp] theorem convertVirtualToRealUnit_eq_ok {v r : ℤ} :
    s.convertVirtualToRealUnit v = .ok r ↔
      InInt256 (v * s.positionMultiplier) ∧ s.realUnit v = r := by
  rw [convertVirtualToRealUnit, PreciseUnitMath.conservativePreciseMul_eq_ok, realUnit]

@[simp] theorem getDefaultPositionRealUnit_eq_ok {r : ℤ} :
    s.getDefaultPositionRealUnit component = .ok r ↔
      InInt256 (s.defaultPositionVirtualUnit component * s.positionMultiplier) ∧
        s.defaultRealUnit component = r :=
  convertVirtualToRealUnit_eq_ok

@[simp] theorem getExternalPositionRealUnit_eq_ok {r : ℤ} :
    s.getExternalPositionRealUnit component positionModule = .ok r ↔
      InInt256 (s.externalPositionVirtualUnit component positionModule * s.positionMultiplier) ∧
        s.externalRealUnit component positionModule = r :=
  convertVirtualToRealUnit_eq_ok

/-- Under a positive multiplier what is stored is the real unit over the multiplier, rounded
down, and a positive unit may not round to zero. -/
theorem convertRealToVirtualUnit_eq_ok (hm : 0 < s.positionMultiplier) {r v : ℤ} :
    s.convertRealToVirtualUnit r = .ok v ↔
      InInt256 (r * preciseUnitInt) ∧ r * preciseUnitInt / s.positionMultiplier = v ∧
        ¬(0 < r ∧ v = 0) := by
  simp only [convertRealToVirtualUnit, bind_eq_ok,
    PreciseUnitMath.conservativePreciseDiv_eq_ok hm, require_eq_ok, pure_eq_ok]
  constructor
  · rintro ⟨v, ⟨hr, rfl⟩, -, hv, rfl⟩
    exact ⟨hr, rfl, hv⟩
  · rintro ⟨hr, rfl, hv⟩
    exact ⟨_, ⟨hr, rfl⟩, (), hv, rfl⟩

@[simp] theorem realUnit_zero (s : SetToken) : s.realUnit 0 = 0 := by simp [realUnit]

@[simp] theorem isComponent_eq_true : s.isComponent component = true ↔ component ∈ s.components :=
  AddressArrayUtils.contains_eq_true

@[simp] theorem isComponent_eq_false :
    s.isComponent component = false ↔ component ∉ s.components :=
  AddressArrayUtils.contains_eq_false

@[simp] theorem isExternalPositionModule_eq_true :
    s.isExternalPositionModule component positionModule = true ↔
      positionModule ∈ s.externalPositionModules component :=
  AddressArrayUtils.contains_eq_true

@[simp] theorem isExternalPositionModule_eq_false :
    s.isExternalPositionModule component positionModule = false ↔
      positionModule ∉ s.externalPositionModules component :=
  AddressArrayUtils.contains_eq_false

/-! ## Writing positions -/

/-- Write the position record of one component. -/
def updatePosition (s : SetToken) (component : Address)
    (f : ComponentPosition → ComponentPosition) : SetToken :=
  { s with
    componentPositions :=
      Function.update s.componentPositions component (f (s.componentPositions component)) }

/-- Write the virtual unit of a default position. -/
def setDefaultVirtualUnit (s : SetToken) (component : Address) (virtualUnit : ℤ) : SetToken :=
  s.updatePosition component fun p => { p with virtualUnit := virtualUnit }

/-- Write the external position modules of a component. -/
def setExternalPositionModules (s : SetToken) (component : Address) (l : List Address) :
    SetToken :=
  s.updatePosition component fun p => { p with externalPositionModules := l }

/-- Write one external position of a component. -/
def updateExternalPosition (s : SetToken) (component positionModule : Address)
    (f : ExternalPosition → ExternalPosition) : SetToken :=
  s.updatePosition component fun p =>
    { p with
      externalPositions := Function.update p.externalPositions positionModule
        (f (p.externalPositions positionModule)) }

section Updates

variable {c d p q : Address} {v : ℤ} {l : List Address}
  {f : ComponentPosition → ComponentPosition} {g : ExternalPosition → ExternalPosition}

@[simp] theorem manager_updatePosition : (s.updatePosition c f).manager = s.manager := rfl
@[simp] theorem locker_updatePosition : (s.updatePosition c f).locker = s.locker := rfl
@[simp] theorem isLocked_updatePosition : (s.updatePosition c f).isLocked = s.isLocked := rfl
@[simp] theorem modules_updatePosition : (s.updatePosition c f).modules = s.modules := rfl
@[simp] theorem moduleStates_updatePosition :
    (s.updatePosition c f).moduleStates = s.moduleStates := rfl
@[simp] theorem components_updatePosition : (s.updatePosition c f).components = s.components := rfl
@[simp] theorem positionMultiplier_updatePosition :
    (s.updatePosition c f).positionMultiplier = s.positionMultiplier := rfl

/-- A written record is read back, and the other records stay. -/
theorem componentPositions_updatePosition :
    (s.updatePosition c f).componentPositions d =
      if d = c then f (s.componentPositions c) else s.componentPositions d := by
  simp only [updatePosition, Function.update_apply]

@[simp] theorem defaultPositionVirtualUnit_setDefaultVirtualUnit :
    (s.setDefaultVirtualUnit c v).defaultPositionVirtualUnit d =
      if d = c then v else s.defaultPositionVirtualUnit d := by
  unfold setDefaultVirtualUnit defaultPositionVirtualUnit
  rw [componentPositions_updatePosition]
  split <;> rfl

@[simp] theorem externalPositionModules_setDefaultVirtualUnit :
    (s.setDefaultVirtualUnit c v).externalPositionModules d = s.externalPositionModules d := by
  unfold setDefaultVirtualUnit externalPositionModules
  rw [componentPositions_updatePosition]
  split <;> simp_all

@[simp] theorem externalPositionVirtualUnit_setDefaultVirtualUnit :
    (s.setDefaultVirtualUnit c v).externalPositionVirtualUnit d q =
      s.externalPositionVirtualUnit d q := by
  unfold setDefaultVirtualUnit externalPositionVirtualUnit
  rw [componentPositions_updatePosition]
  split <;> simp_all

@[simp] theorem defaultPositionVirtualUnit_setExternalPositionModules :
    (s.setExternalPositionModules c l).defaultPositionVirtualUnit d =
      s.defaultPositionVirtualUnit d := by
  unfold setExternalPositionModules defaultPositionVirtualUnit
  rw [componentPositions_updatePosition]
  split <;> simp_all

@[simp] theorem externalPositionModules_setExternalPositionModules :
    (s.setExternalPositionModules c l).externalPositionModules d =
      if d = c then l else s.externalPositionModules d := by
  unfold setExternalPositionModules externalPositionModules
  rw [componentPositions_updatePosition]
  split <;> rfl

@[simp] theorem externalPositionVirtualUnit_setExternalPositionModules :
    (s.setExternalPositionModules c l).externalPositionVirtualUnit d q =
      s.externalPositionVirtualUnit d q := by
  unfold setExternalPositionModules externalPositionVirtualUnit
  rw [componentPositions_updatePosition]
  split <;> simp_all

@[simp] theorem defaultPositionVirtualUnit_updateExternalPosition :
    (s.updateExternalPosition c p g).defaultPositionVirtualUnit d =
      s.defaultPositionVirtualUnit d := by
  unfold updateExternalPosition defaultPositionVirtualUnit
  rw [componentPositions_updatePosition]
  split <;> simp_all

@[simp] theorem externalPositionModules_updateExternalPosition :
    (s.updateExternalPosition c p g).externalPositionModules d = s.externalPositionModules d := by
  unfold updateExternalPosition externalPositionModules
  rw [componentPositions_updatePosition]
  split <;> simp_all

@[simp] theorem externalPositionVirtualUnit_updateExternalPosition :
    (s.updateExternalPosition c p g).externalPositionVirtualUnit d q =
      if d = c ∧ q = p then (g ((s.componentPositions c).externalPositions p)).virtualUnit
      else s.externalPositionVirtualUnit d q := by
  unfold updateExternalPosition externalPositionVirtualUnit
  rw [componentPositions_updatePosition]
  by_cases hd : d = c
  · subst hd
    by_cases hq : q = p
    · subst hq
      simp
    · simp [hq]
  · simp [hd]

@[simp] theorem externalPositionData_setDefaultVirtualUnit :
    (s.setDefaultVirtualUnit c v).externalPositionData d q = s.externalPositionData d q := by
  unfold setDefaultVirtualUnit externalPositionData
  rw [componentPositions_updatePosition]
  split <;> simp_all

@[simp] theorem externalPositionData_setExternalPositionModules :
    (s.setExternalPositionModules c l).externalPositionData d q = s.externalPositionData d q := by
  unfold setExternalPositionModules externalPositionData
  rw [componentPositions_updatePosition]
  split <;> simp_all

@[simp] theorem externalPositionData_updateExternalPosition :
    (s.updateExternalPosition c p g).externalPositionData d q =
      if d = c ∧ q = p then (g ((s.componentPositions c).externalPositions p)).data
      else s.externalPositionData d q := by
  unfold updateExternalPosition externalPositionData
  rw [componentPositions_updatePosition]
  by_cases hd : d = c
  · subst hd
    by_cases hq : q = p
    · subst hq
      simp
    · simp [hq]
  · simp [hd]

/-- Writing the position modules that are there changes nothing. -/
@[simp] theorem setExternalPositionModules_self :
    s.setExternalPositionModules c (s.externalPositionModules c) = s := by
  unfold setExternalPositionModules updatePosition externalPositionModules
  rw [Function.update_eq_self]

/-- Two writes to an external position are one. -/
theorem updateExternalPosition_twice {g' : ExternalPosition → ExternalPosition} :
    (s.updateExternalPosition c p g).updateExternalPosition c p g' =
      s.updateExternalPosition c p fun e => g' (g e) := by
  unfold updateExternalPosition updatePosition
  simp

end Updates

/-! ## Modifiers -/

/-- `_validateOnlyModule`. -/
def validateOnlyModule (m : Message) (s : SetToken) : Except Revert Unit := do
  require (s.moduleStates m.sender = .initialized) "Only the module can call"
  require (m.controller.isModule m.sender = true) "Module must be enabled on controller"

/-- `_validateWhenLockedOnlyLocker`. -/
def validateWhenLockedOnlyLocker (m : Message) (s : SetToken) : Except Revert Unit :=
  if s.isLocked then require (m.sender = s.locker) "When locked, only the locker can call"
  else .ok ()

/-- The modifiers `onlyModule whenLockedOnlyLocker`. -/
def privileged (m : Message) (s : SetToken) : Except Revert Unit := do
  validateOnlyModule m s
  validateWhenLockedOnlyLocker m s

/-- The message comes from a module that may use the privileged functions. -/
structure Authorised (m : Message) (s : SetToken) : Prop where
  /-- The sender is initialized on the Set. -/
  initialized : s.moduleStates m.sender = .initialized
  /-- The sender is enabled on the controller. -/
  enabled : m.controller.isModule m.sender = true
  /-- If the Set is locked, the sender locked it. -/
  locker : s.isLocked = true → m.sender = s.locker

@[simp] theorem privileged_eq_ok {u : Unit} : privileged m s = .ok u ↔ Authorised m s := by
  have hlock : validateWhenLockedOnlyLocker m s = .ok u ↔
      (s.isLocked = true → m.sender = s.locker) := by
    unfold validateWhenLockedOnlyLocker
    split <;> simp_all
  simp only [privileged, validateOnlyModule, bind_eq_ok, require_eq_ok, hlock]
  constructor
  · rintro ⟨-, ⟨-, h₁, h₂⟩, h₃⟩
    exact ⟨h₁, h₂, h₃⟩
  · rintro ⟨h₁, h₂, h₃⟩
    exact ⟨(), ⟨(), h₁, h₂⟩, h₃⟩

/-! ## Privileged functions -/

/-- `addComponent`. -/
def addComponent (m : Message) (s : SetToken) (component : Address) : Except Revert SetToken := do
  privileged m s
  require (s.isComponent component = false) "Must not be component"
  return { s with components := s.components ++ [component] }

/-- `removeComponent`. -/
def removeComponent (m : Message) (s : SetToken) (component : Address) :
    Except Revert SetToken := do
  privileged m s
  let components ← AddressArrayUtils.removeStorage s.components component
  return { s with components := components }

/-- `editDefaultPositionUnit`. -/
def editDefaultPositionUnit (m : Message) (s : SetToken) (component : Address) (realUnit : ℤ) :
    Except Revert SetToken := do
  privileged m s
  let virtualUnit ← s.convertRealToVirtualUnit realUnit
  return s.setDefaultVirtualUnit component virtualUnit

/-- `addExternalPositionModule`. -/
def addExternalPositionModule (m : Message) (s : SetToken) (component positionModule : Address) :
    Except Revert SetToken := do
  privileged m s
  require (s.isExternalPositionModule component positionModule = false) "Module already added"
  return s.setExternalPositionModules component
    (s.externalPositionModules component ++ [positionModule])

/-- `removeExternalPositionModule`. -/
def removeExternalPositionModule (m : Message) (s : SetToken)
    (component positionModule : Address) : Except Revert SetToken := do
  privileged m s
  let modules ← AddressArrayUtils.removeStorage (s.externalPositionModules component)
    positionModule
  let s := s.setExternalPositionModules component modules
  return s.updateExternalPosition component positionModule fun _ => {}

/-- `editExternalPositionUnit`. -/
def editExternalPositionUnit (m : Message) (s : SetToken) (component positionModule : Address)
    (realUnit : ℤ) : Except Revert SetToken := do
  privileged m s
  let virtualUnit ← s.convertRealToVirtualUnit realUnit
  return s.updateExternalPosition component positionModule fun p =>
    { p with virtualUnit := virtualUnit }

/-- `editExternalPositionData`. -/
def editExternalPositionData (m : Message) (s : SetToken) (component positionModule : Address)
    (data : Bytes) : Except Revert SetToken := do
  privileged m s
  return s.updateExternalPosition component positionModule fun p => { p with data := data }

/-- `_absoluteValue`. -/
def absoluteValue (a : ℤ) : Except Revert ℕ :=
  if 0 ≤ a then SafeCast.toUint256 a else SafeCast.toUint256 (wrapInt256 (-a))

/-- The assignment in `_getPositionsAbsMinimumVirtualUnit`. -/
def lesserUnit (minimumUnit unit : ℕ) : ℕ :=
  if 0 < unit ∧ unit < minimumUnit then unit else minimumUnit

/-- The loop of `_getPositionsAbsMinimumVirtualUnit` over the external positions of a
component. -/
def minimumExternalUnit (s : SetToken) (component : Address) (minimumUnit : ℕ) :
    Except Revert ℕ :=
  (s.externalPositionModules component).foldlM (fun minimumUnit currentModule => do
    let virtualUnit ← absoluteValue (s.externalPositionVirtualUnit component currentModule)
    return lesserUnit minimumUnit virtualUnit) minimumUnit

/-- `_getPositionsAbsMinimumVirtualUnit`. -/
def getPositionsAbsMinimumVirtualUnit (s : SetToken) : Except Revert ℤ := do
  let minimumUnit ← s.components.foldlM (fun minimumUnit component => do
    let defaultUnit ← SafeCast.toUint256 (s.defaultPositionVirtualUnit component)
    s.minimumExternalUnit component (lesserUnit minimumUnit defaultUnit)) (2 ^ 256 - 1)
  SafeCast.toInt256 minimumUnit

/-- `_validateNewMultiplier`. -/
def validateNewMultiplier (s : SetToken) (newMultiplier : ℤ) : Except Revert Unit := do
  let minVirtualUnit ← s.getPositionsAbsMinimumVirtualUnit
  let minRealUnit ← PreciseUnitMath.conservativePreciseMul minVirtualUnit newMultiplier
  require (0 < minRealUnit) "New multiplier too small"

/-- `editPositionMultiplier`. -/
def editPositionMultiplier (m : Message) (s : SetToken) (newMultiplier : ℤ) :
    Except Revert SetToken := do
  privileged m s
  s.validateNewMultiplier newMultiplier
  return { s with positionMultiplier := newMultiplier }

/-! ## The lock -/

/-- `lock`. -/
def lock (m : Message) (s : SetToken) : Except Revert SetToken := do
  validateOnlyModule m s
  require (s.isLocked = false) "Must not be locked"
  return { s with locker := m.sender, isLocked := true }

/-- `unlock`. -/
def unlock (m : Message) (s : SetToken) : Except Revert SetToken := do
  validateOnlyModule m s
  require (s.isLocked = true) "Must be locked"
  require (s.locker = m.sender) "Must be locker"
  return { s with locker := zeroAddress, isLocked := false }

/-! ## Modules and the manager -/

/-- `_validateOnlyManager`. -/
def validateOnlyManager (m : Message) (s : SetToken) : Except Revert Unit :=
  require (m.sender = s.manager) "Only manager can call"

/-- Write the state of a module. -/
def setModuleState (s : SetToken) (module : Address) (state : ModuleState) : SetToken :=
  { s with moduleStates := Function.update s.moduleStates module state }

/-- `addModule`. -/
def addModule (m : Message) (s : SetToken) (module : Address) : Except Revert SetToken := do
  validateOnlyManager m s
  require (s.moduleStates module = .none) "Module must not be added"
  require (m.controller.isModule module = true) "Must be enabled on Controller"
  return s.setModuleState module .pending

/-- What `removeModule` checks before it calls the module. -/
def validateRemoveModule (m : Message) (s : SetToken) (module : Address) : Except Revert Unit := do
  validateOnlyManager m s
  require (s.isLocked = false) "Only when unlocked"
  require (s.moduleStates module = .initialized) "Module must be added"

/-- What `removeModule` does after it called the module. -/
def dropModule (s : SetToken) (module : Address) : Except Revert SetToken := do
  let s := s.setModuleState module .none
  let modules ← AddressArrayUtils.removeStorage s.modules module
  return { s with modules := modules }

/-- `removePendingModule`. -/
def removePendingModule (m : Message) (s : SetToken) (module : Address) :
    Except Revert SetToken := do
  validateOnlyManager m s
  require (s.isLocked = false) "Only when unlocked"
  require (s.moduleStates module = .pending) "Module must be pending"
  return s.setModuleState module .none

/-- `initializeModule`, which a pending module calls. -/
def initializeModule (m : Message) (s : SetToken) : Except Revert SetToken := do
  require (s.isLocked = false) "Only when unlocked"
  require (s.moduleStates m.sender = .pending) "Module must be pending"
  return { s with
    moduleStates := Function.update s.moduleStates m.sender .initialized
    modules := s.modules ++ [m.sender] }

/-- `setManager`. -/
def setManager (m : Message) (s : SetToken) (manager : Address) : Except Revert SetToken := do
  validateOnlyManager m s
  require (s.isLocked = false) "Only when unlocked"
  return { s with manager := manager }

/-! ## Successful calls -/

@[simp] theorem addComponent_eq_ok :
    addComponent m s component = .ok s' ↔
      Authorised m s ∧ component ∉ s.components ∧
        { s with components := s.components ++ [component] } = s' := by
  simp [addComponent]

@[simp] theorem removeComponent_eq_ok :
    removeComponent m s component = .ok s' ↔
      Authorised m s ∧ component ∈ s.components ∧
        { s with
          components := SwapPop.swapPop s.components (s.components.idxOf component) } = s' := by
  simp only [removeComponent, bind_eq_ok, privileged_eq_ok, pure_eq_ok,
    AddressArrayUtils.removeStorage_eq_ok]
  constructor
  · rintro ⟨-, h, _, ⟨hc, rfl⟩, rfl⟩
    exact ⟨h, hc, rfl⟩
  · rintro ⟨h, hc, rfl⟩
    exact ⟨(), h, _, ⟨hc, rfl⟩, rfl⟩

theorem editDefaultPositionUnit_eq_ok {realUnit : ℤ} :
    editDefaultPositionUnit m s component realUnit = .ok s' ↔
      Authorised m s ∧ ∃ v, s.convertRealToVirtualUnit realUnit = .ok v ∧
        s.setDefaultVirtualUnit component v = s' := by
  simp [editDefaultPositionUnit]

@[simp] theorem addExternalPositionModule_eq_ok :
    addExternalPositionModule m s component positionModule = .ok s' ↔
      Authorised m s ∧ positionModule ∉ s.externalPositionModules component ∧
        s.setExternalPositionModules component
          (s.externalPositionModules component ++ [positionModule]) = s' := by
  simp [addExternalPositionModule]

@[simp] theorem removeExternalPositionModule_eq_ok :
    removeExternalPositionModule m s component positionModule = .ok s' ↔
      Authorised m s ∧ positionModule ∈ s.externalPositionModules component ∧
        (s.setExternalPositionModules component
          (SwapPop.swapPop (s.externalPositionModules component)
            ((s.externalPositionModules component).idxOf positionModule))).updateExternalPosition
              component positionModule (fun _ => {}) = s' := by
  simp only [removeExternalPositionModule, bind_eq_ok, privileged_eq_ok, pure_eq_ok,
    AddressArrayUtils.removeStorage_eq_ok]
  constructor
  · rintro ⟨-, h, _, ⟨hc, rfl⟩, rfl⟩
    exact ⟨h, hc, rfl⟩
  · rintro ⟨h, hc, rfl⟩
    exact ⟨(), h, _, ⟨hc, rfl⟩, rfl⟩

theorem editExternalPositionUnit_eq_ok {realUnit : ℤ} :
    editExternalPositionUnit m s component positionModule realUnit = .ok s' ↔
      Authorised m s ∧ ∃ v, s.convertRealToVirtualUnit realUnit = .ok v ∧
        s.updateExternalPosition component positionModule (fun p => { p with virtualUnit := v }) =
          s' := by
  simp [editExternalPositionUnit]

@[simp] theorem editExternalPositionData_eq_ok {data : Bytes} :
    editExternalPositionData m s component positionModule data = .ok s' ↔
      Authorised m s ∧
        s.updateExternalPosition component positionModule (fun p => { p with data := data }) =
          s' := by
  simp [editExternalPositionData]

theorem editPositionMultiplier_eq_ok {newMultiplier : ℤ} :
    editPositionMultiplier m s newMultiplier = .ok s' ↔
      Authorised m s ∧ s.validateNewMultiplier newMultiplier = .ok () ∧
        { s with positionMultiplier := newMultiplier } = s' := by
  simp only [editPositionMultiplier, bind_eq_ok, privileged_eq_ok, pure_eq_ok,
    Unique.exists_iff]

@[simp] theorem initializeModule_eq_ok :
    initializeModule m s = .ok s' ↔
      s.isLocked = false ∧ s.moduleStates m.sender = .pending ∧
        { s with
          moduleStates := Function.update s.moduleStates m.sender .initialized
          modules := s.modules ++ [m.sender] } = s' := by
  simp [initializeModule]

theorem lock_eq_ok :
    lock m s = .ok s' ↔
      s.moduleStates m.sender = .initialized ∧ m.controller.isModule m.sender = true ∧
        s.isLocked = false ∧ { s with locker := m.sender, isLocked := true } = s' := by
  simp only [lock, validateOnlyModule, bind_eq_ok, require_eq_ok, pure_eq_ok]
  constructor
  · rintro ⟨-, ⟨-, hstate, henabled⟩, -, hopen, rfl⟩
    exact ⟨hstate, henabled, hopen, rfl⟩
  · rintro ⟨hstate, henabled, hopen, rfl⟩
    exact ⟨(), ⟨(), hstate, henabled⟩, (), hopen, rfl⟩

theorem unlock_eq_ok :
    unlock m s = .ok s' ↔
      s.moduleStates m.sender = .initialized ∧ m.controller.isModule m.sender = true ∧
        s.isLocked = true ∧ s.locker = m.sender ∧
          { s with locker := zeroAddress, isLocked := false } = s' := by
  simp only [unlock, validateOnlyModule, bind_eq_ok, require_eq_ok, pure_eq_ok]
  constructor
  · rintro ⟨-, ⟨-, hstate, henabled⟩, -, hlocked, -, hlocker, rfl⟩
    exact ⟨hstate, henabled, hlocked, hlocker, rfl⟩
  · rintro ⟨hstate, henabled, hlocked, hlocker, rfl⟩
    exact ⟨(), ⟨(), hstate, henabled⟩, (), hlocked, (), hlocker, rfl⟩

theorem addModule_eq_ok {module : Address} :
    addModule m s module = .ok s' ↔
      m.sender = s.manager ∧ s.moduleStates module = .none ∧
        m.controller.isModule module = true ∧ s.setModuleState module .pending = s' := by
  simp [addModule, validateOnlyManager]

theorem validateRemoveModule_eq_ok {module : Address} {u : Unit} :
    validateRemoveModule m s module = .ok u ↔
      m.sender = s.manager ∧ s.isLocked = false ∧ s.moduleStates module = .initialized := by
  simp [validateRemoveModule, validateOnlyManager]

/-- A module is dropped if it is listed, and then its first listing goes. -/
theorem dropModule_eq_ok {module : Address} :
    dropModule s module = .ok s' ↔
      module ∈ s.modules ∧
        { s with
          moduleStates := Function.update s.moduleStates module .none
          modules := SwapPop.swapPop s.modules (s.modules.idxOf module) } = s' := by
  simp only [dropModule, setModuleState, bind_eq_ok, AddressArrayUtils.removeStorage_eq_ok,
    pure_eq_ok]
  constructor
  · rintro ⟨_, ⟨hmem, rfl⟩, rfl⟩
    exact ⟨hmem, rfl⟩
  · rintro ⟨hmem, rfl⟩
    exact ⟨_, ⟨hmem, rfl⟩, rfl⟩

theorem removePendingModule_eq_ok {module : Address} :
    removePendingModule m s module = .ok s' ↔
      m.sender = s.manager ∧ s.isLocked = false ∧ s.moduleStates module = .pending ∧
        s.setModuleState module .none = s' := by
  simp [removePendingModule, validateOnlyManager]

theorem setManager_eq_ok {manager : Address} :
    setManager m s manager = .ok s' ↔
      m.sender = s.manager ∧ s.isLocked = false ∧ { s with manager := manager } = s' := by
  simp [setManager, validateOnlyManager]

/-- An accepted multiplier is positive: the least virtual unit it is tried on is not negative. -/
theorem pos_of_editPositionMultiplier {newMultiplier : ℤ}
    (h : editPositionMultiplier m s newMultiplier = .ok s') : 0 < newMultiplier := by
  obtain ⟨-, hvalid, -⟩ := editPositionMultiplier_eq_ok.mp h
  simp only [validateNewMultiplier, getPositionsAbsMinimumVirtualUnit, bind_eq_ok, require_eq_ok,
    SafeCast.toInt256_eq_ok, PreciseUnitMath.conservativePreciseMul_eq_ok] at hvalid
  obtain ⟨_, ⟨n, -, -, rfl⟩, _, ⟨-, rfl⟩, hpos⟩ := hvalid
  have hmul : 0 < (n : ℤ) * newMultiplier := by
    by_contra hle
    have hnonpos := Int.ediv_nonpos_of_nonpos_of_neg (Int.not_lt.mp hle) preciseUnitInt_pos
    exact absurd hpos (Int.not_lt.mpr hnonpos)
  exact pos_of_mul_pos_right hmul (Int.natCast_nonneg n)

end SetToken

end SetProtocol
