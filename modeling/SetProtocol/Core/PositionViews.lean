import SetProtocol.Core.SetToken
import SetProtocol.Lib.Filling

set_option relaxedAutoImplicit false
set_option autoImplicit false

/-!
# Views of the positions

`getPositions` and `getTotalComponentRealUnits` of `contracts/protocol/SetToken.sol`. The first one
counts the positions, allocates an array for them, and fills it in a second pass; the second one
adds up the units of a component.

## Main definitions

* `SetProtocol.SetToken.getPositionCount`, `getPositions` — the positions as an array.
* `SetProtocol.SetToken.getTotalComponentRealUnits` — the units of a component.
* `SetProtocol.SetToken.positionsOf` — the positions of a component as a list.

## Main results

* `SetProtocol.SetToken.getPositionCount_eq` — what is counted are the positions of the components.
* `SetProtocol.SetToken.fillPositions_eq_ok` — the array is filled with them, and it is full.

## Implementation notes

The count of positions is the length of a list, so that it is a natural number here.
-/

namespace SetProtocol

open Checked

/-- `ISetToken.Position`. -/
structure ISetToken.Position where
  /-- The component. -/
  component : Address := zeroAddress
  /-- The module of an external position. -/
  module : Address := zeroAddress
  /-- The real unit. -/
  unit : ℤ := 0
  /-- Whether the position is a default or an external one. -/
  positionState : ℕ := 0
  /-- Data of the module. -/
  data : Bytes := []
  deriving DecidableEq

namespace SetToken

/-- `DEFAULT`. -/
def defaultState : ℕ := 0

/-- `EXTERNAL`. -/
def externalState : ℕ := 1

/-! ## The views -/

/-- One round of the loop of `_getPositionCount`. -/
def countPositions (s : SetToken) (positionCount : ℕ) (component : Address) : ℕ :=
  let positionCount :=
    if 0 < s.defaultPositionVirtualUnit component then positionCount + 1 else positionCount
  let externalModules := s.externalPositionModules component
  if 0 < externalModules.length then positionCount + externalModules.length else positionCount

/-- `_getPositionCount`. -/
def getPositionCount (s : SetToken) : ℕ := s.components.foldl s.countPositions 0

/-- `positions[positionCount] = position`, and `positionCount++`. -/
def writePosition (positions : List ISetToken.Position × ℕ) (position : ISetToken.Position) :
    Except Revert (List ISetToken.Position × ℕ) :=
  Filling.put "invalid opcode" positions position

/-- One round of the inner loop of `getPositions`. -/
def fillExternalPosition (s : SetToken) (component : Address)
    (positions : List ISetToken.Position × ℕ) (currentModule : Address) :
    Except Revert (List ISetToken.Position × ℕ) := do
  let unit ← s.getExternalPositionRealUnit component currentModule
  writePosition positions {
    component := component
    module := currentModule
    unit := unit
    positionState := externalState
    data := s.externalPositionData component currentModule }

/-- One round of the outer loop of `getPositions`. -/
def fillComponentPositions (s : SetToken) (positions : List ISetToken.Position × ℕ)
    (component : Address) : Except Revert (List ISetToken.Position × ℕ) := do
  -- the virtual unit decides, and the real unit is written
  let positions ← (
    if 0 < s.defaultPositionVirtualUnit component then do
      let unit ← s.getDefaultPositionRealUnit component
      writePosition positions {
        component := component
        module := zeroAddress
        unit := unit
        positionState := defaultState
        data := [] }
    else .ok positions)
  (s.externalPositionModules component).foldlM (s.fillExternalPosition component) positions

/-- The array of `getPositions` and the number of entries that are written in the end. -/
def fillPositions (s : SetToken) : Except Revert (List ISetToken.Position × ℕ) :=
  s.components.foldlM s.fillComponentPositions (List.replicate s.getPositionCount {}, 0)

/-- `getPositions`. -/
def getPositions (s : SetToken) : Except Revert (List ISetToken.Position) := do
  let (positions, _) ← s.fillPositions
  return positions

/-- One round of the loop of `getTotalComponentRealUnits`. -/
def addExternalRealUnit (s : SetToken) (component : Address) (totalUnits : ℤ)
    (externalModule : Address) : Except Revert ℤ := do
  SignedSafeMath.add totalUnits (← s.getExternalPositionRealUnit component externalModule)

/-- `getTotalComponentRealUnits`. -/
def getTotalComponentRealUnits (s : SetToken) (component : Address) : Except Revert ℤ := do
  let totalUnits ← s.getDefaultPositionRealUnit component
  (s.externalPositionModules component).foldlM (s.addExternalRealUnit component) totalUnits

/-! ## The positions of a component -/

variable {s : SetToken} {component : Address}

/-- The default position of a component. -/
def defaultPosition (s : SetToken) (component : Address) : ISetToken.Position where
  component := component
  unit := s.defaultRealUnit component
  positionState := defaultState

/-- An external position of a component. -/
def externalPosition (s : SetToken) (component externalModule : Address) :
    ISetToken.Position where
  component := component
  module := externalModule
  unit := s.externalRealUnit component externalModule
  positionState := externalState
  data := s.externalPositionData component externalModule

/-- The positions of a component: the default position where its virtual unit is positive, and the
external positions in order. -/
def positionsOf (s : SetToken) (component : Address) : List ISetToken.Position :=
  (if 0 < s.defaultPositionVirtualUnit component then [s.defaultPosition component] else []) ++
    (s.externalPositionModules component).map (s.externalPosition component)

/-- The units of a component are read without an overflow. -/
structure UnitsRead (s : SetToken) (component : Address) : Prop where
  /-- The default unit. -/
  default : InInt256 (s.defaultPositionVirtualUnit component * s.positionMultiplier)
  /-- The external units. -/
  external : ∀ externalModule ∈ s.externalPositionModules component,
    InInt256 (s.externalPositionVirtualUnit component externalModule * s.positionMultiplier)

namespace UnitsRead

variable {externalModule : Address}

theorem getDefaultPositionRealUnit (h : UnitsRead s component) :
    s.getDefaultPositionRealUnit component = .ok (s.defaultRealUnit component) :=
  getDefaultPositionRealUnit_eq_ok.mpr ⟨h.default, rfl⟩

theorem getExternalPositionRealUnit (h : UnitsRead s component)
    (hmodule : externalModule ∈ s.externalPositionModules component) :
    s.getExternalPositionRealUnit component externalModule =
      .ok (s.externalRealUnit component externalModule) :=
  getExternalPositionRealUnit_eq_ok.mpr ⟨h.external externalModule hmodule, rfl⟩

end UnitsRead

/-- All positions of a component carry its address. -/
theorem component_of_mem_positionsOf {position : ISetToken.Position}
    (h : position ∈ s.positionsOf component) : position.component = component := by
  unfold positionsOf at h
  rcases List.mem_append.mp h with h | h
  · split at h
    · rw [List.mem_singleton.mp h]
      rfl
    · exact absurd h List.not_mem_nil
  · obtain ⟨externalModule, -, rfl⟩ := List.mem_map.mp h
    rfl

/-! ## The array -/

/-- A round of the count counts the positions of a component. -/
theorem countPositions_eq (positionCount : ℕ) :
    s.countPositions positionCount component =
      positionCount + (s.positionsOf component).length := by
  have hadd : ∀ n k : ℕ, (if 0 < k then n + k else n) = n + k := by
    intro n k
    split <;> omega
  rw [countPositions, hadd, positionsOf, List.length_append, List.length_map]
  split
  · rw [List.length_singleton, Nat.add_assoc]
  · rw [List.length_nil, Nat.zero_add]

/-- What is counted are the positions of the components. -/
theorem getPositionCount_eq : s.getPositionCount = (s.components.flatMap s.positionsOf).length := by
  have hloop : ∀ (l : List Address) (n : ℕ),
      l.foldl s.countPositions n = n + (l.flatMap s.positionsOf).length := by
    intro l
    induction l with
    | nil => intro n; simp
    | cons c l ih =>
      intro n
      rw [List.foldl_cons, ih, countPositions_eq, List.flatMap_cons, List.length_append]
      omega
  rw [getPositionCount, hloop, Nat.zero_add]

/-- A round of the second pass writes the positions of a component. -/
theorem fillComponentPositions_eq (h : UnitsRead s component)
    (positions : List ISetToken.Position × ℕ) :
    s.fillComponentPositions positions component =
      (s.positionsOf component).foldlM writePosition positions := by
  have hexternal : ∀ positions : List ISetToken.Position × ℕ,
      (s.externalPositionModules component).foldlM (s.fillExternalPosition component) positions =
        ((s.externalPositionModules component).map (s.externalPosition component)).foldlM
          writePosition positions := by
    intro positions
    rw [List.foldlM_map]
    apply foldlM_congr
    intro externalModule hmodule positions
    rw [fillExternalPosition, h.getExternalPositionRealUnit hmodule]
    rfl
  rw [fillComponentPositions, positionsOf, List.foldlM_append]
  split
  · rw [h.getDefaultPositionRealUnit]
    simp only [List.foldlM_cons, List.foldlM_nil, bind_pure]
    congr 1
    funext positions
    exact hexternal positions
  · exact hexternal positions

/-- The array is filled with the positions of the components, and it is full. -/
theorem fillPositions_eq_ok (h : ∀ component ∈ s.components, UnitsRead s component) :
    s.fillPositions =
      .ok (s.components.flatMap s.positionsOf, (s.components.flatMap s.positionsOf).length) := by
  have hloop : s.fillPositions = (s.components.flatMap s.positionsOf).foldlM writePosition
      (List.replicate s.getPositionCount {}, 0) := by
    rw [Filling.foldlM_flatMap]
    apply foldlM_congr
    intro component hcomponent positions
    exact fillComponentPositions_eq (h component hcomponent) positions
  rw [hloop, getPositionCount_eq]
  exact Filling.foldlM_put

end SetToken

end SetProtocol
