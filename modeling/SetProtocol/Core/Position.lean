import SetProtocol.Core.SetToken

set_option relaxedAutoImplicit false
set_option autoImplicit false

/-!
# Position edits

`contracts/protocol/lib/Position.sol`, the library through which modules read and edit positions.
Its functions run in the module that uses them, so their message is the one by which that module
calls the SetToken. They decide from real units which components and position modules to list.

## Main definitions

* `SetProtocol.Position.editDefaultPosition`, `editExternalPosition` — the edits.
* `SetProtocol.Position.calculateDefaultEditPositionUnit` — the unit after an action.

## Main results

* `SetProtocol.Position.editDefaultPosition_cases`, `editExternalPosition_cases` — all that an
  edit can do.
-/

namespace SetProtocol

open Checked

namespace Position

/-! ## Reading positions -/

/-- `hasDefaultPosition`. -/
def hasDefaultPosition (s : SetToken) (component : Address) : Except Revert Bool := do
  return 0 < (← s.getDefaultPositionRealUnit component)

/-- `hasExternalPosition`. -/
def hasExternalPosition (s : SetToken) (component : Address) : Bool :=
  0 < (s.externalPositionModules component).length

/-- `hasSufficientDefaultUnits`. -/
def hasSufficientDefaultUnits (s : SetToken) (component : Address) (unit : ℕ) :
    Except Revert Bool := do
  let realUnit ← s.getDefaultPositionRealUnit component
  return (← SafeCast.toInt256 unit) ≤ realUnit

/-- `hasSufficientExternalUnits`. -/
def hasSufficientExternalUnits (s : SetToken) (component positionModule : Address) (unit : ℕ) :
    Except Revert Bool := do
  let realUnit ← s.getExternalPositionRealUnit component positionModule
  return (← SafeCast.toInt256 unit) ≤ realUnit

/-- `getDefaultTotalNotional`. -/
def getDefaultTotalNotional (setTokenSupply positionUnit : ℕ) : Except Revert ℕ :=
  PreciseUnitMath.preciseMul setTokenSupply positionUnit

/-- `getDefaultPositionUnit`. -/
def getDefaultPositionUnit (setTokenSupply totalNotional : ℕ) : Except Revert ℕ :=
  PreciseUnitMath.preciseDiv totalNotional setTokenSupply

/-- `getDefaultTrackedBalance`, for a SetToken of the given supply. -/
def getDefaultTrackedBalance (s : SetToken) (totalSupply : ℕ) (component : Address) :
    Except Revert ℕ := do
  let positionUnit ← s.getDefaultPositionRealUnit component
  PreciseUnitMath.preciseMul totalSupply (← SafeCast.toUint256 positionUnit)

/-- `calculateDefaultEditPositionUnit`. -/
def calculateDefaultEditPositionUnit
    (setTokenSupply preTotalNotional postTotalNotional prePositionUnit : ℕ) :
    Except Revert ℕ := do
  -- what was there beyond the tracked units stays untracked
  let airdroppedAmount ← SafeMath.sub preTotalNotional
    (← PreciseUnitMath.preciseMul prePositionUnit setTokenSupply)
  PreciseUnitMath.preciseDiv (← SafeMath.sub postTotalNotional airdroppedAmount) setTokenSupply

/-! ## Edits -/

/-- `editDefaultPosition`. -/
def editDefaultPosition (m : Message) (s : SetToken) (component : Address) (newUnit : ℕ) :
    Except Revert SetToken := do
  let isPositionFound ← hasDefaultPosition s component
  let s ← (
    if isPositionFound = false ∧ 0 < newUnit then
      if hasExternalPosition s component = false then s.addComponent m component else .ok s
    else if isPositionFound = true ∧ newUnit = 0 then
      if hasExternalPosition s component = false then s.removeComponent m component else .ok s
    else .ok s)
  s.editDefaultPositionUnit m component (← SafeCast.toInt256 newUnit)

/-- The first branch of `editExternalPosition`, for a new unit other than zero. -/
def openExternalPosition (m : Message) (s : SetToken) (component module : Address) (newUnit : ℤ)
    (data : Bytes) : Except Revert SetToken := do
  let s ← (
    if s.isComponent component = false then do
      let s ← s.addComponent m component
      s.addExternalPositionModule m component module
    else if s.isExternalPositionModule component module = false then
      s.addExternalPositionModule m component module
    else .ok s)
  let s ← s.editExternalPositionUnit m component module newUnit
  s.editExternalPositionData m component module data

/-- The second branch of `editExternalPosition`, for the new unit zero. -/
def closeExternalPosition (m : Message) (s : SetToken) (component module : Address)
    (data : Bytes) : Except Revert SetToken := do
  require (data.length = 0) "Passed data must be null"
  let externalUnit ← s.getExternalPositionRealUnit component module
  if externalUnit ≠ 0 then do
    let positionModules := s.externalPositionModules component
    let defaultUnit ← s.getDefaultPositionRealUnit component
    let s ← (
      if defaultUnit = 0 ∧ positionModules.length = 1 then do
        let only ← AddressArrayUtils.read positionModules 0
        require (only = module) "External positions must be 0 to remove component"
        s.removeComponent m component
      else .ok s)
    s.removeExternalPositionModule m component module
  else .ok s

/-- `editExternalPosition`. -/
def editExternalPosition (m : Message) (s : SetToken) (component module : Address) (newUnit : ℤ)
    (data : Bytes) : Except Revert SetToken :=
  if newUnit ≠ 0 then openExternalPosition m s component module newUnit data
  else closeExternalPosition m s component module data

/-! ## Successful edits -/

variable {m : Message} {s s' : SetToken} {c module : Address} {data : Bytes}

@[simp] theorem hasDefaultPosition_eq_ok {b : Bool} :
    hasDefaultPosition s c = .ok b ↔
      InInt256 (s.defaultPositionVirtualUnit c * s.positionMultiplier) ∧
        decide (0 < s.defaultRealUnit c) = b := by
  simp [hasDefaultPosition]

/-- The units are compared with the real unit that is read. -/
@[simp] theorem hasSufficientDefaultUnits_eq_ok {unit : ℕ} {b : Bool} :
    hasSufficientDefaultUnits s c unit = .ok b ↔
      InInt256 (s.defaultPositionVirtualUnit c * s.positionMultiplier) ∧ unit < 2 ^ 255 ∧
        decide ((unit : ℤ) ≤ s.defaultRealUnit c) = b := by
  simp only [hasSufficientDefaultUnits, bind_eq_ok, SetToken.getDefaultPositionRealUnit_eq_ok,
    SafeCast.toInt256_eq_ok, pure_eq_ok]
  constructor
  · rintro ⟨_, ⟨hread, rfl⟩, _, ⟨hcast, rfl⟩, hb⟩
    exact ⟨hread, hcast, hb⟩
  · rintro ⟨hread, hcast, hb⟩
    exact ⟨_, ⟨hread, rfl⟩, _, ⟨hcast, rfl⟩, hb⟩

/-- Units that the test finds sufficient are no more than the position has. -/
theorem le_of_hasSufficientDefaultUnits {unit : ℕ}
    (h : hasSufficientDefaultUnits s c unit = .ok true) : (unit : ℤ) ≤ s.defaultRealUnit c :=
  of_decide_eq_true (hasSufficientDefaultUnits_eq_ok.mp h).2.2

/-- Units are sufficient when the read does not overflow and they are no more than the position
has: then they fit as well. -/
theorem hasSufficientDefaultUnits_iff {unit : ℕ} :
    hasSufficientDefaultUnits s c unit = .ok true ↔
      InInt256 (s.defaultPositionVirtualUnit c * s.positionMultiplier) ∧
        (unit : ℤ) ≤ s.defaultRealUnit c := by
  rw [hasSufficientDefaultUnits_eq_ok, decide_eq_true_eq]
  refine ⟨fun h => ⟨h.1, h.2.2⟩, ?_⟩
  rintro ⟨hread, hle⟩
  refine ⟨hread, ?_, hle⟩
  have hmul : (unit : ℤ) * preciseUnitInt ≤
      s.defaultPositionVirtualUnit c * s.positionMultiplier :=
    (Int.le_ediv_iff_mul_le preciseUnitInt_pos).mp hle
  have hone : (unit : ℤ) ≤ unit * preciseUnitInt :=
    le_mul_of_one_le_right (Int.natCast_nonneg unit) (by decide)
  have hmax := (hone.trans hmul).trans hread.2
  unfold maxInt256 at hmax
  omega

@[simp] theorem hasExternalPosition_eq_false :
    hasExternalPosition s c = false ↔ s.externalPositionModules c = [] := by
  simp [hasExternalPosition]

/-- The new unit is the part of the notional amount that is not airdropped, over the supply. -/
theorem calculateDefaultEditPositionUnit_eq_ok {supply pre post unit n : ℕ} :
    calculateDefaultEditPositionUnit supply pre post unit = .ok n ↔
      InUint256 (unit * supply) ∧ unit * supply / preciseUnit ≤ pre ∧
        pre - unit * supply / preciseUnit ≤ post ∧
        InUint256 ((post - (pre - unit * supply / preciseUnit)) * preciseUnit) ∧ 0 < supply ∧
        (post - (pre - unit * supply / preciseUnit)) * preciseUnit / supply = n := by
  simp only [calculateDefaultEditPositionUnit, bind_eq_ok, PreciseUnitMath.preciseMul_eq_ok,
    SafeMath.sub_eq_ok, PreciseUnitMath.preciseDiv_eq_ok]
  constructor
  · rintro ⟨_, ⟨hfit, rfl⟩, _, ⟨hpre, rfl⟩, _, ⟨hpost, rfl⟩, hfit', hsupply, rfl⟩
    exact ⟨hfit, hpre, hpost, hfit', hsupply, rfl⟩
  · rintro ⟨hfit, hpre, hpost, hfit', hsupply, rfl⟩
    exact ⟨_, ⟨hfit, rfl⟩, _, ⟨hpre, rfl⟩, _, ⟨hpost, rfl⟩, hfit', hsupply, rfl⟩

/-- The Set with another list of components and another default unit of `c`. -/
def withDefaultPosition (s : SetToken) (c : Address) (components : List Address)
    (virtualUnit : ℤ) : SetToken :=
  ({ s with components := components } : SetToken).setDefaultVirtualUnit c virtualUnit

section WithDefaultPosition

variable {d q : Address} {l : List Address} {v : ℤ}

@[simp] theorem components_withDefaultPosition :
    (withDefaultPosition s c l v).components = l := rfl

@[simp] theorem positionMultiplier_withDefaultPosition :
    (withDefaultPosition s c l v).positionMultiplier = s.positionMultiplier := rfl

@[simp] theorem moduleStates_withDefaultPosition :
    (withDefaultPosition s c l v).moduleStates = s.moduleStates := rfl

@[simp] theorem defaultPositionVirtualUnit_withDefaultPosition :
    (withDefaultPosition s c l v).defaultPositionVirtualUnit d =
      if d = c then v else s.defaultPositionVirtualUnit d := by
  rw [withDefaultPosition, SetToken.defaultPositionVirtualUnit_setDefaultVirtualUnit]
  rfl

@[simp] theorem externalPositionModules_withDefaultPosition :
    (withDefaultPosition s c l v).externalPositionModules d = s.externalPositionModules d := by
  rw [withDefaultPosition, SetToken.externalPositionModules_setDefaultVirtualUnit]
  rfl

@[simp] theorem externalPositionVirtualUnit_withDefaultPosition :
    (withDefaultPosition s c l v).externalPositionVirtualUnit d q =
      s.externalPositionVirtualUnit d q := by
  rw [withDefaultPosition, SetToken.externalPositionVirtualUnit_setDefaultVirtualUnit]
  rfl

@[simp] theorem externalPositionData_withDefaultPosition :
    (withDefaultPosition s c l v).externalPositionData d q = s.externalPositionData d q := by
  rw [withDefaultPosition, SetToken.externalPositionData_setDefaultVirtualUnit]
  rfl

end WithDefaultPosition

/-- What `editDefaultPosition` can do to the list of components: leave it, append the component,
or remove it. It decides by the real unit and only where there is no external position. -/
inductive ListEdit (s : SetToken) (c : Address) (newUnit : ℕ) : List Address → Prop
  | keep (h : s.externalPositionModules c = [] → (0 < s.defaultRealUnit c ↔ 0 < newUnit)) :
    ListEdit s c newUnit s.components
  | append (external : s.externalPositionModules c = []) (found : ¬0 < s.defaultRealUnit c)
    (opened : 0 < newUnit) (new : c ∉ s.components) :
    ListEdit s c newUnit (s.components ++ [c])
  | remove (external : s.externalPositionModules c = []) (found : 0 < s.defaultRealUnit c)
    (closed : newUnit = 0) (old : c ∈ s.components) :
    ListEdit s c newUnit (SwapPop.swapPop s.components (s.components.idxOf c))

namespace ListEdit

variable {newUnit : ℕ} {l : List Address} {d : Address}

/-- An edit of the list keeps it free of duplicates. -/
theorem nodup (h : ListEdit s c newUnit l) (hs : s.components.Nodup) : l.Nodup := by
  cases h with
  | keep => exact hs
  | append _ _ _ new => exact List.concat_eq_append ▸ hs.concat new
  | remove _ _ _ old => exact SwapPop.nodup_swapPop hs old

/-- Components other than the edited one stay listed, or not listed. -/
theorem mem_of_ne (h : ListEdit s c newUnit l) (hs : s.components.Nodup) (hd : d ≠ c) :
    d ∈ l ↔ d ∈ s.components := by
  cases h with
  | keep => rfl
  | append => simp [hd]
  | remove _ _ _ old => simp [SwapPop.mem_swapPop hs old, hd]

end ListEdit

/-- All that `editDefaultPosition` can do under a positive multiplier: it edits the list of
components and writes the virtual unit, which is zero for the unit zero only. -/
theorem editDefaultPosition_cases (hm : 0 < s.positionMultiplier) {newUnit : ℕ}
    (h : editDefaultPosition m s c newUnit = .ok s') :
    SetToken.Authorised m s ∧ ∃ l v, ListEdit s c newUnit l ∧
      v = (newUnit : ℤ) * preciseUnitInt / s.positionMultiplier ∧ (v = 0 ↔ newUnit = 0) ∧
      s' = withDefaultPosition s c l v := by
  simp only [editDefaultPosition, bind_eq_ok, hasDefaultPosition_eq_ok,
    SafeCast.toInt256_eq_ok, SetToken.editDefaultPositionUnit_eq_ok] at h
  obtain ⟨_, ⟨-, rfl⟩, s₁, hs₁, _, ⟨-, rfl⟩, hauth₁, v, hv, rfl⟩ := h
  have hedit : SetToken.Authorised m s ∧ ∃ l, ListEdit s c newUnit l ∧
      s₁ = { s with components := l } := by
    simp only [decide_eq_false_iff_not, decide_eq_true_eq, hasExternalPosition_eq_false] at hs₁
    split_ifs at hs₁ with hopen hext hclose hext
    · obtain ⟨hauth, hnew, rfl⟩ := SetToken.addComponent_eq_ok.mp hs₁
      exact ⟨hauth, _, .append hext hopen.1 hopen.2 hnew, rfl⟩
    · obtain rfl : s = s₁ := by simpa using hs₁
      exact ⟨hauth₁, _, .keep fun h => absurd h hext, rfl⟩
    · obtain ⟨hauth, hold, rfl⟩ := SetToken.removeComponent_eq_ok.mp hs₁
      exact ⟨hauth, _, .remove hext hclose.1 hclose.2 hold, rfl⟩
    · obtain rfl : s = s₁ := by simpa using hs₁
      exact ⟨hauth₁, _, .keep fun h => absurd h hext, rfl⟩
    · obtain rfl : s = s₁ := by simpa using hs₁
      exact ⟨hauth₁, _, .keep fun _ => by omega, rfl⟩
  obtain ⟨hauth, l, hl, rfl⟩ := hedit
  obtain ⟨-, rfl, hround⟩ := (SetToken.convertRealToVirtualUnit_eq_ok hm).mp hv
  refine ⟨hauth, l, _, hl, rfl, ⟨fun h0 => ?_, ?_⟩, rfl⟩
  · have : ¬0 < (newUnit : ℤ) := fun hpos => hround ⟨hpos, h0⟩
    omega
  · rintro rfl
    simp

/-- An open default position that stays open is rewritten, and the list of components stays. -/
theorem editDefaultPosition_of_open {newUnit : ℕ} {v : ℤ} (hauth : SetToken.Authorised m s)
    (hread : InInt256 (s.defaultPositionVirtualUnit c * s.positionMultiplier))
    (hopen : 0 < s.defaultRealUnit c) (hnew : 0 < newUnit) (hcast : newUnit < 2 ^ 255)
    (hv : s.convertRealToVirtualUnit newUnit = .ok v) :
    editDefaultPosition m s c newUnit = .ok (s.setDefaultVirtualUnit c v) := by
  simp only [editDefaultPosition, bind_eq_ok, hasDefaultPosition_eq_ok, SafeCast.toInt256_eq_ok,
    SetToken.editDefaultPositionUnit_eq_ok]
  refine ⟨true, ⟨hread, decide_eq_true hopen⟩, s, ?_, newUnit, ⟨hcast, rfl⟩, hauth, v, hv, rfl⟩
  simp [hnew.ne']

/-- The product that a default edit divides by the multiplier fits. -/
theorem inInt256_of_editDefaultPosition {newUnit : ℕ}
    (h : editDefaultPosition m s c newUnit = .ok s') :
    InInt256 ((newUnit : ℤ) * preciseUnitInt) := by
  simp only [editDefaultPosition, bind_eq_ok, SafeCast.toInt256_eq_ok,
    SetToken.editDefaultPositionUnit_eq_ok, SetToken.convertRealToVirtualUnit,
    PreciseUnitMath.conservativePreciseDiv, SignedSafeMath.mul_eq_ok] at h
  obtain ⟨_, -, _, -, _, ⟨-, rfl⟩, -, _, ⟨_, ⟨_, ⟨hfit, -⟩, -⟩, -⟩, -⟩ := h
  exact hfit

/-- A default edit keeps the multiplier. -/
theorem positionMultiplier_of_editDefaultPosition (hm : 0 < s.positionMultiplier) {newUnit : ℕ}
    (h : editDefaultPosition m s c newUnit = .ok s') :
    s'.positionMultiplier = s.positionMultiplier := by
  obtain ⟨-, l, v, -, -, -, rfl⟩ := editDefaultPosition_cases hm h
  rfl

/-- The Set with another list of components, other position modules of `c`, and another external
position of `c` in `module`. -/
def withExternalPosition (s : SetToken) (c module : Address) (components modules : List Address)
    (position : ExternalPosition) : SetToken :=
  (({ s with components := components } : SetToken).setExternalPositionModules c
    modules).updateExternalPosition c module fun _ => position

section WithExternalPosition

variable {d q : Address} {l ms : List Address} {p : ExternalPosition}

@[simp] theorem components_withExternalPosition :
    (withExternalPosition s c module l ms p).components = l := rfl

@[simp] theorem positionMultiplier_withExternalPosition :
    (withExternalPosition s c module l ms p).positionMultiplier = s.positionMultiplier := rfl

@[simp] theorem moduleStates_withExternalPosition :
    (withExternalPosition s c module l ms p).moduleStates = s.moduleStates := rfl

@[simp] theorem defaultPositionVirtualUnit_withExternalPosition :
    (withExternalPosition s c module l ms p).defaultPositionVirtualUnit d =
      s.defaultPositionVirtualUnit d := by
  rw [withExternalPosition, SetToken.defaultPositionVirtualUnit_updateExternalPosition,
    SetToken.defaultPositionVirtualUnit_setExternalPositionModules]
  rfl

@[simp] theorem externalPositionModules_withExternalPosition :
    (withExternalPosition s c module l ms p).externalPositionModules d =
      if d = c then ms else s.externalPositionModules d := by
  rw [withExternalPosition, SetToken.externalPositionModules_updateExternalPosition,
    SetToken.externalPositionModules_setExternalPositionModules]
  rfl

@[simp] theorem externalPositionVirtualUnit_withExternalPosition :
    (withExternalPosition s c module l ms p).externalPositionVirtualUnit d q =
      if d = c ∧ q = module then p.virtualUnit else s.externalPositionVirtualUnit d q := by
  rw [withExternalPosition, SetToken.externalPositionVirtualUnit_updateExternalPosition,
    SetToken.externalPositionVirtualUnit_setExternalPositionModules]
  rfl

@[simp] theorem externalPositionData_withExternalPosition :
    (withExternalPosition s c module l ms p).externalPositionData d q =
      if d = c ∧ q = module then p.data else s.externalPositionData d q := by
  rw [withExternalPosition, SetToken.externalPositionData_updateExternalPosition,
    SetToken.externalPositionData_setExternalPositionModules]
  rfl

end WithExternalPosition

/-- What `editExternalPosition` can do. -/
inductive ExternalEdit (s : SetToken) (c module : Address) (newUnit : ℤ) (data : Bytes) :
    SetToken → Prop
  /-- A new unit lists the component and the module where they are missing. A component that is
  not listed must not list the module. -/
  | opened (nonzero : newUnit ≠ 0) (l ms : List Address) (v : ℤ)
    (listed : c ∈ s.components ∧ l = s.components ∨
      c ∉ s.components ∧ l = s.components ++ [c] ∧ module ∉ s.externalPositionModules c)
    (owned : module ∈ s.externalPositionModules c ∧ ms = s.externalPositionModules c ∨
      module ∉ s.externalPositionModules c ∧ ms = s.externalPositionModules c ++ [module])
    (rounded : v = newUnit * preciseUnitInt / s.positionMultiplier) (kept : v ≠ 0) :
    ExternalEdit s c module newUnit data (withExternalPosition s c module l ms ⟨v, data⟩)
  /-- The unit zero removes the module, and the component if its default unit reads zero and the
  module is the only one. -/
  | closed (zero : newUnit = 0) (open_ : s.externalRealUnit c module ≠ 0) (l : List Address)
    (owned : module ∈ s.externalPositionModules c)
    (listed : ¬(s.defaultRealUnit c = 0 ∧ s.externalPositionModules c = [module]) ∧
        l = s.components ∨
      s.defaultRealUnit c = 0 ∧ s.externalPositionModules c = [module] ∧ c ∈ s.components ∧
        l = SwapPop.swapPop s.components (s.components.idxOf c)) :
    ExternalEdit s c module newUnit data
      (withExternalPosition s c module l
        (SwapPop.swapPop (s.externalPositionModules c)
          ((s.externalPositionModules c).idxOf module)) {})
  /-- The unit zero does nothing where the external unit reads zero. -/
  | absent (zero : newUnit = 0) (closed : s.externalRealUnit c module = 0) :
    ExternalEdit s c module newUnit data s

private theorem openExternalPosition_cases (hm : 0 < s.positionMultiplier) {newUnit : ℤ}
    (hn : newUnit ≠ 0) (h : openExternalPosition m s c module newUnit data = .ok s') :
    ExternalEdit s c module newUnit data s' := by
  simp only [openExternalPosition, bind_eq_ok, SetToken.editExternalPositionUnit_eq_ok,
    SetToken.editExternalPositionData_eq_ok, SetToken.isComponent_eq_false,
    SetToken.isExternalPositionModule_eq_false] at h
  obtain ⟨s₁, hs₁, _, ⟨-, v, hv, rfl⟩, -, rfl⟩ := h
  have hlist : ∃ l ms,
      (c ∈ s.components ∧ l = s.components ∨
        c ∉ s.components ∧ l = s.components ++ [c] ∧ module ∉ s.externalPositionModules c) ∧
      (module ∈ s.externalPositionModules c ∧ ms = s.externalPositionModules c ∨
        module ∉ s.externalPositionModules c ∧ ms = s.externalPositionModules c ++ [module]) ∧
      s₁ = ({ s with components := l } : SetToken).setExternalPositionModules c ms := by
    split_ifs at hs₁ with hc hmod
    · obtain rfl : s = s₁ := by simpa using hs₁
      exact ⟨_, _, .inl ⟨hc, rfl⟩, .inl ⟨hmod, rfl⟩,
        SetToken.setExternalPositionModules_self.symm⟩
    · obtain ⟨-, -, rfl⟩ := SetToken.addExternalPositionModule_eq_ok.mp hs₁
      exact ⟨_, _, .inl ⟨hc, rfl⟩, .inr ⟨hmod, rfl⟩, rfl⟩
    · simp only [bind_eq_ok, SetToken.addComponent_eq_ok,
        SetToken.addExternalPositionModule_eq_ok] at hs₁
      obtain ⟨_, ⟨-, -, rfl⟩, -, hnew, rfl⟩ := hs₁
      exact ⟨_, _, .inr ⟨hc, rfl, hnew⟩, .inr ⟨hnew, rfl⟩, rfl⟩
  obtain ⟨l, ms, hl, hms, rfl⟩ := hlist
  obtain ⟨-, rfl, hround⟩ := (SetToken.convertRealToVirtualUnit_eq_ok hm).mp hv
  rw [SetToken.updateExternalPosition_twice]
  refine .opened hn l ms _ hl hms rfl fun h0 => hround ⟨?_, h0⟩
  -- a negative unit rounds down, away from zero
  by_contra hle
  have hneg : newUnit * preciseUnitInt < 0 :=
    Int.mul_neg_of_neg_of_pos (by omega) preciseUnitInt_pos
  have := Int.ediv_neg_of_neg_of_pos hneg hm
  exact absurd h0 (ne_of_lt this)

private theorem closeExternalPosition_cases
    (h : closeExternalPosition m s c module data = .ok s') :
    ExternalEdit s c module 0 data s' := by
  simp only [closeExternalPosition, bind_eq_ok, require_eq_ok,
    SetToken.getExternalPositionRealUnit_eq_ok] at h
  obtain ⟨-, -, _, ⟨-, rfl⟩, h⟩ := h
  split_ifs at h with hopen
  · simp only [bind_eq_ok, SetToken.getDefaultPositionRealUnit_eq_ok,
      SetToken.removeExternalPositionModule_eq_ok] at h
    obtain ⟨_, ⟨-, rfl⟩, s₁, hs₁, -, howned, rfl⟩ := h
    split_ifs at hs₁ with hlast
    · simp only [bind_eq_ok, AddressArrayUtils.read_eq_ok, require_eq_ok,
        SetToken.removeComponent_eq_ok] at hs₁
      obtain ⟨only, hread, -, hmod, -, hold, rfl⟩ := hs₁
      have hsingle : s.externalPositionModules c = [module] := by
        obtain ⟨x, hx⟩ := List.length_eq_one_iff.mp hlast.2
        rw [hx] at hread ⊢
        rw [← hmod]
        simpa using hread
      exact .closed rfl hopen _ howned (.inr ⟨hlast.1, hsingle, hold, rfl⟩)
    · obtain rfl : s = s₁ := by simpa using hs₁
      have hkeep : ¬(s.defaultRealUnit c = 0 ∧ s.externalPositionModules c = [module]) :=
        fun hl => hlast ⟨hl.1, by rw [hl.2]; rfl⟩
      exact .closed rfl hopen _ howned (.inl ⟨hkeep, rfl⟩)
  · obtain rfl : s = s' := by simpa using h
    exact .absent rfl (not_not.mp hopen)

/-- All that `editExternalPosition` can do under a positive multiplier. -/
theorem editExternalPosition_cases (hm : 0 < s.positionMultiplier) {newUnit : ℤ}
    (h : editExternalPosition m s c module newUnit data = .ok s') :
    ExternalEdit s c module newUnit data s' := by
  unfold editExternalPosition at h
  split_ifs at h with hn
  · exact openExternalPosition_cases hm hn h
  · obtain rfl := not_not.mp hn
    exact closeExternalPosition_cases h

/-- An external edit keeps the multiplier. -/
theorem positionMultiplier_of_editExternalPosition (hm : 0 < s.positionMultiplier) {newUnit : ℤ}
    (h : editExternalPosition m s c module newUnit data = .ok s') :
    s'.positionMultiplier = s.positionMultiplier := by
  cases editExternalPosition_cases hm h <;> rfl

/-- After an external edit the unit reads as the virtual unit that stands for it does. -/
theorem externalRealUnit_eq_of_editExternalPosition (hm : 0 < s.positionMultiplier) {newUnit : ℤ}
    (h : editExternalPosition m s c module newUnit data = .ok s') :
    s'.externalRealUnit c module =
      s.realUnit (newUnit * preciseUnitInt / s.positionMultiplier) := by
  cases editExternalPosition_cases hm h with
  | opened _ l ms v _ _ rounded _ => simp [SetToken.externalRealUnit, SetToken.realUnit, rounded]
  | closed zero _ l _ _ => simp [SetToken.externalRealUnit, SetToken.realUnit, zero]
  | absent zero closed => rw [zero, closed, Int.zero_mul, Int.zero_ediv, SetToken.realUnit_zero]

/-- Under the multiplier one, what is written is read back. -/
theorem externalRealUnit_of_editExternalPosition (hm : s.positionMultiplier = preciseUnitInt)
    {newUnit : ℤ} (h : editExternalPosition m s c module newUnit data = .ok s') :
    s'.externalRealUnit c module = newUnit := by
  have hone : ∀ v, v * preciseUnitInt / preciseUnitInt = v :=
    fun v => Int.mul_ediv_cancel v preciseUnitInt_pos.ne'
  rw [externalRealUnit_eq_of_editExternalPosition (hm ▸ preciseUnitInt_pos) h, SetToken.realUnit,
    hm, hone, hone]

/-- An external edit keeps the external units of other components. -/
theorem externalRealUnit_of_editExternalPosition_of_ne (hm : 0 < s.positionMultiplier)
    {newUnit : ℤ} {d q : Address} (hd : d ≠ c)
    (h : editExternalPosition m s c module newUnit data = .ok s') :
    s'.externalRealUnit d q = s.externalRealUnit d q := by
  cases editExternalPosition_cases hm h <;>
    simp [SetToken.externalRealUnit, SetToken.realUnit, hd]

end Position

end SetProtocol
