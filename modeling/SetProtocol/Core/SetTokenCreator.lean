import SetProtocol.Core.SetToken

set_option relaxedAutoImplicit false
set_option autoImplicit false

/-!
# Creating a SetToken

`contracts/protocol/SetTokenCreator.sol` and the constructor it calls. The address of the new
contract is a parameter.

## Main definitions

* `SetProtocol.SetToken.new` — the constructor.
* `SetProtocol.SetTokenCreator.create` — the checks and the registration around it.

## Main results

* `SetProtocol.SetTokenCreator.create_spec` — a created Set has a positive default position in
  each of its components, and no other positions.
-/

namespace SetProtocol

open Checked

namespace SetToken

/-- The constructor: pending modules and default positions. -/
def new (components : List Address) (units : List ℤ) (modules : List Address)
    (manager : Address) : SetToken :=
  let s : SetToken :=
    { manager := manager
      positionMultiplier := preciseUnitInt
      components := components
      moduleStates := fun module => if modules.contains module then .pending else .none }
  (components.zip units).foldl (fun s (component, unit) => s.setDefaultVirtualUnit component unit) s

end SetToken

namespace SetTokenCreator

/-- `create`, by the factory contract at `factory`, of a Set at the address `setToken`. -/
def create (factory setToken : Address) (c : Controller) (components : List Address)
    (units : List ℤ) (modules : List Address) (manager : Address) :
    Except Revert (Controller × SetToken) := do
  require (0 < components.length) "Must have at least 1 component"
  require (components.length = units.length) "Component and unit lengths must be the same"
  let duplicate ← AddressArrayUtils.hasDuplicate components
  require (duplicate = false) "Components must not have a duplicate"
  require (0 < modules.length) "Must have at least 1 module"
  require (manager ≠ zeroAddress) "Manager must not be empty"
  (components.zip units).forM fun (component, unit) => do
    require (component ≠ zeroAddress) "Component must not be null address"
    require (0 < unit) "Units must be greater than 0"
  modules.forM fun module => require (c.isModule module = true) "Must be enabled module"
  let c ← c.addSet factory setToken
  return (c, SetToken.new components units modules manager)

/-- Writing default units leaves everything else and gives each component its unit. -/
private theorem foldl_setDefaultVirtualUnit (l : List (Address × ℤ)) (s : SetToken) :
    let s' := l.foldl (fun s (component, unit) => s.setDefaultVirtualUnit component unit) s
    s'.components = s.components ∧ s'.positionMultiplier = s.positionMultiplier ∧
      (∀ d, s'.externalPositionModules d = s.externalPositionModules d) ∧
      (∀ d p, s'.externalPositionVirtualUnit d p = s.externalPositionVirtualUnit d p) ∧
      ∀ d, (d ∉ l.map Prod.fst ∧ s'.defaultPositionVirtualUnit d = s.defaultPositionVirtualUnit d) ∨
        ∃ v, (d, v) ∈ l ∧ s'.defaultPositionVirtualUnit d = v := by
  induction l generalizing s with
  | nil => simp
  | cons a l ih =>
    obtain ⟨c, v⟩ := a
    obtain ⟨h₁, h₂, h₃, h₄, h₅⟩ := ih (s.setDefaultVirtualUnit c v)
    refine ⟨h₁, h₂, fun d => by rw [List.foldl_cons, h₃]; simp,
      fun d p => by rw [List.foldl_cons, h₄]; simp, fun d => ?_⟩
    rw [List.foldl_cons]
    rcases h₅ d with ⟨hd, hs⟩ | ⟨v', hv', hs⟩
    · rw [SetToken.defaultPositionVirtualUnit_setDefaultVirtualUnit] at hs
      by_cases hdc : d = c
      · subst hdc
        rw [if_pos rfl] at hs
        exact .inr ⟨v, List.mem_cons_self, hs⟩
      · rw [if_neg hdc] at hs
        exact .inl ⟨by simpa [hdc] using hd, hs⟩
    · exact .inr ⟨v', List.mem_cons_of_mem _ hv', hs⟩

/-- A created Set lists distinct components, has a positive default unit in each of them and in
nothing else, no external positions, and the multiplier one. -/
theorem create_spec {factory setToken manager : Address} {c c' : Controller}
    {components modules : List Address} {units : List ℤ} {s : SetToken}
    (h : create factory setToken c components units modules manager = .ok (c', s)) :
    s.components.Nodup ∧ s.positionMultiplier = preciseUnitInt ∧
      (∀ d, s.externalPositionModules d = []) ∧
      (∀ d p, s.externalPositionVirtualUnit d p = 0) ∧
      (∀ d ∈ s.components, 0 < s.defaultPositionVirtualUnit d) ∧
      ∀ d, d ∉ s.components → s.defaultPositionVirtualUnit d = 0 := by
  simp only [create, bind_eq_ok, require_eq_ok, pure_eq_ok, forM_eq_ok, Prod.mk.injEq,
    AddressArrayUtils.hasDuplicate_eq_ok] at h
  obtain ⟨-, -, -, hlen, dup, ⟨-, hdup⟩, -, hdup', -, -, -, -, -, hunits, -, -, _, -, rfl, rfl⟩ := h
  obtain ⟨h₁, h₂, h₃, h₄, h₅⟩ := foldl_setDefaultVirtualUnit (components.zip units)
    { manager := manager
      positionMultiplier := preciseUnitInt
      components := components
      moduleStates := fun module => if modules.contains module then .pending else .none }
  have hfst : (components.zip units).map Prod.fst = components :=
    List.map_fst_zip (Nat.le_of_eq hlen)
  rw [hfst] at h₅
  refine ⟨by rw [SetToken.new, h₁]; exact hdup.mp hdup', h₂, h₃, h₄, fun d hd => ?_, fun d hd => ?_⟩
  · rw [SetToken.new, h₁] at hd
    obtain ⟨hnot, -⟩ | ⟨v, hv, hs⟩ := h₅ d
    · exact absurd hd hnot
    · obtain ⟨-, -, hpos⟩ := hunits _ hv
      exact hs ▸ hpos
  · rw [SetToken.new, h₁] at hd
    obtain ⟨-, hs⟩ | ⟨v, hv, -⟩ := h₅ d
    · exact hs
    · exact absurd (List.of_mem_zip hv).1 hd

end SetTokenCreator

end SetProtocol
