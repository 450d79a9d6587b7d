import SetProtocol.Core.ModuleBase
import SetProtocol.SetTokens.Session

set_option relaxedAutoImplicit false
set_option autoImplicit false

/-!
# The life of a module on a SetToken

A module becomes initialized on a Set when it calls `initializeModule` itself, and ceases to be when
the manager calls `removeModule` and the Set has called the module. Nothing else changes whether it
is initialized, so what a module keeps about a Set can rely on it between its own calls.

## Main definitions

* `SetProtocol.World.removeModule` — `SetToken.removeModule` around what the module does in it.
* `SetProtocol.SetToken.keepInitialized` — another storage, in which a module is initialized if it
  was before.

## Main results

* `SetProtocol.SetContract.Ran.initialized_iff` — calls by others do not change whether a module is
  initialized, and `SetProtocol.SetContract.Ran.keepInitialized` that they are changes of storage
  that keep it.
-/

namespace SetProtocol

open Checked

/-! ## What others can change -/

namespace SetContract

variable {m : Message} {c c' : SetContract} {module : Address}

/-- A function called by another account does not change whether a module is initialized. -/
theorem Ran.initialized_iff (h : Ran m c c') (other : m.sender ≠ module) :
    c'.storage.moduleStates module = .initialized ↔
      c.storage.moduleStates module = .initialized := by
  cases h with
  | privileged _ kept => rw [kept.moduleStates]
  | token => exact Iff.rfl
  | removing => exact Iff.rfl
  | administered h =>
    cases h with
    | locked => exact Iff.rfl
    | unlocked => exact Iff.rfl
    | added added _ state _ =>
      show Function.update c.storage.moduleStates added .pending module = _ ↔ _
      rcases eq_or_ne module added with rfl | hne
      · rw [Function.update_self, state]
        decide
      · rw [Function.update_of_ne hne]
    | removed removed _ _ state =>
      show Function.update c.storage.moduleStates removed .none module = _ ↔ _
      rcases eq_or_ne module removed with rfl | hne
      · rw [Function.update_self, state]
        decide
      · rw [Function.update_of_ne hne]
    | initialized =>
      show Function.update c.storage.moduleStates m.sender .initialized module = _ ↔ _
      rw [Function.update_of_ne other.symm]
    | managed => exact Iff.rfl

end SetContract

namespace SetToken

variable {s s' : SetToken} {module other : Address}

/-- Neither does the removal of another module. -/
theorem initialized_iff_of_dropModule (h : s.dropModule other = .ok s') (hother : module ≠ other) :
    s'.moduleStates module = .initialized ↔ s.moduleStates module = .initialized := by
  obtain ⟨-, rfl⟩ := dropModule_eq_ok.mp h
  show Function.update s.moduleStates other .none module = _ ↔ _
  rw [Function.update_of_ne hother]

/-- The storage `s'` with the module initialized if it is in `s`, and only then. -/
def keepInitialized (module : Address) (s s' : SetToken) : SetToken :=
  if s.moduleStates module = .initialized ∨ s'.moduleStates module = .initialized then
    s'.setModuleState module (s.moduleStates module)
  else s'

@[simp] theorem keepInitialized_iff :
    (keepInitialized module s s').moduleStates module = .initialized ↔
      s.moduleStates module = .initialized := by
  unfold keepInitialized setModuleState
  split
  · simp
  · rename_i h
    tauto

/-- A storage that agrees on it is not changed. -/
theorem keepInitialized_of_iff
    (h : s'.moduleStates module = .initialized ↔ s.moduleStates module = .initialized) :
    keepInitialized module s s' = s' := by
  unfold keepInitialized setModuleState
  split
  · rename_i hor
    have hs : s.moduleStates module = .initialized := by tauto
    have hupdate : Function.update s'.moduleStates module (s.moduleStates module) =
        s'.moduleStates := by
      rw [hs, ← h.mpr hs, Function.update_eq_self]
    rw [hupdate]
  · rfl

/-- The removal of another module is such a change. -/
theorem keepInitialized_of_dropModule (h : s.dropModule other = .ok s') (hother : module ≠ other) :
    keepInitialized module s s' = s' :=
  keepInitialized_of_iff (initialized_iff_of_dropModule h hother)

end SetToken

/-- So is every function called by another account. -/
theorem SetContract.Ran.keepInitialized {m : Message} {c c' : SetContract} {module : Address}
    (h : Ran m c c') (other : m.sender ≠ module) :
    SetToken.keepInitialized module c.storage c'.storage = c'.storage :=
  SetToken.keepInitialized_of_iff (h.initialized_iff other)

/-! ## Calls around a module -/

namespace World

variable {w w' : World} {sender setToken module a : Address}

/-- `SetToken.removeModule`, with what the module does when the Set calls it. -/
def removeModule (w : World) (sender setToken module : Address)
    (callback : World → Except Revert World) : Except Revert World := do
  SetToken.validateRemoveModule (w.message sender) (w.setTokens setToken) module
  let w ← callback w
  w.editSetToken sender setToken fun _ s => s.dropModule module

/-- A removal needs the module to be initialized, calls it, and leaves it not initialized. -/
theorem removeModule_spec {callback : World → Except Revert World}
    (h : w.removeModule sender setToken module callback = .ok w') :
    (w.setTokens setToken).moduleStates module = .initialized ∧ ∃ w₁ s,
      callback w = .ok w₁ ∧ w' = w₁.setSetToken setToken s ∧ s.moduleStates module = .none := by
  simp only [removeModule, bind_eq_ok, editSetToken_eq_ok] at h
  obtain ⟨_, hvalid, w₁, hcall, s, hdrop, rfl⟩ := h
  obtain ⟨-, -, hinitialized⟩ := SetToken.validateRemoveModule_eq_ok.mp hvalid
  obtain ⟨-, rfl⟩ := SetToken.dropModule_eq_ok.mp hdrop
  exact ⟨hinitialized, w₁, _, hcall, rfl, Function.update_self _ _ _⟩

/-- A module that initializes itself is pending before and initialized after. -/
theorem initializeModule_spec
    (h : w.editSetToken module setToken SetToken.initializeModule = .ok w') :
    (w.setTokens setToken).moduleStates module = .pending ∧ ∃ s,
      w' = w.setSetToken setToken s ∧ s.moduleStates module = .initialized := by
  obtain ⟨s, hs, rfl⟩ := editSetToken_eq_ok.mp h
  obtain ⟨-, hpending, rfl⟩ := SetToken.initializeModule_eq_ok.mp hs
  exact ⟨hpending, _, rfl, Function.update_self _ _ _⟩

end World

namespace ModuleBase

variable {w : World} {module setToken caller : Address} {u : Unit}

/-- The modifier for initialized Sets. -/
theorem initialized_of_onlyValidAndInitializedSet
    (h : onlyValidAndInitializedSet module w setToken = .ok u) :
    (w.setTokens setToken).moduleStates module = .initialized := by
  simp only [onlyValidAndInitializedSet, isSetValidAndInitialized, require_eq_ok,
    Bool.and_eq_true, SetToken.isInitializedModule, decide_eq_true_eq] at h
  exact h.2

/-- The modifier for the manager of an initialized Set. -/
theorem initialized_of_onlyManagerAndValidSet
    (h : onlyManagerAndValidSet module w setToken caller = .ok u) :
    (w.setTokens setToken).moduleStates module = .initialized := by
  simp only [onlyManagerAndValidSet, bind_eq_ok] at h
  obtain ⟨-, -, h⟩ := h
  exact initialized_of_onlyValidAndInitializedSet h

end ModuleBase

end SetProtocol
