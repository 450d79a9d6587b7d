import SetProtocol.Lib.Register
import SetProtocol.Modules.DebtIssuanceModule
import SetProtocol.SetTokens.Lifecycle

set_option relaxedAutoImplicit false
set_option autoImplicit false

/-!
# The hooks of the debt issuance module

Modules register with the issuance module of a Set to be called before issuance and redemption. The
module lists them, and keeps a flag for each. The flags are a mapping inside of the settings, which
neither the assignment of new settings in `initialize` nor their deletion in `removeModule` reaches.

The flags are right all the same: the module can be removed only when no hook is listed, so that
between two lives of the module on a Set no flag is set.

## Main definitions

* `SetProtocol.IssuanceHooks.Action` — a call of the module, or what happens elsewhere.
* `SetProtocol.IssuanceHooks.Kept` — the invariant of one Set.

## Main results

* `SetProtocol.IssuanceHooks.initializeModule_spec`, `registerToIssuanceModule_spec`,
  `unregisterFromIssuanceModule_spec`, `updateFee_spec`, `updateFeeRecipient_spec`,
  `removeModule_spec` — what the calls write.
* `SetProtocol.IssuanceHooks.hooksListed_of_run` — the invariant of all runs.
-/

namespace SetProtocol

open Checked Transition Register

namespace IssuanceHooks

open DebtIssuanceModule

/-! ## Calls of the module -/

/-- A call that configures the module, or anything that happens elsewhere. -/
inductive Action
  | initializeModule (msgSender setToken : Address)
      (maxManagerFee managerIssueFee managerRedeemFee : ℕ)
      (feeRecipient managerIssuanceHook : Address)
  | registerToIssuanceModule (msgSender setToken : Address)
  | unregisterFromIssuanceModule (msgSender setToken : Address)
  | updateIssueFee (msgSender setToken : Address) (newIssueFee : ℕ)
  | updateRedeemFee (msgSender setToken : Address) (newRedeemFee : ℕ)
  | updateFeeRecipient (msgSender setToken newFeeRecipient : Address)
  /-- The manager removes the module from a Set, which calls the module. -/
  | removeModule (msgSender setToken : Address)
  /-- Any contract calls `removeModule` of the module. -/
  | callRemoveModule (msgSender : Address)
  /-- Everything but the module changes to what it is in another world. -/
  | elsewhere (w' : World)

/-- The world `w'`, with the storage of the module as in `w` and initialized on the same Sets. -/
def elsewhere (issuance : Address) (w w' : World) : World :=
  { w' with
    issuanceSettings := w.issuanceSettings
    setTokens := fun a => SetToken.keepInitialized issuance (w.setTokens a) (w'.setTokens a) }

/-- The effect of an action, for the module at the address `issuance`. -/
def step (issuance : Address) : Action → World → Except Revert World
  | .initializeModule msgSender setToken maxManagerFee managerIssueFee managerRedeemFee
      feeRecipient managerIssuanceHook, w =>
    DebtIssuanceModule.initializeModule issuance w msgSender setToken maxManagerFee managerIssueFee
      managerRedeemFee feeRecipient managerIssuanceHook
  | .registerToIssuanceModule msgSender setToken, w =>
    DebtIssuanceModule.registerToIssuanceModule issuance w msgSender setToken
  | .unregisterFromIssuanceModule msgSender setToken, w =>
    DebtIssuanceModule.unregisterFromIssuanceModule issuance w msgSender setToken
  | .updateIssueFee msgSender setToken newIssueFee, w =>
    DebtIssuanceModule.updateIssueFee issuance w msgSender setToken newIssueFee
  | .updateRedeemFee msgSender setToken newRedeemFee, w =>
    DebtIssuanceModule.updateRedeemFee issuance w msgSender setToken newRedeemFee
  | .updateFeeRecipient msgSender setToken newFeeRecipient, w =>
    DebtIssuanceModule.updateFeeRecipient issuance w msgSender setToken newFeeRecipient
  | .removeModule msgSender setToken, w =>
    w.removeModule msgSender setToken issuance fun w => DebtIssuanceModule.removeModule w setToken
  | .callRemoveModule msgSender, w => DebtIssuanceModule.removeModule w msgSender
  | .elsewhere w', w => .ok (elsewhere issuance w w')

/-! ## What the calls write -/

variable {issuance msgSender setToken x : Address} {w w' : World}

/-- `initialize` writes settings without hooks, and keeps the flags. -/
theorem initializeModule_spec {maxManagerFee managerIssueFee managerRedeemFee : ℕ}
    {feeRecipient managerIssuanceHook : Address}
    (h : DebtIssuanceModule.initializeModule issuance w msgSender setToken maxManagerFee
      managerIssueFee managerRedeemFee feeRecipient managerIssuanceHook = .ok w') :
    (w.setTokens setToken).moduleStates issuance = .pending ∧ ∃ s,
      s.moduleStates issuance = .initialized ∧
      w' = (DebtIssuanceModule.setSettings w setToken
        { w.issuanceSettings setToken with
          maxManagerFee := maxManagerFee
          managerIssueFee := managerIssueFee
          managerRedeemFee := managerRedeemFee
          feeRecipient := feeRecipient
          managerIssuanceHook := managerIssuanceHook
          moduleIssuanceHooks := [] }).setSetToken setToken s := by
  simp only [DebtIssuanceModule.initializeModule, bind_eq_ok] at h
  obtain ⟨-, -, -, -, -, -, -, -, hinit⟩ := h
  obtain ⟨hpending, s, rfl, hs⟩ := World.initializeModule_spec hinit
  exact ⟨hpending, s, hs, rfl⟩

/-- A module registers once, and is listed last. -/
theorem registerToIssuanceModule_spec
    (h : DebtIssuanceModule.registerToIssuanceModule issuance w msgSender setToken = .ok w') :
    (w.setTokens setToken).moduleStates issuance = .initialized ∧
      (w.issuanceSettings setToken).isModuleHook msgSender = false ∧
      w' = DebtIssuanceModule.setSettings w setToken
        { w.issuanceSettings setToken with
          moduleIssuanceHooks := (w.issuanceSettings setToken).moduleIssuanceHooks ++ [msgSender]
          isModuleHook :=
            Function.update (w.issuanceSettings setToken).isModuleHook msgSender true } := by
  simp only [DebtIssuanceModule.registerToIssuanceModule, bind_eq_ok, require_eq_ok,
    pure_eq_ok] at h
  obtain ⟨-, -, _, hvalid, -, hnew, rfl⟩ := h
  exact ⟨ModuleBase.initialized_of_onlyValidAndInitializedSet hvalid, hnew, rfl⟩

/-- A listed module unregisters, and leaves the list by swap and pop. -/
theorem unregisterFromIssuanceModule_spec
    (h : DebtIssuanceModule.unregisterFromIssuanceModule issuance w msgSender setToken = .ok w') :
    (w.setTokens setToken).moduleStates issuance = .initialized ∧
      msgSender ∈ (w.issuanceSettings setToken).moduleIssuanceHooks ∧
      w' = DebtIssuanceModule.setSettings w setToken
        { w.issuanceSettings setToken with
          moduleIssuanceHooks := SwapPop.swapPop (w.issuanceSettings setToken).moduleIssuanceHooks
            ((w.issuanceSettings setToken).moduleIssuanceHooks.idxOf msgSender)
          isModuleHook :=
            Function.update (w.issuanceSettings setToken).isModuleHook msgSender false } := by
  simp only [DebtIssuanceModule.unregisterFromIssuanceModule, bind_eq_ok, require_eq_ok,
    pure_eq_ok, AddressArrayUtils.removeStorage_eq_ok] at h
  obtain ⟨-, -, _, hvalid, -, -, _, ⟨hmem, rfl⟩, rfl⟩ := h
  exact ⟨ModuleBase.initialized_of_onlyValidAndInitializedSet hvalid, hmem, rfl⟩

/-- The update of a fee writes the fee. -/
theorem updateFee_spec {fee : IssuanceSettings → ℕ}
    {setFee : IssuanceSettings → ℕ → IssuanceSettings} {exceeds same : Revert} {newFee : ℕ}
    (h : updateFee issuance w msgSender setToken fee setFee exceeds same newFee = .ok w') :
    (w.setTokens setToken).moduleStates issuance = .initialized ∧
      w' = DebtIssuanceModule.setSettings w setToken
        (setFee (w.issuanceSettings setToken) newFee) := by
  simp only [updateFee, bind_eq_ok, pure_eq_ok] at h
  obtain ⟨_, hmanager, -, -, -, -, rfl⟩ := h
  exact ⟨ModuleBase.initialized_of_onlyManagerAndValidSet hmanager, rfl⟩

theorem updateIssueFee_spec {newIssueFee : ℕ}
    (h : DebtIssuanceModule.updateIssueFee issuance w msgSender setToken newIssueFee = .ok w') :
    (w.setTokens setToken).moduleStates issuance = .initialized ∧
      w' = DebtIssuanceModule.setSettings w setToken
        { w.issuanceSettings setToken with managerIssueFee := newIssueFee } :=
  updateFee_spec h

theorem updateRedeemFee_spec {newRedeemFee : ℕ}
    (h : DebtIssuanceModule.updateRedeemFee issuance w msgSender setToken newRedeemFee = .ok w') :
    (w.setTokens setToken).moduleStates issuance = .initialized ∧
      w' = DebtIssuanceModule.setSettings w setToken
        { w.issuanceSettings setToken with managerRedeemFee := newRedeemFee } :=
  updateFee_spec h

/-- The new recipient of the fees is not the zero address. -/
theorem updateFeeRecipient_spec {newFeeRecipient : Address}
    (h : DebtIssuanceModule.updateFeeRecipient issuance w msgSender setToken newFeeRecipient =
      .ok w') :
    (w.setTokens setToken).moduleStates issuance = .initialized ∧
      newFeeRecipient ≠ zeroAddress ∧
      w' = DebtIssuanceModule.setSettings w setToken
        { w.issuanceSettings setToken with feeRecipient := newFeeRecipient } := by
  simp only [DebtIssuanceModule.updateFeeRecipient, bind_eq_ok, require_eq_ok, pure_eq_ok] at h
  obtain ⟨_, hmanager, -, hnew, -, -, rfl⟩ := h
  exact ⟨ModuleBase.initialized_of_onlyManagerAndValidSet hmanager, hnew, rfl⟩

/-- The module is removed when there are no hooks. Nothing but the flags is kept. -/
theorem removeModule_spec (h : DebtIssuanceModule.removeModule w setToken = .ok w') :
    (w.issuanceSettings setToken).moduleIssuanceHooks = [] ∧
      w' = DebtIssuanceModule.setSettings w setToken
        { isModuleHook := (w.issuanceSettings setToken).isModuleHook } := by
  simp only [DebtIssuanceModule.removeModule, bind_eq_ok, require_eq_ok, pure_eq_ok,
    List.length_eq_zero_iff] at h
  obtain ⟨-, hnil, rfl⟩ := h
  exact ⟨hnil, rfl⟩

/-! ## The invariant -/

/-- The hooks of a Set: the list is in step with the flags, and empty where the module is not
initialized. -/
structure Kept (issuance : Address) (w : World) (setToken : Address) : Prop where
  /-- The registered modules are listed, each once. -/
  hooks : Lists (w.issuanceSettings setToken).moduleIssuanceHooks
    fun a => (w.issuanceSettings setToken).isModuleHook a = true
  /-- No module is registered on a Set without the issuance module. -/
  empty : (w.setTokens setToken).moduleStates issuance ≠ .initialized →
    (w.issuanceSettings setToken).moduleIssuanceHooks = []

/-- What is kept of a Set depends on its settings and on the state of the module on it. -/
theorem Kept.of_same (h : Kept issuance w x) (hs : w'.issuanceSettings x = w.issuanceSettings x)
    (hi : (w'.setTokens x).moduleStates issuance = .initialized ↔
      (w.setTokens x).moduleStates issuance = .initialized) : Kept issuance w' x := by
  refine ⟨?_, fun h' => ?_⟩
  · rw [hs]
    exact h.hooks
  · rw [hs]
    exact h.empty fun hw => h' (hi.mpr hw)

/-- Hooks and flags that are in step may be written for a Set with the module. -/
theorem Kept.setSettings (hw : ∀ x, Kept issuance w x)
    (hinit : (w.setTokens setToken).moduleStates issuance = .initialized)
    {settings : IssuanceSettings}
    (h : Lists settings.moduleIssuanceHooks fun a => settings.isModuleHook a = true) :
    ∀ x, Kept issuance (DebtIssuanceModule.setSettings w setToken settings) x := by
  intro x
  rcases eq_or_ne x setToken with rfl | hx
  · refine ⟨?_, fun h' => absurd hinit h'⟩
    simpa only [DebtIssuanceModule.setSettings, Function.update_self] using h
  · exact (hw x).of_same (Function.update_of_ne hx _ _) Iff.rfl

/-- Without hooks no flag is set. -/
theorem Kept.lists_nil (h : Kept issuance w x)
    (hnil : (w.issuanceSettings x).moduleIssuanceHooks = []) :
    Lists [] fun a => (w.issuanceSettings x).isModuleHook a = true :=
  hnil ▸ h.hooks

/-! ## Initialization and removal -/

/-- `initialize` writes an empty list, where no flag is set. -/
theorem Kept.initializeModule {maxManagerFee managerIssueFee managerRedeemFee : ℕ}
    {feeRecipient managerIssuanceHook : Address} (hw : ∀ x, Kept issuance w x)
    (h : DebtIssuanceModule.initializeModule issuance w msgSender setToken maxManagerFee
      managerIssueFee managerRedeemFee feeRecipient managerIssuanceHook = .ok w') :
    ∀ x, Kept issuance w' x := by
  obtain ⟨hpending, s, hs, rfl⟩ := initializeModule_spec h
  have hstate : (w.setTokens setToken).moduleStates issuance ≠ .initialized := by
    have hpending' : (w.setTokens setToken).moduleStates issuance = .pending := hpending
    rw [hpending']
    decide
  have hlists := (hw setToken).lists_nil ((hw setToken).empty hstate)
  intro x
  rcases eq_or_ne x setToken with rfl | hx
  · refine ⟨?_, fun h => absurd ?_ h⟩
    · simpa only [World.setSetToken, DebtIssuanceModule.setSettings, Function.update_self]
        using hlists
    · rw [World.setTokens_setSetToken, hs]
  · refine (hw x).of_same (Function.update_of_ne hx _ _) ?_
    simp only [World.setSetToken, Function.update_of_ne hx]
    rfl

/-- `removeModule` keeps the flags, none of which is set. -/
theorem Kept.callRemoveModule (hw : ∀ x, Kept issuance w x)
    (h : DebtIssuanceModule.removeModule w setToken = .ok w') : ∀ x, Kept issuance w' x := by
  obtain ⟨hnil, rfl⟩ := removeModule_spec h
  have hlists := (hw setToken).lists_nil hnil
  intro x
  rcases eq_or_ne x setToken with rfl | hx
  · refine ⟨?_, fun _ => ?_⟩
    · simpa only [DebtIssuanceModule.setSettings, Function.update_self] using hlists
    · simp only [DebtIssuanceModule.setSettings, Function.update_self]
  · exact (hw x).of_same (Function.update_of_ne hx _ _) Iff.rfl

/-- The manager removes the module from a Set. -/
theorem Kept.removeModule (hw : ∀ x, Kept issuance w x)
    (h : w.removeModule msgSender setToken issuance
      (fun w => DebtIssuanceModule.removeModule w setToken) = .ok w') :
    ∀ x, Kept issuance w' x := by
  obtain ⟨-, w₁, s, hcall, rfl, -⟩ := World.removeModule_spec h
  have hw₁ := Kept.callRemoveModule hw hcall
  obtain ⟨-, rfl⟩ := removeModule_spec hcall
  intro x
  rcases eq_or_ne x setToken with rfl | hx
  · refine ⟨(hw₁ x).hooks, fun _ => ?_⟩
    simp only [World.setSetToken, DebtIssuanceModule.setSettings, Function.update_self]
  · refine (hw₁ x).of_same rfl ?_
    simp only [World.setSetToken, Function.update_of_ne hx]

/-! ## Runs -/

/-- Every action keeps the hooks of every Set. -/
theorem Kept.step {a : Action} (hw : ∀ x, Kept issuance w x)
    (h : IssuanceHooks.step issuance a w = .ok w') : ∀ x, Kept issuance w' x := by
  cases a with
  | initializeModule => exact Kept.initializeModule hw h
  | registerToIssuanceModule msgSender setToken =>
    obtain ⟨hinit, hnew, rfl⟩ := registerToIssuanceModule_spec h
    refine Kept.setSettings hw hinit ((hw setToken).hooks.set ?_)
    rw [hnew]
    decide
  | unregisterFromIssuanceModule msgSender setToken =>
    obtain ⟨hinit, hmem, rfl⟩ := unregisterFromIssuanceModule_spec h
    exact Kept.setSettings hw hinit ((hw setToken).hooks.clear_swapPop (by decide) hmem)
  | updateIssueFee msgSender setToken newIssueFee =>
    obtain ⟨hinit, rfl⟩ := updateIssueFee_spec h
    exact Kept.setSettings hw hinit (hw setToken).hooks
  | updateRedeemFee msgSender setToken newRedeemFee =>
    obtain ⟨hinit, rfl⟩ := updateRedeemFee_spec h
    exact Kept.setSettings hw hinit (hw setToken).hooks
  | updateFeeRecipient msgSender setToken newFeeRecipient =>
    obtain ⟨hinit, -, rfl⟩ := updateFeeRecipient_spec h
    exact Kept.setSettings hw hinit (hw setToken).hooks
  | removeModule msgSender setToken => exact Kept.removeModule hw h
  | callRemoveModule msgSender => exact Kept.callRemoveModule hw h
  | elsewhere w' =>
    obtain rfl := Except.ok.inj h
    intro x
    exact (hw x).of_same rfl SetToken.keepInitialized_iff

/-- No Set uses the module yet. -/
structure Fresh (w : World) : Prop where
  /-- There are no settings. -/
  settings : ∀ setToken, w.issuanceSettings setToken = {}

/-- **The registered modules**: from a state in which no Set uses the issuance module, after any
calls that initialize it on Sets and remove it, again and again, and by which modules register and
unregister, with anything happening elsewhere in between, for each Set the list of hooks has no
duplicates and holds exactly the modules with a flag. -/
theorem hooksListed_of_run (fresh : Fresh w) (reached : Reach (step issuance) w w')
    (setToken : Address) :
    (w'.issuanceSettings setToken).moduleIssuanceHooks.Nodup ∧
      ∀ a, a ∈ (w'.issuanceSettings setToken).moduleIssuanceHooks ↔
        (w'.issuanceSettings setToken).isModuleHook a = true := by
  have hstart : ∀ x, Kept issuance w x := by
    intro x
    refine ⟨?_, fun _ => ?_⟩
    · rw [fresh.settings]
      refine Lists.nil fun a => ?_
      exact Bool.false_ne_true
    · rw [fresh.settings]
  have hkept := reached.invariant (fun w => ∀ x, Kept issuance w x)
    (fun a w w' hw _ h => Kept.step hw h) hstart setToken
  exact ⟨hkept.hooks.nodup, hkept.hooks.mem_iff⟩

/-! ## Example -/

/-- The Set `100` with the manager `3`, on which the issuance module `7` is pending, and the modules
`8` and `9` are initialized. -/
def exampleWorld : World :=
  { controller := { isSet := fun a => a = 100, isModule := fun a => a = 7 ∨ a = 8 ∨ a = 9 }
    setTokens := fun _ =>
      { manager := 3
        moduleStates := fun a =>
          if a = 7 then .pending else if a = 8 ∨ a = 9 then .initialized else .none } }

/-- Two modules register and unregister, the issuance module is removed, added again by the manager
and initialized, and one of the modules registers once more. -/
theorem hooksListed_of_run_example :
    ∃ w, Reach (step 7) exampleWorld w ∧
      (w.issuanceSettings 100).moduleIssuanceHooks = [9] ∧
      (w.issuanceSettings 100).moduleIssuanceHooks.Nodup ∧
      ∀ a, a ∈ (w.issuanceSettings 100).moduleIssuanceHooks ↔
        (w.issuanceSettings 100).isModuleHook a = true := by
  obtain ⟨w, hrun, hhooks⟩ := exists_of_yields
    (x := runAll (step 7)
      [.initializeModule 3 100 5 1 1 6 0, .registerToIssuanceModule 8 100,
        .registerToIssuanceModule 9 100, .unregisterFromIssuanceModule 8 100,
        .unregisterFromIssuanceModule 9 100, .removeModule 3 100, .elsewhere exampleWorld,
        .initializeModule 3 100 5 1 1 6 0, .registerToIssuanceModule 9 100] exampleWorld)
    (p := fun w => (w.issuanceSettings 100).moduleIssuanceHooks = [9]) (by decide +kernel)
  have hreached := reach_of_runAll hrun
  exact ⟨w, hreached, of_decide_eq_true hhooks,
    hooksListed_of_run ⟨fun _ => rfl⟩ hreached 100⟩

end IssuanceHooks

end SetProtocol
