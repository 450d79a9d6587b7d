import SetProtocol.Lib.Register
import SetProtocol.SetTokens.Session

set_option relaxedAutoImplicit false
set_option autoImplicit false

/-!
# The modules of a SetToken

A SetToken keeps its initialized modules as an array and, with the others, by their states. The
array grows in `initializeModule` and shrinks in `removeModule`, on the two sides of the call to the
removed module. That module may initialize others meanwhile, have itself removed in a call inside
the call, and be added and initialized again.

The two stay in step in every session: the rest of `removeModule` reverts when the module is not in
the array any more, and by the invariant it is there otherwise, once.

## Main definitions

* `SetProtocol.SetModules.Registered` — the array holds the initialized modules, each once.

## Main results

* `SetProtocol.SetModules.registered_of_run` — the invariant of all sessions.
-/

namespace SetProtocol

open Checked Transition Register

namespace SetModules

open Session

/-- The array holds the initialized modules, each of them once. -/
def Registered (s : SetToken) : Prop :=
  Lists s.modules fun module => s.moduleStates module = .initialized

/-- Functions for modules, the lock and the manager keep the array in step with the states. -/
theorem Registered.administered {m : Message} {s s' : SetToken} (hs : Registered s)
    (h : SetToken.Administered m s s') : Registered s' := by
  cases h with
  | locked => exact hs
  | unlocked => exact hs
  | added module _ state _ =>
    -- the module was not initialized, and is not yet
    refine hs.keep ?_ (by decide)
    rw [state]
    decide
  | removed module _ _ state =>
    refine hs.keep ?_ (by decide)
    rw [state]
    decide
  | initialized _ state =>
    refine hs.set ?_
    rw [state]
    decide
  | managed => exact hs

/-- Every function keeps the array in step with the states. -/
theorem Registered.run {m : Message} {c c' : SetContract} (hc : Registered c.storage)
    (h : SetContract.Ran m c c') : Registered c'.storage := by
  cases h with
  | privileged _ kept =>
    unfold Registered
    rw [kept.modules, kept.moduleStates]
    exact hc
  | token => exact hc
  | removing => exact hc
  | administered h => exact hc.administered h

/-- The rest of `removeModule` takes the module out of the array and its state away. -/
theorem Registered.dropModule {s s' : SetToken} {module : Address} (hs : Registered s)
    (h : s.dropModule module = .ok s') : Registered s' := by
  obtain ⟨hmem, rfl⟩ := SetToken.dropModule_eq_ok.mp h
  exact hs.clear_swapPop (by decide) hmem

/-- The rest of `removeModule` succeeds where the module is still initialized, and only there. -/
theorem Registered.dropModule_iff {s : SetToken} {module : Address} (hs : Registered s) :
    (∃ s', s.dropModule module = .ok s') ↔ s.moduleStates module = .initialized := by
  rw [← hs.mem_iff module]
  constructor
  · rintro ⟨s', h⟩
    exact (SetToken.dropModule_eq_ok.mp h).1
  · intro hmem
    exact ⟨_, SetToken.dropModule_eq_ok.mpr ⟨hmem, rfl⟩⟩

/-- A created Set has no initialized modules, and an empty array. -/
theorem registered_created (components : List Address) (units : List ℤ) (modules : List Address)
    (manager : Address) : (created components units modules manager).Everywhere Registered := by
  have hnew := SetToken.sameModules_new components units modules manager
  refine ⟨?_, fun frame hframe => absurd hframe List.not_mem_nil⟩
  show Lists (SetToken.new components units modules manager).modules _
  rw [hnew.modules]
  refine Lists.nil fun module => ?_
  rw [show (created components units modules manager).contract.storage.moduleStates = _ from
    hnew.moduleStates]
  dsimp only
  split <;> decide

/-- **Modules**: in every state that a session reaches from a created Set, with any calls from
inside the calls that wait, the array of modules has no duplicates and holds exactly the addresses
whose state is initialized. -/
theorem registered_of_run {components modules : List Address} {units : List ℤ} {manager : Address}
    {t : Session} (reached : Reach step (created components units modules manager) t) :
    t.contract.storage.modules.Nodup ∧ ∀ module,
      module ∈ t.contract.storage.modules ↔
        t.contract.storage.moduleStates module = .initialized := by
  have hall := everywhere_of_reach (P := Registered) (fun m c c' => Registered.run)
    (fun t module before frames s _ _ ht hdrop => ht.dropModule hdrop) reached
    (registered_created components units modules manager)
  exact ⟨hall.now.nodup, hall.now.mem_iff⟩

/-! ## Example -/

/-- The controller of the example has the modules `2` and `4`. -/
def exampleController : Controller := { isModule := fun a => a = 2 || a = 4 }

/-- The module `2` is removed. From inside the call to it, the manager removes it once more, adds it
again, and it initializes itself. The outer call drops this second life of the module. -/
theorem registered_of_run_example :
    ∃ t, Reach step (created [11] [preciseUnitInt] [2, 4] 3) t ∧
      t.contract.storage.modules = [4] ∧ t.contract.storage.modules.Nodup ∧ ∀ module,
        module ∈ t.contract.storage.modules ↔
          t.contract.storage.moduleStates module = .initialized := by
  obtain ⟨t, hrun, hmodules⟩ := exists_of_yields
    (x := runAll step
      [.call ⟨exampleController, 2⟩ .initializeModule,
        .call ⟨exampleController, 4⟩ .initializeModule,
        .call ⟨exampleController, 3⟩ (.removeModule 2),
        .call ⟨exampleController, 3⟩ (.removeModule 2),
        .finish, .call ⟨exampleController, 3⟩ (.addModule 2),
        .call ⟨exampleController, 2⟩ .initializeModule, .finish]
      (created [11] [preciseUnitInt] [2, 4] 3))
    (p := fun t => t.contract.storage.modules = [4]) (by decide +kernel)
  have hreached := reach_of_runAll hrun
  exact ⟨t, hreached, of_decide_eq_true hmodules, registered_of_run hreached⟩

end SetModules

end SetProtocol
