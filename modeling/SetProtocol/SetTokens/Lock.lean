import SetProtocol.SetTokens.Session

set_option relaxedAutoImplicit false
set_option autoImplicit false

/-!
# The lock of a SetToken

A module locks a Set to use it over several transactions without the others. While the Set is locked
only the locker can use privileged functions, and neither the modules nor the manager change.

`removeModule` checks that the Set is not locked, then calls the module, and then drops it. A module
that locks the Set from inside this call is dropped while it holds the lock, and nobody can unlock.

## Main definitions

* `SetProtocol.SetLock.Isolated` — all that others can change while the Set is locked.
* `SetProtocol.SetLock.Held` — a lock is held by an initialized module.
* `SetProtocol.SetLock.Releases` — the condition under which `removeModule` goes on.

## Main results

* `SetProtocol.SetLock.isolated_of_calls` — calls by others while the Set is locked.
* `SetProtocol.SetLock.held_of_run` — a lock is held by an initialized module in every session that
  drops no module which holds it.
* `SetProtocol.SetLock.run_locks_for_ever` — a session that does.
-/

namespace SetProtocol

open Checked Transition

namespace SetLock

open Session

/-! ## Isolation -/

/-- What a locked Set keeps: everything but balances, allowances, and which modules are pending. -/
structure Isolated (t t' : Session) : Prop where
  /-- The storage is the same up to the states of modules, and the initialized modules are the
  same. -/
  storage : ∃ states, (∀ module,
      states module = .initialized ↔ t.contract.storage.moduleStates module = .initialized) ∧
    t'.contract.storage = { t.contract.storage with moduleStates := states }
  /-- The supply is the same. -/
  totalSupply : t'.contract.ledger.totalSupply = t.contract.ledger.totalSupply
  /-- No call was made by `invoke`. -/
  invoked : t'.contract.invoked = t.contract.invoked
  /-- The calls that wait are the same. -/
  frames : t'.frames = t.frames

theorem Isolated.refl (t : Session) : Isolated t t :=
  ⟨⟨_, fun _ => Iff.rfl, rfl⟩, rfl, rfl, rfl⟩

theorem Isolated.trans {t₁ t₂ t₃ : Session} (h : Isolated t₁ t₂) (h' : Isolated t₂ t₃) :
    Isolated t₁ t₃ := by
  obtain ⟨states, hstates, hstorage⟩ := h.storage
  obtain ⟨states', hstates', hstorage'⟩ := h'.storage
  refine ⟨⟨states', fun module => ?_, ?_⟩, h'.totalSupply.trans h.totalSupply,
    h'.invoked.trans h.invoked, h'.frames.trans h.frames⟩
  · rw [hstates', hstorage]
    exact hstates module
  · rw [hstorage', hstorage]

/-- While the Set is locked, functions for modules, the lock and the manager only add pending
modules, unless the locker calls them. -/
theorem administered_of_locked {m : Message} {s s' : SetToken} (locked : s.isLocked = true)
    (other : m.sender ≠ s.locker) (h : SetToken.Administered m s s') :
    ∃ module, s.moduleStates module = .none ∧ s' = s.setModuleState module .pending := by
  cases h with
  | locked _ unlocked => rw [locked] at unlocked; cases unlocked
  | unlocked _ locker => exact absurd locker.symm other
  | added module _ state _ => exact ⟨module, state, rfl⟩
  | removed _ _ unlocked _ => rw [locked] at unlocked; cases unlocked
  | initialized unlocked _ => rw [locked] at unlocked; cases unlocked
  | managed _ _ unlocked => rw [locked] at unlocked; cases unlocked

/-- A locked Set calls other contracts for its locker only. -/
theorem wait_eq_none {m : Message} {call : SetCall} {c c' : SetContract}
    (locked : c.storage.isLocked = true) (other : m.sender ≠ c.storage.locker)
    (h : c.run m call = .ok c') : call.wait = none := by
  cases call with
  | invoke target value data =>
    simp only [SetContract.run, bind_eq_ok, SetToken.privileged_eq_ok] at h
    obtain ⟨-, authorised, -⟩ := h
    exact absurd (authorised.locker locked) other
  | removeModule module =>
    simp only [SetContract.run, bind_eq_ok, SetToken.validateRemoveModule_eq_ok] at h
    obtain ⟨-, ⟨-, unlocked, -⟩, -⟩ := h
    rw [locked] at unlocked
    cases unlocked
  | _ => rfl

/-- A call by another account leaves a locked Set as it is. -/
theorem isolated_of_call {m : Message} {call : SetCall} {t t' : Session}
    (locked : t.contract.storage.isLocked = true) (other : m.sender ≠ t.contract.storage.locker)
    (h : step (.call m call) t = .ok t') : Isolated t t' := by
  simp only [step, bind_eq_ok, pure_eq_ok] at h
  obtain ⟨c, hc, rfl⟩ := h
  have hframes : waiting call.wait t.contract t.frames = t.frames := by
    rw [wait_eq_none locked other hc]
    rfl
  cases SetContract.ran_of_run hc with
  | privileged authorised _ => exact absurd (authorised.locker locked) other
  | token supply => exact ⟨⟨_, fun _ => Iff.rfl, rfl⟩, supply, rfl, hframes⟩
  | removing _ _ unlocked _ => rw [locked] at unlocked; cases unlocked
  | administered h =>
    obtain ⟨module, hstate, rfl⟩ := administered_of_locked locked other h
    refine ⟨⟨_, fun a => ?_, rfl⟩, rfl, rfl, hframes⟩
    rcases eq_or_ne a module with rfl | ha
    · rw [Function.update_self, hstate]
      decide
    · rw [Function.update_of_ne ha]

/-- **Isolation**: from any state in which the Set is locked, calls by accounts other than the
locker, with any arguments and whether they revert or not, leave the components, all positions, the
multiplier, the supply, the manager, the modules, which of them are initialized, and the lock as
they are, and `invoke` makes no call. -/
theorem isolated_of_calls {t : Session} (locked : t.contract.storage.isLocked = true)
    (calls : List (Message × SetCall))
    (others : ∀ call ∈ calls, call.1.sender ≠ t.contract.storage.locker) :
    Isolated t (attemptAll (fun call => step (.call call.1 call.2)) calls t) := by
  refine attemptAll_invariant (Isolated t) (fun call hcall t₁ t₂ h hstep => ?_) (.refl t)
  obtain ⟨states, -, hstorage⟩ := h.storage
  have hlocked : t₁.contract.storage.isLocked = true := by rw [hstorage]; exact locked
  have hother : call.1.sender ≠ t₁.contract.storage.locker := by
    rw [hstorage]
    exact others call hcall
  exact h.trans (isolated_of_call hlocked hother hstep)

/-! ## The holder of the lock -/

/-- A lock is held by an initialized module, and without a lock there is no locker. -/
structure Held (s : SetToken) : Prop where
  /-- The locker of a locked Set is initialized. -/
  locked : s.isLocked = true → s.moduleStates s.locker = .initialized
  /-- A Set that is not locked has no locker. -/
  unlocked : s.isLocked = false → s.locker = zeroAddress

/-- The module that the innermost waiting call removes. -/
def removing (t : Session) : Option Address :=
  match t.frames with
  | ⟨.removing module, _⟩ :: _ => some module
  | _ => none

/-- `removeModule` goes on only where the module does not hold the lock by then. -/
def Releases : Action → Session → Prop
  | .finish, t => ¬(t.contract.storage.isLocked = true ∧
      removing t = some t.contract.storage.locker)
  | _, _ => True

instance : ∀ a t, Decidable (Releases a t)
  | .finish, _ => inferInstanceAs (Decidable ¬(_ ∧ _))
  | .call _ _, _ => .isTrue trivial
  | .fail, _ => .isTrue trivial

/-- Functions for modules, the lock and the manager leave the lock with an initialized module. -/
theorem Held.administered {m : Message} {s s' : SetToken} (hs : Held s)
    (h : SetToken.Administered m s s') : Held s' := by
  cases h with
  | locked initialized _ => exact ⟨fun _ => initialized, fun h => (by cases h)⟩
  | unlocked => exact ⟨fun h => (by cases h), fun _ => rfl⟩
  | added module _ state _ =>
    refine ⟨fun h => ?_, hs.unlocked⟩
    have hlocker := hs.locked h
    have hne : s.locker ≠ module := by
      rintro rfl
      rw [state] at hlocker
      cases hlocker
    exact (Function.update_of_ne hne _ _).trans hlocker
  | removed _ _ unlocked _ =>
    refine ⟨fun h => ?_, hs.unlocked⟩
    rw [show s.isLocked = true from h] at unlocked
    cases unlocked
  | initialized unlocked _ =>
    refine ⟨fun h => ?_, hs.unlocked⟩
    rw [show s.isLocked = true from h] at unlocked
    cases unlocked
  | managed => exact ⟨hs.locked, hs.unlocked⟩

/-- Every function leaves the lock with an initialized module. -/
theorem Held.run {m : Message} {c c' : SetContract} (hc : Held c.storage)
    (h : SetContract.Ran m c c') : Held c'.storage := by
  cases h with
  | privileged _ kept =>
    refine ⟨fun h => ?_, fun h => ?_⟩
    · rw [kept.moduleStates, kept.locker]
      exact hc.locked (kept.isLocked ▸ h)
    · rw [kept.locker]
      exact hc.unlocked (kept.isLocked ▸ h)
  | token => exact hc
  | removing => exact hc
  | administered h => exact hc.administered h

/-- Dropping a module that does not hold the lock leaves the lock with an initialized module. -/
theorem Held.dropModule {s s' : SetToken} {module : Address} (hs : Held s)
    (released : ¬(s.isLocked = true ∧ s.locker = module)) (h : s.dropModule module = .ok s') :
    Held s' := by
  obtain ⟨-, rfl⟩ := SetToken.dropModule_eq_ok.mp h
  refine ⟨fun h => ?_, hs.unlocked⟩
  have hne : s.locker ≠ module := fun hlocker => released ⟨h, hlocker⟩
  exact (Function.update_of_ne hne _ _).trans (hs.locked h)

/-- A created Set is not locked. -/
theorem held_created (components : List Address) (units : List ℤ) (modules : List Address)
    (manager : Address) : (created components units modules manager).Everywhere Held := by
  have hnew := SetToken.sameModules_new components units modules manager
  refine ⟨⟨fun h => ?_, fun _ => hnew.locker⟩, fun frame hframe => absurd hframe List.not_mem_nil⟩
  have hopen : (SetToken.new components units modules manager).isLocked = false := hnew.isLocked
  rw [show (SetToken.new components units modules manager).isLocked = true from h] at hopen
  cases hopen

/-- **The holder of the lock**: in every state that a session reaches from a created Set, with any
calls from inside the calls that wait, a lock is held by an initialized module and there is no
locker without a lock, if `removeModule` never goes on while the removed module holds the lock. -/
theorem held_of_run {components modules : List Address} {units : List ℤ} {manager : Address}
    {t : Session}
    (reached : ReachWhen step Releases (created components units modules manager) t) :
    Held t.contract.storage := by
  have hall := everywhere_of_reach (P := Held) (fun m c c' => Held.run)
    (fun t module before frames s met hframes ht hdrop => ?_) reached
    (held_created components units modules manager)
  · exact hall.now
  · refine ht.dropModule ?_ hdrop
    rintro ⟨hlocked, hlocker⟩
    refine met ⟨hlocked, ?_⟩
    rw [removing, hframes, hlocker]

/-! ## Examples -/

/-- The controller of the examples has the modules `2` and `4`. -/
def exampleController : Controller := { isModule := fun a => a = 2 || a = 4 }

/-- A call of the Set of the examples by an account. -/
def callBy (sender : Address) (call : SetCall) : Action := .call ⟨exampleController, sender⟩ call

/-- The Set of the examples, with the manager `3` and both modules pending. -/
def exampleSession : Session := created [11] [preciseUnitInt] [2, 4] 3

/-- Calls by the manager, by the module `4` and by a user. -/
def exampleCalls : List (Message × SetCall) :=
  [(⟨exampleController, 3⟩, .addModule 5), (⟨exampleController, 3⟩, .removeModule 4),
    (⟨exampleController, 4⟩, .mint 6 1), (⟨exampleController, 6⟩, .approve 5 7)]

/-- The module `2` holds the lock while others call. -/
theorem isolated_of_calls_example :
    ∃ t, Reach step exampleSession t ∧ t.contract.storage.locker = 2 ∧
      Isolated t (attemptAll (fun call => step (.call call.1 call.2)) exampleCalls t) := by
  obtain ⟨t, hrun, hlock⟩ := exists_of_yields
    (x := runAll step [callBy 2 .initializeModule, callBy 4 .initializeModule, callBy 2 .lock]
      exampleSession)
    (p := fun t => t.contract.storage.isLocked = true ∧ t.contract.storage.locker = 2)
    (by decide +kernel)
  obtain ⟨hlocked, hlocker⟩ := of_decide_eq_true hlock
  refine ⟨t, reach_of_runAll hrun, hlocker,
    isolated_of_calls hlocked exampleCalls fun call hcall => ?_⟩
  rw [hlocker]
  have hsenders : (exampleCalls.all fun call => call.1.sender ≠ 2) = true := by decide +kernel
  simpa using List.all_eq_true.mp hsenders call hcall

/-- The module `2` is removed, and the module `4`, which it calls, locks the Set meanwhile. -/
theorem held_of_run_example :
    ∃ t, ReachWhen step Releases exampleSession t ∧ t.contract.storage.isLocked = true ∧
      t.contract.storage.modules = [4] ∧ Held t.contract.storage := by
  obtain ⟨t, hrun, hlock⟩ := exists_of_yields
    (x := runAll (guarded step Releases "")
      [callBy 2 .initializeModule, callBy 4 .initializeModule, callBy 3 (.removeModule 2),
        callBy 4 .lock, .finish] exampleSession)
    (p := fun t => t.contract.storage.isLocked = true ∧ t.contract.storage.modules = [4])
    (by decide +kernel)
  obtain ⟨hlocked, hmodules⟩ := of_decide_eq_true hlock
  have hreached := reachWhen_of_runAll hrun
  exact ⟨t, hreached, hlocked, hmodules, held_of_run hreached⟩

/-- The module `2` locks the Set from inside the call by which it is removed. The Set is locked, and
the locker is not a module of it any more. -/
theorem run_locks_for_ever :
    ∃ t, Reach step exampleSession t ∧ t.frames.length = 0 ∧
      t.contract.storage.isLocked = true ∧ t.contract.storage.locker = 2 ∧
      t.contract.storage.moduleStates 2 = .none ∧ ¬Held t.contract.storage := by
  obtain ⟨t, hrun, hlock⟩ := exists_of_yields
    (x := runAll step
      [callBy 2 .initializeModule, callBy 4 .initializeModule, callBy 3 (.removeModule 2),
        callBy 2 .lock, .finish] exampleSession)
    (p := fun t => t.frames.length = 0 ∧ t.contract.storage.isLocked = true ∧
      t.contract.storage.locker = 2 ∧ t.contract.storage.moduleStates 2 = .none)
    (by decide +kernel)
  obtain ⟨hframes, hlocked, hlocker, hstate⟩ := of_decide_eq_true hlock
  refine ⟨t, reach_of_runAll hrun, hframes, hlocked, hlocker, hstate, fun held => ?_⟩
  have hinitialized := held.locked hlocked
  rw [hlocker, hstate] at hinitialized
  cases hinitialized

end SetLock

end SetProtocol
