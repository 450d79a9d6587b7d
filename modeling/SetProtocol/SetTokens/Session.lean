import SetProtocol.Core.SetTokenCreator
import SetProtocol.Core.World
import SetProtocol.Lib.Transition

set_option relaxedAutoImplicit false
set_option autoImplicit false

/-!
# Calls to a SetToken, one inside the other

All external functions of a SetToken, those of the token it inherits from included. Two of them call
another contract: `invoke` calls any contract, and `removeModule` calls the module. While such a
call waits, the contract it called can call the SetToken again, and so can every contract that one
calls.

A session is the SetToken with the calls that wait. It takes a step when a function is called, when
the contract that the innermost waiting call called returns to it, and when that contract reverts.

## Main definitions

* `SetProtocol.SetCall` — a call of an external function.
* `SetProtocol.SetContract.run` — what the function does, up to its call of another contract.
* `SetProtocol.Session.step` — the steps of a session.

## Main results

* `SetProtocol.SetContract.ran_of_run` — all that a function can do.
* `SetProtocol.Session.everywhere_of_reach` — the rule for invariants of the storage.
-/

namespace SetProtocol

open Checked

/-- A SetToken contract. -/
structure SetContract where
  /-- The storage of the SetToken. -/
  storage : SetToken
  /-- The ledger of the token it inherits from. -/
  ledger : ERC20 := {}
  /-- The calls it made by `invoke`: the contract, the Ether and the data. -/
  invoked : List (Address × ℕ × CallData) := []

/-- A call of an external function of a SetToken. -/
inductive SetCall
  | invoke (target : Address) (value : ℕ) (data : CallData)
  | addComponent (component : Address)
  | removeComponent (component : Address)
  | editDefaultPositionUnit (component : Address) (realUnit : ℤ)
  | addExternalPositionModule (component positionModule : Address)
  | removeExternalPositionModule (component positionModule : Address)
  | editExternalPositionUnit (component positionModule : Address) (realUnit : ℤ)
  | editExternalPositionData (component positionModule : Address) (data : Bytes)
  | editPositionMultiplier (newMultiplier : ℤ)
  | mint (account : Address) (quantity : ℕ)
  | burn (account : Address) (quantity : ℕ)
  | lock
  | unlock
  | addModule (module : Address)
  | removeModule (module : Address)
  | removePendingModule (module : Address)
  | initializeModule
  | setManager (manager : Address)
  | transfer (recipient : Address) (amount : ℕ)
  | approve (spender : Address) (amount : ℕ)
  | transferFrom (sender recipient : Address) (amount : ℕ)
  | increaseAllowance (spender : Address) (addedValue : ℕ)
  | decreaseAllowance (spender : Address) (subtractedValue : ℕ)

/-! ## The functions -/

namespace SetContract

/-- Run a function on the storage. -/
def edit (c : SetContract) (f : SetToken → Except Revert SetToken) : Except Revert SetContract := do
  return { c with storage := ← f c.storage }

/-- Run a function on the ledger. -/
def editLedger (c : SetContract) (f : ERC20 → Except Revert ERC20) :
    Except Revert SetContract := do
  return { c with ledger := ← f c.ledger }

/-- What a function does, up to its call of another contract if it makes one. -/
def run (m : Message) (c : SetContract) : SetCall → Except Revert SetContract
  | .invoke target value data => do
    SetToken.privileged m c.storage
    return { c with invoked := c.invoked ++ [(target, value, data)] }
  | .addComponent component => c.edit fun s => s.addComponent m component
  | .removeComponent component => c.edit fun s => s.removeComponent m component
  | .editDefaultPositionUnit component realUnit =>
    c.edit fun s => s.editDefaultPositionUnit m component realUnit
  | .addExternalPositionModule component positionModule =>
    c.edit fun s => s.addExternalPositionModule m component positionModule
  | .removeExternalPositionModule component positionModule =>
    c.edit fun s => s.removeExternalPositionModule m component positionModule
  | .editExternalPositionUnit component positionModule realUnit =>
    c.edit fun s => s.editExternalPositionUnit m component positionModule realUnit
  | .editExternalPositionData component positionModule data =>
    c.edit fun s => s.editExternalPositionData m component positionModule data
  | .editPositionMultiplier newMultiplier =>
    c.edit fun s => s.editPositionMultiplier m newMultiplier
  | .mint account quantity => do
    SetToken.privileged m c.storage
    c.editLedger fun t => t.mint account quantity
  | .burn account quantity => do
    SetToken.privileged m c.storage
    c.editLedger fun t => t.burn account quantity
  | .lock => c.edit fun s => s.lock m
  | .unlock => c.edit fun s => s.unlock m
  | .addModule module => c.edit fun s => s.addModule m module
  | .removeModule module => do
    SetToken.validateRemoveModule m c.storage module
    return c
  | .removePendingModule module => c.edit fun s => s.removePendingModule m module
  | .initializeModule => c.edit fun s => s.initializeModule m
  | .setManager manager => c.edit fun s => s.setManager m manager
  | .transfer recipient amount => c.editLedger fun t => t.transfer m.sender recipient amount
  | .approve spender amount => c.editLedger fun t => t.approve m.sender spender amount
  | .transferFrom sender recipient amount =>
    c.editLedger fun t => t.transferFrom m.sender sender recipient amount
  | .increaseAllowance spender addedValue =>
    c.editLedger fun t => t.increaseAllowance m.sender spender addedValue
  | .decreaseAllowance spender subtractedValue =>
    c.editLedger fun t => t.decreaseAllowance m.sender spender subtractedValue

end SetContract

/-! ## Sessions -/

/-- The functions whose rest has to wait for another contract. -/
inductive Wait
  | invoking
  | removing (module : Address)

/-- What a call waits for, if it calls another contract. -/
def SetCall.wait : SetCall → Option Wait
  | .invoke _ _ _ => some .invoking
  | .removeModule module => some (.removing module)
  | _ => none

/-- A call that waits. -/
structure Frame where
  /-- What it waits for. -/
  wait : Wait
  /-- The contract before the call, to which a revert goes back. -/
  before : SetContract

/-- The contract after the called contract returned to the call. -/
def Frame.resume (frame : Frame) (c : SetContract) : SetContract :=
  match frame.wait with
  | .invoking => c
  | .removing module =>
    match c.storage.dropModule module with
    | .ok s => { c with storage := s }
    | .error _ => frame.before

/-- A SetToken with the calls that wait, the innermost one first. -/
structure Session where
  /-- The contract. -/
  contract : SetContract
  /-- The calls that wait. -/
  frames : List Frame := []

namespace Session

/-- The steps of a session. -/
inductive Action
  | call (m : Message) (call : SetCall)
  | finish
  | fail

/-- The calls that wait once a call has begun. -/
def waiting (wait : Option Wait) (before : SetContract) (frames : List Frame) : List Frame :=
  match wait with
  | none => frames
  | some wait => ⟨wait, before⟩ :: frames

/-- A step of a session: a function is called, or the innermost waiting call goes on, or it
reverts. -/
def step : Action → Session → Except Revert Session
  | .call m call, t => do
    let c ← t.contract.run m call
    return ⟨c, waiting call.wait t.contract t.frames⟩
  | .finish, t =>
    match t.frames with
    | [] => .error "no call waits"
    | frame :: frames => .ok ⟨frame.resume t.contract, frames⟩
  | .fail, t =>
    match t.frames with
    | [] => .error "no call waits"
    | frame :: frames => .ok ⟨frame.before, frames⟩

/-- The session of a SetToken that was just created. -/
def created (components : List Address) (units : List ℤ) (modules : List Address)
    (manager : Address) : Session :=
  ⟨⟨SetToken.new components units modules manager, {}, []⟩, []⟩

end Session

/-! ## What a function can do -/

/-- The fields that only the functions for modules, the lock and the manager write. -/
structure SetToken.SameModules (s s' : SetToken) : Prop where
  /-- The manager is the same. -/
  manager : s'.manager = s.manager
  /-- The locker is the same. -/
  locker : s'.locker = s.locker
  /-- The lock is the same. -/
  isLocked : s'.isLocked = s.isLocked
  /-- The modules are the same. -/
  modules : s'.modules = s.modules
  /-- Their states are the same. -/
  moduleStates : s'.moduleStates = s.moduleStates

/-- A created Set has no initialized modules, and the given ones are pending. -/
theorem SetToken.sameModules_new (components : List Address) (units : List ℤ)
    (modules : List Address) (manager : Address) :
    ({ manager := manager
       moduleStates := fun module => if modules.contains module then .pending else .none } :
      SetToken).SameModules (SetToken.new components units modules manager) := by
  have hfold : ∀ (l : List (Address × ℤ)) (s₀ s : SetToken), s₀.SameModules s →
      s₀.SameModules
        (l.foldl (fun s entry => s.setDefaultVirtualUnit entry.1 entry.2) s) := by
    intro l
    induction l with
    | nil => exact fun s₀ s h => h
    | cons a l ih =>
      intro s₀ s h
      rw [List.foldl_cons]
      exact ih s₀ _ ⟨h.manager, h.locker, h.isLocked, h.modules, h.moduleStates⟩
  exact hfold _ _ _ ⟨rfl, rfl, rfl, rfl, rfl⟩

/-- What the functions for modules, the lock and the manager do. -/
inductive SetToken.Administered (m : Message) (s : SetToken) : SetToken → Prop
  | locked (initialized : s.moduleStates m.sender = .initialized) (unlocked : s.isLocked = false) :
    Administered m s { s with locker := m.sender, isLocked := true }
  | unlocked (locked : s.isLocked = true) (locker : s.locker = m.sender) :
    Administered m s { s with locker := zeroAddress, isLocked := false }
  | added (module : Address) (manager : m.sender = s.manager)
    (state : s.moduleStates module = .none) (enabled : m.controller.isModule module = true) :
    Administered m s (s.setModuleState module .pending)
  | removed (module : Address) (manager : m.sender = s.manager) (unlocked : s.isLocked = false)
    (state : s.moduleStates module = .pending) : Administered m s (s.setModuleState module .none)
  | initialized (unlocked : s.isLocked = false) (state : s.moduleStates m.sender = .pending) :
    Administered m s { s with
      moduleStates := Function.update s.moduleStates m.sender .initialized
      modules := s.modules ++ [m.sender] }
  | managed (manager : Address) (sender : m.sender = s.manager) (unlocked : s.isLocked = false) :
    Administered m s { s with manager := manager }

namespace SetContract

/-- All that a function can do. -/
inductive Ran (m : Message) (c : SetContract) : SetContract → Prop
  /-- Privileged functions leave the modules, the lock and the manager. -/
  | privileged {c' : SetContract} (authorised : SetToken.Authorised m c.storage)
    (kept : c.storage.SameModules c'.storage) : Ran m c c'
  /-- The functions of the token change balances and allowances. -/
  | token {t : ERC20} (supply : t.totalSupply = c.ledger.totalSupply) :
    Ran m c { c with ledger := t }
  /-- `removeModule` checks, and calls the module. -/
  | removing (module : Address) (manager : m.sender = c.storage.manager)
    (unlocked : c.storage.isLocked = false)
    (initialized : c.storage.moduleStates module = .initialized) : Ran m c c
  /-- The other functions are for modules, the lock and the manager. -/
  | administered {s : SetToken} (h : SetToken.Administered m c.storage s) :
    Ran m c { c with storage := s }

variable {m : Message} {c c' : SetContract}

@[simp] theorem edit_eq_ok {f : SetToken → Except Revert SetToken} :
    c.edit f = .ok c' ↔ ∃ s, f c.storage = .ok s ∧ { c with storage := s } = c' := by
  simp [edit]

@[simp] theorem editLedger_eq_ok {f : ERC20 → Except Revert ERC20} :
    c.editLedger f = .ok c' ↔ ∃ t, f c.ledger = .ok t ∧ { c with ledger := t } = c' := by
  simp [editLedger]

/-- An edit of positions is for authorised modules, and leaves the modules alone. -/
private theorem ran_of_edit {f : SetToken → Except Revert SetToken}
    (hf : ∀ s, f c.storage = .ok s →
      SetToken.Authorised m c.storage ∧ c.storage.SameModules s)
    (h : c.edit f = .ok c') : Ran m c c' := by
  obtain ⟨s, hs, rfl⟩ := edit_eq_ok.mp h
  obtain ⟨authorised, kept⟩ := hf s hs
  exact .privileged authorised kept

/-- A function of the token that keeps the supply. -/
private theorem ran_of_editLedger {f : ERC20 → Except Revert ERC20}
    (hf : ∀ t, f c.ledger = .ok t → t.totalSupply = c.ledger.totalSupply)
    (h : c.editLedger f = .ok c') : Ran m c c' := by
  obtain ⟨t, ht, rfl⟩ := editLedger_eq_ok.mp h
  exact .token (hf t ht)

/-- A function for modules, the lock or the manager. -/
private theorem ran_of_administered {f : SetToken → Except Revert SetToken}
    (hf : ∀ s, f c.storage = .ok s → SetToken.Administered m c.storage s)
    (h : c.edit f = .ok c') : Ran m c c' := by
  obtain ⟨s, hs, rfl⟩ := edit_eq_ok.mp h
  exact .administered (hf s hs)

/-- All that a function can do. -/
theorem ran_of_run {call : SetCall} (h : c.run m call = .ok c') : Ran m c c' := by
  cases call with
  | invoke target value data =>
    simp only [run, bind_eq_ok, SetToken.privileged_eq_ok, pure_eq_ok] at h
    obtain ⟨-, authorised, rfl⟩ := h
    exact .privileged authorised ⟨rfl, rfl, rfl, rfl, rfl⟩
  | addComponent component =>
    rw [run] at h
    refine ran_of_edit (fun s hs => ?_) h
    obtain ⟨authorised, -, rfl⟩ := SetToken.addComponent_eq_ok.mp hs
    exact ⟨authorised, rfl, rfl, rfl, rfl, rfl⟩
  | removeComponent component =>
    rw [run] at h
    refine ran_of_edit (fun s hs => ?_) h
    obtain ⟨authorised, -, rfl⟩ := SetToken.removeComponent_eq_ok.mp hs
    exact ⟨authorised, rfl, rfl, rfl, rfl, rfl⟩
  | editDefaultPositionUnit component realUnit =>
    rw [run] at h
    refine ran_of_edit (fun s hs => ?_) h
    obtain ⟨authorised, v, -, rfl⟩ := SetToken.editDefaultPositionUnit_eq_ok.mp hs
    exact ⟨authorised, rfl, rfl, rfl, rfl, rfl⟩
  | addExternalPositionModule component positionModule =>
    rw [run] at h
    refine ran_of_edit (fun s hs => ?_) h
    obtain ⟨authorised, -, rfl⟩ := SetToken.addExternalPositionModule_eq_ok.mp hs
    exact ⟨authorised, rfl, rfl, rfl, rfl, rfl⟩
  | removeExternalPositionModule component positionModule =>
    rw [run] at h
    refine ran_of_edit (fun s hs => ?_) h
    obtain ⟨authorised, -, rfl⟩ := SetToken.removeExternalPositionModule_eq_ok.mp hs
    exact ⟨authorised, rfl, rfl, rfl, rfl, rfl⟩
  | editExternalPositionUnit component positionModule realUnit =>
    rw [run] at h
    refine ran_of_edit (fun s hs => ?_) h
    obtain ⟨authorised, v, -, rfl⟩ := SetToken.editExternalPositionUnit_eq_ok.mp hs
    exact ⟨authorised, rfl, rfl, rfl, rfl, rfl⟩
  | editExternalPositionData component positionModule data =>
    rw [run] at h
    refine ran_of_edit (fun s hs => ?_) h
    obtain ⟨authorised, rfl⟩ := SetToken.editExternalPositionData_eq_ok.mp hs
    exact ⟨authorised, rfl, rfl, rfl, rfl, rfl⟩
  | editPositionMultiplier newMultiplier =>
    rw [run] at h
    refine ran_of_edit (fun s hs => ?_) h
    obtain ⟨authorised, -, rfl⟩ := SetToken.editPositionMultiplier_eq_ok.mp hs
    exact ⟨authorised, rfl, rfl, rfl, rfl, rfl⟩
  | mint account quantity =>
    simp only [run, bind_eq_ok, SetToken.privileged_eq_ok, editLedger_eq_ok] at h
    obtain ⟨-, authorised, t, -, rfl⟩ := h
    exact .privileged authorised ⟨rfl, rfl, rfl, rfl, rfl⟩
  | burn account quantity =>
    simp only [run, bind_eq_ok, SetToken.privileged_eq_ok, editLedger_eq_ok] at h
    obtain ⟨-, authorised, t, -, rfl⟩ := h
    exact .privileged authorised ⟨rfl, rfl, rfl, rfl, rfl⟩
  | lock =>
    rw [run] at h
    refine ran_of_administered (fun s hs => ?_) h
    obtain ⟨initialized, -, unlocked, rfl⟩ := SetToken.lock_eq_ok.mp hs
    exact .locked initialized unlocked
  | unlock =>
    rw [run] at h
    refine ran_of_administered (fun s hs => ?_) h
    obtain ⟨-, -, locked, locker, rfl⟩ := SetToken.unlock_eq_ok.mp hs
    exact .unlocked locked locker
  | addModule module =>
    rw [run] at h
    refine ran_of_administered (fun s hs => ?_) h
    obtain ⟨manager, state, enabled, rfl⟩ := SetToken.addModule_eq_ok.mp hs
    exact .added module manager state enabled
  | removeModule module =>
    simp only [run, bind_eq_ok, SetToken.validateRemoveModule_eq_ok, pure_eq_ok] at h
    obtain ⟨-, ⟨manager, unlocked, initialized⟩, rfl⟩ := h
    exact .removing module manager unlocked initialized
  | removePendingModule module =>
    rw [run] at h
    refine ran_of_administered (fun s hs => ?_) h
    obtain ⟨manager, unlocked, state, rfl⟩ := SetToken.removePendingModule_eq_ok.mp hs
    exact .removed module manager unlocked state
  | initializeModule =>
    rw [run] at h
    refine ran_of_administered (fun s hs => ?_) h
    obtain ⟨unlocked, state, rfl⟩ := SetToken.initializeModule_eq_ok.mp hs
    exact .initialized unlocked state
  | setManager manager =>
    rw [run] at h
    refine ran_of_administered (fun s hs => ?_) h
    obtain ⟨sender, unlocked, rfl⟩ := SetToken.setManager_eq_ok.mp hs
    exact .managed manager sender unlocked
  | transfer recipient amount =>
    rw [run] at h
    refine ran_of_editLedger (fun t ht => ?_) h
    obtain ⟨-, -, -, -, rfl⟩ := ERC20.move_eq_ok.mp ht
    rfl
  | approve spender amount =>
    rw [run] at h
    refine ran_of_editLedger (fun t ht => ?_) h
    obtain ⟨-, -, rfl⟩ := ERC20.approve_eq_ok.mp ht
    rfl
  | transferFrom sender recipient amount =>
    rw [run] at h
    refine ran_of_editLedger (fun t ht => ?_) h
    exact (ERC20.of_transferFrom_eq_ok ht).2.2.2
  | increaseAllowance spender addedValue =>
    rw [run] at h
    refine ran_of_editLedger (fun t ht => ?_) h
    simp only [ERC20.increaseAllowance, bind_eq_ok, ERC20.approve_eq_ok] at ht
    obtain ⟨_, -, -, -, rfl⟩ := ht
    rfl
  | decreaseAllowance spender subtractedValue =>
    rw [run] at h
    refine ran_of_editLedger (fun t ht => ?_) h
    simp only [ERC20.decreaseAllowance, bind_eq_ok, ERC20.approve_eq_ok] at ht
    obtain ⟨-, -, -, -, rfl⟩ := ht
    rfl

end SetContract

/-! ## Invariants of the storage -/

namespace Session

open Transition

variable {t t' : Session} {P : SetToken → Prop} {guard : Action → Session → Prop}

/-- The property holds of the storage, and of each storage that a revert goes back to. -/
structure Everywhere (P : SetToken → Prop) (t : Session) : Prop where
  /-- It holds now. -/
  now : P t.contract.storage
  /-- It held before each of the calls that wait. -/
  before : ∀ frame ∈ t.frames, P frame.before.storage

/-- A property of the storage that functions preserve, and that the rest of `removeModule` preserves
where the guard lets it go on, holds in all that a session reaches. -/
theorem everywhere_of_reach
    (run : ∀ m c c', P c.storage → SetContract.Ran m c c' → P c'.storage)
    (drop : ∀ t module before frames s, guard .finish t →
      t.frames = ⟨.removing module, before⟩ :: frames → P t.contract.storage →
      t.contract.storage.dropModule module = .ok s → P s)
    (reached : ReachWhen step guard t t') (ht : t.Everywhere P) : t'.Everywhere P := by
  refine reached.invariant (Everywhere P) ?_ ht
  intro a t t' ht met h
  cases a with
  | call m call =>
    simp only [step, bind_eq_ok, pure_eq_ok] at h
    obtain ⟨c, hc, rfl⟩ := h
    refine ⟨run m _ c ht.now (SetContract.ran_of_run hc), fun frame hframe => ?_⟩
    unfold waiting at hframe
    split at hframe
    · exact ht.before frame hframe
    · rcases List.mem_cons.mp hframe with rfl | hframe
      · exact ht.now
      · exact ht.before frame hframe
  | finish =>
    simp only [step] at h
    split at h
    · cases h
    · rename_i frame frames hframes
      obtain rfl := Except.ok.inj h
      have hbefore : ∀ f ∈ frames, P f.before.storage := fun f hf =>
        ht.before f (hframes ▸ List.mem_cons_of_mem frame hf)
      refine ⟨?_, hbefore⟩
      obtain ⟨wait, before⟩ := frame
      cases wait with
      | invoking => exact ht.now
      | removing module =>
        simp only [Frame.resume]
        split
        · rename_i s hs
          exact drop t module before frames s met hframes ht.now hs
        · exact ht.before _ (hframes ▸ List.mem_cons_self)
  | fail =>
    simp only [step] at h
    split at h
    · cases h
    · rename_i frame frames hframes
      obtain rfl := Except.ok.inj h
      exact ⟨ht.before frame (hframes ▸ List.mem_cons_self), fun f hf =>
        ht.before f (hframes ▸ List.mem_cons_of_mem frame hf)⟩

end Session

end SetProtocol
