import SetProtocol.Lib.Register
import SetProtocol.Lib.Transition
import SetProtocol.Modules.ClaimModule

set_option relaxedAutoImplicit false
set_option autoImplicit false

/-!
# The reward pools of the claim module

The pools of a Set are listed in one array, and the adapters of each pool in another. A system of
calls of the module alternates with steps in which everything else on the chain changes in any way;
above all, a name may stand for another adapter when a claim is removed than when it was added.

The module acts on the addresses it finds, and never on names that it found earlier, so the two
arrays stay in step whatever the names stand for.

## Main definitions

* `SetProtocol.ClaimRegistry.Action` — a call of the module, or what happens elsewhere.
* `SetProtocol.ClaimRegistry.Kept` — the invariant of one Set.

## Main results

* `SetProtocol.ClaimRegistry.indexed_of_run` — the invariant of all runs.
* `SetProtocol.ClaimRegistry.isRewardPool_of_claim` — the pool of a claim is listed.
-/

namespace SetProtocol

open Checked Transition Register

namespace ClaimRegistry

open ClaimModule

/-! ## Calls of the module -/

/-- A call that configures the module, or anything that happens elsewhere. -/
inductive Action
  | initializeModule (msgSender setToken : Address) (anyoneClaim : Bool)
      (rewardPools : List Address) (integrationNames : List String)
  | updateAnyoneClaim (msgSender setToken : Address)
  | addClaim (msgSender setToken rewardPool : Address) (integrationName : String)
  | batchAddClaim (msgSender setToken : Address) (rewardPools : List Address)
      (integrationNames : List String)
  | removeClaim (msgSender setToken rewardPool : Address) (integrationName : String)
  | batchRemoveClaim (msgSender setToken : Address) (rewardPools : List Address)
      (integrationNames : List String)
  /-- A Set, or any other contract, calls `removeModule` of the module. -/
  | removeModule (msgSender : Address)
  /-- Everything but the storage of the module changes to what it is in another world. -/
  | elsewhere (w' : World)

/-- The world `w'`, with the storage of the module as in `w`. -/
def elsewhere (w w' : World) : World :=
  { w' with
    anyoneClaim := w.anyoneClaim
    rewardPoolList := w.rewardPoolList
    claimSettings := w.claimSettings }

/-- The effect of an action, for the module at the address `self`. -/
def step (self : Address) (env : Env) : Action → World → Except Revert World
  | .initializeModule msgSender setToken anyoneClaim rewardPools integrationNames, w =>
    ClaimModule.initializeModule self env w msgSender setToken anyoneClaim rewardPools
      integrationNames
  | .updateAnyoneClaim msgSender setToken, w =>
    ClaimModule.updateAnyoneClaim self w msgSender setToken
  | .addClaim msgSender setToken rewardPool integrationName, w =>
    ClaimModule.addClaim self env w msgSender setToken rewardPool integrationName
  | .batchAddClaim msgSender setToken rewardPools integrationNames, w =>
    ClaimModule.batchAddClaim self env w msgSender setToken rewardPools integrationNames
  | .removeClaim msgSender setToken rewardPool integrationName, w =>
    ClaimModule.removeClaim self env w msgSender setToken rewardPool integrationName
  | .batchRemoveClaim msgSender setToken rewardPools integrationNames, w =>
    ClaimModule.batchRemoveClaim self env w msgSender setToken rewardPools integrationNames
  | .removeModule msgSender, w => .ok (ClaimModule.removeModule w msgSender)
  | .elsewhere w', w => .ok (elsewhere w w')

/-! ## The invariant -/

/-- The pools of a Set are those that have adapters, and no adapter is listed twice. -/
def Kept (w : World) (setToken : Address) : Prop :=
  Index (w.rewardPoolList setToken) (w.claimSettings setToken)

/-- Write the adapters of all pools of a Set. -/
def writeAdapters (w : World) (setToken : Address) (adapters : Address → List Address) : World :=
  { w with claimSettings := Function.update w.claimSettings setToken adapters }

/-- Write the pools and the adapters of a Set. -/
def writeRegistry (w : World) (setToken : Address) (rewardPools : List Address)
    (adapters : Address → List Address) : World :=
  setRewardPoolList (writeAdapters w setToken adapters) setToken rewardPools

variable {self msgSender setToken rewardPool x : Address} {env : Env} {w w' : World}
  {integrationName : String} {rewardPools : List Address} {integrationNames : List String}

/-- Pools and adapters that are in step may be written for one Set. -/
theorem Kept.write {adapters : Address → List Address} (hw : ∀ x, Kept w x)
    (h : Index rewardPools adapters) :
    ∀ x, Kept (writeRegistry w setToken rewardPools adapters) x := by
  intro x
  unfold Kept writeRegistry setRewardPoolList writeAdapters
  rcases eq_or_ne x setToken with rfl | hx
  · simpa only [Function.update_self] using h
  · simp only [Function.update_of_ne hx]
    exact hw x

/-! ## Adapters that join and leave -/

/-- `_addClaim` appends an adapter that the pool does not have, and lists the pool with its first
one. -/
theorem addClaimSetting_spec
    (h : addClaimSetting self env setToken w rewardPool integrationName = .ok w') :
    ∃ adapter, adapter ∉ w.claimSettings setToken rewardPool ∧
      w' = writeRegistry w setToken
        (if (w.claimSettings setToken rewardPool ++ [adapter]).length = 1 then
          w.rewardPoolList setToken ++ [rewardPool] else w.rewardPoolList setToken)
        (Function.update (w.claimSettings setToken) rewardPool
          (w.claimSettings setToken rewardPool ++ [adapter])) := by
  simp only [addClaimSetting, bind_eq_ok, require_eq_ok, AddressArrayUtils.contains_eq_false] at h
  obtain ⟨adapter, -, _, hnew, h⟩ := h
  refine ⟨adapter, hnew, ?_⟩
  simp only [setClaimSettings, setRewardPoolList, Function.update_self] at h
  split at h
  · rename_i hone
    obtain rfl := pure_eq_ok.mp h
    rw [if_pos hone]
    rfl
  · rename_i hmore
    obtain rfl := pure_eq_ok.mp h
    rw [if_neg hmore]
    simp [writeRegistry, setRewardPoolList, writeAdapters]

/-- `_removeClaim` erases an adapter of the pool, and the pool with its last one. -/
theorem removeClaimSetting_spec
    (h : removeClaimSetting self env setToken w rewardPool integrationName = .ok w') :
    ∃ adapter, w' = writeRegistry w setToken
        (if ((w.claimSettings setToken rewardPool).erase adapter).length = 0 then
          (w.rewardPoolList setToken).erase rewardPool else w.rewardPoolList setToken)
        (Function.update (w.claimSettings setToken) rewardPool
          ((w.claimSettings setToken rewardPool).erase adapter)) := by
  simp only [removeClaimSetting, bind_eq_ok, require_eq_ok, AddressArrayUtils.remove_eq_ok] at h
  obtain ⟨adapter, -, _, -, _, ⟨-, rfl⟩, h⟩ := h
  refine ⟨adapter, ?_⟩
  simp only [setClaimSettings, setRewardPoolList, Function.update_self] at h
  split at h
  · rename_i hzero
    simp only [bind_eq_ok, AddressArrayUtils.remove_eq_ok, pure_eq_ok] at h
    obtain ⟨_, ⟨-, rfl⟩, rfl⟩ := h
    -- the deleted adapters are none
    rw [if_pos hzero, List.length_eq_zero_iff.mp hzero]
    simp [writeRegistry, setRewardPoolList, writeAdapters]
  · rename_i hsome
    obtain rfl := pure_eq_ok.mp h
    rw [if_neg hsome]
    simp [writeRegistry, setRewardPoolList, writeAdapters]

/-- An adapter that joins keeps pools and adapters in step. -/
theorem Kept.addClaimSetting (hw : ∀ x, Kept w x)
    (h : ClaimModule.addClaimSetting self env setToken w rewardPool integrationName = .ok w') :
    ∀ x, Kept w' x := by
  obtain ⟨adapter, hnew, rfl⟩ := addClaimSetting_spec h
  exact Kept.write hw ((hw setToken).push hnew)

/-- So does one that leaves. -/
theorem Kept.removeClaimSetting (hw : ∀ x, Kept w x)
    (h : ClaimModule.removeClaimSetting self env setToken w rewardPool integrationName = .ok w') :
    ∀ x, Kept w' x := by
  obtain ⟨adapter, rfl⟩ := removeClaimSetting_spec h
  exact Kept.write hw (hw setToken).erase

/-- And so does a batch of either. -/
theorem Kept.batch {f : World → Address → String → Except Revert World}
    (hf : ∀ w w' rewardPool integrationName, (∀ x, Kept w x) →
      f w rewardPool integrationName = .ok w' → ∀ x, Kept w' x)
    (hw : ∀ x, Kept w x) (h : ClaimModule.batch f w rewardPools integrationNames = .ok w') :
    ∀ x, Kept w' x := by
  simp only [ClaimModule.batch, bind_eq_ok] at h
  obtain ⟨-, -, h⟩ := h
  refine foldlM_preserves (fun w => ∀ x, Kept w x) ?_ hw h
  intro entry _ w₁ w₂ hw₁ hround
  exact hf w₁ w₂ entry.1 entry.2 hw₁ hround

/-- The batch that `initialize` and `batchAddClaim` share. -/
theorem Kept.batchAddClaimSettings (hw : ∀ x, Kept w x)
    (h : ClaimModule.batchAddClaimSettings self env setToken w rewardPools integrationNames =
      .ok w') : ∀ x, Kept w' x :=
  Kept.batch (fun _ _ _ _ hw h => Kept.addClaimSetting hw h) hw h

/-! ## Removal -/

/-- Adapters that are written pool by pool are written together. -/
theorem setClaimSettings_writeAdapters (w : World) (adapters : Address → List Address)
    (rewardPool : Address) (l : List Address) :
    setClaimSettings (writeAdapters w setToken adapters) setToken rewardPool l =
      writeAdapters w setToken (Function.update adapters rewardPool l) := by
  simp [setClaimSettings, writeAdapters]

/-- `removeModule` clears the adapters of the listed pools, and the list. -/
theorem removeModule_eq (w : World) (setToken : Address) :
    ClaimModule.removeModule w setToken =
      writeRegistry (setAnyoneClaim w setToken false) setToken []
        ((w.rewardPoolList setToken).foldl
          (fun adapters rewardPool => Function.update adapters rewardPool [])
          (w.claimSettings setToken)) := by
  have hself : writeAdapters (setAnyoneClaim w setToken false) setToken
      (w.claimSettings setToken) = setAnyoneClaim w setToken false := by
    simp [writeAdapters, setAnyoneClaim]
  have hloop : (w.rewardPoolList setToken).foldl
      (fun w rewardPool => setClaimSettings w setToken rewardPool [])
      (writeAdapters (setAnyoneClaim w setToken false) setToken (w.claimSettings setToken)) =
      writeAdapters (setAnyoneClaim w setToken false) setToken
        ((w.rewardPoolList setToken).foldl
          (fun adapters rewardPool => Function.update adapters rewardPool [])
          (w.claimSettings setToken)) :=
    List.foldl_hom _ fun adapters rewardPool =>
      setClaimSettings_writeAdapters _ adapters rewardPool []
  rw [hself] at hloop
  unfold writeRegistry
  rw [← hloop]
  rfl

/-- Nothing is left of the pools of the caller. -/
theorem Kept.removeModule (hw : ∀ x, Kept w x) (setToken : Address) :
    ∀ x, Kept (ClaimModule.removeModule w setToken) x := by
  rw [removeModule_eq]
  have hw' : ∀ x, Kept (setAnyoneClaim w setToken false) x := hw
  exact Kept.write hw' (Index.nil (hw setToken).clear)

/-! ## Runs -/

/-- Every action keeps pools and adapters in step. -/
theorem Kept.step {a : Action} (hw : ∀ x, Kept w x)
    (h : ClaimRegistry.step self env a w = .ok w') : ∀ x, Kept w' x := by
  cases a with
  | initializeModule msgSender setToken anyoneClaim rewardPools integrationNames =>
    simp only [ClaimRegistry.step, ClaimModule.initializeModule, bind_eq_ok,
      World.editSetToken_eq_ok] at h
    obtain ⟨-, -, -, -, w₁, hbatch, _, -, rfl⟩ := h
    have hw₁ := Kept.batchAddClaimSettings hw hbatch
    exact hw₁
  | updateAnyoneClaim msgSender setToken =>
    simp only [ClaimRegistry.step, ClaimModule.updateAnyoneClaim, bind_eq_ok, pure_eq_ok] at h
    obtain ⟨-, -, rfl⟩ := h
    exact hw
  | addClaim msgSender setToken rewardPool integrationName =>
    simp only [ClaimRegistry.step, ClaimModule.addClaim, bind_eq_ok] at h
    obtain ⟨-, -, h⟩ := h
    exact Kept.addClaimSetting hw h
  | batchAddClaim msgSender setToken rewardPools integrationNames =>
    simp only [ClaimRegistry.step, ClaimModule.batchAddClaim, bind_eq_ok] at h
    obtain ⟨-, -, h⟩ := h
    exact Kept.batchAddClaimSettings hw h
  | removeClaim msgSender setToken rewardPool integrationName =>
    simp only [ClaimRegistry.step, ClaimModule.removeClaim, bind_eq_ok] at h
    obtain ⟨-, -, h⟩ := h
    exact Kept.removeClaimSetting hw h
  | batchRemoveClaim msgSender setToken rewardPools integrationNames =>
    simp only [ClaimRegistry.step, ClaimModule.batchRemoveClaim, bind_eq_ok] at h
    obtain ⟨-, -, h⟩ := h
    exact Kept.batch (fun _ _ _ _ hw h => Kept.removeClaimSetting hw h) hw h
  | removeModule msgSender =>
    obtain rfl := Except.ok.inj h
    exact Kept.removeModule hw msgSender
  | elsewhere w' =>
    obtain rfl := Except.ok.inj h
    exact hw

/-- No Set uses the module yet. -/
structure Fresh (w : World) : Prop where
  /-- There are no pools. -/
  pools : ∀ setToken, w.rewardPoolList setToken = []
  /-- No pool has adapters. -/
  adapters : ∀ setToken rewardPool, w.claimSettings setToken rewardPool = []

/-- Pools and adapters are in step in every state that the module reaches. -/
theorem kept_of_run (fresh : Fresh w) (reached : Reach (step self env) w w') :
    ∀ x, Kept w' x := by
  refine reached.invariant (fun w => ∀ x, Kept w x) (fun a w w' hw _ h => Kept.step hw h) ?_
  intro x
  unfold Kept
  rw [fresh.pools]
  exact Index.nil (fresh.adapters x)

/-- **The reward pools**: from a state in which no Set uses the module, after any calls that add and
remove claims, one by one or in batches, initialize the module and remove it, while names come to
stand for other adapters in between, for each Set the list of pools has no duplicates, nor has the
list of adapters of any pool, and a pool is listed exactly if it has adapters. -/
theorem indexed_of_run (fresh : Fresh w) (reached : Reach (step self env) w w')
    (setToken : Address) :
    (w'.rewardPoolList setToken).Nodup ∧
      (∀ rewardPool, (w'.claimSettings setToken rewardPool).Nodup) ∧
      ∀ rewardPool, rewardPool ∈ w'.rewardPoolList setToken ↔
        w'.claimSettings setToken rewardPool ≠ [] := by
  have hkept := kept_of_run fresh reached setToken
  exact ⟨hkept.keys.nodup, hkept.values, hkept.keys.mem_iff⟩

/-! ## Example -/

/-- The Set `100` with the manager `3`, on which the module `7` is pending. The names `a` and `b`
stand for the adapters `21` and `22`. -/
def exampleWorld : World :=
  { controller := { isSet := fun a => a = 100, isModule := fun a => a = 7 }
    integrations := fun _ name => BitVec.ofNat 160 (20 + name)
    setTokens := fun _ =>
      { manager := 3, moduleStates := fun a => if a = 7 then .pending else .none } }

/-- Names are hashed to small numbers. -/
def exampleEnv : Env := { keccak256 := fun name => if name = "a" then 1 else 2 }

/-- The pool `50` gets the adapters `21` and `22`, and the pool `51` gets `21`. Then the name `a`
comes to stand for `22`, which leaves the pool `50`, and cannot leave the pool `51`. -/
theorem indexed_of_run_example :
    ∃ w, Reach (step 7 exampleEnv) exampleWorld w ∧ w.rewardPoolList 100 = [50, 51] ∧
      w.claimSettings 100 50 = [21] ∧
      (w.rewardPoolList 100).Nodup ∧
      (∀ rewardPool, (w.claimSettings 100 rewardPool).Nodup) ∧
      ∀ rewardPool, rewardPool ∈ w.rewardPoolList 100 ↔
        w.claimSettings 100 rewardPool ≠ [] := by
  obtain ⟨w, hrun, hclaims⟩ := exists_of_yields
    (x := runAll (step 7 exampleEnv)
      [.initializeModule 3 100 false [50, 50, 51] ["a", "b", "a"],
        .elsewhere { exampleWorld with
          integrations := fun _ _ => 22
          setTokens := fun _ =>
            { manager := 3, moduleStates := fun a => if a = 7 then .initialized else .none } },
        .removeClaim 3 100 50 "a"] exampleWorld)
    (p := fun w => w.rewardPoolList 100 = [50, 51] ∧ w.claimSettings 100 50 = [21])
    (by decide +kernel)
  have hreached := reach_of_runAll hrun
  obtain ⟨hpools, hadapters⟩ := of_decide_eq_true hclaims
  have hfresh : Fresh exampleWorld := ⟨fun _ => rfl, fun _ _ => rfl⟩
  exact ⟨w, hreached, hpools, hadapters, indexed_of_run hfresh hreached 100⟩

/-! ## Claims -/

/-- In every state that the module reaches, an adapter of a pool can be used for it: the test that
the pool is listed passes. -/
theorem isRewardPool_of_claim (fresh : Fresh w) (reached : Reach (step self env) w w')
    {adapter : Address}
    (h : getAndValidateIntegrationAdapter self env w' (w'.claimSettings setToken rewardPool)
      integrationName = .ok adapter) : isRewardPool w' setToken rewardPool = true := by
  simp only [getAndValidateIntegrationAdapter, bind_eq_ok, require_eq_ok, pure_eq_ok,
    AddressArrayUtils.contains_eq_true] at h
  obtain ⟨_, -, -, hadapter, rfl⟩ := h
  rw [isRewardPool, AddressArrayUtils.contains_eq_true]
  exact (kept_of_run fresh reached setToken).mem_of_value hadapter

end ClaimRegistry

end SetProtocol
