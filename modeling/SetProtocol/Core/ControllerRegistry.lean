import SetProtocol.Core.Controller
import SetProtocol.Lib.Register
import SetProtocol.Lib.Transition

set_option relaxedAutoImplicit false
set_option autoImplicit false

/-!
# The registry of the controller

The controller keeps Sets, factories, modules and resources as lists and as flags, and resources by
ids. The functions that add one contract check its flag first, and those that remove one drop its
first listing. `initialize`, which the owner calls once, copies whole arrays without looking for
duplicates. A contract that is in an array twice stays listed after its removal.

## Main definitions

* `SetProtocol.ControllerRegistry.Action` — a call of the controller.
* `SetProtocol.ControllerRegistry.Registered` — lists, flags and ids are in step.
* `SetProtocol.ControllerRegistry.Distinct` — the arrays of `initialize` have no duplicates.

## Main results

* `SetProtocol.ControllerRegistry.inStep_of_run` — the invariant of all runs in which the arrays
  of `initialize` have no duplicates.
* `SetProtocol.ControllerRegistry.run_lists_removed_factory` — a run in which they have.
-/

namespace SetProtocol

open Checked Transition Register

namespace ControllerRegistry

/-! ## Calls of the controller -/

/-- A call of a function of the controller. -/
inductive Action
  | initializeController (msgSender : Address) (factories modules resources : List Address)
    (resourceIds : List ℕ)
  | addSet (msgSender setToken : Address)
  | removeSet (msgSender setToken : Address)
  | addFactory (msgSender factory : Address)
  | removeFactory (msgSender factory : Address)
  | addModule (msgSender module : Address)
  | removeModule (msgSender module : Address)
  | addResource (msgSender resource : Address) (id : ℕ)
  | removeResource (msgSender : Address) (id : ℕ)
  | addFee (msgSender module : Address) (feeType newFeePercentage : ℕ)
  | editFee (msgSender module : Address) (feeType newFeePercentage : ℕ)
  | editFeeRecipient (msgSender newFeeRecipient : Address)
  | transferOwnership (msgSender newOwner : Address)
  | renounceOwnership (msgSender : Address)

/-- The effect of a call. -/
def step : Action → Controller → Except Revert Controller
  | .initializeController msgSender factories modules resources resourceIds, c =>
    c.initializeController msgSender factories modules resources resourceIds
  | .addSet msgSender setToken, c => c.addSet msgSender setToken
  | .removeSet msgSender setToken, c => c.removeSet msgSender setToken
  | .addFactory msgSender factory, c => c.addFactory msgSender factory
  | .removeFactory msgSender factory, c => c.removeFactory msgSender factory
  | .addModule msgSender module, c => c.addModule msgSender module
  | .removeModule msgSender module, c => c.removeModule msgSender module
  | .addResource msgSender resource id, c => c.addResource msgSender resource id
  | .removeResource msgSender id, c => c.removeResource msgSender id
  | .addFee msgSender module feeType fee, c => c.addFee msgSender module feeType fee
  | .editFee msgSender module feeType fee, c => c.editFee msgSender module feeType fee
  | .editFeeRecipient msgSender recipient, c => c.editFeeRecipient msgSender recipient
  | .transferOwnership msgSender newOwner, c => c.transferOwnership msgSender newOwner
  | .renounceOwnership msgSender, c => c.renounceOwnership msgSender

/-- The arrays that `initialize` copies have no duplicates. -/
def Distinct : Action → Controller → Prop
  | .initializeController _ factories modules resources _, _ =>
    factories.Nodup ∧ modules.Nodup ∧ resources.Nodup
  | _, _ => True

/-! ## Ids -/

/-- Each id that is taken leads to an enabled resource, and no two ids lead to the same one. -/
def IdsKept (isResource : Address → Bool) (resourceId : ℕ → Address) : Prop :=
  ∀ id, resourceId id ≠ zeroAddress →
    isResource (resourceId id) = true ∧ ∀ id', resourceId id' = resourceId id → id' = id

section Ids

variable {isResource : Address → Bool} {resourceId : ℕ → Address} {resource : Address} {id : ℕ}

/-- An id can be given to a resource that is new. -/
theorem IdsKept.set (h : IdsKept isResource resourceId) (new : isResource resource = false) :
    IdsKept (Function.update isResource resource true)
      (Function.update resourceId id resource) := by
  -- the ids that were taken lead to other resources
  have hold : ∀ i, resourceId i ≠ zeroAddress → resourceId i ≠ resource := by
    intro i hi heq
    have := (h i hi).1
    rw [heq, new] at this
    cases this
  intro i hi
  rcases eq_or_ne i id with rfl | hne
  · rw [Function.update_self] at hi ⊢
    refine ⟨Function.update_self _ _ _, fun j hj => ?_⟩
    by_contra hji
    rw [Function.update_of_ne hji] at hj
    exact hold j (hj ▸ hi) hj
  · rw [Function.update_of_ne hne] at hi ⊢
    obtain ⟨hflag, hunique⟩ := h i hi
    refine ⟨by rw [Function.update_of_ne (hold i hi), hflag], fun j hj => ?_⟩
    rcases eq_or_ne j id with rfl | hj'
    · rw [Function.update_self] at hj
      exact absurd hj.symm (hold i hi)
    · rw [Function.update_of_ne hj'] at hj
      exact hunique j hj

/-- An id can be taken from its resource. -/
theorem IdsKept.clear (h : IdsKept isResource resourceId) (taken : resourceId id ≠ zeroAddress) :
    IdsKept (Function.update isResource (resourceId id) false)
      (Function.update resourceId id zeroAddress) := by
  intro i hi
  rcases eq_or_ne i id with rfl | hne
  · rw [Function.update_self] at hi
    exact absurd rfl hi
  · rw [Function.update_of_ne hne] at hi ⊢
    obtain ⟨hflag, hunique⟩ := h i hi
    have hother : resourceId i ≠ resourceId id := fun heq => hne ((h id taken).2 i heq)
    refine ⟨by rw [Function.update_of_ne hother, hflag], fun j hj => ?_⟩
    rcases eq_or_ne j id with rfl | hj'
    · rw [Function.update_self] at hj
      exact absurd hj.symm hi
    · rw [Function.update_of_ne hj'] at hj
      exact hunique j hj

end Ids

/-! ## The invariant -/

/-- Lists, flags and ids are in step. -/
structure Registered (c : Controller) : Prop where
  /-- The Sets. -/
  sets : Lists c.sets fun a => c.isSet a = true
  /-- The factories. -/
  factories : Lists c.factories fun a => c.isFactory a = true
  /-- The modules. -/
  modules : Lists c.modules fun a => c.isModule a = true
  /-- The resources. -/
  resources : Lists c.resources fun a => c.isResource a = true
  /-- The ids of resources. -/
  ids : IdsKept c.isResource c.resourceId

/-- What holds in addition before `initialize`: nothing is listed. -/
structure Kept (c : Controller) : Prop extends Registered c where
  /-- No factories, modules and resources. -/
  empty : c.isInitialized = false → c.factories = [] ∧ c.modules = [] ∧ c.resources = []

variable {c c' : Controller} {msgSender entry : Address} {list list' : List Address}
  {flags flags' : Address → Bool} {reason : Revert}

/-- `addEntry` appends an entry that is new. -/
theorem addEntry_spec (h : c.addEntry msgSender list flags reason entry = .ok (list', flags'))
    (hl : Lists list fun a => flags a = true) :
    c.isInitialized = true ∧ Lists list' fun a => flags' a = true := by
  simp only [Controller.addEntry, bind_eq_ok, require_eq_ok, pure_eq_ok, Prod.mk.injEq] at h
  obtain ⟨-, hinit, -, -, -, hnew, rfl, rfl⟩ := h
  refine ⟨hinit, hl.set ?_⟩
  rw [hnew]
  decide

/-- `removeEntry` erases an entry. -/
theorem removeEntry_spec
    (h : c.removeEntry msgSender list flags reason entry = .ok (list', flags'))
    (hl : Lists list fun a => flags a = true) :
    c.isInitialized = true ∧ Lists list' fun a => flags' a = true := by
  simp only [Controller.removeEntry, bind_eq_ok, require_eq_ok, pure_eq_ok, Prod.mk.injEq,
    AddressArrayUtils.remove_eq_ok] at h
  obtain ⟨-, hinit, -, -, -, -, _, ⟨-, rfl⟩, rfl, rfl⟩ := h
  exact ⟨hinit, hl.clear (by decide)⟩

/-- The loop of `initialize` that sets flags. -/
theorem foldlM_flagRound (hl : list.Nodup) (hflags : ∀ a, flags a = false)
    (h : list.foldlM Controller.flagRound flags = .ok flags') :
    Lists list fun a => flags' a = true := by
  refine ⟨hl, fun a => ?_⟩
  have hdone := foldlM_rest (fun rest f => ∀ a, f a = true ∨ a ∈ rest ↔ a ∈ list)
    (fun b rest f f' hf hround => ?_) (fun a => by simp [hflags a]) h
  · simpa using (hdone a).symm
  · simp only [Controller.flagRound, bind_eq_ok, pure_eq_ok] at hround
    obtain ⟨-, -, rfl⟩ := hround
    intro x
    rw [← hf x, update_eq_iff_of_set, List.mem_cons]
    tauto

/-- The loop of `initialize` over resources: the flags of the resources are set, and each id leads
to its resource. -/
theorem foldlM_resourceRound {resources : List Address} {resourceIds : List ℕ}
    {kept : (Address → Bool) × (ℕ → Address)} (hl : resources.Nodup)
    (hlen : resources.length = resourceIds.length) (hflags : ∀ a, flags a = false)
    {resourceId : ℕ → Address} (hids : IdsKept flags resourceId)
    (h : (resources.zip resourceIds).foldlM Controller.resourceRound (flags, resourceId) =
      .ok kept) :
    Lists resources (fun a => kept.1 a = true) ∧ IdsKept kept.1 kept.2 := by
  have hfst : (resources.zip resourceIds).map Prod.fst = resources :=
    List.map_fst_zip (Nat.le_of_eq hlen)
  have hdone := foldlM_rest (fun rest (kept : (Address → Bool) × (ℕ → Address)) =>
      (rest.map Prod.fst).Nodup ∧ (∀ a ∈ rest.map Prod.fst, a ∈ resources) ∧
        (∀ a, kept.1 a = true ↔ a ∈ resources ∧ a ∉ rest.map Prod.fst) ∧ IdsKept kept.1 kept.2)
    (fun entry rest kept kept' hkept hround => ?_)
    ⟨hfst.symm ▸ hl, fun a ha => hfst ▸ ha, fun a => by simp [hfst, hflags a], hids⟩ h
  · obtain ⟨-, -, hflag, hkept⟩ := hdone
    exact ⟨⟨hl, fun a => by simp [hflag a]⟩, hkept⟩
  · obtain ⟨hnodup, hsub, hflag, hkept⟩ := hkept
    simp only [Controller.resourceRound, bind_eq_ok, require_eq_ok, pure_eq_ok] at hround
    obtain ⟨-, -, -, -, rfl⟩ := hround
    rw [List.map_cons] at hnodup hsub hflag
    obtain ⟨hnot, hnodup⟩ := List.nodup_cons.mp hnodup
    -- the resource of this round is still to be flagged
    have hnew : kept.1 entry.1 = false := by
      rw [← Bool.not_eq_true, hflag]
      simp
    refine ⟨hnodup, fun a ha => hsub a (List.mem_cons_of_mem _ ha), fun a => ?_, hkept.set hnew⟩
    rw [update_eq_iff_of_set, hflag, List.mem_cons]
    constructor
    · rintro (rfl | ⟨ha, hrest⟩)
      · exact ⟨hsub _ List.mem_cons_self, hnot⟩
      · exact ⟨ha, fun hmem => hrest (.inr hmem)⟩
    · rintro ⟨ha, hrest⟩
      by_cases hae : a = entry.1
      · exact .inl hae
      · exact .inr ⟨ha, by tauto⟩

/-- `initialize` with arrays without duplicates keeps lists, flags and ids in step. -/
theorem Kept.initializeController {factories modules resources : List Address}
    {resourceIds : List ℕ} (hc : Kept c) (hf : factories.Nodup) (hm : modules.Nodup)
    (hr : resources.Nodup)
    (h : c.initializeController msgSender factories modules resources resourceIds = .ok c') :
    Kept c' := by
  simp only [Controller.initializeController, bind_eq_ok, require_eq_ok, pure_eq_ok,
    Prod.exists] at h
  obtain ⟨-, -, -, hinit, -, hlen, isFactory, hfactory, isModule, hmodule, isResource, resourceId,
    hresource, rfl⟩ := h
  obtain ⟨hnof, hnom, hnor⟩ := hc.empty hinit
  have hfactories : ∀ a, c.isFactory a = false := (hnof ▸ hc.factories).eq_false_of_nil
  have hmodules : ∀ a, c.isModule a = false := (hnom ▸ hc.modules).eq_false_of_nil
  have hresources : ∀ a, c.isResource a = false := (hnor ▸ hc.resources).eq_false_of_nil
  obtain ⟨hlists, hids⟩ := foldlM_resourceRound hr hlen hresources hc.ids hresource
  exact
    { sets := hc.sets
      factories := foldlM_flagRound hf hfactories hfactory
      modules := foldlM_flagRound hm hmodules hmodule
      resources := hlists
      ids := hids
      empty := fun h => (by cases h) }

/-- Before `initialize` there is nothing to tell of a controller that is initialized. -/
private theorem kept_of_registered (hinit : c.isInitialized = true) (hc : Registered c) : Kept c :=
  ⟨hc, fun h => absurd (hinit.symm.trans h) (by decide)⟩

/-- Every call keeps lists, flags and ids in step. -/
theorem Kept.step {a : Action} (hc : Kept c) (distinct : Distinct a c)
    (h : ControllerRegistry.step a c = .ok c') : Kept c' := by
  cases a with
  | initializeController msgSender factories modules resources resourceIds =>
    obtain ⟨hf, hm, hr⟩ := distinct
    exact hc.initializeController hf hm hr h
  | addSet msgSender setToken =>
    simp only [ControllerRegistry.step, Controller.addSet, bind_eq_ok, require_eq_ok,
      pure_eq_ok] at h
    obtain ⟨-, hinit, -, -, -, hnew, rfl⟩ := h
    refine kept_of_registered hinit { hc.toRegistered with sets := hc.sets.set ?_ }
    rw [hnew]
    decide
  | removeSet msgSender setToken =>
    simp only [ControllerRegistry.step, Controller.removeSet, bind_eq_ok, pure_eq_ok,
      Prod.exists] at h
    obtain ⟨list, flags, hremove, rfl⟩ := h
    obtain ⟨hinit, hlists⟩ := removeEntry_spec hremove hc.sets
    exact kept_of_registered hinit { hc.toRegistered with sets := hlists }
  | addFactory msgSender factory =>
    simp only [ControllerRegistry.step, Controller.addFactory, bind_eq_ok, pure_eq_ok,
      Prod.exists] at h
    obtain ⟨list, flags, hadd, rfl⟩ := h
    obtain ⟨hinit, hlists⟩ := addEntry_spec hadd hc.factories
    exact kept_of_registered hinit { hc.toRegistered with factories := hlists }
  | removeFactory msgSender factory =>
    simp only [ControllerRegistry.step, Controller.removeFactory, bind_eq_ok, pure_eq_ok,
      Prod.exists] at h
    obtain ⟨list, flags, hremove, rfl⟩ := h
    obtain ⟨hinit, hlists⟩ := removeEntry_spec hremove hc.factories
    exact kept_of_registered hinit { hc.toRegistered with factories := hlists }
  | addModule msgSender module =>
    simp only [ControllerRegistry.step, Controller.addModule, bind_eq_ok, pure_eq_ok,
      Prod.exists] at h
    obtain ⟨list, flags, hadd, rfl⟩ := h
    obtain ⟨hinit, hlists⟩ := addEntry_spec hadd hc.modules
    exact kept_of_registered hinit { hc.toRegistered with modules := hlists }
  | removeModule msgSender module =>
    simp only [ControllerRegistry.step, Controller.removeModule, bind_eq_ok, pure_eq_ok,
      Prod.exists] at h
    obtain ⟨list, flags, hremove, rfl⟩ := h
    obtain ⟨hinit, hlists⟩ := removeEntry_spec hremove hc.modules
    exact kept_of_registered hinit { hc.toRegistered with modules := hlists }
  | addResource msgSender resource id =>
    simp only [ControllerRegistry.step, Controller.addResource, bind_eq_ok, require_eq_ok,
      pure_eq_ok] at h
    obtain ⟨-, hinit, -, -, -, hnew, -, -, rfl⟩ := h
    refine kept_of_registered hinit { hc.toRegistered with
      resources := hc.resources.set ?_
      ids := hc.ids.set hnew }
    rw [hnew]
    decide
  | removeResource msgSender id =>
    simp only [ControllerRegistry.step, Controller.removeResource, bind_eq_ok, require_eq_ok,
      pure_eq_ok, AddressArrayUtils.remove_eq_ok] at h
    obtain ⟨-, hinit, -, -, -, htaken, _, ⟨-, rfl⟩, rfl⟩ := h
    exact kept_of_registered hinit { hc.toRegistered with
      resources := hc.resources.clear (by decide)
      ids := hc.ids.clear htaken }
  | addFee msgSender module feeType newFeePercentage =>
    simp only [ControllerRegistry.step, Controller.addFee, Controller.writeFee, bind_eq_ok,
      pure_eq_ok] at h
    obtain ⟨-, -, -, -, -, -, -, -, rfl⟩ := h
    exact { hc.toRegistered with empty := hc.empty }
  | editFee msgSender module feeType newFeePercentage =>
    simp only [ControllerRegistry.step, Controller.editFee, Controller.writeFee, bind_eq_ok,
      pure_eq_ok] at h
    obtain ⟨-, -, -, -, -, -, -, -, rfl⟩ := h
    exact { hc.toRegistered with empty := hc.empty }
  | editFeeRecipient msgSender newFeeRecipient =>
    simp only [ControllerRegistry.step, Controller.editFeeRecipient, bind_eq_ok, pure_eq_ok] at h
    obtain ⟨-, -, -, -, -, -, rfl⟩ := h
    exact { hc.toRegistered with empty := hc.empty }
  | transferOwnership msgSender newOwner =>
    simp only [ControllerRegistry.step, Controller.transferOwnership, bind_eq_ok, pure_eq_ok] at h
    obtain ⟨-, -, -, -, rfl⟩ := h
    exact { hc.toRegistered with empty := hc.empty }
  | renounceOwnership msgSender =>
    simp only [ControllerRegistry.step, Controller.renounceOwnership, bind_eq_ok, pure_eq_ok] at h
    obtain ⟨-, -, rfl⟩ := h
    exact { hc.toRegistered with empty := hc.empty }

/-- The controller that its constructor makes lists nothing. -/
theorem kept_deployed (owner feeRecipient : Address) :
    Kept (Controller.deployed owner feeRecipient) where
  sets := Lists.nil fun _ => Bool.false_ne_true
  factories := Lists.nil fun _ => Bool.false_ne_true
  modules := Lists.nil fun _ => Bool.false_ne_true
  resources := Lists.nil fun _ => Bool.false_ne_true
  ids := fun _ h => absurd rfl h
  empty := fun _ => ⟨rfl, rfl, rfl⟩

/-- **The registry of the controller**: from its deployment on, after any calls with any arguments
of which `initialize` gets arrays without duplicates, each of the four lists has no duplicates and
holds exactly the addresses with the flag, and each id that is taken leads to an enabled resource
that no other id leads to. -/
theorem inStep_of_run {owner feeRecipient : Address}
    (reached : ReachWhen step Distinct (Controller.deployed owner feeRecipient) c) :
    Registered c :=
  (reached.invariant Kept (fun _ _ _ hc distinct h => hc.step distinct h)
    (kept_deployed owner feeRecipient)).toRegistered

/-! ## Examples -/

instance : ∀ a c, Decidable (Distinct a c)
  | .initializeController _ _ _ _ _, _ => inferInstanceAs (Decidable (_ ∧ _ ∧ _))
  | .addSet _ _, _ => .isTrue trivial
  | .removeSet _ _, _ => .isTrue trivial
  | .addFactory _ _, _ => .isTrue trivial
  | .removeFactory _ _, _ => .isTrue trivial
  | .addModule _ _, _ => .isTrue trivial
  | .removeModule _ _, _ => .isTrue trivial
  | .addResource _ _ _, _ => .isTrue trivial
  | .removeResource _ _, _ => .isTrue trivial
  | .addFee _ _ _ _, _ => .isTrue trivial
  | .editFee _ _ _ _, _ => .isTrue trivial
  | .editFeeRecipient _ _, _ => .isTrue trivial
  | .transferOwnership _ _, _ => .isTrue trivial
  | .renounceOwnership _, _ => .isTrue trivial

/-- The owner `1` enables a factory, which registers a Set, and moves a resource to another id. -/
theorem inStep_of_run_example :
    ∃ c, ReachWhen step Distinct (Controller.deployed 1 9) c ∧ c.sets = [100] ∧
      c.resourceId 5 = 7 ∧ Registered c := by
  obtain ⟨c, hrun, hlists⟩ := exists_of_yields
    (x := runAll (guarded step Distinct "")
      [.initializeController 1 [3] [2] [7] [0], .addSet 3 100, .removeResource 1 0,
        .addResource 1 7 5, .removeFactory 1 3] (Controller.deployed 1 9))
    (p := fun c => c.sets = [100] ∧ c.resourceId 5 = 7) (by decide +kernel)
  obtain ⟨hsets, hid⟩ := of_decide_eq_true hlists
  have hreached := reachWhen_of_runAll hrun
  exact ⟨c, hreached, hsets, hid, inStep_of_run hreached⟩

/-- The owner passes the factory `3` twice to `initialize`, and the resource `7` with two ids, and
removes both later. The factory stays listed without its flag, and the other id still leads to the
resource. -/
theorem run_lists_removed_factory :
    ∃ c, Reach step (Controller.deployed 1 9) c ∧ c.factories = [3] ∧ c.isFactory 3 = false ∧
      c.resourceId 1 = 7 ∧ c.isResource 7 = false ∧ ¬Registered c := by
  obtain ⟨c, hrun, hlists⟩ := exists_of_yields
    (x := runAll step
      [.initializeController 1 [3, 3] [2] [7, 7] [0, 1], .removeFactory 1 3, .removeResource 1 0]
      (Controller.deployed 1 9))
    (p := fun c => c.factories = [3] ∧ c.isFactory 3 = false ∧ c.resourceId 1 = 7 ∧
      c.isResource 7 = false) (by decide +kernel)
  obtain ⟨hfactories, hflag, hid, hresource⟩ := of_decide_eq_true hlists
  refine ⟨c, reach_of_runAll hrun, hfactories, hflag, hid, hresource, fun hc => ?_⟩
  have hlisted := (hc.factories.mem_iff 3).mp (by rw [hfactories]; exact List.mem_singleton_self 3)
  rw [hflag] at hlisted
  cases hlisted

end ControllerRegistry

end SetProtocol
