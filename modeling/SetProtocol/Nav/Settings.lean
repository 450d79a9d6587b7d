import SetProtocol.Lib.Register
import SetProtocol.Modules.NavIssuanceModule
import SetProtocol.SetTokens.Lifecycle

set_option relaxedAutoImplicit false
set_option autoImplicit false

/-!
# The settings of the NAV issuance module

For each Set the module keeps a struct of settings, with the reserve assets as a list in it, and the
reserve assets once more as a mapping outside of it. `initialize` writes both from its arguments,
`removeModule` clears the mapping for the assets of the list before it deletes the struct, and the
manager edits single assets, fees and bounds in between.

A system of calls of the module alternates with steps in which everything else on the chain changes
in any way: other contracts do not write the storage of the module, and do not change whether it is
initialized on a Set.

## Main definitions

* `SetProtocol.NavSettings.Action` — a call of the module, or what happens elsewhere.
* `SetProtocol.NavSettings.Bounded` — the bounds on fees, premium, supply and recipient.
* `SetProtocol.NavSettings.Kept` — the invariant of one Set.

## Main results

* `SetProtocol.NavSettings.settingsKept_of_run` — the invariant of all runs.
-/

namespace SetProtocol

open Checked Transition Register

namespace NavSettings

open NavIssuanceModule

/-! ## Calls of the module -/

/-- A call that configures the module, or anything that happens elsewhere. -/
inductive Action
  | initializeModule (msgSender setToken : Address) (settings : NAVIssuanceSettings)
  | addReserveAsset (msgSender setToken reserveAsset : Address)
  | removeReserveAsset (msgSender setToken reserveAsset : Address)
  | editPremium (msgSender setToken : Address) (premiumPercentage : ℕ)
  | editManagerFee (msgSender setToken : Address) (managerFeePercentage managerFeeIndex : ℕ)
  | editFeeRecipient (msgSender setToken managerFeeRecipient : Address)
  /-- The manager removes the module from a Set, which calls the module. -/
  | removeModule (msgSender setToken : Address)
  /-- A contract that is no Set with this module calls `removeModule` of the module. -/
  | callRemoveModule (msgSender : Address)
  /-- Everything but the module changes to what it is in another world. -/
  | elsewhere (w' : World)

/-- The world `w'`, with the storage of the module as in `w` and initialized on the same Sets. -/
def elsewhere (nav : Address) (w w' : World) : World :=
  { w' with
    navIssuanceSettings := w.navIssuanceSettings
    isReserveAsset := w.isReserveAsset
    setTokens := fun a => SetToken.keepInitialized nav (w.setTokens a) (w'.setTokens a) }

/-- The effect of an action, for the module at the address `nav`. -/
def step (nav : Address) : Action → World → Except Revert World
  | .initializeModule msgSender setToken settings, w =>
    NavIssuanceModule.initializeModule nav w msgSender setToken settings
  | .addReserveAsset msgSender setToken reserveAsset, w =>
    NavIssuanceModule.addReserveAsset nav w msgSender setToken reserveAsset
  | .removeReserveAsset msgSender setToken reserveAsset, w =>
    NavIssuanceModule.removeReserveAsset nav w msgSender setToken reserveAsset
  | .editPremium msgSender setToken premiumPercentage, w =>
    NavIssuanceModule.editPremium nav w msgSender setToken premiumPercentage
  | .editManagerFee msgSender setToken managerFeePercentage managerFeeIndex, w =>
    NavIssuanceModule.editManagerFee nav w msgSender setToken managerFeePercentage managerFeeIndex
  | .editFeeRecipient msgSender setToken managerFeeRecipient, w =>
    NavIssuanceModule.editFeeRecipient nav w msgSender setToken managerFeeRecipient
  | .removeModule msgSender setToken, w =>
    w.removeModule msgSender setToken nav fun w => .ok (NavIssuanceModule.removeModule w setToken)
  | .callRemoveModule msgSender, w => do
    require ((w.setTokens msgSender).moduleStates nav ≠ .initialized)
      "a Set calls the module from its removeModule only"
    return NavIssuanceModule.removeModule w msgSender
  | .elsewhere w', w => .ok (elsewhere nav w w')

/-! ## The invariant -/

/-- The bounds that the settings of an initialized module meet. -/
structure Bounded (settings : NAVIssuanceSettings) : Prop where
  /-- The fee on issuance is at most the bound. -/
  issueFee : settings.managerFees.1 ≤ settings.maxManagerFee
  /-- The fee on redemption is at most the bound. -/
  redeemFee : settings.managerFees.2 ≤ settings.maxManagerFee
  /-- The bound on fees is less than one. -/
  maxManagerFee : settings.maxManagerFee < preciseUnit
  /-- The premium is at most its bound. -/
  premium : settings.premiumPercentage ≤ settings.maxPremiumPercentage
  /-- The bound on the premium is less than one. -/
  maxPremium : settings.maxPremiumPercentage < preciseUnit
  /-- Issuance and redemption need some supply. -/
  supply : 0 < settings.minSetTokenSupply
  /-- There is a recipient of fees. -/
  recipient : settings.feeRecipient ≠ zeroAddress

/-- The settings of a Set: the list of reserve assets is in step with the mapping, the settings of
an initialized module meet the bounds, and otherwise nothing is listed. -/
structure Kept (nav : Address) (w : World) (setToken : Address) : Prop where
  /-- The reserve assets are listed, each once. -/
  assets : Lists (w.navIssuanceSettings setToken).reserveAssets
    fun a => w.isReserveAsset setToken a = true
  /-- The bounds. -/
  bounded : (w.setTokens setToken).moduleStates nav = .initialized →
    Bounded (w.navIssuanceSettings setToken)
  /-- A Set without the module has no reserve assets. -/
  empty : (w.setTokens setToken).moduleStates nav ≠ .initialized →
    (w.navIssuanceSettings setToken).reserveAssets = []

variable {nav msgSender setToken reserveAsset x : Address} {w w' : World}

/-- What is kept of a Set depends on its settings, its flags and the state of the module on it. -/
theorem Kept.of_same (h : Kept nav w x) (hs : w'.navIssuanceSettings x = w.navIssuanceSettings x)
    (hf : w'.isReserveAsset x = w.isReserveAsset x)
    (hi : (w'.setTokens x).moduleStates nav = .initialized ↔
      (w.setTokens x).moduleStates nav = .initialized) : Kept nav w' x := by
  refine ⟨?_, fun h' => ?_, fun h' => ?_⟩
  · rw [hs, hf]
    exact h.assets
  · rw [hs]
    exact h.bounded (hi.mp h')
  · rw [hs]
    exact h.empty fun hw => h' (hi.mpr hw)

/-- An edit of settings under the bounds, by the manager of a Set with the module. -/
theorem Kept.setSettings (hw : ∀ x, Kept nav w x)
    (hinit : (w.setTokens setToken).moduleStates nav = .initialized)
    {settings : NAVIssuanceSettings}
    (hassets : settings.reserveAssets = (w.navIssuanceSettings setToken).reserveAssets)
    (hbounded : Bounded settings) :
    ∀ x, Kept nav (NavIssuanceModule.setSettings w setToken settings) x := by
  intro x
  rcases eq_or_ne x setToken with rfl | hx
  · refine ⟨?_, fun _ => ?_, fun h => absurd hinit h⟩
    · simp only [NavIssuanceModule.setSettings, Function.update_self, hassets]
      exact (hw x).assets
    · simpa only [NavIssuanceModule.setSettings, Function.update_self] using hbounded
  · exact (hw x).of_same (Function.update_of_ne hx _ _) rfl Iff.rfl

/-- An edit of the list together with its flag, by the manager of a Set with the module. -/
theorem Kept.setAssets (hw : ∀ x, Kept nav w x)
    (hinit : (w.setTokens setToken).moduleStates nav = .initialized) {reserveAssets : List Address}
    {flag : Bool}
    (hlists : Lists reserveAssets
      fun a => Function.update (w.isReserveAsset setToken) reserveAsset flag a = true) :
    ∀ x, Kept nav (setReserveAsset (NavIssuanceModule.setSettings w setToken
      { w.navIssuanceSettings setToken with reserveAssets := reserveAssets }) setToken reserveAsset
        flag) x := by
  intro x
  rcases eq_or_ne x setToken with rfl | hx
  · have hb := (hw x).bounded hinit
    refine ⟨?_, fun _ => ?_, fun h => absurd hinit h⟩
    · simpa only [setReserveAsset, NavIssuanceModule.setSettings, Function.update_self] using hlists
    · simp only [setReserveAsset, NavIssuanceModule.setSettings, Function.update_self]
      exact ⟨hb.issueFee, hb.redeemFee, hb.maxManagerFee, hb.premium, hb.maxPremium, hb.supply,
        hb.recipient⟩
  · exact (hw x).of_same (Function.update_of_ne hx _ _) (Function.update_of_ne hx _ _) Iff.rfl

/-! ## Initialization and removal -/

/-- Write all flags of a Set. -/
def setFlags (w : World) (setToken : Address) (flags : Address → Bool) : World :=
  { w with isReserveAsset := Function.update w.isReserveAsset setToken flags }

/-- Flags that are written one by one are written together. -/
theorem setReserveAsset_setFlags {flags : Address → Bool} {flag : Bool} :
    setReserveAsset (setFlags w setToken flags) setToken reserveAsset flag =
      setFlags w setToken (Function.update flags reserveAsset flag) := by
  simp [setReserveAsset, setFlags]

/-- The loop of `initialize` flags the assets, each of which is new. -/
theorem foldlM_flags {reserveAssets : List Address}
    (hnone : ∀ a, w.isReserveAsset setToken a = false)
    (h : reserveAssets.foldlM (fun w reserveAsset => do
      require (w.isReserveAsset setToken reserveAsset = false) "Reserve assets must be unique"
      return setReserveAsset w setToken reserveAsset true) w = .ok w') :
    ∃ flags, w' = setFlags w setToken flags ∧ Lists reserveAssets fun a => flags a = true := by
  have hdone := foldlM_rest (fun rest w' => ∃ before flags, before ++ rest = reserveAssets ∧
      w' = setFlags w setToken flags ∧ Lists before fun a => flags a = true)
    (fun a rest w₁ w₂ hw₁ hround => ?_) ⟨[], w.isReserveAsset setToken, rfl, ?_, ?_⟩ h
  · obtain ⟨before, flags, hbefore, hw', hlists⟩ := hdone
    rw [List.append_nil] at hbefore
    exact ⟨flags, hw', hbefore ▸ hlists⟩
  · obtain ⟨before, flags, hbefore, rfl, hlists⟩ := hw₁
    simp only [bind_eq_ok, require_eq_ok, pure_eq_ok] at hround
    obtain ⟨-, hnew, rfl⟩ := hround
    have hnew : flags a = false := by simpa [setFlags] using hnew
    refine ⟨before ++ [a], _, ?_, setReserveAsset_setFlags, hlists.set ?_⟩
    · rw [← hbefore, List.append_assoc, List.singleton_append]
    · rw [hnew]
      decide
  · simp [setFlags]
  · refine Lists.nil fun a => ?_
    rw [hnone a]
    decide

/-- `initialize` writes settings under the bounds and flags their reserve assets. -/
theorem Kept.initializeModule {settings : NAVIssuanceSettings} (hw : ∀ x, Kept nav w x)
    (h : NavIssuanceModule.initializeModule nav w msgSender setToken settings = .ok w') :
    ∀ x, Kept nav w' x := by
  simp only [NavIssuanceModule.initializeModule, bind_eq_ok, require_eq_ok] at h
  obtain ⟨-, -, -, -, -, -, -, hmaxFee, -, hmaxPremium, -, hissue, -, hredeem, -, hpremium, -,
    hrecipient, -, hsupply, w₁, hflags, hinit⟩ := h
  obtain ⟨hpending, s, rfl, hs⟩ := World.initializeModule_spec hinit
  -- the Set did not have the module, so nothing is flagged
  have hstate : (w.setTokens setToken).moduleStates nav ≠ .initialized := by
    have hsame : w₁.setTokens = w.setTokens := foldlM_preserves
      (fun w' => w'.setTokens = w.setTokens) (fun a _ w₁ w₂ hw₁ hround => by
        simp only [bind_eq_ok, pure_eq_ok] at hround
        obtain ⟨-, -, rfl⟩ := hround
        exact hw₁) rfl hflags
    have hpending' : (w₁.setTokens setToken).moduleStates nav = .pending := hpending
    rw [hsame] at hpending'
    rw [hpending']
    decide
  have hnone : ∀ a, w.isReserveAsset setToken a = false :=
    ((hw setToken).empty hstate ▸ (hw setToken).assets).eq_false_of_nil
  obtain ⟨flags, rfl, hlists⟩ := foldlM_flags hnone hflags
  intro x
  rcases eq_or_ne x setToken with rfl | hx
  · refine ⟨?_, fun _ => ?_, fun h => absurd ?_ h⟩
    · simpa only [World.setSetToken, NavIssuanceModule.setSettings, setFlags, Function.update_self]
        using hlists
    · simp only [World.setSetToken, NavIssuanceModule.setSettings, setFlags, Function.update_self]
      exact ⟨hissue, hredeem, hmaxFee, hpremium, hmaxPremium, hsupply, hrecipient⟩
    · rw [World.setTokens_setSetToken, hs]
  · refine (hw x).of_same (Function.update_of_ne hx _ _) (Function.update_of_ne hx _ _) ?_
    simp only [World.setSetToken, Function.update_of_ne hx]
    rfl

/-- `removeModule` clears the flags of the listed assets and deletes the settings. -/
theorem removeModule_eq (w : World) (setToken : Address) :
    NavIssuanceModule.removeModule w setToken =
      NavIssuanceModule.setSettings
        (setFlags w setToken ((w.navIssuanceSettings setToken).reserveAssets.foldl
          (fun flags a => Function.update flags a false) (w.isReserveAsset setToken)))
        setToken {} := by
  have hself : setFlags w setToken (w.isReserveAsset setToken) = w := by
    simp [setFlags]
  have hloop : (w.navIssuanceSettings setToken).reserveAssets.foldl
      (fun w a => setReserveAsset w setToken a false)
      (setFlags w setToken (w.isReserveAsset setToken)) =
      setFlags w setToken ((w.navIssuanceSettings setToken).reserveAssets.foldl
        (fun flags a => Function.update flags a false) (w.isReserveAsset setToken)) :=
    List.foldl_hom _ fun flags a => setReserveAsset_setFlags
  rw [hself] at hloop
  unfold NavIssuanceModule.removeModule
  rw [hloop]

/-- What `removeModule` leaves of a Set is in step, and nothing is listed. Other Sets stay as they
are. -/
theorem removeModule_spec (hw : ∀ x, Kept nav w x) (setToken : Address) :
    let w' := NavIssuanceModule.removeModule w setToken
    Lists (w'.navIssuanceSettings setToken).reserveAssets
        (fun a => w'.isReserveAsset setToken a = true) ∧
      (w'.navIssuanceSettings setToken).reserveAssets = [] ∧
      w'.setTokens = w.setTokens ∧
      ∀ x, x ≠ setToken →
        w'.navIssuanceSettings x = w.navIssuanceSettings x ∧
        w'.isReserveAsset x = w.isReserveAsset x := by
  rw [removeModule_eq]
  simp only [NavIssuanceModule.setSettings, setFlags, Function.update_self]
  refine ⟨Lists.nil fun a ha => ?_, trivial, trivial, fun x hx =>
    ⟨Function.update_of_ne hx _ _, Function.update_of_ne hx _ _⟩⟩
  -- a flag that is left would be one of an asset that is not listed
  obtain ⟨hnot, hflag⟩ := (foldl_clear_eq_iff (by decide) _ _ a).mp ha
  exact hnot (((hw setToken).assets.mem_iff a).mpr hflag)

/-- The manager removes the module from a Set. -/
theorem Kept.removeModule (hw : ∀ x, Kept nav w x)
    (h : w.removeModule msgSender setToken nav
      (fun w => .ok (NavIssuanceModule.removeModule w setToken)) = .ok w') :
    ∀ x, Kept nav w' x := by
  obtain ⟨-, w₁, s, hcall, rfl, hs⟩ := World.removeModule_spec h
  obtain rfl := Except.ok.inj hcall
  obtain ⟨hlists, hempty, hsets, hothers⟩ := removeModule_spec hw setToken
  intro x
  rcases eq_or_ne x setToken with rfl | hx
  · refine ⟨hlists, fun h => absurd h ?_, fun _ => hempty⟩
    rw [World.setTokens_setSetToken, hs]
    decide
  · obtain ⟨hsettings, hflags⟩ := hothers x hx
    refine (hw x).of_same hsettings hflags ?_
    simp only [World.setSetToken, Function.update_of_ne hx, hsets]

/-! ## Runs -/

/-- Every action keeps the settings of every Set. -/
theorem Kept.step {a : Action} (hw : ∀ x, Kept nav w x)
    (h : NavSettings.step nav a w = .ok w') : ∀ x, Kept nav w' x := by
  cases a with
  | initializeModule msgSender setToken settings => exact Kept.initializeModule hw h
  | addReserveAsset msgSender setToken reserveAsset =>
    simp only [NavSettings.step, NavIssuanceModule.addReserveAsset, bind_eq_ok, require_eq_ok,
      pure_eq_ok] at h
    obtain ⟨_, hmanager, -, hnew, rfl⟩ := h
    have hinit := ModuleBase.initialized_of_onlyManagerAndValidSet hmanager
    refine Kept.setAssets hw hinit ((hw setToken).assets.set ?_)
    rw [hnew]
    decide
  | removeReserveAsset msgSender setToken reserveAsset =>
    simp only [NavSettings.step, NavIssuanceModule.removeReserveAsset, bind_eq_ok, require_eq_ok,
      pure_eq_ok, AddressArrayUtils.remove_eq_ok] at h
    obtain ⟨_, hmanager, -, -, _, ⟨-, rfl⟩, rfl⟩ := h
    have hinit := ModuleBase.initialized_of_onlyManagerAndValidSet hmanager
    exact Kept.setAssets hw hinit ((hw setToken).assets.clear (by decide))
  | editPremium msgSender setToken premiumPercentage =>
    simp only [NavSettings.step, NavIssuanceModule.editPremium, bind_eq_ok, require_eq_ok,
      pure_eq_ok] at h
    obtain ⟨_, hmanager, -, hle, rfl⟩ := h
    have hinit := ModuleBase.initialized_of_onlyManagerAndValidSet hmanager
    have hb := (hw setToken).bounded hinit
    exact Kept.setSettings hw hinit rfl ⟨hb.issueFee, hb.redeemFee, hb.maxManagerFee, hle,
      hb.maxPremium, hb.supply, hb.recipient⟩
  | editManagerFee msgSender setToken managerFeePercentage managerFeeIndex =>
    simp only [NavSettings.step, NavIssuanceModule.editManagerFee, bind_eq_ok, require_eq_ok] at h
    obtain ⟨_, hmanager, -, hle, h⟩ := h
    have hinit := ModuleBase.initialized_of_onlyManagerAndValidSet hmanager
    have hb := (hw setToken).bounded hinit
    -- the index is that of the fee on issuance or of the fee on redemption
    split at h
    · obtain rfl := Except.ok.inj h
      exact Kept.setSettings hw hinit rfl ⟨hle, hb.redeemFee, hb.maxManagerFee, hb.premium,
        hb.maxPremium, hb.supply, hb.recipient⟩
    · obtain rfl := Except.ok.inj h
      exact Kept.setSettings hw hinit rfl ⟨hb.issueFee, hle, hb.maxManagerFee, hb.premium,
        hb.maxPremium, hb.supply, hb.recipient⟩
    · cases h
  | editFeeRecipient msgSender setToken managerFeeRecipient =>
    simp only [NavSettings.step, NavIssuanceModule.editFeeRecipient, bind_eq_ok, require_eq_ok,
      pure_eq_ok] at h
    obtain ⟨_, hmanager, -, hrecipient, rfl⟩ := h
    have hinit := ModuleBase.initialized_of_onlyManagerAndValidSet hmanager
    have hb := (hw setToken).bounded hinit
    exact Kept.setSettings hw hinit rfl ⟨hb.issueFee, hb.redeemFee, hb.maxManagerFee, hb.premium,
      hb.maxPremium, hb.supply, hrecipient⟩
  | removeModule msgSender setToken => exact Kept.removeModule hw h
  | callRemoveModule msgSender =>
    simp only [NavSettings.step, bind_eq_ok, require_eq_ok, pure_eq_ok] at h
    obtain ⟨-, hstate, rfl⟩ := h
    obtain ⟨hlists, hempty, hsets, hothers⟩ := removeModule_spec hw msgSender
    intro x
    rcases eq_or_ne x msgSender with rfl | hx
    · refine ⟨hlists, fun h => absurd ?_ hstate, fun _ => hempty⟩
      rwa [hsets] at h
    · obtain ⟨hsettings, hflags⟩ := hothers x hx
      refine (hw x).of_same hsettings hflags ?_
      rw [hsets]
  | elsewhere w' =>
    obtain rfl := Except.ok.inj h
    intro x
    exact (hw x).of_same rfl rfl SetToken.keepInitialized_iff

/-- No Set uses the module yet. -/
structure Fresh (nav : Address) (w : World) : Prop where
  /-- There are no settings. -/
  settings : ∀ setToken, w.navIssuanceSettings setToken = {}
  /-- No asset is flagged. -/
  flags : ∀ setToken a, w.isReserveAsset setToken a = false
  /-- The module is not initialized. -/
  states : ∀ setToken, (w.setTokens setToken).moduleStates nav ≠ .initialized

/-- **The settings of the module**: from a state in which no Set uses the module, after any calls
that configure the module, initialize it on Sets and remove it, again and again, with anything
happening elsewhere in between, for each Set the list of reserve assets has no duplicates and holds
exactly the flagged assets, and while the module is initialized the settings meet their bounds. -/
theorem settingsKept_of_run (fresh : Fresh nav w) (reached : Reach (step nav) w w')
    (setToken : Address) :
    ((w'.navIssuanceSettings setToken).reserveAssets.Nodup ∧
      ∀ a, a ∈ (w'.navIssuanceSettings setToken).reserveAssets ↔
        w'.isReserveAsset setToken a = true) ∧
    ((w'.setTokens setToken).moduleStates nav = .initialized →
      Bounded (w'.navIssuanceSettings setToken)) := by
  have hstart : ∀ x, Kept nav w x := by
    intro x
    refine ⟨?_, fun h => absurd h (fresh.states x), fun _ => ?_⟩
    · rw [fresh.settings]
      refine Lists.nil fun a => ?_
      rw [fresh.flags]
      decide
    · rw [fresh.settings]
  have hkept := reached.invariant (fun w => ∀ x, Kept nav w x)
    (fun a w w' hw _ h => Kept.step hw h) hstart
  exact ⟨⟨(hkept setToken).assets.nodup, (hkept setToken).assets.mem_iff⟩,
    (hkept setToken).bounded⟩

/-! ## Example -/

/-- The Set `100` with the manager `3`, on which the module `7` is pending. -/
def exampleWorld : World :=
  { controller := { isSet := fun a => a = 100, isModule := fun a => a = 7 }
    setTokens := fun _ =>
      { manager := 3, moduleStates := fun a => if a = 7 then .pending else .none } }

/-- Settings with two reserve assets. -/
def exampleSettings : NAVIssuanceSettings :=
  { reserveAssets := [11, 12]
    feeRecipient := 9
    maxManagerFee := 2
    managerFees := (1, 0)
    minSetTokenSupply := 1 }

/-- The module is initialized, loses an asset, is removed, added again by the manager, and
initialized with the other asset. -/
theorem settingsKept_of_run_example :
    ∃ w, Reach (step 7) exampleWorld w ∧ (w.navIssuanceSettings 100).reserveAssets = [12] ∧
      ((w.navIssuanceSettings 100).reserveAssets.Nodup ∧
        ∀ a, a ∈ (w.navIssuanceSettings 100).reserveAssets ↔ w.isReserveAsset 100 a = true) ∧
      ((w.setTokens 100).moduleStates 7 = .initialized →
        Bounded (w.navIssuanceSettings 100)) := by
  obtain ⟨w, hrun, hassets⟩ := exists_of_yields
    (x := runAll (step 7)
      [.initializeModule 3 100 exampleSettings, .removeReserveAsset 3 100 11, .removeModule 3 100,
        .elsewhere exampleWorld,
        .initializeModule 3 100 { exampleSettings with reserveAssets := [12] }] exampleWorld)
    (p := fun w => (w.navIssuanceSettings 100).reserveAssets = [12]) (by decide +kernel)
  have hfresh : Fresh 7 exampleWorld := by
    refine ⟨fun _ => rfl, fun _ _ => rfl, fun _ => ?_⟩
    simp [exampleWorld]
  have hreached := reach_of_runAll hrun
  exact ⟨w, hreached, of_decide_eq_true hassets, settingsKept_of_run hfresh hreached 100⟩

end NavSettings

end SetProtocol
