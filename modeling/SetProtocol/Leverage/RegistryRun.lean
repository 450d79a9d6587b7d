import SetProtocol.Leverage.Registry
import SetProtocol.Lib.Transition
import SetProtocol.Modules.CompoundLeverageModule

set_option relaxedAutoImplicit false
set_option autoImplicit false

/-!
# The registry of markets over a run

The functions of the leverage module act on the registry of one Set by the operations of
`SetProtocol.Registry`. So the registries of all Sets are well kept over a run, as long as each
removal of a borrowed asset removes the entries of one pair. It need not: the asset and its market
are looked for in different lists, and governance may give an asset another market while it is
borrowed on the old one.

## Main definitions

* `SetProtocol.registry` — the registries in a state of the chain.
* `SetProtocol.RegistryRun.Action`, `step` — what happens to the registries.
* `SetProtocol.RegistryRun.RemovesPairs` — each removal removes the entries of a pair.

## Main results

* `SetProtocol.RegistryRun.wellKept_of_run` — the registries are well kept over a run of such
  removals.
* `SetProtocol.RegistryRun.run_splits_pair` — a run that leaves a market with another's asset.
-/

namespace SetProtocol

open Checked Transition

/-! ## The registry in a state -/

/-- Whether a market is entered after a call, given whether it was before. -/
def enteredAfter (comptroller setToken cToken : Address) (entered : Bool) (call : Call) : Bool :=
  if call.caller = setToken ∧ call.target = comptroller then
    match call.data with
    | .enterMarkets cTokens => entered || cTokens.contains cToken
    | .exitMarket left => entered && decide (cToken ≠ left)
    | _ => entered
  else entered

/-- Whether a Set has entered a market on the Comptroller and not exited it since. -/
def marketEntered (comptroller setToken cToken : Address) (calls : List Call) : Bool :=
  calls.foldl (enteredAfter comptroller setToken cToken) false

/-- The registries of the Sets. -/
def registry (w : World) (setToken : Address) : Registry where
  enabled := w.compoundLeverage.enabledAssets setToken
  collateral := w.compoundLeverage.collateralCTokenEnabled setToken
  borrow := w.compoundLeverage.borrowCTokenEnabled setToken
  entered cToken := marketEntered w.compoundLeverage.comptroller setToken cToken w.calls

namespace RegistryRun

open CompoundLeverageModule

variable {clm setToken cToken asset msgSender : Address} {env : Env} {w w' : World}

/-! ## Steps that leave the registry alone -/

/-- The storage of the module and the calls are left alone. -/
structure Untouched (w w' : World) : Prop where
  /-- The storage is the same. -/
  leverage : w'.compoundLeverage = w.compoundLeverage
  /-- No call was made. -/
  calls : w'.calls = w.calls

/-- What the contracts outside the protocol do, when they are called by or for the module. -/
structure OutsideUntouched (env : Env) : Prop where
  /-- Calls of a Set. -/
  call : ∀ call w w' words, env.call call w = .ok (w', words) → Untouched w w'
  /-- The accrual of interest. -/
  borrowBalance : ∀ cToken account w w' n, env.borrowBalanceCurrent cToken account w = .ok (w', n) →
    Untouched w w'
  /-- The registration with an issuance module. -/
  register : ∀ module caller setToken w w',
    env.registerToIssuanceModule module caller setToken w = .ok w' → Untouched w w'
  /-- The end of a registration. -/
  unregister : ∀ module caller setToken w w',
    env.unregisterFromIssuanceModule module caller setToken w = .ok w' → Untouched w w'

namespace Untouched

/-- Nothing is touched by doing nothing. -/
theorem refl (w : World) : Untouched w w := ⟨rfl, rfl⟩

/-- Two steps that touch nothing. -/
theorem trans {w₁ w₂ : World} (h₁ : Untouched w w₁) (h₂ : Untouched w₁ w₂) : Untouched w w₂ :=
  ⟨h₂.leverage.trans h₁.leverage, h₂.calls.trans h₁.calls⟩

/-- The registries are the same. -/
theorem registry_eq (h : Untouched w w') : registry w' = registry w := by
  unfold registry
  rw [h.leverage, h.calls]

/-- An edit of positions touches nothing. -/
theorem of_editSetToken {f : Message → SetToken → Except Revert SetToken}
    (h : w.editSetToken clm setToken f = .ok w') : Untouched w w' := by
  obtain ⟨s, -, rfl⟩ := World.editSetToken_eq_ok.mp h
  exact ⟨rfl, rfl⟩

/-- An attempt touches nothing when the call does not. -/
theorem of_attempt {call : World → Except Revert World}
    (hcall : ∀ w', call w = .ok w' → Untouched w w') : Untouched w (w.attempt call) := by
  unfold World.attempt
  split
  · exact hcall _ (by assumption)
  · exact refl w

/-- A loop of attempts touches nothing when no attempt does. -/
theorem foldl_attempt {call : Address → World → Except Revert World}
    (hcall : ∀ a w w', call a w = .ok w' → Untouched w w') (l : List Address) (w : World) :
    Untouched w (l.foldl (fun w a => w.attempt (call a)) w) := by
  induction l generalizing w with
  | nil => exact refl w
  | cons a l ih =>
    exact trans (of_attempt fun w' h => hcall a w w' h) (ih _)

/-- A round of `sync` over collateral touches nothing. -/
theorem of_syncCollateral {supply : ℕ} (h : syncCollateral clm setToken supply w cToken = .ok w') :
    Untouched w w' := by
  simp only [syncCollateral, bind_eq_ok] at h
  obtain ⟨_, -, _, -, _, -, h⟩ := h
  split_ifs at h
  · exact of_editSetToken h
  · obtain rfl : w = w' := by simpa using h
    exact refl w

/-- A round of `sync` over debt touches nothing. -/
theorem of_syncBorrow (hout : OutsideUntouched env) {supply : ℕ} {assets : List Address}
    {market : Address × ℕ} (h : syncBorrow clm env setToken supply true assets w market = .ok w') :
    Untouched w w' := by
  simp only [syncBorrow, bind_eq_ok, Prod.exists] at h
  obtain ⟨_, -, _, -, w₁, unit, hposition, h⟩ := h
  obtain ⟨n, hbalance, -, -⟩ := getBorrowPosition_eq_ok hposition
  rw [if_pos rfl] at hbalance
  have hw₁ := hout.borrowBalance _ _ _ _ _ hbalance
  split_ifs at h
  · exact hw₁.trans (of_editSetToken h)
  · obtain rfl : _ = w' := by simpa using h
    exact hw₁

/-- `sync` touches nothing. -/
theorem of_sync (hout : OutsideUntouched env) (h : sync clm env w setToken true = .ok w') :
    Untouched w w' := by
  simp only [sync, bind_eq_ok] at h
  obtain ⟨-, -, h⟩ := h
  split_ifs at h
  · simp only [bind_eq_ok] at h
    obtain ⟨w₁, hcollateral, hborrow⟩ := h
    have h₁ := foldlM_rel Untouched refl trans (fun _ _ _ _ h => of_syncCollateral h) hcollateral
    exact h₁.trans (foldlM_rel Untouched refl trans (fun _ _ _ _ h => of_syncBorrow hout h) hborrow)
  · obtain rfl : w = w' := by simpa using h
    exact refl w

end Untouched

/-! ## The functions on the registry -/

/-- The registry of the Set changes by an operation, and no other one does. The markets of the
assets stay the same. -/
structure Acts (setToken : Address) (w w' : World) (r : Registry) : Prop where
  /-- The registries. -/
  registry : registry w' = Function.update (registry w) setToken r
  /-- The market of each asset. -/
  underlyingToCToken :
    w'.compoundLeverage.underlyingToCToken = w.compoundLeverage.underlyingToCToken

/-- A call of the Set to the Comptroller changes what is entered. -/
theorem registry_of_log {data : CallData} (hleverage : w'.compoundLeverage = w.compoundLeverage)
    (hcalls : w'.calls = w.calls ++ [⟨setToken, w.compoundLeverage.comptroller, 0, data⟩]) :
    registry w' = Function.update (registry w) setToken
      { registry w setToken with
        entered := fun c => enteredAfter w.compoundLeverage.comptroller setToken c
          ((registry w setToken).entered c)
          ⟨setToken, w.compoundLeverage.comptroller, 0, data⟩ } := by
  funext t
  by_cases ht : t = setToken
  · subst ht
    rw [Function.update_self]
    simp only [registry, hleverage, hcalls, marketEntered, List.foldl_append, List.foldl_cons,
      List.foldl_nil]
  · rw [Function.update_of_ne ht]
    have hcaller : setToken ≠ t := Ne.symm ht
    simp only [registry, hleverage, hcalls, marketEntered, List.foldl_append, List.foldl_cons,
      List.foldl_nil, enteredAfter, hcaller, false_and, if_false]

/-- A checked call to the Comptroller is logged, and touches nothing else. -/
theorem invokeAndCheck_spec (hout : OutsideUntouched env) {data : CallData} {reason : Revert}
    {target : Address} (hdata : (∃ l, data = .enterMarkets l) ∨ ∃ c, data = .exitMarket c)
    (h : Compound.invokeAndCheck clm env w setToken target data reason = .ok w') :
    w'.compoundLeverage = w.compoundLeverage ∧
      w'.calls = w.calls ++ [⟨setToken, target, 0, data⟩] := by
  obtain ⟨words, h⟩ := Compound.invokeAndCheck_eq_ok.mp h
  obtain ⟨-, h⟩ := World.invoke_eq_ok.mp h
  rcases hdata with ⟨_, rfl⟩ | ⟨_, rfl⟩
  · have hcall := hout.call _ _ _ _ h
    exact ⟨hcall.leverage, hcall.calls⟩
  · have hcall := hout.call _ _ _ _ h
    exact ⟨hcall.leverage, hcall.calls⟩

/-- Entering a market. -/
theorem acts_of_enterMarkets (hout : OutsideUntouched env)
    (h : Compound.invokeEnterMarkets clm env w setToken cToken w.compoundLeverage.comptroller =
      .ok w') :
    w'.compoundLeverage = w.compoundLeverage ∧
      registry w' = Function.update (registry w) setToken ((registry w setToken).enter cToken) := by
  obtain ⟨hleverage, hcalls⟩ := invokeAndCheck_spec hout (.inl ⟨_, rfl⟩) h
  refine ⟨hleverage, (registry_of_log hleverage hcalls).trans ?_⟩
  congr 1
  ext1
  · rfl
  · rfl
  · rfl
  · funext c
    by_cases hc : c = cToken
    · simp [enteredAfter, Registry.enter, hc]
    · simp [enteredAfter, Registry.enter, hc]

/-- Exiting a market. -/
theorem acts_of_exitMarket (hout : OutsideUntouched env)
    (h : Compound.invokeExitMarket clm env w setToken cToken w.compoundLeverage.comptroller =
      .ok w') :
    w'.compoundLeverage = w.compoundLeverage ∧
      registry w' = Function.update (registry w) setToken ((registry w setToken).exit cToken) := by
  obtain ⟨hleverage, hcalls⟩ := invokeAndCheck_spec hout (.inr ⟨_, rfl⟩) h
  refine ⟨hleverage, (registry_of_log hleverage hcalls).trans ?_⟩
  congr 1
  ext1
  · rfl
  · rfl
  · rfl
  · funext c
    by_cases hc : c = cToken
    · simp [enteredAfter, Registry.exit, hc]
    · simp [enteredAfter, Registry.exit, hc]

/-- Entering a market unless there is another flag. -/
theorem acts_of_enterUnless (hout : OutsideUntouched env) {flag : Bool}
    (h : (if flag = false then
        Compound.invokeEnterMarkets clm env w setToken cToken w.compoundLeverage.comptroller
      else .ok w) = .ok w') :
    w'.compoundLeverage = w.compoundLeverage ∧
      registry w' = Function.update (registry w) setToken
        { registry w setToken with
          entered := if flag = false then ((registry w setToken).enter cToken).entered
            else (registry w setToken).entered } := by
  split_ifs at h ⊢ with hflag
  · exact acts_of_enterMarkets hout h
  · obtain rfl : w = w' := by simpa using h
    exact ⟨rfl, (Function.update_eq_self _ _).symm⟩

/-- Exiting a market unless there is another flag. -/
theorem acts_of_exitUnless (hout : OutsideUntouched env) {flag : Bool}
    (h : (if flag = false then
        Compound.invokeExitMarket clm env w setToken cToken w.compoundLeverage.comptroller
      else .ok w) = .ok w') :
    w'.compoundLeverage = w.compoundLeverage ∧
      registry w' = Function.update (registry w) setToken
        { registry w setToken with
          entered := if flag = false then ((registry w setToken).exit cToken).entered
            else (registry w setToken).entered } := by
  split_ifs at h ⊢ with hflag
  · exact acts_of_exitMarket hout h
  · obtain rfl : w = w' := by simpa using h
    exact ⟨rfl, (Function.update_eq_self _ _).symm⟩

/-- Storing another registry of the Set, next to what was entered. -/
theorem registry_setStorage {cl : CompoundLeverage}
    (hcomptroller : cl.comptroller = w.compoundLeverage.comptroller)
    (henabled : ∀ t ≠ setToken, cl.enabledAssets t = w.compoundLeverage.enabledAssets t)
    (hcollateral : ∀ t ≠ setToken,
      cl.collateralCTokenEnabled t = w.compoundLeverage.collateralCTokenEnabled t)
    (hborrow : ∀ t ≠ setToken,
      cl.borrowCTokenEnabled t = w.compoundLeverage.borrowCTokenEnabled t) :
    registry (setStorage w cl) = Function.update (registry w) setToken
      { enabled := cl.enabledAssets setToken
        collateral := cl.collateralCTokenEnabled setToken
        borrow := cl.borrowCTokenEnabled setToken
        entered := (registry w setToken).entered } := by
  funext t
  by_cases ht : t = setToken
  · subst ht
    rw [Function.update_self]
    simp only [registry, setStorage, hcomptroller]
  · rw [Function.update_of_ne ht]
    simp only [registry, setStorage, hcomptroller, henabled t ht, hcollateral t ht, hborrow t ht]

/-- After a call to the Comptroller, storing another registry. -/
theorem acts_of_setStorage {w₁ : World} {cl : CompoundLeverage} {entered : Address → Bool}
    {r : Registry} (hw₁ : w₁.compoundLeverage = w.compoundLeverage)
    (hregistry : registry w₁ =
      Function.update (registry w) setToken { registry w setToken with entered := entered })
    (hmapping : cl.underlyingToCToken = w₁.compoundLeverage.underlyingToCToken)
    (hcomptroller : cl.comptroller = w₁.compoundLeverage.comptroller)
    (henabled : ∀ t ≠ setToken, cl.enabledAssets t = w₁.compoundLeverage.enabledAssets t)
    (hcollateral : ∀ t ≠ setToken,
      cl.collateralCTokenEnabled t = w₁.compoundLeverage.collateralCTokenEnabled t)
    (hborrow : ∀ t ≠ setToken,
      cl.borrowCTokenEnabled t = w₁.compoundLeverage.borrowCTokenEnabled t)
    (hr : r = ⟨cl.enabledAssets setToken, cl.collateralCTokenEnabled setToken,
      cl.borrowCTokenEnabled setToken, entered⟩) :
    Acts setToken w (setStorage w₁ cl) r := by
  refine ⟨?_, hmapping.trans (congrArg _ hw₁)⟩
  rw [registry_setStorage hcomptroller henabled hcollateral hborrow, hregistry,
    Function.update_idem, Function.update_self, hr]

section Stores

variable {w₁ : World} {flag : Bool} {enabled : EnabledAssets} {entered : Address → Bool}
  {r : Registry} (hw₁ : w₁.compoundLeverage = w.compoundLeverage)
  (hregistry : registry w₁ =
    Function.update (registry w) setToken { registry w setToken with entered := entered })

include hw₁ hregistry

/-- After a call to the Comptroller, storing a flag of collateral and the lists. -/
theorem acts_of_storeCollateral
    (hr : r = ⟨enabled, Function.update (registry w setToken).collateral cToken flag,
      (registry w setToken).borrow, entered⟩) :
    Acts setToken w (setStorage w₁ (setEnabledAssets
      (flagCollateral w₁.compoundLeverage setToken cToken flag) setToken enabled)) r := by
  refine acts_of_setStorage hw₁ hregistry rfl rfl (fun t ht => ?_) (fun t ht => ?_)
    (fun t _ => rfl) ?_
  · simp [setEnabledAssets, flagCollateral, ht]
  · simp [setEnabledAssets, flagCollateral, ht]
  · rw [hr]
    simp [setEnabledAssets, flagCollateral, hw₁, registry]

/-- After a call to the Comptroller, storing a flag to borrow and the lists. -/
theorem acts_of_storeBorrow
    (hr : r = ⟨enabled, (registry w setToken).collateral,
      Function.update (registry w setToken).borrow cToken flag, entered⟩) :
    Acts setToken w (setStorage w₁ (setEnabledAssets
      (flagBorrow w₁.compoundLeverage setToken cToken flag) setToken enabled)) r := by
  refine acts_of_setStorage hw₁ hregistry rfl rfl (fun t ht => ?_) (fun t _ => rfl)
    (fun t ht => ?_) ?_
  · simp [setEnabledAssets, flagBorrow, ht]
  · simp [setEnabledAssets, flagBorrow, ht]
  · rw [hr]
    simp [setEnabledAssets, flagBorrow, hw₁, registry]

end Stores

/-- One round of `addCollateralAssets`. -/
theorem addCollateralAsset_acts (hout : OutsideUntouched env)
    (h : addCollateralAsset clm env setToken w asset = .ok w') :
    (registry w setToken).collateral (w.compoundLeverage.underlyingToCToken asset) = false ∧
      Acts setToken w w' ((registry w setToken).addCollateral
        (w.compoundLeverage.underlyingToCToken asset)) := by
  simp only [addCollateralAsset, bind_eq_ok, require_eq_ok, pure_eq_ok] at h
  obtain ⟨-, -, -, hflag, w₁, hmarket, rfl⟩ := h
  obtain ⟨hw₁, hregistry⟩ := acts_of_enterUnless hout hmarket
  refine ⟨hflag, acts_of_storeCollateral hw₁ hregistry ?_⟩
  rw [hw₁]
  rfl

/-- One round of `removeCollateralAssets`. -/
theorem removeCollateralAsset_acts (hout : OutsideUntouched env)
    (h : removeCollateralAsset clm env setToken w asset = .ok w') :
    (registry w setToken).collateral (w.compoundLeverage.underlyingToCToken asset) = true ∧
      Acts setToken w w' ((registry w setToken).removeCollateral
        (w.compoundLeverage.underlyingToCToken asset)) := by
  simp only [removeCollateralAsset, bind_eq_ok, require_eq_ok, pure_eq_ok,
    AddressArrayUtils.removeStorage_eq_ok] at h
  obtain ⟨-, hflag, w₁, hmarket, _, ⟨-, rfl⟩, rfl⟩ := h
  obtain ⟨hw₁, hregistry⟩ := acts_of_exitUnless hout hmarket
  refine ⟨hflag, acts_of_storeCollateral hw₁ hregistry ?_⟩
  rw [hw₁]
  rfl

/-- One round of `addBorrowAssets`. -/
theorem addBorrowAsset_acts (hout : OutsideUntouched env)
    (h : addBorrowAsset clm env setToken w asset = .ok w') :
    (registry w setToken).borrow (w.compoundLeverage.underlyingToCToken asset) = false ∧
      Acts setToken w w' ((registry w setToken).addBorrow
        (w.compoundLeverage.underlyingToCToken asset) asset) := by
  simp only [addBorrowAsset, bind_eq_ok, require_eq_ok, pure_eq_ok] at h
  obtain ⟨-, -, -, hflag, w₁, hmarket, rfl⟩ := h
  obtain ⟨hw₁, hregistry⟩ := acts_of_enterUnless hout hmarket
  refine ⟨hflag, acts_of_storeBorrow hw₁ hregistry ?_⟩
  rw [hw₁]
  rfl

/-- One round of `removeBorrowAssets`. -/
theorem removeBorrowAsset_acts (hout : OutsideUntouched env)
    (h : removeBorrowAsset clm env setToken w asset = .ok w') :
    (registry w setToken).borrow (w.compoundLeverage.underlyingToCToken asset) = true ∧
      asset ∈ (registry w setToken).enabled.borrowAssets ∧
      Acts setToken w w' ((registry w setToken).removeBorrow
        (w.compoundLeverage.underlyingToCToken asset) asset) := by
  simp only [removeBorrowAsset, bind_eq_ok, require_eq_ok, pure_eq_ok,
    AddressArrayUtils.removeStorage_eq_ok] at h
  obtain ⟨-, hflag, w₁, hmarket, _, ⟨-, rfl⟩, _, ⟨hasset, rfl⟩, rfl⟩ := h
  obtain ⟨hw₁, hregistry⟩ := acts_of_exitUnless hout hmarket
  have hasset : asset ∈ (registry w setToken).enabled.borrowAssets := by
    simpa [flagBorrow, hw₁, registry] using hasset
  refine ⟨hflag, hasset, acts_of_storeBorrow hw₁ hregistry ?_⟩
  rw [hw₁]
  rfl

/-- One round of `removeModule` over the markets to borrow on. -/
theorem leaveBorrowMarket_acts (hout : OutsideUntouched env)
    (h : leaveBorrowMarket clm env setToken w cToken = .ok w') :
    Acts setToken w w' ((registry w setToken).leaveBorrow cToken) := by
  simp only [leaveBorrowMarket, bind_eq_ok, pure_eq_ok] at h
  obtain ⟨w₁, hmarket, rfl⟩ := h
  obtain ⟨hw₁, hregistry⟩ := acts_of_exitUnless hout hmarket
  refine acts_of_setStorage hw₁ hregistry rfl rfl (fun t _ => rfl) (fun t _ => rfl)
    (fun t ht => ?_) ?_
  · simp [flagBorrow, ht]
  · rw [hw₁]
    simp only [flagBorrow, Function.update_self]
    rfl

/-- One round of `removeModule` over collateral. -/
theorem leaveCollateralMarket_acts (hout : OutsideUntouched env)
    (h : leaveCollateralMarket clm env setToken w cToken = .ok w') :
    Acts setToken w w' ((registry w setToken).leaveCollateral cToken) := by
  simp only [leaveCollateralMarket, bind_eq_ok, pure_eq_ok] at h
  obtain ⟨w₁, hmarket, rfl⟩ := h
  obtain ⟨hw₁, hregistry⟩ := acts_of_exitMarket hout hmarket
  refine acts_of_setStorage hw₁ hregistry rfl rfl (fun t _ => rfl) (fun t ht => ?_)
    (fun t _ => rfl) ?_
  · simp [flagCollateral, ht]
  · rw [hw₁]
    simp only [flagCollateral, Function.update_self]
    rfl

/-! ## The loops -/

/-- The underlying with which each market was last enabled for borrowing, by Set, after an asset is
added. -/
def record (underlyingToCToken : Address → Address) (setToken : Address)
    (enabledWith : Address → Address → Address) (asset : Address) : Address → Address → Address :=
  Function.update enabledWith setToken
    (Function.update (enabledWith setToken) (underlyingToCToken asset) asset)

/-- Each of the assets to remove is listed first where its market is, in the lists without those
before it. -/
def RemovesPairs (underlyingToCToken : Address → Address) : List Address → EnabledAssets → Prop
  | [], _ => True
  | asset :: assets, enabled =>
    Registry.RemovesPair enabled (underlyingToCToken asset) asset ∧
      RemovesPairs underlyingToCToken assets
        (Registry.withoutBorrow enabled (underlyingToCToken asset) asset)

instance decidableRemovesPairs (underlyingToCToken : Address → Address) :
    ∀ assets enabled, Decidable (RemovesPairs underlyingToCToken assets enabled)
  | [], _ => isTrue trivial
  | asset :: assets, enabled =>
    @instDecidableAnd _ _ _ (decidableRemovesPairs underlyingToCToken assets
      (Registry.withoutBorrow enabled (underlyingToCToken asset) asset))

/-- The registries of all Sets are well kept. -/
def Invariant (enabledWith : Address → Address → Address) (w : World) : Prop :=
  ∀ t, (registry w t).WellKept (enabledWith t)

namespace Invariant

variable {enabledWith enabledWith' : Address → Address → Address} {l : List Address}

/-- What touches nothing keeps the invariant. -/
theorem untouched (hw : Invariant enabledWith w) (h : Untouched w w') :
    Invariant enabledWith w' := by
  intro t
  rw [h.registry_eq]
  exact hw t

/-- What acts on one registry keeps the invariant when that one stays well kept. -/
theorem acts {r : Registry} (hw : Invariant enabledWith w) (h : Acts setToken w w' r)
    (hr : r.WellKept (enabledWith' setToken))
    (hothers : ∀ t ≠ setToken, enabledWith' t = enabledWith t) : Invariant enabledWith' w' := by
  intro t
  rw [h.registry]
  by_cases ht : t = setToken
  · subst ht
    rwa [Function.update_self]
  · rw [Function.update_of_ne ht, hothers t ht]
    exact hw t

/-- The loop of `addCollateralAssets`. -/
theorem addCollateralAssets_loop (hout : OutsideUntouched env) (hw : Invariant enabledWith w)
    (h : l.foldlM (addCollateralAsset clm env setToken) w = .ok w') : Invariant enabledWith w' :=
  foldlM_preserves (Invariant enabledWith) (fun asset _ w₁ w₂ hw₁ h => by
    obtain ⟨hflag, hacts⟩ := addCollateralAsset_acts hout h
    exact hw₁.acts hacts ((hw₁ setToken).addCollateral hflag) fun _ _ => rfl) hw h

/-- The loop of `removeCollateralAssets`. -/
theorem removeCollateralAssets_loop (hout : OutsideUntouched env) (hw : Invariant enabledWith w)
    (h : l.foldlM (removeCollateralAsset clm env setToken) w = .ok w') :
    Invariant enabledWith w' :=
  foldlM_preserves (Invariant enabledWith) (fun asset _ w₁ w₂ hw₁ h => by
    obtain ⟨hflag, hacts⟩ := removeCollateralAsset_acts hout h
    exact hw₁.acts hacts ((hw₁ setToken).removeCollateral hflag) fun _ _ => rfl) hw h

/-- The loop of `addBorrowAssets` goes with the record of its assets. -/
theorem addBorrowAssets_loop (hout : OutsideUntouched env) (hw : Invariant enabledWith w)
    (h : l.foldlM (addBorrowAsset clm env setToken) w = .ok w') :
    Invariant (l.foldl (record w.compoundLeverage.underlyingToCToken setToken) enabledWith) w' := by
  induction l generalizing w enabledWith with
  | nil =>
    obtain rfl : w = w' := by simpa using h
    exact hw
  | cons asset l ih =>
    obtain ⟨w₁, hround, hrest⟩ := foldlM_cons_eq_ok.mp h
    obtain ⟨hflag, hacts⟩ := addBorrowAsset_acts hout hround
    have hw₁ : Invariant (record w.compoundLeverage.underlyingToCToken setToken enabledWith asset)
        w₁ := by
      refine hw.acts hacts ?_ fun t ht => Function.update_of_ne ht _ _
      rw [record, Function.update_self]
      exact (hw setToken).addBorrow hflag
    rw [List.foldl_cons, ← hacts.underlyingToCToken]
    rw [← hacts.underlyingToCToken] at hw₁
    exact ih hw₁ hrest

/-- The loop of `removeBorrowAssets`, when it removes pairs. -/
theorem removeBorrowAssets_loop (hout : OutsideUntouched env) (hw : Invariant enabledWith w)
    (hpairs : RemovesPairs w.compoundLeverage.underlyingToCToken l (registry w setToken).enabled)
    (h : l.foldlM (removeBorrowAsset clm env setToken) w = .ok w') : Invariant enabledWith w' := by
  induction l generalizing w with
  | nil =>
    obtain rfl : w = w' := by simpa using h
    exact hw
  | cons asset l ih =>
    obtain ⟨w₁, hround, hrest⟩ := foldlM_cons_eq_ok.mp h
    obtain ⟨hflag, hasset, hacts⟩ := removeBorrowAsset_acts hout hround
    have hw₁ := hw.acts hacts ((hw setToken).removeBorrow hflag hasset hpairs.1) fun _ _ => rfl
    refine ih hw₁ ?_ hrest
    rw [hacts.underlyingToCToken, hacts.registry, Function.update_self]
    exact hpairs.2

/-- `removeModule` leaves all markets of the Set. -/
theorem removeModule (hout : OutsideUntouched env) (hw : Invariant enabledWith w)
    (h : CompoundLeverageModule.removeModule clm env w setToken = .ok w') :
    Invariant enabledWith w' := by
  simp only [CompoundLeverageModule.removeModule, bind_eq_ok, pure_eq_ok] at h
  obtain ⟨-, -, w₁, hsync, w₂, hborrow, w₃, hcollateral, rfl⟩ := h
  have hw₁ := hw.untouched (.of_sync hout hsync)
  have hkept := hw₁ setToken
  -- first the markets to borrow on are left, those that are no collateral
  obtain ⟨hothers₂, hleaving₂, henabled₂⟩ := foldlM_rest (fun rest w =>
      (∀ t ≠ setToken, registry w t = registry w₁ t) ∧
        Registry.Leaving (registry w setToken)
          (registry w₁ setToken).enabled.collateralCTokens rest ∧
        (registry w setToken).enabled = (registry w₁ setToken).enabled)
    (fun c rest w w' hrest h => by
      obtain ⟨hothers, hleaving, henabled⟩ := hrest
      have hacts := leaveBorrowMarket_acts hout h
      rw [hacts.registry, Function.update_self]
      refine ⟨fun t ht => ?_, hleaving.leaveBorrow, henabled⟩
      rw [Function.update_of_ne ht, hothers t ht])
    ⟨fun _ _ => rfl, ⟨fun c => (hkept.mem_collateral c).mpr, fun c => (hkept.mem_borrow c).mpr,
      hkept.entered⟩, rfl⟩ hborrow
  -- then the collateral
  have hlist : (w₂.compoundLeverage.enabledAssets setToken).collateralCTokens =
      (registry w₁ setToken).enabled.collateralCTokens :=
    congrArg EnabledAssets.collateralCTokens henabled₂
  rw [hlist] at hcollateral
  obtain ⟨hothers₃, hleaving₃⟩ := foldlM_rest (fun rest w =>
      (∀ t ≠ setToken, registry w t = registry w₁ t) ∧
        Registry.Leaving (registry w setToken) rest [])
    (fun c rest w w' hrest h => by
      obtain ⟨hothers, hleaving⟩ := hrest
      have hacts := leaveCollateralMarket_acts hout h
      rw [hacts.registry, Function.update_self]
      refine ⟨fun t ht => ?_, hleaving.leaveCollateral⟩
      rw [Function.update_of_ne ht, hothers t ht])
    ⟨hothers₂, hleaving₂⟩ hcollateral
  have hdeleted : Acts setToken w₃
      (setStorage w₃ (setEnabledAssets w₃.compoundLeverage setToken {}))
      { registry w₃ setToken with enabled := {} } :=
    acts_of_setStorage rfl (Function.update_eq_self _ _).symm rfl rfl
      (fun t ht => by simp [setEnabledAssets, ht]) (fun _ _ => rfl) (fun _ _ => rfl)
      (by simp [setEnabledAssets, registry])
  refine Invariant.untouched (fun t => ?_)
    (.foldl_attempt (fun a w w' h => hout.unregister a clm setToken w w' h) _ _)
  rw [hdeleted.registry]
  by_cases ht : t = setToken
  · subst ht
    rw [Function.update_self]
    exact hleaving₃.wellKept _
  · rw [Function.update_of_ne ht, hothers₃ t ht]
    exact hw₁ t

end Invariant

/-! ## Runs -/

/-- The state of the chain, with the underlying with which each market was last enabled for
borrowing, by Set. -/
structure State where
  /-- The state of the chain. -/
  world : World
  /-- The underlying of each market, by Set. -/
  enabledWith : Address → Address → Address

/-- What happens to the registries: the functions of the module, and the rest of the chain. -/
inductive Action
  | initializeModule (msgSender setToken : Address) (collateralAssets borrowAssets : List Address)
  | addCollateralAssets (msgSender setToken : Address) (newCollateralAssets : List Address)
  | removeCollateralAssets (msgSender setToken : Address) (collateralAssets : List Address)
  | addBorrowAssets (msgSender setToken : Address) (newBorrowAssets : List Address)
  | removeBorrowAssets (msgSender setToken : Address) (borrowAssets : List Address)
  | removeModule (msgSender : Address)
  | addCompoundMarket (msgSender cToken underlying : Address)
  | removeCompoundMarket (msgSender underlying : Address)
  | other (rest : World)

/-- The rest of the chain changes: everything but the markets of the module, and what the Sets
called on the Comptroller. -/
def others (w rest : World) : World :=
  { rest with
    compoundLeverage :=
      { w.compoundLeverage with
        owner := rest.compoundLeverage.owner
        allowedSetTokens := rest.compoundLeverage.allowedSetTokens
        anySetAllowed := rest.compoundLeverage.anySetAllowed }
    calls := w.calls ++
      rest.calls.filter fun call => call.target ≠ w.compoundLeverage.comptroller }

/-- The effect of an action, with the module at the given address. -/
def step (clm : Address) (env : Env) (a : Action) (s : State) : Except Revert State :=
  let underlyingToCToken := s.world.compoundLeverage.underlyingToCToken
  match a with
  | .initializeModule msgSender setToken collateralAssets borrowAssets => do
    let w ← CompoundLeverageModule.initializeModule clm env s.world msgSender setToken
      collateralAssets borrowAssets
    return ⟨w, borrowAssets.foldl (record underlyingToCToken setToken) s.enabledWith⟩
  | .addCollateralAssets msgSender setToken newCollateralAssets => do
    let w ← CompoundLeverageModule.addCollateralAssets clm env s.world msgSender setToken
      newCollateralAssets
    return ⟨w, s.enabledWith⟩
  | .removeCollateralAssets msgSender setToken collateralAssets => do
    let w ← CompoundLeverageModule.removeCollateralAssets clm env s.world msgSender setToken
      collateralAssets
    return ⟨w, s.enabledWith⟩
  | .addBorrowAssets msgSender setToken newBorrowAssets => do
    let w ← CompoundLeverageModule.addBorrowAssets clm env s.world msgSender setToken
      newBorrowAssets
    return ⟨w, newBorrowAssets.foldl (record underlyingToCToken setToken) s.enabledWith⟩
  | .removeBorrowAssets msgSender setToken borrowAssets => do
    let w ← CompoundLeverageModule.removeBorrowAssets clm env s.world msgSender setToken
      borrowAssets
    return ⟨w, s.enabledWith⟩
  | .removeModule msgSender => do
    let w ← CompoundLeverageModule.removeModule clm env s.world msgSender
    return ⟨w, s.enabledWith⟩
  | .addCompoundMarket msgSender cToken underlying => do
    let w ← CompoundLeverageModule.addCompoundMarket s.world msgSender cToken underlying
    return ⟨w, s.enabledWith⟩
  | .removeCompoundMarket msgSender underlying => do
    let w ← CompoundLeverageModule.removeCompoundMarket s.world msgSender underlying
    return ⟨w, s.enabledWith⟩
  | .other rest => .ok ⟨others s.world rest, s.enabledWith⟩

/-- The action removes assets to borrow, if any, at the indices of their markets. -/
def RemovesAtMarkets (a : Action) (s : State) : Prop :=
  match a with
  | .removeBorrowAssets _ setToken borrowAssets =>
    RemovesPairs s.world.compoundLeverage.underlyingToCToken borrowAssets
      (s.world.compoundLeverage.enabledAssets setToken)
  | _ => True

instance : ∀ a s, Decidable (RemovesAtMarkets a s)
  | .initializeModule .., _ => isTrue trivial
  | .addCollateralAssets .., _ => isTrue trivial
  | .removeCollateralAssets .., _ => isTrue trivial
  | .addBorrowAssets .., _ => isTrue trivial
  | .removeBorrowAssets .., _ => decidableRemovesPairs _ _ _
  | .removeModule _, _ => isTrue trivial
  | .addCompoundMarket .., _ => isTrue trivial
  | .removeCompoundMarket .., _ => isTrue trivial
  | .other _, _ => isTrue trivial

/-- No Set has used the module yet. -/
structure Fresh (w : World) : Prop where
  /-- No market is listed. -/
  enabled : ∀ t, w.compoundLeverage.enabledAssets t = {}
  /-- No market is collateral. -/
  collateral : ∀ t c, w.compoundLeverage.collateralCTokenEnabled t c = false
  /-- No market is one to borrow on. -/
  borrow : ∀ t c, w.compoundLeverage.borrowCTokenEnabled t c = false
  /-- No market is entered. -/
  entered : ∀ t c, marketEntered w.compoundLeverage.comptroller t c w.calls = false

/-- Calls elsewhere do not change what is entered. -/
theorem marketEntered_append_filter (comptroller setToken cToken : Address)
    (calls more : List Call) :
    marketEntered comptroller setToken cToken
        (calls ++ more.filter fun call => call.target ≠ comptroller) =
      marketEntered comptroller setToken cToken calls := by
  rw [marketEntered, List.foldl_append]
  refine List.foldlRecOn _ _ (motive := fun entered => entered = _) rfl
    fun entered h call hcall => ?_
  have htarget : call.target ≠ comptroller := by simpa using (List.mem_filter.mp hcall).2
  have haside : ¬(call.caller = setToken ∧ call.target = comptroller) := fun hc => htarget hc.2
  rw [enteredAfter, if_neg haside, h]

/-- The registries do not see the rest of the chain. -/
theorem registry_others (w rest : World) : registry (others w rest) = registry w := by
  funext t
  simp only [registry, others, marketEntered_append_filter]

/-- No Set has anything to keep in the beginning. -/
theorem invariant_of_fresh (h : Fresh w) (enabledWith : Address → Address → Address) :
    Invariant enabledWith w := by
  intro t
  refine ⟨?_, ?_, fun c => ?_, fun c => ?_, ?_, fun c => ?_⟩
  · simp [registry, h.enabled]
  · simp [registry, h.enabled]
  · simp [registry, h.enabled, h.collateral]
  · simp [registry, h.enabled, h.borrow]
  · simp [registry, h.enabled]
  · simp [registry, h.collateral, h.borrow, h.entered]

/-- `addCollateralAssets` keeps the invariant. -/
theorem Invariant.addCollateralAssets {enabledWith : Address → Address → Address} {l : List Address}
    (hout : OutsideUntouched env) (hw : Invariant enabledWith w)
    (h : CompoundLeverageModule.addCollateralAssets clm env w msgSender setToken l = .ok w') :
    Invariant enabledWith w' := by
  simp only [CompoundLeverageModule.addCollateralAssets, bind_eq_ok] at h
  obtain ⟨-, -, h⟩ := h
  exact hw.addCollateralAssets_loop hout h

/-- `addBorrowAssets` keeps the invariant, with the record of its assets. -/
theorem Invariant.addBorrowAssets {enabledWith : Address → Address → Address} {l : List Address}
    (hout : OutsideUntouched env) (hw : Invariant enabledWith w)
    (h : CompoundLeverageModule.addBorrowAssets clm env w msgSender setToken l = .ok w') :
    Invariant (l.foldl (record w.compoundLeverage.underlyingToCToken setToken) enabledWith) w' := by
  simp only [CompoundLeverageModule.addBorrowAssets, bind_eq_ok] at h
  obtain ⟨-, -, h⟩ := h
  exact hw.addBorrowAssets_loop hout h

/-- `addCollateralAssets` keeps the market of each asset. -/
theorem underlyingToCToken_of_addCollateralAssets {l : List Address} (hout : OutsideUntouched env)
    (h : CompoundLeverageModule.addCollateralAssets clm env w msgSender setToken l = .ok w') :
    w'.compoundLeverage.underlyingToCToken = w.compoundLeverage.underlyingToCToken := by
  simp only [CompoundLeverageModule.addCollateralAssets, bind_eq_ok] at h
  obtain ⟨-, -, h⟩ := h
  exact foldlM_preserves
    (fun w₁ => w₁.compoundLeverage.underlyingToCToken = w.compoundLeverage.underlyingToCToken)
    (fun _ _ _ _ hw₁ h =>
      (addCollateralAsset_acts hout h).2.underlyingToCToken.trans hw₁) rfl h

/-- `initialize` keeps the invariant, with the record of the assets to borrow. -/
theorem Invariant.initializeModule {enabledWith : Address → Address → Address}
    {collateralAssets borrowAssets : List Address} (hout : OutsideUntouched env)
    (hw : Invariant enabledWith w)
    (h : CompoundLeverageModule.initializeModule clm env w msgSender setToken collateralAssets
      borrowAssets = .ok w') :
    Invariant (borrowAssets.foldl (record w.compoundLeverage.underlyingToCToken setToken)
      enabledWith) w' := by
  simp only [CompoundLeverageModule.initializeModule, bind_eq_ok] at h
  obtain ⟨-, -, -, -, -, -, w₁, hinitialize, _, -, -, -, w₂, hcollateral, hborrow⟩ := h
  have hregistered := (Untouched.of_editSetToken hinitialize).trans
    (.foldl_attempt (fun a w w' h => hout.register a clm setToken w w' h)
      (w₁.setTokens setToken).modules w₁)
  have hmapping := underlyingToCToken_of_addCollateralAssets hout hcollateral
  rw [hregistered.leverage] at hmapping
  rw [← hmapping]
  exact ((hw.untouched hregistered).addCollateralAssets hout hcollateral).addBorrowAssets hout
    hborrow

/-- Every action that removes assets at their markets keeps the invariant. -/
theorem Invariant.step (hout : OutsideUntouched env) {a : Action} {s s' : State}
    (hs : Invariant s.enabledWith s.world) (hpairs : RemovesAtMarkets a s)
    (h : step clm env a s = .ok s') : Invariant s'.enabledWith s'.world := by
  cases a with
  | initializeModule msgSender setToken collateralAssets borrowAssets =>
    simp only [RegistryRun.step, bind_eq_ok, pure_eq_ok] at h
    obtain ⟨w, h, rfl⟩ := h
    exact hs.initializeModule hout h
  | addCollateralAssets msgSender setToken newCollateralAssets =>
    simp only [RegistryRun.step, bind_eq_ok, pure_eq_ok] at h
    obtain ⟨w, h, rfl⟩ := h
    exact hs.addCollateralAssets hout h
  | removeCollateralAssets msgSender setToken collateralAssets =>
    simp only [RegistryRun.step, CompoundLeverageModule.removeCollateralAssets, bind_eq_ok,
      pure_eq_ok] at h
    obtain ⟨w, ⟨-, -, w₁, hsync, h⟩, rfl⟩ := h
    exact (hs.untouched (.of_sync hout hsync)).removeCollateralAssets_loop hout h
  | addBorrowAssets msgSender setToken newBorrowAssets =>
    simp only [RegistryRun.step, bind_eq_ok, pure_eq_ok] at h
    obtain ⟨w, h, rfl⟩ := h
    exact hs.addBorrowAssets hout h
  | removeBorrowAssets msgSender setToken borrowAssets =>
    simp only [RegistryRun.step, CompoundLeverageModule.removeBorrowAssets, bind_eq_ok,
      pure_eq_ok] at h
    obtain ⟨w, ⟨-, -, w₁, hsync, h⟩, rfl⟩ := h
    have hw₁ := Untouched.of_sync hout hsync
    refine (hs.untouched hw₁).removeBorrowAssets_loop hout ?_ h
    rw [hw₁.registry_eq, hw₁.leverage]
    exact hpairs
  | removeModule msgSender =>
    simp only [RegistryRun.step, bind_eq_ok, pure_eq_ok] at h
    obtain ⟨w, h, rfl⟩ := h
    exact hs.removeModule hout h
  | addCompoundMarket msgSender cToken underlying =>
    simp only [RegistryRun.step, CompoundLeverageModule.addCompoundMarket, bind_eq_ok,
      pure_eq_ok] at h
    obtain ⟨w, ⟨-, -, -, -, rfl⟩, rfl⟩ := h
    exact hs
  | removeCompoundMarket msgSender underlying =>
    simp only [RegistryRun.step, CompoundLeverageModule.removeCompoundMarket, bind_eq_ok,
      pure_eq_ok] at h
    obtain ⟨w, ⟨-, -, -, -, rfl⟩, rfl⟩ := h
    exact hs
  | other rest =>
    obtain rfl := Except.ok.inj h
    intro t
    rw [registry_others]
    exact hs t

/-- **The registry over a run**: when each removal of assets to borrow removes them at the indices
of their markets, the registry of every Set is well kept in every state.

**Proof sketch.** The functions act on the registry of one Set by operations that keep the
invariant; the accrual of interest and the registration with issuance modules do not touch it.
Adding a market to borrow on records its asset, and a removal at its index keeps the two lists
parallel. -/
theorem wellKept_of_run {s₀ s : State} (hout : OutsideUntouched env) (fresh : Fresh s₀.world)
    (reached : ReachWhen (step clm env) RemovesAtMarkets s₀ s) (setToken : Address) :
    (registry s.world setToken).WellKept (s.enabledWith setToken) :=
  reached.invariant (fun s => Invariant s.enabledWith s.world)
    (fun _ _ _ hs hpairs h => hs.step hout hpairs h) (invariant_of_fresh fresh _) setToken

/-- A Comptroller that lets everyone in and out, as the contracts outside the protocol. -/
def openComptroller : Env where
  call _ w := .ok (w, [0])

private theorem outsideUntouched_openComptroller : OutsideUntouched openComptroller := by
  refine ⟨fun _ w w' _ h => ?_, fun _ _ w w' _ h => ?_, fun _ _ _ _ _ h => ?_,
    fun _ _ _ _ _ h => ?_⟩
  · obtain ⟨rfl, -⟩ := Prod.mk.inj (Except.ok.inj h)
    exact .refl w
  · obtain ⟨rfl, -⟩ := Prod.mk.inj (Except.ok.inj h)
    exact .refl w
  · exact absurd h (by simp [openComptroller])
  · exact absurd h (by simp [openComptroller])

/-- A Set at `100` before it uses the leverage module `7`. The assets `11` and `12` have the markets
`21` and `23`. -/
def exampleState : State where
  world :=
    { controller := { isSet := fun a => a = 100, isModule := fun a => a = 6 ∨ a = 7 }
      integrations := fun _ _ => 6
      setTokens := fun _ =>
        { manager := 3
          modules := [6]
          moduleStates := fun a => if a = 7 then .pending else .initialized }
      compoundLeverage :=
        { owner := 1
          underlyingToCToken := fun a => if a = 11 then 21 else if a = 12 then 23 else zeroAddress
          comptroller := 44
          anySetAllowed := true } }
  enabledWith := fun _ _ => zeroAddress

private theorem fresh_exampleState : Fresh exampleState.world :=
  ⟨fun _ => rfl, fun _ _ => rfl, fun _ _ => rfl, fun _ _ => rfl⟩

/-- Both assets are borrowed, one is collateral as well, and one is removed again. -/
theorem wellKept_of_run_example :
    ∃ s, ReachWhen (step 7 openComptroller) RemovesAtMarkets exampleState s ∧
      (registry s.world 100).enabled.borrowCTokens = [23] ∧
      (registry s.world 100).WellKept (s.enabledWith 100) := by
  obtain ⟨s, hrun, hlist⟩ := exists_of_yields
    (x := runAll (guarded (step 7 openComptroller) RemovesAtMarkets "")
      [.initializeModule 3 100 [12] [11], .addBorrowAssets 3 100 [12],
        .removeBorrowAssets 3 100 [11]] exampleState)
    (p := fun s => (registry s.world 100).enabled.borrowCTokens = [23]) (by decide +kernel)
  have hreached := reachWhen_of_runAll hrun
  exact ⟨s, hreached, of_decide_eq_true hlist,
    wellKept_of_run outsideUntouched_openComptroller fresh_exampleState hreached 100⟩

/-- Governance gives the asset `11` another market while it is borrowed on the old one, and the
asset is borrowed on both. When it is removed, the second market goes with the first entry of the
asset: the old market is left with the asset `12`. -/
theorem run_splits_pair :
    ∃ s, OutsideUntouched openComptroller ∧ Fresh exampleState.world ∧
      Reach (step 7 openComptroller) exampleState s ∧
      (registry s.world 100).enabled.borrowCTokens = [21, 23] ∧
      (registry s.world 100).enabled.borrowAssets = [12, 11] ∧
      ¬(registry s.world 100).WellKept (s.enabledWith 100) := by
  obtain ⟨s, hrun, hlists⟩ := exists_of_yields
    (x := runAll (step 7 openComptroller)
      [.initializeModule 3 100 [] [11], .removeCompoundMarket 1 11, .addCompoundMarket 1 22 11,
        .addBorrowAssets 3 100 [11, 12], .removeBorrowAssets 3 100 [11]] exampleState)
    (p := fun s => (registry s.world 100).enabled.borrowCTokens = [21, 23] ∧
      (registry s.world 100).enabled.borrowAssets = [12, 11] ∧ s.enabledWith 100 21 = 11)
    (by decide +kernel)
  obtain ⟨hmarkets, hassets, hwith⟩ := of_decide_eq_true hlists
  refine ⟨s, outsideUntouched_openComptroller, fresh_exampleState, reach_of_runAll hrun, hmarkets,
    hassets, fun hkept => ?_⟩
  have hmap := hkept.assets
  rw [hmarkets, hassets, List.map_cons, hwith] at hmap
  exact absurd (List.cons.inj hmap).1 (by decide)

end RegistryRun

end SetProtocol
