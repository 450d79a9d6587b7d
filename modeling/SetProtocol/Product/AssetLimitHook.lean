import SetProtocol.Core.AddressArrayUtils
import SetProtocol.Lib.Register
import SetProtocol.Lib.Transition

set_option relaxedAutoImplicit false
set_option autoImplicit false

/-!
# The limits of the asset limit hook

`contracts/product/AssetLimitHook.sol`, a hook of the `NAVIssuanceModule` that bounds what is issued
and redeemed. The hook lists the assets that have a limit. Whether an asset has one is told by the
limit itself: an asset with the limit zero counts as not added.

A limit that is set to zero leaves an asset listed that counts as not added. It can then be added
once more.

## Main definitions

* `SetProtocol.AssetLimitHook` — the storage.
* `SetProtocol.AssetLimitHook.deploy` — the constructor.
* `SetProtocol.AssetLimitHook.Action` — a call of the hook.
* `SetProtocol.AssetLimitHook.SetsLimit` — the limit that a call sets is not zero.

## Main results

* `SetProtocol.AssetLimitHook.assetsListed_of_run` — the invariant of all runs in which no limit is
  set to zero.
* `SetProtocol.AssetLimitHook.run_lists_asset_twice` — a run in which one is.
-/

namespace SetProtocol

open Checked Transition Register

/-- The storage of the hook. -/
structure AssetLimitHook where
  /-- The account that sets the limits. -/
  owner : Address := zeroAddress
  /-- The limit of each asset. -/
  assetLimits : Address → ℕ := fun _ => 0
  /-- The assets with a limit, in order. -/
  assets : List Address := []

namespace AssetLimitHook

/-! ## Functions -/

/-- One round of the loop of the constructor, on the limits. -/
def limitRound (assetLimits : Address → ℕ) (entry : Address × ℕ) :
    Except Revert (Address → ℕ) := do
  require (assetLimits entry.1 = 0) "Asset already added"
  return Function.update assetLimits entry.1 entry.2

/-- The constructor. -/
def deploy (msgSender : Address) (assets : List Address) (limits : List ℕ) :
    Except Revert AssetLimitHook := do
  require (assets.length = limits.length) "Arrays must be equal"
  require (assets.length ≠ 0) "Array must not be empty"
  let assetLimits ← (assets.zip limits).foldlM limitRound fun _ => 0
  return { owner := msgSender, assetLimits := assetLimits, assets := assets }

/-- `invokePreIssueHook`, which changes nothing. -/
def invokePreIssueHook (h : AssetLimitHook) (reserveAsset : Address)
    (reserveAssetQuantity : ℕ) : Except Revert Unit :=
  require (reserveAssetQuantity ≤ h.assetLimits reserveAsset) "Issue size exceeds asset limit"

/-- `invokePreRedeemHook`, which changes nothing. The limit is that of the Set. -/
def invokePreRedeemHook (h : AssetLimitHook) (setToken : Address) (redeemQuantity : ℕ) :
    Except Revert Unit :=
  require (redeemQuantity ≤ h.assetLimits setToken) "Redeem size exceeds asset limit"

/-- `addAssetLimit`. -/
def addAssetLimit (h : AssetLimitHook) (msgSender asset : Address) (newLimit : ℕ) :
    Except Revert AssetLimitHook := do
  require (msgSender = h.owner) "Ownable: caller is not the owner"
  require (h.assetLimits asset = 0) "Asset already added"
  return { h with
    assetLimits := Function.update h.assetLimits asset newLimit
    assets := h.assets ++ [asset] }

/-- `editAssetLimit`. -/
def editAssetLimit (h : AssetLimitHook) (msgSender asset : Address) (newLimit : ℕ) :
    Except Revert AssetLimitHook := do
  require (msgSender = h.owner) "Ownable: caller is not the owner"
  require (h.assetLimits asset ≠ 0) "Asset not added"
  return { h with assetLimits := Function.update h.assetLimits asset newLimit }

/-- `removeAssetLimit`. -/
def removeAssetLimit (h : AssetLimitHook) (msgSender asset : Address) :
    Except Revert AssetLimitHook := do
  require (msgSender = h.owner) "Ownable: caller is not the owner"
  require (h.assetLimits asset ≠ 0) "Asset not added"
  let assets ← AddressArrayUtils.remove h.assets asset
  return { h with
    assetLimits := Function.update h.assetLimits asset 0
    assets := assets }

/-- `transferOwnership`, inherited from `Ownable`. -/
def transferOwnership (h : AssetLimitHook) (msgSender newOwner : Address) :
    Except Revert AssetLimitHook := do
  require (msgSender = h.owner) "Ownable: caller is not the owner"
  require (newOwner ≠ zeroAddress) "Ownable: new owner is the zero address"
  return { h with owner := newOwner }

/-- `renounceOwnership`, inherited from `Ownable`. -/
def renounceOwnership (h : AssetLimitHook) (msgSender : Address) :
    Except Revert AssetLimitHook := do
  require (msgSender = h.owner) "Ownable: caller is not the owner"
  return { h with owner := zeroAddress }

/-! ## Calls -/

/-- A call of a function of the hook that writes. -/
inductive Action
  | addAssetLimit (msgSender asset : Address) (newLimit : ℕ)
  | editAssetLimit (msgSender asset : Address) (newLimit : ℕ)
  | removeAssetLimit (msgSender asset : Address)
  | transferOwnership (msgSender newOwner : Address)
  | renounceOwnership (msgSender : Address)

/-- The effect of a call. -/
def step : Action → AssetLimitHook → Except Revert AssetLimitHook
  | .addAssetLimit msgSender asset newLimit, h => h.addAssetLimit msgSender asset newLimit
  | .editAssetLimit msgSender asset newLimit, h => h.editAssetLimit msgSender asset newLimit
  | .removeAssetLimit msgSender asset, h => h.removeAssetLimit msgSender asset
  | .transferOwnership msgSender newOwner, h => h.transferOwnership msgSender newOwner
  | .renounceOwnership msgSender, h => h.renounceOwnership msgSender

/-- The condition on a call: the limit that it sets is not zero. -/
def SetsLimit : Action → AssetLimitHook → Prop
  | .addAssetLimit _ _ newLimit, _ => newLimit ≠ 0
  | .editAssetLimit _ _ newLimit, _ => newLimit ≠ 0
  | _, _ => True

instance (a : Action) (h : AssetLimitHook) : Decidable (SetsLimit a h) := by
  unfold SetsLimit
  split <;> infer_instance

/-! ## The invariant -/

/-- The assets with a limit are listed, each once. -/
def Kept (h : AssetLimitHook) : Prop := Lists h.assets fun asset => h.assetLimits asset ≠ 0

variable {h h' : AssetLimitHook} {msgSender asset : Address} {assets : List Address}
  {limits : List ℕ}

/-- The loop of the constructor rejects an asset that comes a second time, as long as the limits are
not zero. -/
theorem lists_of_limitRounds {entries : List (Address × ℕ)} {assetLimits : Address → ℕ}
    (hlimits : ∀ entry ∈ entries, entry.2 ≠ 0)
    (hloop : entries.foldlM limitRound (fun _ => 0) = .ok assetLimits) :
    Lists (entries.map Prod.fst) fun asset => assetLimits asset ≠ 0 := by
  have hrest := foldlM_rest
    (fun rest f => ∃ done, done ++ rest = entries ∧
      Lists (done.map Prod.fst) fun asset => f asset ≠ 0) ?_ ?_ hloop
  · obtain ⟨done, rfl, hlists⟩ := hrest
    rwa [List.append_nil]
  · rintro entry rest f f' ⟨done, hdone, hlists⟩ hround
    simp only [limitRound, bind_eq_ok, require_eq_ok, pure_eq_ok] at hround
    obtain ⟨-, hnew, rfl⟩ := hround
    have hmem : entry ∈ entries := by
      rw [← hdone]
      exact List.mem_append_right done List.mem_cons_self
    refine ⟨done ++ [entry], by rw [List.append_assoc, List.singleton_append, hdone], ?_⟩
    rw [List.map_append]
    exact hlists.write hnew (hlimits entry hmem)
  · exact ⟨[], rfl, Lists.nil fun _ hne => hne rfl⟩

/-- The constructor lists the assets with a limit, if no limit is zero. -/
theorem Kept.deploy (hlimits : ∀ limit ∈ limits, limit ≠ 0)
    (deployed : AssetLimitHook.deploy msgSender assets limits = .ok h) : Kept h := by
  simp only [AssetLimitHook.deploy, bind_eq_ok, require_eq_ok, pure_eq_ok] at deployed
  obtain ⟨-, hlength, -, -, assetLimits, hloop, rfl⟩ := deployed
  have hlists := lists_of_limitRounds
    (fun entry hentry => hlimits entry.2 (List.of_mem_zip hentry).2) hloop
  rwa [List.map_fst_zip hlength.le] at hlists

/-- Every call that sets no limit to zero keeps list and limits in step. -/
theorem Kept.step {a : Action} (hkept : Kept h) (met : SetsLimit a h)
    (stepped : AssetLimitHook.step a h = .ok h') : Kept h' := by
  cases a with
  | addAssetLimit msgSender asset newLimit =>
    simp only [AssetLimitHook.step, AssetLimitHook.addAssetLimit, bind_eq_ok, require_eq_ok,
      pure_eq_ok] at stepped
    obtain ⟨-, -, -, hnew, rfl⟩ := stepped
    exact hkept.write hnew met
  | editAssetLimit msgSender asset newLimit =>
    simp only [AssetLimitHook.step, AssetLimitHook.editAssetLimit, bind_eq_ok, require_eq_ok,
      pure_eq_ok] at stepped
    obtain ⟨-, -, -, hold, rfl⟩ := stepped
    exact hkept.rewrite hold met
  | removeAssetLimit msgSender asset =>
    simp only [AssetLimitHook.step, AssetLimitHook.removeAssetLimit, bind_eq_ok,
      AddressArrayUtils.remove_eq_ok, pure_eq_ok] at stepped
    obtain ⟨-, -, -, -, _, ⟨-, rfl⟩, rfl⟩ := stepped
    exact hkept.erase
  | transferOwnership msgSender newOwner =>
    simp only [AssetLimitHook.step, AssetLimitHook.transferOwnership, bind_eq_ok,
      pure_eq_ok] at stepped
    obtain ⟨-, -, -, -, rfl⟩ := stepped
    exact hkept
  | renounceOwnership msgSender =>
    simp only [AssetLimitHook.step, AssetLimitHook.renounceOwnership, bind_eq_ok,
      pure_eq_ok] at stepped
    obtain ⟨-, -, rfl⟩ := stepped
    exact hkept

/-- **The listed assets**: from a constructor that is given no limit zero, after any calls that set
no limit to zero, the list of assets has no duplicates and holds exactly the assets with a limit
other than zero. -/
theorem assetsListed_of_run (hlimits : ∀ limit ∈ limits, limit ≠ 0)
    (deployed : deploy msgSender assets limits = .ok h) (reached : ReachWhen step SetsLimit h h') :
    h'.assets.Nodup ∧ ∀ asset, asset ∈ h'.assets ↔ h'.assetLimits asset ≠ 0 := by
  have hkept := reached.invariant Kept (fun a h h' hkept met stepped => hkept.step met stepped)
    (Kept.deploy hlimits deployed)
  exact ⟨hkept.nodup, hkept.mem_iff⟩

/-- The hook lets an issuance of a positive amount pass for listed assets only. -/
theorem mem_assets_of_invokePreIssueHook {quantity : ℕ} (hkept : Kept h) (hpos : 0 < quantity)
    (hpass : h.invokePreIssueHook asset quantity = .ok ()) : asset ∈ h.assets := by
  rw [invokePreIssueHook, require_eq_ok] at hpass
  exact (hkept.mem_iff asset).mpr (hpos.trans_le hpass).ne'

/-! ## Example -/

/-- A hook for the assets `11` and `12`. Its owner `1` removes `11`, adds `13`, and raises the limit
of `12`. -/
theorem assetsListed_of_run_example :
    ∃ h h', deploy 1 [11, 12] [5, 6] = .ok h ∧ ReachWhen step SetsLimit h h' ∧
      h'.assets = [12, 13] ∧ h'.assets.Nodup ∧
      ∀ asset, asset ∈ h'.assets ↔ h'.assetLimits asset ≠ 0 := by
  obtain ⟨h, hdeploy, hstart⟩ := exists_of_yields
    (x := deploy 1 [11, 12] [5, 6])
    (p := fun h => yields (runAll (guarded step SetsLimit "")
      [.removeAssetLimit 1 11, .addAssetLimit 1 13 7, .editAssetLimit 1 12 8] h)
      fun h' => h'.assets = [12, 13]) (by decide +kernel)
  obtain ⟨h', hrun, hassets⟩ := exists_of_yields hstart
  have hreached := reachWhen_of_runAll hrun
  exact ⟨h, h', hdeploy, hreached, of_decide_eq_true hassets,
    assetsListed_of_run (by decide) hdeploy hreached⟩

/-- The owner sets the limit of `11` to zero, and adds `11` once more: it is listed twice. After its
removal it is still listed, without a limit. The constructor accepts an asset twice as well, with
the limit zero. -/
theorem run_lists_asset_twice :
    (∃ h h', deploy 1 [11] [5] = .ok h ∧ Reach step h h' ∧ h'.assets = [11, 11]) ∧
      (∃ h h', deploy 1 [11] [5] = .ok h ∧ Reach step h h' ∧ h'.assets = [11] ∧
        h'.assetLimits 11 = 0) ∧
      ∃ h, deploy 1 [11, 11] [0, 0] = .ok h ∧ h.assets = [11, 11] := by
  refine ⟨?_, ?_, ?_⟩
  · obtain ⟨h, hdeploy, hstart⟩ := exists_of_yields
      (x := deploy 1 [11] [5])
      (p := fun h => yields (runAll step [.editAssetLimit 1 11 0, .addAssetLimit 1 11 5] h)
        fun h' => h'.assets = [11, 11]) (by decide +kernel)
    obtain ⟨h', hrun, hassets⟩ := exists_of_yields hstart
    exact ⟨h, h', hdeploy, reach_of_runAll hrun, of_decide_eq_true hassets⟩
  · obtain ⟨h, hdeploy, hstart⟩ := exists_of_yields
      (x := deploy 1 [11] [5])
      (p := fun h => yields (runAll step
        [.editAssetLimit 1 11 0, .addAssetLimit 1 11 5, .removeAssetLimit 1 11] h)
        fun h' => h'.assets = [11] ∧ h'.assetLimits 11 = 0) (by decide +kernel)
    obtain ⟨h', hrun, hassets⟩ := exists_of_yields hstart
    exact ⟨h, h', hdeploy, reach_of_runAll hrun, of_decide_eq_true hassets⟩
  · obtain ⟨h, hdeploy, hassets⟩ := exists_of_yields
      (x := deploy 1 [11, 11] [0, 0]) (p := fun h => h.assets = [11, 11]) (by decide +kernel)
    exact ⟨h, hdeploy, of_decide_eq_true hassets⟩

end AssetLimitHook

end SetProtocol
