import Mathlib.Data.Bool.Basic
import SetProtocol.Core.World
import SetProtocol.Lib.SwapPop

set_option relaxedAutoImplicit false
set_option autoImplicit false

/-!
# The registry of markets of a Set

The leverage module keeps, for each Set, lists of the markets that it uses as collateral and for
borrowing, flags for the same markets, and the assets that are borrowed, by index. Next to these a
market is entered or not on the Comptroller. This file has the operations on these data alone, and
the invariant that they are about.

## Main definitions

* `SetProtocol.Registry` — the lists, the flags and the markets that were entered.
* `SetProtocol.Registry.addCollateral`, `removeCollateral`, `addBorrow`, `removeBorrow` — the
  operations.
* `SetProtocol.Registry.WellKept` — the lists are those of the flags, assets and markets go
  together, and the markets entered are those with a flag.
* `SetProtocol.Registry.RemovesPair` — the asset is removed where its market is.

## Main results

* `SetProtocol.Registry.WellKept.addCollateral` and its siblings — the operations keep the
  invariant.
-/

namespace SetProtocol

/-- The registry of one Set. -/
@[ext] structure Registry where
  /-- The lists of markets and assets. -/
  enabled : EnabledAssets
  /-- Whether a market is collateral. -/
  collateral : Address → Bool
  /-- Whether a market is one to borrow on. -/
  borrow : Address → Bool
  /-- Whether a market was entered and not exited since. -/
  entered : Address → Bool

namespace Registry

/-! ## Operations -/

/-- Enter a market. -/
def enter (r : Registry) (cToken : Address) : Registry :=
  { r with entered := Function.update r.entered cToken true }

/-- Exit a market. -/
def exit (r : Registry) (cToken : Address) : Registry :=
  { r with entered := Function.update r.entered cToken false }

/-- Add a market as collateral. -/
def addCollateral (r : Registry) (cToken : Address) : Registry where
  enabled :=
    { r.enabled with collateralCTokens := r.enabled.collateralCTokens ++ [cToken] }
  collateral := Function.update r.collateral cToken true
  borrow := r.borrow
  entered := if r.borrow cToken = false then (r.enter cToken).entered else r.entered

/-- Remove a market from collateral. -/
def removeCollateral (r : Registry) (cToken : Address) : Registry where
  enabled :=
    { r.enabled with
      collateralCTokens := SwapPop.swapPop r.enabled.collateralCTokens
        (r.enabled.collateralCTokens.idxOf cToken) }
  collateral := Function.update r.collateral cToken false
  borrow := r.borrow
  entered := if r.borrow cToken = false then (r.exit cToken).entered else r.entered

/-- Add a market to borrow an asset on. -/
def addBorrow (r : Registry) (cToken asset : Address) : Registry where
  enabled :=
    { r.enabled with
      borrowCTokens := r.enabled.borrowCTokens ++ [cToken]
      borrowAssets := r.enabled.borrowAssets ++ [asset] }
  collateral := r.collateral
  borrow := Function.update r.borrow cToken true
  entered := if r.collateral cToken = false then (r.enter cToken).entered else r.entered

/-- The lists without a market to borrow on and without an asset. Each is looked for in its own
list. -/
def withoutBorrow (enabled : EnabledAssets) (cToken asset : Address) : EnabledAssets :=
  { enabled with
    borrowCTokens := SwapPop.swapPop enabled.borrowCTokens (enabled.borrowCTokens.idxOf cToken)
    borrowAssets := SwapPop.swapPop enabled.borrowAssets (enabled.borrowAssets.idxOf asset) }

/-- Remove a market, and an asset, from those to borrow. -/
def removeBorrow (r : Registry) (cToken asset : Address) : Registry where
  enabled := withoutBorrow r.enabled cToken asset
  collateral := r.collateral
  borrow := Function.update r.borrow cToken false
  entered := if r.collateral cToken = false then (r.exit cToken).entered else r.entered

/-- Drop the flag of a market to borrow on. -/
def leaveBorrow (r : Registry) (cToken : Address) : Registry :=
  { r with
    borrow := Function.update r.borrow cToken false
    entered := if r.collateral cToken = false then (r.exit cToken).entered else r.entered }

/-- Drop the flag of a market that is collateral. -/
def leaveCollateral (r : Registry) (cToken : Address) : Registry :=
  { r.exit cToken with collateral := Function.update r.collateral cToken false }

/-! ## The invariant -/

/-- The registry is well kept, where each market was last enabled for borrowing with the given
asset. -/
structure WellKept (r : Registry) (enabledWith : Address → Address) : Prop where
  /-- The collateral markets are listed once. -/
  collateralNodup : r.enabled.collateralCTokens.Nodup
  /-- The markets to borrow on are listed once. -/
  borrowNodup : r.enabled.borrowCTokens.Nodup
  /-- The collateral markets listed are those with the flag. -/
  mem_collateral : ∀ c, c ∈ r.enabled.collateralCTokens ↔ r.collateral c = true
  /-- The markets to borrow on that are listed are those with the flag. -/
  mem_borrow : ∀ c, c ∈ r.enabled.borrowCTokens ↔ r.borrow c = true
  /-- The assets are those with which the markets at the same indices were enabled. -/
  assets : r.enabled.borrowAssets = r.enabled.borrowCTokens.map enabledWith
  /-- The markets entered are those with a flag. -/
  entered : ∀ c, r.entered c = (r.collateral c || r.borrow c)

/-- Removing the asset where it is listed first removes the entry of the market: the two are at the
same index, or both entries are the asset and so is the last one. -/
def RemovesPair (enabled : EnabledAssets) (cToken asset : Address) : Prop :=
  enabled.borrowAssets.idxOf asset = enabled.borrowCTokens.idxOf cToken ∨
    enabled.borrowAssets[enabled.borrowCTokens.idxOf cToken]? = some asset ∧
      enabled.borrowAssets.getLast? = some asset

instance (enabled : EnabledAssets) (cToken asset : Address) :
    Decidable (RemovesPair enabled cToken asset) :=
  inferInstanceAs (Decidable (_ ∨ _))

variable {r : Registry} {enabledWith : Address → Address} {cToken asset : Address}

/-- A pair is removed at one index. -/
theorem RemovesPair.swapPop_eq {enabled : EnabledAssets} (h : RemovesPair enabled cToken asset)
    (hasset : asset ∈ enabled.borrowAssets) :
    SwapPop.swapPop enabled.borrowAssets (enabled.borrowAssets.idxOf asset) =
      SwapPop.swapPop enabled.borrowAssets (enabled.borrowCTokens.idxOf cToken) := by
  rcases h with hindex | ⟨hmarket, hlast⟩
  · rw [hindex]
  · have hfirst : enabled.borrowAssets[enabled.borrowAssets.idxOf asset]? = some asset := by
      have hlt := List.idxOf_lt_length_of_mem hasset
      rw [List.getElem?_eq_getElem hlt, List.getElem_idxOf hlt]
    rw [SwapPop.swapPop_eq_dropLast (hfirst.trans hlast.symm),
      SwapPop.swapPop_eq_dropLast (hmarket.trans hlast.symm)]

/-- A list with one more entry is that of the flags with one more flag. -/
private theorem mem_add {l : List Address} {flag : Address → Bool} (h : ∀ c, c ∈ l ↔ flag c = true)
    (c : Address) : c ∈ l ++ [cToken] ↔ Function.update flag cToken true c = true := by
  rw [List.mem_append, List.mem_singleton, h]
  by_cases hc : c = cToken
  · simp [hc]
  · simp [hc]

/-- A list with an entry removed is that of the flags with one flag less. -/
private theorem mem_remove {l : List Address} {flag : Address → Bool} (hl : l.Nodup)
    (h : ∀ c, c ∈ l ↔ flag c = true) (hflag : flag cToken = true) (c : Address) :
    c ∈ SwapPop.swapPop l (l.idxOf cToken) ↔ Function.update flag cToken false c = true := by
  rw [SwapPop.mem_swapPop hl ((h cToken).mpr hflag), h]
  by_cases hc : c = cToken
  · simp [hc]
  · simp [hc]

/-- Markets are entered for the first of two flags. -/
private theorem entered_add {entered flag other : Address → Bool}
    (h : ∀ c, entered c = (flag c || other c)) (c : Address) :
    (if other cToken = false then Function.update entered cToken true else entered) c =
      (Function.update flag cToken true c || other c) := by
  have hc := h c
  by_cases hcc : c = cToken
  · subst hcc
    cases hother : other c <;> simp [hc, hother]
  · cases hother : other cToken <;> simp [hc, hcc]

/-- Markets are exited for the last of two flags. -/
private theorem entered_remove {entered flag other : Address → Bool}
    (h : ∀ c, entered c = (flag c || other c)) (c : Address) :
    (if other cToken = false then Function.update entered cToken false else entered) c =
      (Function.update flag cToken false c || other c) := by
  have hc := h c
  by_cases hcc : c = cToken
  · subst hcc
    cases hother : other c <;> simp [hc, hother]
  · cases hother : other cToken <;> simp [hc, hcc]

namespace WellKept

/-- The markets entered, with the flags the other way round. -/
private theorem entered_comm (h : WellKept r enabledWith) (c : Address) :
    r.entered c = (r.borrow c || r.collateral c) := by
  rw [h.entered, Bool.or_comm]

/-- Adding collateral keeps the registry. -/
theorem addCollateral (h : WellKept r enabledWith) (hflag : r.collateral cToken = false) :
    WellKept (r.addCollateral cToken) enabledWith where
  collateralNodup := by
    refine List.nodup_append.mpr ⟨h.collateralNodup, List.nodup_singleton _, ?_⟩
    rintro a ha b hb rfl
    rw [List.mem_singleton.mp hb, h.mem_collateral, hflag] at ha
    exact Bool.false_ne_true ha
  borrowNodup := h.borrowNodup
  mem_collateral := mem_add h.mem_collateral
  mem_borrow := h.mem_borrow
  assets := h.assets
  entered := entered_add h.entered

/-- Removing collateral keeps the registry. -/
theorem removeCollateral (h : WellKept r enabledWith) (hflag : r.collateral cToken = true) :
    WellKept (r.removeCollateral cToken) enabledWith where
  collateralNodup := SwapPop.nodup_swapPop h.collateralNodup ((h.mem_collateral _).mpr hflag)
  borrowNodup := h.borrowNodup
  mem_collateral := mem_remove h.collateralNodup h.mem_collateral hflag
  mem_borrow := h.mem_borrow
  assets := h.assets
  entered := entered_remove h.entered

/-- Adding a market to borrow on keeps the registry, and the market goes with the asset. -/
theorem addBorrow (h : WellKept r enabledWith) (hflag : r.borrow cToken = false) :
    WellKept (r.addBorrow cToken asset) (Function.update enabledWith cToken asset) where
  collateralNodup := h.collateralNodup
  borrowNodup := by
    refine List.nodup_append.mpr ⟨h.borrowNodup, List.nodup_singleton _, ?_⟩
    rintro a ha b hb rfl
    rw [List.mem_singleton.mp hb, h.mem_borrow, hflag] at ha
    exact Bool.false_ne_true ha
  mem_collateral := h.mem_collateral
  mem_borrow := mem_add h.mem_borrow
  assets := by
    have hold : r.enabled.borrowCTokens.map (Function.update enabledWith cToken asset) =
        r.enabled.borrowCTokens.map enabledWith := by
      refine List.map_congr_left fun c hc => Function.update_of_ne ?_ _ _
      rintro rfl
      rw [h.mem_borrow, hflag] at hc
      exact Bool.false_ne_true hc
    simp only [Registry.addBorrow, List.map_append, List.map_singleton, Function.update_self, hold,
      h.assets]
  entered c := (entered_add h.entered_comm c).trans (Bool.or_comm _ _)

/-- Removing a market to borrow on with its asset keeps the registry. -/
theorem removeBorrow (h : WellKept r enabledWith) (hflag : r.borrow cToken = true)
    (hasset : asset ∈ r.enabled.borrowAssets) (hpair : RemovesPair r.enabled cToken asset) :
    WellKept (r.removeBorrow cToken asset) enabledWith where
  collateralNodup := h.collateralNodup
  borrowNodup := SwapPop.nodup_swapPop h.borrowNodup ((h.mem_borrow _).mpr hflag)
  mem_collateral := h.mem_collateral
  mem_borrow := mem_remove h.borrowNodup h.mem_borrow hflag
  assets := by
    simp only [Registry.removeBorrow, withoutBorrow]
    rw [hpair.swapPop_eq hasset, SwapPop.map_swapPop, h.assets]
  entered c := (entered_remove h.entered_comm c).trans (Bool.or_comm _ _)

end WellKept

/-! ## Leaving all markets -/

/-- The markets with a flag are among those still to be left, and are those that were entered. -/
structure Leaving (r : Registry) (collateral borrow : List Address) : Prop where
  /-- The flags of collateral. -/
  mem_collateral : ∀ c, r.collateral c = true → c ∈ collateral
  /-- The flags to borrow. -/
  mem_borrow : ∀ c, r.borrow c = true → c ∈ borrow
  /-- The markets entered are those with a flag. -/
  entered : ∀ c, r.entered c = (r.collateral c || r.borrow c)

namespace Leaving

variable {l l' : List Address}

/-- Leaving a market to borrow on. -/
theorem leaveBorrow (h : Leaving r l (cToken :: l')) : Leaving (r.leaveBorrow cToken) l l' where
  mem_collateral := h.mem_collateral
  mem_borrow c hc := by
    by_cases hcc : c = cToken
    · simp [Registry.leaveBorrow, hcc] at hc
    · have hc : r.borrow c = true := by simpa [Registry.leaveBorrow, hcc] using hc
      exact (List.mem_cons.mp (h.mem_borrow c hc)).resolve_left hcc
  entered c := (entered_remove (fun c => (h.entered c).trans (Bool.or_comm _ _)) c).trans
    (Bool.or_comm _ _)

/-- Leaving a market that is collateral, when there are none to borrow on. -/
theorem leaveCollateral (h : Leaving r (cToken :: l) []) :
    Leaving (r.leaveCollateral cToken) l [] where
  mem_collateral c hc := by
    by_cases hcc : c = cToken
    · simp [Registry.leaveCollateral, hcc] at hc
    · have hc : r.collateral c = true := by simpa [Registry.leaveCollateral, hcc] using hc
      exact (List.mem_cons.mp (h.mem_collateral c hc)).resolve_left hcc
  mem_borrow := h.mem_borrow
  entered c := by
    have hc := h.entered c
    have hborrow : r.borrow c = false :=
      Bool.eq_false_of_not_eq_true fun hb => List.not_mem_nil (h.mem_borrow c hb)
    by_cases hcc : c = cToken
    · subst hcc
      simp [Registry.leaveCollateral, exit, hborrow]
    · simp [Registry.leaveCollateral, exit, hc, hcc]

/-- When all markets are left, the lists can be dropped. -/
theorem wellKept (h : Leaving r [] []) (enabledWith : Address → Address) :
    WellKept { r with enabled := {} } enabledWith where
  collateralNodup := List.nodup_nil
  borrowNodup := List.nodup_nil
  mem_collateral c := iff_of_false List.not_mem_nil fun hc =>
    List.not_mem_nil (h.mem_collateral c hc)
  mem_borrow c := iff_of_false List.not_mem_nil fun hc => List.not_mem_nil (h.mem_borrow c hc)
  assets := rfl
  entered := h.entered

end Leaving

end Registry

end SetProtocol
