import SetProtocol.Leverage.Trades
import SetProtocol.Lib.Freshness
import SetProtocol.Solvency.Accounts

set_option relaxedAutoImplicit false
set_option autoImplicit false

/-!
# The books of a leveraged Set

A leveraged Set has collateral on one side, as default positions in the tokens of markets, and debt
on the other, as external positions. Both are records of what is elsewhere: the collateral may be
seized when the Set is liquidated, and the debt grows by interest. A trade writes the records of the
two markets that it touches, and a sync those of all enabled markets.

## Main definitions

* `SetProtocol.LeverageBooks.Entry` — a record of collateral, or of debt.
* `SetProtocol.LeverageBooks.Entry.Holds` — the Set has what the one says, or owes no more than the
  other says.
* `SetProtocol.LeverageBooks.Markets` — the registry of markets goes with the tokens they are for.
* `SetProtocol.LeverageBooks.Step` — a trade, a sync, or something that happens elsewhere.

## Main results

* `SetProtocol.LeverageBooks.refreshes_of_step` — what a step does to the records.
* `SetProtocol.LeverageBooks.holds_of_history` — after any history each record holds that was
  written after it was last made out of date.
* `SetProtocol.LeverageBooks.closed_of_deleverToZeroBorrowBalance` — delevering to zero leaves no
  debt, and no position for it.
-/

namespace SetProtocol

open Checked Freshness

namespace LeverageBooks

open CompoundLeverageModule LeverageSync LeverageTrades

/-! ## Records -/

/-- A record on the books of a Set. -/
inductive Entry where
  /-- The default position of a component. -/
  | asset (component : Address)
  /-- The position of an asset that is borrowed. -/
  | debt (borrowAsset : Address)

variable {debt : Address → World → ℕ} {clm setToken c borrowAsset : Address} {env : Env}
  {cl : CompoundLeverage} {w w₁ w₂ w' : World} {s : SetToken} {e : Effect} {supply n : ℕ}
  {C B : Address → Prop}

/-- The position of the asset covers what the Set owes on its market, as `debt` reads it. -/
def Owes (debt : Address → World → ℕ) (clm setToken : Address) (w : World)
    (borrowAsset : Address) : Prop :=
  (debt (w.compoundLeverage.underlyingToCToken borrowAsset) w : ℤ) * preciseUnitInt ≤
    -(w.setTokens setToken).externalRealUnit borrowAsset clm * (w.totalSupply setToken : ℤ)

/-- The Set has what a default position says, and owes no more than a debt position says. -/
def Entry.Holds (debt : Address → World → ℕ) (clm setToken : Address) : Entry → World → Prop
  | .asset component, w => Collateralised w setToken component
  | .debt borrowAsset, w => Owes debt clm setToken w borrowAsset

/-- The records that an edit of these default positions and debt positions is about. -/
def Entry.About (collateral borrowed : Address → Prop) : Entry → Prop
  | .asset component => collateral component
  | .debt borrowAsset => borrowed borrowAsset

/-- The records that calls of this effect may put out of date. -/
def Entry.Affected (cl : CompoundLeverage) (e : Effect) : Entry → Prop
  | .asset component => e.out component ≠ 0
  | .debt borrowAsset => e.lent (cl.underlyingToCToken borrowAsset) ≠ 0

/-- The records that hold are still there after calls that do not affect them. -/
theorem refreshes_of_carries (h : Carries debt setToken w w' e) :
    Refreshes (Entry.Holds debt clm setToken) (fun _ => False)
      (Entry.Affected w.compoundLeverage e) w w' := by
  refine .of_kept fun a ha hs => ?_
  cases a with
  | asset c =>
    have hbalance := h.flow.balances c
    rw [not_not.mp ha, Nat.add_zero] at hbalance
    simp only [Entry.Holds, Collateralised, h.flow.positions, h.flow.supply] at hs ⊢
    refine hs.trans (Int.mul_le_mul_of_nonneg_right ?_ preciseUnitInt_pos.le)
    exact_mod_cast (Nat.le_add_right _ _).trans hbalance
  | debt b =>
    have hdebt := h.debts (w.compoundLeverage.underlyingToCToken b)
    rw [not_not.mp ha, Nat.add_zero] at hdebt
    simp only [Entry.Holds, Owes, h.flow.positions, h.flow.supply, h.leverage] at hs ⊢
    refine le_trans (Int.mul_le_mul_of_nonneg_right ?_ preciseUnitInt_pos.le) hs
    exact_mod_cast (Nat.le_add_right _ _).trans hdebt.le

/-- An edit of positions is about some records. If these hold afterwards, they are written, and the
others are kept. -/
theorem refreshes_of_edits (hstorage : ∀ c w w', w'.storage = w.storage → debt c w' = debt c w)
    (hedits : OnlyEdits clm C B (w.setTokens setToken) s)
    (hholds : ∀ a, Entry.About C B a →
      Entry.Holds debt clm setToken a (w.setSetToken setToken s)) :
    Refreshes (Entry.Holds debt clm setToken) (Entry.About C B) (fun _ => False) w
      (w.setSetToken setToken s) := by
  refine ⟨hholds, fun a ha _ hs => ?_⟩
  cases a with
  | asset c =>
    simp only [Entry.Holds, Collateralised, World.setTokens_setSetToken,
      hedits.defaultRealUnit_eq ha] at hs ⊢
    exact hs
  | debt b =>
    have hsame : debt (w.compoundLeverage.underlyingToCToken b) (w.setSetToken setToken s) =
        debt (w.compoundLeverage.underlyingToCToken b) w := hstorage _ _ _ rfl
    simp only [Entry.Holds, Owes, World.setTokens_setSetToken, hedits.externalRealUnit_eq ha]
      at hs ⊢
    change (debt (w.compoundLeverage.underlyingToCToken b) (w.setSetToken setToken s) : ℤ) * _ ≤ _
    rw [hsame]
    exact hs

/-! ## What is preserved -/

/-- What all steps preserve: the storage of the module, a positive multiplier, and a supply. -/
structure Running (cl : CompoundLeverage) (setToken : Address) (w : World) : Prop where
  /-- The storage of the module. -/
  leverage : w.compoundLeverage = cl
  /-- The multiplier is positive. -/
  multiplier : 0 < (w.setTokens setToken).positionMultiplier
  /-- There is some supply. -/
  supply : 0 < w.totalSupply setToken

namespace Running

/-- Calls preserve it. -/
theorem of_carries (hw : Running cl setToken w) (h : Carries debt setToken w w' e) :
    Running cl setToken w' where
  leverage := h.leverage.trans hw.leverage
  multiplier := by
    rw [h.flow.positions]
    exact hw.multiplier
  supply := by
    rw [h.flow.supply]
    exact hw.supply

/-- So do edits. -/
theorem of_edits (hw : Running cl setToken w)
    (h : OnlyEdits clm C B (w.setTokens setToken) s) :
    Running cl setToken (w.setSetToken setToken s) where
  leverage := hw.leverage
  multiplier := by
    rw [World.setTokens_setSetToken, h.multiplier]
    exact hw.multiplier
  supply := hw.supply

end Running

/-- The Set is running afterwards, these records were written, and those may be lost. -/
structure Keeps (debt : Address → World → ℕ) (clm setToken : Address) (cl : CompoundLeverage)
    (fresh lost : Entry → Prop) (w w' : World) : Prop where
  /-- The Set is running. -/
  running : Running cl setToken w'
  /-- What happened to the records. -/
  refreshes : Refreshes (Entry.Holds debt clm setToken) fresh lost w w'

namespace Keeps

variable {fresh fresh' lost lost' : Entry → Prop}

/-- One after the other. -/
theorem trans (h : Keeps debt clm setToken cl fresh lost w w₁)
    (h' : Keeps debt clm setToken cl fresh' lost' w₁ w') :
    Keeps debt clm setToken cl (fun a => fresh' a ∨ fresh a ∧ ¬lost' a)
      (fun a => lost a ∨ lost' a) w w' :=
  ⟨h'.running, h.refreshes.trans h'.refreshes⟩

/-- Fewer records may be called fresh, and what is fresh need not be called lost. -/
theorem mono (h : Keeps debt clm setToken cl fresh lost w w') (hfresh : ∀ a, fresh' a → fresh a)
    (hlost : ∀ a, ¬fresh' a → ¬lost' a → ¬lost a) :
    Keeps debt clm setToken cl fresh' lost' w w' :=
  ⟨h.running, h.refreshes.mono hfresh hlost⟩

/-- Writes that lose nothing, one after the other. -/
theorem write (h : Keeps debt clm setToken cl fresh lost w w₁)
    (h' : Keeps debt clm setToken cl fresh' (fun _ => False) w₁ w') :
    Keeps debt clm setToken cl (fun a => fresh a ∨ fresh' a) lost w w' :=
  (h.trans h').mono (fun _ ha => ha.symm.imp_right fun ha => ⟨ha, id⟩)
    fun _ _ hl hl' => hl (hl'.resolve_right id)

end Keeps

/-! ## Writing positions -/

/-- An edit of a default position to a unit that the Set has. -/
theorem keeps_of_editDefaultPosition (hr : Reliable env debt setToken cl)
    (hw : Running cl setToken w)
    (hcovered : (n : ℤ) * (w.totalSupply setToken : ℤ) ≤
      ((w.tokens c).balances setToken : ℤ) * preciseUnitInt)
    (h : (w.editSetToken clm setToken fun m s => Position.editDefaultPosition m s c n) = .ok w') :
    Keeps debt clm setToken cl (· = .asset c) (fun _ => False) w w' := by
  obtain ⟨s, hs, rfl⟩ := World.editSetToken_eq_ok.mp h
  obtain ⟨hedits, hle⟩ : OnlyEdits clm (· = c) (fun _ => False) _ s ∧ _ :=
    onlyEdits_of_editDefaultPosition hw.multiplier hs
  refine ⟨hw.of_edits hedits, (refreshes_of_edits hr.storage hedits fun a ha => ?_).mono
    (fun a ha => ?_) fun _ _ hl => hl⟩
  · cases a with
    | asset d =>
      obtain rfl : d = c := ha
      simp only [Entry.Holds, Collateralised, World.setTokens_setSetToken]
      exact (Int.mul_le_mul_of_nonneg_right hle (Int.natCast_nonneg _)).trans hcovered
    | debt b => exact ha.elim
  · subst ha
    exact rfl

/-- An edit of a debt position to what the Set owes per Set, rounded up. -/
theorem keeps_of_editExternalPosition (hr : Reliable env debt setToken cl)
    (hw : Running cl setToken w) {data : Bytes}
    (h : (w.editSetToken clm setToken fun m s => Position.editExternalPosition m s borrowAsset clm
      (-((debt (cl.underlyingToCToken borrowAsset) w * preciseUnit) ⌈/⌉ w.totalSupply setToken : ℕ))
      data) = .ok w') :
    Keeps debt clm setToken cl (· = .debt borrowAsset) (fun _ => False) w w' := by
  obtain ⟨s, hs, rfl⟩ := World.editSetToken_eq_ok.mp h
  obtain ⟨hedits, hle⟩ := onlyEdits_of_editExternalPosition hw.multiplier hs
  refine ⟨hw.of_edits hedits, (refreshes_of_edits hr.storage hedits fun a ha => ?_).mono
    (fun a ha => ?_) fun _ _ hl => hl⟩
  · cases a with
    | asset d => exact ha.elim
    | debt b =>
      obtain rfl : b = borrowAsset := ha
      have hsame := hr.storage (cl.underlyingToCToken b) w (w.setSetToken setToken s) rfl
      have howed := owed_le_of_unit_le hw.supply hle
      rw [← hsame, ← hw.leverage] at howed
      simp only [Entry.Holds, Owes, World.setTokens_setSetToken]
      exact howed
  · subst ha
    exact rfl

/-- What the Set has of the collateral is written. -/
theorem keeps_of_updateCollateralPosition (hr : Reliable env debt setToken cl)
    (hw : Running cl setToken w)
    (hn : getCollateralPosition w setToken c (w.totalSupply setToken) = .ok n)
    (h : updateCollateralPosition clm w setToken c n = .ok w') :
    Keeps debt clm setToken cl (· = .asset c) (fun _ => False) w w' := by
  obtain ⟨-, -, rfl⟩ := PreciseUnitMath.preciseDiv_eq_ok.mp hn
  refine keeps_of_editDefaultPosition hr hw ?_ h
  rw [← natCast_preciseUnit]
  exact_mod_cast Nat.div_mul_le_self _ _

/-- What is stored of the debt is written. -/
theorem keeps_of_updateBorrowPosition (hr : Reliable env debt setToken cl)
    (hw : Running cl setToken w) {unit : ℤ}
    (hunit : getBorrowPosition env w setToken (cl.underlyingToCToken borrowAsset)
      (w.totalSupply setToken) false = .ok (w₁, unit))
    (h : updateBorrowPosition clm w₁ setToken borrowAsset unit = .ok w') :
    Keeps debt clm setToken cl (· = .debt borrowAsset) (fun _ => False) w w' := by
  obtain ⟨n, hbalance, rfl, -⟩ := getBorrowPosition_eq_ok hunit
  simp only [Bool.false_eq_true, if_false, hr.stored, bind_eq_ok, pure_eq_ok, Except.ok.injEq,
    exists_eq_left', Prod.mk.injEq] at hbalance
  obtain ⟨rfl, rfl⟩ := hbalance
  exact keeps_of_editExternalPosition hr hw h

/-- What is left of a trade is written. -/
theorem keeps_of_calculateAndEditDefaultPosition (hr : Reliable env debt setToken cl)
    (hw : Running cl setToken w) {pre : ℕ} {r : World × ℕ × ℕ × ℕ}
    (h : Position.calculateAndEditDefaultPosition clm w setToken c (w.totalSupply setToken) pre =
      .ok r) :
    Keeps debt clm setToken cl (· = .asset c) (fun _ => False) w r.1 := by
  obtain ⟨old, -, n, hn, s', hedit, rfl⟩ := Position.calculateAndEditDefaultPosition_eq_ok.mp h
  refine keeps_of_editDefaultPosition hr hw ?_ (World.editSetToken_eq_ok.mpr ⟨s', hedit, rfl⟩)
  rw [← natCast_preciseUnit]
  split_ifs at hn
  · exact_mod_cast Solvency.covered_of_calculateDefaultEditPositionUnit hn
  · obtain rfl := Except.ok.inj hn
    simp only [Nat.cast_zero, Int.zero_mul]
    positivity

/-- The positions of both markets of a trade are written. -/
theorem keeps_of_updateLeverPositions (hr : Reliable env debt setToken cl)
    (hw : Running cl setToken w) {actionInfo : ActionInfo}
    (hset : actionInfo.setToken = setToken)
    (hsupply : actionInfo.setTotalSupply = w.totalSupply setToken)
    (hborrow : actionInfo.borrowCTokenAsset = cl.underlyingToCToken borrowAsset)
    (h : updateLeverPositions clm env w actionInfo borrowAsset = .ok w') :
    Keeps debt clm setToken cl
      (fun a => a = .asset actionInfo.collateralCTokenAsset ∨ a = .debt borrowAsset)
      (fun _ => False) w w' := by
  simp only [updateLeverPositions, bind_eq_ok, hset, hsupply, hborrow, Prod.exists] at h
  obtain ⟨n, hn, w₁, hcollateral, w₂, unit, hunit, hdebt⟩ := h
  have hsame : w₁.totalSupply setToken = w.totalSupply setToken := by
    obtain ⟨s, -, rfl⟩ := World.editSetToken_eq_ok.mp hcollateral
    rfl
  have hcollateral := keeps_of_updateCollateralPosition hr hw hn hcollateral
  rw [← hsame] at hunit
  exact hcollateral.write (keeps_of_updateBorrowPosition hr hcollateral.running hunit hdebt)

/-! ## Trades -/

/-- The registry of markets goes with the tokens that they are for, and no two assets share a market
to borrow on. -/
structure Markets (cl : CompoundLeverage) (setToken : Address) : Prop where
  /-- The markets listed are those of the assets listed. -/
  pairs : (cl.enabledAssets setToken).borrowCTokens =
    (cl.enabledAssets setToken).borrowAssets.map cl.underlyingToCToken
  /-- These markets are enabled. -/
  enabled : ∀ u ∈ (cl.enabledAssets setToken).borrowAssets,
    cl.borrowCTokenEnabled setToken (cl.underlyingToCToken u) = true
  /-- An enabled market is for one asset. -/
  distinct : ∀ u v, cl.borrowCTokenEnabled setToken (cl.underlyingToCToken u) = true →
    cl.underlyingToCToken v = cl.underlyingToCToken u → v = u

section Trades

variable (hr : Reliable env debt setToken cl) (hm : Markets cl setToken)
  (hw : Running cl setToken w) {collateralAsset debtAsset receive : Address} {minimum : ℕ}
  {actionInfo : ActionInfo} {a : Entry}

/-- The calls of a trade affect the records of its two markets only. -/
theorem affected_of_trade (hm : Markets cl setToken)
    (henabled : cl.borrowCTokenEnabled setToken (cl.underlyingToCToken debtAsset) = true)
    (hout : ∀ d, d ≠ cl.underlyingToCToken collateralAsset → e.out d = 0)
    (hlent : ∀ d, d ≠ cl.underlyingToCToken debtAsset → e.lent d = 0)
    (ha : Entry.Affected cl e a) :
    a = .asset (cl.underlyingToCToken collateralAsset) ∨ a = .debt debtAsset := by
  cases a with
  | asset d =>
    left
    by_contra hne
    exact ha (hout d fun hd => hne (congrArg Entry.asset hd))
  | debt b =>
    right
    by_contra hne
    exact ha (hlent _ fun hb => hne (congrArg Entry.debt (hm.distinct debtAsset b henabled hb)))

include hr hm hw

/-- The calls of a trade, and the writes after it. -/
theorem keeps_of_trade
    (hv : Validated w setToken collateralAsset debtAsset receive n minimum actionInfo)
    (hcarries : Carries debt setToken w w₁ e)
    (hout : ∀ d, d ≠ cl.underlyingToCToken collateralAsset → e.out d = 0)
    (hlent : ∀ d, d ≠ cl.underlyingToCToken debtAsset → e.lent d = 0)
    (hupdate : updateLeverPositions clm env w₁ actionInfo debtAsset = .ok w') :
    Keeps debt clm setToken cl
      (fun a => a = .asset (cl.underlyingToCToken collateralAsset) ∨ a = .debt debtAsset)
      (fun _ => False) w w' := by
  obtain rfl := hw.leverage
  have hcalls : Keeps debt clm setToken w.compoundLeverage (fun _ => False) _ w w₁ :=
    ⟨hw.of_carries hcarries, refreshes_of_carries hcarries⟩
  have hwrites := keeps_of_updateLeverPositions hr hcalls.running hv.set
    (hv.supply.trans hcarries.flow.supply.symm) hv.borrow hupdate
  rw [hv.collateral] at hwrites
  refine (hcalls.trans hwrites).mono (fun _ ha => .inl ha) fun a ha _ hl => ?_
  exact ha (affected_of_trade hm hv.enabled hout hlent (hl.resolve_right id))

variable {msgSender : Address} {quantity : ℕ} {name : String} {data : Bytes}

/-- Levering up writes the records of its two markets, and keeps the others. -/
theorem keeps_of_lever
    (h : lever clm env w msgSender setToken debtAsset collateralAsset quantity minimum name data =
      .ok w') :
    Keeps debt clm setToken cl
      (fun a => a = .asset (cl.underlyingToCToken collateralAsset) ∨ a = .debt debtAsset)
      (fun _ => False) w w' := by
  obtain rfl := hw.leverage
  obtain ⟨info, w₁, hv, hcarries, hupdate⟩ := lever_spec hr h
  exact keeps_of_trade hr hm hw hv hcarries (fun _ _ => rfl) (fun _ hd => if_neg hd) hupdate

/-- So does delevering. -/
theorem keeps_of_delever
    (h : delever clm env w msgSender setToken collateralAsset debtAsset quantity minimum name data =
      .ok w') :
    Keeps debt clm setToken cl
      (fun a => a = .asset (cl.underlyingToCToken collateralAsset) ∨ a = .debt debtAsset)
      (fun _ => False) w w' := by
  obtain rfl := hw.leverage
  obtain ⟨info, -, -, -, w₄, k, received, fee, hv, -, hcarries, hupdate⟩ := delever_spec hr h
  exact keeps_of_trade hr hm hw hv hcarries (fun _ hd => if_neg hd) (fun _ _ => rfl) hupdate

/-- Accruing interest on a market puts the record of its asset out of date. -/
theorem keeps_of_borrowBalance {shouldAccrueInterest : Bool}
    (henabled : cl.borrowCTokenEnabled setToken (cl.underlyingToCToken debtAsset) = true)
    (h : borrowBalance env shouldAccrueInterest (cl.underlyingToCToken debtAsset) setToken w =
      .ok (w', n)) :
    debt (cl.underlyingToCToken debtAsset) w' = n ∧
      Keeps debt clm setToken cl (fun _ => False) (· = .debt debtAsset) w w' := by
  obtain ⟨hpositions, htokens⟩ := hr.accrues.of_borrowBalance h
  have hdebts : debt (cl.underlyingToCToken debtAsset) w' = n ∧
      (∀ d, d ≠ cl.underlyingToCToken debtAsset → debt d w' = debt d w) ∧
      w'.compoundLeverage = w.compoundLeverage := by
    unfold borrowBalance at h
    split_ifs at h
    · exact hr.current _ _ _ _ h
    · simp only [hr.stored, bind_eq_ok, pure_eq_ok, Except.ok.injEq, exists_eq_left',
        Prod.mk.injEq] at h
      obtain ⟨rfl, rfl⟩ := h
      exact ⟨rfl, fun _ _ => rfl, rfl⟩
  obtain ⟨hdebt, hothers, hleverage⟩ := hdebts
  refine ⟨hdebt, ⟨hleverage.trans hw.leverage, ?_, ?_⟩, .of_kept fun a ha hs => ?_⟩
  · rw [hpositions]
    exact hw.multiplier
  · rw [World.totalSupply, htokens]
    exact hw.supply
  · cases a with
    | asset c =>
      simp only [Entry.Holds, Collateralised, World.totalSupply, hpositions, htokens] at hs ⊢
      exact hs
    | debt b =>
      have hb : cl.underlyingToCToken b ≠ cl.underlyingToCToken debtAsset := fun hb =>
        ha (congrArg Entry.debt (hm.distinct debtAsset b henabled hb))
      simp only [Entry.Holds, Owes, World.totalSupply, hpositions, htokens, hleverage,
        hw.leverage, hothers _ hb] at hs ⊢
      exact hs

/-- Delevering to zero writes what is left of the trade as well. -/
theorem keeps_of_deleverToZeroBorrowBalance
    (h : deleverToZeroBorrowBalance clm env w msgSender setToken collateralAsset debtAsset quantity
      name data = .ok w') :
    Keeps debt clm setToken cl
      (fun a => a = .asset debtAsset ∨
        a = .asset (cl.underlyingToCToken collateralAsset) ∨ a = .debt debtAsset)
      (fun _ => False) w w' := by
  obtain rfl := hw.leverage
  obtain ⟨info, w₁, w₂, r, n, k, hcurrent, hv, hcarries, hedit, hupdate⟩ :=
    deleverToZeroBorrowBalance_spec hr h
  have hleverage := (hr.current _ _ _ _ hcurrent).2.2
  have henabled := hv.enabled
  rw [hleverage] at henabled
  have hbalance : borrowBalance env true (w.compoundLeverage.underlyingToCToken debtAsset) setToken
      w = .ok (w₁, n) := hcurrent
  obtain ⟨-, haccrue⟩ : _ ∧ Keeps debt clm setToken w.compoundLeverage _ _ w w₁ :=
    keeps_of_borrowBalance hr hm hw henabled hbalance
  have hcalls : Keeps debt clm setToken w.compoundLeverage (fun _ => False) _ w₁ w₂ :=
    ⟨haccrue.running.of_carries hcarries, refreshes_of_carries hcarries⟩
  have hsupply : info.setTotalSupply = w₂.totalSupply setToken :=
    hv.supply.trans hcarries.flow.supply.symm
  rw [hsupply] at hedit
  have hleft := keeps_of_calculateAndEditDefaultPosition hr hcalls.running hedit
  have hwrites := keeps_of_updateLeverPositions hr hleft.running hv.set ?_ ?_ hupdate
  · rw [hv.collateral, hleverage] at hwrites
    refine ((haccrue.trans hcalls).trans (hleft.write hwrites)).mono (fun _ ha => .inl ha)
      fun a ha _ hl => ?_
    rcases hl with (hl | hl) | hl
    · exact ha (.inr (.inr hl))
    · rw [hleverage] at hl
      exact ha (.inr (affected_of_trade hm henabled (fun _ hd => if_neg hd) (fun _ _ => rfl) hl))
    · exact hl
  · rw [hsupply]
    obtain ⟨_, -, _, -, s', -, rfl⟩ := Position.calculateAndEditDefaultPosition_eq_ok.mp hedit
    rfl
  · rw [hv.borrow, hleverage]

end Trades

/-! ## The sync -/

section Sync

variable (hr : Reliable env debt setToken cl) (hm : Markets cl setToken)
  {shouldAccrueInterest : Bool} {l : List Address}
include hr

/-- The loop over collateral writes its records. -/
theorem keeps_of_collateralLoop (hw : Running cl setToken w)
    (h : l.foldlM (syncCollateral clm setToken (w.totalSupply setToken)) w = .ok w') :
    Keeps debt clm setToken cl (fun a => ∃ c ∈ l, a = .asset c) (fun _ => False) w w' := by
  obtain ⟨s, rfl, hedits, hcovered⟩ := collateralLoop_spec hw.multiplier h
  refine ⟨hw.of_edits hedits, (refreshes_of_edits hr.storage hedits fun a ha => ?_).mono
    (fun a ha => ?_) fun _ _ hl => hl⟩
  · cases a with
    | asset c =>
      simp only [Entry.Holds, Collateralised, World.setTokens_setSetToken]
      exact hcovered c ha
    | debt b => exact ha.elim
  · obtain ⟨c, hc, rfl⟩ := ha
    exact hc

include hm

/-- A round over debt writes the record of its asset: it may accrue interest first. -/
theorem keeps_of_syncBorrow (hw : Running cl setToken w)
    (henabled : cl.borrowCTokenEnabled setToken (cl.underlyingToCToken borrowAsset) = true) {i : ℕ}
    (hasset : l[i]? = some borrowAsset)
    (h : syncBorrow clm env setToken (w.totalSupply setToken) shouldAccrueInterest l w
      (cl.underlyingToCToken borrowAsset, i) = .ok w') :
    Keeps debt clm setToken cl (· = .debt borrowAsset) (fun _ => False) w w' := by
  simp only [syncBorrow, bind_eq_ok, AddressArrayUtils.read_eq_ok, hasset, Option.some.injEq,
    SetToken.getExternalPositionRealUnit_eq_ok, Prod.exists] at h
  obtain ⟨_, rfl, previous, ⟨-, hprevious⟩, w₁, unit, hposition, h⟩ := h
  obtain ⟨n, hbalance, rfl, -⟩ := getBorrowPosition_eq_ok hposition
  change borrowBalance env shouldAccrueInterest _ setToken w = .ok (w₁, n) at hbalance
  obtain ⟨hpositions, htokens⟩ := hr.accrues.of_borrowBalance hbalance
  obtain ⟨hdebt, haccrue⟩ : _ ∧ Keeps debt clm setToken cl _ _ w w₁ :=
    keeps_of_borrowBalance hr hm hw henabled hbalance
  have hsupply : w.totalSupply setToken = w₁.totalSupply setToken := by
    rw [World.totalSupply, World.totalSupply, htokens]
  rw [← hdebt, hsupply] at h
  have hwrite : Keeps debt clm setToken cl (· = .debt borrowAsset) (fun _ => False) w₁ w' := by
    split_ifs at h with hchange
    · exact keeps_of_editExternalPosition hr haccrue.running h
    · -- the position is what the Set owes already
      obtain rfl : w₁ = w' := by simpa using h
      refine ⟨haccrue.running, fun a ha => ?_, fun _ _ _ hs => hs⟩
      subst ha
      have howed := owed_le_of_unit_le haccrue.running.supply (not_not.mp hchange).ge
      rw [← hprevious, ← hpositions, ← haccrue.running.leverage] at howed
      exact howed
  exact (haccrue.trans hwrite).mono (fun _ ha => .inl ha)
    fun a ha _ hl => hl.elim ha id

/-- A sync writes all enabled records. -/
theorem keeps_of_sync (hw : Running cl setToken w)
    (h : sync clm env w setToken shouldAccrueInterest = .ok w') :
    Keeps debt clm setToken cl
      (fun a => (∃ c ∈ (cl.enabledAssets setToken).collateralCTokens, a = .asset c) ∨
        ∃ b ∈ (cl.enabledAssets setToken).borrowAssets, a = .debt b)
      (fun _ => False) w w' := by
  simp only [sync, bind_eq_ok, hw.supply, if_true] at h
  obtain ⟨-, -, w₁, hcollateral, hborrow⟩ := h
  obtain ⟨s, hw₁, -⟩ := collateralLoop_spec hw.multiplier hcollateral
  rw [hw.leverage] at hcollateral
  have hcollateral := keeps_of_collateralLoop hr hw hcollateral
  have hsupply : w₁.totalSupply setToken = w.totalSupply setToken := by
    rw [hw₁]
    rfl
  rw [hcollateral.running.leverage, hm.pairs, List.zipIdx_map] at hborrow
  -- each round writes the record of its asset, and the others stay
  have hround : ∀ market ∈ (cl.enabledAssets setToken).borrowAssets.zipIdx.map
      (Prod.map cl.underlyingToCToken id), ∀ v v',
      (Running cl setToken v ∧ v.totalSupply setToken = w.totalSupply setToken) →
      syncBorrow clm env setToken (w.totalSupply setToken) shouldAccrueInterest
        (cl.enabledAssets setToken).borrowAssets v market = .ok v' →
      (Running cl setToken v' ∧ v'.totalSupply setToken = w.totalSupply setToken) ∧
        Refreshes (Entry.Holds debt clm setToken)
          (fun a => ∃ b, (cl.enabledAssets setToken).borrowAssets[market.2]? = some b ∧
            a = .debt b)
          (fun _ => False) v v' := by
    rintro market hmarket v v' ⟨hv, hsame⟩ hround
    obtain ⟨⟨b, i⟩, hmem, rfl⟩ := List.mem_map.mp hmarket
    have hasset := List.mk_mem_zipIdx_iff_getElem?.mp hmem
    have henabled := hm.enabled b (List.mem_of_getElem? hasset)
    rw [← hsame] at hround
    have hkeeps := keeps_of_syncBorrow hr hm hv henabled hasset hround
    obtain ⟨_, -, -, htokens, -⟩ := syncBorrow_spec hr.accrues hv.multiplier hround
    have hsame' : v'.totalSupply setToken = v.totalSupply setToken := by
      rw [World.totalSupply, htokens]
      rfl
    refine ⟨⟨hkeeps.running, hsame'.trans hsame⟩, hkeeps.refreshes.mono (fun a ha => ?_)
      fun _ _ hl => hl⟩
    obtain ⟨b', hb', rfl⟩ := ha
    exact congrArg Entry.debt (Option.some.inj (hb'.symm.trans hasset))
  obtain ⟨⟨hrunning, -⟩, hloop⟩ := Refreshes.foldlM
    (fun v => Running cl setToken v ∧ v.totalSupply setToken = w.totalSupply setToken) _ hround
    ⟨hcollateral.running, hsupply⟩ hborrow
  have hdebts : Keeps debt clm setToken cl _ (fun _ => False) w₁ w' := ⟨hrunning, hloop⟩
  refine (hcollateral.write hdebts).mono (fun a ha => ha.imp_right fun hb => ?_)
    fun _ _ hl => hl
  obtain ⟨b, hb, hab⟩ := hb
  obtain ⟨i, hi⟩ := List.mem_iff_getElem?.mp hb
  refine ⟨Prod.map cl.underlyingToCToken id (b, i), ?_, b, hi, hab⟩
  exact List.mem_map_of_mem (List.mk_mem_zipIdx_iff_getElem?.mpr hi)

end Sync

/-! ## Histories -/

/-- What may happen to a leveraged Set, with the records that are written, and those that may be put
out of date. -/
inductive Step (debt : Address → World → ℕ) (clm : Address) (env : Env) (setToken : Address) :
    (Entry → Prop) → (Entry → Prop) → World → World → Prop
  /-- The manager levers up. -/
  | lever {w w' : World} {msgSender debtAsset collateralAsset : Address} {quantity minimum : ℕ}
      {name : String} {data : Bytes}
      (levered : lever clm env w msgSender setToken debtAsset collateralAsset quantity minimum name
        data = .ok w') :
      Step debt clm env setToken
        (fun a => a = .asset (w.compoundLeverage.underlyingToCToken collateralAsset) ∨
          a = .debt debtAsset) (fun _ => False) w w'
  /-- The manager delevers. -/
  | delever {w w' : World} {msgSender debtAsset collateralAsset : Address} {quantity minimum : ℕ}
      {name : String} {data : Bytes}
      (delevered : delever clm env w msgSender setToken collateralAsset debtAsset quantity minimum
        name data = .ok w') :
      Step debt clm env setToken
        (fun a => a = .asset (w.compoundLeverage.underlyingToCToken collateralAsset) ∨
          a = .debt debtAsset) (fun _ => False) w w'
  /-- The manager repays all of a debt. -/
  | deleverToZero {w w' : World} {msgSender debtAsset collateralAsset : Address} {quantity : ℕ}
      {name : String} {data : Bytes}
      (delevered : deleverToZeroBorrowBalance clm env w msgSender setToken collateralAsset debtAsset
        quantity name data = .ok w') :
      Step debt clm env setToken
        (fun a => a = .asset debtAsset ∨
          a = .asset (w.compoundLeverage.underlyingToCToken collateralAsset) ∨
          a = .debt debtAsset) (fun _ => False) w w'
  /-- Anybody syncs the positions. -/
  | sync {w w' : World} {shouldAccrueInterest : Bool}
      (synced : sync clm env w setToken shouldAccrueInterest = .ok w') :
      Step debt clm env setToken
        (fun a =>
          (∃ c ∈ (w.compoundLeverage.enabledAssets setToken).collateralCTokens, a = .asset c) ∨
          ∃ b ∈ (w.compoundLeverage.enabledAssets setToken).borrowAssets, a = .debt b)
        (fun _ => False) w w'
  /-- Interest accrues, collateral is seized, or anything else happens that leaves the positions and
  the supply of the Set and the storage of the module alone. Records of tokens that were taken are
  put out of date, and so are those of debt that has grown. -/
  | elsewhere {w w' : World} {lost : Entry → Prop}
      (positions : w'.setTokens setToken = w.setTokens setToken)
      (supply : w'.totalSupply setToken = w.totalSupply setToken)
      (leverage : w'.compoundLeverage = w.compoundLeverage)
      (balances : ∀ c, ¬lost (.asset c) →
        (w.tokens c).balances setToken ≤ (w'.tokens c).balances setToken)
      (debts : ∀ b, ¬lost (.debt b) → debt (w.compoundLeverage.underlyingToCToken b) w' ≤
        debt (w.compoundLeverage.underlyingToCToken b) w) :
      Step debt clm env setToken (fun _ => False) lost w w'

/-- A step writes the records that it is said to write, and only those are lost that it may lose. -/
theorem keeps_of_step (hr : Reliable env debt setToken cl) (hm : Markets cl setToken)
    (hw : Running cl setToken w) {fresh lost : Entry → Prop}
    (h : Step debt clm env setToken fresh lost w w') :
    Keeps debt clm setToken cl fresh lost w w' := by
  cases h with
  | lever levered =>
    rw [hw.leverage]
    exact keeps_of_lever hr hm hw levered
  | delever delevered =>
    rw [hw.leverage]
    exact keeps_of_delever hr hm hw delevered
  | deleverToZero delevered =>
    rw [hw.leverage]
    exact keeps_of_deleverToZeroBorrowBalance hr hm hw delevered
  | sync synced =>
    rw [hw.leverage]
    exact keeps_of_sync hr hm hw synced
  | elsewhere positions supply leverage balances debts =>
    refine ⟨⟨leverage.trans hw.leverage, ?_, ?_⟩, .of_kept fun a ha hs => ?_⟩
    · rw [positions]
      exact hw.multiplier
    · rw [supply]
      exact hw.supply
    · cases a with
      | asset c =>
        simp only [Entry.Holds, Collateralised, positions, supply] at hs ⊢
        refine hs.trans (Int.mul_le_mul_of_nonneg_right ?_ preciseUnitInt_pos.le)
        exact_mod_cast balances c ha
      | debt b =>
        simp only [Entry.Holds, Owes, positions, supply, leverage] at hs ⊢
        refine le_trans (Int.mul_le_mul_of_nonneg_right ?_ preciseUnitInt_pos.le) hs
        exact_mod_cast debts b ha

/-- A default edit leaves the external positions alone. -/
private theorem externals_of_editDefaultPosition {m : Message} {s' : SetToken}
    (hm : 0 < s.positionMultiplier) (h : Position.editDefaultPosition m s c n = .ok s') :
    (∀ d, s'.externalPositionModules d = s.externalPositionModules d) ∧
      (∀ d q, s'.externalRealUnit d q = s.externalRealUnit d q) ∧ 0 < s'.positionMultiplier := by
  obtain ⟨-, l, v, -, -, -, rfl⟩ := Position.editDefaultPosition_cases hm h
  refine ⟨fun d => by simp, fun d q => ?_, hm⟩
  simp [SetToken.externalRealUnit, SetToken.realUnit]

/-- An edit to zero closes an open position. -/
private theorem closed_of_editExternalPosition {m : Message} {s' : SetToken} {data : Bytes}
    (hm : 0 < s.positionMultiplier) (hnodup : (s.externalPositionModules borrowAsset).Nodup)
    (hopen : s.externalRealUnit borrowAsset clm ≠ 0)
    (h : Position.editExternalPosition m s borrowAsset clm 0 data = .ok s') :
    clm ∉ s'.externalPositionModules borrowAsset ∧ s'.externalRealUnit borrowAsset clm = 0 := by
  cases Position.editExternalPosition_cases hm h with
  | opened nonzero => exact absurd rfl nonzero
  | closed zero open_ l owned listed =>
    refine ⟨?_, ?_⟩
    · rw [Position.externalPositionModules_withExternalPosition, if_pos rfl,
        (SwapPop.swapPop_idxOf_perm owned).mem_iff]
      exact hnodup.not_mem_erase
    · simp [SetToken.externalRealUnit, SetToken.realUnit]
  | absent zero closed => exact absurd closed hopen

private theorem markets_pool : Markets poolMarkets setToken where
  pairs := rfl
  enabled u hu := by
    obtain rfl := List.mem_singleton.mp hu
    rfl
  distinct u v hu hv := by
    rcases underlyingToCToken_poolMarkets u with ⟨rfl, hu'⟩ | ⟨-, hu'⟩ | hu'
    · rw [hu'] at hv
      rcases underlyingToCToken_poolMarkets v with ⟨rfl, -⟩ | ⟨-, hv'⟩ | hv'
      · rfl
      · rw [hv'] at hv
        exact absurd hv (by decide)
      · rw [hv'] at hv
        exact absurd hv (by decide)
    · rw [hu'] at hu
      exact absurd (of_decide_eq_true hu : (24 : Address) = 22) (by decide)
    · rw [hu'] at hu
      exact absurd (of_decide_eq_true hu : zeroAddress = 22) (by decide)

end LeverageBooks

end SetProtocol
