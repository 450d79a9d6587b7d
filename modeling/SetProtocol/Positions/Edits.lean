import SetProtocol.Core.ModuleBase

set_option relaxedAutoImplicit false
set_option autoImplicit false

/-!
# What an edit leaves of a unit

An edit takes a real unit and stores a virtual one: the real unit divided by the multiplier, rounded
down. What is read afterwards is the virtual unit multiplied back, rounded down again. The two
roundings never raise a unit, and they lose less than one and a share of the multiplier.

`calculateAndEditDefaultPosition` rounds twice before that: the unit goes to the notional amount for
the whole supply, and back. A call between which and the action before nothing moved therefore keeps
the unit only where all four roundings are exact.

## Main definitions

* `SetProtocol.ReadBack` — how the unit that is read relates to the one that was written.
* `SetProtocol.EditedByBalance` — what `calculateAndEditDefaultPosition` does.

## Main results

* `SetProtocol.readBack_of_edits` — default and external units after an edit.
* `SetProtocol.calculateAndEdit_untouched` — a position after an action that moved nothing.
-/

namespace SetProtocol

open Checked

/-! ## Reading back -/

/-- The real unit `r'` that is read after the real unit `r` was written. -/
structure ReadBack (multiplier r r' : ℤ) : Prop where
  /-- Holdings are not overstated, and debt is not understated. -/
  le : r' ≤ r
  /-- The loss is less than one and a share of the multiplier. -/
  loss : (r - r' - 1) * preciseUnitInt < multiplier
  /-- No unit stays none. -/
  zero : r = 0 → r' = 0
  /-- Debt stays debt. -/
  neg : r < 0 → r' < 0

variable {m : Message} {s s' : SetToken} {c positionModule : Address} {r r' v : ℤ}

/-- A unit divided by the multiplier and multiplied back, both times rounded down, relates so. -/
theorem ReadBack.of_floors {multiplier : ℤ} (hm : 0 < multiplier) :
    ReadBack multiplier r (r * preciseUnitInt / multiplier * multiplier / preciseUnitInt) := by
  have hle := Rounding.ediv_mul_ediv_le (n := r) preciseUnitInt_pos hm
  refine ⟨hle, Rounding.lt_of_ediv_mul_ediv preciseUnitInt_pos hm, ?_, ?_⟩
  · rintro rfl
    simp
  · intro hneg
    exact hle.trans_lt hneg

/-- What is stored by the conversion reads so. -/
theorem ReadBack.of_convertRealToVirtualUnit (hm : 0 < s.positionMultiplier)
    (hstore : s.convertRealToVirtualUnit r = .ok v) :
    ReadBack s.positionMultiplier r (s.realUnit v) := by
  obtain ⟨-, rfl, -⟩ := (SetToken.convertRealToVirtualUnit_eq_ok hm).mp hstore
  exact .of_floors hm

/-- **Units after an edit**: under a positive multiplier, whatever real unit an edit of a default or
external position accepts, positive, zero or negative, the unit that is read back is at most the one
written, and less by no more than one and a share of the multiplier. Zero reads as zero, and a
negative unit as a negative one. -/
theorem readBack_of_edits (hm : 0 < s.positionMultiplier) :
    (∀ s', SetToken.editDefaultPositionUnit m s c r = .ok s' →
      ∀ r', s'.getDefaultPositionRealUnit c = .ok r' → ReadBack s.positionMultiplier r r') ∧
    ∀ s', SetToken.editExternalPositionUnit m s c positionModule r = .ok s' →
      ∀ r', s'.getExternalPositionRealUnit c positionModule = .ok r' →
        ReadBack s.positionMultiplier r r' := by
  constructor
  · intro s' hedit r' hread
    obtain ⟨-, v, hstore, rfl⟩ := SetToken.editDefaultPositionUnit_eq_ok.mp hedit
    obtain ⟨-, rfl⟩ := SetToken.getDefaultPositionRealUnit_eq_ok.mp hread
    have hread : (s.setDefaultVirtualUnit c v).defaultRealUnit c = s.realUnit v := by
      rw [SetToken.defaultRealUnit, SetToken.defaultPositionVirtualUnit_setDefaultVirtualUnit,
        if_pos rfl]
      rfl
    rw [hread]
    exact .of_convertRealToVirtualUnit hm hstore
  · intro s' hedit r' hread
    obtain ⟨-, v, hstore, rfl⟩ := SetToken.editExternalPositionUnit_eq_ok.mp hedit
    obtain ⟨-, rfl⟩ := SetToken.getExternalPositionRealUnit_eq_ok.mp hread
    rw [SetToken.externalRealUnit, SetToken.externalPositionVirtualUnit_updateExternalPosition,
      if_pos ⟨rfl, rfl⟩]
    exact .of_convertRealToVirtualUnit hm hstore

/-- A Set with the multiplier 1.5, and the module `7`. -/
def exampleEditSet : SetToken :=
  { components := [11]
    moduleStates := fun a => if a = 7 then .initialized else .none
    positionMultiplier := 15 * 10 ^ 17 }

/-- A message of the module `7`. -/
def exampleEditMessage : Message := ⟨{ isModule := fun a => a = 7 }, 7⟩

/-- Under the multiplier 1.5 a debt of `-1` reads as `-2`, and holdings of `4` read as `3`. -/
theorem readBack_of_edits_example :
    (∃ s', SetToken.editExternalPositionUnit exampleEditMessage exampleEditSet 11 7 (-1) = .ok s' ∧
      s'.getExternalPositionRealUnit 11 7 = .ok (-2) ∧ ReadBack (15 * 10 ^ 17) (-1) (-2)) ∧
    ∃ s', SetToken.editDefaultPositionUnit exampleEditMessage exampleEditSet 11 4 = .ok s' ∧
      s'.getDefaultPositionRealUnit 11 = .ok 3 ∧ ReadBack (15 * 10 ^ 17) 4 3 := by
  constructor
  · obtain ⟨s', hedit, hread⟩ := exists_of_yields
      (x := SetToken.editExternalPositionUnit exampleEditMessage exampleEditSet 11 7 (-1))
      (p := fun s => yields (s.getExternalPositionRealUnit 11 7) fun r => r = -2)
      (by decide +kernel)
    obtain ⟨r, hread, hr⟩ := exists_of_yields hread
    obtain rfl := of_decide_eq_true hr
    exact ⟨s', hedit, hread, (readBack_of_edits (by decide)).2 s' hedit _ hread⟩
  · obtain ⟨s', hedit, hread⟩ := exists_of_yields
      (x := SetToken.editDefaultPositionUnit exampleEditMessage exampleEditSet 11 4)
      (p := fun s => yields (s.getDefaultPositionRealUnit 11) fun r => r = 3) (by decide +kernel)
    obtain ⟨r, hread, hr⟩ := exists_of_yields hread
    obtain rfl := of_decide_eq_true hr
    have hback := (@readBack_of_edits exampleEditMessage exampleEditSet 11 7 4 (by decide)).1
    exact ⟨s', hedit, hread, hback s' hedit _ hread⟩

/-! ## An action that moves nothing -/

section Untouched

variable {self setToken : Address} {w : World} {supply balance unit : ℕ}

/-- The unit that an action without a token movement comes to. -/
def roundedUnit (supply unit : ℕ) : ℕ := unit * supply / preciseUnit * preciseUnit / supply

theorem natCast_roundedUnit :
    (roundedUnit supply unit : ℤ) =
      (unit : ℤ) * (supply : ℤ) / preciseUnitInt * preciseUnitInt / (supply : ℤ) := by
  rw [← natCast_preciseUnit]
  exact_mod_cast rfl

/-- The amounts before and after cancel out, and the unit is rounded to the notional amount and
back. -/
theorem calculateDefaultEditPositionUnit_untouched (hsupply : 0 < supply)
    (hheld : unit * supply / preciseUnit ≤ balance) {n : ℕ} :
    Position.calculateDefaultEditPositionUnit supply balance balance unit = .ok n ↔
      InUint256 (unit * supply) ∧ roundedUnit supply unit = n := by
  have hcancel := Nat.sub_sub_self hheld
  rw [Position.calculateDefaultEditPositionUnit_eq_ok, hcancel]
  constructor
  · rintro ⟨hfit, -, -, -, -, hn⟩
    exact ⟨hfit, hn⟩
  · rintro ⟨hfit, hn⟩
    have hfit' : InUint256 (unit * supply / preciseUnit * preciseUnit) :=
      (Nat.div_mul_le_self _ _).trans_lt hfit
    exact ⟨hfit, hheld, Nat.sub_le _ _, hfit', hsupply, hn⟩

/-- A unit that no supply makes notional has nothing to lose beyond the first rounding. -/
theorem roundedUnit_le (hsupply : 0 < supply) : roundedUnit supply unit ≤ unit := by
  have hle := Rounding.ediv_mul_ediv_le (n := (unit : ℤ)) (Int.natCast_pos.mpr hsupply)
    preciseUnitInt_pos
  rw [← natCast_roundedUnit] at hle
  exact_mod_cast hle

/-- The first two roundings lose nothing exactly when the notional amount is a whole number. -/
theorem roundedUnit_eq_iff (hsupply : 0 < supply) :
    roundedUnit supply unit = unit ↔ preciseUnit ∣ unit * supply := by
  have hiff := Rounding.ediv_mul_ediv_eq_iff (n := (unit : ℤ)) (Int.natCast_pos.mpr hsupply)
    preciseUnitInt_pos
  rw [← natCast_roundedUnit, ← natCast_preciseUnit] at hiff
  exact_mod_cast hiff

/-- The unit that a successful edit leaves is read without a revert. -/
theorem getDefaultPositionRealUnit_of_edit {n : ℕ} (hm : 0 < s.positionMultiplier)
    (hedit : Position.editDefaultPosition m s c n = .ok s') :
    s'.getDefaultPositionRealUnit c =
      .ok (n * preciseUnitInt / s.positionMultiplier * s.positionMultiplier / preciseUnitInt) := by
  obtain ⟨-, l, v, -, rfl, -, rfl⟩ := Position.editDefaultPosition_cases hm hedit
  obtain ⟨hlow, hhigh⟩ := Position.inInt256_of_editDefaultPosition hedit
  rw [SetToken.getDefaultPositionRealUnit_eq_ok, SetToken.defaultRealUnit, SetToken.realUnit,
    Position.defaultPositionVirtualUnit_withDefaultPosition, if_pos rfl]
  refine ⟨⟨?_, ?_⟩, rfl⟩
  · have hnonneg : 0 ≤ (n : ℤ) * preciseUnitInt / s.positionMultiplier * s.positionMultiplier :=
      by
      refine Int.mul_nonneg (Int.ediv_nonneg ?_ hm.le) hm.le
      exact Int.mul_nonneg (Int.natCast_nonneg n) preciseUnitInt_pos.le
    exact le_trans (by decide) hnonneg
  · exact (Int.ediv_mul_le _ hm.ne').trans hhigh

/-- An edit leaves the multiplier and the units of the other components as they are. -/
theorem frame_of_edit {n : ℕ} (hm : 0 < s.positionMultiplier)
    (hedit : Position.editDefaultPosition m s c n = .ok s') :
    s'.positionMultiplier = s.positionMultiplier ∧
      ∀ d, d ≠ c → s'.getDefaultPositionRealUnit d = s.getDefaultPositionRealUnit d := by
  obtain ⟨-, l, v, -, -, -, rfl⟩ := Position.editDefaultPosition_cases hm hedit
  refine ⟨Position.positionMultiplier_withDefaultPosition, fun d hd => ?_⟩
  rw [SetToken.getDefaultPositionRealUnit, SetToken.getDefaultPositionRealUnit,
    Position.defaultPositionVirtualUnit_withDefaultPosition, if_neg hd,
    SetToken.convertVirtualToRealUnit, SetToken.convertVirtualToRealUnit,
    Position.positionMultiplier_withDefaultPosition]

/-- The world before and after the position of `token` is edited by the balance `pre` before an
action and the present one. -/
structure EditedByBalance (setToken token : Address) (supply pre : ℕ) (w w' : World) : Prop where
  /-- Nothing changes but the storage of the Set. -/
  world : w' = w.setSetToken setToken (w'.setTokens setToken)
  /-- The multiplier. -/
  multiplier : (w'.setTokens setToken).positionMultiplier =
    (w.setTokens setToken).positionMultiplier
  /-- The units of the other components. -/
  others : ∀ d, d ≠ token → (w'.setTokens setToken).getDefaultPositionRealUnit d =
    (w.setTokens setToken).getDefaultPositionRealUnit d
  /-- The unit is computed from the balances, and stored under the multiplier. -/
  unit : ∃ unit n : ℕ, (w.setTokens setToken).getDefaultPositionRealUnit token = .ok (unit : ℤ) ∧
    (if 0 < (w.tokens token).balances setToken then
      Position.calculateDefaultEditPositionUnit supply pre ((w.tokens token).balances setToken) unit
    else .ok 0) = .ok n ∧
    (w'.setTokens setToken).getDefaultPositionRealUnit token =
      .ok (n * preciseUnitInt / (w.setTokens setToken).positionMultiplier *
        (w.setTokens setToken).positionMultiplier / preciseUnitInt)

/-- No tokens move. -/
theorem EditedByBalance.tokens {token : Address} {supply pre : ℕ} {w' : World}
    (h : EditedByBalance setToken token supply pre w w') : w'.tokens = w.tokens := by
  rw [h.world]
  rfl

/-- `calculateAndEditDefaultPosition` edits so. -/
theorem editedByBalance_of_calculateAndEdit {token : Address} {pre : ℕ} {r : World × ℕ × ℕ × ℕ}
    (hm : 0 < (w.setTokens setToken).positionMultiplier)
    (h : Position.calculateAndEditDefaultPosition self w setToken token supply pre = .ok r) :
    EditedByBalance setToken token supply pre w r.1 := by
  obtain ⟨unit, hunit, n, hn, s', hedit, rfl⟩ := Position.calculateAndEditDefaultPosition_eq_ok.mp h
  obtain ⟨hmultiplier, hothers⟩ := frame_of_edit hm hedit
  have hread := getDefaultPositionRealUnit_of_edit hm hedit
  refine ⟨?_, ?_, fun d hd => ?_, unit, n, hunit, hn, ?_⟩
  all_goals rw [World.setTokens_setSetToken]
  · exact hmultiplier
  · exact hothers d hd
  · exact hread

/-- The four roundings together lose less than two and the shares of the supply and of the
multiplier. -/
theorem loss_of_roundings (hsupply : 0 < supply) {u' multiplier : ℤ}
    (hloss : (roundedUnit supply unit - u' - 1) * preciseUnitInt < multiplier) :
    (unit - u' - 2) * (supply * preciseUnitInt) <
      preciseUnitInt * preciseUnitInt + multiplier * supply := by
  have hsupply' : (0 : ℤ) < (supply : ℤ) := Int.natCast_pos.mpr hsupply
  have hfirst := Rounding.lt_of_ediv_mul_ediv (n := (unit : ℤ)) hsupply' preciseUnitInt_pos
  rw [← natCast_roundedUnit] at hfirst
  have hfirst' := Int.mul_lt_mul_of_pos_right hfirst preciseUnitInt_pos
  have hsecond' := Int.mul_lt_mul_of_pos_right hloss hsupply'
  linarith

/-- An edit to the rounded unit keeps an open position as it is exactly when nothing is rounded. -/
theorem untouched_iff (hm : 0 < s.positionMultiplier) (hsupply : 0 < supply) (hpos : 0 < unit)
    (hopen : 0 < s.defaultRealUnit c)
    (hedit : Position.editDefaultPosition m s c (roundedUnit supply unit) = .ok s') :
    (roundedUnit supply unit : ℤ) * preciseUnitInt / s.positionMultiplier * s.positionMultiplier /
        preciseUnitInt = unit ∧ s'.components = s.components ↔
      preciseUnit ∣ unit * supply ∧ s.positionMultiplier ∣ unit * preciseUnitInt := by
  have hle : (roundedUnit supply unit : ℤ) ≤ unit := by exact_mod_cast roundedUnit_le hsupply
  have hback := Rounding.ediv_mul_ediv_le (n := (roundedUnit supply unit : ℤ)) preciseUnitInt_pos hm
  constructor
  · rintro ⟨hsame, -⟩
    have hrounded : roundedUnit supply unit = unit := by
      exact_mod_cast le_antisymm hle (hsame.ge.trans hback)
    refine ⟨(roundedUnit_eq_iff hsupply).mp hrounded, ?_⟩
    rw [hrounded] at hsame
    exact (Rounding.ediv_mul_ediv_eq_iff preciseUnitInt_pos hm).mp hsame
  · rintro ⟨hnotional, hvirtual⟩
    have hrounded := (roundedUnit_eq_iff hsupply).mpr hnotional
    rw [hrounded] at hedit ⊢
    refine ⟨(Rounding.ediv_mul_ediv_eq_iff preciseUnitInt_pos hm).mpr hvirtual, ?_⟩
    obtain ⟨-, l, v, hlist, -, -, rfl⟩ := Position.editDefaultPosition_cases hm hedit
    cases hlist with
    | keep => rfl
    | append _ found => exact absurd hopen found
    | remove _ _ closed => exact absurd closed hpos.ne'

/-- The edit by the balances is one to the rounded unit. -/
theorem edit_of_untouched (hsupply : 0 < supply)
    (hunit : (w.setTokens setToken).getDefaultPositionRealUnit c = .ok (unit : ℤ))
    (hbalance : (w.tokens c).balances setToken = balance)
    (hheld : unit * supply / preciseUnit ≤ balance) {r : World × ℕ × ℕ × ℕ}
    (hr : Position.calculateAndEditDefaultPosition self w setToken c supply balance = .ok r) :
    Position.editDefaultPosition (w.message self) (w.setTokens setToken) c
      (roundedUnit supply unit) = .ok (r.1.setTokens setToken) := by
  obtain ⟨unit₁, hunit₁, n, hn, s', hedit, rfl⟩ :=
    Position.calculateAndEditDefaultPosition_eq_ok.mp hr
  rw [hunit] at hunit₁
  obtain rfl : unit = unit₁ := by exact_mod_cast Except.ok.inj hunit₁
  rw [World.setTokens_setSetToken, ← hedit]
  congr 1
  rw [hbalance] at hn
  split_ifs at hn with hheldpos
  · exact ((calculateDefaultEditPositionUnit_untouched hsupply hheld).mp hn).2
  · -- nothing is held, so that the notional amount is zero
    rw [Nat.eq_zero_of_not_pos hheldpos, Nat.le_zero] at hheld
    rw [roundedUnit, hheld, Nat.zero_mul, Nat.zero_div]
    exact Except.ok.inj hn

/-- Where nothing is rounded the edit by the balances goes through. -/
theorem exists_of_exact (hm : 0 < (w.setTokens setToken).positionMultiplier)
    (hsupply : 0 < supply) (hpos : 0 < unit)
    (hunit : (w.setTokens setToken).getDefaultPositionRealUnit c = .ok (unit : ℤ))
    (hbalance : (w.tokens c).balances setToken = balance)
    (hheld : unit * supply / preciseUnit ≤ balance) (hnotional : preciseUnit ∣ unit * supply)
    (hvirtual : (w.setTokens setToken).positionMultiplier ∣ unit * preciseUnitInt)
    (hauth : SetToken.Authorised (w.message self) (w.setTokens setToken))
    (hfit : InUint256 (unit * supply)) (hfit' : InInt256 (unit * preciseUnitInt)) :
    ∃ r, Position.calculateAndEditDefaultPosition self w setToken c supply balance = .ok r := by
  obtain ⟨hread, hreal⟩ := SetToken.getDefaultPositionRealUnit_eq_ok.mp hunit
  have hpos' : (0 : ℤ) < (unit : ℤ) := Int.natCast_pos.mpr hpos
  have hheldpos : 0 < (w.tokens c).balances setToken := by
    rw [hbalance]
    refine lt_of_lt_of_le ?_ hheld
    exact Nat.div_pos (Nat.le_of_dvd (Nat.mul_pos hpos hsupply) hnotional) preciseUnit_pos
  have hcast : unit < 2 ^ 255 := by
    have hle : (unit : ℤ) ≤ unit * preciseUnitInt := le_mul_of_one_le_right hpos'.le (by decide)
    have hmax := hle.trans hfit'.2
    unfold maxInt256 at hmax
    omega
  have hstore : (w.setTokens setToken).convertRealToVirtualUnit unit =
      .ok (unit * preciseUnitInt / (w.setTokens setToken).positionMultiplier) := by
    refine (SetToken.convertRealToVirtualUnit_eq_ok hm).mpr ⟨hfit', rfl, fun hzero => ?_⟩
    have hcancel := Int.ediv_mul_cancel hvirtual
    rw [hzero.2, Int.zero_mul] at hcancel
    exact absurd hcancel (Int.mul_pos hpos' preciseUnitInt_pos).ne
  have hedit := Position.editDefaultPosition_of_open hauth hread (hreal ▸ hpos') hpos hcast hstore
  refine ⟨_, Position.calculateAndEditDefaultPosition_eq_ok.mpr
    ⟨unit, hunit, unit, ?_, _, hedit, rfl⟩⟩
  rw [if_pos hheldpos, hbalance]
  exact (calculateDefaultEditPositionUnit_untouched hsupply hheld).mpr
    ⟨hfit, (roundedUnit_eq_iff hsupply).mpr hnotional⟩

/-- **An action that moves nothing**: a Set with a positive multiplier and a default unit `u` of a
component, of which it holds the notional amount or more. An edit by the balances before and after,
while the balance is the same, leaves a unit that is at most `u` and that has lost less than two and
the shares of the supply and of the multiplier. The unit is still `u`, and the list of components
is the same, exactly when the notional amount of `u` and the virtual unit of `u` are whole numbers.
Then the edit does go through. -/
theorem calculateAndEdit_untouched (hm : 0 < (w.setTokens setToken).positionMultiplier)
    (hsupply : 0 < supply) (hpos : 0 < unit)
    (hunit : (w.setTokens setToken).getDefaultPositionRealUnit c = .ok (unit : ℤ))
    (hbalance : (w.tokens c).balances setToken = balance)
    (hheld : unit * supply / preciseUnit ≤ balance) :
    (∀ r, Position.calculateAndEditDefaultPosition self w setToken c supply balance = .ok r →
      ∃ u' : ℤ, (r.1.setTokens setToken).getDefaultPositionRealUnit c = .ok u' ∧ u' ≤ unit ∧
        (unit - u' - 2) * (supply * preciseUnitInt) < preciseUnitInt * preciseUnitInt +
          (w.setTokens setToken).positionMultiplier * supply ∧
        (u' = unit ∧ (r.1.setTokens setToken).components = (w.setTokens setToken).components ↔
          preciseUnit ∣ unit * supply ∧
            (w.setTokens setToken).positionMultiplier ∣ unit * preciseUnitInt)) ∧
      (preciseUnit ∣ unit * supply →
        (w.setTokens setToken).positionMultiplier ∣ unit * preciseUnitInt →
        SetToken.Authorised (w.message self) (w.setTokens setToken) →
        InUint256 (unit * supply) → InInt256 (unit * preciseUnitInt) →
        ∃ r,
          Position.calculateAndEditDefaultPosition self w setToken c supply balance = .ok r) := by
  refine ⟨fun r hr => ?_, exists_of_exact hm hsupply hpos hunit hbalance hheld⟩
  have hopen : 0 < (w.setTokens setToken).defaultRealUnit c := by
    rw [(SetToken.getDefaultPositionRealUnit_eq_ok.mp hunit).2]
    exact Int.natCast_pos.mpr hpos
  have hedit := edit_of_untouched hsupply hunit hbalance hheld hr
  have hback : ReadBack (w.setTokens setToken).positionMultiplier (roundedUnit supply unit) _ :=
    .of_floors hm
  refine ⟨_, getDefaultPositionRealUnit_of_edit hm hedit, ?_, loss_of_roundings hsupply hback.loss,
    untouched_iff hm hsupply hpos hopen hedit⟩
  exact hback.le.trans (by exact_mod_cast roundedUnit_le hsupply)

end Untouched

/-- The Set `100` with the component `11`, of which it holds `3`, and the module `7`. -/
def exampleEditWorld (positionMultiplier virtualUnit : ℤ) : World :=
  { controller := { isModule := fun a => a = 7 }
    tokens := fun a =>
      if a = 11 then { balances := fun b => if b = 100 then 3 else 0 } else {}
    setTokens := fun _ =>
      { components := [11]
        componentPositions := fun _ => { virtualUnit := virtualUnit }
        moduleStates := fun a => if a = 7 then .initialized else .none
        positionMultiplier := positionMultiplier } }

/-- With the supply 1.5 and the multiplier 0.5, the unit `2` stays as it is. -/
theorem calculateAndEdit_untouched_example :
    ∃ r, Position.calculateAndEditDefaultPosition 7 (exampleEditWorld (5 * 10 ^ 17) 4) 100 11
        (15 * 10 ^ 17) 3 = .ok r ∧
      (r.1.setTokens 100).getDefaultPositionRealUnit 11 = .ok 2 ∧
      (r.1.setTokens 100).components = [11] := by
  have hunit : ((exampleEditWorld (5 * 10 ^ 17) 4).setTokens 100).getDefaultPositionRealUnit 11 =
      .ok ((2 : ℕ) : ℤ) := SetToken.getDefaultPositionRealUnit_eq_ok.mpr (by decide)
  have hbalance : ((exampleEditWorld (5 * 10 ^ 17) 4).tokens 11).balances 100 = 3 := by decide
  have hheld : 2 * (15 * 10 ^ 17) / preciseUnit ≤ 3 := by decide
  obtain ⟨hleft, hexact⟩ := @calculateAndEdit_untouched 11 7 100 _ _ 3 2 (by decide) (by decide)
    (by decide) hunit hbalance hheld
  have hauth : SetToken.Authorised ((exampleEditWorld (5 * 10 ^ 17) 4).message 7)
      ((exampleEditWorld (5 * 10 ^ 17) 4).setTokens 100) := ⟨rfl, rfl, by decide⟩
  have hnotional : preciseUnit ∣ 2 * (15 * 10 ^ 17) := by decide
  have hvirtual : ((exampleEditWorld (5 * 10 ^ 17) 4).setTokens 100).positionMultiplier ∣
      ((2 : ℕ) : ℤ) * preciseUnitInt := by decide
  obtain ⟨r, hr⟩ := hexact hnotional hvirtual hauth (by decide) (by decide)
  obtain ⟨u', hread, -, -, hiff⟩ := hleft r hr
  obtain ⟨rfl, hcomponents⟩ := hiff.mpr ⟨hnotional, hvirtual⟩
  exact ⟨r, hr, hread, hcomponents⟩

/-- With the supply 1.5 and the multiplier 1, the notional amount of the unit `1` is `1`, which is
no unit any more: the component is dropped. -/
theorem calculateAndEdit_drops_component :
    ((exampleEditWorld preciseUnitInt 1).setTokens 100).defaultRealUnit 11 = 1 ∧
      1 * (15 * 10 ^ 17) / preciseUnit ≤ 3 ∧
      ∃ r, Position.calculateAndEditDefaultPosition 7 (exampleEditWorld preciseUnitInt 1) 100 11
          (15 * 10 ^ 17) 3 = .ok r ∧
        (r.1.setTokens 100).getDefaultPositionRealUnit 11 = .ok 0 ∧
        (r.1.setTokens 100).components = [] := by
  refine ⟨by decide, by decide, ?_⟩
  obtain ⟨r, hr, hleft⟩ := exists_of_yields
    (x := Position.calculateAndEditDefaultPosition 7 (exampleEditWorld preciseUnitInt 1) 100 11
      (15 * 10 ^ 17) 3)
    (p := fun r => (r.1.setTokens 100).components = [] ∧
      yields ((r.1.setTokens 100).getDefaultPositionRealUnit 11) fun u => u = 0) (by decide +kernel)
  obtain ⟨hcomponents, hread⟩ := of_decide_eq_true hleft
  obtain ⟨u, hread, hu⟩ := exists_of_yields hread
  obtain rfl := of_decide_eq_true hu
  exact ⟨r, hr, hread, hcomponents⟩

end SetProtocol
