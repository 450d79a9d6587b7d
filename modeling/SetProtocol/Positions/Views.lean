import SetProtocol.Core.PositionViews
import SetProtocol.Lib.SignedSum
import SetProtocol.Modules.DebtIssuanceModule
import SetProtocol.Modules.IssuanceModule

set_option relaxedAutoImplicit false
set_option autoImplicit false

/-!
# The views of units agree

How many units of a component a Set has is computed in four places: the array of positions lists
them one by one, the SetToken adds them up, and two issuance modules do so again, one of them apart
for holdings and debt. The tests of these loops differ: the array leaves out a default position by
its virtual unit, the issuance modules look at the signs of real units. This file shows that they
come to the same number, where nothing overflows.

## Main definitions

* `SetProtocol.totalUnits` — the units of a component, as a sum.
* `SetProtocol.UnitsFit` — nothing overflows for a component.

## Main results

* `SetProtocol.views_agree` — the agreement.
* `SetProtocol.views_disagree_of_other_debt` — debt in one component makes the `IssuanceModule`
  revert for all.
-/

namespace SetProtocol

open Checked

variable {s : SetToken} {c : Address}

/-- The units of the external positions of a component. -/
def externalUnits (s : SetToken) (c : Address) : List ℤ :=
  (s.externalPositionModules c).map (s.externalRealUnit c)

/-- The units of a component, as a sum. -/
def totalUnits (s : SetToken) (c : Address) : ℤ :=
  s.defaultRealUnit c + (externalUnits s c).sum

/-- The units of a component that an array of positions lists. -/
def unitsIn (positions : List ISetToken.Position) (c : Address) : ℤ :=
  ((positions.filter fun position => position.component = c).map ISetToken.Position.unit).sum

/-- Nothing overflows where the units of a component are read and added up. -/
structure UnitsFit (s : SetToken) (c : Address) : Prop extends SetToken.UnitsRead s c where
  /-- The holdings. -/
  equity : s.defaultRealUnit c + SignedSum.positives (externalUnits s c) ≤ maxInt256
  /-- The debt, without its sign. -/
  debt : -SignedSum.others (externalUnits s c) ≤ maxInt256

/-! ## The array of positions -/

/-- A default unit that is not negative reads so under a positive multiplier. -/
theorem defaultRealUnit_nonneg (hm : 0 < s.positionMultiplier)
    (hv : 0 ≤ s.defaultPositionVirtualUnit c) : 0 ≤ s.defaultRealUnit c := by
  apply Int.ediv_nonneg
  · exact Int.mul_nonneg hv hm.le
  · exact preciseUnitInt_pos.le

/-- The positions of a component add up to its units: a default position that is left out has
none. -/
theorem sum_unit_positionsOf (hv : 0 ≤ s.defaultPositionVirtualUnit c) :
    ((s.positionsOf c).map ISetToken.Position.unit).sum = totalUnits s c := by
  have hexternal : ((s.externalPositionModules c).map (s.externalPosition c)).map
      ISetToken.Position.unit = externalUnits s c := by
    rw [List.map_map]
    rfl
  rw [SetToken.positionsOf, List.map_append, List.sum_append, hexternal, totalUnits]
  congr 1
  split
  · rw [List.map_singleton, List.sum_singleton]
    rfl
  · have hzero : s.defaultPositionVirtualUnit c = 0 := by omega
    rw [SetToken.defaultRealUnit, SetToken.realUnit, hzero]
    simp

/-- In the array of all positions too. -/
theorem unitsIn_flatMap_positionsOf (hnodup : s.components.Nodup) (hc : c ∈ s.components)
    (hv : 0 ≤ s.defaultPositionVirtualUnit c) :
    unitsIn (s.components.flatMap s.positionsOf) c = totalUnits s c := by
  have hkey : ∀ c, ∀ position ∈ s.positionsOf c, position.component = c := by
    intro c position h
    exact SetToken.component_of_mem_positionsOf h
  rw [unitsIn, Filling.filter_flatMap hkey hnodup hc, sum_unit_positionsOf hv]

/-! ## The sums -/

/-- The sum of the SetToken. -/
theorem getTotalComponentRealUnits_eq (h : UnitsFit s c) (hdefault : 0 ≤ s.defaultRealUnit c) :
    s.getTotalComponentRealUnits c = .ok (totalUnits s c) := by
  have hloop : (s.externalPositionModules c).foldlM (s.addExternalRealUnit c)
      (s.defaultRealUnit c) =
        (externalUnits s c).foldlM SignedSafeMath.add (s.defaultRealUnit c) := by
    rw [externalUnits, List.foldlM_map]
    apply foldlM_congr
    intro externalModule hmodule total
    rw [SetToken.addExternalRealUnit, h.getExternalPositionRealUnit hmodule]
    rfl
  have hadd : ∀ a b, minInt256 ≤ a + b → a + b ≤ maxInt256 →
      SignedSafeMath.add a b = .ok (a + b) := by
    intro a b hlo hhi
    exact SignedSafeMath.add_eq_ok.mpr ⟨⟨hlo, hhi⟩, rfl⟩
  rw [SetToken.getTotalComponentRealUnits, h.getDefaultPositionRealUnit]
  refine hloop.trans (SignedSum.foldlM_eq_ok hadd _ ?_ h.equity)
  have hdebt := h.debt
  unfold maxInt256 at hdebt
  unfold minInt256
  omega

/-- The loop over the external positions in the `DebtIssuanceModule` adds positive units to the
holdings and the other ones to the debt. -/
theorem foldlM_addExternalUnit_debt {l : List Address} :
    ∀ {equity debt : ℤ},
      (∀ externalModule ∈ l, s.getExternalPositionRealUnit c externalModule =
        .ok (s.externalRealUnit c externalModule)) →
      minInt256 ≤ equity →
      equity + SignedSum.positives (l.map (s.externalRealUnit c)) ≤ maxInt256 →
      debt ≤ maxInt256 →
      minInt256 ≤ debt + SignedSum.others (l.map (s.externalRealUnit c)) →
      l.foldlM (DebtIssuanceModule.addExternalUnit s c) (equity, debt) =
        .ok (equity + SignedSum.positives (l.map (s.externalRealUnit c)),
          debt + SignedSum.others (l.map (s.externalRealUnit c))) := by
  induction l with
  | nil =>
    intro equity debt _ _ _ _ _
    simp [pure, Except.pure]
  | cons externalModule l ih =>
    intro equity debt hread hequity hequity' hdebt hdebt'
    obtain ⟨hfirst, hread⟩ := List.forall_mem_cons.mp hread
    have hpositives := SignedSum.positives_nonneg (l.map (s.externalRealUnit c))
    have hothers := SignedSum.others_nonpos (l.map (s.externalRealUnit c))
    rw [List.map_cons] at hequity' hdebt' ⊢
    rw [foldlM_cons_eq_ok]
    simp only [DebtIssuanceModule.addExternalUnit, hfirst, bind_eq_ok, Except.ok.injEq]
    rcases lt_or_ge 0 (s.externalRealUnit c externalModule) with hunit | hunit
    · rw [SignedSum.positives_cons_of_pos hunit, ← Int.add_assoc] at hequity' ⊢
      rw [SignedSum.others_cons_of_pos hunit] at hdebt' ⊢
      refine ⟨_, ⟨_, rfl, ?_⟩, ih hread (by omega) hequity' hdebt hdebt'⟩
      rw [if_pos hunit]
      simp only [bind_eq_ok, SignedSafeMath.add_eq_ok, pure_eq_ok]
      exact ⟨_, ⟨⟨by omega, by omega⟩, rfl⟩, rfl⟩
    · rw [SignedSum.positives_cons_of_nonpos hunit] at hequity' ⊢
      rw [SignedSum.others_cons_of_nonpos hunit, ← Int.add_assoc] at hdebt' ⊢
      refine ⟨_, ⟨_, rfl, ?_⟩, ih hread hequity hequity' (by omega) hdebt'⟩
      rw [if_neg (by omega)]
      simp only [bind_eq_ok, SignedSafeMath.add_eq_ok, pure_eq_ok]
      exact ⟨_, ⟨⟨by omega, by omega⟩, rfl⟩, rfl⟩

/-- Holdings and debt of a component, as numbers. -/
def issuanceUnits (s : SetToken) (c : Address) : ComponentUnits where
  component := c
  equity := (s.defaultRealUnit c + SignedSum.positives (externalUnits s c)).toNat
  debt := (-SignedSum.others (externalUnits s c)).toNat

/-- Their difference are the units of the component. -/
theorem equity_sub_debt (hdefault : 0 ≤ s.defaultRealUnit c) :
    ((issuanceUnits s c).equity : ℤ) - (issuanceUnits s c).debt = totalUnits s c := by
  have hpositives := SignedSum.positives_nonneg (externalUnits s c)
  have hothers := SignedSum.others_nonpos (externalUnits s c)
  have hsum := SignedSum.positives_add_others (externalUnits s c)
  simp only [issuanceUnits, totalUnits]
  omega

/-- The sums of the `DebtIssuanceModule`. -/
theorem componentIssuanceUnits_eq (h : UnitsFit s c) (hdefault : 0 ≤ s.defaultRealUnit c) :
    DebtIssuanceModule.componentIssuanceUnits s c = .ok (issuanceUnits s c) := by
  have hpositives := SignedSum.positives_nonneg (externalUnits s c)
  have hothers := SignedSum.others_nonpos (externalUnits s c)
  have hdebt := h.debt
  unfold maxInt256 at hdebt
  have hdebt' : minInt256 ≤ 0 + SignedSum.others (externalUnits s c) := by
    unfold minInt256
    omega
  have hread : ∀ externalModule ∈ s.externalPositionModules c,
      s.getExternalPositionRealUnit c externalModule =
        .ok (s.externalRealUnit c externalModule) := by
    intro externalModule hmodule
    exact h.getExternalPositionRealUnit hmodule
  have hloop := foldlM_addExternalUnit_debt hread (le_trans (by decide) hdefault) h.equity
    (by decide) hdebt'
  simp only [DebtIssuanceModule.componentIssuanceUnits, h.getDefaultPositionRealUnit, bind_eq_ok,
    Except.ok.injEq, SafeCast.toUint256_eq_ok, SignedSafeMath.mul_eq_ok, pure_eq_ok]
  refine ⟨_, rfl, _, hloop, (issuanceUnits s c).equity, ?_, _, ⟨?_, rfl⟩,
    (issuanceUnits s c).debt, ?_, rfl⟩
  · simp only [issuanceUnits, externalUnits] at hpositives ⊢
    omega
  · show InInt256 ((0 + SignedSum.others (externalUnits s c)) * -1)
    constructor
    · unfold minInt256
      omega
    · unfold maxInt256
      omega
  · show (0 + SignedSum.others (externalUnits s c)) * -1 = ((issuanceUnits s c).debt : ℤ)
    simp only [issuanceUnits]
    omega

/-- The loop over the external positions in the `IssuanceModule` passes when all units are
positive. -/
theorem pos_of_foldlM_addExternalUnit {l : List Address} :
    ∀ {a b : ℤ}, l.foldlM (IssuanceModule.addExternalUnit s c) a = .ok b →
      ∀ externalModule ∈ l, 0 < s.externalRealUnit c externalModule := by
  induction l with
  | nil =>
    intro a b _ externalModule hmodule
    exact absurd hmodule List.not_mem_nil
  | cons first l ih =>
    intro a b h
    obtain ⟨a', hround, hrest⟩ := foldlM_cons_eq_ok.mp h
    simp only [IssuanceModule.addExternalUnit, bind_eq_ok, require_eq_ok,
      SetToken.getExternalPositionRealUnit_eq_ok] at hround
    obtain ⟨_, ⟨-, rfl⟩, -, hpos, -⟩ := hround
    exact List.forall_mem_cons.mpr ⟨hpos, ih hrest⟩

/-- Without debt the units of a component are not negative. -/
theorem totalUnits_nonneg (hdefault : 0 ≤ s.defaultRealUnit c)
    (hpos : ∀ externalModule ∈ s.externalPositionModules c,
      0 < s.externalRealUnit c externalModule) : 0 ≤ totalUnits s c := by
  have hpositives := SignedSum.positives_nonneg (externalUnits s c)
  have hothers : SignedSum.others (externalUnits s c) = 0 := by
    apply SignedSum.others_eq_zero
    intro unit hunit
    obtain ⟨externalModule, hmodule, rfl⟩ := List.mem_map.mp hunit
    exact hpos externalModule hmodule
  have hsum := SignedSum.positives_add_others (externalUnits s c)
  unfold totalUnits
  omega

/-- The sum of the `IssuanceModule`. -/
theorem totalIssuanceUnits_eq (h : UnitsFit s c) (hdefault : 0 ≤ s.defaultRealUnit c)
    (hpos : ∀ externalModule ∈ s.externalPositionModules c,
      0 < s.externalRealUnit c externalModule) :
    IssuanceModule.totalIssuanceUnits s c = .ok (c, (totalUnits s c).toNat) := by
  have hloop : (s.externalPositionModules c).foldlM (IssuanceModule.addExternalUnit s c)
      (s.defaultRealUnit c) =
        (s.externalPositionModules c).foldlM (s.addExternalRealUnit c) (s.defaultRealUnit c) := by
    apply foldlM_congr
    intro externalModule hmodule total
    rw [IssuanceModule.addExternalUnit, SetToken.addExternalRealUnit,
      h.getExternalPositionRealUnit hmodule]
    show (require (0 < s.externalRealUnit c externalModule) _ >>= fun _ => _) = _
    rw [require, if_pos (hpos externalModule hmodule)]
    rfl
  have htotal := getTotalComponentRealUnits_eq h hdefault
  rw [SetToken.getTotalComponentRealUnits, h.getDefaultPositionRealUnit] at htotal
  have hnonneg := totalUnits_nonneg hdefault hpos
  simp only [IssuanceModule.totalIssuanceUnits, h.getDefaultPositionRealUnit, bind_eq_ok,
    Except.ok.injEq, SafeCast.toUint256_eq_ok, pure_eq_ok]
  exact ⟨_, rfl, _, hloop.trans htotal, _, (Int.toNat_of_nonneg hnonneg).symm, rfl⟩

/-! ## The agreement -/

/-- The `IssuanceModule` returns when all units of external positions are positive. -/
theorem exists_getTotalIssuanceUnits_iff (hfit : ∀ c ∈ s.components, UnitsFit s c)
    (hdefault : ∀ c ∈ s.components, 0 ≤ s.defaultRealUnit c) :
    (∃ totals, IssuanceModule.getTotalIssuanceUnits s = .ok totals) ↔
      ∀ c ∈ s.components, ∀ externalModule ∈ s.externalPositionModules c,
        0 < s.externalRealUnit c externalModule := by
  constructor
  · rintro ⟨totals, htotals⟩ c hc
    obtain ⟨_, -, hround⟩ := exists_of_mem_of_mapM_eq_ok htotals hc
    simp only [IssuanceModule.totalIssuanceUnits, bind_eq_ok] at hround
    obtain ⟨_, -, _, hloop, -⟩ := hround
    exact pos_of_foldlM_addExternalUnit hloop
  · intro hpos
    exact ⟨_, mapM_eq_ok_of_forall fun c hc =>
      totalIssuanceUnits_eq (hfit c hc) (hdefault c hc) (hpos c hc)⟩

/-- **The views agree**: in a Set without duplicate components, with default virtual units that are
not negative, a positive multiplier, as every Set has, and where nothing overflows, the array of
positions is filled exactly. The units that it lists for a component add up to what
`getTotalComponentRealUnits` returns. The `DebtIssuanceModule` returns for each component holdings
and debt with that difference. The `IssuanceModule` comes to the same number for a component that
has no unit of an external position that is not positive. It returns exactly if that is so for all
components, and then with this number for each of them. -/
theorem views_agree (hm : 0 < s.positionMultiplier) (hnodup : s.components.Nodup)
    (hnonneg : ∀ c ∈ s.components, 0 ≤ s.defaultPositionVirtualUnit c)
    (hfit : ∀ c ∈ s.components, UnitsFit s c) :
    (∃ positions, s.getPositions = .ok positions ∧
      s.fillPositions = .ok (positions, s.getPositionCount) ∧
      positions.length = s.getPositionCount ∧
      ∀ c ∈ s.components, s.getTotalComponentRealUnits c = .ok (unitsIn positions c)) ∧
    (∃ units, DebtIssuanceModule.getTotalIssuanceUnits s = .ok units ∧
      units.map ComponentUnits.component = s.components ∧
      ∀ x ∈ units, s.getTotalComponentRealUnits x.component = .ok ((x.equity : ℤ) - x.debt)) ∧
    (∀ c ∈ s.components,
      (∀ externalModule ∈ s.externalPositionModules c, 0 < s.externalRealUnit c externalModule) →
      ∃ n : ℕ, IssuanceModule.totalIssuanceUnits s c = .ok (c, n) ∧
        s.getTotalComponentRealUnits c = .ok (n : ℤ)) ∧
    ((∃ totals, IssuanceModule.getTotalIssuanceUnits s = .ok totals) ↔
      ∀ c ∈ s.components, ∀ externalModule ∈ s.externalPositionModules c,
        0 < s.externalRealUnit c externalModule) ∧
    ∀ totals, IssuanceModule.getTotalIssuanceUnits s = .ok totals →
      totals.map Prod.fst = s.components ∧
      ∀ x ∈ totals, s.getTotalComponentRealUnits x.1 = .ok (x.2 : ℤ) := by
  have hdefault : ∀ c ∈ s.components, 0 ≤ s.defaultRealUnit c := by
    intro c hc
    exact defaultRealUnit_nonneg hm (hnonneg c hc)
  have htotal : ∀ c ∈ s.components, s.getTotalComponentRealUnits c = .ok (totalUnits s c) := by
    intro c hc
    exact getTotalComponentRealUnits_eq (hfit c hc) (hdefault c hc)
  have hissuance : ∀ c ∈ s.components,
      (∀ externalModule ∈ s.externalPositionModules c, 0 < s.externalRealUnit c externalModule) →
      s.getTotalComponentRealUnits c = .ok ((totalUnits s c).toNat : ℤ) := by
    intro c hc hpos
    rw [htotal c hc, Int.toNat_of_nonneg (totalUnits_nonneg (hdefault c hc) hpos)]
  refine ⟨?_, ?_, ?_, exists_getTotalIssuanceUnits_iff hfit hdefault, ?_⟩
  · have hfill := SetToken.fillPositions_eq_ok fun c hc => (hfit c hc).toUnitsRead
    refine ⟨s.components.flatMap s.positionsOf, ?_, ?_, SetToken.getPositionCount_eq.symm, ?_⟩
    · rw [SetToken.getPositions, hfill]
      rfl
    · rw [hfill, SetToken.getPositionCount_eq]
    · intro c hc
      rw [htotal c hc, unitsIn_flatMap_positionsOf hnodup hc (hnonneg c hc)]
  · refine ⟨s.components.map (issuanceUnits s), ?_, ?_, ?_⟩
    · apply mapM_eq_ok_of_forall
      intro c hc
      exact componentIssuanceUnits_eq (hfit c hc) (hdefault c hc)
    · rw [List.map_map]
      exact List.map_id s.components
    · intro x hx
      obtain ⟨c, hc, rfl⟩ := List.mem_map.mp hx
      rw [equity_sub_debt (hdefault c hc)]
      exact htotal c hc
  · intro c hc hpos
    exact ⟨_, totalIssuanceUnits_eq (hfit c hc) (hdefault c hc) hpos, hissuance c hc hpos⟩
  · intro totals htotals
    have hpos := (exists_getTotalIssuanceUnits_iff hfit hdefault).mp ⟨totals, htotals⟩
    have hvalues : IssuanceModule.getTotalIssuanceUnits s =
        .ok (s.components.map fun c => (c, (totalUnits s c).toNat)) := by
      apply mapM_eq_ok_of_forall
      intro c hc
      exact totalIssuanceUnits_eq (hfit c hc) (hdefault c hc) (hpos c hc)
    rw [hvalues] at htotals
    obtain rfl := Except.ok.inj htotals
    constructor
    · rw [List.map_map]
      exact List.map_id s.components
    · intro x hx
      obtain ⟨c, hc, rfl⟩ := List.mem_map.mp hx
      exact hissuance c hc (hpos c hc)

/-- The Set with the component `11`, held by the Set and in two modules, and the component `12`,
with an external unit in one module. -/
def exampleViewsSet (externalUnit : ℤ) : SetToken :=
  { components := [11, 12]
    componentPositions := fun c =>
      if c = 11 then
        { virtualUnit := 5
          externalPositionModules := [7, 8]
          externalPositions := fun module => { virtualUnit := if module = 7 then 3 else 1 } }
      else
        { externalPositionModules := [7]
          externalPositions := fun _ => { virtualUnit := externalUnit } } }

theorem forall_components_exampleViewsSet {externalUnit : ℤ} {p : Address → Prop} (h11 : p 11)
    (h12 : p 12) : ∀ c ∈ (exampleViewsSet externalUnit).components, p c :=
  List.forall_mem_cons.mpr ⟨h11, List.forall_mem_singleton.mpr h12⟩

theorem forall_modules_exampleViewsSet {externalUnit : ℤ} {p : Address → Prop} (h7 : p 7) :
    (p 8 → ∀ q ∈ (exampleViewsSet externalUnit).externalPositionModules 11, p q) ∧
      ∀ q ∈ (exampleViewsSet externalUnit).externalPositionModules 12, p q :=
  ⟨fun h8 => List.forall_mem_cons.mpr ⟨h7, List.forall_mem_singleton.mpr h8⟩,
    List.forall_mem_singleton.mpr h7⟩

theorem defaultPositionVirtualUnit_exampleViewsSet {externalUnit : ℤ} :
    ∀ c ∈ (exampleViewsSet externalUnit).components,
      0 ≤ (exampleViewsSet externalUnit).defaultPositionVirtualUnit c :=
  forall_components_exampleViewsSet (by decide : (0 : ℤ) ≤ 5) (by decide : (0 : ℤ) ≤ 0)

theorem unitsFit_exampleViewsSet {externalUnit : ℤ} (hunit : externalUnit = 2 ∨ externalUnit = -2) :
    ∀ c ∈ (exampleViewsSet externalUnit).components,
      UnitsFit (exampleViewsSet externalUnit) c := by
  rcases hunit with rfl | rfl <;>
    exact forall_components_exampleViewsSet
      ⟨⟨by decide, (forall_modules_exampleViewsSet (by decide)).1 (by decide)⟩, by decide,
        by decide⟩
      ⟨⟨by decide, (forall_modules_exampleViewsSet (by decide)).2⟩, by decide, by decide⟩

/-- With an external unit of `2` of the component `12`, all views return: the component `11` has `9`
units. -/
theorem views_agree_example :
    (∃ positions, (exampleViewsSet 2).getPositions = .ok positions ∧ positions.length = 4 ∧
      (exampleViewsSet 2).getTotalComponentRealUnits 11 = .ok (unitsIn positions 11)) ∧
    ∃ totals, IssuanceModule.getTotalIssuanceUnits (exampleViewsSet 2) = .ok totals := by
  obtain ⟨⟨positions, hpositions, -, hlength, htotal⟩, -, -, hreturns, -⟩ :=
    views_agree (by decide) (by decide) defaultPositionVirtualUnit_exampleViewsSet
      (unitsFit_exampleViewsSet (.inl rfl))
  refine ⟨⟨positions, hpositions, hlength, htotal 11 (by decide)⟩, ?_⟩
  exact hreturns.mpr (forall_components_exampleViewsSet
    ((forall_modules_exampleViewsSet (by decide)).1 (by decide))
    (forall_modules_exampleViewsSet (by decide)).2)

/-- With an external unit of `-2` of the component `12`, the `IssuanceModule` reverts, although all
units of the component `11` are positive. -/
theorem views_disagree_of_other_debt :
    (exampleViewsSet (-2)).components.Nodup ∧
      (∀ c ∈ (exampleViewsSet (-2)).components,
        0 ≤ (exampleViewsSet (-2)).defaultPositionVirtualUnit c) ∧
      (∀ c ∈ (exampleViewsSet (-2)).components, UnitsFit (exampleViewsSet (-2)) c) ∧
      11 ∈ (exampleViewsSet (-2)).components ∧
      (∀ externalModule ∈ (exampleViewsSet (-2)).externalPositionModules 11,
        0 < (exampleViewsSet (-2)).externalRealUnit 11 externalModule) ∧
      ¬∃ totals, IssuanceModule.getTotalIssuanceUnits (exampleViewsSet (-2)) = .ok totals := by
  refine ⟨by decide, defaultPositionVirtualUnit_exampleViewsSet,
    unitsFit_exampleViewsSet (.inr rfl), by decide,
    (forall_modules_exampleViewsSet (by decide)).1 (by decide), ?_⟩
  rintro ⟨totals, htotals⟩
  obtain ⟨_, -, hround⟩ := exists_of_mem_of_mapM_eq_ok (a := 12) htotals (by decide)
  simp only [IssuanceModule.totalIssuanceUnits, bind_eq_ok] at hround
  obtain ⟨_, -, _, hloop, -⟩ := hround
  exact absurd (pos_of_foldlM_addExternalUnit hloop 7 (by decide)) (by decide)

end SetProtocol
