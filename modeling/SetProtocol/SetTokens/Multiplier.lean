import Mathlib.Algebra.Order.Ring.Abs
import SetProtocol.Core.SetToken

set_option relaxedAutoImplicit false
set_option autoImplicit false

/-!
# The position multiplier

An edit of the multiplier scales all positions of a Set at once. Real units are rounded down, so a
multiplier that is too small makes a position read zero. Before the edit the SetToken looks for the
virtual unit with the least absolute value, in a loop over the components with a loop over their
external positions inside, and tries the new multiplier on it.

## Main definitions

* `SetProtocol.Multiplier.ListedUnit` — the virtual units of the positions of a Set.
* `SetProtocol.Multiplier.LeastPositive` — what the loops look for.

## Main results

* `SetProtocol.Multiplier.leastPositive_foldl` — keeping the lesser unit finds the least one.
* `SetProtocol.Multiplier.getPositionsAbsMinimumVirtualUnit_eq` — the two loops as one.
* `SetProtocol.Multiplier.editPositionMultiplier_iff` — which multipliers are accepted, and what
  becomes of the positions.
-/

namespace SetProtocol

open Checked

namespace Multiplier

/-! ## The least positive number of a list -/

/-- The number is the least positive one of the list, or the bound if that is less or there is
none. -/
structure LeastPositive (bound : ℕ) (l : List ℕ) (n : ℕ) : Prop where
  /-- It is at most the bound. -/
  le_bound : n ≤ bound
  /-- It is at most each positive number of the list. -/
  le : ∀ u ∈ l, 0 < u → n ≤ u
  /-- It is the bound, or positive and in the list. -/
  found : n = bound ∨ n ∈ l ∧ 0 < n

/-- Keeping the lesser unit finds the least positive one. -/
theorem leastPositive_foldl (l : List ℕ) (bound : ℕ) :
    LeastPositive bound l (l.foldl SetToken.lesserUnit bound) := by
  induction l generalizing bound with
  | nil => exact ⟨Nat.le_refl _, fun u hu => absurd hu List.not_mem_nil, .inl rfl⟩
  | cons a l ih =>
    rw [List.foldl_cons]
    have h := ih (SetToken.lesserUnit bound a)
    have hlesser : SetToken.lesserUnit bound a = a ∧ 0 < a ∧ a < bound ∨
        SetToken.lesserUnit bound a = bound ∧ (0 < a → bound ≤ a) := by
      unfold SetToken.lesserUnit
      split <;> omega
    rcases hlesser with ⟨heq, hpos, hlt⟩ | ⟨heq, hle⟩
    · rw [heq] at h ⊢
      refine ⟨by have := h.le_bound; omega, fun u hu hu0 => ?_, ?_⟩
      · rcases List.mem_cons.mp hu with rfl | hu
        · exact h.le_bound
        · exact h.le u hu hu0
      · rcases h.found with hfound | ⟨hmem, hn⟩
        · rw [hfound]
          exact .inr ⟨List.mem_cons_self, hpos⟩
        · exact .inr ⟨List.mem_cons_of_mem a hmem, hn⟩
    · rw [heq] at h ⊢
      refine ⟨h.le_bound, fun u hu hu0 => ?_, ?_⟩
      · rcases List.mem_cons.mp hu with rfl | hu
        · exact h.le_bound.trans (hle hu0)
        · exact h.le u hu hu0
      · rcases h.found with hfound | ⟨hmem, hn⟩
        · exact .inl hfound
        · exact .inr ⟨List.mem_cons_of_mem a hmem, hn⟩

/-! ## The units of a Set -/

variable {m : Message} {s s' : SetToken} {newMultiplier v : ℤ}

/-- The virtual units of the default position and the external positions of a component. -/
def componentUnits (s : SetToken) (component : Address) : List ℤ :=
  s.defaultPositionVirtualUnit component ::
    (s.externalPositionModules component).map (s.externalPositionVirtualUnit component)

/-- The virtual units of all positions. -/
def units (s : SetToken) : List ℤ := s.components.flatMap (componentUnits s)

/-- The number is the virtual unit of the default position, or of a listed external position, of a
listed component. -/
def ListedUnit (s : SetToken) (v : ℤ) : Prop :=
  ∃ c ∈ s.components, v = s.defaultPositionVirtualUnit c ∨
    ∃ module ∈ s.externalPositionModules c, v = s.externalPositionVirtualUnit c module

theorem mem_units : v ∈ units s ↔ ListedUnit s v := by
  unfold units ListedUnit componentUnits
  simp only [List.mem_flatMap, List.mem_cons, List.mem_map]
  constructor
  · rintro ⟨c, hc, rfl | ⟨module, hmodule, rfl⟩⟩
    · exact ⟨c, hc, .inl rfl⟩
    · exact ⟨c, hc, .inr ⟨module, hmodule, rfl⟩⟩
  · rintro ⟨c, hc, rfl | ⟨module, hmodule, rfl⟩⟩
    · exact ⟨c, hc, .inl rfl⟩
    · exact ⟨c, hc, .inr ⟨module, hmodule, rfl⟩⟩

/-- The absolute value of a unit that has one as an `int256`. -/
theorem absoluteValue_eq (hv : v.natAbs < 2 ^ 255) :
    SetToken.absoluteValue v = .ok v.natAbs := by
  unfold SetToken.absoluteValue
  split
  · rw [SafeCast.toUint256_eq_ok]
    omega
  · have hrange : InInt256 (-v) := by
      unfold InInt256 minInt256 maxInt256
      omega
    rw [wrapInt256_of_inInt256 hrange, SafeCast.toUint256_eq_ok]
    omega

/-- The inner loop keeps the least absolute value of the external units. -/
theorem minimumExternalUnit_eq (c : Address) (minimumUnit : ℕ)
    (hunits : ∀ v ∈ componentUnits s c, v.natAbs < 2 ^ 255) :
    s.minimumExternalUnit c minimumUnit =
      .ok (((s.externalPositionModules c).map
        fun module => (s.externalPositionVirtualUnit c module).natAbs).foldl SetToken.lesserUnit
          minimumUnit) := by
  rw [List.foldl_map]
  refine foldlM_eq_ok_foldl (fun module hmodule minimumUnit => ?_) minimumUnit
  have hexternal := hunits _ (List.mem_cons_of_mem _ (List.mem_map_of_mem hmodule))
  simp only [absoluteValue_eq hexternal, bind_eq_ok, pure_eq_ok]
  exact ⟨_, rfl, rfl⟩

/-- The two loops look for the least absolute value of all units. -/
theorem getPositionsAbsMinimumVirtualUnit_eq
    (defaults : ∀ c ∈ s.components, 0 ≤ s.defaultPositionVirtualUnit c)
    (hunits : ∀ v ∈ units s, v.natAbs < 2 ^ 255) :
    s.getPositionsAbsMinimumVirtualUnit =
      SafeCast.toInt256 (((units s).map Int.natAbs).foldl SetToken.lesserUnit (2 ^ 256 - 1)) := by
  have houter : s.components.foldlM (fun minimumUnit component => do
      let defaultUnit ← SafeCast.toUint256 (s.defaultPositionVirtualUnit component)
      s.minimumExternalUnit component (SetToken.lesserUnit minimumUnit defaultUnit))
        (2 ^ 256 - 1) =
      .ok (s.components.foldl (fun minimumUnit component =>
        ((componentUnits s component).map Int.natAbs).foldl SetToken.lesserUnit minimumUnit)
          (2 ^ 256 - 1)) := by
    refine foldlM_eq_ok_foldl (fun c hc minimumUnit => ?_) _
    have hc' : ∀ v ∈ componentUnits s c, v.natAbs < 2 ^ 255 := fun v hv =>
      hunits v (List.mem_flatMap.mpr ⟨c, hc, hv⟩)
    rw [bind_eq_ok]
    refine ⟨(s.defaultPositionVirtualUnit c).natAbs, ?_, ?_⟩
    · rw [SafeCast.toUint256_eq_ok]
      have := defaults c hc
      omega
    · rw [minimumExternalUnit_eq c _ hc', componentUnits, List.map_cons, List.foldl_cons,
        List.map_map]
      rfl
  rw [SetToken.getPositionsAbsMinimumVirtualUnit, houter, units, List.map_flatMap,
    List.foldl_flatMap]
  rfl

/-! ## The edit -/

/-- The least positive absolute value is that of a unit, and no other one is less. -/
theorem exists_least (hunits : ∀ v ∈ units s, v.natAbs < 2 ^ 255)
    (nonzero : ∃ v, ListedUnit s v ∧ v ≠ 0) :
    ∃ v₀, ListedUnit s v₀ ∧ v₀ ≠ 0 ∧
      ((units s).map Int.natAbs).foldl SetToken.lesserUnit (2 ^ 256 - 1) = v₀.natAbs ∧
      ∀ v, ListedUnit s v → v ≠ 0 → v₀.natAbs ≤ v.natAbs := by
  have hleast := leastPositive_foldl ((units s).map Int.natAbs) (2 ^ 256 - 1)
  generalize ((units s).map Int.natAbs).foldl SetToken.lesserUnit (2 ^ 256 - 1) = n at hleast ⊢
  have hle : ∀ v, ListedUnit s v → v ≠ 0 → n ≤ v.natAbs := fun v hv hv0 =>
    hleast.le _ (List.mem_map_of_mem (mem_units.mpr hv)) (Int.natAbs_pos.mpr hv0)
  obtain ⟨v, hv, hv0⟩ := nonzero
  have hn := hle v hv hv0
  have hv255 := hunits v (mem_units.mpr hv)
  rcases hleast.found with rfl | ⟨hmem, hpos⟩
  · -- a unit is less than the number that stands for no unit
    omega
  · obtain ⟨v₀, hv₀, rfl⟩ := List.mem_map.mp hmem
    exact ⟨v₀, mem_units.mp hv₀, Int.natAbs_pos.mp hpos, rfl, hle⟩

/-- Under a positive multiplier whose products fit, all units have an absolute value. -/
theorem natAbs_lt_of_fits (hpos : 0 < newMultiplier)
    (fits : ∀ v, ListedUnit s v → InInt256 (|v| * newMultiplier)) :
    ∀ v ∈ units s, v.natAbs < 2 ^ 255 := by
  intro v hv
  have hfit := (fits v (mem_units.mp hv)).2
  have hle : |v| * 1 ≤ |v| * newMultiplier := Int.mul_le_mul_of_nonneg_left hpos (abs_nonneg v)
  rw [Int.abs_eq_natAbs] at hfit hle
  unfold maxInt256 at hfit
  omega

/-- A positive multiplier is accepted if no unit becomes zero under it: the least one decides. -/
theorem validateNewMultiplier_eq_ok (hpos : 0 < newMultiplier)
    (defaults : ∀ c ∈ s.components, 0 ≤ s.defaultPositionVirtualUnit c)
    (nonzero : ∃ v, ListedUnit s v ∧ v ≠ 0)
    (fits : ∀ v, ListedUnit s v → InInt256 (|v| * newMultiplier)) :
    s.validateNewMultiplier newMultiplier = .ok () ↔
      ∀ v, ListedUnit s v → v ≠ 0 → preciseUnitInt ≤ |v| * newMultiplier := by
  have hunits := natAbs_lt_of_fits hpos fits
  obtain ⟨v₀, hv₀, hv₀0, hleast, hle⟩ := exists_least hunits nonzero
  have hfit := fits v₀ hv₀
  rw [Int.abs_eq_natAbs] at hfit
  have haccept : s.validateNewMultiplier newMultiplier = .ok () ↔
      0 < (v₀.natAbs : ℤ) * newMultiplier / preciseUnitInt := by
    simp only [SetToken.validateNewMultiplier, bind_eq_ok,
      getPositionsAbsMinimumVirtualUnit_eq defaults hunits, hleast, SafeCast.toInt256_eq_ok,
      PreciseUnitMath.conservativePreciseMul_eq_ok, require_eq_ok]
    constructor
    · rintro ⟨_, ⟨-, rfl⟩, _, ⟨-, rfl⟩, h⟩
      exact h
    · intro h
      exact ⟨_, ⟨hunits v₀ (mem_units.mpr hv₀), rfl⟩, _, ⟨hfit, rfl⟩, h⟩
  rw [haccept, ← Int.add_one_le_iff, zero_add, Int.le_ediv_iff_mul_le preciseUnitInt_pos, one_mul]
  constructor
  · intro h v hv hv0
    rw [Int.abs_eq_natAbs]
    exact h.trans (Int.mul_le_mul_of_nonneg_right (by exact_mod_cast hle v hv hv0) hpos.le)
  · intro h
    rw [← Int.abs_eq_natAbs]
    exact h v₀ hv₀ hv₀0

/-- A unit that does not become zero under a positive multiplier keeps its sign: the floor of a
quotient of at least one is positive, and that of a negative quotient is negative. -/
theorem realUnit_of_le (hpos : 0 < s.positionMultiplier) (hv0 : v ≠ 0)
    (hv : preciseUnitInt ≤ |v| * s.positionMultiplier) :
    s.realUnit v ≠ 0 ∧ (s.realUnit v).sign = v.sign := by
  unfold SetToken.realUnit
  rcases lt_or_gt_of_ne hv0 with hneg | hpos'
  · have hprod : v * s.positionMultiplier < 0 := Int.mul_neg_of_neg_of_pos hneg hpos
    have hdiv := Int.ediv_neg_of_neg_of_pos hprod preciseUnitInt_pos
    exact ⟨hdiv.ne, by rw [Int.sign_eq_neg_one_of_neg hdiv, Int.sign_eq_neg_one_of_neg hneg]⟩
  · rw [abs_of_pos hpos'] at hv
    have hdiv : 0 < v * s.positionMultiplier / preciseUnitInt :=
      Int.lt_iff_add_one_le.mpr (Int.le_ediv_of_mul_le preciseUnitInt_pos (by simpa using hv))
    exact ⟨hdiv.ne', by rw [Int.sign_eq_one_of_pos hdiv, Int.sign_eq_one_of_pos hpos']⟩

/-- The product of a unit fits where that of its absolute value does. -/
theorem inInt256_of_abs {i : ℤ} (h : InInt256 (|v| * i)) (hi : 0 < i) : InInt256 (v * i) := by
  have habs : |v * i| = |v| * i := by rw [abs_mul, abs_of_pos hi]
  rw [← habs] at h
  have := neg_abs_le (v * i)
  have := le_abs_self (v * i)
  obtain ⟨h₁, h₂⟩ := h
  unfold maxInt256 at h₂
  unfold InInt256 minInt256 maxInt256
  omega

/-- **Multipliers**: on a Set whose default units are not negative and that has a unit other than
zero, an authorised module can set a multiplier, as far as its products with the units fit, if and
only if no unit becomes zero under it. Then the multiplier is positive, and each position has a real
unit other than zero, of the sign of its virtual unit.

**Proof sketch.** A multiplier that is not positive makes every product fail and is not accepted
either. Under a positive one the loops find the unit with the least absolute value, and its product
is the least one. -/
theorem editPositionMultiplier_iff (authorised : SetToken.Authorised m s)
    (defaults : ∀ c ∈ s.components, 0 ≤ s.defaultPositionVirtualUnit c)
    (nonzero : ∃ v, ListedUnit s v ∧ v ≠ 0)
    (fits : ∀ v, ListedUnit s v → InInt256 (|v| * newMultiplier)) :
    ((∃ s', s.editPositionMultiplier m newMultiplier = .ok s') ↔
      ∀ v, ListedUnit s v → v ≠ 0 → preciseUnitInt ≤ |v| * newMultiplier) ∧
    ∀ s', s.editPositionMultiplier m newMultiplier = .ok s' →
      0 < s'.positionMultiplier ∧ s' = { s with positionMultiplier := newMultiplier } ∧
        ∀ v, ListedUnit s v → v ≠ 0 → ∃ r, s'.convertVirtualToRealUnit v = .ok r ∧ r ≠ 0 ∧
          r.sign = v.sign := by
  have hiff : (∃ s', s.editPositionMultiplier m newMultiplier = .ok s') ↔
      ∀ v, ListedUnit s v → v ≠ 0 → preciseUnitInt ≤ |v| * newMultiplier := by
    rcases lt_or_ge 0 newMultiplier with hpos | hnonpos
    · rw [← validateNewMultiplier_eq_ok hpos defaults nonzero fits]
      simp only [SetToken.editPositionMultiplier_eq_ok, authorised, true_and]
      constructor
      · rintro ⟨s', h, -⟩
        exact h
      · intro h
        exact ⟨_, h, rfl⟩
    · constructor
      · rintro ⟨s', h⟩
        exact absurd (SetToken.pos_of_editPositionMultiplier h) (Int.not_lt.mpr hnonpos)
      · intro h
        obtain ⟨v, hv, hv0⟩ := nonzero
        have hprod := Int.mul_nonpos_of_nonneg_of_nonpos (abs_nonneg v) hnonpos
        exact absurd ((h v hv hv0).trans hprod) (by decide)
  refine ⟨hiff, fun s' h => ?_⟩
  have hpos := SetToken.pos_of_editPositionMultiplier h
  have hunits := hiff.mp ⟨s', h⟩
  obtain ⟨-, -, rfl⟩ := SetToken.editPositionMultiplier_eq_ok.mp h
  refine ⟨hpos, rfl, fun v hv hv0 => ?_⟩
  obtain ⟨hne, hsign⟩ := realUnit_of_le (s := { s with positionMultiplier := newMultiplier }) hpos
    hv0 (hunits v hv hv0)
  refine ⟨_, SetToken.convertVirtualToRealUnit_eq_ok.mpr ⟨?_, rfl⟩, hne, hsign⟩
  exact inInt256_of_abs (fits v hv) hpos

/-! ## Example -/

/-- A Set with a default position of two units in the component `11`, a debt of half a unit in it to
the module `2`, and no lock. -/
def exampleSet : SetToken :=
  { moduleStates := fun a => if a = 2 then .initialized else .none
    components := [11]
    componentPositions := fun _ =>
      { virtualUnit := 2 * preciseUnitInt
        externalPositionModules := [2]
        externalPositions := fun _ => { virtualUnit := -preciseUnitInt / 2 } } }

/-- The module `2` calls. -/
def exampleMessage : Message := ⟨{ isModule := fun a => a = 2 }, 2⟩

private theorem listedUnit_exampleSet :
    ListedUnit exampleSet v ↔ v = 2 * preciseUnitInt ∨ v = -preciseUnitInt / 2 := by
  simp [ListedUnit, exampleSet, SetToken.defaultPositionVirtualUnit,
    SetToken.externalPositionModules, SetToken.externalPositionVirtualUnit]

/-- Under a tenth of the multiplier one, both positions keep a unit. -/
theorem editPositionMultiplier_iff_example :
    ((∃ s', exampleSet.editPositionMultiplier exampleMessage (preciseUnitInt / 10) = .ok s') ↔
      ∀ v, ListedUnit exampleSet v → v ≠ 0 → preciseUnitInt ≤ |v| * (preciseUnitInt / 10)) ∧
    ∀ s', exampleSet.editPositionMultiplier exampleMessage (preciseUnitInt / 10) = .ok s' →
      0 < s'.positionMultiplier ∧
        s' = { exampleSet with positionMultiplier := preciseUnitInt / 10 } ∧
        ∀ v, ListedUnit exampleSet v → v ≠ 0 → ∃ r, s'.convertVirtualToRealUnit v = .ok r ∧
          r ≠ 0 ∧ r.sign = v.sign := by
  refine editPositionMultiplier_iff ⟨by decide +kernel, by decide +kernel, ?_⟩ ?_ ?_ ?_
  · intro h
    cases h
  · intro c hc
    obtain rfl : c = 11 := List.mem_singleton.mp hc
    decide +kernel
  · exact ⟨_, listedUnit_exampleSet.mpr (.inl rfl), by decide⟩
  · intro v hv
    rcases listedUnit_exampleSet.mp hv with rfl | rfl
    · decide +kernel
    · decide +kernel

end Multiplier

end SetProtocol
