import SetProtocol.Core.Position
import SetProtocol.Core.SetTokenCreator
import SetProtocol.Lib.Transition

set_option relaxedAutoImplicit false
set_option autoImplicit false

/-!
# Which positions a Set lists

A Set lists a component when it has some position in it, and a module for a component when it has
an external position there. The lists are edited by the `Position` library, which looks at real
units, while the positions themselves are virtual units. The two disagree on a position whose
real unit rounds to zero: the library takes it for a position that is not there.

## Main definitions

* `SetProtocol.Tracking.Action`, `step` — the edits of a Set.
* `SetProtocol.Tracking.PositionsTracked` — the lists name the positions that exist.
* `SetProtocol.Tracking.ClosesNoFraction` — the edit does not close a default position that is
  there but reads zero.

## Main results

* `SetProtocol.Tracking.positionsTracked_of_run` — the lists are right after any run of such
  edits from the creation of the Set.
* `SetProtocol.Tracking.run_lists_missing_position` — a run with another edit, after which a
  component without a position is listed.
-/

namespace SetProtocol

namespace Tracking

open Checked Transition

/-! ## Edits of a Set -/

/-- The edits that modules make to the positions of a Set, and their initialization. -/
inductive Edit
  | editDefaultPosition (component : Address) (newUnit : ℕ)
  | editExternalPosition (component module : Address) (newUnit : ℤ) (data : Bytes)
  | editPositionMultiplier (newMultiplier : ℤ)
  | initializeModule

/-- An edit with the message that makes it. -/
structure Action where
  /-- The module that makes the edit, and the controller at the time. -/
  message : Message
  /-- The edit. -/
  edit : Edit

/-- The effect of an edit. -/
def step (a : Action) (s : SetToken) : Except Revert SetToken :=
  match a.edit with
  | .editDefaultPosition c n => Position.editDefaultPosition a.message s c n
  | .editExternalPosition c module n data =>
    Position.editExternalPosition a.message s c module n data
  | .editPositionMultiplier newMultiplier => s.editPositionMultiplier a.message newMultiplier
  | .initializeModule => s.initializeModule a.message

/-- The lists of a Set name the positions that exist. -/
structure PositionsTracked (s : SetToken) : Prop where
  /-- No component is listed twice. -/
  nodup : s.components.Nodup
  /-- The components are those with a default unit or an external position. -/
  component : ∀ c, c ∈ s.components ↔
    s.defaultPositionVirtualUnit c ≠ 0 ∨ s.externalPositionModules c ≠ []
  /-- The modules of a component are those with an external unit. -/
  module : ∀ c p, p ∈ s.externalPositionModules c ↔ s.externalPositionVirtualUnit c p ≠ 0

/-- The default position of a component is there but reads zero. -/
def HasFraction (s : SetToken) (c : Address) : Prop :=
  s.defaultPositionVirtualUnit c ≠ 0 ∧ s.defaultRealUnit c = 0

/-- The edit does not close the last position of a component next to a default position that is
there but reads zero. The default position itself is such a position. -/
def ClosesNoFraction (a : Action) (s : SetToken) : Prop :=
  match a.edit with
  | .editDefaultPosition c n => n = 0 → s.externalPositionModules c = [] → ¬HasFraction s c
  | .editExternalPosition c module n _ =>
    n = 0 → s.externalRealUnit c module ≠ 0 → s.externalPositionModules c = [module] →
      ¬HasFraction s c
  | .editPositionMultiplier _ => True
  | .initializeModule => True

instance (s : SetToken) (c : Address) : Decidable (HasFraction s c) :=
  inferInstanceAs (Decidable (_ ∧ _))

instance : ∀ (a : Action) (s : SetToken), Decidable (ClosesNoFraction a s)
  | ⟨_, .editDefaultPosition _ _⟩, _ => inferInstanceAs (Decidable (_ → _ → ¬_))
  | ⟨_, .editExternalPosition _ _ _ _⟩, _ => inferInstanceAs (Decidable (_ → _ → _ → ¬_))
  | ⟨_, .editPositionMultiplier _⟩, _ => inferInstanceAs (Decidable True)
  | ⟨_, .initializeModule⟩, _ => inferInstanceAs (Decidable True)

/-! ## The invariant -/

/-- What edits preserve: the lists are right, positions are distinct, default units are not
negative and the multiplier is positive. -/
structure Invariant (s : SetToken) : Prop extends PositionsTracked s where
  /-- No module is listed twice for a component. -/
  modules_nodup : ∀ c, (s.externalPositionModules c).Nodup
  /-- Default positions are not negative. -/
  nonneg : ∀ c, 0 ≤ s.defaultPositionVirtualUnit c
  /-- The multiplier is positive. -/
  multiplier : 0 < s.positionMultiplier

variable {a : Action} {m : Message} {s s' : SetToken}

/-- A default unit that is not negative and reads other than zero is not zero. -/
private theorem ne_zero_of_defaultRealUnit_ne {c : Address} (h : s.defaultRealUnit c ≠ 0) :
    s.defaultPositionVirtualUnit c ≠ 0 := by
  intro h0
  apply h
  rw [SetToken.defaultRealUnit, h0, SetToken.realUnit_zero]

/-- A created Set meets the invariant. -/
theorem invariant_of_create {factory setToken manager : Address} {c c' : Controller}
    {components modules : List Address} {units : List ℤ}
    (h : SetTokenCreator.create factory setToken c components units modules manager = .ok (c', s)) :
    Invariant s := by
  obtain ⟨hnodup, hmul, hmods, hext, hpos, hzero⟩ := SetTokenCreator.create_spec h
  refine ⟨⟨hnodup, fun d => ⟨fun hd => .inl (hpos d hd).ne', ?_⟩, fun d p => ?_⟩, fun d => ?_,
    fun d => ?_, ?_⟩
  · rintro (hd | hd)
    · by_contra hnot
      exact hd (hzero d hnot)
    · exact absurd (hmods d) hd
  · rw [hmods, hext]
    simp
  · rw [hmods]
    exact List.nodup_nil
  · by_cases hd : d ∈ s.components
    · exact (hpos d hd).le
    · exact (hzero d hd).ge
  · rw [hmul]
    exact preciseUnitInt_pos

/-- The default units of a Set that meets the invariant do not read negative. -/
private theorem Invariant.defaultRealUnit_nonneg (hs : Invariant s) (c : Address) :
    0 ≤ s.defaultRealUnit c :=
  Int.ediv_nonneg (Int.mul_nonneg (hs.nonneg c) hs.multiplier.le) preciseUnitInt_pos.le

/-- Default edits preserve the invariant. -/
theorem Invariant.editDefaultPosition {c : Address} {n : ℕ} (hs : Invariant s)
    (hfrac : n = 0 → s.externalPositionModules c = [] → ¬HasFraction s c)
    (h : Position.editDefaultPosition m s c n = .ok s') : Invariant s' := by
  obtain ⟨-, l, v, hl, hv, hv0, rfl⟩ := Position.editDefaultPosition_cases hs.multiplier h
  have hvn : 0 ≤ v := by
    rw [hv]
    exact Int.ediv_nonneg (Int.mul_nonneg (Int.natCast_nonneg n) preciseUnitInt_pos.le)
      hs.multiplier.le
  -- the edited component: the real unit is zero for the virtual unit zero only
  have hc : c ∈ l ↔ v ≠ 0 ∨ s.externalPositionModules c ≠ [] := by
    cases hl with
    | keep keep =>
      rw [hs.component]
      by_cases hext : s.externalPositionModules c = []
      · have hreal := hs.defaultRealUnit_nonneg c
        have hkeep := keep hext
        have hfrac' := fun hn => hfrac hn hext
        have hne := ne_zero_of_defaultRealUnit_ne (s := s) (c := c)
        simp only [hext, ne_eq, not_true_eq_false, or_false, hv0]
        simp only [HasFraction] at hfrac'
        constructor
        · intro hvs hn
          exact hfrac' hn ⟨hvs, by omega⟩
        · intro hn
          exact hne (by omega)
      · simp [hext]
    | append _ _ opened =>
      simp only [List.mem_append, List.mem_singleton, or_true, true_iff]
      omega
    | remove external _ closed old =>
      rw [SwapPop.mem_swapPop hs.nodup old]
      simp [external, hv0, closed]
  refine ⟨⟨hl.nodup hs.nodup, fun d => ?_, fun d p => ?_⟩, fun d => ?_, fun d => ?_, ?_⟩
  · by_cases hd : d = c
    · subst hd
      simpa using hc
    · simpa [hd] using (hl.mem_of_ne hs.nodup hd).trans (hs.component d)
  · simpa using hs.module d p
  · simpa using hs.modules_nodup d
  · by_cases hd : d = c
    · simpa [hd] using hvn
    · simpa [hd] using hs.nonneg d
  · exact hs.multiplier

/-- Opening or rescaling an external position preserves the invariant. -/
private theorem Invariant.opened {c module : Address} {l ms : List Address} {v : ℤ} {data : Bytes}
    (hs : Invariant s)
    (listed : c ∈ s.components ∧ l = s.components ∨
      c ∉ s.components ∧ l = s.components ++ [c] ∧ module ∉ s.externalPositionModules c)
    (owned : module ∈ s.externalPositionModules c ∧ ms = s.externalPositionModules c ∨
      module ∉ s.externalPositionModules c ∧ ms = s.externalPositionModules c ++ [module])
    (kept : v ≠ 0) : Invariant (Position.withExternalPosition s c module l ms ⟨v, data⟩) := by
  have hl : l.Nodup ∧ ∀ d, d ∈ l ↔ d = c ∨ d ∈ s.components := by
    rcases listed with ⟨hc, rfl⟩ | ⟨hc, rfl, -⟩
    · exact ⟨hs.nodup, fun d => ⟨.inr, fun h => h.elim (fun h => h ▸ hc) id⟩⟩
    · exact ⟨List.concat_eq_append ▸ hs.nodup.concat hc, fun d => by simp [or_comm]⟩
  have hms : ms.Nodup ∧ ∀ q, q ∈ ms ↔ q = module ∨ q ∈ s.externalPositionModules c := by
    rcases owned with ⟨hmod, rfl⟩ | ⟨hmod, rfl⟩
    · exact ⟨hs.modules_nodup c, fun q => ⟨.inr, fun h => h.elim (fun h => h ▸ hmod) id⟩⟩
    · exact ⟨List.concat_eq_append ▸ (hs.modules_nodup c).concat hmod,
        fun q => by simp [or_comm]⟩
  have hne : ms ≠ [] := List.ne_nil_of_mem ((hms.2 module).mpr (.inl rfl))
  refine ⟨⟨hl.1, fun d => ?_, fun d p => ?_⟩, fun d => ?_, fun d => ?_, hs.multiplier⟩
  · by_cases hd : d = c
    · subst hd
      simp [hl.2, hne]
    · simpa [hl.2, hd] using hs.component d
  · by_cases hd : d = c
    · subst hd
      by_cases hp : p = module
      · simp [hms.2, hp, kept]
      · simpa [hms.2, hp] using hs.module d p
    · simpa [hd] using hs.module d p
  · by_cases hd : d = c
    · simpa [hd] using hms.1
    · simpa [hd] using hs.modules_nodup d
  · simpa using hs.nonneg d

/-- Closing an external position preserves the invariant. -/
private theorem Invariant.closed {c module : Address} {l : List Address} (hs : Invariant s)
    (hfrac : s.externalPositionModules c = [module] → ¬HasFraction s c)
    (owned : module ∈ s.externalPositionModules c)
    (listed : ¬(s.defaultRealUnit c = 0 ∧ s.externalPositionModules c = [module]) ∧
        l = s.components ∨
      s.defaultRealUnit c = 0 ∧ s.externalPositionModules c = [module] ∧ c ∈ s.components ∧
        l = SwapPop.swapPop s.components (s.components.idxOf c)) :
    Invariant (Position.withExternalPosition s c module l
      (SwapPop.swapPop (s.externalPositionModules c)
        ((s.externalPositionModules c).idxOf module)) {}) := by
  have hmods := hs.modules_nodup c
  have hl : l.Nodup ∧ ∀ d, d ≠ c → (d ∈ l ↔ d ∈ s.components) := by
    rcases listed with ⟨-, rfl⟩ | ⟨-, -, hc, rfl⟩
    · exact ⟨hs.nodup, fun _ _ => Iff.rfl⟩
    · exact ⟨SwapPop.nodup_swapPop hs.nodup hc,
        fun d hd => by simp [SwapPop.mem_swapPop hs.nodup hc, hd]⟩
  -- without the module the list is empty when the module was alone in it
  have hempty : SwapPop.swapPop (s.externalPositionModules c)
      ((s.externalPositionModules c).idxOf module) = [] ↔
        s.externalPositionModules c = [module] := by
    rw [← List.length_eq_zero_iff, SwapPop.length_swapPop]
    have hpos := List.length_pos_of_mem owned
    constructor
    · intro hlen
      have hone : (s.externalPositionModules c).length = 1 := by omega
      obtain ⟨x, hx⟩ := List.length_eq_one_iff.mp hone
      rw [hx] at owned ⊢
      rw [List.mem_singleton.mp owned]
    · intro hx
      rw [hx, List.length_singleton]
  have hc : c ∈ l ↔ s.defaultPositionVirtualUnit c ≠ 0 ∨
      ¬s.externalPositionModules c = [module] := by
    rcases listed with ⟨hkeep, rfl⟩ | ⟨hreal, hsingle, hc, rfl⟩
    · have hin : c ∈ s.components := (hs.component c).mpr (.inr (List.ne_nil_of_mem owned))
      have hne := ne_zero_of_defaultRealUnit_ne (s := s) (c := c)
      simp only [hin, true_iff]
      tauto
    · have hv : s.defaultPositionVirtualUnit c = 0 := by
        by_contra hv
        exact hfrac hsingle ⟨hv, hreal⟩
      simp [SwapPop.mem_swapPop hs.nodup hc, hv, hsingle]
  refine ⟨⟨hl.1, fun d => ?_, fun d p => ?_⟩, fun d => ?_, fun d => ?_, hs.multiplier⟩
  · by_cases hd : d = c
    · subst hd
      simpa [hempty] using hc
    · simpa [hd] using (hl.2 d hd).trans (hs.component d)
  · by_cases hd : d = c
    · subst hd
      by_cases hp : p = module
      · simp [SwapPop.mem_swapPop hmods owned, hp]
      · simpa [SwapPop.mem_swapPop hmods owned, hp] using hs.module d p
    · simpa [hd] using hs.module d p
  · by_cases hd : d = c
    · simpa [hd] using SwapPop.nodup_swapPop hmods owned
    · simpa [hd] using hs.modules_nodup d
  · simpa using hs.nonneg d

/-- External edits preserve the invariant. -/
theorem Invariant.editExternalPosition {c module : Address} {n : ℤ} {data : Bytes}
    (hs : Invariant s)
    (hfrac : n = 0 → s.externalRealUnit c module ≠ 0 → s.externalPositionModules c = [module] →
      ¬HasFraction s c)
    (h : Position.editExternalPosition m s c module n data = .ok s') : Invariant s' := by
  cases Position.editExternalPosition_cases hs.multiplier h with
  | opened _ l ms v listed owned _ kept => exact hs.opened listed owned kept
  | closed zero reads l owned listed => exact hs.closed (hfrac zero reads) owned listed
  | absent => exact hs

/-- Every edit that closes no fraction preserves the invariant. -/
theorem Invariant.step (hs : Invariant s) (hfrac : ClosesNoFraction a s)
    (h : step a s = .ok s') : Invariant s' := by
  obtain ⟨m, e⟩ := a
  cases e with
  | editDefaultPosition c n => exact hs.editDefaultPosition hfrac h
  | editExternalPosition c module n data => exact hs.editExternalPosition hfrac h
  | editPositionMultiplier newMultiplier =>
    have hpos := SetToken.pos_of_editPositionMultiplier h
    obtain ⟨-, -, rfl⟩ := SetToken.editPositionMultiplier_eq_ok.mp h
    exact ⟨⟨hs.nodup, hs.component, hs.module⟩, hs.modules_nodup, hs.nonneg, hpos⟩
  | initializeModule =>
    obtain ⟨-, -, rfl⟩ := SetToken.initializeModule_eq_ok.mp h
    exact ⟨⟨hs.nodup, hs.component, hs.module⟩, hs.modules_nodup, hs.nonneg, hs.multiplier⟩

/-! ## Runs -/

/-- After any run, from the creation of a Set, of edits that close no fraction, the lists of the
Set name the positions that exist. -/
theorem positionsTracked_of_run {factory setToken manager : Address} {c c' : Controller}
    {components modules : List Address} {units : List ℤ} {s₀ : SetToken}
    (created : SetTokenCreator.create factory setToken c components units modules manager =
      .ok (c', s₀))
    (reached : ReachWhen step ClosesNoFraction s₀ s) : PositionsTracked s :=
  (reached.invariant Invariant (fun _ _ _ hs met stepped => hs.step met stepped)
    (invariant_of_create created)).toPositionsTracked

/-- A Set of one component, created by the factory `1` for the module `2`. -/
def exampleCreation : Except Revert (Controller × SetToken) :=
  SetTokenCreator.create 1 100
    { isFactory := fun a => a = 1, isModule := fun a => a = 2 } [11] [10 ^ 18] [2] 3

/-- The module `2` is initialized, scales the positions to seven tenths, opens a default position
of one in the component `12`, and makes another edit. -/
def exampleActions (last : Edit) : List Action :=
  [.initializeModule, .editPositionMultiplier (7 * 10 ^ 17), .editDefaultPosition 12 1, last].map
    fun e => ⟨⟨{ isModule := fun a => a = 2 }, 2⟩, e⟩

/-- A run that opens an external position next to the default one. -/
theorem positionsTracked_of_run_example :
    ∃ c s₀ s, exampleCreation = .ok (c, s₀) ∧
      runAll step (exampleActions (.editExternalPosition 12 2 (-5) [])) s₀ = .ok s ∧
      PositionsTracked s := by
  obtain ⟨⟨c, s₀⟩, created, h⟩ := exists_of_yields (x := exampleCreation)
    (p := fun r => yields (runAll (guarded step ClosesNoFraction "")
      (exampleActions (.editExternalPosition 12 2 (-5) [])) r.2) fun _ => true)
    (by decide +kernel)
  obtain ⟨s, hrun, -⟩ := exists_of_yields h
  exact ⟨c, s₀, s, created, runAll_of_guarded hrun,
    positionsTracked_of_run created (reachWhen_of_runAll hrun)⟩

/-- A position of one virtual unit reads zero under the multiplier seven tenths. Closing it
leaves its component listed without a position. -/
theorem run_lists_missing_position :
    ∃ c s₀ s, exampleCreation = .ok (c, s₀) ∧ Reach step s₀ s ∧ ¬PositionsTracked s := by
  obtain ⟨⟨c, s₀⟩, created, h⟩ := exists_of_yields (x := exampleCreation)
    (p := fun r => yields (runAll step (exampleActions (.editDefaultPosition 12 0)) r.2)
      fun s => 12 ∈ s.components ∧ s.defaultPositionVirtualUnit 12 = 0 ∧
        s.externalPositionModules 12 = []) (by decide +kernel)
  obtain ⟨s, hrun, h⟩ := exists_of_yields h
  obtain ⟨hlisted, hdefault, hexternal⟩ := of_decide_eq_true h
  refine ⟨c, s₀, s, created, reach_of_runAll hrun, fun tracked => ?_⟩
  rcases (tracked.component 12).mp hlisted with h | h
  · exact h hdefault
  · exact h hexternal

end Tracking

end SetProtocol
