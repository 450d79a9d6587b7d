import SetProtocol.Lib.Transition
import SetProtocol.Modules.StakingModule
import SetProtocol.Modules.StreamingFeeModule

set_option relaxedAutoImplicit false
set_option autoImplicit false

/-!
# Staked units on the module and on the Set

The staking module keeps staked units by contract, in absolute numbers. The Set keeps their sum as
the external position of the module, as a virtual unit. Staking and unstaking edit both. A streaming
fee scales the virtual unit only, and a unit that is written reads back as it was only where the
multiplier divides it in precise units.

## Main definitions

* `SetProtocol.StakingUnits.Action`, `step` — staking, unstaking and the accrual of fees.
* `SetProtocol.StakingUnits.InStep` — the Set and the module agree.
* `SetProtocol.StakingUnits.Agrees` — what is to hold of a component.
* `SetProtocol.StakingUnits.KeepsUnits` — the action writes a unit that the multiplier divides, or
  accrues no fee while something is staked.

## Main results

* `SetProtocol.StakingUnits.InStep.agrees_iff_keepsUnits` — an action leaves the Set and the module
  in agreement exactly when it is such an action.
* `SetProtocol.StakingUnits.units_of_run` — the Set and the module agree after any run of such
  actions, and any other action ends that.
* `SetProtocol.StakingUnits.accrueFee_loses_step` — an accrual after which they do not.
-/

namespace SetProtocol

namespace StakingUnits

open Checked Transition StakingModule

/-! ## Actions -/

/-- What is done to a Set with staked components. -/
inductive Action
  | stake (msgSender stakeContract component : Address) (adapterName : String) (units : ℕ)
  | unstake (msgSender stakeContract component : Address) (adapterName : String) (units : ℕ)
  | accrueFee
  /-- The rest of the world changes: time passes, Sets are issued, fees are configured. -/
  | other (rest : World)

/-- The effect of an action on the Set at `setToken`, with the modules at the given addresses. -/
def step (stakingModule feeModule setToken : Address) (env : Env) (a : Action) (w : World) :
    Except Revert World :=
  match a with
  | .stake msgSender stakeContract component adapterName units =>
    stake stakingModule env w msgSender setToken stakeContract component adapterName units
  | .unstake msgSender stakeContract component adapterName units =>
    unstake stakingModule env w msgSender setToken stakeContract component adapterName units
  | .accrueFee => StreamingFeeModule.accrueFee feeModule w setToken
  | .other rest =>
    .ok { rest with
      setTokens := Function.update rest.setTokens setToken (w.setTokens setToken)
      stakingPositions :=
        Function.update rest.stakingPositions setToken (w.stakingPositions setToken) }

/-- The multiplier divides the unit in precise units, so that a virtual unit stands for it without a
remainder. -/
def HasVirtualUnit (s : SetToken) (unit : ℤ) : Prop :=
  s.positionMultiplier ∣ unit * preciseUnitInt

instance (s : SetToken) (unit : ℤ) : Decidable (HasVirtualUnit s unit) :=
  inferInstanceAs (Decidable (_ ∣ _))

/-- Staking and unstaking write a unit that has a virtual unit, the one before with the units of the
call, and no fee accrues while something is staked. -/
def KeepsUnits (stakingModule setToken : Address) (a : Action) (w : World) : Prop :=
  let s := w.setTokens setToken
  match a with
  | .stake _ _ c _ n => HasVirtualUnit s (s.externalRealUnit c stakingModule + n)
  | .unstake _ _ c _ n => HasVirtualUnit s (s.externalRealUnit c stakingModule - n)
  | .accrueFee => 0 < StreamingFeeModule.streamingFee w setToken →
    ∀ c, (w.stakingPositions setToken c).total = 0
  | .other _ => True

/-- The external unit of the component is the sum of its staked units, so it is not negative, and
there is an external position exactly when something is staked. -/
def Agrees (stakingModule setToken : Address) (w : World) (c : Address) : Prop :=
  (w.setTokens setToken).externalRealUnit c stakingModule =
      (((getStakingContracts w setToken c).map (getStakingPositionUnit w setToken c)).sum : ℕ) ∧
    0 ≤ (w.setTokens setToken).externalRealUnit c stakingModule ∧
    (stakingModule ∈ (w.setTokens setToken).externalPositionModules c ↔
      ((getStakingContracts w setToken c).map (getStakingPositionUnit w setToken c)).sum ≠ 0)

/-- Contracts outside the protocol leave the positions of the Set alone. -/
structure CallsSpare (setToken : Address) (env : Env) : Prop where
  /-- The positions on the Set. -/
  onSet : ∀ call w w' words, env.call call w = .ok (w', words) →
    w'.setTokens setToken = w.setTokens setToken
  /-- The positions on the module. -/
  onModule : ∀ call w w' words, env.call call w = .ok (w', words) →
    w'.stakingPositions setToken = w.stakingPositions setToken

/-! ## The invariant -/

/-- The Set and the module agree on what is staked. -/
structure InStep (module : Address) (s : SetToken) (positions : Address → ComponentPositions) :
    Prop where
  /-- The multiplier is positive. -/
  multiplier : 0 < s.positionMultiplier
  /-- The bookkeeping of the module is right. -/
  tracked : ∀ c, (positions c).Tracked
  /-- No module is listed twice for a component. -/
  modules_nodup : ∀ c, (s.externalPositionModules c).Nodup
  /-- The external virtual unit of a component stands for the sum of the staked units, without a
  remainder. -/
  virtualUnit : ∀ c, s.externalPositionVirtualUnit c module * s.positionMultiplier =
    ((positions c).total : ℤ) * preciseUnitInt
  /-- There is an external position when something is staked. -/
  listed : ∀ c, module ∈ s.externalPositionModules c ↔ (positions c).total ≠ 0

/-- Nothing is staked, and there is no external position of the module. -/
structure NothingStaked (module : Address) (s : SetToken)
    (positions : Address → ComponentPositions) : Prop where
  /-- The multiplier is positive. -/
  multiplier : 0 < s.positionMultiplier
  /-- No module is listed twice for a component. -/
  modules_nodup : ∀ c, (s.externalPositionModules c).Nodup
  /-- The module has no positions. -/
  empty : ∀ c, positions c = {}
  /-- No component lists the module. -/
  unlisted : ∀ c, module ∉ s.externalPositionModules c
  /-- The Set has no external unit of the module. -/
  unit_eq_zero : ∀ c, s.externalPositionVirtualUnit c module = 0

variable {stakingModule feeModule setToken c j : Address} {env : Env} {w w' : World}
  {s s' : SetToken} {positions : Address → ComponentPositions} {m : Message}

/-- The sum of the staked units is what the module has in total. -/
theorem Agrees.read (h : Agrees stakingModule setToken w c) :
    (w.setTokens setToken).externalRealUnit c stakingModule =
      ((w.stakingPositions setToken c).total : ℤ) := h.1

/-- Before anything is staked, the Set and the module agree. -/
theorem NothingStaked.inStep (h : NothingStaked stakingModule s positions) :
    InStep stakingModule s positions := by
  refine ⟨h.multiplier, fun c => ?_, h.modules_nodup, fun c => ?_, fun c => ?_⟩
  · rw [h.empty]
    exact ComponentPositions.tracked_empty
  · rw [h.unit_eq_zero, h.empty, Int.zero_mul, ComponentPositions.total_empty, Nat.cast_zero,
      Int.zero_mul]
  · simp [h.unlisted, h.empty]

/-- Exactly the units that the multiplier divides read back after they are written. -/
theorem hasVirtualUnit_iff (hm : 0 < s.positionMultiplier) {unit : ℤ} :
    HasVirtualUnit s unit ↔ s.realUnit (unit * preciseUnitInt / s.positionMultiplier) = unit :=
  (Rounding.ediv_mul_ediv_eq_iff preciseUnitInt_pos hm).symm

namespace InStep

/-- The external unit of a component is the sum of the staked units. -/
theorem unit (hs : InStep stakingModule s positions) (c : Address) :
    s.externalRealUnit c stakingModule = ((positions c).total : ℤ) := by
  rw [SetToken.externalRealUnit, SetToken.realUnit, hs.virtualUnit,
    Int.mul_ediv_cancel _ preciseUnitInt_pos.ne']

/-- The Set and the module agree on every component. -/
theorem agrees (hw : InStep stakingModule (w.setTokens setToken) (w.stakingPositions setToken))
    (c : Address) : Agrees stakingModule setToken w c :=
  ⟨hw.unit c, hw.unit c ▸ Int.natCast_nonneg _, hw.listed c⟩

/-- Default edits keep the Set and the module in step. -/
theorem editDefaultPosition {n : ℕ} (hs : InStep stakingModule s positions)
    (h : Position.editDefaultPosition m s c n = .ok s') : InStep stakingModule s' positions := by
  obtain ⟨-, l, v, -, -, -, rfl⟩ := Position.editDefaultPosition_cases hs.multiplier h
  refine ⟨hs.multiplier, hs.tracked, fun d => ?_, fun d => ?_, fun d => ?_⟩
  · simpa using hs.modules_nodup d
  · simpa using hs.virtualUnit d
  · simpa using hs.listed d

/-- What is written for one component keeps the Set and the module in step, where it does so for
that component and leaves the others alone. -/
theorem of_component {p : ComponentPositions} (hs : InStep stakingModule s positions)
    (multiplier : s'.positionMultiplier = s.positionMultiplier) (tracked : p.Tracked)
    (modules_nodup : (s'.externalPositionModules c).Nodup)
    (virtualUnit : s'.externalPositionVirtualUnit c stakingModule * s.positionMultiplier =
      (p.total : ℤ) * preciseUnitInt)
    (listed : stakingModule ∈ s'.externalPositionModules c ↔ p.total ≠ 0)
    (others : ∀ d, d ≠ c → s'.externalPositionModules d = s.externalPositionModules d ∧
      s'.externalPositionVirtualUnit d stakingModule =
        s.externalPositionVirtualUnit d stakingModule) :
    InStep stakingModule s' (Function.update positions c p) := by
  refine ⟨multiplier ▸ hs.multiplier, fun d => ?_, fun d => ?_, fun d => ?_, fun d => ?_⟩
  all_goals rcases eq_or_ne d c with rfl | hd
  · rwa [Function.update_self]
  · rw [Function.update_of_ne hd]
    exact hs.tracked d
  · exact modules_nodup
  · rw [(others d hd).1]
    exact hs.modules_nodup d
  · rwa [Function.update_self, multiplier]
  · rw [Function.update_of_ne hd, multiplier, (others d hd).2]
    exact hs.virtualUnit d
  · rwa [Function.update_self]
  · rw [Function.update_of_ne hd, (others d hd).1]
    exact hs.listed d

/-- Writing the new sum of staked units, where it has a virtual unit, keeps the Set and the module
in step. -/
theorem editExternalPosition {p : ComponentPositions} {data : Bytes}
    (hs : InStep stakingModule s positions) (hp : p.Tracked)
    (whole : HasVirtualUnit s (p.total : ℤ))
    (h : Position.editExternalPosition m s c stakingModule (p.total : ℤ) data = .ok s') :
    InStep stakingModule s' (Function.update positions c p) := by
  have hmods := hs.modules_nodup c
  cases Position.editExternalPosition_cases hs.multiplier h with
  | opened nonzero l ms v listed owned rounded kept =>
    have hms : ms.Nodup ∧ stakingModule ∈ ms := by
      rcases owned with ⟨hmod, rfl⟩ | ⟨hmod, rfl⟩
      · exact ⟨hmods, hmod⟩
      · exact ⟨List.concat_eq_append ▸ hmods.concat hmod, by simp⟩
    refine hs.of_component rfl hp ?_ ?_ ?_ fun d hd => ⟨by simp [hd], by simp [hd]⟩
    · simpa using hms.1
    · rw [rounded]
      simpa using Int.ediv_mul_cancel whole
    · simpa [hms.2] using nonzero
  | closed zero reads l owned listed =>
    have hzero : p.total = 0 := by exact_mod_cast zero
    refine hs.of_component rfl hp ?_ ?_ ?_ fun d hd => ⟨by simp [hd], by simp [hd]⟩
    · simpa using SwapPop.nodup_swapPop hmods owned
    · simp [hzero]
    · simp [SwapPop.mem_swapPop hmods owned, hzero]
  | absent zero reads =>
    have hzero : p.total = 0 := by exact_mod_cast zero
    have hold : (positions c).total = 0 := by
      have hunit := hs.unit c
      rw [reads] at hunit
      exact_mod_cast hunit.symm
    refine hs.of_component rfl hp hmods ?_ ?_ fun d _ => ⟨rfl, rfl⟩
    · rw [hs.virtualUnit, hold, hzero]
    · rw [hs.listed, hold, hzero]

/-- Writing positions keeps the Set and the module in step where the sum that is written is the
new sum, and has a virtual unit. -/
theorem updatePositions {p : ComponentPositions} {newDefaultUnit : ℕ → Except Revert ℕ}
    {newExternalUnit : ℤ → Except Revert ℤ}
    (hs : InStep stakingModule (w.setTokens setToken) (w.stakingPositions setToken))
    (hp : p.Tracked)
    (hunit : ∀ x, newExternalUnit ((w.stakingPositions setToken c).total : ℤ) = .ok x →
      x = (p.total : ℤ))
    (whole : HasVirtualUnit (w.setTokens setToken) (p.total : ℤ))
    (h : StakingModule.updatePositions stakingModule w setToken c p newDefaultUnit
      newExternalUnit = .ok w') :
    InStep stakingModule (w'.setTokens setToken) (w'.stakingPositions setToken) := by
  obtain ⟨n, x, s₁, s₂, hdefault, hx, hexternal, rfl⟩ := updatePositions_spec h
  have hs₁ := hs.editDefaultPosition hdefault
  obtain rfl : x = (p.total : ℤ) := hunit x (hs₁.unit c ▸ hx)
  have hmul := Position.positionMultiplier_of_editDefaultPosition hs.multiplier hdefault
  have whole₁ : HasVirtualUnit s₁ (p.total : ℤ) := by
    rw [HasVirtualUnit, hmul]
    exact whole
  have hs₂ := hs₁.editExternalPosition hp whole₁ hexternal
  simpa [World.setSetToken, setStakingPositions] using hs₂

end InStep

/-! ## Steps -/

/-- The positions of a Set, on the Set and on the module. -/
def bothPositions (setToken : Address) (w : World) : SetToken × (Address → ComponentPositions) :=
  (w.setTokens setToken, w.stakingPositions setToken)

/-- Calls to other contracts keep the positions. -/
private theorem bothPositions_of_invoke (calls : CallsSpare setToken env) {sender target : Address}
    {value : ℕ} {data : CallData} {words : List ℕ}
    (h : w.invoke env sender setToken target value data = .ok (w', words)) :
    bothPositions setToken w' = bothPositions setToken w := by
  refine World.invoke_keeps (bothPositions setToken) (fun _ _ => rfl) (fun _ _ _ => rfl)
    (fun call w w' words hcall => ?_) h
  rw [bothPositions, calls.onSet call w w' words hcall, calls.onModule call w w' words hcall,
    bothPositions]

theorem bothPositions_of_invokeStake (calls : CallsSpare setToken env) {adapter : Address}
    {units quantity : ℕ}
    (h : invokeStake stakingModule env w setToken j c adapter units quantity = .ok w') :
    bothPositions setToken w' = bothPositions setToken w := by
  simp only [invokeStake, Invoke.invokeApprove, bind_eq_ok, pure_eq_ok, Prod.exists] at h
  obtain ⟨_, -, _, -, _, ⟨_, _, happrove, rfl⟩, _, _, _, -, _, _, hstake, rfl⟩ := h
  exact (bothPositions_of_invoke calls hstake).trans (bothPositions_of_invoke calls happrove)

theorem bothPositions_of_invokeUnstake (calls : CallsSpare setToken env) {adapter : Address}
    {units quantity : ℕ}
    (h : invokeUnstake stakingModule env w setToken j c adapter units quantity = .ok w') :
    bothPositions setToken w' = bothPositions setToken w := by
  simp only [invokeUnstake, bind_eq_ok, pure_eq_ok, Prod.exists] at h
  obtain ⟨_, -, _, _, _, -, _, _, hunstake, _, -, -, -, rfl⟩ := h
  exact bothPositions_of_invoke calls hunstake

/-- The positions of the component are written, with `delta` more units in sum than the Set has in
the module. -/
def Writes (stakingModule setToken c : Address) (delta : ℤ) (w w' : World) : Prop :=
  ∃ (p : ComponentPositions) (newDefaultUnit : ℕ → Except Revert ℕ)
    (newExternalUnit : ℤ → Except Revert ℤ), p.Tracked ∧
    (p.total : ℤ) = (w.setTokens setToken).externalRealUnit c stakingModule + delta ∧
    (∀ x, newExternalUnit ((w.stakingPositions setToken c).total : ℤ) = .ok x →
      x = (p.total : ℤ)) ∧
    StakingModule.updatePositions stakingModule w setToken c p newDefaultUnit newExternalUnit =
      .ok w'

namespace InStep

/-- Recording a stake. -/
theorem writes_of_updateStakeState {adapterName : String} {n : ℕ}
    (hw : InStep stakingModule (w.setTokens setToken) (w.stakingPositions setToken))
    (h : updateStakeState stakingModule env w setToken j c adapterName n = .ok w') :
    Writes stakingModule setToken c n w w' := by
  simp only [StakingModule.updateStakeState, bind_eq_ok] at h
  obtain ⟨p, hp, h⟩ := h
  obtain ⟨htracked, htotal, -⟩ := (hw.tracked c).addStake hp
  refine ⟨p, _, _, htracked, ?_, fun x hx => ?_, h⟩
  · rw [hw.unit c, htotal, Nat.cast_add]
  · simp only [bind_eq_ok, SafeCast.toInt256_eq_ok, SignedSafeMath.add_eq_ok] at hx
    obtain ⟨_, ⟨-, rfl⟩, -, rfl⟩ := hx
    rw [htotal, Nat.cast_add]

/-- Recording that less is staked. -/
theorem writes_of_updateUnstakeState {n : ℕ}
    (hw : InStep stakingModule (w.setTokens setToken) (w.stakingPositions setToken))
    (h : updateUnstakeState stakingModule w setToken j c n = .ok w') :
    Writes stakingModule setToken c (-n) w w' := by
  simp only [StakingModule.updateUnstakeState, bind_eq_ok] at h
  obtain ⟨p, hp, h⟩ := h
  obtain ⟨htracked, htotal, -⟩ := (hw.tracked c).removeStake hp
  have hsub : ((w.stakingPositions setToken c).total : ℤ) - n = (p.total : ℤ) := by
    rw [← htotal, Nat.cast_add, Int.add_sub_cancel]
  refine ⟨p, _, _, htracked, ?_, fun x hx => ?_, h⟩
  · rw [hw.unit c, ← hsub, Int.sub_eq_add_neg]
  · simp only [bind_eq_ok, SafeCast.toInt256_eq_ok, SignedSafeMath.sub_eq_ok] at hx
    obtain ⟨_, ⟨-, rfl⟩, -, rfl⟩ := hx
    exact hsub

/-- Writing a sum that has a virtual unit keeps the Set and the module in step. -/
theorem of_writes {delta : ℤ}
    (hw : InStep stakingModule (w.setTokens setToken) (w.stakingPositions setToken))
    (hwrites : Writes stakingModule setToken c delta w w')
    (whole : HasVirtualUnit (w.setTokens setToken)
      ((w.setTokens setToken).externalRealUnit c stakingModule + delta)) :
    InStep stakingModule (w'.setTokens setToken) (w'.stakingPositions setToken) := by
  obtain ⟨p, _, _, htracked, htotal, hunit, h⟩ := hwrites
  exact hw.updatePositions htracked hunit (htotal ▸ whole) h

/-- Only such a sum reads back from the Set. -/
theorem hasVirtualUnit_of_agrees {delta : ℤ}
    (hw : InStep stakingModule (w.setTokens setToken) (w.stakingPositions setToken))
    (hwrites : Writes stakingModule setToken c delta w w')
    (hagrees : Agrees stakingModule setToken w' c) :
    HasVirtualUnit (w.setTokens setToken)
      ((w.setTokens setToken).externalRealUnit c stakingModule + delta) := by
  obtain ⟨p, _, _, htracked, htotal, hunit, h⟩ := hwrites
  obtain ⟨n, x, s₁, s₂, hdefault, hx, hexternal, rfl⟩ := updatePositions_spec h
  have hs₁ := hw.editDefaultPosition hdefault
  obtain rfl : x = (p.total : ℤ) := hunit x (hs₁.unit c ▸ hx)
  have hmul := Position.positionMultiplier_of_editDefaultPosition hw.multiplier hdefault
  have hread : s₂.externalRealUnit c stakingModule = (p.total : ℤ) := by
    simpa [World.setSetToken, setStakingPositions] using hagrees.read
  have hwritten := Position.externalRealUnit_eq_of_editExternalPosition hs₁.multiplier hexternal
  have hwhole := (hasVirtualUnit_iff hs₁.multiplier).mpr (hwritten.symm.trans hread)
  rw [HasVirtualUnit, hmul] at hwhole
  rw [← htotal]
  exact hwhole

/-- Staking writes the positions after the calls to the contract. -/
theorem exists_writes_of_stake (calls : CallsSpare setToken env) {msgSender : Address}
    {adapterName : String} {n : ℕ}
    (hw : InStep stakingModule (w.setTokens setToken) (w.stakingPositions setToken))
    (h : stake stakingModule env w msgSender setToken j c adapterName n = .ok w') :
    ∃ w₁, bothPositions setToken w₁ = bothPositions setToken w ∧
      Writes stakingModule setToken c n w₁ w' := by
  simp only [StakingModule.stake, bind_eq_ok] at h
  obtain ⟨-, -, _, -, -, -, _, -, w₁, hinvoke, h⟩ := h
  have hsame := bothPositions_of_invokeStake calls hinvoke
  obtain ⟨hset, hpos⟩ := Prod.mk.inj hsame
  rw [← hset, ← hpos] at hw
  exact ⟨w₁, hsame, hw.writes_of_updateStakeState h⟩

/-- So does unstaking. -/
theorem exists_writes_of_unstake (calls : CallsSpare setToken env) {msgSender : Address}
    {adapterName : String} {n : ℕ}
    (hw : InStep stakingModule (w.setTokens setToken) (w.stakingPositions setToken))
    (h : unstake stakingModule env w msgSender setToken j c adapterName n = .ok w') :
    ∃ w₁, bothPositions setToken w₁ = bothPositions setToken w ∧
      Writes stakingModule setToken c (-n) w₁ w' := by
  simp only [StakingModule.unstake, bind_eq_ok] at h
  obtain ⟨-, -, -, -, _, -, w₁, hinvoke, h⟩ := h
  have hsame := bothPositions_of_invokeUnstake calls hinvoke
  obtain ⟨hset, hpos⟩ := Prod.mk.inj hsame
  rw [← hset, ← hpos] at hw
  exact ⟨w₁, hsame, hw.writes_of_updateUnstakeState h⟩

/-- After such a step the Set and the module are in step, or they do not agree on the component:
which of the two, the sum that is written decides. -/
theorem inStep_or_of_writes {delta : ℤ}
    (hw : InStep stakingModule (w.setTokens setToken) (w.stakingPositions setToken))
    (hwrites : ∃ w₁, bothPositions setToken w₁ = bothPositions setToken w ∧
      Writes stakingModule setToken c delta w₁ w') :
    (HasVirtualUnit (w.setTokens setToken)
        ((w.setTokens setToken).externalRealUnit c stakingModule + delta) →
      InStep stakingModule (w'.setTokens setToken) (w'.stakingPositions setToken)) ∧
    (Agrees stakingModule setToken w' c → HasVirtualUnit (w.setTokens setToken)
      ((w.setTokens setToken).externalRealUnit c stakingModule + delta)) := by
  obtain ⟨w₁, hsame, hwrites⟩ := hwrites
  obtain ⟨hset, hpos⟩ := Prod.mk.inj hsame
  rw [← hset, ← hpos] at hw
  rw [← hset]
  exact ⟨hw.of_writes hwrites, hw.hasVirtualUnit_of_agrees hwrites⟩

/-- Accrual keeps the Set and the module in step where there is no fee, or nothing is staked. -/
theorem accrueFee
    (hw : InStep stakingModule (w.setTokens setToken) (w.stakingPositions setToken))
    (kept : KeepsUnits stakingModule setToken .accrueFee w)
    (h : StreamingFeeModule.accrueFee feeModule w setToken = .ok w') :
    InStep stakingModule (w'.setTokens setToken) (w'.stakingPositions setToken) := by
  have hw' := StreamingFeeModule.accrueFee_spec hw.multiplier h
  rw [hw'.scaled, hw'.stakingPositions]
  refine ⟨hw'.multiplier_pos, hw.tracked, hw.modules_nodup, fun c => ?_, hw.listed⟩
  have hunit := hw.virtualUnit c
  rcases Nat.eq_zero_or_pos (StreamingFeeModule.streamingFee w setToken) with hfee | hfee
  · rw [StreamingFeeModule.scaledMultiplier_of_fee_eq_zero hfee]
    exact hunit
  · -- nothing is staked, so there is no virtual unit to scale
    rw [kept hfee c, Nat.cast_zero, Int.zero_mul] at hunit ⊢
    have hzero := (Int.mul_eq_zero.mp hunit).resolve_right hw.multiplier.ne'
    change (w.setTokens setToken).externalPositionVirtualUnit c stakingModule * _ = 0
    rw [hzero, Int.zero_mul]

/-- A fee that accrues while something is staked makes the unit on the Set read less. -/
theorem keepsUnits_of_accrueFee
    (hw : InStep stakingModule (w.setTokens setToken) (w.stakingPositions setToken))
    (h : StreamingFeeModule.accrueFee feeModule w setToken = .ok w')
    (hagrees : ∀ c, Agrees stakingModule setToken w' c) :
    KeepsUnits stakingModule setToken .accrueFee w := by
  have hw' := StreamingFeeModule.accrueFee_spec hw.multiplier h
  intro hfee c
  by_contra hstaked
  have htotal : (0 : ℤ) < (w.stakingPositions setToken c).total := by omega
  have hunit := hw.virtualUnit c
  have hvirtual : 0 < (w.setTokens setToken).externalPositionVirtualUnit c stakingModule := by
    refine pos_of_mul_pos_left ?_ hw.multiplier.le
    rw [hunit]
    exact Int.mul_pos htotal preciseUnitInt_pos
  have hlow : (w.setTokens setToken).externalPositionVirtualUnit c stakingModule *
      StreamingFeeModule.scaledMultiplier w setToken <
        ((w.stakingPositions setToken c).total : ℤ) * preciseUnitInt := by
    rw [← hunit]
    exact Int.mul_lt_mul_of_pos_left
      (StreamingFeeModule.scaledMultiplier_lt hw.multiplier hfee) hvirtual
  have hread : (w'.setTokens setToken).externalRealUnit c stakingModule =
      ((w.stakingPositions setToken c).total : ℤ) := by
    rw [(hagrees c).read, hw'.stakingPositions]
  rw [hw'.scaled] at hread
  exact absurd hread (Int.ediv_lt_of_lt_mul preciseUnitInt_pos hlow).ne

/-- Every action that keeps units keeps the Set and the module in step. -/
theorem step (calls : CallsSpare setToken env) {a : Action}
    (hw : InStep stakingModule (w.setTokens setToken) (w.stakingPositions setToken))
    (kept : KeepsUnits stakingModule setToken a w)
    (h : StakingUnits.step stakingModule feeModule setToken env a w = .ok w') :
    InStep stakingModule (w'.setTokens setToken) (w'.stakingPositions setToken) := by
  cases a with
  | stake msgSender stakeContract component adapterName units =>
    exact (hw.inStep_or_of_writes (hw.exists_writes_of_stake calls h)).1 kept
  | unstake msgSender stakeContract component adapterName units =>
    exact (hw.inStep_or_of_writes (hw.exists_writes_of_unstake calls h)).1 kept
  | accrueFee => exact hw.accrueFee kept h
  | other rest =>
    obtain rfl := Except.ok.inj h
    simpa using hw

/-- From a state where the Set and the module are in step, an action leaves them in agreement
exactly when it keeps units. -/
theorem agrees_iff_keepsUnits (calls : CallsSpare setToken env) {a : Action}
    (hw : InStep stakingModule (w.setTokens setToken) (w.stakingPositions setToken))
    (h : StakingUnits.step stakingModule feeModule setToken env a w = .ok w') :
    (∀ c, Agrees stakingModule setToken w' c) ↔ KeepsUnits stakingModule setToken a w := by
  refine ⟨fun hagrees => ?_, fun kept => (hw.step calls kept h).agrees⟩
  cases a with
  | stake msgSender stakeContract component adapterName units =>
    exact (hw.inStep_or_of_writes (hw.exists_writes_of_stake calls h)).2 (hagrees component)
  | unstake msgSender stakeContract component adapterName units =>
    exact (hw.inStep_or_of_writes (hw.exists_writes_of_unstake calls h)).2 (hagrees component)
  | accrueFee => exact hw.keepsUnits_of_accrueFee h hagrees
  | other rest => trivial

end InStep

/-! ## Runs -/

/-- **Units on both sides**: after any run from a state where nothing is staked, of actions that
keep units, the Set and the module agree on every component; and the next action leaves them in
agreement exactly when it keeps units too. -/
theorem units_of_run {w₀ : World} (calls : CallsSpare setToken env)
    (initial : NothingStaked stakingModule (w₀.setTokens setToken) (w₀.stakingPositions setToken))
    (reached : ReachWhen (step stakingModule feeModule setToken env)
      (KeepsUnits stakingModule setToken) w₀ w) :
    (∀ c, Agrees stakingModule setToken w c) ∧
      ∀ a w', step stakingModule feeModule setToken env a w = .ok w' →
        ((∀ c, Agrees stakingModule setToken w' c) ↔ KeepsUnits stakingModule setToken a w) := by
  have hw := reached.invariant
    (fun w => InStep stakingModule (w.setTokens setToken) (w.stakingPositions setToken))
    (fun a t t' ht met stepped => ht.step calls met stepped) initial.inStep
  exact ⟨hw.agrees, fun a w' h => hw.agrees_iff_keepsUnits calls h⟩

/-- A staking contract for the token `11`, as the contracts outside the protocol: it keeps what each
account has deposited. -/
def stakingGauge : Env where
  call call w :=
    let staked := w.storage call.target call.caller.toNat
    match call.data with
    | .depositAmount amount => do
      let w ← w.editToken 11 fun t =>
        t.transferFrom call.target call.caller call.target amount
      return (w.store call.target call.caller.toNat (staked + amount), [])
    | .withdraw amount => do
      require (amount ≤ staked) "SafeMath: subtraction overflow"
      let w ← w.editToken 11 fun t => t.transfer call.target call.caller amount
      return (w.store call.target call.caller.toNat (staked - amount), [])
    | _ => .error "unknown function"

private theorem callsSpare_gauge : CallsSpare setToken stakingGauge := by
  have hboth : ∀ call w w' words, stakingGauge.call call w = .ok (w', words) →
      bothPositions setToken w' = bothPositions setToken w := by
    intro call w w' words h
    simp only [stakingGauge] at h
    split at h
    · simp only [bind_eq_ok, World.editToken_eq_ok, pure_eq_ok, Prod.mk.injEq] at h
      obtain ⟨_, ⟨_, -, rfl⟩, rfl, -⟩ := h
      rfl
    · simp only [bind_eq_ok, World.editToken_eq_ok, pure_eq_ok, Prod.mk.injEq] at h
      obtain ⟨-, -, _, ⟨_, -, rfl⟩, rfl, -⟩ := h
      rfl
    · exact absurd h (by simp)
  exact ⟨fun call w w' words h => (Prod.mk.inj (hboth call w w' words h)).1,
    fun call w w' words h => (Prod.mk.inj (hboth call w w' words h)).2⟩

/-- A Set at `100` of one token `11`, managed by `3`, with the fee module `4` and the staking module
`5`, of which there are two. A year has passed since the fee was last accrued. -/
def exampleWorld (streamingFeePercentage : ℕ) : World :=
  { controller := { isSet := fun a => a = 100, isModule := fun a => a = 4 ∨ a = 5 }
    integrations := fun _ _ => 200
    tokens := fun a =>
      if a = 11 then { balances := fun b => if b = 100 then 2 * 10 ^ 18 else 0 }
      else { balances := fun b => if b = 50 then 2 * 10 ^ 18 else 0, totalSupply := 2 * 10 ^ 18 }
    setTokens := fun _ =>
      { manager := 3
        moduleStates := fun _ => .initialized
        components := [11]
        componentPositions := fun c => if c = 11 then { virtualUnit := 10 ^ 18 } else {} }
    feeStates := fun _ =>
      { feeRecipient := 61
        maxStreamingFeePercentage := 10 ^ 17
        streamingFeePercentage := streamingFeePercentage }
    timestamp := StreamingFeeModule.oneYearInSeconds }

theorem nothingStaked_exampleWorld (fee : ℕ) :
    NothingStaked 5 ((exampleWorld fee).setTokens 100)
      ((exampleWorld fee).stakingPositions 100) := by
  have hpos : ∀ c, ((exampleWorld fee).setTokens 100).externalPositionModules c = [] ∧
      ((exampleWorld fee).setTokens 100).externalPositionVirtualUnit c 5 = 0 := by
    intro c
    have hposition : ((exampleWorld fee).setTokens 100).componentPositions c =
      if c = 11 then { virtualUnit := 10 ^ 18 } else {} := rfl
    simp only [SetToken.externalPositionModules, SetToken.externalPositionVirtualUnit, hposition]
    split <;> exact ⟨rfl, rfl⟩
  refine ⟨preciseUnitInt_pos, fun c => ?_, fun _ => rfl, fun c => ?_, fun c => (hpos c).2⟩
  · rw [(hpos c).1]
    exact List.nodup_nil
  · rw [(hpos c).1]
    exact List.not_mem_nil

/-- Half of each token is staked, no fee accrues, and a part is unstaked. -/
theorem units_of_run_example :
    ∃ w₁ w₂ w₃, step 5 4 100 stakingGauge (.stake 3 300 11 "gauge" (5 * 10 ^ 17)) (exampleWorld 0) =
        .ok w₁ ∧
      step 5 4 100 stakingGauge .accrueFee w₁ = .ok w₂ ∧
      step 5 4 100 stakingGauge (.unstake 3 300 11 "gauge" (2 * 10 ^ 17)) w₂ = .ok w₃ ∧
      Agrees 5 100 w₃ 11 := by
  obtain ⟨w₁, h₁, h⟩ := exists_of_yields
    (x := step 5 4 100 stakingGauge (.stake 3 300 11 "gauge" (5 * 10 ^ 17)) (exampleWorld 0))
    (p := fun w₁ => decide (StreamingFeeModule.streamingFee w₁ 100 = 0) &&
      yields (step 5 4 100 stakingGauge .accrueFee w₁) fun w₂ =>
        decide (HasVirtualUnit (w₂.setTokens 100)
          ((w₂.setTokens 100).externalRealUnit 11 5 - (2 * 10 ^ 17 : ℕ))) &&
        yields (step 5 4 100 stakingGauge (.unstake 3 300 11 "gauge" (2 * 10 ^ 17)) w₂)
          fun _ => true)
    (by decide +kernel)
  simp only [Bool.and_eq_true, decide_eq_true_eq] at h
  obtain ⟨hfee, h⟩ := h
  obtain ⟨w₂, h₂, h⟩ := exists_of_yields h
  simp only [Bool.and_eq_true, decide_eq_true_eq] at h
  obtain ⟨hwhole, h⟩ := h
  obtain ⟨w₃, h₃, -⟩ := exists_of_yields h
  have hstake : KeepsUnits 5 100 (.stake 3 300 11 "gauge" (5 * 10 ^ 17)) (exampleWorld 0) := by
    change HasVirtualUnit _ _
    decide +kernel
  have haccrue : KeepsUnits 5 100 .accrueFee w₁ := fun hpos => absurd hfee hpos.ne'
  have hunstake : KeepsUnits 5 100 (.unstake 3 300 11 "gauge" (2 * 10 ^ 17)) w₂ := hwhole
  have hreached := ((ReachWhen.start.next _ hstake h₁).next _ haccrue h₂).next _ hunstake h₃
  exact ⟨w₁, w₂, w₃, h₁, h₂, h₃,
    (units_of_run callsSpare_gauge (nothingStaked_exampleWorld 0) hreached).1 11⟩

/-- Half of each token is staked, and a fee of one percent accrues. The module still has half a
token by Set, and the Set one percent less. -/
theorem accrueFee_loses_step :
    ∃ w, NothingStaked 5 ((exampleWorld (10 ^ 16)).setTokens 100)
        ((exampleWorld (10 ^ 16)).stakingPositions 100) ∧
      CallsSpare 100 stakingGauge ∧ Reach (step 5 4 100 stakingGauge) (exampleWorld (10 ^ 16)) w ∧
      (w.setTokens 100).externalRealUnit 11 5 ≠
        (((getStakingContracts w 100 11).map (getStakingPositionUnit w 100 11)).sum : ℕ) := by
  obtain ⟨w, hrun, h⟩ := exists_of_yields
    (x := runAll (step 5 4 100 stakingGauge) [.stake 3 300 11 "gauge" (5 * 10 ^ 17), .accrueFee]
      (exampleWorld (10 ^ 16)))
    (p := fun w => (w.setTokens 100).externalRealUnit 11 5 ≠
      (((getStakingContracts w 100 11).map (getStakingPositionUnit w 100 11)).sum : ℕ))
    (by decide +kernel)
  exact ⟨w, nothingStaked_exampleWorld (10 ^ 16), callsSpare_gauge, reach_of_runAll hrun,
    of_decide_eq_true h⟩

end StakingUnits

end SetProtocol
