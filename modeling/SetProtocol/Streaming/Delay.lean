import SetProtocol.Lib.Transition
import SetProtocol.Streaming.Accrual

set_option relaxedAutoImplicit false
set_option autoImplicit false

/-!
# Streaming fees that nobody accrues

The settings keep the rate of a year below `100%`, but the share that accrues grows with the time
since the last accrual. Once it reaches the whole Set, the subtraction or the division by what is
left of it reverts, and then so does every later accrual, since none moves the time of the last one.

## Main definitions

* `SetProtocol.StreamingDelay.Action` — a call of the module, or what happens elsewhere.
* `SetProtocol.StreamingDelay.feeArithmetic` — what accrual computes, without its effects.
* `SetProtocol.StreamingDelay.Timely` — the share that accrued is less than the whole Set.
* `SetProtocol.StreamingDelay.AcceptsAccrual` — what an accrual needs besides.

## Main results

* `SetProtocol.StreamingDelay.accrueFee_iff_feeArithmetic` — besides its arithmetic, an accrual
  needs the SetToken to accept the new Sets and the new multiplier.
* `SetProtocol.StreamingDelay.updateStreamingFee_iff_accrueFee` — an update of the rate needs an
  accrual, the manager and a rate below the highest one.
* `SetProtocol.StreamingDelay.feeArithmetic_iff_timely_of_run` — in every state reached, at every
  later time, the arithmetic succeeds exactly when the accrual is timely.
* `SetProtocol.StreamingDelay.stuck_of_run` — an accrual that is not timely stays so until the
  module is removed.
-/

namespace SetProtocol

namespace StreamingDelay

open Checked StreamingFeeModule Transition

variable {self setToken : Address} {w w' : World}

/-! ## The arithmetic of an accrual -/

/-- The share, the quantity to mint and the new multiplier, as `accrueFee` computes them. -/
def feeArithmetic (w : World) (setToken : Address) : Except Revert (ℕ × ℕ × ℤ) := do
  let inflationFeePercentage ← calculateStreamingFee w setToken
  let feeQuantity ← calculateStreamingFeeInflation w setToken inflationFeePercentage
  let factor ← SafeCast.toInt256 (← SafeMath.sub preciseUnit inflationFeePercentage)
  let newMultiplier ←
    PreciseUnitMath.preciseMulInt (w.setTokens setToken).positionMultiplier factor
  return (inflationFeePercentage, feeQuantity, newMultiplier)

/-- The SetToken mints the quantity and accepts the multiplier. -/
def SetAccepts (self : Address) (w : World) (setToken : Address) (feeQuantity : ℕ)
    (newMultiplier : ℤ) : Prop :=
  ∃ w₁ w₂, mintManagerAndProtocolFee self w setToken feeQuantity = .ok w₁ ∧
    w₁.editSetToken self setToken (fun m s => s.editPositionMultiplier m newMultiplier) = .ok w₂

/-- The share that accrued since the last accrual is less than the whole Set. -/
def Timely (w : World) (setToken : Address) : Prop :=
  (w.timestamp - (w.feeStates setToken).lastStreamingFeeTimestamp) *
    (w.feeStates setToken).streamingFeePercentage < preciseUnit * oneYearInSeconds

instance (w : World) (setToken : Address) : Decidable (Timely w setToken) :=
  inferInstanceAs (Decidable (_ < _))

/-- The products of the arithmetic fit their types. -/
structure WithinLimits (w : World) (setToken : Address) : Prop where
  /-- The time since the last accrual times the rate. -/
  accrued : InUint256
    ((w.timestamp - (w.feeStates setToken).lastStreamingFeeTimestamp) *
      (w.feeStates setToken).streamingFeePercentage)
  /-- The share times the supply. -/
  inflated : InUint256 (streamingFee w setToken * w.totalSupply setToken)
  /-- The multiplier in precise units. -/
  multiplied : InInt256 ((w.setTokens setToken).positionMultiplier * preciseUnitInt)

instance (w : World) (setToken : Address) : Decidable (WithinLimits w setToken) :=
  decidable_of_iff
    (InUint256 ((w.timestamp - (w.feeStates setToken).lastStreamingFeeTimestamp) *
        (w.feeStates setToken).streamingFeePercentage) ∧
      InUint256 (streamingFee w setToken * w.totalSupply setToken) ∧
      InInt256 ((w.setTokens setToken).positionMultiplier * preciseUnitInt))
    ⟨fun h => ⟨h.1, h.2.1, h.2.2⟩, fun h => ⟨h.accrued, h.inflated, h.multiplied⟩⟩

/-- The share is less than the whole Set when the accrual is timely. -/
theorem streamingFee_lt_iff : streamingFee w setToken < preciseUnit ↔ Timely w setToken :=
  Nat.div_lt_iff_lt_mul (by decide)

/-- What a successful computation passed on its way. -/
theorem feeArithmetic_eq_ok {numbers : ℕ × ℕ × ℤ} :
    feeArithmetic w setToken = .ok numbers ↔
      (w.feeStates setToken).lastStreamingFeeTimestamp ≤ w.timestamp ∧
      InUint256 ((w.timestamp - (w.feeStates setToken).lastStreamingFeeTimestamp) *
        (w.feeStates setToken).streamingFeePercentage) ∧
      InUint256 (streamingFee w setToken * w.totalSupply setToken) ∧
      streamingFee w setToken < preciseUnit ∧
      InInt256 ((w.setTokens setToken).positionMultiplier *
        ((preciseUnit - streamingFee w setToken : ℕ) : ℤ)) ∧
      (streamingFee w setToken, inflation w setToken,
        ((w.setTokens setToken).positionMultiplier *
          ((preciseUnit - streamingFee w setToken : ℕ) : ℤ)).tdiv preciseUnitInt) = numbers := by
  simp only [feeArithmetic, calculateStreamingFee, calculateStreamingFeeInflation, bind_eq_ok,
    pure_eq_ok, SafeMath.sub_eq_ok, SafeMath.mul_eq_ok, SafeMath.div_eq_ok, SafeCast.toInt256_eq_ok,
    PreciseUnitMath.preciseMulInt, SignedSafeMath.mul_eq_ok, SignedSafeMath.div_eq_ok]
  constructor
  · rintro ⟨_, ⟨_, ⟨hlast, rfl⟩, _, ⟨haccrued, rfl⟩, -, rfl⟩, _,
      ⟨_, ⟨hinflated, rfl⟩, _, ⟨-, rfl⟩, hlt, rfl⟩, _, ⟨-, rfl⟩, _, ⟨-, rfl⟩, _,
      ⟨_, ⟨hmul, rfl⟩, -, -, rfl⟩, rfl⟩
    exact ⟨hlast, haccrued, hinflated, Nat.lt_of_sub_pos hlt, hmul, rfl⟩
  · rintro ⟨hlast, haccrued, hinflated, hlt, hmul, rfl⟩
    have hfit : preciseUnit - streamingFee w setToken < 2 ^ 255 :=
      Nat.lt_of_le_of_lt (Nat.sub_le _ _) (by decide)
    exact ⟨_, ⟨_, ⟨hlast, rfl⟩, _, ⟨haccrued, rfl⟩, by decide, rfl⟩, _,
      ⟨_, ⟨hinflated, rfl⟩, _, ⟨hlt.le, rfl⟩, Nat.sub_pos_of_lt hlt, rfl⟩,
      _, ⟨hlt.le, rfl⟩, _, ⟨hfit, rfl⟩, _,
      ⟨_, ⟨hmul, rfl⟩, preciseUnitInt_pos.ne', fun h => absurd h.1 (by decide), rfl⟩, rfl⟩

/-- Within the limits of the types the arithmetic succeeds exactly when the accrual is timely. -/
theorem feeArithmetic_iff_timely (limits : WithinLimits w setToken)
    (hlast : (w.feeStates setToken).lastStreamingFeeTimestamp ≤ w.timestamp) :
    (∃ numbers, feeArithmetic w setToken = .ok numbers) ↔ Timely w setToken := by
  rw [← streamingFee_lt_iff]
  constructor
  · rintro ⟨numbers, h⟩
    exact (feeArithmetic_eq_ok.mp h).2.2.2.1
  · intro hlt
    refine ⟨_, feeArithmetic_eq_ok.mpr ⟨hlast, limits.accrued, limits.inflated, hlt, ?_, rfl⟩⟩
    -- a factor of at most one keeps the product in range
    rw [Nat.cast_sub hlt.le, natCast_preciseUnit]
    obtain ⟨hmin, hmax⟩ := limits.multiplied
    have hfee : (0 : ℤ) ≤ streamingFee w setToken := Int.natCast_nonneg _
    have hfee' : (streamingFee w setToken : ℤ) ≤ preciseUnitInt := by
      rw [← natCast_preciseUnit]
      exact_mod_cast hlt.le
    unfold minInt256 at hmin
    unfold maxInt256 at hmax
    rcases le_or_gt 0 (w.setTokens setToken).positionMultiplier with hm | hm
    · constructor
      · unfold minInt256
        nlinarith
      · unfold maxInt256
        nlinarith
    · constructor
      · unfold minInt256
        nlinarith
      · unfold maxInt256
        nlinarith

/-- Minting for the fee leaves the Set, the fee states and the time as they are. -/
private theorem mintManagerAndProtocolFee_frame {quantity : ℕ}
    (h : mintManagerAndProtocolFee self w setToken quantity = .ok w') :
    w'.setTokens = w.setTokens ∧ w'.feeStates = w.feeStates ∧ w'.timestamp = w.timestamp := by
  simp only [mintManagerAndProtocolFee, bind_eq_ok] at h
  obtain ⟨_, -, _, -, w₁, hmanager, h⟩ := h
  obtain ⟨-, rfl⟩ := World.mint_spec hmanager
  split_ifs at h
  · obtain ⟨-, rfl⟩ := World.mint_spec h
    exact ⟨rfl, rfl, rfl⟩
  · obtain rfl := Except.ok.inj h
    exact ⟨rfl, rfl, rfl⟩

/-- An accrual of a rate succeeds when its arithmetic does and the SetToken accepts its numbers. -/
theorem accrueFee_iff_feeArithmetic (hrate : 0 < (w.feeStates setToken).streamingFeePercentage) :
    (∃ w', accrueFee self w setToken = .ok w') ↔
      ModuleBase.isSetValidAndInitialized self w setToken = true ∧
      ∃ fee quantity multiplier, feeArithmetic w setToken = .ok (fee, quantity, multiplier) ∧
        SetAccepts self w setToken quantity multiplier := by
  simp only [accrueFee, hrate, if_true, bind_eq_ok, pure_eq_ok, feeArithmetic, Prod.mk.injEq,
    ModuleBase.onlyValidAndInitializedSet, require_eq_ok, editPositionMultiplier, SetAccepts]
  constructor
  · rintro ⟨_, -, hvalid, w₂, ⟨fee, hfee, quantity, hquantity, w₁, hmint, left, hleft, factor,
      hfactor, multiplier, hmultiplier, hedit⟩, rfl⟩
    rw [(mintManagerAndProtocolFee_frame hmint).1] at hmultiplier
    exact ⟨hvalid, fee, quantity, multiplier, ⟨fee, hfee, quantity, hquantity, left, hleft, factor,
      hfactor, multiplier, hmultiplier, rfl, rfl, rfl⟩, w₁, w₂, hmint, hedit⟩
  · rintro ⟨hvalid, _, _, _, ⟨fee, hfee, quantity, hquantity, left, hleft, factor, hfactor,
      multiplier, hmultiplier, rfl, rfl, rfl⟩, w₁, w₂, hmint, hedit⟩
    rw [← (mintManagerAndProtocolFee_frame hmint).1] at hmultiplier
    exact ⟨_, (), hvalid, w₂, ⟨fee, hfee, quantity, hquantity, w₁, hmint, left, hleft, factor,
      hfactor, multiplier, hmultiplier, hedit⟩, rfl⟩

/-- The multiplier that the arithmetic comes to. -/
def newMultiplier (w : World) (setToken : Address) : ℤ :=
  ((w.setTokens setToken).positionMultiplier *
    ((preciseUnit - streamingFee w setToken : ℕ) : ℤ)).tdiv preciseUnitInt

/-- What an accrual needs besides its arithmetic: the Set uses the module, and where there is a
rate, the inflation can be split and minted and the SetToken accepts the new multiplier. -/
def AcceptsAccrual (self : Address) (w : World) (setToken : Address) : Prop :=
  ModuleBase.isSetValidAndInitialized self w setToken = true ∧
    (0 < (w.feeStates setToken).streamingFeePercentage →
      SetAccepts self w setToken (inflation w setToken) (newMultiplier w setToken))

/-- A timely accrual succeeds when the rest accepts it. -/
theorem accrueFee_iff_accepts (limits : WithinLimits w setToken)
    (hlast : (w.feeStates setToken).lastStreamingFeeTimestamp ≤ w.timestamp)
    (htimely : Timely w setToken) :
    (∃ w', accrueFee self w setToken = .ok w') ↔ AcceptsAccrual self w setToken := by
  unfold AcceptsAccrual
  rcases Nat.eq_zero_or_pos (w.feeStates setToken).streamingFeePercentage with hrate | hrate
  · simp [accrueFee, hrate, ModuleBase.onlyValidAndInitializedSet]
  · obtain ⟨_, hnumbers⟩ := (feeArithmetic_iff_timely limits hlast).mpr htimely
    obtain ⟨-, -, -, -, -, rfl⟩ := feeArithmetic_eq_ok.mp hnumbers
    rw [accrueFee_iff_feeArithmetic hrate]
    refine and_congr_right fun _ => ⟨?_, fun haccepts => ⟨_, _, _, hnumbers, haccepts hrate⟩⟩
    rintro ⟨_, _, _, hsame, haccepts⟩ -
    obtain ⟨-, rfl, rfl⟩ : _ ∧ _ ∧ _ := by simpa using hnumbers.symm.trans hsame
    exact haccepts

/-- An update of the rate succeeds for the manager, below the highest rate, when the accrual
does. -/
theorem updateStreamingFee_iff_accrueFee {msgSender : Address} {newFee : ℕ} :
    (∃ w', updateStreamingFee self w msgSender setToken newFee = .ok w') ↔
      (w.setTokens setToken).manager = msgSender ∧
      newFee < (w.feeStates setToken).maxStreamingFeePercentage ∧
      ∃ w', accrueFee self w setToken = .ok w' := by
  simp only [updateStreamingFee, ModuleBase.onlySetManager, bind_eq_ok, pure_eq_ok, require_eq_ok]
  constructor
  · rintro ⟨_, -, hmanager, -, -, -, hfee, w₁, haccrue, -⟩
    exact ⟨hmanager, hfee, w₁, haccrue⟩
  · rintro ⟨hmanager, hfee, w₁, haccrue⟩
    have hcalled := haccrue
    simp only [accrueFee, bind_eq_ok] at hcalled
    obtain ⟨⟨⟩, hvalid, -⟩ := hcalled
    exact ⟨_, (), hmanager, (), hvalid, (), hfee, w₁, haccrue, rfl⟩

/-- An accrual that is not timely reverts. -/
theorem timely_of_accrueFee (h : accrueFee self w setToken = .ok w') : Timely w setToken := by
  rcases Nat.eq_zero_or_pos (w.feeStates setToken).streamingFeePercentage with hrate | hrate
  · rw [Timely, hrate, Nat.mul_zero]
    decide
  · obtain ⟨-, _, _, _, hnumbers, -⟩ := (accrueFee_iff_feeArithmetic hrate).mp ⟨w', h⟩
    exact streamingFee_lt_iff.mp (feeArithmetic_eq_ok.mp hnumbers).2.2.2.1

/-- A rate is not updated without an accrual. -/
theorem timely_of_updateStreamingFee {msgSender : Address} {newFee : ℕ}
    (h : updateStreamingFee self w msgSender setToken newFee = .ok w') : Timely w setToken := by
  simp only [updateStreamingFee, bind_eq_ok] at h
  obtain ⟨-, -, -, -, -, -, _, haccrue, -⟩ := h
  exact timely_of_accrueFee haccrue

/-! ## Runs -/

/-- A call of the module, or anything that happens elsewhere. -/
inductive Action
  /-- The manager configures and initializes the module. -/
  | initializeModule (msgSender setToken : Address) (settings : FeeState)
  /-- Anyone accrues the fee. -/
  | accrueFee (setToken : Address)
  /-- The manager updates the rate. -/
  | updateStreamingFee (msgSender setToken : Address) (newFee : ℕ)
  /-- The manager updates the recipient. -/
  | updateFeeRecipient (msgSender setToken newFeeRecipient : Address)
  /-- A SetToken removes the module. -/
  | removeModule (msgSender : Address)
  /-- Time passes, and the other contracts do what they like. -/
  | elsewhere (w' : World)

/-- What happens elsewhere leaves the fee states alone, and time does not go back. -/
def elsewhere (w w' : World) : World :=
  { w' with feeStates := w.feeStates, timestamp := max w.timestamp w'.timestamp }

/-- A step of the system. -/
def step (self : Address) : Action → World → Except Revert World
  | .initializeModule msgSender setToken settings, w =>
    initializeModule self w msgSender setToken settings
  | .accrueFee setToken, w => accrueFee self w setToken
  | .updateStreamingFee msgSender setToken newFee, w =>
    updateStreamingFee self w msgSender setToken newFee
  | .updateFeeRecipient msgSender setToken newFeeRecipient, w =>
    updateFeeRecipient self w msgSender setToken newFeeRecipient
  | .removeModule msgSender, w => .ok (removeModule w msgSender)
  | .elsewhere w', w => .ok (elsewhere w w')

/-- What the fee state of a Set keeps to at a time. -/
structure Kept (now : ℕ) (state : FeeState) : Prop where
  /-- The last accrual is not in the future. -/
  last_le : state.lastStreamingFeeTimestamp ≤ now
  /-- The rate is at most the highest one. -/
  rate_le : state.streamingFeePercentage ≤ state.maxStreamingFeePercentage
  /-- The highest rate is less than the whole Set. -/
  max_lt : state.maxStreamingFeePercentage < preciseUnit

/-- The fee state of a Set that does not use the module keeps to it. -/
theorem Kept.default (now : ℕ) : Kept now {} :=
  ⟨Nat.zero_le now, Nat.le_refl 0, preciseUnit_pos⟩

/-- Writing the time of an accrual keeps to it. -/
theorem Kept.accrued {now : ℕ} {state : FeeState} (h : Kept now state) :
    Kept now { state with lastStreamingFeeTimestamp := now } :=
  ⟨Nat.le_refl now, h.rate_le, h.max_lt⟩

/-- Writing one fee state that keeps to it. -/
theorem Kept.update {now : ℕ} {states : Address → FeeState} {state : FeeState}
    (hstates : ∀ x, Kept now (states x)) (hstate : Kept now state) (x : Address) :
    Kept now (Function.update states setToken state x) := by
  rcases eq_or_ne x setToken with rfl | hne
  · rwa [Function.update_self]
  · rw [Function.update_of_ne hne]
    exact hstates x

/-- The only fee state that an accrual writes is that of the Set, where it writes the time. -/
theorem accrueFee_frame (h : accrueFee self w setToken = .ok w') :
    w'.timestamp = w.timestamp ∧
      w'.feeStates = Function.update w.feeStates setToken
        { w.feeStates setToken with lastStreamingFeeTimestamp := w.timestamp } := by
  simp only [accrueFee, bind_eq_ok, pure_eq_ok] at h
  obtain ⟨-, -, w₂, h, rfl⟩ := h
  suffices hw₂ : w₂.timestamp = w.timestamp ∧ w₂.feeStates = w.feeStates by
    obtain ⟨htime, hstates⟩ := hw₂
    simp only [setFeeState, htime, hstates, and_self]
  split_ifs at h
  · simp only [bind_eq_ok, editPositionMultiplier, World.editSetToken_eq_ok] at h
    obtain ⟨_, -, _, -, w₁, hmint, _, -, _, -, _, -, _, -, rfl⟩ := h
    obtain ⟨-, hstates, htime⟩ := mintManagerAndProtocolFee_frame hmint
    exact ⟨htime, hstates⟩
  · obtain rfl := Except.ok.inj h
    exact ⟨rfl, rfl⟩

/-- Each step keeps the fee states. -/
theorem Kept.step {a : Action} (hw : ∀ x, Kept w.timestamp (w.feeStates x))
    (h : StreamingDelay.step self a w = .ok w') : ∀ x, Kept w'.timestamp (w'.feeStates x) := by
  cases a with
  | initializeModule msgSender setToken settings =>
    simp only [StreamingDelay.step, initializeModule, bind_eq_ok, require_eq_ok,
      World.editSetToken_eq_ok] at h
    obtain ⟨-, -, -, -, -, -, -, hmax, -, hrate, _, -, rfl⟩ := h
    exact Kept.update hw ⟨Nat.le_refl _, hrate, hmax⟩
  | accrueFee setToken =>
    obtain ⟨htime, hstates⟩ := accrueFee_frame h
    rw [htime, hstates]
    exact Kept.update hw (hw setToken).accrued
  | updateStreamingFee msgSender setToken newFee =>
    simp only [StreamingDelay.step, updateStreamingFee, bind_eq_ok, require_eq_ok, pure_eq_ok] at h
    obtain ⟨-, -, -, -, -, hfee, w₁, haccrue, rfl⟩ := h
    obtain ⟨htime, hstates⟩ := accrueFee_frame haccrue
    have hw₁ : ∀ x, Kept w.timestamp (Function.update w.feeStates setToken
        { w.feeStates setToken with lastStreamingFeeTimestamp := w.timestamp } x) :=
      Kept.update hw (hw setToken).accrued
    simp only [setFeeState, htime, hstates, Function.update_self]
    exact Kept.update hw₁ ⟨Nat.le_refl _, hfee.le, (hw setToken).max_lt⟩
  | updateFeeRecipient msgSender setToken newFeeRecipient =>
    simp only [StreamingDelay.step, updateFeeRecipient, bind_eq_ok, require_eq_ok, pure_eq_ok] at h
    obtain ⟨-, -, -, -, -, -, rfl⟩ := h
    exact Kept.update hw ⟨(hw setToken).last_le, (hw setToken).rate_le, (hw setToken).max_lt⟩
  | removeModule msgSender =>
    obtain rfl := Except.ok.inj h
    exact Kept.update hw (Kept.default w.timestamp)
  | elsewhere w' =>
    obtain rfl := Except.ok.inj h
    exact fun x => ⟨(hw x).last_le.trans (Nat.le_max_left _ _), (hw x).rate_le, (hw x).max_lt⟩

/-- The state with a later time. -/
def atTime (w : World) (now : ℕ) : World := { w with timestamp := now }

/-- Within a year an accrual is timely. -/
theorem Kept.timely_of_year (hw : Kept w.timestamp (w.feeStates setToken))
    (hyear : w.timestamp ≤
      (w.feeStates setToken).lastStreamingFeeTimestamp + oneYearInSeconds) :
    Timely w setToken := by
  have hrate := Nat.lt_of_le_of_lt hw.rate_le hw.max_lt
  have helapsed : w.timestamp - (w.feeStates setToken).lastStreamingFeeTimestamp ≤
      oneYearInSeconds := by omega
  calc (w.timestamp - (w.feeStates setToken).lastStreamingFeeTimestamp) *
        (w.feeStates setToken).streamingFeePercentage
      ≤ oneYearInSeconds * (w.feeStates setToken).streamingFeePercentage :=
        Nat.mul_le_mul_right _ helapsed
    _ < oneYearInSeconds * preciseUnit := Nat.mul_lt_mul_of_pos_left hrate (by decide)
    _ = preciseUnit * oneYearInSeconds := Nat.mul_comm _ _

/-- **When accrual is possible**: in every state reached from one in which no Set uses the module,
and at every later time, the fee arithmetic succeeds exactly when the rate times the time since the
last accrual is less than the whole Set. It is within a year. Where it is, `accrueFee` succeeds, and
for the manager and a rate below the highest one `updateStreamingFee`, whenever the rest accepts the
accrual; and where it is not, neither of them succeeds. -/
theorem feeArithmetic_iff_timely_of_run (fresh : ∀ x, w.feeStates x = {})
    (reached : Reach (step self) w w') {now : ℕ} (later : w'.timestamp ≤ now)
    (limits : WithinLimits (atTime w' now) setToken) :
    ((∃ numbers, feeArithmetic (atTime w' now) setToken = .ok numbers) ↔
      Timely (atTime w' now) setToken) ∧
    (now ≤ (w'.feeStates setToken).lastStreamingFeeTimestamp + oneYearInSeconds →
      Timely (atTime w' now) setToken) ∧
    (Timely (atTime w' now) setToken →
      ((∃ t, accrueFee self (atTime w' now) setToken = .ok t) ↔
        AcceptsAccrual self (atTime w' now) setToken) ∧
      ∀ msgSender newFee,
        (∃ t, updateStreamingFee self (atTime w' now) msgSender setToken newFee = .ok t) ↔
          (w'.setTokens setToken).manager = msgSender ∧
          newFee < (w'.feeStates setToken).maxStreamingFeePercentage ∧
          AcceptsAccrual self (atTime w' now) setToken) ∧
    (¬Timely (atTime w' now) setToken →
      (∀ t, accrueFee self (atTime w' now) setToken ≠ .ok t) ∧
      ∀ msgSender newFee t,
        updateStreamingFee self (atTime w' now) msgSender setToken newFee ≠ .ok t) := by
  have hstart : ∀ x, Kept w.timestamp (w.feeStates x) := by
    intro x
    rw [fresh x]
    exact Kept.default w.timestamp
  have hkept := reached.invariant (fun w => ∀ x, Kept w.timestamp (w.feeStates x))
    (fun _ _ _ hw _ h => Kept.step hw h) hstart setToken
  have hnow : Kept (atTime w' now).timestamp ((atTime w' now).feeStates setToken) :=
    ⟨hkept.last_le.trans later, hkept.rate_le, hkept.max_lt⟩
  refine ⟨feeArithmetic_iff_timely limits hnow.last_le, hnow.timely_of_year,
    fun htimely => ⟨?_, fun msgSender newFee => ?_⟩, fun hlate => ⟨?_, ?_⟩⟩
  · exact accrueFee_iff_accepts limits hnow.last_le htimely
  · rw [updateStreamingFee_iff_accrueFee, accrueFee_iff_accepts limits hnow.last_le htimely]
    rfl
  · exact fun t h => hlate (timely_of_accrueFee h)
  · exact fun msgSender newFee t h => hlate (timely_of_updateStreamingFee h)

/-! ## Late accruals -/

/-- The step neither initializes the module on the Set nor removes it from it. -/
def KeepsModule (setToken : Address) : Action → World → Prop
  | .initializeModule _ x _, _ => x ≠ setToken
  | .removeModule x, _ => x ≠ setToken
  | _, _ => True

/-- A fee state written for another Set, at a later time, leaves a late accrual late. -/
private theorem not_timely_of_later {t : World} (hlate : ¬Timely w setToken)
    (hstate : t.feeStates setToken = w.feeStates setToken) (htime : w.timestamp ≤ t.timestamp) :
    ¬Timely t setToken := by
  unfold Timely at hlate ⊢
  rw [hstate, Nat.not_lt] at *
  exact hlate.trans (Nat.mul_le_mul_right _ (Nat.sub_le_sub_right htime _))

/-- A step that keeps the module on the Set leaves a late accrual late. -/
private theorem not_timely_of_step {a : Action} (hlate : ¬Timely w setToken)
    (hkeeps : KeepsModule setToken a w) (h : step self a w = .ok w') : ¬Timely w' setToken := by
  cases a with
  | initializeModule msgSender x settings =>
    simp only [step, initializeModule, bind_eq_ok, require_eq_ok, World.editSetToken_eq_ok] at h
    obtain ⟨-, -, -, -, -, -, -, -, -, -, _, -, rfl⟩ := h
    exact not_timely_of_later hlate (Function.update_of_ne (Ne.symm hkeeps) _ _) (Nat.le_refl _)
  | accrueFee x =>
    have hx : setToken ≠ x := fun hx => hlate (hx ▸ timely_of_accrueFee h)
    obtain ⟨htime, hstates⟩ := accrueFee_frame h
    refine not_timely_of_later hlate ?_ htime.ge
    rw [hstates, Function.update_of_ne hx]
  | updateStreamingFee msgSender x newFee =>
    have hx : setToken ≠ x := fun hx => hlate (hx ▸ timely_of_updateStreamingFee h)
    simp only [step, updateStreamingFee, bind_eq_ok, pure_eq_ok] at h
    obtain ⟨-, -, -, -, -, -, w₁, haccrue, rfl⟩ := h
    obtain ⟨htime, hstates⟩ := accrueFee_frame haccrue
    have hsame : w₁.feeStates setToken = w.feeStates setToken := by
      rw [hstates, Function.update_of_ne hx]
    exact not_timely_of_later hlate ((Function.update_of_ne hx _ _).trans hsame) htime.ge
  | updateFeeRecipient msgSender x newFeeRecipient =>
    simp only [step, updateFeeRecipient, bind_eq_ok, pure_eq_ok] at h
    obtain ⟨-, -, -, -, -, -, rfl⟩ := h
    unfold Timely at hlate ⊢
    rcases eq_or_ne setToken x with rfl | hx
    · simpa only [setFeeState, Function.update_self] using hlate
    · simpa only [setFeeState, Function.update_of_ne hx] using hlate
  | removeModule x =>
    obtain rfl := Except.ok.inj h
    exact not_timely_of_later hlate (Function.update_of_ne (Ne.symm hkeeps) _ _) (Nat.le_refl _)
  | elsewhere t =>
    obtain rfl := Except.ok.inj h
    exact not_timely_of_later hlate rfl (Nat.le_max_left _ _)

/-- **A late accrual stays late**: until the module is removed from the Set, no accrual and no
update of the rate succeeds any more, whatever happens. -/
theorem stuck_of_run (hlate : ¬Timely w setToken)
    (reached : ReachWhen (step self) (KeepsModule setToken) w w') :
    (∀ t, accrueFee self w' setToken ≠ .ok t) ∧
      ∀ msgSender newFee t, updateStreamingFee self w' msgSender setToken newFee ≠ .ok t := by
  have hlate' : ¬Timely w' setToken := reached.invariant (fun w => ¬Timely w setToken)
    (fun _ _ _ hw hkeeps h => not_timely_of_step hw hkeeps h) hlate
  exact ⟨fun t h => hlate' (timely_of_accrueFee h),
    fun msgSender newFee t h => hlate' (timely_of_updateStreamingFee h)⟩

/-! ## Example -/

/-- The Set `100` of one token, with the manager `3`, on which the module `4` is pending. -/
def exampleWorld : World :=
  { controller := { isSet := fun a => a = 100, isModule := fun a => a = 4, feeRecipient := 60 }
    tokens := fun _ => { totalSupply := 10 ^ 18 }
    setTokens := fun _ =>
      { manager := 3
        moduleStates := fun _ => .pending
        components := [11]
        componentPositions := fun _ => { virtualUnit := 10 ^ 18 }
        positionMultiplier := 10 ^ 18 } }

/-- A yearly rate of `99%`. -/
def exampleSettings : FeeState :=
  { feeRecipient := 61
    maxStreamingFeePercentage := 99 * 10 ^ 16
    streamingFeePercentage := 99 * 10 ^ 16 }

/-- The module is initialized on the example. -/
private theorem exists_initialized : ∃ w, Reach (step 4) exampleWorld w ∧ w.timestamp = 0 ∧
    WithinLimits (atTime w oneYearInSeconds) 100 ∧
    WithinLimits (atTime w (2 * oneYearInSeconds)) 100 ∧
    ¬Timely (atTime w (2 * oneYearInSeconds)) 100 ∧
    (w.feeStates 100).lastStreamingFeeTimestamp = 0 := by
  obtain ⟨w, hrun, h⟩ := exists_of_yields
    (x := runAll (step 4) [.initializeModule 3 100 exampleSettings] exampleWorld)
    (p := fun w => w.timestamp = 0 ∧ WithinLimits (atTime w oneYearInSeconds) 100 ∧
      WithinLimits (atTime w (2 * oneYearInSeconds)) 100 ∧
      ¬Timely (atTime w (2 * oneYearInSeconds)) 100 ∧
      (w.feeStates 100).lastStreamingFeeTimestamp = 0) (by decide +kernel)
  exact ⟨w, reach_of_runAll hrun, of_decide_eq_true h⟩

/-- After two years without an accrual at a rate of `99%` a year, well within the limits of the
types, the arithmetic reverts, and so do the accrual and any update of the rate. -/
theorem feeArithmetic_reverts_late :
    ∃ w, Reach (step 4) exampleWorld w ∧ (∀ x, exampleWorld.feeStates x = {}) ∧
      w.timestamp ≤ 2 * oneYearInSeconds ∧
      WithinLimits (atTime w (2 * oneYearInSeconds)) 100 ∧
      (∀ numbers, feeArithmetic (atTime w (2 * oneYearInSeconds)) 100 ≠ .ok numbers) ∧
      (∀ t, accrueFee 4 (atTime w (2 * oneYearInSeconds)) 100 ≠ .ok t) ∧
      ∀ newFee t,
        updateStreamingFee 4 (atTime w (2 * oneYearInSeconds)) 3 100 newFee ≠ .ok t := by
  obtain ⟨w, hreached, htime, -, hlimits, hlate, -⟩ := exists_initialized
  refine ⟨w, hreached, fun _ => rfl, htime ▸ Nat.zero_le _, hlimits, fun numbers h => ?_,
    fun t h => hlate (timely_of_accrueFee h),
    fun newFee t h => hlate (timely_of_updateStreamingFee h)⟩
  exact hlate (streamingFee_lt_iff.mp (feeArithmetic_eq_ok.mp h).2.2.2.1)

/-- After a year at the same rate the arithmetic succeeds. -/
theorem feeArithmetic_iff_timely_of_run_example :
    ∃ w, Reach (step 4) exampleWorld w ∧
      ∃ numbers, feeArithmetic (atTime w oneYearInSeconds) 100 = .ok numbers := by
  obtain ⟨w, hreached, htime, hlimits, -, -, hlast⟩ := exists_initialized
  have hlater : w.timestamp ≤ oneYearInSeconds := htime ▸ Nat.zero_le _
  have h := feeArithmetic_iff_timely_of_run (fun _ => rfl) hreached hlater hlimits
  exact ⟨w, hreached, h.1.mpr (h.2.1 (hlast ▸ Nat.le_add_left _ _))⟩

end StreamingDelay

end SetProtocol
