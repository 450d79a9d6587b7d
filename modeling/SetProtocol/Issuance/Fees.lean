import SetProtocol.Issuance.Hooks

set_option relaxedAutoImplicit false
set_option autoImplicit false

/-!
# The fees of the debt issuance module

A redemption charges a fee, which is minted to the manager's recipient and to the controller's. The
settings of a Set come from four functions. `initialize` bounds the fee by a maximum that its caller
chooses freely, and takes any recipient, where `updateFeeRecipient` rejects the zero address.

A fee above the whole quantity, or a fee without a recipient, makes redemptions revert. Without
calls that set one of these the fee part of a redemption never reverts.

## Main definitions

* `SetProtocol.IssuanceFees.feeMints` — what `_resolveFees` mints, and to whom.
* `SetProtocol.IssuanceFees.FeesRedeemable` — the fee part of a redemption goes through.
* `SetProtocol.IssuanceFees.FeesBounded` — the settings under which it always does.

## Main results

* `SetProtocol.IssuanceFees.forall_feesRedeemable_iff` — these are all such settings.
* `SetProtocol.IssuanceFees.feesRedeemable_of_run` — the fees after any run.
-/

namespace SetProtocol

open Checked Transition

namespace IssuanceFees

open DebtIssuanceModule IssuanceHooks

variable {issuance setToken : Address} {w w' : World} {quantity managerFee protocolFee : ℕ}

/-! ## What is minted -/

/-- The recipients of the fees, each with its amount, in the order in which they are minted. -/
def feeMints (w : World) (setToken : Address) (managerFee protocolFee : ℕ) :
    List (Address × ℕ) :=
  if 0 < managerFee then
    ((w.issuanceSettings setToken).feeRecipient, managerFee) ::
      (if 0 < protocolFee then [(w.controller.feeRecipient, protocolFee)] else [])
  else []

/-- A mint does not write to the controller. -/
theorem controller_of_mint {sender account : Address}
    (h : w.mint sender setToken account quantity = .ok w') : w'.controller = w.controller := by
  simp only [World.mint, bind_eq_ok, World.editToken_eq_ok] at h
  obtain ⟨-, -, _, -, rfl⟩ := h
  rfl

/-- `_resolveFees` makes these mints and nothing else. -/
theorem resolveFees_eq_foldlM :
    resolveFees issuance w setToken managerFee protocolFee =
      (feeMints w setToken managerFee protocolFee).foldlM
        (fun w fee => w.mint issuance setToken fee.1 fee.2) w := by
  unfold resolveFees feeMints
  split_ifs with hm hp
  · rw [List.foldlM_cons]
    rcases hmint : w.mint issuance setToken (w.issuanceSettings setToken).feeRecipient managerFee
      with e | w₁
    · rfl
    · -- the second mint reads the controller that the first one leaves
      change w₁.mint issuance setToken w₁.controller.feeRecipient protocolFee = _
      rw [controller_of_mint hmint]
      exact (bind_pure _).symm
  · rw [List.foldlM_cons]
    rfl
  · rfl

/-- The fee part of a redemption: `calculateTotalFees` returns, and the mints of `_resolveFees` go
to addresses other than zero. -/
def FeesRedeemable (issuance : Address) (w : World) (setToken : Address) (quantity : ℕ) : Prop :=
  ∃ fees, calculateTotalFees issuance w setToken quantity false = .ok fees ∧
    ∀ fee ∈ feeMints w setToken fees.managerFee fees.protocolFee, fee.1 ≠ zeroAddress

/-- The products of `calculateTotalFees` fit. -/
def FeesFit (issuance : Address) (w : World) (setToken : Address) (quantity : ℕ) : Prop :=
  InUint256 ((w.issuanceSettings setToken).managerRedeemFee * quantity) ∧
    InUint256 (totalFee w setToken quantity false * protocolFeeSplit issuance w)

/-! ## Settings -/

/-- The redeem fee is at most 100%, and has a recipient unless it is zero. -/
structure FeesBounded (settings : IssuanceSettings) : Prop where
  /-- The fee is a part of the quantity. -/
  fee : settings.managerRedeemFee ≤ preciseUnit
  /-- There is a recipient. -/
  recipient : settings.managerRedeemFee = 0 ∨ settings.feeRecipient ≠ zeroAddress

/-- A fee of at most 100% is covered by what is redeemed. -/
theorem totalFee_le (h : FeesBounded (w.issuanceSettings setToken)) (quantity : ℕ) :
    totalFee w setToken quantity false ≤ quantity := by
  apply Nat.div_le_of_le_mul
  exact Nat.mul_le_mul_right quantity h.fee

/-- Under bounded settings the fee part of a redemption goes through. -/
theorem FeesBounded.feesRedeemable (h : FeesBounded (w.issuanceSettings setToken))
    (hrecipient : w.controller.feeRecipient ≠ zeroAddress)
    (hsplit : protocolFeeSplit issuance w ≤ preciseUnit)
    (hfit : FeesFit issuance w setToken quantity) :
    FeesRedeemable issuance w setToken quantity := by
  let fee := totalFee w setToken quantity false
  have hprotocol : fee * protocolFeeSplit issuance w / preciseUnit ≤ fee := by
    apply Nat.div_le_of_le_mul
    rw [Nat.mul_comm]
    exact Nat.mul_le_mul_right _ hsplit
  refine ⟨⟨quantity - fee, fee - fee * protocolFeeSplit issuance w / preciseUnit,
    fee * protocolFeeSplit issuance w / preciseUnit⟩, ?_, ?_⟩
  · simp only [calculateTotalFees, Bool.false_eq_true, if_false, bind_eq_ok,
      PreciseUnitMath.preciseMul_eq_ok, SafeMath.sub_eq_ok, pure_eq_ok]
    exact ⟨fee, ⟨hfit.1, rfl⟩, _, ⟨hfit.2, rfl⟩, _, ⟨hprotocol, rfl⟩, _,
      ⟨totalFee_le h quantity, rfl⟩, rfl⟩
  · have hmanager : 0 < fee - fee * protocolFeeSplit issuance w / preciseUnit →
        (w.issuanceSettings setToken).feeRecipient ≠ zeroAddress := by
      intro hm
      refine h.recipient.resolve_left fun hzero => ?_
      have hfee : fee = 0 := by simp [fee, totalFee, hzero]
      rw [hfee, Nat.zero_sub] at hm
      exact absurd hm (Nat.lt_irrefl 0)
    intro mint hmint
    unfold feeMints at hmint
    split_ifs at hmint with hm hp
    · rcases List.mem_pair.mp hmint with rfl | rfl
      · exact hmanager hm
      · exact hrecipient
    · obtain rfl := List.mem_singleton.mp hmint
      exact hmanager hm
    · exact absurd hmint List.not_mem_nil

/-- A fee part that goes through takes no more than the quantity. -/
theorem FeesRedeemable.totalFee_le (h : FeesRedeemable issuance w setToken quantity) :
    totalFee w setToken quantity false ≤ quantity := by
  obtain ⟨fees, hfees, -⟩ := h
  obtain ⟨-, -, hquantity⟩ := calculateTotalFees_spec hfees
  simp only [Bool.false_eq_true, if_false] at hquantity
  omega

/-- The manager's part of a fee that goes through has a recipient. -/
theorem FeesRedeemable.recipient (h : FeesRedeemable issuance w setToken quantity)
    (hpart : 0 < totalFee w setToken quantity false -
      totalFee w setToken quantity false * protocolFeeSplit issuance w / preciseUnit) :
    (w.issuanceSettings setToken).feeRecipient ≠ zeroAddress := by
  obtain ⟨fees, hfees, hmints⟩ := h
  obtain ⟨hprotocol, hsum, -⟩ := calculateTotalFees_spec hfees
  rw [← hprotocol] at hpart
  have hmanager : 0 < fees.managerFee := by omega
  refine hmints ((w.issuanceSettings setToken).feeRecipient, fees.managerFee) ?_
  rw [feeMints, if_pos hmanager]
  exact List.mem_cons_self

/-- The world with a controller that charges no fees. -/
def withoutProtocolFee (w : World) : World := { w with controller := { feeRecipient := 1 } }

theorem protocolFeeSplit_withoutProtocolFee :
    protocolFeeSplit issuance (withoutProtocolFee w) = 0 := rfl

/-- Without a protocol fee the products fit when that of the redeem fee does. -/
theorem feesFit_withoutProtocolFee
    (h : InUint256 ((w.issuanceSettings setToken).managerRedeemFee * quantity)) :
    FeesFit issuance (withoutProtocolFee w) setToken quantity := by
  refine ⟨h, ?_⟩
  rw [protocolFeeSplit_withoutProtocolFee, Nat.mul_zero]
  decide

/-- The bounded settings are those under which the fee part of every redemption goes through, with
any split of the protocol. -/
theorem forall_feesRedeemable_iff
    (huint : InUint256 (w.issuanceSettings setToken).managerRedeemFee) :
    (∀ w₁ quantity, w₁.issuanceSettings setToken = w.issuanceSettings setToken →
      w₁.controller.feeRecipient ≠ zeroAddress → protocolFeeSplit issuance w₁ ≤ preciseUnit →
      0 < quantity → FeesFit issuance w₁ setToken quantity →
      FeesRedeemable issuance w₁ setToken quantity) ↔
    FeesBounded (w.issuanceSettings setToken) := by
  constructor
  · intro h
    have hredeem : ∀ quantity, 0 < quantity →
        InUint256 ((w.issuanceSettings setToken).managerRedeemFee * quantity) →
        FeesRedeemable issuance (withoutProtocolFee w) setToken quantity := by
      intro quantity hpos hfit
      have hone : (1 : Address) ≠ zeroAddress := by decide
      exact h _ quantity rfl hone (Nat.zero_le _) hpos (feesFit_withoutProtocolFee hfit)
    have hfee : (w.issuanceSettings setToken).managerRedeemFee ≤ preciseUnit := by
      by_contra hlt
      rcases Nat.lt_or_ge (w.issuanceSettings setToken).managerRedeemFee (2 * preciseUnit)
        with hlow | hhigh
      · -- a fee of more than 100% takes more than one Set from one Set
        have hfit : InUint256 ((w.issuanceSettings setToken).managerRedeemFee * preciseUnit) :=
          (Nat.mul_lt_mul_of_pos_right hlow preciseUnit_pos).trans (by decide)
        have hle := (hredeem preciseUnit preciseUnit_pos hfit).totalFee_le
        rw [totalFee, if_neg Bool.false_ne_true, Nat.mul_div_cancel _ preciseUnit_pos] at hle
        exact hlt hle
      · -- and one of 200% or more takes more than one base unit from one
        have hle := (hredeem 1 Nat.one_pos (by rwa [Nat.mul_one])).totalFee_le
        rw [totalFee, if_neg Bool.false_ne_true, Nat.mul_one] at hle
        have htwo : 2 ≤ (w.issuanceSettings setToken).managerRedeemFee / preciseUnit :=
          (Nat.le_div_iff_mul_le preciseUnit_pos).mpr hhigh
        exact absurd (htwo.trans hle) (by decide)
    refine ⟨hfee, ?_⟩
    rcases Nat.eq_zero_or_pos (w.issuanceSettings setToken).managerRedeemFee with hzero | hpos
    · exact .inl hzero
    · right
      have hfit : InUint256 ((w.issuanceSettings setToken).managerRedeemFee * preciseUnit) :=
        (Nat.mul_le_mul_right preciseUnit hfee).trans_lt (by decide)
      refine (hredeem preciseUnit preciseUnit_pos hfit).recipient ?_
      rw [protocolFeeSplit_withoutProtocolFee, Nat.mul_zero, Nat.zero_div, Nat.sub_zero, totalFee,
        if_neg Bool.false_ne_true, Nat.mul_div_cancel _ preciseUnit_pos]
      exact hpos
  · intro h w₁ quantity hsame hrecipient hsplit _ hfit
    have hbounded : FeesBounded (w₁.issuanceSettings setToken) := hsame ▸ h
    exact hbounded.feesRedeemable hrecipient hsplit hfit

/-! ## Runs -/

/-- The condition on a call: `initialize` and `updateRedeemFee` set a redeem fee of at most 100%,
and only with a recipient, unless it is zero. -/
def SetsBoundedFee : Action → World → Prop
  | .initializeModule _ _ _ _ managerRedeemFee feeRecipient _, _ =>
    managerRedeemFee ≤ preciseUnit ∧ (managerRedeemFee = 0 ∨ feeRecipient ≠ zeroAddress)
  | .updateRedeemFee _ setToken newRedeemFee, w =>
    newRedeemFee ≤ preciseUnit ∧
      (newRedeemFee = 0 ∨ (w.issuanceSettings setToken).feeRecipient ≠ zeroAddress)
  | _, _ => True

instance (a : Action) (w : World) : Decidable (SetsBoundedFee a w) := by
  unfold SetsBoundedFee
  split <;> infer_instance

/-- Bounded settings of a Set may be written where those of all Sets are bounded. -/
theorem bounded_setSettings {settings : IssuanceSettings}
    (hw : ∀ x, FeesBounded (w.issuanceSettings x)) (h : FeesBounded settings) :
    ∀ x, FeesBounded ((DebtIssuanceModule.setSettings w setToken settings).issuanceSettings x) := by
  intro x
  unfold DebtIssuanceModule.setSettings
  rcases eq_or_ne x setToken with rfl | hx
  · simpa only [Function.update_self] using h
  · simpa only [Function.update_of_ne hx] using hw x

/-- The settings of a Set without the module are bounded. -/
theorem feesBounded_default (isModuleHook : Address → Bool) :
    FeesBounded { isModuleHook := isModuleHook } :=
  ⟨Nat.zero_le _, .inl rfl⟩

/-- A call that meets the condition keeps the settings of every Set bounded. -/
theorem bounded_step {a : Action} (hw : ∀ x, FeesBounded (w.issuanceSettings x))
    (met : SetsBoundedFee a w) (h : IssuanceHooks.step issuance a w = .ok w') :
    ∀ x, FeesBounded (w'.issuanceSettings x) := by
  cases a with
  | initializeModule msgSender setToken maxManagerFee managerIssueFee managerRedeemFee
      feeRecipient managerIssuanceHook =>
    obtain ⟨-, s, -, rfl⟩ := initializeModule_spec h
    exact bounded_setSettings hw ⟨met.1, met.2⟩
  | registerToIssuanceModule msgSender setToken =>
    obtain ⟨-, -, rfl⟩ := registerToIssuanceModule_spec h
    have hset := hw setToken
    exact bounded_setSettings hw ⟨hset.fee, hset.recipient⟩
  | unregisterFromIssuanceModule msgSender setToken =>
    obtain ⟨-, -, rfl⟩ := unregisterFromIssuanceModule_spec h
    have hset := hw setToken
    exact bounded_setSettings hw ⟨hset.fee, hset.recipient⟩
  | updateIssueFee msgSender setToken newIssueFee =>
    obtain ⟨-, rfl⟩ := updateIssueFee_spec h
    have hset := hw setToken
    exact bounded_setSettings hw ⟨hset.fee, hset.recipient⟩
  | updateRedeemFee msgSender setToken newRedeemFee =>
    obtain ⟨-, rfl⟩ := updateRedeemFee_spec h
    exact bounded_setSettings hw ⟨met.1, met.2⟩
  | updateFeeRecipient msgSender setToken newFeeRecipient =>
    obtain ⟨-, hnew, rfl⟩ := updateFeeRecipient_spec h
    exact bounded_setSettings hw ⟨(hw setToken).fee, .inr hnew⟩
  | removeModule msgSender setToken =>
    rw [IssuanceHooks.step] at h
    obtain ⟨-, w₁, s, hcall, rfl, -⟩ := World.removeModule_spec h
    obtain ⟨-, rfl⟩ := removeModule_spec hcall
    exact bounded_setSettings hw (feesBounded_default _)
  | callRemoveModule msgSender =>
    obtain ⟨-, rfl⟩ := removeModule_spec h
    exact bounded_setSettings hw (feesBounded_default _)
  | elsewhere w' =>
    obtain rfl := Except.ok.inj h
    exact hw

/-- **The fee part of redemptions**: from a state in which no Set uses the issuance module, after
any calls that initialize it, update its fees and their recipient, and remove it, each of which sets
a redeem fee of at most 100% and only with a recipient, with anything happening elsewhere in
between: for each Set and each quantity whose products fit, with a protocol split of at most 100%,
`calculateTotalFees` returns for a redemption, and the mints go to addresses other than zero, which
are all that `_resolveFees` does. -/
theorem feesRedeemable_of_run (fresh : Fresh w)
    (reached : ReachWhen (step issuance) SetsBoundedFee w w') (setToken : Address)
    (hrecipient : w'.controller.feeRecipient ≠ zeroAddress)
    (hsplit : protocolFeeSplit issuance w' ≤ preciseUnit)
    (hfit : FeesFit issuance w' setToken quantity) :
    FeesRedeemable issuance w' setToken quantity ∧
      ∀ managerFee protocolFee, resolveFees issuance w' setToken managerFee protocolFee =
        (feeMints w' setToken managerFee protocolFee).foldlM
          (fun w fee => w.mint issuance setToken fee.1 fee.2) w' := by
  have hstart : ∀ x, FeesBounded (w.issuanceSettings x) := by
    intro x
    rw [fresh.settings]
    exact feesBounded_default _
  have hbounded := reached.invariant (fun w => ∀ x, FeesBounded (w.issuanceSettings x))
    (fun a w w' hw met h => bounded_step hw met h) hstart setToken
  exact ⟨hbounded.feesRedeemable hrecipient hsplit hfit, fun _ _ => resolveFees_eq_foldlM⟩

/-! ## Example -/

/-- The Set `100` with the manager `3`, on which the issuance module `7` is pending. The controller
takes half of the fees, for `5`. -/
def exampleWorld : World :=
  { IssuanceHooks.exampleWorld with
    controller :=
      { IssuanceHooks.exampleWorld.controller with
        feeRecipient := 5
        fees := fun _ _ => 5 * 10 ^ 17 } }

/-- With a redeem fee of 1% for `6`, raised to 2% and then paid to `8`, the fee part of a redemption
of one Set goes through. -/
theorem feesRedeemable_of_run_example :
    ∃ w, ReachWhen (step 7) SetsBoundedFee exampleWorld w ∧
      (w.issuanceSettings 100).managerRedeemFee = 2 * 10 ^ 16 ∧
      FeesRedeemable 7 w 100 preciseUnit := by
  obtain ⟨w, hrun, hw⟩ := exists_of_yields
    (x := runAll (guarded (step 7) SetsBoundedFee "")
      [.initializeModule 3 100 (5 * 10 ^ 16) 0 (10 ^ 16) 6 0, .updateRedeemFee 3 100 (2 * 10 ^ 16),
        .updateFeeRecipient 3 100 8] exampleWorld)
    (p := fun w => (w.issuanceSettings 100).managerRedeemFee = 2 * 10 ^ 16 ∧
      w.controller.feeRecipient ≠ zeroAddress ∧ protocolFeeSplit 7 w ≤ preciseUnit ∧
      InUint256 ((w.issuanceSettings 100).managerRedeemFee * preciseUnit) ∧
      InUint256 (totalFee w 100 preciseUnit false * protocolFeeSplit 7 w)) (by decide +kernel)
  obtain ⟨hfee, hrecipient, hsplit, hfit⟩ := of_decide_eq_true hw
  have hreached := reachWhen_of_runAll hrun
  exact ⟨w, hreached, hfee,
    (feesRedeemable_of_run ⟨fun _ => rfl⟩ hreached 100 hrecipient hsplit hfit).1⟩

/-- A state that `initialize` reaches, in which the fee part of the redemption of one Set does not
go through, although the products fit. -/
def TrapsHolders (w : World) : Prop :=
  Reach (step 7) exampleWorld w ∧ w.controller.feeRecipient ≠ zeroAddress ∧
    protocolFeeSplit 7 w ≤ preciseUnit ∧ FeesFit 7 w 100 preciseUnit ∧
    ¬FeesRedeemable 7 w 100 preciseUnit

/-- `initialize` accepts a redeem fee of 101%, which no quantity covers, and a fee of 1% for the
zero address, to which nothing can be minted. -/
theorem initialize_traps_holders :
    (∃ w, TrapsHolders w ∧ (w.issuanceSettings 100).managerRedeemFee = 101 * 10 ^ 16) ∧
      ∃ w, TrapsHolders w ∧ (w.issuanceSettings 100).managerRedeemFee = 10 ^ 16 ∧
        (w.issuanceSettings 100).feeRecipient = zeroAddress := by
  constructor
  · obtain ⟨w, hrun, hw⟩ := exists_of_yields
      (x := runAll (step 7) [.initializeModule 3 100 (101 * 10 ^ 16) 0 (101 * 10 ^ 16) 6 0]
        exampleWorld)
      (p := fun w => (w.issuanceSettings 100).managerRedeemFee = 101 * 10 ^ 16 ∧
        w.controller.feeRecipient ≠ zeroAddress ∧ protocolFeeSplit 7 w ≤ preciseUnit ∧
        (InUint256 ((w.issuanceSettings 100).managerRedeemFee * preciseUnit) ∧
        InUint256 (totalFee w 100 preciseUnit false * protocolFeeSplit 7 w)) ∧
        preciseUnit < totalFee w 100 preciseUnit false) (by decide +kernel)
    obtain ⟨hfee, hrecipient, hsplit, hfit, hlarge⟩ := of_decide_eq_true hw
    refine ⟨w, ⟨reach_of_runAll hrun, hrecipient, hsplit, hfit, fun h => ?_⟩, hfee⟩
    exact absurd h.totalFee_le (Nat.not_le_of_lt hlarge)
  · obtain ⟨w, hrun, hw⟩ := exists_of_yields
      (x := runAll (step 7) [.initializeModule 3 100 (10 ^ 16) 0 (10 ^ 16) 0 0] exampleWorld)
      (p := fun w => (w.issuanceSettings 100).managerRedeemFee = 10 ^ 16 ∧
        w.controller.feeRecipient ≠ zeroAddress ∧ protocolFeeSplit 7 w ≤ preciseUnit ∧
        (InUint256 ((w.issuanceSettings 100).managerRedeemFee * preciseUnit) ∧
        InUint256 (totalFee w 100 preciseUnit false * protocolFeeSplit 7 w)) ∧
        (w.issuanceSettings 100).feeRecipient = zeroAddress ∧
        0 < totalFee w 100 preciseUnit false -
          totalFee w 100 preciseUnit false * protocolFeeSplit 7 w / preciseUnit)
      (by decide +kernel)
    obtain ⟨hfee, hrecipient, hsplit, hfit, hzero, hmanager⟩ := of_decide_eq_true hw
    refine ⟨w, ⟨reach_of_runAll hrun, hrecipient, hsplit, hfit, fun h => ?_⟩, hfee, hzero⟩
    exact h.recipient hmanager hzero

end IssuanceFees

end SetProtocol
