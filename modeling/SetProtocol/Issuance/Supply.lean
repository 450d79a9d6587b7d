import SetProtocol.Modules.DebtIssuanceModule

set_option relaxedAutoImplicit false
set_option autoImplicit false

/-!
# Issuance with fees and the supply

An issuance collects components for the quantity with the fees, and mints the quantity and the
fees separately. The fee of the protocol is minted only next to a fee of the manager. A protocol
that takes the whole fee leaves the manager none, and then the fee is collected for and not
minted.

## Main definitions

* `SetProtocol.IssuanceSupply.HooksKeepSupply` — hooks leave the supply and the fees alone.
* `SetProtocol.IssuanceSupply.MovesFor` — components move, and hooks are called, for a quantity.

## Main results

* `SetProtocol.IssuanceSupply.supply_iff` — the supply changes by the quantity that components
  moved for exactly when there is no fee, or the protocol takes less than all of it.
* `SetProtocol.IssuanceSupply.issue_mints_no_fee` — an issuance where it does not.
-/

namespace SetProtocol

namespace IssuanceSupply

open Checked DebtIssuanceModule

variable {self setToken msgSender recipient : Address} {env : Env} {w w' : World} {quantity : ℕ}

/-- The call left alone what the fees of the Set and its supply are computed from. -/
structure KeepsSupply (setToken : Address) (w w' : World) : Prop where
  /-- The supply. -/
  supply : w'.totalSupply setToken = w.totalSupply setToken
  /-- The settings of the Set. -/
  settings : w'.issuanceSettings setToken = w.issuanceSettings setToken
  /-- The fees of the protocol. -/
  controller : w'.controller = w.controller

/-- The hooks do not mint or burn the Set, and do not reconfigure the module. -/
structure HooksKeepSupply (setToken : Address) (env : Env) : Prop where
  /-- The manager's hook. -/
  manager : ∀ hook quantity caller recipient w w',
    env.invokePreIssueHook hook setToken quantity caller recipient w = .ok w' →
      KeepsSupply setToken w w'
  /-- The modules' hooks on issuance. -/
  issue : ∀ module caller quantity w w',
    env.moduleIssueHook module caller setToken quantity w = .ok w' → KeepsSupply setToken w w'
  /-- The modules' hooks on redemption. -/
  redeem : ∀ module caller quantity w w',
    env.moduleRedeemHook module caller setToken quantity w = .ok w' → KeepsSupply setToken w w'
  /-- The hooks for a component on issuance. -/
  componentIssue : ∀ module caller quantity component isEquity w w',
    env.componentIssueHook module caller setToken quantity component isEquity w = .ok w' →
      KeepsSupply setToken w w'
  /-- The hooks for a component on redemption. -/
  componentRedeem : ∀ module caller quantity component isEquity w w',
    env.componentRedeemHook module caller setToken quantity component isEquity w = .ok w' →
      KeepsSupply setToken w w'

namespace KeepsSupply

variable {w₁ w₂ : World}

theorem refl (setToken : Address) (w : World) : KeepsSupply setToken w w := ⟨rfl, rfl, rfl⟩

theorem trans (h₁ : KeepsSupply setToken w w₁) (h₂ : KeepsSupply setToken w₁ w₂) :
    KeepsSupply setToken w w₂ :=
  ⟨h₂.supply.trans h₁.supply, h₂.settings.trans h₁.settings, h₂.controller.trans h₁.controller⟩

/-- A loop whose rounds keep the supply keeps it. -/
theorem foldlM {β : Type} {f : World → β → Except Revert World} {l : List β}
    (step : ∀ b w w', f w b = .ok w' → KeepsSupply setToken w w')
    (h : l.foldlM f w = .ok w') : KeepsSupply setToken w w' :=
  foldlM_rel (KeepsSupply setToken) (refl setToken) trans (fun b _ w w' => step b w w') h

/-- A ledger that moved keeps the supply. -/
theorem of_moved {token sender receiver : Address} {amount : ℕ} {t : ERC20} {calls : List Call}
    (h : Moved (w.tokens token) t sender receiver amount) :
    KeepsSupply setToken w { w.setTokenLedger token t with calls := calls } := by
  refine ⟨?_, rfl, rfl⟩
  by_cases hc : setToken = token
  · subst hc
    simpa [World.totalSupply, World.setTokenLedger] using h.totalSupply
  · simp [World.totalSupply, World.setTokenLedger, hc]

theorem of_transferFrom {token sender receiver : Address} {amount : ℕ}
    (h : ModuleBase.transferFrom self w token sender receiver amount = .ok w') :
    KeepsSupply setToken w w' := by
  obtain ⟨t', hmoved, -, rfl⟩ := ModuleBase.transferFrom_spec h
  exact of_moved hmoved

theorem of_strictInvokeTransfer {token payer receiver : Address} {amount : ℕ}
    (h : Invoke.strictInvokeTransfer self env w payer token receiver amount = .ok w') :
    KeepsSupply setToken w w' := by
  obtain ⟨t', hmoved, -, -, rfl⟩ := Invoke.strictInvokeTransfer_spec h
  exact of_moved hmoved

theorem of_executeExternalPositionHooks (hooks : HooksKeepSupply setToken env)
    {component : Address} {isIssue isEquity : Bool}
    (h : executeExternalPositionHooks self env w setToken quantity component isIssue isEquity =
      .ok w') : KeepsSupply setToken w w' := by
  refine foldlM (fun module w w' h => ?_) h
  split_ifs at h
  · exact hooks.componentIssue _ _ _ _ _ _ _ h
  · exact hooks.componentRedeem _ _ _ _ _ _ _ h

theorem of_resolveEquityPositions (hooks : HooksKeepSupply setToken env) {isIssue : Bool}
    {units : List ComponentUnits}
    (h : resolveEquityPositions self env w msgSender setToken quantity recipient isIssue units =
      .ok w') : KeepsSupply setToken w w' := by
  refine foldlM (fun x w w' h => ?_) h
  unfold resolveEquityPosition at h
  split_ifs at h
  · obtain ⟨w₁, h₁, h₂⟩ := bind_eq_ok.mp h
    exact (of_transferFrom h₁).trans (of_executeExternalPositionHooks hooks h₂)
  · obtain ⟨w₁, h₁, h₂⟩ := bind_eq_ok.mp h
    exact (of_executeExternalPositionHooks hooks h₁).trans (of_strictInvokeTransfer h₂)
  · obtain rfl : w = w' := by simpa using h
    exact refl setToken w

theorem of_resolveDebtPositions (hooks : HooksKeepSupply setToken env) {isIssue : Bool}
    {units : List ComponentUnits}
    (h : resolveDebtPositions self env w msgSender setToken quantity isIssue units = .ok w') :
    KeepsSupply setToken w w' := by
  refine foldlM (fun x w w' h => ?_) h
  unfold resolveDebtPosition at h
  split_ifs at h
  · obtain ⟨w₁, h₁, h₂⟩ := bind_eq_ok.mp h
    exact (of_executeExternalPositionHooks hooks h₁).trans (of_strictInvokeTransfer h₂)
  · obtain ⟨w₁, h₁, h₂⟩ := bind_eq_ok.mp h
    exact (of_transferFrom h₁).trans (of_executeExternalPositionHooks hooks h₂)
  · obtain rfl : w = w' := by simpa using h
    exact refl setToken w

theorem of_callPreIssueHooks (hooks : HooksKeepSupply setToken env)
    (h : callPreIssueHooks self env w msgSender setToken quantity recipient = .ok w') :
    KeepsSupply setToken w w' := by
  simp only [callPreIssueHooks, callManagerPreIssueHooks, bind_eq_ok] at h
  obtain ⟨-, -, -, -, w₁, hmanager, hmodules⟩ := h
  have hmodules' : KeepsSupply setToken w₁ w' :=
    foldlM (fun hook w w' => hooks.issue hook _ _ w w') hmodules
  split_ifs at hmanager
  · exact (hooks.manager _ _ _ _ _ _ hmanager).trans hmodules'
  · obtain rfl : w = w₁ := by simpa using hmanager
    exact hmodules'

theorem of_callPreRedeemHooks (hooks : HooksKeepSupply setToken env)
    (h : callPreRedeemHooks self env w setToken quantity = .ok w') :
    KeepsSupply setToken w w' := by
  simp only [callPreRedeemHooks, bind_eq_ok] at h
  obtain ⟨-, -, -, -, hmodules⟩ := h
  exact foldlM (fun hook w w' => hooks.redeem hook _ _ w w') hmodules

/-- The fees are computed from what is kept. -/
theorem calculateTotalFees_eq (h : KeepsSupply setToken w w') {isIssue : Bool} :
    calculateTotalFees self w' setToken quantity isIssue =
      calculateTotalFees self w setToken quantity isIssue := by
  unfold calculateTotalFees
  rw [h.settings, h.controller]

end KeepsSupply

/-! ## What moves -/

/-- Tokens go from one account to another, and nothing else changes but the record of calls. -/
def Transfers (w w' : World) (token sender receiver : Address) (amount : ℕ) : Prop :=
  ∃ t calls, Moved (w.tokens token) t sender receiver amount ∧
    w' = { w.setTokenLedger token t with calls := calls }

/-- The amounts of the components for a quantity of Sets: the equity and the debt of each
component, times the quantity, rounded in favour of the Set. -/
structure AmountsFor (s : SetToken) (quantity : ℕ) (isIssue : Bool)
    (amounts : List ComponentUnits) : Prop where
  /-- There is an amount for each component. -/
  components : amounts.map ComponentUnits.component = s.components
  /-- The amounts of a component come from its units. -/
  units : ∀ x ∈ amounts, ∃ units, componentIssuanceUnits s x.component = .ok units ∧
    x.equity = (if isIssue then (units.equity * quantity) ⌈/⌉ preciseUnit
      else units.equity * quantity / preciseUnit) ∧
    x.debt = (if isIssue then units.debt * quantity / preciseUnit
      else (units.debt * quantity) ⌈/⌉ preciseUnit)

section Movement

variable (self : Address) (env : Env) (msgSender setToken recipient : Address) (quantity : ℕ)

/-- The equity of a component is collected from the caller, after which its hooks are called for the
quantity; or the hooks are called first, and the equity is paid out to the recipient. -/
inductive EquityMoves : Bool → ComponentUnits → World → World → Prop
  | none {isIssue : Bool} {x : ComponentUnits} {w : World} (zero : x.equity = 0) :
    EquityMoves isIssue x w w
  | collected {x : ComponentUnits} {w w₁ w' : World} (positive : 0 < x.equity)
    (collect : Transfers w w₁ x.component msgSender setToken x.equity)
    (hooks : executeExternalPositionHooks self env w₁ setToken quantity x.component true true =
      .ok w') : EquityMoves true x w w'
  | paidOut {x : ComponentUnits} {w w₁ w' : World} (positive : 0 < x.equity)
    (hooks : executeExternalPositionHooks self env w setToken quantity x.component false true =
      .ok w₁)
    (payOut : Transfers w₁ w' x.component setToken recipient x.equity) :
    EquityMoves false x w w'

/-- The hooks of a component take out its debt for the quantity, which is then paid to the caller;
or the debt is collected from the caller, and then the hooks repay for the quantity. -/
inductive DebtMoves : Bool → ComponentUnits → World → World → Prop
  | none {isIssue : Bool} {x : ComponentUnits} {w : World} (zero : x.debt = 0) :
    DebtMoves isIssue x w w
  | takenOut {x : ComponentUnits} {w w₁ w' : World} (positive : 0 < x.debt)
    (hooks : executeExternalPositionHooks self env w setToken quantity x.component true false =
      .ok w₁)
    (payOut : Transfers w₁ w' x.component setToken msgSender x.debt) : DebtMoves true x w w'
  | repaid {x : ComponentUnits} {w w₁ w' : World} (positive : 0 < x.debt)
    (collect : Transfers w w₁ x.component msgSender setToken x.debt)
    (hooks : executeExternalPositionHooks self env w₁ setToken quantity x.component false false =
      .ok w') : DebtMoves false x w w'

/-- Components move for a quantity of Sets: an issuance collects the equity of every component and
then takes out the debts, a redemption repays the debts and then pays out the equity. -/
inductive MovesFor : Bool → World → World → Prop
  | issue {amounts : List ComponentUnits} {w w₁ w' : World}
    (amountsFor : AmountsFor (w.setTokens setToken) quantity true amounts)
    (equity : Rounds (EquityMoves self env msgSender setToken recipient quantity true) amounts w w₁)
    (debt : Rounds (DebtMoves self env msgSender setToken quantity true) amounts w₁ w') :
    MovesFor true w w'
  | redeem {amounts : List ComponentUnits} {w w₁ w' : World}
    (amountsFor : AmountsFor (w.setTokens setToken) quantity false amounts)
    (debt : Rounds (DebtMoves self env msgSender setToken quantity false) amounts w w₁)
    (equity : Rounds (EquityMoves self env msgSender setToken recipient quantity false) amounts w₁
      w') : MovesFor false w w'

end Movement

section Resolved

variable {amounts : List ComponentUnits} {isIssue : Bool} {x : ComponentUnits}

/-- The amounts that the module computes. -/
theorem amountsFor_of_calculate {s : SetToken}
    (h : calculateRequiredComponentIssuanceUnits s quantity isIssue = .ok amounts) :
    AmountsFor s quantity isIssue amounts := by
  obtain ⟨hcomponents, hunits⟩ := calculateRequiredComponentIssuanceUnits_eq_ok h
  refine ⟨hcomponents, fun x hx => ?_⟩
  obtain ⟨units, hunit, hnotional⟩ := hunits x hx
  exact ⟨units, hunit, (notionalUnits_eq_ok hnotional).2⟩

theorem transfers_of_transferFrom {token sender receiver : Address} {amount : ℕ}
    (h : ModuleBase.transferFrom self w token sender receiver amount = .ok w') :
    Transfers w w' token sender receiver amount := by
  obtain ⟨t, hmoved, -, rfl⟩ := ModuleBase.transferFrom_spec h
  exact ⟨t, _, hmoved, rfl⟩

theorem transfers_of_strictInvokeTransfer {token payer receiver : Address} {amount : ℕ}
    (h : Invoke.strictInvokeTransfer self env w payer token receiver amount = .ok w') :
    Transfers w w' token payer receiver amount := by
  obtain ⟨t, hmoved, -, -, rfl⟩ := Invoke.strictInvokeTransfer_spec h
  exact ⟨t, _, hmoved, rfl⟩

/-- One round of `_resolveEquityPositions`. -/
theorem equityMoves_of_round
    (h : resolveEquityPosition self env msgSender setToken quantity recipient isIssue w x =
      .ok w') :
    EquityMoves self env msgSender setToken recipient quantity isIssue x w w' := by
  unfold resolveEquityPosition at h
  split_ifs at h with hpos hissue
  · subst hissue
    obtain ⟨w₁, hcollect, hhooks⟩ := bind_eq_ok.mp h
    exact .collected hpos (transfers_of_transferFrom hcollect) hhooks
  · rw [Bool.not_eq_true] at hissue
    subst hissue
    obtain ⟨w₁, hhooks, hpay⟩ := bind_eq_ok.mp h
    exact .paidOut hpos hhooks (transfers_of_strictInvokeTransfer hpay)
  · obtain rfl : w = w' := by simpa using h
    exact .none (Nat.eq_zero_of_not_pos hpos)

/-- One round of `_resolveDebtPositions`. -/
theorem debtMoves_of_round
    (h : resolveDebtPosition self env msgSender setToken quantity isIssue w x = .ok w') :
    DebtMoves self env msgSender setToken quantity isIssue x w w' := by
  unfold resolveDebtPosition at h
  split_ifs at h with hpos hissue
  · subst hissue
    obtain ⟨w₁, hhooks, hpay⟩ := bind_eq_ok.mp h
    exact .takenOut hpos hhooks (transfers_of_strictInvokeTransfer hpay)
  · rw [Bool.not_eq_true] at hissue
    subst hissue
    obtain ⟨w₁, hcollect, hhooks⟩ := bind_eq_ok.mp h
    exact .repaid hpos (transfers_of_transferFrom hcollect) hhooks
  · obtain rfl : w = w' := by simpa using h
    exact .none (Nat.eq_zero_of_not_pos hpos)

end Resolved

/-! ## The supply -/

/-- What is minted for a fee is the fee exactly when there is none, or the protocol takes less
than all of it. -/
theorem mintedFees_eq_iff {managerFee protocolFee fee split : ℕ}
    (hprotocol : protocolFee = fee * split / preciseUnit)
    (hfee : managerFee + protocolFee = fee) :
    mintedFees managerFee protocolFee = fee ↔ fee = 0 ∨ split < preciseUnit := by
  have hmanager : 0 < managerFee ↔ fee ≠ 0 ∧ split < preciseUnit := by
    have hlt : protocolFee < fee ↔ fee * split < fee * preciseUnit := by
      rw [hprotocol, Nat.div_lt_iff_lt_mul preciseUnit_pos]
    rcases Nat.eq_zero_or_pos fee with rfl | hpos
    · simp at hlt
      omega
    · rw [Nat.mul_lt_mul_left hpos] at hlt
      omega
  unfold mintedFees
  split_ifs with h <;> omega

/-- What a successful issuance moves, and the supply after it. -/
private theorem moves_of_issue (hooks : HooksKeepSupply setToken env)
    (h : issue self env w msgSender setToken quantity recipient = .ok w') :
    ∃ fees w₁ w₂, calculateTotalFees self w setToken quantity true = .ok fees ∧
      callPreIssueHooks self env w msgSender setToken quantity recipient = .ok w₁ ∧
      MovesFor self env msgSender setToken recipient fees.totalQuantity true w₁ w₂ ∧
      (∀ c a, (w₂.tokens c).balances a ≤ (w'.tokens c).balances a) ∧
      w'.totalSupply setToken =
        w.totalSupply setToken + mintedFees fees.managerFee fees.protocolFee + quantity := by
  simp only [issue, issueAfterHooks, bind_eq_ok] at h
  obtain ⟨w₁, hhooks, fees, hfees, units, hunits, w₂, hequity, w₃, hdebt, w₄, hresolve, hmint⟩ := h
  have hpre := KeepsSupply.of_callPreIssueHooks hooks hhooks
  have hkeep := (hpre.trans (.of_resolveEquityPositions hooks hequity)).trans
    (.of_resolveDebtPositions hooks hdebt)
  obtain ⟨-, hsupply, hbal⟩ := resolveFees_spec hresolve
  obtain ⟨-, hsupply', hbal'⟩ := World.flow_of_mint hmint
  have hmoves : MovesFor self env msgSender setToken recipient fees.totalQuantity true w₁ w₃ :=
    .issue (amountsFor_of_calculate hunits)
      (rounds_of_foldlM (fun _ _ _ => equityMoves_of_round) hequity)
      (rounds_of_foldlM (fun _ _ _ => debtMoves_of_round) hdebt)
  refine ⟨fees, w₁, w₃, hpre.calculateTotalFees_eq ▸ hfees, hhooks, hmoves,
    fun c a => (hbal c a).trans (hbal' c a), ?_⟩
  rw [hsupply', hsupply, hkeep.supply]

/-- What a successful redemption moves, and the supply after it. -/
private theorem moves_of_redeem (hooks : HooksKeepSupply setToken env)
    (h : redeem self env w msgSender setToken quantity recipient = .ok w') :
    ∃ fees w₁ w₂ w₃, calculateTotalFees self w setToken quantity false = .ok fees ∧
      callPreRedeemHooks self env w setToken quantity = .ok w₁ ∧
      w₁.burn self setToken msgSender quantity = .ok w₂ ∧
      MovesFor self env msgSender setToken recipient fees.totalQuantity false w₂ w₃ ∧
      (∀ c a, (w₃.tokens c).balances a ≤ (w'.tokens c).balances a) ∧
      w'.totalSupply setToken + quantity =
        w.totalSupply setToken + mintedFees fees.managerFee fees.protocolFee := by
  simp only [redeem, redeemAfterHooks, bind_eq_ok] at h
  obtain ⟨w₁, hhooks, w₂, hburn, fees, hfees, units, hunits, w₃, hdebt, w₄, hequity, hresolve⟩ := h
  have hpre := KeepsSupply.of_callPreRedeemHooks hooks hhooks
  have hkeep := (KeepsSupply.of_resolveDebtPositions hooks hdebt).trans
    (.of_resolveEquityPositions hooks hequity)
  obtain ⟨-, hsupply, hbal⟩ := resolveFees_spec hresolve
  have hburned := hburn
  obtain ⟨-, hle, rfl⟩ := World.burn_spec hburned
  have hmoves : MovesFor self env msgSender setToken recipient fees.totalQuantity false _ w₄ :=
    .redeem (amountsFor_of_calculate hunits)
      (rounds_of_foldlM (fun _ _ _ => debtMoves_of_round) hdebt)
      (rounds_of_foldlM (fun _ _ _ => equityMoves_of_round) hequity)
  refine ⟨fees, w₁, _, w₄, hpre.calculateTotalFees_eq ▸ hfees, hhooks, hburn, hmoves, hbal, ?_⟩
  have hburnt : w₄.totalSupply setToken + quantity = w.totalSupply setToken := by
    rw [hkeep.supply, ← hpre.supply]
    simpa [World.totalSupply, World.setTokenLedger] using Nat.sub_add_cancel hle
  omega

/-- **Supply and collateral**: after the hooks, an issuance collects equity and takes out debt for
the quantity with fees, and takes no tokens after that; it raises the supply by that quantity
exactly when there is no fee or the protocol takes less than all of it. A redemption, after the
hooks and the burning, repays debt and pays out equity for the quantity net of fees, and lowers the
supply by it exactly then. -/
theorem supply_iff (hooks : HooksKeepSupply setToken env) :
    (issue self env w msgSender setToken quantity recipient = .ok w' →
      ∃ fees w₁ w₂, calculateTotalFees self w setToken quantity true = .ok fees ∧
        callPreIssueHooks self env w msgSender setToken quantity recipient = .ok w₁ ∧
        MovesFor self env msgSender setToken recipient fees.totalQuantity true w₁ w₂ ∧
        (∀ c a, (w₂.tokens c).balances a ≤ (w'.tokens c).balances a) ∧
        (w'.totalSupply setToken = w.totalSupply setToken + fees.totalQuantity ↔
          totalFee w setToken quantity true = 0 ∨ protocolFeeSplit self w < preciseUnit)) ∧
      (redeem self env w msgSender setToken quantity recipient = .ok w' →
        ∃ fees w₁ w₂ w₃, calculateTotalFees self w setToken quantity false = .ok fees ∧
          callPreRedeemHooks self env w setToken quantity = .ok w₁ ∧
          w₁.burn self setToken msgSender quantity = .ok w₂ ∧
          MovesFor self env msgSender setToken recipient fees.totalQuantity false w₂ w₃ ∧
          (∀ c a, (w₃.tokens c).balances a ≤ (w'.tokens c).balances a) ∧
          (w'.totalSupply setToken + fees.totalQuantity = w.totalSupply setToken ↔
            totalFee w setToken quantity false = 0 ∨ protocolFeeSplit self w < preciseUnit)) := by
  constructor
  · intro h
    obtain ⟨fees, w₁, w₂, hfees, hhooks, hmoves, hbal, hsupply⟩ := moves_of_issue hooks h
    obtain ⟨hprotocol, hfee, htotal⟩ := calculateTotalFees_spec hfees
    refine ⟨fees, w₁, w₂, hfees, hhooks, hmoves, hbal, ?_⟩
    rw [← mintedFees_eq_iff hprotocol hfee, hsupply]
    simp only [if_true] at htotal
    omega
  · intro h
    obtain ⟨fees, w₁, w₂, w₃, hfees, hhooks, hburn, hmoves, hbal, hsupply⟩ :=
      moves_of_redeem hooks h
    obtain ⟨hprotocol, hfee, htotal⟩ := calculateTotalFees_spec hfees
    refine ⟨fees, w₁, w₂, w₃, hfees, hhooks, hburn, hmoves, hbal, ?_⟩
    have hminted := mintedFees_le fees.managerFee fees.protocolFee
    rw [← mintedFees_eq_iff hprotocol hfee]
    simp only [Bool.false_eq_true, if_false] at htotal
    omega

/-- Without hooks the supply is kept. -/
private theorem hooksKeepSupply_default : HooksKeepSupply setToken {} := by
  have hrefl : ∀ w w', (Except.ok w : Except Revert World) = .ok w' →
      KeepsSupply setToken w w' := by
    intro w w' h
    obtain rfl : w = w' := by simpa using h
    exact .refl _ _
  exact ⟨fun _ _ _ _ w w' h => hrefl w w' h, fun _ _ _ w w' h => hrefl w w' h,
    fun _ _ _ w w' h => hrefl w w' h, fun _ _ _ _ _ w w' h => hrefl w w' h,
    fun _ _ _ _ _ w w' h => hrefl w w' h⟩

/-- A Set at `100` of one token `11`, managed by `3`, with the issuance module `2`, which the owner
`9` of the controller lets take the given share of the manager's fee of one percent. The user `50`
has tokens and Sets. -/
def exampleWorld (split : ℕ) : Except Revert World := do
  let controller : Controller :=
    { owner := 9
      isSet := fun a => a = 100
      isModule := fun a => a = 2
      feeRecipient := 60 }
  let controller ← controller.addFee 9 2 0 split
  let w : World :=
    { controller := controller
      tokens := fun a =>
        if a = 11 then
          { balances := fun b => if b = 50 then 10 ^ 30 else 10 ^ 19
            allowances := fun _ _ => 10 ^ 30 }
        else { balances := fun b => if b = 50 then 10 ^ 19 else 0, totalSupply := 10 ^ 19 }
      setTokens := fun _ =>
        { manager := 3
          moduleStates := fun _ => .initialized
          components := [11]
          componentPositions := fun _ => { virtualUnit := 10 ^ 18 } }
      issuanceSettings := fun _ => { maxManagerFee := 10 ^ 17, feeRecipient := 61 } }
  let w ← updateIssueFee 2 w 3 100 (10 ^ 16)
  updateRedeemFee 2 w 3 100 (10 ^ 16)

/-- Where the protocol takes a tenth of the fee, the supply rises and falls by what components
moved for. -/
theorem supply_iff_example :
    ∃ w w₁ w₂, exampleWorld (10 ^ 17) = .ok w ∧ issue 2 {} w 50 100 (10 ^ 18) 50 = .ok w₁ ∧
      (∃ fees, calculateTotalFees 2 w 100 (10 ^ 18) true = .ok fees ∧
        w₁.totalSupply 100 = w.totalSupply 100 + fees.totalQuantity) ∧
      redeem 2 {} w 50 100 (10 ^ 18) 50 = .ok w₂ ∧
      ∃ fees, calculateTotalFees 2 w 100 (10 ^ 18) false = .ok fees ∧
        w₂.totalSupply 100 + fees.totalQuantity = w.totalSupply 100 := by
  obtain ⟨w, hw, h⟩ := exists_of_yields (x := exampleWorld (10 ^ 17))
    (p := fun w => yields (issue 2 {} w 50 100 (10 ^ 18) 50) (fun _ => true) &&
      yields (redeem 2 {} w 50 100 (10 ^ 18) 50) (fun _ => true) &&
      decide (protocolFeeSplit 2 w < preciseUnit)) (by decide +kernel)
  simp only [Bool.and_eq_true, decide_eq_true_eq] at h
  obtain ⟨⟨hissue, hredeem⟩, hsplit⟩ := h
  obtain ⟨w₁, hw₁, -⟩ := exists_of_yields hissue
  obtain ⟨w₂, hw₂, -⟩ := exists_of_yields hredeem
  obtain ⟨fees, -, -, hfees, -, -, -, hsupply⟩ := (supply_iff hooksKeepSupply_default).1 hw₁
  obtain ⟨fees', -, -, -, hfees', -, -, -, -, hsupply'⟩ :=
    (supply_iff hooksKeepSupply_default).2 hw₂
  exact ⟨w, w₁, w₂, hw, hw₁, ⟨fees, hfees, hsupply.mpr (.inr hsplit)⟩, hw₂, fees', hfees',
    hsupply'.mpr (.inr hsplit)⟩

/-- The controller accepts that the protocol takes the whole fee. An issuance of one Set then
collects for a hundredth of a Set more, and does not mint it. -/
theorem issue_mints_no_fee :
    ∃ w w' fees, exampleWorld (10 ^ 18) = .ok w ∧
      issue 2 {} w 50 100 (10 ^ 18) 50 = .ok w' ∧
      calculateTotalFees 2 w 100 (10 ^ 18) true = .ok fees ∧
      w'.totalSupply 100 ≠ w.totalSupply 100 + fees.totalQuantity := by
  obtain ⟨w, hw, h⟩ := exists_of_yields (x := exampleWorld (10 ^ 18))
    (p := fun w => yields (issue 2 {} w 50 100 (10 ^ 18) 50) fun w' =>
      yields (calculateTotalFees 2 w 100 (10 ^ 18) true) fun fees =>
        w'.totalSupply 100 ≠ w.totalSupply 100 + fees.totalQuantity) (by decide +kernel)
  obtain ⟨w', hw', h⟩ := exists_of_yields h
  obtain ⟨fees, hfees, h⟩ := exists_of_yields h
  exact ⟨w, w', fees, hw, hw', hfees, of_decide_eq_true h⟩

end IssuanceSupply

end SetProtocol
