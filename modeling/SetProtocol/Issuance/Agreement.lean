import SetProtocol.Issuance.Default

set_option relaxedAutoImplicit false
set_option autoImplicit false

/-!
# The three issuance modules agree

Each of the three issuance modules does on a Set with default positions what issuance and redemption
are for, at its own address. What is left to compare is one program at two addresses. It asks the
Set whether the module is initialized, enabled and not locked out, and the components whether the
caller approved the module. Where the answers are the same for both addresses, balances, supplies
and positions change alike; what differs are the allowances that are used up, and the log.

## Main definitions

* `SetProtocol.IssuanceAgreement.SameStanding` — two modules that are treated alike.
* `SetProtocol.IssuanceAgreement.SameOutcome` — the same balances, supplies and positions.

## Main results

* `SetProtocol.IssuanceAgreement.issuanceModules_agree` — the three modules agree.
* `SetProtocol.IssuanceAgreement.issuanceModules_differ` — they do not where the caller approved one
  of them only.
-/

namespace SetProtocol

open Checked Lockstep DefaultIssuance

namespace IssuanceAgreement

variable {a b caller setToken recipient : Address} {env : Env} {w₀ w w' : World} {quantity : ℕ}

/-! ## Modules that are treated alike -/

/-- Neither the Set nor the components tell the two modules apart. -/
structure SameStanding (a b caller setToken : Address) (w : World) : Prop where
  /-- Both are contracts. -/
  deployed : a ≠ zeroAddress ∧ b ≠ zeroAddress
  /-- They are initialized on the Set together. -/
  initialized : (w.setTokens setToken).moduleStates a = .initialized ↔
    (w.setTokens setToken).moduleStates b = .initialized
  /-- They are enabled on the controller together. -/
  enabled : w.controller.isModule a = true ↔ w.controller.isModule b = true
  /-- A lock keeps out both or none. -/
  locker : (w.setTokens setToken).isLocked = true →
    (a = (w.setTokens setToken).locker ↔ b = (w.setTokens setToken).locker)
  /-- The caller approved them for the same amounts. -/
  allowances : ∀ token, (w.tokens token).allowances caller a =
    (w.tokens token).allowances caller b

/-- Balances, supplies and positions are the same. -/
structure SameOutcome (w w' : World) : Prop where
  /-- The positions, and all other storage of the Sets. -/
  setTokens : w'.setTokens = w.setTokens
  /-- The balances of all tokens, Sets included. -/
  balances : ∀ token, (w'.tokens token).balances = (w.tokens token).balances
  /-- The supplies. -/
  totalSupply : ∀ token, (w'.tokens token).totalSupply = (w.tokens token).totalSupply

/-! ## Ledgers -/

/-- Two ledgers that differ in allowances only, and not in those that the caller gave to the modules
by which they are used. -/
structure SameLedger (a b caller : Address) (t t' : ERC20) : Prop where
  /-- The balances are the same. -/
  balances : t'.balances = t.balances
  /-- The supply is the same. -/
  totalSupply : t'.totalSupply = t.totalSupply
  /-- The caller approved each module for the same amount. -/
  allowance : t.allowances caller a = t'.allowances caller b

section Ledgers

variable {t t' : ERC20} {sender account : Address} {amount : ℕ}

/-- Ledgers with the same balances after the same transfer. -/
theorem SameLedger.transferred (h : SameLedger a b caller t t') :
    SameLedger a b caller (t.transferred sender recipient amount)
      (t'.transferred sender recipient amount) := by
  refine ⟨?_, h.totalSupply, h.allowance⟩
  unfold ERC20.transferred
  rw [h.balances]

/-- `_transfer`. -/
theorem agree_move (h : SameLedger a b caller t t') :
    Agree (SameLedger a b caller) (t.move sender recipient amount)
      (t'.move sender recipient amount) := by
  refine (agree_require Iff.rfl).bind fun _ _ _ _ _ => ?_
  refine (agree_require Iff.rfl).bind fun _ _ _ _ _ => ?_
  refine (agree_require (by rw [h.balances])).bind fun _ _ _ _ _ => ?_
  refine (agree_require (by rw [h.transferred.balances])).bind fun _ _ _ _ _ => ?_
  exact h.transferred

/-- `transferFrom` by each module. -/
theorem agree_transferFrom (ha : a ≠ zeroAddress) (hb : b ≠ zeroAddress)
    (h : SameLedger a b caller t t') :
    Agree (SameLedger a b caller) (t.transferFrom a caller recipient amount)
      (t'.transferFrom b caller recipient amount) := by
  refine (agree_move h).bind fun t₁ t₁' _ _ h₁ => ?_
  refine (agree_require (by rw [h₁.allowance])).bind fun _ _ _ _ _ => ?_
  refine (agree_require Iff.rfl).bind fun _ _ _ _ _ => ?_
  refine (agree_require (iff_of_true ha hb)).bind fun _ _ _ _ _ => ?_
  refine ⟨h₁.balances, h₁.totalSupply, ?_⟩
  simp [h₁.allowance]

/-- `_mint`. -/
theorem agree_mint (h : SameLedger a b caller t t') :
    Agree (SameLedger a b caller) (t.mint account amount) (t'.mint account amount) := by
  unfold ERC20.mint
  rw [h.balances, h.totalSupply]
  refine agree_bind_same fun _ _ => ?_
  refine agree_bind_same fun supply _ => ?_
  refine agree_bind_same fun balance _ => ?_
  exact ⟨rfl, rfl, h.allowance⟩

/-- `_burn`. -/
theorem agree_burn (h : SameLedger a b caller t t') :
    Agree (SameLedger a b caller) (t.burn account amount) (t'.burn account amount) := by
  unfold ERC20.burn
  rw [h.balances, h.totalSupply]
  refine agree_bind_same fun _ _ => ?_
  refine agree_bind_same fun _ _ => ?_
  refine agree_bind_same fun supply _ => ?_
  exact ⟨rfl, rfl, h.allowance⟩

end Ledgers

/-! ## Worlds -/

/-- Two worlds that the same calls by the two modules lead to: the Sets and the controller are as at
first. -/
structure Alike (a b caller : Address) (w₀ w w' : World) : Prop where
  /-- The Sets are as at first. -/
  left : w.setTokens = w₀.setTokens ∧ w.controller = w₀.controller
  /-- On both sides. -/
  right : w'.setTokens = w₀.setTokens ∧ w'.controller = w₀.controller
  /-- The ledgers are alike. -/
  tokens : ∀ token, SameLedger a b caller (w.tokens token) (w'.tokens token)

/-- A world is like itself. -/
theorem Alike.refl (h : SameStanding a b caller setToken w) : Alike a b caller w w w :=
  ⟨⟨rfl, rfl⟩, ⟨rfl, rfl⟩, fun token => ⟨rfl, rfl, h.allowances token⟩⟩

/-- What is alike is the same outcome. -/
theorem Alike.sameOutcome (h : Alike a b caller w₀ w w') : SameOutcome w w' :=
  ⟨h.right.1.trans h.left.1.symm, fun token => (h.tokens token).balances,
    fun token => (h.tokens token).totalSupply⟩

/-- Calls of a token. -/
theorem Alike.editToken {token : Address} {f g : ERC20 → Except Revert ERC20}
    (h : Alike a b caller w₀ w w')
    (hcall : Agree (SameLedger a b caller) (f (w.tokens token)) (g (w'.tokens token))) :
    Agree (Alike a b caller w₀) (w.editToken token f) (w'.editToken token g) := by
  refine hcall.bind fun t t' _ _ hledger => ?_
  refine ⟨h.left, h.right, fun x => ?_⟩
  show SameLedger a b caller (Function.update w.tokens token t x)
    (Function.update w'.tokens token t' x)
  rcases eq_or_ne x token with rfl | hx
  · rw [Function.update_self, Function.update_self]
    exact hledger
  · rw [Function.update_of_ne hx, Function.update_of_ne hx]
    exact h.tokens x

/-- The modifier for initialized Sets. -/
theorem agree_onlyValid (standing : SameStanding a b caller setToken w) :
    Agree (fun _ _ => True) (ModuleBase.onlyValidAndInitializedSet a w setToken)
      (ModuleBase.onlyValidAndInitializedSet b w setToken) := by
  refine agree_require ?_
  simp only [ModuleBase.isSetValidAndInitialized, SetToken.isInitializedModule, Bool.and_eq_true,
    decide_eq_true_eq, standing.initialized]

/-- The modifiers of the functions of a Set for modules. -/
theorem agree_privileged (standing : SameStanding a b caller setToken w₀)
    (h : Alike a b caller w₀ w w') :
    Agree (fun _ _ => True) (SetToken.privileged (w.message a) (w.setTokens setToken))
      (SetToken.privileged (w'.message b) (w'.setTokens setToken)) := by
  rw [agree_iff]
  simp only [SetToken.privileged_eq_ok]
  have hiff : SetToken.Authorised (w.message a) (w.setTokens setToken) ↔
      SetToken.Authorised (w'.message b) (w'.setTokens setToken) := by
    unfold World.message
    rw [h.left.1, h.left.2, h.right.1, h.right.2]
    constructor
    · intro hauth
      refine ⟨standing.initialized.mp hauth.initialized, standing.enabled.mp hauth.enabled, ?_⟩
      exact fun hlock => (standing.locker hlock).mp (hauth.locker hlock)
    · intro hauth
      refine ⟨standing.initialized.mpr hauth.initialized, standing.enabled.mpr hauth.enabled, ?_⟩
      exact fun hlock => (standing.locker hlock).mpr (hauth.locker hlock)
  exact ⟨fun u hu => ⟨u, hiff.mp hu, trivial⟩, fun u hu => ⟨u, hiff.mpr hu, trivial⟩⟩

/-- The balance checks around a transfer read the same numbers on both sides. -/
theorem Alike.balance (h : Alike a b caller w₀ w w') (token account : Address) :
    (w'.tokens token).balances account = (w.tokens token).balances account := by
  rw [(h.tokens token).balances]

section Calls

variable (standing : SameStanding a b caller setToken w₀)

include standing

/-- The library function `transferFrom`. -/
theorem agree_collect (h : Alike a b caller w₀ w w') {token : Address} {amount : ℕ} :
    Agree (Alike a b caller w₀) (ModuleBase.transferFrom a w token caller recipient amount)
      (ModuleBase.transferFrom b w' token caller recipient amount) := by
  unfold ModuleBase.transferFrom
  split
  · obtain ⟨ha, hb⟩ := standing.deployed
    refine Agree.bind (R := Alike a b caller w₀) ?_ fun w₁ w₁' _ _ h₁ => ?_
    · exact Alike.editToken ⟨h.left, h.right, h.tokens⟩ (agree_transferFrom ha hb (h.tokens token))
    · rw [h.balance, h₁.balance]
      refine agree_bind_same fun expected _ => ?_
      exact (agree_require Iff.rfl).bind fun _ _ _ _ _ => h₁
  · exact h

/-- `strictInvokeTransfer`. -/
theorem agree_pay (h : Alike a b caller w₀ w w') {token : Address} {amount : ℕ} :
    Agree (Alike a b caller w₀)
      (Invoke.strictInvokeTransfer a env w setToken token recipient amount)
      (Invoke.strictInvokeTransfer b env w' setToken token recipient amount) := by
  unfold Invoke.strictInvokeTransfer Invoke.invokeTransfer
  split
  · refine Agree.bind (R := Alike a b caller w₀) ?_ fun w₁ w₁' _ _ h₁ => ?_
    · refine Agree.bind (R := fun r r' => Alike a b caller w₀ r.1 r'.1) ?_ ?_
      · refine (agree_privileged standing h).bind fun _ _ _ _ _ => ?_
        refine Agree.bind (R := Alike a b caller w₀) ?_ fun _ _ _ _ h₁ => h₁
        exact Alike.editToken ⟨h.left, h.right, h.tokens⟩ (agree_move (h.tokens token))
      · rintro ⟨w₁, _⟩ ⟨w₁', _⟩ - - h₁
        exact h₁
    · rw [h.balance, h₁.balance]
      refine agree_bind_same fun expected _ => ?_
      exact (agree_require Iff.rfl).bind fun _ _ _ _ _ => h₁
  · exact h

/-- `SetToken.mint`. -/
theorem agree_mintSets (h : Alike a b caller w₀ w w') :
    Agree (Alike a b caller w₀) (w.mint a setToken recipient quantity)
      (w'.mint b setToken recipient quantity) :=
  (agree_privileged standing h).bind fun _ _ _ _ _ =>
    Alike.editToken h (agree_mint (h.tokens setToken))

/-- `SetToken.burn`. -/
theorem agree_burnSets (h : Alike a b caller w₀ w w') :
    Agree (Alike a b caller w₀) (w.burn a setToken caller quantity)
      (w'.burn b setToken caller quantity) :=
  (agree_privileged standing h).bind fun _ _ _ _ _ =>
    Alike.editToken h (agree_burn (h.tokens setToken))

end Calls

/-! ## One program at two addresses -/

/-- Issuance at two addresses. -/
theorem agree_issueDefault (standing : SameStanding a b caller setToken w) :
    Agree SameOutcome (issueDefault a w caller setToken quantity recipient)
      (issueDefault b w caller setToken quantity recipient) := by
  refine Agree.mono (R := Alike a b caller w) ?_ fun _ _ h => h.sameOutcome
  refine (agree_onlyValid standing).bind fun _ _ _ _ _ => ?_
  refine (agree_require Iff.rfl).bind fun _ _ _ _ _ => ?_
  refine agree_bind_same fun due _ => ?_
  refine Agree.bind (R := Alike a b caller w) ?_ fun w₁ w₁' _ _ h₁ => ?_
  · refine Agree.foldlM (forall₂_self due) ?_ (Alike.refl standing)
    rintro x _ w₁ w₁' ⟨rfl, -⟩ h₁
    exact agree_collect standing h₁
  · exact agree_mintSets standing h₁

/-- Redemption at two addresses. -/
theorem agree_redeemDefault (standing : SameStanding a b caller setToken w) :
    Agree SameOutcome (redeemDefault a env w caller setToken quantity recipient)
      (redeemDefault b env w caller setToken quantity recipient) := by
  refine Agree.mono (R := Alike a b caller w) ?_ fun _ _ h => h.sameOutcome
  refine (agree_onlyValid standing).bind fun _ _ _ _ _ => ?_
  refine (agree_require Iff.rfl).bind fun _ _ _ _ _ => ?_
  refine (agree_burnSets standing (Alike.refl standing)).bind fun w₁ w₁' _ _ h₁ => ?_
  rw [h₁.left.1, h₁.right.1]
  refine agree_bind_same fun due _ => ?_
  refine Agree.foldlM (forall₂_self due) ?_ h₁
  rintro x _ w₂ w₂' ⟨rfl, -⟩ h₂
  exact agree_pay standing h₂

/-! ## The three modules -/

variable {basic issuance debt : Address}

/-- **The three issuance modules agree**: on a Set with default positions only, without hooks and
without fees, for modules that the Set and the components do not tell apart, and for every quantity,
caller and recipient, the issuances by the three modules all revert, or all succeed with the same
balances, supplies and positions, and so do the redemptions.

**Proof sketch.** At its own address each module does what issuance and redemption are for. That
program does the same at two addresses that are treated alike. -/
theorem issuanceModules_agree (plain : Plain w setToken) (hquantity : InUint256 quantity)
    (standing : SameStanding basic issuance caller setToken w)
    (standing' : SameStanding basic debt caller setToken w) :
    (Agree SameOutcome
        (BasicIssuanceModule.issue basic env w caller setToken quantity recipient)
        (IssuanceModule.issue issuance env w caller setToken quantity recipient) ∧
      Agree SameOutcome
        (BasicIssuanceModule.issue basic env w caller setToken quantity recipient)
        (DebtIssuanceModule.issue debt env w caller setToken quantity recipient)) ∧
    (Agree SameOutcome
        (BasicIssuanceModule.redeem basic env w caller setToken quantity recipient)
        (IssuanceModule.redeem issuance env w caller setToken quantity recipient) ∧
      Agree SameOutcome
        (BasicIssuanceModule.redeem basic env w caller setToken quantity recipient)
        (DebtIssuanceModule.redeem debt env w caller setToken quantity recipient)) := by
  refine ⟨⟨?_, ?_⟩, ⟨?_, ?_⟩⟩
  · exact (agree_basicIssue plain).symm_eq.eq_left
      ((agree_issueDefault standing).eq_right (agree_issuanceIssue plain))
  · exact (agree_basicIssue plain).symm_eq.eq_left
      ((agree_issueDefault standing').eq_right (agree_debtIssue plain hquantity))
  · exact (agree_basicRedeem plain).symm_eq.eq_left
      ((agree_redeemDefault standing).eq_right (agree_issuanceRedeem plain))
  · exact (agree_basicRedeem plain).symm_eq.eq_left
      ((agree_redeemDefault standing').eq_right (agree_debtRedeem plain hquantity))

/-! ## Examples -/

/-- The Set `100` has half of the token `11` and one of the token `12` in default positions. The
three modules are at `1`, `2` and `3`. The user `50` has tokens and one Set, and has approved the
modules for these amounts. -/
def exampleWorld (approved : Address → ℕ) : World where
  controller :=
    { isSet := fun a => a = 100
      isModule := fun a => a = 1 ∨ a = 2 ∨ a = 3 }
  tokens := fun a =>
    if a = 11 ∨ a = 12 then
      { balances := fun b => if b = 50 ∨ b = 100 then 10 ^ 20 else 0
        allowances := fun _ spender => approved spender
        totalSupply := 2 * 10 ^ 20 }
    else
      { balances := fun b => if b = 50 then 10 ^ 18 else 0
        allowances := fun _ spender => approved spender
        totalSupply := 10 ^ 18 }
  setTokens := fun _ =>
    { modules := [1, 2, 3]
      moduleStates := fun a => if a = 1 ∨ a = 2 ∨ a = 3 then .initialized else .none
      components := [11, 12]
      componentPositions := fun c =>
        if c = 11 then { virtualUnit := 5 * 10 ^ 17 } else { virtualUnit := 10 ^ 18 } }

private theorem plain_exampleWorld (approved : Address → ℕ) :
    Plain (exampleWorld approved) 100 := by
  refine ⟨fun c _ => ?_, rfl, rfl, rfl, rfl, rfl, rfl⟩
  unfold SetToken.externalPositionModules exampleWorld
  dsimp only
  split
  · rfl
  · rfl

private theorem sameStanding_exampleWorld {a b : Address} (ha : a = 1 ∨ a = 2 ∨ a = 3)
    (hb : b = 1 ∨ b = 2 ∨ b = 3) :
    SameStanding a b 50 100 (exampleWorld fun _ => 10 ^ 30) := by
  refine ⟨⟨?_, ?_⟩, ?_, ?_, fun h => ?_, fun token => ?_⟩
  · rcases ha with rfl | rfl | rfl <;> decide
  · rcases hb with rfl | rfl | rfl <;> decide
  · exact iff_of_true (if_pos ha) (if_pos hb)
  · exact iff_of_true (decide_eq_true ha) (decide_eq_true hb)
  · cases h
  · unfold exampleWorld
    dsimp only
    split
    · rfl
    · rfl

/-- The user has approved all modules. Three Sets are issued, for one and a half of the first token
and three of the second one. -/
theorem issuanceModules_agree_example :
    ∃ w', BasicIssuanceModule.issue 1 {} (exampleWorld fun _ => 10 ^ 30) 50 100 (3 * 10 ^ 18) 50 =
        .ok w' ∧ w'.totalSupply 100 = 4 * 10 ^ 18 ∧
      (w'.tokens 11).balances 50 = 10 ^ 20 - 15 * 10 ^ 17 ∧
      Agree SameOutcome
        (BasicIssuanceModule.issue 1 {} (exampleWorld fun _ => 10 ^ 30) 50 100 (3 * 10 ^ 18) 50)
        (DebtIssuanceModule.issue 3 {} (exampleWorld fun _ => 10 ^ 30) 50 100 (3 * 10 ^ 18)
          50) := by
  obtain ⟨w', hissue, hbalances⟩ := exists_of_yields
    (x := BasicIssuanceModule.issue 1 {} (exampleWorld fun _ => 10 ^ 30) 50 100 (3 * 10 ^ 18) 50)
    (p := fun w' => w'.totalSupply 100 = 4 * 10 ^ 18 ∧
      (w'.tokens 11).balances 50 = 10 ^ 20 - 15 * 10 ^ 17) (by decide +kernel)
  obtain ⟨hsupply, hpaid⟩ := of_decide_eq_true hbalances
  refine ⟨w', hissue, hsupply, hpaid, ?_⟩
  exact (issuanceModules_agree (plain_exampleWorld fun _ => 10 ^ 30) (by decide)
    (sameStanding_exampleWorld (.inl rfl) (.inr (.inl rfl)))
    (sameStanding_exampleWorld (.inl rfl) (.inr (.inr rfl)))).1.2

/-- The user has approved the first module only. It issues, and the second module reverts. -/
theorem issuanceModules_differ :
    Plain (exampleWorld fun spender => if spender = 1 then 10 ^ 30 else 0) 100 ∧
      ¬Agree SameOutcome
        (BasicIssuanceModule.issue 1 {}
          (exampleWorld fun spender => if spender = 1 then 10 ^ 30 else 0) 50 100 (10 ^ 18) 50)
        (IssuanceModule.issue 2 {}
          (exampleWorld fun spender => if spender = 1 then 10 ^ 30 else 0) 50 100 (10 ^ 18)
          50) := by
  refine ⟨plain_exampleWorld _, fun hagree => ?_⟩
  obtain ⟨w', hissue, -⟩ := exists_of_yields
    (x := BasicIssuanceModule.issue 1 {}
      (exampleWorld fun spender => if spender = 1 then 10 ^ 30 else 0) 50 100 (10 ^ 18) 50)
    (p := fun _ => true) (by decide +kernel)
  obtain ⟨w'', hissue', -⟩ := (agree_iff.mp hagree).1 w' hissue
  have hrevert : (IssuanceModule.issue 2 {}
      (exampleWorld fun spender => if spender = 1 then 10 ^ 30 else 0) 50 100 (10 ^ 18)
      50).isOk = false := by decide +kernel
  rw [hissue'] at hrevert
  cases hrevert

end IssuanceAgreement

end SetProtocol
