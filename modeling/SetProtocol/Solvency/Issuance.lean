import SetProtocol.Issuance.Collateral
import SetProtocol.Modules.IssuanceModule
import SetProtocol.Solvency.Accounts

set_option relaxedAutoImplicit false
set_option autoImplicit false

/-!
# Issuance as an exchange

The three issuance modules exchange Sets for components. What they collect for a quantity is rounded
up and what they pay out for it is rounded down, component by component; so the users of a Set,
whatever they do in whatever order, take nothing from it beyond what their Sets stand for. This
does not ask that the Set was backed before.

## Main definitions

* `SetProtocol.Solvency.UserAction`, `userStep` — issuance and redemption in the three modules,
  token transfers and changes of configuration.

## Main results

* `SetProtocol.Solvency.exchange_basicIssue`, `exchange_basicRedeem`, `exchange_issue`,
  `exchange_redeem`, `exchange_debtIssue`, `exchange_debtRedeem` — the functions of the modules.
* `SetProtocol.Solvency.surplus_of_run` — no run of user actions takes anything of what a Set holds
  beyond its supply.
-/

namespace SetProtocol

open Checked Transition IssuanceRun

namespace Solvency

variable {self setToken msgSender recipient : Address} {env : Env} {w w₁ w₂ w' : World}
  {quantity : ℕ} {s : SetToken}

/-! ## Exchanges from flows -/

/-- The call is an exchange of the fund and leaves the positions of the Set alone. -/
structure Exchanged (setToken : Address) (w w' : World) : Prop where
  /-- The positions are unchanged. -/
  positions : w'.setTokens setToken = w.setTokens setToken
  /-- The exchange. -/
  exchange : Funds.Exchange preciseUnit (fund setToken w) (fund setToken w')

namespace Exchanged

/-- The units are those of the positions. -/
theorem unit_fund_of_positions (h : w'.setTokens setToken = w.setTokens setToken) :
    (fund setToken w').unit = (fund setToken w).unit := by
  funext c
  exact congrArg (unit · c) h

/-- A call that takes nothing from the Set exchanges nothing. -/
theorem of_spares (h : Spares setToken w w') : Exchanged setToken w w' := by
  refine ⟨h.positions, .deposit 0 (unit_fund_of_positions h.positions) h.supply.le fun c => ?_⟩
  have hbalance := h.balances c
  rw [Nat.mul_zero, zero_ceilDiv]
  exact hbalance

/-- A call that takes nothing from the Set may come before an exchange. -/
theorem spares_trans (h : Spares setToken w w₁) (h₁ : Exchanged setToken w₁ w') :
    Exchanged setToken w w' := by
  have hunits := unit_fund_of_positions h.positions
  have hsupply : (fund setToken w₁).supply = (fund setToken w).supply := h.supply
  have hholding : ∀ c, (fund setToken w).holding c ≤ (fund setToken w₁).holding c :=
    fun c => h.balances c
  refine ⟨h₁.positions.trans h.positions, ?_⟩
  cases h₁.exchange with
  | deposit quantity units issued paid =>
    rw [hunits] at units
    rw [hsupply] at issued
    refine .deposit quantity units issued fun c => ?_
    have hpaid := paid c
    rw [hunits] at hpaid
    exact (Nat.add_le_add_right (hholding c) _).trans hpaid
  | withdraw quantity units returned paid =>
    rw [hunits] at units
    rw [hsupply] at returned
    refine .withdraw quantity units returned fun c => ?_
    have hpaid := paid c
    rw [hunits] at hpaid
    exact (hholding c).trans hpaid

end Exchanged

section Flows

variable {β : Type} {key : β → Address} {amount : β → ℕ} {l : List β}

/-- Amounts for the components of a sound Set, each a share of its unit, are shares of the units of
all tokens. -/
theorem sum_only_units (share : ℕ → ℕ) (hs : Sound s) (hkeys : l.map key = s.components)
    (hzero : share 0 = 0) (hamount : ∀ b ∈ l, amount b = share (unit s (key b))) (c : Address) :
    (l.map fun b => only (key b) (amount b) c).sum = share (unit s c) := by
  by_cases hc : c ∈ s.components
  · rw [← hkeys] at hc
    obtain ⟨b, hb, rfl⟩ := List.mem_map.mp hc
    rw [Flow.sum_only key amount (hkeys ▸ hs.nodup) hb, hamount b hb]
  · rw [hs.unit_eq_zero hc, hzero]
    apply List.sum_eq_zero
    intro n hn
    obtain ⟨b, hb, rfl⟩ := List.mem_map.mp hn
    have hne : c ≠ key b := by
      intro he
      rw [← hkeys, he] at hc
      exact hc (List.mem_map_of_mem hb)
    rw [only, if_neg hne]

/-- A loop collects each component rounded up, and at most the quantity is minted. -/
theorem exchange_of_collection (quantity : ℕ) (hs : Sound (w.setTokens setToken))
    (hkeys : l.map key = (w.setTokens setToken).components)
    (hamount : ∀ b ∈ l, amount b =
      (unit (w.setTokens setToken) (key b) * quantity) ⌈/⌉ preciseUnit)
    (hflow : Flow setToken w w₁ (fun c => (l.map fun b => only (key b) (amount b) c).sum)
      (fun c => (l.map fun b => only (key b) 0 c).sum))
    (hset : w'.setTokens = w₁.setTokens)
    (hsupply : w'.totalSupply setToken ≤ w₁.totalSupply setToken + quantity)
    (hbal : ∀ c, (w₁.tokens c).balances setToken ≤ (w'.tokens c).balances setToken) :
    Exchanged setToken w w' := by
  have hpos : w'.setTokens setToken = w.setTokens setToken := by rw [hset, hflow.positions]
  refine ⟨hpos, .deposit quantity (Exchanged.unit_fund_of_positions hpos) ?_ fun c => ?_⟩
  · change w'.totalSupply setToken ≤ w.totalSupply setToken + quantity
    rw [← hflow.supply]
    exact hsupply
  · have hinto := hflow.balances c
    have hzero : (l.map fun b => only (key b) 0 c).sum = 0 := by simp [only]
    rw [sum_only_units (fun u => (u * quantity) ⌈/⌉ preciseUnit) hs hkeys
      (by rw [Nat.zero_mul, zero_ceilDiv]) hamount, hzero] at hinto
    exact hinto.trans (hbal c)

/-- After at least the quantity is burnt, a loop pays out each component rounded down. -/
theorem exchange_of_payment (quantity : ℕ) (hs : Sound (w.setTokens setToken))
    (hset₁ : w₁.setTokens = w.setTokens)
    (hbal₁ : ∀ c, (w₁.tokens c).balances setToken = (w.tokens c).balances setToken)
    (hkeys : l.map key = (w.setTokens setToken).components)
    (hamount : ∀ b ∈ l, amount b = unit (w.setTokens setToken) (key b) * quantity / preciseUnit)
    (hflow : Flow setToken w₁ w₂ (fun c => (l.map fun b => only (key b) 0 c).sum)
      (fun c => (l.map fun b => only (key b) (amount b) c).sum))
    (hset : w'.setTokens = w₂.setTokens)
    (hsupply : w'.totalSupply setToken + quantity ≤ w.totalSupply setToken)
    (hbal : ∀ c, (w₂.tokens c).balances setToken ≤ (w'.tokens c).balances setToken) :
    Exchanged setToken w w' := by
  have hpos : w'.setTokens setToken = w.setTokens setToken := by
    rw [hset, hflow.positions, hset₁]
  refine ⟨hpos, .withdraw quantity (Exchanged.unit_fund_of_positions hpos) hsupply fun c => ?_⟩
  have hout := hflow.balances c
  have hzero : (l.map fun b => only (key b) 0 c).sum = 0 := by simp [only]
  rw [sum_only_units (fun u => u * quantity / preciseUnit) hs hkeys
    (by rw [Nat.zero_mul, Nat.zero_div]) hamount, hzero, hbal₁] at hout
  exact hout.trans (Nat.add_le_add_right (hbal c) _)

end Flows

/-! ## The functions of the modules -/

/-- `BasicIssuanceModule.issue`. -/
theorem exchange_basicIssue (hooks : HooksSpare setToken env) (hs : Sound (w.setTokens setToken))
    (h : BasicIssuanceModule.issue self env w msgSender setToken quantity recipient = .ok w') :
    Exchanged setToken w w' := by
  simp only [BasicIssuanceModule.issue, BasicIssuanceModule.getRequiredComponentUnitsForIssue,
    bind_eq_ok] at h
  obtain ⟨-, -, -, -, w₁, hhook, required, ⟨-, -, hrequired⟩, w₂, hloop, hmint⟩ := h
  have hspare : Spares setToken w w₁ := by
    simp only [BasicIssuanceModule.callPreIssueHooks] at hhook
    split_ifs at hhook
    · exact hooks.manager _ _ _ _ _ _ hhook
    · obtain rfl : w = w₁ := by simpa using hhook
      exact .refl _ _
  have hs₁ : Sound (w₁.setTokens setToken) := hspare.positions ▸ hs
  have hflow := Flow.foldlM Prod.fst Prod.snd (fun _ => 0)
    (fun b _ w w' _ h => Flow.of_transferFrom h) rfl hloop
  have hkeys : required.map Prod.fst = (w₁.setTokens setToken).components := by
    simpa using map_of_mapM_eq_ok (k := id)
      (fun _ _ h => (BasicIssuanceModule.requiredComponentUnit_eq_ok h).1) hrequired
  obtain ⟨hset, hsupply, hbal⟩ := World.flow_of_mint hmint
  refine Exchanged.spares_trans hspare (exchange_of_collection quantity hs₁ hkeys (fun b hb => ?_)
    hflow hset hsupply.le fun c => hbal c setToken)
  obtain ⟨c, -, hreq⟩ := exists_of_mem_mapM hrequired hb
  obtain ⟨rfl, hamount⟩ := BasicIssuanceModule.requiredComponentUnit_eq_ok hreq
  exact hamount

/-- `BasicIssuanceModule.redeem`. -/
theorem exchange_basicRedeem (hs : Sound (w.setTokens setToken)) (hsender : msgSender ≠ setToken)
    (h : BasicIssuanceModule.redeem self env w msgSender setToken quantity recipient = .ok w') :
    Exchanged setToken w w' := by
  simp only [BasicIssuanceModule.redeem, bind_eq_ok] at h
  obtain ⟨-, -, -, -, w₁, hburn, hloop⟩ := h
  obtain ⟨hset, hsupply, hbal⟩ := World.flow_of_burn hburn hsender
  rw [hset] at hloop
  have hflow := Flow.foldlM (s := w.setTokens setToken) id (fun _ => 0)
    (fun c => unit (w.setTokens setToken) c * quantity / preciseUnit)
    (fun c _ w₂ w₃ hw₂ h => by
      have hpaid := Flow.of_strictInvokeTransfer (BasicIssuanceModule.redeemComponent_eq_ok h)
      rw [hw₂] at hpaid
      exact hpaid)
    (by rw [hset]) hloop
  refine exchange_of_payment quantity hs hset hbal (List.map_id _) (fun c _ => rfl) hflow rfl ?_
    fun c => Nat.le_refl _
  rw [hflow.supply, hsupply]

/-- Without external positions, the amounts of `IssuanceModule` are shares of the default units. -/
theorem getRequiredComponentIssuanceUnits_spec {isIssue : Bool} {required : List (Address × ℕ)}
    (hs : Sound s)
    (h : IssuanceModule.getRequiredComponentIssuanceUnits s quantity isIssue = .ok required) :
    ∀ x ∈ required, x.2 =
      if isIssue then (unit s x.1 * quantity) ⌈/⌉ preciseUnit
      else unit s x.1 * quantity / preciseUnit := by
  intro x hx
  simp only [IssuanceModule.getRequiredComponentIssuanceUnits,
    IssuanceModule.getTotalIssuanceUnits, bind_eq_ok] at h
  obtain ⟨total, htotal, hrequired⟩ := h
  obtain ⟨y, hy, hxy⟩ := exists_of_mem_mapM hrequired hx
  obtain ⟨c, -, hc⟩ := exists_of_mem_mapM htotal hy
  -- the loop over the modules of external positions is empty
  simp only [IssuanceModule.totalIssuanceUnits, hs.external, List.foldlM_nil, bind_eq_ok,
    pure_eq_ok, SetToken.getDefaultPositionRealUnit_eq_ok, SafeCast.toUint256_eq_ok] at hc
  obtain ⟨_, ⟨-, rfl⟩, _, rfl, u, hu, rfl⟩ := hc
  have hunit : unit s c = u := by rw [unit, hu, Int.toNat_natCast]
  simp only [IssuanceModule.notionalUnits, bind_eq_ok, pure_eq_ok] at hxy
  obtain ⟨n, hn, rfl⟩ := hxy
  cases isIssue with
  | true =>
    simp only [if_true, PreciseUnitMath.preciseMulCeil_eq_ok] at hn ⊢
    rw [hunit, hn.2]
  | false =>
    simp only [Bool.false_eq_true, if_false, PreciseUnitMath.preciseMul_eq_ok] at hn ⊢
    rw [hunit, hn.2]

/-- No hooks are called for a component of a sound Set. -/
theorem executeHooks_eq_ok {component : Address} {isIssue : Bool}
    (hs : Sound (w.setTokens setToken))
    (h : IssuanceModule.executeExternalPositionHooks self env w setToken quantity component
      isIssue = .ok w') : w' = w := by
  rw [IssuanceModule.executeExternalPositionHooks, hs.external, List.foldlM_nil, pure_eq_ok] at h
  exact h.symm

/-- `IssuanceModule.issue`. -/
theorem exchange_issue (hooks : HooksSpare setToken env) (hs : Sound (w.setTokens setToken))
    (h : IssuanceModule.issue self env w msgSender setToken quantity recipient = .ok w') :
    Exchanged setToken w w' := by
  simp only [IssuanceModule.issue, bind_eq_ok] at h
  obtain ⟨-, -, -, -, w₁, hhook, required, hrequired, w₂, hloop, hmint⟩ := h
  have hspare : Spares setToken w w₁ := by
    simp only [IssuanceModule.callPreIssueHooks] at hhook
    split_ifs at hhook
    · exact hooks.manager _ _ _ _ _ _ hhook
    · obtain rfl : w = w₁ := by simpa using hhook
      exact .refl _ _
  have hs₁ : Sound (w₁.setTokens setToken) := hspare.positions ▸ hs
  have hflow := Flow.foldlM Prod.fst Prod.snd (fun _ => 0) (fun b _ w₃ w₄ hw₃ h => by
    simp only [IssuanceModule.issueComponent, bind_eq_ok] at h
    obtain ⟨w₅, htransfer, hhooks⟩ := h
    have hmoved := Flow.of_transferFrom htransfer
    rw [executeHooks_eq_ok (by rw [hmoved.positions, hw₃]; exact hs₁) hhooks]
    exact hmoved) rfl hloop
  obtain ⟨hset, hsupply, hbal⟩ := World.flow_of_mint hmint
  refine Exchanged.spares_trans hspare (exchange_of_collection quantity hs₁
    (IssuanceModule.map_fst_getRequiredComponentIssuanceUnits hrequired) (fun x hx => ?_) hflow hset
    hsupply.le fun c => hbal c setToken)
  have hamount := getRequiredComponentIssuanceUnits_spec hs₁ hrequired x hx
  rwa [if_pos rfl] at hamount

/-- `IssuanceModule.redeem`. -/
theorem exchange_redeem (hs : Sound (w.setTokens setToken)) (hsender : msgSender ≠ setToken)
    (h : IssuanceModule.redeem self env w msgSender setToken quantity recipient = .ok w') :
    Exchanged setToken w w' := by
  simp only [IssuanceModule.redeem, bind_eq_ok] at h
  obtain ⟨-, -, -, -, w₁, hburn, required, hrequired, hloop⟩ := h
  obtain ⟨hset, hsupply, hbal⟩ := World.flow_of_burn hburn hsender
  rw [hset] at hrequired
  have hflow := Flow.foldlM (s := w.setTokens setToken) Prod.fst (fun _ => 0) Prod.snd
    (fun b _ w₃ w₄ hw₃ h => by
      simp only [IssuanceModule.redeemComponent, bind_eq_ok] at h
      obtain ⟨w₅, hhooks, htransfer⟩ := h
      rw [executeHooks_eq_ok (hw₃ ▸ hs) hhooks] at htransfer
      exact Flow.of_strictInvokeTransfer htransfer)
    (by rw [hset]) hloop
  refine exchange_of_payment quantity hs hset hbal
    (IssuanceModule.map_fst_getRequiredComponentIssuanceUnits hrequired) (fun x hx => ?_) hflow rfl
    ?_ fun c => Nat.le_refl _
  · have hamount := getRequiredComponentIssuanceUnits_spec hs hrequired x hx
    rwa [if_neg Bool.false_ne_true] at hamount
  · rw [hflow.supply, hsupply]

/-- `DebtIssuanceModule.issue`. -/
theorem exchange_debtIssue (hooks : HooksSpare setToken env) (hs : Sound (w.setTokens setToken))
    (h : DebtIssuanceModule.issue self env w msgSender setToken quantity recipient = .ok w') :
    Exchanged setToken w w' := by
  simp only [DebtIssuanceModule.issue, DebtIssuanceModule.callPreIssueHooks,
    DebtIssuanceModule.issueAfterHooks, bind_eq_ok] at h
  obtain ⟨w₁, ⟨-, -, -, -, w₀, hmanager, hmodules⟩, fees, hfees, units, hunits, w₂, hequity, w₃,
    hdebt, w₄, hresolve, hmint⟩ := h
  have hspare₀ : Spares setToken w w₀ := by
    simp only [DebtIssuanceModule.callManagerPreIssueHooks] at hmanager
    split_ifs at hmanager
    · exact hooks.manager _ _ _ _ _ _ hmanager
    · obtain rfl : w = w₀ := by simpa using hmanager
      exact .refl _ _
  have hspare₁ : Spares setToken w₀ w₁ :=
    foldlM_rel (Spares setToken) (Flow.refl setToken) (fun h₁ h₂ => h₁.trans h₂)
      (fun hook _ w w' h => hooks.issue hook _ _ w w' h) hmodules
  have hspare : Spares setToken w w₁ := hspare₀.trans hspare₁
  have hs₁ : Sound (w₁.setTokens setToken) := hspare.positions ▸ hs
  obtain ⟨hkeys, hplain⟩ := requiredUnits_spec hs₁.defaultOnly hunits
  rw [resolveDebtPositions_eq hplain] at hdebt
  obtain rfl : w₂ = w₃ := by simpa using hdebt
  have hflow := Flow.foldlM ComponentUnits.component ComponentUnits.equity (fun _ => 0)
    (fun x hx w₅ w₆ hw₅ h => flow_of_resolveEquityPosition true
      (hw₅ ▸ (hplain x hx).external) h) rfl hequity
  obtain ⟨-, hfee, htotal⟩ := DebtIssuanceModule.calculateTotalFees_spec hfees
  obtain ⟨hset, hsupply, hbal⟩ := DebtIssuanceModule.resolveFees_spec hresolve
  obtain ⟨hset', hsupply', hbal'⟩ := World.flow_of_mint hmint
  refine Exchanged.spares_trans hspare (exchange_of_collection fees.totalQuantity hs₁ hkeys
    (fun x hx => ?_) hflow (hset'.trans hset) ?_
    fun c => (hbal c setToken).trans (hbal' c setToken))
  · have hamount := (hplain x hx).equity
    rwa [if_pos rfl] at hamount
  · -- the fees are part of the quantity that was collected for
    have hminted := DebtIssuanceModule.mintedFees_le fees.managerFee fees.protocolFee
    rw [hsupply', hsupply]
    simp only [if_true] at htotal
    omega

/-- `DebtIssuanceModule.redeem`. -/
theorem exchange_debtRedeem (hooks : HooksSpare setToken env) (hs : Sound (w.setTokens setToken))
    (hsender : msgSender ≠ setToken)
    (h : DebtIssuanceModule.redeem self env w msgSender setToken quantity recipient = .ok w') :
    Exchanged setToken w w' := by
  simp only [DebtIssuanceModule.redeem, DebtIssuanceModule.redeemAfterHooks, bind_eq_ok] at h
  obtain ⟨w₁, hhooks, w₂, hburn, fees, hfees, units, hunits, w₃, hdebt, w₄, hequity,
    hresolve⟩ := h
  have hspare := spares_of_callPreRedeemHooks hooks hhooks
  have hs₁ : Sound (w₁.setTokens setToken) := hspare.positions ▸ hs
  obtain ⟨hburned, hsupply₂, hbal₂⟩ := World.flow_of_burn hburn hsender
  rw [hburned] at hunits
  obtain ⟨hkeys, hplain⟩ := requiredUnits_spec hs₁.defaultOnly hunits
  rw [resolveDebtPositions_eq hplain] at hdebt
  obtain rfl : w₂ = w₃ := by simpa using hdebt
  have hflow := Flow.foldlM ComponentUnits.component (fun _ => 0) ComponentUnits.equity
    (fun x hx w₅ w₆ hw₅ h => flow_of_resolveEquityPosition false
      (hw₅ ▸ (hplain x hx).external) h) (by rw [hburned]) hequity
  obtain ⟨-, hfee, htotal⟩ := DebtIssuanceModule.calculateTotalFees_spec hfees
  obtain ⟨hset, hsupply, hbal⟩ := DebtIssuanceModule.resolveFees_spec hresolve
  refine Exchanged.spares_trans hspare (exchange_of_payment fees.totalQuantity hs₁
    hburned hbal₂ hkeys (fun x hx => ?_) hflow hset ?_ fun c => hbal c setToken)
  · have hamount := (hplain x hx).equity
    rwa [if_neg Bool.false_ne_true] at hamount
  · -- the fees are minted again, and no components are paid out for them
    have hminted := DebtIssuanceModule.mintedFees_le fees.managerFee fees.protocolFee
    rw [hsupply, hflow.supply]
    simp only [Bool.false_eq_true, if_false] at htotal
    omega

/-! ## Runs of users -/

/-- What users do with a Set: the actions of `IssuanceRun`, and those of `IssuanceModule`. -/
inductive UserAction
  | plain (a : Action)
  | issue (msgSender : Address) (quantity : ℕ) (recipient : Address)
  | redeem (msgSender : Address) (quantity : ℕ) (recipient : Address)

/-- The effect of an action on the Set at `setToken`, with the modules at the given addresses. -/
def userStep (basicModule issuanceModule debtModule setToken : Address) (env : Env)
    (a : UserAction) (w : World) : Except Revert World :=
  match a with
  | .plain a => step basicModule debtModule setToken env a w
  | .issue msgSender quantity recipient =>
    IssuanceModule.issue issuanceModule env w msgSender setToken quantity recipient
  | .redeem msgSender quantity recipient =>
    IssuanceModule.redeem issuanceModule env w msgSender setToken quantity recipient

/-- The Set itself is not the user. -/
def OfUsers (setToken : Address) (a : UserAction) (w : World) : Prop :=
  match a with
  | .plain a => ByUsers setToken a w
  | .issue _ _ _ => True
  | .redeem msgSender _ _ => msgSender ≠ setToken

instance : ∀ (setToken : Address) (a : UserAction) (w : World), Decidable (OfUsers setToken a w)
  | setToken, .plain a, w => inferInstanceAs (Decidable (ByUsers setToken a w))
  | _, .issue _ _ _, _ => inferInstanceAs (Decidable True)
  | _, .redeem _ _ _, _ => inferInstanceAs (Decidable (_ ≠ _))

variable {basicModule issuanceModule debtModule : Address}

/-- The token calls of users take nothing from the Set. -/
theorem spares_of_transfer {token sender : Address} {amount : ℕ} (hsender : sender ≠ setToken)
    (h : (w.editToken token fun t => t.transfer sender recipient amount) = .ok w') :
    Spares setToken w w' := by
  refine spares_of_editToken (fun t t' ht => ?_) h
  obtain ⟨-, -, hle, -, rfl⟩ := ERC20.move_eq_ok.mp ht
  exact ⟨rfl, le_balances_transferred hsender hle⟩

/-- A call by allowance takes nothing from accounts other than the sender. -/
theorem spares_of_transferFrom {token sender : Address} {amount : ℕ} (hsender : sender ≠ setToken)
    (h : (w.editToken token fun t => t.transferFrom msgSender sender recipient amount) = .ok w') :
    Spares setToken w w' := by
  refine spares_of_editToken (fun t t' ht => ?_) h
  obtain ⟨-, hle, hbal, hsupply⟩ := ERC20.of_transferFrom_eq_ok ht
  exact ⟨hsupply, hbal ▸ le_balances_transferred hsender hle⟩

/-- An approval takes nothing. -/
theorem spares_of_approve {token spender : Address} {amount : ℕ}
    (h : (w.editToken token fun t => t.approve msgSender spender amount) = .ok w') :
    Spares setToken w w' := by
  refine spares_of_editToken (fun t t' ht => ?_) h
  obtain ⟨-, -, rfl⟩ := ERC20.approve_eq_ok.mp ht
  exact ⟨rfl, Nat.le_refl _⟩

/-- The token calls and the configuration spare the Set, and the rest exchanges. -/
theorem exchanged_of_step (hooks : HooksSpare setToken env) (hs : Sound (w.setTokens setToken))
    {a : Action} (husers : ByUsers setToken a w)
    (h : step basicModule debtModule setToken env a w = .ok w') : Exchanged setToken w w' := by
  cases a with
  | basicIssue => exact exchange_basicIssue hooks hs h
  | basicRedeem => exact exchange_basicRedeem hs husers h
  | debtIssue => exact exchange_debtIssue hooks hs h
  | debtRedeem => exact exchange_debtRedeem hooks hs husers h
  | transfer => exact .of_spares (spares_of_transfer husers h)
  | transferFrom => exact .of_spares (spares_of_transferFrom husers h)
  | approve => exact .of_spares (spares_of_approve h)
  | configure controller settings basicIssuanceHook =>
    simp only [IssuanceRun.step, Except.ok.injEq] at h
    subst h
    exact .of_spares ⟨rfl, rfl, fun c => Nat.le_refl _⟩

/-- Every action of users is an exchange. -/
theorem exchanged_of_userStep (hooks : HooksSpare setToken env)
    (hs : Sound (w.setTokens setToken)) {a : UserAction} (husers : OfUsers setToken a w)
    (h : userStep basicModule issuanceModule debtModule setToken env a w = .ok w') :
    Exchanged setToken w w' := by
  cases a with
  | plain a => exact exchanged_of_step hooks hs husers h
  | issue => exact exchange_issue hooks hs h
  | redeem => exact exchange_redeem hs husers h

/-- What users leave of a Set that was `w₀`: its positions, and all that it held beyond what its
supply stood for. -/
structure Undiminished (setToken : Address) (w₀ w : World) : Prop where
  /-- The positions are unchanged. -/
  positions : w.setTokens setToken = w₀.setTokens setToken
  /-- What the Set holds of a token changed by no less than what its supply stands for. -/
  surplus : ∀ c, (w₀.tokens c).balances setToken * preciseUnit +
      unit (w₀.setTokens setToken) c * w.totalSupply setToken ≤
    (w.tokens c).balances setToken * preciseUnit +
      unit (w₀.setTokens setToken) c * w₀.totalSupply setToken

/-- An exchange diminishes nothing. -/
theorem Undiminished.next {w₀ : World} (hw : Undiminished setToken w₀ w)
    (h : Exchanged setToken w w') : Undiminished setToken w₀ w' := by
  refine ⟨h.positions.trans hw.positions, fun c => ?_⟩
  have hunit : (fund setToken w).unit c = (fund setToken w₀).unit c :=
    congrArg (unit · c) hw.positions
  exact Funds.surplus_trans hunit (hw.surplus c) (h.exchange.surplus preciseUnit_pos c)

/-- From any state of a sound Set, backed or not, users take nothing of what it holds beyond what
its supply stands for. Where they have issued as much as they have redeemed, the Set has lost
nothing. -/
theorem surplus_of_run (hooks : HooksSpare setToken env) {w₀ : World}
    (sound : Sound (w₀.setTokens setToken))
    (reached : ReachWhen (userStep basicModule issuanceModule debtModule setToken env)
      (OfUsers setToken) w₀ w) :
    Undiminished setToken w₀ w ∧
      (w₀.totalSupply setToken ≤ w.totalSupply setToken →
        ∀ c, (w₀.tokens c).balances setToken ≤ (w.tokens c).balances setToken) := by
  have hw : Undiminished setToken w₀ w := by
    refine reached.invariant (Undiminished setToken w₀) (fun a t t' ht met stepped => ?_)
      ⟨rfl, fun c => Nat.le_refl _⟩
    exact ht.next (exchanged_of_userStep hooks (ht.positions ▸ sound) met stepped)
  refine ⟨hw, fun hsupply c => ?_⟩
  have hsame : (fund setToken w₀).supply ≤ (fund setToken w).supply := hsupply
  exact Funds.holding_le_of_surplus preciseUnit_pos hsame (hw.surplus c)

/-- A Set at `100` that stands for a third of the token `11`, of which it has a quarter, with one
Set issued. The modules are `1`, `2` and `3`. -/
def exampleShort : World :=
  { exampleWorld with
    controller := { exampleWorld.controller with isModule := fun a => a = 1 ∨ a = 2 ∨ a = 3 }
    tokens := fun a =>
      if a = 11 then { balances := fun b => if b = 50 then 10 ^ 30 else 10 ^ 18 / 4 }
      else { totalSupply := 10 ^ 18, balances := fun b => if b = 51 then 10 ^ 18 else 0 }
    setTokens := fun _ =>
      { moduleStates := fun _ => .initialized
        components := [11]
        componentPositions := fun c => if c = 11 then { virtualUnit := 10 ^ 18 / 3 } else {} } }

/-- The Set is sound. -/
private theorem sound_exampleShort : Sound (exampleShort.setTokens 100) := by
  have hunit : ∀ c, (exampleShort.setTokens 100).defaultPositionVirtualUnit c =
      if c = 11 then 10 ^ 18 / 3 else 0 := by
    intro c
    simp only [exampleShort, SetToken.defaultPositionVirtualUnit]
    split_ifs <;> rfl
  refine ⟨by decide, fun c => ?_, fun c => ?_, fun c hc => ?_, by decide⟩
  · simp only [exampleShort, SetToken.externalPositionModules]
    split_ifs <;> rfl
  · rw [hunit]
    split_ifs <;> decide
  · rw [hunit] at hc
    split_ifs at hc with h
    · exact List.mem_singleton.mpr h
    · exact absurd rfl hc

/-- A user issues in one module and redeems in another. -/
def exampleRound : List UserAction :=
  [.plain (.approve 11 50 3 (10 ^ 30)), .issue 50 7 50, .plain (.basicRedeem 50 7 50)]

/-- A round trip that leaves something behind. -/
theorem surplus_of_run_example :
    ∃ w, runAll (userStep 1 3 2 100 {}) exampleRound exampleShort = .ok w ∧
      (exampleShort.tokens 11).balances 100 ≤ (w.tokens 11).balances 100 := by
  obtain ⟨w, hrun, hw⟩ := exists_of_yields
    (x := runAll (guarded (userStep 1 3 2 100 {}) (OfUsers 100) "") exampleRound exampleShort)
    (p := fun w => exampleShort.totalSupply 100 ≤ w.totalSupply 100) (by decide +kernel)
  exact ⟨w, runAll_of_guarded hrun,
    (surplus_of_run hooksSpare_default sound_exampleShort (reachWhen_of_runAll hrun)).2
      (of_decide_eq_true hw) 11⟩

end Solvency

end SetProtocol
