import SetProtocol.Leverage.Calls
import SetProtocol.Modules.DebtIssuanceModule

set_option relaxedAutoImplicit false
set_option autoImplicit false

/-!
# Debt is replicated by issuance

An issuance borrows the debt of a component and forwards it to the issuer, and a redemption pulls
the debt from the redeemer and repays it. The issuance module calls the component's hooks once with
its equity and once with its debt, and the hooks of the leverage module do not tell the two apart.
So the debt is borrowed once where one of the two quantities is zero, and twice otherwise.

## Main definitions

* `SetProtocol.LeverageReplication.SoleDebt` — the component's only external position is debt.
* `SetProtocol.LeverageReplication.BorrowsOnce`, `RepaysOnce` — the debt moves once.

## Main results

* `SetProtocol.LeverageReplication.replicates_iff` — when issuance and redemption move the debt
  exactly once.
* `SetProtocol.LeverageReplication.issue_borrows_twice` — an issuance that borrows it twice.
-/

namespace SetProtocol

open Checked

namespace LeverageReplication

open CompoundLeverageModule
open DebtIssuanceModule hiding attach

/-- The component `c` is listed once, and its only external position is a negative one of the
leverage module. The other components in which the module has debt are borrowed on other markets. -/
structure SoleDebt (clm c : Address) (s : SetToken) (cl : CompoundLeverage) : Prop where
  /-- Components are listed once. -/
  nodup : s.components.Nodup
  /-- The component is listed. -/
  listed : c ∈ s.components
  /-- It has one external position. -/
  modules : s.externalPositionModules c = [clm]
  /-- The position is debt. -/
  debt : s.externalRealUnit c clm < 0
  /-- Each market is for one underlying. -/
  market : ∀ d ∈ s.components, d ≠ c → clm ∈ s.externalPositionModules d →
    cl.underlyingToCToken d ≠ cl.underlyingToCToken c

/-- The hook of another module left positions and markets alone, and called neither the component
nor its market. -/
def Aside (setToken c cToken : Address) (w w' : World) : Prop :=
  w'.setTokens setToken = w.setTokens setToken ∧ w'.compoundLeverage = w.compoundLeverage ∧
    ∃ calls, w'.calls = w.calls ++ calls ∧
      ∀ call ∈ calls, call.target ≠ c ∧ call.target ≠ cToken

/-- The hooks of the other modules stay aside. -/
structure HooksAside (clm setToken c cToken : Address) (env : Env) : Prop where
  /-- The hooks called with a component for issuance. -/
  issue : ∀ module caller quantity component isEquity w w', module ≠ clm →
    env.componentIssueHook module caller setToken quantity component isEquity w = .ok w' →
      Aside setToken c cToken w w'
  /-- The hooks called with a component for redemption. -/
  redeem : ∀ module caller quantity component isEquity w w', module ≠ clm →
    env.componentRedeemHook module caller setToken quantity component isEquity w = .ok w' →
      Aside setToken c cToken w w'

/-- The Set borrowed the amount on the market, and sent the amount of the component on to the
account. -/
def BorrowsOnce (setToken cToken c account : Address) (amount : ℕ) (w w' : World) : Prop :=
  tally (borrowed setToken cToken) w' = tally (borrowed setToken cToken) w + amount ∧
    tally (sent c setToken account) w' = tally (sent c setToken account) w + amount

/-- The Set repaid the amount on the market, and the amount of the component was pulled from the
account. -/
def RepaysOnce (setToken cToken c account : Address) (amount : ℕ) (w w' : World) : Prop :=
  tally (repaid setToken cToken) w' = tally (repaid setToken cToken) w + amount ∧
    tally (pulled c account setToken) w' = tally (pulled c account setToken) w + amount

variable {self clm msgSender setToken recipient c cToken : Address} {env : Env}
  {weight : Call → ℕ} {s : SetToken} {cl : CompoundLeverage} {w w' : World} {quantity : ℕ}
  {isIssue : Bool}

/-! ## The hooks of a component -/

/-- The debt that goes with a quantity. -/
def notionalDebt (clm c : Address) (s : SetToken) (quantity : ℕ) (isIssue : Bool) : ℕ :=
  if isIssue then debtUnit clm c s * quantity / preciseUnit
  else (debtUnit clm c s * quantity) ⌈/⌉ preciseUnit

/-- The call to the market that the hook of a component makes. -/
def marketCall (clm setToken c : Address) (s : SetToken) (cl : CompoundLeverage) (quantity : ℕ)
    (isIssue : Bool) : Call :=
  if isIssue then
    borrowCall setToken (cl.underlyingToCToken c) (notionalDebt clm c s quantity isIssue)
  else repayCall cl setToken (cl.underlyingToCToken c) (notionalDebt clm c s quantity isIssue)

/-- A call to another market weighs nothing. -/
theorem weight_marketCall_of_ne {d : Address} (hweight : Watches c cToken weight)
    (hd : cl.underlyingToCToken d ≠ cToken) :
    weight (marketCall clm setToken d s cl quantity isIssue) = 0 := by
  unfold marketCall borrowCall repayCall
  split_ifs
  · exact hweight.markets _ _ _ _ (.inl ⟨_, rfl⟩) hd
  · exact hweight.markets _ _ _ _ (.inr (.inr rfl)) hd
  · exact hweight.markets _ _ _ _ (.inr (.inl ⟨_, rfl⟩)) hd

/-- A step aside weighs nothing. -/
theorem tallied_of_aside (hweight : Watches c cToken weight) (h : Aside setToken c cToken w w') :
    Tallied setToken weight w w' 0 := by
  obtain ⟨hpositions, hleverage, calls, hcalls, haside⟩ := h
  refine ⟨hpositions, hleverage, ?_⟩
  have hzero : (calls.map weight).sum = 0 := by
    apply List.sum_eq_zero
    intro n hn
    obtain ⟨call, hcall, rfl⟩ := List.mem_map.mp hn
    exact hweight.elsewhere call (haside call hcall).1 (haside call hcall).2
  rw [tally, hcalls, List.map_append, List.sum_append, hzero, tally]

/-- The hook of one module, for a component: it is the leverage module's hook, or stays aside. -/
theorem hook_tallied {module caller d : Address} {isEquity : Bool}
    (hout : OutsideSpares env setToken) (hhooks : HooksAside clm setToken c cToken env)
    (hweight : Watches c cToken weight)
    (h : (if isIssue then
        (attach clm env).componentIssueHook module caller setToken quantity d isEquity w
      else (attach clm env).componentRedeemHook module caller setToken quantity d isEquity w) =
        .ok w') :
    Tallied setToken weight w w' (if module = clm then
      weight (marketCall clm setToken d (w.setTokens setToken) w.compoundLeverage quantity isIssue)
      else 0) := by
  cases isIssue with
  | true =>
    simp only [attach, if_true] at h
    simp only [marketCall, notionalDebt, if_true]
    split_ifs at h ⊢ with hmodule
    · exact componentIssueHook_tallied hout hweight h
    · exact tallied_of_aside hweight (hhooks.issue _ _ _ _ _ _ _ hmodule h)
  | false =>
    simp only [attach, Bool.false_eq_true, if_false] at h
    simp only [marketCall, notionalDebt, Bool.false_eq_true, if_false]
    split_ifs at h ⊢ with hmodule
    · exact componentRedeemHook_tallied hout hweight h
    · exact tallied_of_aside hweight (hhooks.redeem _ _ _ _ _ _ _ hmodule h)

/-! ## The two phases -/

/-- What a phase adds to the tally for one component: its transfer and the hook, where there is
something to transfer. -/
def phase (weight : Call → ℕ) (amount : ℕ) (transfer hook : Call) : ℕ :=
  if 0 < amount then weight transfer + weight hook else 0

/-- The transfer of equity. -/
def equityTransfer (self msgSender setToken recipient c : Address) (isIssue : Bool)
    (amount : ℕ) : Call :=
  if isIssue then ⟨self, c, 0, .transferFrom msgSender setToken amount⟩
  else ⟨setToken, c, 0, .transfer recipient amount⟩

/-- The transfer of debt. -/
def debtTransfer (self msgSender setToken c : Address) (isIssue : Bool) (amount : ℕ) : Call :=
  if isIssue then ⟨setToken, c, 0, .transfer msgSender amount⟩
  else ⟨self, c, 0, .transferFrom msgSender setToken amount⟩

/-- Amounts of one token add up. -/
theorem only_add (token : Address) (m n : ℕ) : only token m c + only token n c =
    only token (m + n) c := by
  unfold only
  split <;> rfl

section Rounds

variable (hout : OutsideSpares env setToken)
  (hhooks : HooksAside clm setToken c (cl.underlyingToCToken c) env)
  (hdebt : SoleDebt clm c s cl)

section Weight

variable (hweight : Watches c (cl.underlyingToCToken c) weight)

include hout hhooks hdebt hweight

/-- The hooks of one component make the call to the market for the component `c`, and no call that
counts for another one. -/
theorem hooks_tallied {d : Address} {isEquity : Bool}
    (hd : d ∈ s.components) (hs : w.setTokens setToken = s) (hcl : w.compoundLeverage = cl)
    (h : executeExternalPositionHooks self (attach clm env) w setToken quantity d isIssue isEquity =
      .ok w') :
    Tallied setToken weight w w'
      (only d (weight (marketCall clm setToken c s cl quantity isIssue)) c) := by
  have hloop := Tallied.foldlM
    (fun module => if module = clm then weight (marketCall clm setToken d s cl quantity isIssue)
      else 0)
    (fun module _ w w' hs hcl h => by
      have hhook := hook_tallied hout hhooks hweight h
      rwa [hs, hcl] at hhook) hs hcl h
  rw [hs] at hloop
  by_cases hc : c = d
  · subst hc
    rw [only, if_pos rfl]
    simpa [hdebt.modules] using hloop
  · rw [only, if_neg hc]
    have hzero : ((s.externalPositionModules d).map fun module => if module = clm then
        weight (marketCall clm setToken d s cl quantity isIssue) else 0).sum = 0 := by
      apply List.sum_eq_zero
      intro n hn
      obtain ⟨module, hmodule, rfl⟩ := List.mem_map.mp hn
      split_ifs with hclm
      · exact weight_marketCall_of_ne hweight (hdebt.market d hd (Ne.symm hc) (hclm ▸ hmodule))
      · rfl
    rwa [hzero] at hloop

/-- One round over equity. -/
theorem resolveEquityPosition_tallied {x : ComponentUnits}
    (hx : x.component ∈ s.components) (hs : w.setTokens setToken = s)
    (hcl : w.compoundLeverage = cl)
    (h : resolveEquityPosition self (attach clm env) msgSender setToken quantity recipient isIssue w
      x = .ok w') :
    Tallied setToken weight w w' (only x.component (phase weight x.equity
      (equityTransfer self msgSender setToken recipient c isIssue x.equity)
      (marketCall clm setToken c s cl quantity isIssue)) c) := by
  unfold resolveEquityPosition at h
  unfold phase equityTransfer
  split_ifs at h ⊢ with hpos hissue
  · simp only [bind_eq_ok] at h
    obtain ⟨w₁, htransfer, hexecute⟩ := h
    have h₁ := Tallied.of_transferFrom setToken hweight hpos htransfer
    have h₂ := hooks_tallied hout hhooks hdebt hweight hx (h₁.positions.trans hs)
      (h₁.leverage.trans hcl) hexecute
    rw [← only_add, hissue]
    exact h₁.trans h₂
  · simp only [bind_eq_ok] at h
    obtain ⟨w₁, hexecute, htransfer⟩ := h
    have h₁ := hooks_tallied hout hhooks hdebt hweight hx hs hcl hexecute
    have h₂ := Tallied.of_strictInvokeTransfer hweight hpos htransfer
    rw [← only_add, Nat.add_comm, Bool.eq_false_of_not_eq_true hissue]
    exact h₁.trans h₂
  · obtain rfl : w = w' := by simpa using h
    simpa [only] using Tallied.refl setToken weight w

/-- One round over debt. -/
theorem resolveDebtPosition_tallied {x : ComponentUnits}
    (hx : x.component ∈ s.components) (hs : w.setTokens setToken = s)
    (hcl : w.compoundLeverage = cl)
    (h : resolveDebtPosition self (attach clm env) msgSender setToken quantity isIssue w x =
      .ok w') :
    Tallied setToken weight w w' (only x.component (phase weight x.debt
      (debtTransfer self msgSender setToken c isIssue x.debt)
      (marketCall clm setToken c s cl quantity isIssue)) c) := by
  unfold resolveDebtPosition at h
  unfold phase debtTransfer
  split_ifs at h ⊢ with hpos hissue
  · simp only [bind_eq_ok] at h
    obtain ⟨w₁, hexecute, htransfer⟩ := h
    have h₁ := hooks_tallied hout hhooks hdebt hweight hx hs hcl hexecute
    have h₂ := Tallied.of_strictInvokeTransfer hweight hpos htransfer
    rw [← only_add, Nat.add_comm, hissue]
    exact h₁.trans h₂
  · simp only [bind_eq_ok] at h
    obtain ⟨w₁, htransfer, hexecute⟩ := h
    have h₁ := Tallied.of_transferFrom setToken hweight hpos htransfer
    have h₂ := hooks_tallied hout hhooks hdebt hweight hx (h₁.positions.trans hs)
      (h₁.leverage.trans hcl) hexecute
    rw [← only_add, Bool.eq_false_of_not_eq_true hissue]
    exact h₁.trans h₂
  · obtain rfl : w = w' := by simpa using h
    simpa [only] using Tallied.refl setToken weight w

end Weight

/-- The amounts of the component, from its units. -/
structure AmountsOf (clm c : Address) (s : SetToken) (quantity : ℕ) (isIssue : Bool)
    (x : ComponentUnits) : Prop where
  /-- The amounts are those of the component. -/
  component : x.component = c
  /-- The equity is that of the default unit. -/
  equity : ∃ unit : ℕ, s.defaultRealUnit c = unit ∧ x.equity =
    if isIssue then (unit * quantity) ⌈/⌉ preciseUnit else unit * quantity / preciseUnit
  /-- The debt is that of the external unit. -/
  debt : x.debt = notionalDebt clm c s quantity isIssue

include hdebt in
/-- The amounts of a quantity have those of the component among them, for components listed once. -/
theorem exists_amounts {units : List ComponentUnits}
    (h : calculateRequiredComponentIssuanceUnits s quantity isIssue = .ok units) :
    units.map ComponentUnits.component = s.components ∧
      ∃ x ∈ units, AmountsOf clm c s quantity isIssue x := by
  obtain ⟨hkeys, hunits⟩ := calculateRequiredComponentIssuanceUnits_eq_ok h
  refine ⟨hkeys, ?_⟩
  obtain ⟨x, hx, hxc⟩ := List.mem_map.mp (hkeys ▸ hdebt.listed)
  obtain ⟨y, hy, hxy⟩ := hunits x hx
  rw [hxc] at hy
  obtain ⟨hunit, hdebtUnit⟩ := componentIssuanceUnits_of_debt hdebt.modules hdebt.debt hy
  obtain ⟨-, hequity, hxdebt⟩ := notionalUnits_eq_ok hxy
  refine ⟨x, hx, hxc, ⟨_, hunit, hequity⟩, ?_⟩
  rw [hxdebt, hdebtUnit]
  rfl

/-- What both phases add to the tally, from the amounts of the component. -/
def bothPhases (self clm msgSender setToken recipient c : Address) (weight : Call → ℕ)
    (s : SetToken) (cl : CompoundLeverage) (quantity : ℕ) (isIssue : Bool)
    (x : ComponentUnits) : ℕ :=
  phase weight x.equity (equityTransfer self msgSender setToken recipient c isIssue x.equity)
      (marketCall clm setToken c s cl quantity isIssue) +
    phase weight x.debt (debtTransfer self msgSender setToken c isIssue x.debt)
      (marketCall clm setToken c s cl quantity isIssue)

section Weight

variable {units : List ComponentUnits} {x : ComponentUnits}
  (hweight : Watches c (cl.underlyingToCToken c) weight)
  (hkeys : units.map ComponentUnits.component = s.components) (hx : x ∈ units)
  (hxc : x.component = c)

include hout hhooks hdebt hweight hkeys hx hxc

/-- The phase of equity: only the component counts. -/
theorem resolveEquityPositions_tallied (hs : w.setTokens setToken = s)
    (hcl : w.compoundLeverage = cl)
    (h : resolveEquityPositions self (attach clm env) w msgSender setToken quantity recipient
      isIssue units = .ok w') :
    Tallied setToken weight w w' (phase weight x.equity
      (equityTransfer self msgSender setToken recipient c isIssue x.equity)
      (marketCall clm setToken c s cl quantity isIssue)) := by
  subst hxc
  have hloop := Tallied.foldlM _ (fun y hy w w' hs hcl h =>
    resolveEquityPosition_tallied hout hhooks hdebt hweight (hkeys ▸ List.mem_map_of_mem hy) hs hcl
      h) hs hcl h
  rwa [Flow.sum_only ComponentUnits.component (fun y => phase weight y.equity
    (equityTransfer self msgSender setToken recipient x.component isIssue y.equity)
    (marketCall clm setToken x.component s cl quantity isIssue)) (hkeys ▸ hdebt.nodup) hx] at hloop

/-- The phase of debt: only the component counts. -/
theorem resolveDebtPositions_tallied (hs : w.setTokens setToken = s)
    (hcl : w.compoundLeverage = cl)
    (h : resolveDebtPositions self (attach clm env) w msgSender setToken quantity isIssue units =
      .ok w') :
    Tallied setToken weight w w' (phase weight x.debt
      (debtTransfer self msgSender setToken c isIssue x.debt)
      (marketCall clm setToken c s cl quantity isIssue)) := by
  subst hxc
  have hloop := Tallied.foldlM _ (fun y hy w w' hs hcl h =>
    resolveDebtPosition_tallied hout hhooks hdebt hweight (hkeys ▸ List.mem_map_of_mem hy) hs hcl h)
    hs hcl h
  rwa [Flow.sum_only ComponentUnits.component (fun y => phase weight y.debt
    (debtTransfer self msgSender setToken x.component isIssue y.debt)
    (marketCall clm setToken x.component s cl quantity isIssue)) (hkeys ▸ hdebt.nodup) hx] at hloop

end Weight

/-- Minting the fees makes no call. -/
theorem resolveFees_tallied {managerFee protocolFee : ℕ}
    (h : resolveFees self w setToken managerFee protocolFee = .ok w') :
    Tallied setToken weight w w' 0 := by
  unfold resolveFees at h
  split_ifs at h
  · simp only [bind_eq_ok] at h
    obtain ⟨w₁, hmanager, hprotocol⟩ := h
    exact (Tallied.of_mint hmanager).trans (Tallied.of_mint hprotocol)
  · simp only [bind_eq_ok, Except.ok.injEq, exists_eq_right] at h
    exact Tallied.of_mint h
  · obtain rfl : w = w' := by simpa using h
    exact .refl _ _ _

include hout hhooks hdebt

/-- The tally of an issuance, after the hooks that come first. -/
theorem issueAfterHooks_tallied (hs : w.setTokens setToken = s) (hcl : w.compoundLeverage = cl)
    (h : issueAfterHooks self (attach clm env) w msgSender setToken quantity recipient = .ok w') :
    ∃ fees x, calculateTotalFees self w setToken quantity true = .ok fees ∧
      AmountsOf clm c s fees.totalQuantity true x ∧
      ∀ weight, Watches c (cl.underlyingToCToken c) weight → Tallied setToken weight w w'
        (bothPhases self clm msgSender setToken recipient c weight s cl fees.totalQuantity true
          x) := by
  simp only [issueAfterHooks, bind_eq_ok] at h
  obtain ⟨fees, hfees, units, hunits, w₁, hequity, w₂, hdebts, w₃, hresolve, hmint⟩ := h
  rw [hs] at hunits
  obtain ⟨hkeys, x, hx, hamounts⟩ := exists_amounts hdebt hunits
  refine ⟨fees, x, hfees, hamounts, fun weight hweight => ?_⟩
  have h₁ := resolveEquityPositions_tallied hout hhooks hdebt hweight hkeys hx hamounts.component
    hs hcl hequity
  have h₂ := resolveDebtPositions_tallied hout hhooks hdebt hweight hkeys hx hamounts.component
    (h₁.positions.trans hs) (h₁.leverage.trans hcl) hdebts
  exact ((h₁.trans h₂).trans (resolveFees_tallied hresolve)).trans (Tallied.of_mint hmint)

/-- The tally of a redemption, after the hooks that come first. -/
theorem redeemAfterHooks_tallied (hs : w.setTokens setToken = s) (hcl : w.compoundLeverage = cl)
    (h : redeemAfterHooks self (attach clm env) w msgSender setToken quantity recipient = .ok w') :
    ∃ fees x, calculateTotalFees self w setToken quantity false = .ok fees ∧
      AmountsOf clm c s fees.totalQuantity false x ∧
      ∀ weight, Watches c (cl.underlyingToCToken c) weight → Tallied setToken weight w w'
        (bothPhases self clm msgSender setToken recipient c weight s cl fees.totalQuantity false
          x) := by
  simp only [redeemAfterHooks, bind_eq_ok] at h
  obtain ⟨w₁, hburn, fees, hfees, units, hunits, w₂, hdebts, w₃, hequity, hresolve⟩ := h
  have hburned : ∀ weight, Tallied setToken weight w w₁ 0 := fun _ => Tallied.of_burn hburn
  have hs₁ := (hburned fun _ => 0).positions.trans hs
  have hcl₁ := (hburned fun _ => 0).leverage.trans hcl
  rw [hs₁] at hunits
  obtain ⟨hkeys, x, hx, hamounts⟩ := exists_amounts hdebt hunits
  have hfees' : calculateTotalFees self w setToken quantity false = .ok fees := by
    obtain ⟨-, -, rfl⟩ := World.burn_spec hburn
    exact hfees
  refine ⟨fees, x, hfees', hamounts, fun weight hweight => ?_⟩
  have h₁ := resolveDebtPositions_tallied hout hhooks hdebt hweight hkeys hx hamounts.component
    hs₁ hcl₁ hdebts
  have h₂ := resolveEquityPositions_tallied hout hhooks hdebt hweight hkeys hx hamounts.component
    (h₁.positions.trans hs₁) (h₁.leverage.trans hcl₁) hequity
  have hall := ((hburned weight).trans (h₁.trans h₂)).trans (resolveFees_tallied hresolve)
  rwa [Nat.zero_add, Nat.add_zero, Nat.add_comm] at hall

end Rounds

/-! ## Once or twice -/

section Amounts

variable {x : ComponentUnits}

/-- The amounts of the two phases, from the weights of the transfers and of the hook. -/
theorem bothPhases_eq (equity debt hook : ℕ)
    (hequity :
      weight (equityTransfer self msgSender setToken recipient c isIssue x.equity) = equity)
    (hdebt : weight (debtTransfer self msgSender setToken c isIssue x.debt) = debt)
    (hhook : weight (marketCall clm setToken c s cl quantity isIssue) = hook) :
    bothPhases self clm msgSender setToken recipient c weight s cl quantity isIssue x =
      (if 0 < x.equity then equity + hook else 0) + (if 0 < x.debt then debt + hook else 0) := by
  rw [bothPhases, phase, phase, hequity, hdebt, hhook]

/-- Issuance borrows in each phase that has something to transfer. -/
theorem bothPhases_borrowed (hx : AmountsOf clm c s quantity true x) :
    bothPhases self clm msgSender setToken recipient c
        (borrowed setToken (cl.underlyingToCToken c)) s cl quantity true x =
      (if 0 < x.equity then x.debt else 0) + x.debt := by
  have hhook : borrowed setToken (cl.underlyingToCToken c)
      (marketCall clm setToken c s cl quantity true) = x.debt := by
    rw [hx.debt]
    exact if_pos ⟨rfl, rfl⟩
  rw [bothPhases_eq 0 0 x.debt rfl rfl hhook]
  split_ifs <;> omega

/-- Issuance forwards the debt. -/
theorem bothPhases_sent :
    bothPhases self clm msgSender setToken recipient c (sent c setToken msgSender) s cl quantity
      true x = x.debt := by
  have hdebt : sent c setToken msgSender
      (debtTransfer self msgSender setToken c true x.debt) = x.debt := if_pos ⟨rfl, rfl, rfl⟩
  rw [bothPhases_eq 0 x.debt 0 rfl hdebt rfl]
  split_ifs <;> omega

/-- Redemption repays in each phase that has something to transfer. -/
theorem bothPhases_repaid (hx : AmountsOf clm c s quantity false x) :
    bothPhases self clm msgSender setToken recipient c
        (repaid setToken (cl.underlyingToCToken c)) s cl quantity false x =
      (if 0 < x.equity then x.debt else 0) + x.debt := by
  have hhook : repaid setToken (cl.underlyingToCToken c)
      (marketCall clm setToken c s cl quantity false) = x.debt := by
    rw [hx.debt]
    exact repaid_repayCall _ _ _ _
  rw [bothPhases_eq 0 0 x.debt rfl rfl hhook]
  split_ifs <;> omega

/-- Redemption pulls the debt. -/
theorem bothPhases_pulled :
    bothPhases self clm msgSender setToken recipient c (pulled c msgSender setToken) s cl quantity
      false x = x.debt := by
  have hhook : pulled c msgSender setToken (marketCall clm setToken c s cl quantity false) = 0 := by
    unfold marketCall repayCall
    split_ifs <;> rfl
  have hdebt : pulled c msgSender setToken
      (debtTransfer self msgSender setToken c false x.debt) = x.debt := if_pos ⟨rfl, rfl, rfl⟩
  rw [bothPhases_eq 0 x.debt 0 rfl hdebt hhook]
  split_ifs <;> omega

/-- What is moved in each phase is moved once when one of the phases has nothing to transfer. -/
theorem once_iff : (if 0 < x.equity then x.debt else 0) + x.debt = x.debt ↔
    x.equity = 0 ∨ x.debt = 0 := by
  split_ifs <;> omega

end Amounts

variable (w) in
/-- **Replication of debt**: where a component's only external position is debt on Compound, an
issuance borrows the debt of the quantity exactly once if and only if the component has no default
unit or the debt of the quantity rounds to zero; and a redemption repays it exactly once if and only
if the equity of the quantity rounds to zero. What is forwarded and pulled is always the debt once.

**Proof sketch.** Both phases are loops over the components, and the rounds of other components make
no call that counts. The round of the component makes one call to the market in each phase whose
quantity is positive: the equity in the first, and the debt in the second. -/
theorem replicates_iff (hout : OutsideSpares env setToken)
    (hhooks : HooksAside clm setToken c (w.compoundLeverage.underlyingToCToken c) env)
    (hdebt : SoleDebt clm c (w.setTokens setToken) w.compoundLeverage) :
    (∀ w₀ w' quantity,
      callPreIssueHooks self (attach clm env) w₀ msgSender setToken quantity recipient = .ok w →
      issue self (attach clm env) w₀ msgSender setToken quantity recipient = .ok w' →
      ∃ fees, calculateTotalFees self w setToken quantity true = .ok fees ∧
        (BorrowsOnce setToken (w.compoundLeverage.underlyingToCToken c) c msgSender
            (debtUnit clm c (w.setTokens setToken) * fees.totalQuantity / preciseUnit) w w' ↔
          (w.setTokens setToken).defaultRealUnit c = 0 ∨
            debtUnit clm c (w.setTokens setToken) * fees.totalQuantity < preciseUnit)) ∧
    (∀ w₀ w' quantity,
      callPreRedeemHooks self (attach clm env) w₀ setToken quantity = .ok w →
      redeem self (attach clm env) w₀ msgSender setToken quantity recipient = .ok w' →
      ∃ fees, calculateTotalFees self w setToken quantity false = .ok fees ∧
        (RepaysOnce setToken (w.compoundLeverage.underlyingToCToken c) c msgSender
            ((debtUnit clm c (w.setTokens setToken) * fees.totalQuantity) ⌈/⌉ preciseUnit) w w' ↔
          (w.setTokens setToken).defaultRealUnit c * (fees.totalQuantity : ℤ) <
            preciseUnitInt)) := by
  constructor
  · intro w₀ w' quantity hpre h
    simp only [issue, hpre, bind_eq_ok, Except.ok.injEq, exists_eq_left'] at h
    obtain ⟨fees, x, hfees, hx, htally⟩ := issueAfterHooks_tallied hout hhooks hdebt rfl rfl h
    obtain ⟨unit, hunit, hequity⟩ := hx.equity
    have hborrowed := (htally _ (watches_borrowed setToken c _)).total
    rw [bothPhases_borrowed hx] at hborrowed
    have hsent := (htally _ (watches_sent c _ setToken msgSender)).total
    rw [bothPhases_sent] at hsent
    have hxdebt := hx.debt
    simp only [notionalDebt, if_true] at hequity hxdebt
    have hpos : 0 < fees.totalQuantity := by
      simp only [callPreIssueHooks, bind_eq_ok, require_eq_ok] at hpre
      obtain ⟨-, -, -, hquantity, -⟩ := hpre
      have htotal := (calculateTotalFees_spec hfees).2.2
      simp only [if_true, Nat.add_zero] at htotal
      omega
    have hzero : x.equity = 0 ↔ unit = 0 := by
      have hceil := Rounding.ceilDiv_pos_iff (a := unit * fees.totalQuantity) preciseUnit_pos
      rw [← hequity, Nat.mul_pos_iff_of_pos_right hpos] at hceil
      omega
    refine ⟨fees, hfees, ?_⟩
    rw [BorrowsOnce, hborrowed, hsent, ← hxdebt, Nat.add_left_cancel_iff, once_iff, hzero, hunit,
      hxdebt, Nat.div_eq_zero_iff, Int.natCast_eq_zero]
    have hne := preciseUnit_pos.ne'
    simp only [and_true, hne, false_or]
  · intro w₀ w' quantity hpre h
    simp only [redeem, hpre, bind_eq_ok, Except.ok.injEq, exists_eq_left'] at h
    obtain ⟨fees, x, hfees, hx, htally⟩ := redeemAfterHooks_tallied hout hhooks hdebt rfl rfl h
    obtain ⟨unit, hunit, hequity⟩ := hx.equity
    have hrepaid := (htally _ (watches_repaid setToken c _)).total
    rw [bothPhases_repaid hx] at hrepaid
    have hpulled := (htally _ (watches_pulled c _ msgSender setToken)).total
    rw [bothPhases_pulled] at hpulled
    have hxdebt := hx.debt
    simp only [notionalDebt, Bool.false_eq_true, if_false] at hequity hxdebt
    refine ⟨fees, hfees, ?_⟩
    rw [RepaysOnce, hrepaid, hpulled, ← hxdebt, Nat.add_left_cancel_iff, once_iff, hunit, hequity,
      Nat.div_eq_zero_iff]
    have hne := preciseUnit_pos.ne'
    have hsmall : (unit : ℤ) * (fees.totalQuantity : ℤ) < preciseUnitInt ↔
        unit * fees.totalQuantity < preciseUnit := by
      rw [← Nat.cast_mul, ← natCast_preciseUnit, Nat.cast_lt]
    rw [hsmall]
    simp only [and_true, hne, false_or]
    -- a debt of zero means a quantity of zero
    refine ⟨fun h => h.elim id fun hdebt₀ => ?_, .inl⟩
    have hceil := Rounding.ceilDiv_pos_iff
      (a := debtUnit clm c (w.setTokens setToken) * fees.totalQuantity) preciseUnit_pos
    have hunit₀ : 0 < debtUnit clm c (w.setTokens setToken) := by
      have := hdebt.debt
      unfold debtUnit
      omega
    rw [← hxdebt, Nat.mul_pos_iff_of_pos_left hunit₀] at hceil
    have hquantity : fees.totalQuantity = 0 := by omega
    rw [hquantity, Nat.mul_zero]
    exact preciseUnit_pos

/-- The hooks of the other modules stay aside when they do nothing. -/
private theorem hooksAside_market : HooksAside clm setToken c cToken (market 11) := by
  have haside : ∀ w w', (Except.ok w : Except Revert World) = .ok w' →
      Aside setToken c cToken w w' := by
    intro w w' h
    obtain rfl : w = w' := by simpa using h
    exact ⟨rfl, rfl, [], (List.append_nil _).symm, fun _ h => absurd h List.not_mem_nil⟩
  exact ⟨fun _ _ _ _ _ w w' _ h => haside w w' h, fun _ _ _ _ _ w w' _ h => haside w w' h⟩

/-- What is tested for the debt of the example to be the only one. -/
private def soleDebtTest (w : World) : Bool :=
  (w.setTokens 100).components = [12, 11] ∧
    (w.setTokens 100).externalPositionModules 11 = [7] ∧
    (w.setTokens 100).externalPositionModules 12 = [] ∧
    (w.setTokens 100).externalRealUnit 11 7 < 0

private theorem soleDebt_of_test (h : soleDebtTest w = true) :
    SoleDebt 7 11 (w.setTokens 100) w.compoundLeverage := by
  obtain ⟨hcomponents, h11, h12, hdebt⟩ := of_decide_eq_true h
  refine ⟨by rw [hcomponents]; decide, by rw [hcomponents]; decide, h11, hdebt, ?_⟩
  intro d hd hne hmodule
  rw [hcomponents] at hd
  rcases List.mem_cons.mp hd with rfl | hd
  · rw [h12] at hmodule
    exact absurd hmodule List.not_mem_nil
  · exact absurd (List.mem_singleton.mp hd) hne

/-- Without a default unit, the debt of half a token per Set is borrowed once for one Set, and
repaid once. -/
theorem replicates_iff_example :
    (∃ w w' fees, issue 6 (attach 7 (market 11)) (marketWorld 0 (10 ^ 18) (5 * 10 ^ 17)) 50 100
        (10 ^ 18) 50 = .ok w' ∧
      calculateTotalFees 6 w 100 (10 ^ 18) true = .ok fees ∧
      BorrowsOnce 100 (w.compoundLeverage.underlyingToCToken 11) 11 50
        (debtUnit 7 11 (w.setTokens 100) * fees.totalQuantity / preciseUnit) w w') ∧
    ∃ w w' fees, redeem 6 (attach 7 (market 11)) (marketWorld 0 (10 ^ 18) (5 * 10 ^ 17)) 50 100
        (10 ^ 18) 50 = .ok w' ∧
      calculateTotalFees 6 w 100 (10 ^ 18) false = .ok fees ∧
      RepaysOnce 100 (w.compoundLeverage.underlyingToCToken 11) 11 50
        ((debtUnit 7 11 (w.setTokens 100) * fees.totalQuantity) ⌈/⌉ preciseUnit) w w' := by
  constructor
  · obtain ⟨w, hpre, hw⟩ := exists_of_yields
      (x := callPreIssueHooks 6 (attach 7 (market 11)) (marketWorld 0 (10 ^ 18) (5 * 10 ^ 17)) 50
        100 (10 ^ 18) 50)
      (p := fun w => soleDebtTest w && ((w.setTokens 100).defaultRealUnit 11 = 0 : Bool))
      (by decide +kernel)
    obtain ⟨hsole, hunit⟩ := Bool.and_eq_true_iff.mp hw
    obtain ⟨w', hissue, -⟩ := exists_of_yields
      (x := issue 6 (attach 7 (market 11)) (marketWorld 0 (10 ^ 18) (5 * 10 ^ 17)) 50 100 (10 ^ 18)
        50) (p := fun _ => true) (by decide +kernel)
    obtain ⟨fees, hfees, hiff⟩ := (replicates_iff w (outsideSpares_market 11 100) hooksAside_market
      (soleDebt_of_test hsole)).1 _ _ _ hpre hissue
    exact ⟨w, w', fees, hissue, hfees, hiff.mpr (.inl (of_decide_eq_true hunit))⟩
  · obtain ⟨w, hpre, hw⟩ := exists_of_yields
      (x := callPreRedeemHooks 6 (attach 7 (market 11)) (marketWorld 0 (10 ^ 18) (5 * 10 ^ 17)) 100
        (10 ^ 18))
      (p := fun w => soleDebtTest w && ((w.setTokens 100).defaultRealUnit 11 = 0 : Bool))
      (by decide +kernel)
    obtain ⟨hsole, hunit⟩ := Bool.and_eq_true_iff.mp hw
    obtain ⟨w', hredeem, -⟩ := exists_of_yields
      (x := redeem 6 (attach 7 (market 11)) (marketWorld 0 (10 ^ 18) (5 * 10 ^ 17)) 50 100 (10 ^ 18)
        50) (p := fun _ => true) (by decide +kernel)
    obtain ⟨fees, hfees, hiff⟩ := (replicates_iff w (outsideSpares_market 11 100) hooksAside_market
      (soleDebt_of_test hsole)).2 _ _ _ hpre hredeem
    refine ⟨w, w', fees, hredeem, hfees, hiff.mpr ?_⟩
    rw [of_decide_eq_true hunit, Int.zero_mul]
    exact preciseUnitInt_pos

/-- Next to a default unit of one, the debt of half a token per Set is borrowed twice for one
Set. -/
theorem issue_borrows_twice :
    ∃ w w' fees, callPreIssueHooks 6 (attach 7 (market 11))
        (marketWorld (10 ^ 18) (10 ^ 18) (5 * 10 ^ 17)) 50 100 (10 ^ 18) 50 = .ok w ∧
      issue 6 (attach 7 (market 11)) (marketWorld (10 ^ 18) (10 ^ 18) (5 * 10 ^ 17)) 50 100
        (10 ^ 18) 50 = .ok w' ∧
      OutsideSpares (market 11) 100 ∧ HooksAside 7 100 11 22 (market 11) ∧
      SoleDebt 7 11 (w.setTokens 100) w.compoundLeverage ∧
      calculateTotalFees 6 w 100 (10 ^ 18) true = .ok fees ∧
      ¬BorrowsOnce 100 (w.compoundLeverage.underlyingToCToken 11) 11 50
        (debtUnit 7 11 (w.setTokens 100) * fees.totalQuantity / preciseUnit) w w' := by
  obtain ⟨w, hpre, hw⟩ := exists_of_yields
    (x := callPreIssueHooks 6 (attach 7 (market 11))
      (marketWorld (10 ^ 18) (10 ^ 18) (5 * 10 ^ 17)) 50 100 (10 ^ 18) 50)
    (p := fun w => soleDebtTest w && yields (calculateTotalFees 6 w 100 (10 ^ 18) true) fun fees =>
      yields (issueAfterHooks 6 (attach 7 (market 11)) w 50 100 (10 ^ 18) 50) fun w' =>
        tally (borrowed 100 (w.compoundLeverage.underlyingToCToken 11)) w' =
            tally (borrowed 100 (w.compoundLeverage.underlyingToCToken 11)) w + 10 ^ 18 ∧
          debtUnit 7 11 (w.setTokens 100) * fees.totalQuantity / preciseUnit = 5 * 10 ^ 17)
    (by decide +kernel)
  obtain ⟨hsole, hw⟩ := Bool.and_eq_true_iff.mp hw
  obtain ⟨fees, hfees, hw⟩ := exists_of_yields hw
  obtain ⟨w', hafter, h⟩ := exists_of_yields hw
  obtain ⟨htwice, honce⟩ := of_decide_eq_true h
  refine ⟨w, w', fees, hpre, ?_, outsideSpares_market 11 100, hooksAside_market,
    soleDebt_of_test hsole, hfees, fun hborrows => ?_⟩
  · simp only [issue, hpre, bind_eq_ok, Except.ok.injEq, exists_eq_left', hafter]
  · have := hborrows.1
    omega

end LeverageReplication

end SetProtocol
