import SetProtocol.Core.Flow
import SetProtocol.Modules.CompoundLeverageModule

set_option relaxedAutoImplicit false
set_option autoImplicit false

/-!
# The calls that leverage makes

What a Set borrows, repays, sends and is sent can be read off the calls it makes. A weight gives
each call a number, the amount it borrows for instance, and the weights of the calls made so far
add up to a tally. Borrowing and repaying leave the positions and the markets of the Set alone, so
that tallies add up over a sequence of calls and over a loop.

## Main definitions

* `SetProtocol.tally` — the total weight of the calls made so far.
* `SetProtocol.Tallied` — the call leaves positions and markets alone and adds to the tally.
* `SetProtocol.borrowed`, `repaid`, `sent`, `pulled` — the weights of the calls that move debt.
* `SetProtocol.Watches` — the weight is about one component and one market.
* `SetProtocol.market` — a market that lends what it holds.

## Main results

* `SetProtocol.Tallied.trans`, `SetProtocol.Tallied.foldlM` — tallies add up.
* `SetProtocol.CompoundLeverageModule.componentIssueHook_tallied`,
  `componentRedeemHook_tallied` — the hooks make one call to a market.
-/

namespace SetProtocol

open Checked

/-- The total weight of the calls made so far. -/
def tally (weight : Call → ℕ) (w : World) : ℕ := (w.calls.map weight).sum

/-! ## Weights -/

/-- What a call by a Set borrows on a market. -/
def borrowed (setToken cToken : Address) (call : Call) : ℕ :=
  match call.data with
  | .borrow amount => if call.caller = setToken ∧ call.target = cToken then amount else 0
  | _ => 0

/-- What a call by a Set repays on a market. -/
def repaid (setToken cToken : Address) (call : Call) : ℕ :=
  match call.data with
  | .repayBorrow amount => if call.caller = setToken ∧ call.target = cToken then amount else 0
  | .repayBorrowEther => if call.caller = setToken ∧ call.target = cToken then call.value else 0
  | _ => 0

/-- What a call by an account sends of a token to another account. -/
def sent (token sender recipient : Address) (call : Call) : ℕ :=
  match call.data with
  | .transfer account amount =>
    if call.caller = sender ∧ call.target = token ∧ account = recipient then amount else 0
  | _ => 0

/-- What a call pulls of a token from one account to another. -/
def pulled (token sender recipient : Address) (call : Call) : ℕ :=
  match call.data with
  | .transferFrom giver taker amount =>
    if call.target = token ∧ giver = sender ∧ taker = recipient then amount else 0
  | _ => 0

/-- A weight that looks at the debt of one component, on one market, and at what is sent of the
component. -/
structure Watches (component cToken : Address) (weight : Call → ℕ) : Prop where
  /-- Allowances, and the wrapping of Ether, weigh nothing. -/
  aside : ∀ caller target value data,
    (∃ spender n, data = .approve spender n) ∨ (∃ n, data = .withdraw n) ∨ data = .deposit →
    weight ⟨caller, target, value, data⟩ = 0
  /-- Calls to other contracts weigh nothing. -/
  elsewhere : ∀ call, call.target ≠ component → call.target ≠ cToken → weight call = 0
  /-- Transfers of other tokens weigh nothing. -/
  tokens : ∀ caller target value data,
    (∃ r n, data = .transfer r n) ∨ (∃ s r n, data = .transferFrom s r n) → target ≠ component →
    weight ⟨caller, target, value, data⟩ = 0
  /-- Debt on other markets weighs nothing. -/
  markets : ∀ caller target value data,
    (∃ n, data = .borrow n) ∨ (∃ n, data = .repayBorrow n) ∨ data = .repayBorrowEther →
    target ≠ cToken → weight ⟨caller, target, value, data⟩ = 0

namespace Watches

variable {component cToken token caller account account' : Address} {value amount : ℕ}
  {weight : Call → ℕ}

/-- A transfer weighs something for the component only. -/
theorem transfer_eq (h : Watches component cToken weight) :
    weight ⟨caller, token, value, .transfer account amount⟩ =
      only token (weight ⟨caller, component, value, .transfer account amount⟩) component := by
  by_cases htoken : component = token
  · rw [only, if_pos htoken, htoken]
  · rw [only, if_neg htoken]
    exact h.tokens _ _ _ _ (.inl ⟨_, _, rfl⟩) (Ne.symm htoken)

/-- A transfer by allowance weighs something for the component only. -/
theorem transferFrom_eq (h : Watches component cToken weight) :
    weight ⟨caller, token, value, .transferFrom account account' amount⟩ =
      only token (weight ⟨caller, component, value, .transferFrom account account' amount⟩)
        component := by
  by_cases htoken : component = token
  · rw [only, if_pos htoken, htoken]
  · rw [only, if_neg htoken]
    exact h.tokens _ _ _ _ (.inr ⟨_, _, _, rfl⟩) (Ne.symm htoken)

end Watches

section Weights

variable (setToken component cToken account account' : Address)

/-- Borrowing on a market can be weighed. -/
theorem watches_borrowed : Watches component cToken (borrowed setToken cToken) where
  aside := by
    rintro caller target value data (⟨_, _, rfl⟩ | ⟨_, rfl⟩ | rfl) <;> rfl
  elsewhere := by
    intro call _ hmarket
    unfold borrowed
    split
    · exact if_neg fun h => hmarket h.2
    · rfl
  tokens := by
    rintro caller target value data (⟨_, _, rfl⟩ | ⟨_, _, _, rfl⟩) _ <;> rfl
  markets := by
    rintro caller target value data (⟨_, rfl⟩ | ⟨_, rfl⟩ | rfl) hmarket
    · exact if_neg fun h => hmarket h.2
    · rfl
    · rfl

/-- Repaying on a market can be weighed. -/
theorem watches_repaid : Watches component cToken (repaid setToken cToken) where
  aside := by
    rintro caller target value data (⟨_, _, rfl⟩ | ⟨_, rfl⟩ | rfl) <;> rfl
  elsewhere := by
    intro call _ hmarket
    unfold repaid
    split
    · exact if_neg fun h => hmarket h.2
    · exact if_neg fun h => hmarket h.2
    · rfl
  tokens := by
    rintro caller target value data (⟨_, _, rfl⟩ | ⟨_, _, _, rfl⟩) _ <;> rfl
  markets := by
    rintro caller target value data (⟨_, rfl⟩ | ⟨_, rfl⟩ | rfl) hmarket
    · rfl
    · exact if_neg fun h => hmarket h.2
    · exact if_neg fun h => hmarket h.2

/-- What an account sends of the component can be weighed. -/
theorem watches_sent : Watches component cToken (sent component account account') where
  aside := by
    rintro caller target value data (⟨_, _, rfl⟩ | ⟨_, rfl⟩ | rfl) <;> rfl
  elsewhere := by
    intro call htoken _
    unfold sent
    split
    · exact if_neg fun h => htoken h.2.1
    · rfl
  tokens := by
    rintro caller target value data (⟨_, _, rfl⟩ | ⟨_, _, _, rfl⟩) htoken
    · exact if_neg fun h => htoken h.2.1
    · rfl
  markets := by
    rintro caller target value data (⟨_, rfl⟩ | ⟨_, rfl⟩ | rfl) _ <;> rfl

/-- What is pulled of the component from an account can be weighed. -/
theorem watches_pulled : Watches component cToken (pulled component account account') where
  aside := by
    rintro caller target value data (⟨_, _, rfl⟩ | ⟨_, rfl⟩ | rfl) <;> rfl
  elsewhere := by
    intro call htoken _
    unfold pulled
    split
    · exact if_neg fun h => htoken h.1
    · rfl
  tokens := by
    rintro caller target value data (⟨_, _, rfl⟩ | ⟨_, _, _, rfl⟩) htoken
    · rfl
    · exact if_neg fun h => htoken h.1
  markets := by
    rintro caller target value data (⟨_, rfl⟩ | ⟨_, rfl⟩ | rfl) _ <;> rfl

end Weights

/-! ## Tallies -/

/-- The call left the positions of the Set and the markets of the module alone, and the calls it
made weigh `n`. -/
structure Tallied (setToken : Address) (weight : Call → ℕ) (w w' : World) (n : ℕ) : Prop where
  /-- The positions are unchanged. -/
  positions : w'.setTokens setToken = w.setTokens setToken
  /-- The markets are unchanged. -/
  leverage : w'.compoundLeverage = w.compoundLeverage
  /-- The calls weigh so much. -/
  total : tally weight w' = tally weight w + n

/-- The contracts outside the protocol leave the positions of the Set and the markets of the module
alone, and do not make the Set call anyone. -/
def OutsideSpares (env : Env) (setToken : Address) : Prop :=
  ∀ call w w' words, env.call call w = .ok (w', words) →
    w'.setTokens setToken = w.setTokens setToken ∧ w'.compoundLeverage = w.compoundLeverage ∧
      w'.calls = w.calls

namespace Tallied

variable {setToken : Address} {weight : Call → ℕ} {w w₁ w₂ : World} {m n : ℕ}

/-- Doing nothing weighs nothing. -/
theorem refl (setToken : Address) (weight : Call → ℕ) (w : World) :
    Tallied setToken weight w w 0 :=
  ⟨rfl, rfl, rfl⟩

/-- Tallies add up over a sequence. -/
theorem trans (h₁ : Tallied setToken weight w w₁ m) (h₂ : Tallied setToken weight w₁ w₂ n) :
    Tallied setToken weight w w₂ (m + n) := by
  refine ⟨h₂.positions.trans h₁.positions, h₂.leverage.trans h₁.leverage, ?_⟩
  rw [h₂.total, h₁.total, Nat.add_assoc]

/-- Tallies add up over a loop, whose body may rely on the positions of the Set and on the markets
of the module. -/
theorem foldlM {β : Type} {f : World → β → Except Revert World} (amount : β → ℕ) {s : SetToken}
    {cl : CompoundLeverage} {l : List β}
    (body : ∀ b ∈ l, ∀ w w', w.setTokens setToken = s → w.compoundLeverage = cl →
      f w b = .ok w' → Tallied setToken weight w w' (amount b))
    (hs : w.setTokens setToken = s) (hcl : w.compoundLeverage = cl) (h : l.foldlM f w = .ok w₁) :
    Tallied setToken weight w w₁ (l.map amount).sum := by
  induction l generalizing w with
  | nil =>
    obtain rfl : w = w₁ := by simpa using h
    exact refl setToken weight w
  | cons b l ih =>
    obtain ⟨w', h₁, h₂⟩ := foldlM_cons_eq_ok.mp h
    have hhead := body b List.mem_cons_self w w' hs hcl h₁
    have htail := ih (fun a ha => body a (List.mem_cons_of_mem b ha))
      (hhead.positions.trans hs) (hhead.leverage.trans hcl) h₂
    simpa using hhead.trans htail

/-- A step that appends a call adds its weight. -/
theorem of_append {call : Call} (hpositions : w₁.setTokens setToken = w.setTokens setToken)
    (hleverage : w₁.compoundLeverage = w.compoundLeverage) (hcalls : w₁.calls = w.calls ++ [call]) :
    Tallied setToken weight w w₁ (weight call) := by
  refine ⟨hpositions, hleverage, ?_⟩
  rw [tally, hcalls, List.map_append, List.sum_append, List.map_singleton, List.sum_singleton,
    tally]

/-- A call by the Set weighs what it weighs. -/
theorem of_invoke (weight : Call → ℕ) {env : Env} {self target : Address} {value : ℕ}
    {data : CallData} {words : List ℕ} (hout : OutsideSpares env setToken)
    (h : w.invoke env self setToken target value data = .ok (w₁, words)) :
    Tallied setToken weight w w₁ (weight ⟨setToken, target, value, data⟩) := by
  obtain ⟨-, h⟩ := World.invoke_eq_ok.mp h
  have hkept := World.execute_keeps
    (fun w => (w.setTokens setToken, w.compoundLeverage, w.calls)) (fun _ _ _ => rfl)
    (fun call w w' words h => by
      obtain ⟨hs, hcl, hcalls⟩ := hout call w w' words h
      simp only [hs, hcl, hcalls]) h
  simp only [Prod.mk.injEq] at hkept
  obtain ⟨hs, hcl, hcalls⟩ := hkept
  have hcalls : w₁.calls = w.calls ++ [⟨setToken, target, value, data⟩] := hcalls
  exact of_append (w := w) hs hcl hcalls

variable (setToken) in
/-- The tally of a transfer by allowance. -/
theorem of_transferFrom {self token sender recipient c cToken : Address} {quantity : ℕ}
    (hweight : Watches c cToken weight) (hq : 0 < quantity)
    (h : ModuleBase.transferFrom self w token sender recipient quantity = .ok w₁) :
    Tallied setToken weight w w₁
      (only token (weight ⟨self, c, 0, .transferFrom sender recipient quantity⟩) c) := by
  obtain ⟨t', -, -, rfl⟩ := ModuleBase.transferFrom_spec h
  rw [← hweight.transferFrom_eq, transferCall, if_pos hq]
  exact of_append (w := w) rfl rfl rfl

/-- The tally of a transfer by the Set. -/
theorem of_strictInvokeTransfer {self token recipient c cToken : Address} {quantity : ℕ}
    {env : Env} (hweight : Watches c cToken weight) (hq : 0 < quantity)
    (h : Invoke.strictInvokeTransfer self env w setToken token recipient quantity = .ok w₁) :
    Tallied setToken weight w w₁
      (only token (weight ⟨setToken, c, 0, .transfer recipient quantity⟩) c) := by
  obtain ⟨t', -, -, -, rfl⟩ := Invoke.strictInvokeTransfer_spec h
  rw [← hweight.transfer_eq, transferCall, if_pos hq]
  exact of_append (w := w) rfl rfl rfl

/-- Minting makes no call. -/
theorem of_mint {sender token account : Address} {quantity : ℕ}
    (h : w.mint sender token account quantity = .ok w₁) : Tallied setToken weight w w₁ 0 := by
  obtain ⟨-, rfl⟩ := World.mint_spec h
  exact ⟨rfl, rfl, rfl⟩

/-- Burning makes no call. -/
theorem of_burn {sender token account : Address} {quantity : ℕ}
    (h : w.burn sender token account quantity = .ok w₁) : Tallied setToken weight w w₁ 0 := by
  obtain ⟨-, -, rfl⟩ := World.burn_spec h
  exact ⟨rfl, rfl, rfl⟩

end Tallied

/-! ## The hooks -/

namespace CompoundLeverageModule

/-- The call by which a Set borrows. -/
def borrowCall (setToken cToken : Address) (amount : ℕ) : Call :=
  ⟨setToken, cToken, 0, .borrow amount⟩

/-- The call by which a Set repays. -/
def repayCall (cl : CompoundLeverage) (setToken cToken : Address) (amount : ℕ) : Call :=
  if cToken = cl.cEther then ⟨setToken, cToken, amount, .repayBorrowEther⟩
  else ⟨setToken, cToken, 0, .repayBorrow amount⟩

variable {self setToken c cToken : Address} {env : Env} {weight : Call → ℕ} {w w' : World}

/-- The call that repays weighs the amount, in Ether or in tokens. -/
theorem repaid_repayCall (cl : CompoundLeverage) (setToken cToken : Address) (amount : ℕ) :
    repaid setToken cToken (repayCall cl setToken cToken amount) = amount := by
  unfold repayCall
  split_ifs
  · exact if_pos ⟨rfl, rfl⟩
  · exact if_pos ⟨rfl, rfl⟩

/-- Borrowing makes one call that counts. -/
theorem borrow_tallied {market : Address} {amount : ℕ} (hout : OutsideSpares env setToken)
    (hweight : Watches c cToken weight)
    (h : borrow self env w setToken market amount = .ok w') :
    Tallied setToken weight w w' (weight (borrowCall setToken market amount)) := by
  simp only [borrow, bind_eq_ok, Compound.invokeBorrow, Compound.invokeAndCheck_eq_ok] at h
  obtain ⟨w₁, ⟨words, hborrow⟩, h⟩ := h
  have hborrow := Tallied.of_invoke weight hout hborrow
  split_ifs at h with hether
  · simp only [Invoke.invokeWrapWETH, bind_eq_ok, pure_eq_ok, Prod.exists] at h
    obtain ⟨_, _, hwrap, rfl⟩ := h
    have hwrap := Tallied.of_invoke weight hout hwrap
    rw [hweight.aside _ _ _ _ (.inr (.inr rfl))] at hwrap
    exact hborrow.trans hwrap
  · obtain rfl : w₁ = w' := by simpa using h
    exact hborrow

/-- Repaying makes one call that counts. -/
theorem repayBorrow_tallied {market underlying : Address} {amount : ℕ}
    (hout : OutsideSpares env setToken) (hweight : Watches c cToken weight)
    (h : repayBorrow self env w setToken market underlying amount = .ok w') :
    Tallied setToken weight w w'
      (weight (repayCall w.compoundLeverage setToken market amount)) := by
  unfold repayBorrow at h
  unfold repayCall
  split_ifs at h ⊢ with hether
  · simp only [Invoke.invokeUnwrapWETH, Compound.invokeRepayBorrowCEther, bind_eq_ok, pure_eq_ok,
      Prod.exists] at h
    obtain ⟨_, ⟨_, _, hunwrap, rfl⟩, _, _, hrepay, rfl⟩ := h
    have hunwrap := Tallied.of_invoke weight hout hunwrap
    rw [hweight.aside _ _ _ _ (.inr (.inl ⟨_, rfl⟩))] at hunwrap
    have hall := hunwrap.trans (Tallied.of_invoke weight hout hrepay)
    rwa [Nat.zero_add] at hall
  · simp only [Invoke.invokeApprove, Compound.invokeRepayBorrowCToken,
      Compound.invokeAndCheck_eq_ok, bind_eq_ok, pure_eq_ok, Prod.exists] at h
    obtain ⟨_, ⟨_, _, happrove, rfl⟩, words, hrepay⟩ := h
    have happrove := Tallied.of_invoke weight hout happrove
    rw [hweight.aside _ _ _ _ (.inl ⟨_, _, rfl⟩)] at happrove
    have hall := happrove.trans (Tallied.of_invoke weight hout hrepay)
    rwa [Nat.zero_add] at hall

/-- What a Set owes of a component, per Set, as the hooks read it. -/
def debtUnit (self component : Address) (s : SetToken) : ℕ :=
  (s.externalRealUnit component self).natAbs

/-- The debt that a hook computes is that one. -/
theorem debtUnit_eq_of_componentDebt {component : Address} {debt : ℕ}
    (h : componentDebt self w setToken component = .ok debt) :
    debtUnit self component (w.setTokens setToken) = debt := by
  obtain ⟨hneg, hdebt⟩ := componentDebt_eq_ok h
  unfold debtUnit
  omega

/-- The hook for issuance borrows the debt of the quantity, rounded down. -/
theorem componentIssueHook_tallied {caller component : Address} {quantity : ℕ}
    (hout : OutsideSpares env setToken) (hweight : Watches c cToken weight)
    (h : componentIssueHook self env w caller setToken quantity component = .ok w') :
    Tallied setToken weight w w' (weight (borrowCall setToken
      (w.compoundLeverage.underlyingToCToken component)
      (debtUnit self component (w.setTokens setToken) * quantity / preciseUnit))) := by
  simp only [componentIssueHook, bind_eq_ok, PreciseUnitMath.preciseMul_eq_ok] at h
  obtain ⟨-, -, debt, hdebt, _, ⟨-, rfl⟩, h⟩ := h
  rw [debtUnit_eq_of_componentDebt hdebt]
  exact borrow_tallied hout hweight h

/-- The hook for redemption repays the debt of the quantity, rounded up. -/
theorem componentRedeemHook_tallied {caller component : Address} {quantity : ℕ}
    (hout : OutsideSpares env setToken) (hweight : Watches c cToken weight)
    (h : componentRedeemHook self env w caller setToken quantity component = .ok w') :
    Tallied setToken weight w w' (weight (repayCall w.compoundLeverage setToken
      (w.compoundLeverage.underlyingToCToken component)
      ((debtUnit self component (w.setTokens setToken) * quantity) ⌈/⌉ preciseUnit))) := by
  simp only [componentRedeemHook, bind_eq_ok, PreciseUnitMath.preciseMulCeil_eq_ok] at h
  obtain ⟨-, -, debt, hdebt, _, ⟨-, rfl⟩, h⟩ := h
  rw [debtUnit_eq_of_componentDebt hdebt]
  exact repayBorrow_tallied hout hweight h

end CompoundLeverageModule

/-! ## A market -/

/-- A market for one underlying token, as the contracts outside the protocol: it lends what it
holds, keeps what each account owes, and takes back no more than that. -/
def market (underlying : Address) : Env where
  call call w :=
    let owed := w.storage call.target call.caller.toNat
    match call.data with
    | .borrow amount => do
      let w ← w.editToken underlying fun t => t.transfer call.target call.caller amount
      return (w.store call.target call.caller.toNat (owed + amount), [0])
    | .repayBorrow amount => do
      require (amount ≤ owed) "REPAY_BORROW_FRESH_FAILED"
      let w ← w.editToken underlying fun t =>
        t.transferFrom call.target call.caller call.target amount
      return (w.store call.target call.caller.toNat (owed - amount), [0])
    | _ => .ok (w, [0])
  borrowBalanceCurrent cToken account w := .ok (w, w.storage cToken account.toNat)
  borrowBalanceStored cToken account w := .ok (w.storage cToken account.toNat)

/-- The market leaves the protocol alone. -/
theorem outsideSpares_market (underlying setToken : Address) :
    OutsideSpares (market underlying) setToken := by
  intro call w w' words h
  simp only [market] at h
  split at h
  · simp only [bind_eq_ok, World.editToken_eq_ok, pure_eq_ok, Prod.mk.injEq] at h
    obtain ⟨_, ⟨_, -, rfl⟩, rfl, -⟩ := h
    exact ⟨rfl, rfl, rfl⟩
  · simp only [bind_eq_ok, World.editToken_eq_ok, pure_eq_ok, Prod.mk.injEq] at h
    obtain ⟨-, -, _, ⟨_, -, rfl⟩, rfl, -⟩ := h
    exact ⟨rfl, rfl, rfl⟩
  · obtain ⟨rfl, -⟩ : w = w' ∧ _ := by simpa using h
    exact ⟨rfl, rfl, rfl⟩

/-- A Set at `100` that owes the market `22` so much of the token `11`, for its supply. Per Set it
has one of the token `12`, and so much of the token `11` next to the debt. The user `50` has the
supply. The issuance module is at `6` and the leverage module at `7`. -/
def marketWorld (equity : ℤ) (supply owed : ℕ) : World where
  controller := { isSet := fun a => a = 100, isModule := fun a => a = 6 ∨ a = 7 }
  tokens := fun a =>
    if a = 11 ∨ a = 12 then
      { balances := fun b => if b = 100 then supply else 10 ^ 30
        allowances := fun _ _ => 10 ^ 30 }
    else { balances := fun b => if b = 50 then supply else 0, totalSupply := supply }
  setTokens := fun _ =>
    { modules := [6, 7]
      moduleStates := fun _ => .initialized
      components := [12, 11]
      componentPositions := fun c =>
        if c = 11 then
          { virtualUnit := equity
            externalPositionModules := [7]
            externalPositions := fun _ =>
              { virtualUnit := -((owed * preciseUnit) ⌈/⌉ supply : ℕ) } }
        else if c = 12 then { virtualUnit := preciseUnitInt } else {} }
  issuanceSettings := fun _ => { moduleIssuanceHooks := [7] }
  compoundLeverage :=
    { underlyingToCToken := fun a => if a = 11 then 22 else zeroAddress
      cEther := 33
      borrowCTokenEnabled := fun _ a => a = 22
      enabledAssets := fun _ => { borrowCTokens := [22], borrowAssets := [11] } }
  storage := fun a key => if a = 22 ∧ key = 100 then owed else 0

end SetProtocol
