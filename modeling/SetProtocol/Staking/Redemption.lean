import SetProtocol.Modules.IssuanceModule
import SetProtocol.Positions.Tracking
import SetProtocol.Staking.Units

set_option relaxedAutoImplicit false
set_option autoImplicit false

/-!
# Redemption of staked components

An issuance stakes the units of each staking contract times its quantity, rounded down, and a
redemption unstakes as much. Several issuances can stake less than one redemption of their sum
unstakes: what is lost to rounding adds up.

## Main definitions

* `SetProtocol.StakingRedemption.staked` — what the Set has deposited on a staking contract.
* `SetProtocol.StakingRedemption.Action`, `step` — staking, issuance and redemption.
* `SetProtocol.StakingRedemption.StakeChange` — the change of all deposits by a call.
* `SetProtocol.StakingRedemption.HasRoom` — rounding loses nothing, or nothing that is needed.

## Main results

* `SetProtocol.StakingRedemption.staked_of_run` — enough is deposited for any redemption, after a
  run of actions that each leave room.
* `SetProtocol.StakingRedemption.issue_stakes_too_little` — a run after which it is not.
-/

namespace SetProtocol

namespace StakingRedemption

open Checked Transition StakingModule StakingUnits

/-! ## Actions -/

/-- What the Set has deposited on a staking contract. -/
def staked (setToken : Address) (w : World) (j : Address) : ℕ := w.storage j setToken.toNat

/-- What is done to a Set with staked components. A staking contract `j` is for one token, `token j`
in what follows. -/
inductive Action
  | stake (msgSender stakeContract : Address) (adapterName : String) (units : ℕ)
  | unstake (msgSender stakeContract : Address) (adapterName : String) (units : ℕ)
  | issue (msgSender : Address) (quantity : ℕ) (recipient : Address)
  | redeem (msgSender : Address) (quantity : ℕ) (recipient : Address)
  /-- The rest of the world changes: holders transfer Sets, time passes. -/
  | other (rest : World)

/-- The effect of an action on the Set at `setToken`, with the modules at the given addresses. -/
def step (stakingModule issuanceModule setToken : Address) (token : Address → Address) (env : Env)
    (a : Action) (w : World) : Except Revert World :=
  match a with
  | .stake msgSender j adapterName units =>
    stake stakingModule env w msgSender setToken j (token j) adapterName units
  | .unstake msgSender j adapterName units =>
    unstake stakingModule env w msgSender setToken j (token j) adapterName units
  | .issue msgSender quantity recipient =>
    IssuanceModule.issue issuanceModule (attach stakingModule env) w msgSender setToken quantity
      recipient
  | .redeem msgSender quantity recipient =>
    IssuanceModule.redeem issuanceModule (attach stakingModule env) w msgSender setToken quantity
      recipient
  | .other rest =>
    .ok { rest with
      setTokens := Function.update rest.setTokens setToken (w.setTokens setToken)
      stakingPositions :=
        Function.update rest.stakingPositions setToken (w.stakingPositions setToken)
      tokens := Function.update rest.tokens setToken
        { rest.tokens setToken with totalSupply := w.totalSupply setToken }
      storage := w.storage }

/-- The units that the module has on a staking contract. -/
def unitsOn (setToken : Address) (token : Address → Address) (w : World) (j : Address) : ℕ :=
  getStakingPositionUnit w setToken (token j) j

/-- Rounding down what is deposited for `product` loses nothing next to what is needed already, or
more is deposited than is needed. -/
def HasRoom (setToken : Address) (token : Address → Address) (w : World) (j : Address)
    (product : ℕ) : Prop :=
  unitsOn setToken token w j * w.totalSupply setToken % preciseUnit + product % preciseUnit <
      preciseUnit ∨
    unitsOn setToken token w j * w.totalSupply setToken / preciseUnit < staked setToken w j

/-- The action leaves room on each contract on which it deposits. -/
def LeavesRoom (setToken : Address) (token : Address → Address) (a : Action) (w : World) : Prop :=
  match a with
  | .stake _ j _ n => HasRoom setToken token w j (w.totalSupply setToken * n)
  | .issue _ quantity _ => ∀ j, HasRoom setToken token w j (quantity * unitsOn setToken token w j)
  | _ => True

/-! ## Changes of deposits -/

/-- The call left the positions and the supply of the Set alone, and changed its deposit on each
contract `k` by `δ k`. -/
structure StakeChange (setToken : Address) (w w' : World) (δ : Address → ℤ) : Prop where
  /-- The positions on the Set and on the module are unchanged. -/
  positions : bothPositions setToken w' = bothPositions setToken w
  /-- The supply is unchanged. -/
  supply : w'.totalSupply setToken = w.totalSupply setToken
  /-- The deposits change by the given amounts. -/
  deposits : ∀ k, (staked setToken w' k : ℤ) = staked setToken w k + δ k

/-- An amount on one contract. -/
def on (j : Address) (amount : ℤ) (k : Address) : ℤ := if j = k then amount else 0

/-- Staking contracts credit and return exactly the requested amounts. -/
structure ExactStaking (setToken : Address) (env : Env) : Prop where
  /-- The call to stake adds to the deposit. -/
  stake : ∀ adapter j n w target value data w₁ w₂ words,
    env.getStakeCallData adapter j n w = .ok (target, value, data) →
      World.execute env w₁ ⟨setToken, target, value, data⟩ = .ok (w₂, words) →
        StakeChange setToken w₁ w₂ (on j n)
  /-- The call to unstake takes from the deposit. -/
  unstake : ∀ adapter j n w target value data w₁ w₂ words,
    env.getUnstakeCallData adapter j n w = .ok (target, value, data) →
      World.execute env w₁ ⟨setToken, target, value, data⟩ = .ok (w₂, words) →
        StakeChange setToken w₁ w₂ (on j (-n))

/-- Other hooks leave the Set and its deposits alone. -/
structure HooksSpare (stakingModule setToken : Address) (env : Env) : Prop where
  /-- The manager's hook. -/
  manager : ∀ hook quantity caller recipient w w',
    env.invokePreIssueHook hook setToken quantity caller recipient w = .ok w' →
      StakeChange setToken w w' fun _ => 0
  /-- The hooks of other modules on issuance. -/
  issue : ∀ module caller quantity component isEquity w w', module ≠ stakingModule →
    env.componentIssueHook module caller setToken quantity component isEquity w = .ok w' →
      StakeChange setToken w w' fun _ => 0
  /-- The hooks of other modules on redemption. -/
  redeem : ∀ module caller quantity component isEquity w w', module ≠ stakingModule →
    env.componentRedeemHook module caller setToken quantity component isEquity w = .ok w' →
      StakeChange setToken w w' fun _ => 0

variable {stakingModule issuanceModule setToken c j k : Address} {token : Address → Address}
  {env : Env} {w w' w₁ w₂ : World} {δ δ' : Address → ℤ} {q : ℕ}

namespace StakeChange

theorem refl (setToken : Address) (w : World) : StakeChange setToken w w fun _ => 0 :=
  ⟨rfl, rfl, fun _ => (Int.add_zero _).symm⟩

theorem trans (h₁ : StakeChange setToken w w₁ δ) (h₂ : StakeChange setToken w₁ w₂ δ') :
    StakeChange setToken w w₂ fun k => δ k + δ' k := by
  refine ⟨h₂.positions.trans h₁.positions, h₂.supply.trans h₁.supply, fun k => ?_⟩
  rw [h₂.deposits, h₁.deposits, Int.add_assoc]

variable (setToken) in
/-- Changes add up over a loop, whose body may rely on the positions. -/
theorem foldlM {β : Type} {f : World → β → Except Revert World} (i : β → Address → ℤ) {l : List β}
    {x : SetToken × (Address → ComponentPositions)}
    (body : ∀ b w w', bothPositions setToken w = x → f w b = .ok w' →
      StakeChange setToken w w' (i b))
    (hx : bothPositions setToken w = x) (h : l.foldlM f w = .ok w') :
    StakeChange setToken w w' fun k => (l.map fun b => i b k).sum := by
  induction l generalizing w with
  | nil =>
    obtain rfl : w = w' := by simpa using h
    exact refl setToken w
  | cons b l ih =>
    obtain ⟨w₁, h₁, h₂⟩ := foldlM_cons_eq_ok.mp h
    have hhead := body b w w₁ hx h₁
    simpa using hhead.trans (ih (hhead.positions.trans hx) h₂)

/-- A ledger that keeps the supply of its token, and the log, do not change deposits. -/
theorem of_ledger {tkn : Address} {t : ERC20} {calls : List Call}
    (ht : t.totalSupply = (w.tokens tkn).totalSupply) :
    StakeChange setToken w { w.setTokenLedger tkn t with calls := calls } fun _ => 0 := by
  refine ⟨rfl, ?_, fun _ => (Int.add_zero _).symm⟩
  by_cases hc : setToken = tkn
  · subst hc
    simpa [World.totalSupply, World.setTokenLedger] using ht
  · simp [World.totalSupply, World.setTokenLedger, hc]

theorem of_log (call : Call) : StakeChange setToken w (w.log call) fun _ => 0 :=
  ⟨rfl, rfl, fun _ => (Int.add_zero _).symm⟩

variable (setToken) in
theorem of_transferFrom {self tkn sender recipient : Address}
    (h : ModuleBase.transferFrom self w tkn sender recipient q = .ok w') :
    StakeChange setToken w w' fun _ => 0 := by
  obtain ⟨t', hmoved, -, rfl⟩ := ModuleBase.transferFrom_spec h
  exact of_ledger hmoved.totalSupply

theorem of_strictInvokeTransfer {self payer tkn recipient : Address}
    (h : Invoke.strictInvokeTransfer self env w payer tkn recipient q = .ok w') :
    StakeChange setToken w w' fun _ => 0 := by
  obtain ⟨t', hmoved, -, -, rfl⟩ := Invoke.strictInvokeTransfer_spec h
  exact of_ledger hmoved.totalSupply

theorem of_invokeApprove {self payer tkn spender : Address}
    (h : Invoke.invokeApprove self env w payer tkn spender q = .ok w') :
    StakeChange setToken w w' fun _ => 0 := by
  obtain ⟨t', -, ht', rfl⟩ := Invoke.invokeApprove_spec h
  exact of_ledger ht'

end StakeChange

/-- Over distinct keys, the values at one key are the value at that key. -/
private theorem sum_at {l : List Address} (hl : l.Nodup) {f : Address → ℤ} {a : Address}
    (hf : a ∉ l → f a = 0) : (l.map fun x => if x = a then f x else 0).sum = f a := by
  rw [List.sum_map_ite_eq]
  by_cases ha : a ∈ l
  · simp [List.count_eq_one_of_mem hl ha]
  · simp [List.count_eq_zero_of_not_mem ha, hf ha]

/-! ## Calls to staking contracts -/

/-- What is deposited on a contract for a quantity of Sets. -/
def amount (q : ℕ) (p : ComponentPositions) (k : Address) : ℕ := q * p.units k / preciseUnit

/-- Staking deposits the units times the quantity, rounded down. -/
theorem stakeChange_of_invokeStake (staking : ExactStaking setToken env) {adapter : Address}
    {units : ℕ} (h : invokeStake stakingModule env w setToken j c adapter units q = .ok w') :
    StakeChange setToken w w' (on j (q * units / preciseUnit : ℕ)) := by
  simp only [invokeStake, Position.getDefaultTotalNotional, bind_eq_ok, World.invoke_eq_ok,
    PreciseUnitMath.preciseMul_eq_ok, pure_eq_ok, Prod.exists] at h
  obtain ⟨_, ⟨-, rfl⟩, _, -, w₁, happrove, _, _, _, hdata, _, _, ⟨-, hcall⟩, rfl⟩ := h
  have hstake := staking.stake _ _ _ _ _ _ _ _ _ _ hdata hcall
  simpa using ((StakeChange.of_invokeApprove happrove).trans (.of_log _)).trans hstake

/-- Unstaking returns the units times the quantity, rounded down. -/
theorem stakeChange_of_invokeUnstake (staking : ExactStaking setToken env) {adapter : Address}
    {units : ℕ} (h : invokeUnstake stakingModule env w setToken j c adapter units q = .ok w') :
    StakeChange setToken w w' (on j (-(q * units / preciseUnit : ℕ))) := by
  simp only [invokeUnstake, Position.getDefaultTotalNotional, bind_eq_ok, World.invoke_eq_ok,
    PreciseUnitMath.preciseMul_eq_ok, pure_eq_ok, Prod.exists] at h
  obtain ⟨_, ⟨-, rfl⟩, _, _, _, hdata, _, _, ⟨-, hcall⟩, _, -, -, -, rfl⟩ := h
  have hunstake := staking.unstake _ _ _ _ _ _ _ _ _ _ hdata hcall
  simpa using (StakeChange.of_log _).trans hunstake

/-! ## Hooks -/

/-- Nothing is deposited for a component of which nothing is staked. -/
private theorem amount_eq_zero {p : ComponentPositions} (hk : p.units k = 0) :
    amount q p k = 0 := by
  rw [amount, hk, Nat.mul_zero, Nat.zero_div]

/-- The hooks of the staking module change each deposit of a component by its amount, with the sign
of the call they make. -/
private theorem stakeChange_of_forEachContract (sign : ℤ) {caller : Address}
    {call : World → Address → Address → Address → Address → ℕ → ℕ → Except Revert World}
    (hcall : ∀ w w' j adapter units, call w setToken j c adapter units q = .ok w' →
      StakeChange setToken w w' (on j (sign * (q * units / preciseUnit : ℕ))))
    (hp : (w.stakingPositions setToken c).Tracked)
    (h : forEachContract stakingModule w caller setToken q c call = .ok w') :
    StakeChange setToken w w' fun k => sign * amount q (w.stakingPositions setToken c) k := by
  simp only [forEachContract, bind_eq_ok] at h
  obtain ⟨-, -, h⟩ := h
  set p := w.stakingPositions setToken c with hpdef
  have hloop := StakeChange.foldlM setToken (x := bothPositions setToken w)
    (fun j => on j (sign * amount q p j)) (fun j w₁ w₂ hw₁ h => ?_) rfl h
  · have hsum : ∀ k, ((getStakingContracts w setToken c).map fun j =>
        on j (sign * amount q p j) k).sum = sign * amount q p k := by
      intro k
      refine sum_at hp.nodup fun hk => ?_
      rw [amount_eq_zero (hp.units_eq_zero k hk), Nat.cast_zero, Int.mul_zero]
    simpa only [hsum] using hloop
  · simp only [bind_eq_ok] at h
    obtain ⟨adapter, -, h⟩ := h
    have hpos : w₁.stakingPositions setToken c = p := by
      rw [hpdef, (Prod.mk.inj hw₁).2]
    have hstep := hcall _ _ _ _ _ h
    rwa [getStakingPosition, hpos] at hstep

/-! ## The invariant -/

/-- The Set of multiplier one and the module agree on what is staked; each contract is staked on for
its token, and enough is deposited on it for the whole supply. -/
structure Invariant (module setToken : Address) (token : Address → Address) (w : World) : Prop where
  /-- The lists of the Set are right. -/
  tracking : Tracking.Invariant (w.setTokens setToken)
  /-- The Set and the module agree. -/
  inStep : InStep module (w.setTokens setToken) (w.stakingPositions setToken)
  /-- The multiplier is one. -/
  multiplier : (w.setTokens setToken).positionMultiplier = preciseUnitInt
  /-- Contracts are staked on for their own token. -/
  component : ∀ c k, (w.stakingPositions setToken c).units k ≠ 0 → c = token k
  /-- Enough is deposited for the whole supply. -/
  backed : ∀ k, unitsOn setToken token w k * w.totalSupply setToken / preciseUnit ≤
    staked setToken w k

namespace Invariant

/-- A component of which nothing is staked has no deposits to change. -/
private theorem units_eq_zero_of_total {p : ComponentPositions} (hp : p.Tracked)
    (h : p.total = 0) (k : Address) : p.units k = 0 := by
  by_cases hk : k ∈ p.stakingContracts
  · exact List.sum_eq_zero_iff_forall_eq_nat.mp h _ (List.mem_map_of_mem hk)
  · exact hp.units_eq_zero k hk

/-- The hooks for a component change each deposit by its amount. -/
private theorem stakeChange_of_hooks (staking : ExactStaking setToken env)
    (hooks : HooksSpare stakingModule setToken env)
    (hw : InStep stakingModule (w.setTokens setToken) (w.stakingPositions setToken))
    (isIssue : Bool)
    (h : IssuanceModule.executeExternalPositionHooks issuanceModule (attach stakingModule env) w
      setToken q c isIssue = .ok w') :
    StakeChange setToken w w' fun k =>
      (if isIssue then 1 else -1) * amount q (w.stakingPositions setToken c) k := by
  set p := w.stakingPositions setToken c with hpdef
  have hloop := StakeChange.foldlM setToken (x := bothPositions setToken w)
    (fun module k => if module = stakingModule then
      (if isIssue then 1 else -1) * (amount q p k : ℤ) else 0) (fun module w₁ w₂ hw₁ h => ?_) rfl h
  · have hsum : ∀ k, (((w.setTokens setToken).externalPositionModules c).map fun module =>
        if module = stakingModule then
          (if isIssue then 1 else -1) * (amount q p k : ℤ) else 0).sum =
          (if isIssue then 1 else -1) * (amount q p k : ℤ) := by
      intro k
      refine sum_at (f := fun _ => (if isIssue then 1 else -1) * (amount q p k : ℤ))
        (hw.modules_nodup c) fun hunlisted => ?_
      rw [hw.listed, not_not] at hunlisted
      rw [amount_eq_zero (units_eq_zero_of_total (hw.tracked c) hunlisted k), Nat.cast_zero,
        Int.mul_zero]
    simpa only [hsum] using hloop
  · obtain ⟨-, hpos⟩ := Prod.mk.inj hw₁
    have htracked : (w₁.stakingPositions setToken c).Tracked := hpos ▸ hw.tracked c
    by_cases hmodule : module = stakingModule
    · cases isIssue with
      | true =>
        simp only [if_true, attach, hmodule] at h ⊢
        have := stakeChange_of_forEachContract 1
          (fun w w' j adapter units h => by
            simpa using stakeChange_of_invokeStake staking h) htracked h
        simpa only [hpos] using this
      | false =>
        simp only [Bool.false_eq_true, if_false, if_true, attach, hmodule] at h ⊢
        have := stakeChange_of_forEachContract (-1)
          (fun w w' j adapter units h => by
            simpa using stakeChange_of_invokeUnstake staking h) htracked h
        simpa only [hpos] using this
    · cases isIssue with
      | true =>
        simp only [if_true, attach, hmodule, if_false] at h ⊢
        exact hooks.issue _ _ _ _ _ _ _ hmodule h
      | false =>
        simp only [Bool.false_eq_true, if_false, attach, hmodule] at h ⊢
        exact hooks.redeem _ _ _ _ _ _ _ hmodule h

/-- The amounts of a contract over all components are the amount for its token. -/
private theorem sum_amounts (hw : Invariant stakingModule setToken token w) (sign : ℤ)
    {required : List (Address × ℕ)}
    (hkeys : required.map Prod.fst = (w.setTokens setToken).components) (k : Address) :
    (required.map fun x => sign * (amount q (w.stakingPositions setToken x.1) k : ℤ)).sum =
      sign * (q * unitsOn setToken token w k / preciseUnit : ℕ) := by
  have hzero : ∀ c, (w.stakingPositions setToken c).units k = 0 →
      sign * (amount q (w.stakingPositions setToken c) k : ℤ) = 0 := by
    intro c hc
    rw [amount_eq_zero hc, Nat.cast_zero, Int.mul_zero]
  calc (required.map fun x => sign * (amount q (w.stakingPositions setToken x.1) k : ℤ)).sum
      = ((required.map Prod.fst).map fun c =>
          sign * (amount q (w.stakingPositions setToken c) k : ℤ)).sum := by
        rw [List.map_map]
        rfl
    _ = ((w.setTokens setToken).components.map fun c => if c = token k then
          sign * (amount q (w.stakingPositions setToken c) k : ℤ) else 0).sum := by
        rw [hkeys]
        congr 1
        refine List.map_congr_left fun c _ => ?_
        split_ifs with hc
        · rfl
        · refine hzero c ?_
          by_contra hunits
          exact hc (hw.component c k hunits)
    _ = sign * (amount q (w.stakingPositions setToken (token k)) k : ℤ) := by
        refine sum_at hw.tracking.nodup fun hunlisted => hzero _ ?_
        rw [hw.tracking.component, not_or, not_not, not_not] at hunlisted
        have hlisted := (hw.inStep.listed (token k)).not.mp (by rw [hunlisted.2]; simp)
        exact units_eq_zero_of_total (hw.inStep.tracked _) (not_not.mp hlisted) k

/-- Where positions are the same and enough is deposited, the invariant holds. -/
private theorem of_positions (hw : Invariant stakingModule setToken token w)
    (hpos : bothPositions setToken w' = bothPositions setToken w)
    (hbacked : ∀ k, unitsOn setToken token w k * w'.totalSupply setToken / preciseUnit ≤
      staked setToken w' k) : Invariant stakingModule setToken token w' := by
  obtain ⟨hset, hmodule⟩ := Prod.mk.inj hpos
  refine ⟨hset ▸ hw.tracking, ?_, hset ▸ hw.multiplier, ?_, fun k => ?_⟩
  · rw [hset, hmodule]
    exact hw.inStep
  · rw [hmodule]
    exact hw.component
  · have hunits : unitsOn setToken token w' k = unitsOn setToken token w k := by
      rw [unitsOn, getStakingPositionUnit, getStakingPosition, hmodule]
      rfl
    rw [hunits]
    exact hbacked k

/-- The agreement of the Set and the module is one of their positions. -/
private theorem inStep_of_positions
    (hw : InStep stakingModule (w.setTokens setToken) (w.stakingPositions setToken))
    (hpos : bothPositions setToken w' = bothPositions setToken w) :
    InStep stakingModule (w'.setTokens setToken) (w'.stakingPositions setToken) := by
  obtain ⟨hset, hmodule⟩ := Prod.mk.inj hpos
  rw [hset, hmodule]
  exact hw

/-! ## Issuance and redemption -/

/-- A round of `issue` deposits the amounts of its component. -/
private theorem stakeChange_of_issueComponent (staking : ExactStaking setToken env)
    (hooks : HooksSpare stakingModule setToken env) {msgSender : Address} {x : Address × ℕ}
    (hw : InStep stakingModule (w.setTokens setToken) (w.stakingPositions setToken))
    (h : IssuanceModule.issueComponent issuanceModule (attach stakingModule env) msgSender setToken
      q w x = .ok w') :
    StakeChange setToken w w' fun k => 1 * amount q (w.stakingPositions setToken x.1) k := by
  simp only [IssuanceModule.issueComponent, bind_eq_ok] at h
  obtain ⟨w₁, htransfer, hhooks⟩ := h
  have hledger := StakeChange.of_transferFrom setToken htransfer
  have hchange := stakeChange_of_hooks staking hooks (inStep_of_positions hw hledger.positions) true
    hhooks
  rw [(Prod.mk.inj hledger.positions).2] at hchange
  simpa using hledger.trans hchange

/-- A round of `redeem` returns the amounts of its component. -/
private theorem stakeChange_of_redeemComponent (staking : ExactStaking setToken env)
    (hooks : HooksSpare stakingModule setToken env) {recipient : Address} {x : Address × ℕ}
    (hw : InStep stakingModule (w.setTokens setToken) (w.stakingPositions setToken))
    (h : IssuanceModule.redeemComponent issuanceModule (attach stakingModule env) setToken q
      recipient w x = .ok w') :
    StakeChange setToken w w' fun k => -1 * amount q (w.stakingPositions setToken x.1) k := by
  simp only [IssuanceModule.redeemComponent, bind_eq_ok] at h
  obtain ⟨w₁, hhooks, htransfer⟩ := h
  have hchange := stakeChange_of_hooks staking hooks hw false hhooks
  simpa using hchange.trans (StakeChange.of_strictInvokeTransfer htransfer)

/-- A loop over the components changes each deposit by the amount for its token. -/
private theorem stakeChange_of_components (hw : Invariant stakingModule setToken token w) (sign : ℤ)
    {required : List (Address × ℕ)}
    (hkeys : required.map Prod.fst = (w.setTokens setToken).components)
    {f : World → Address × ℕ → Except Revert World}
    (body : ∀ x w w', InStep stakingModule (w.setTokens setToken) (w.stakingPositions setToken) →
      f w x = .ok w' →
        StakeChange setToken w w' fun k => sign * amount q (w.stakingPositions setToken x.1) k)
    (h : required.foldlM f w = .ok w') :
    StakeChange setToken w w' fun k =>
      sign * (q * unitsOn setToken token w k / preciseUnit : ℕ) := by
  have hloop := StakeChange.foldlM setToken (x := bothPositions setToken w)
    (fun x k => sign * (amount q (w.stakingPositions setToken x.1) k : ℤ))
    (fun x w₁ w₂ hw₁ h => ?_) rfl h
  · simpa only [hw.sum_amounts sign hkeys] using hloop
  · have hstep := body x w₁ w₂ (inStep_of_positions hw.inStep hw₁) h
    rwa [(Prod.mk.inj hw₁).2] at hstep

/-- Issuing where there is room preserves the invariant. -/
theorem issue (staking : ExactStaking setToken env) (hooks : HooksSpare stakingModule setToken env)
    {msgSender recipient : Address} (hw : Invariant stakingModule setToken token w)
    (room : ∀ k, HasRoom setToken token w k (q * unitsOn setToken token w k))
    (h : IssuanceModule.issue issuanceModule (attach stakingModule env) w msgSender setToken q
      recipient = .ok w') : Invariant stakingModule setToken token w' := by
  simp only [IssuanceModule.issue, bind_eq_ok] at h
  obtain ⟨-, -, -, -, w₁, hhook, required, hrequired, w₂, hloop, hmint⟩ := h
  have hspare : StakeChange setToken w w₁ fun _ => 0 := by
    simp only [IssuanceModule.callPreIssueHooks, attach] at hhook
    split_ifs at hhook
    · exact hooks.manager _ _ _ _ _ _ hhook
    · obtain rfl : w = w₁ := by simpa using hhook
      exact .refl _ _
  have hstaked : ∀ k, staked setToken w₁ k = staked setToken w k := by
    intro k
    have := hspare.deposits k
    omega
  have hw₁ := hw.of_positions hspare.positions fun k => by
    rw [hspare.supply, hstaked]
    exact hw.backed k
  have hunits : ∀ k, unitsOn setToken token w₁ k = unitsOn setToken token w k := by
    intro k
    rw [unitsOn, getStakingPositionUnit, getStakingPosition, (Prod.mk.inj hspare.positions).2]
    rfl
  have hchange := stakeChange_of_components hw₁ 1
    (IssuanceModule.map_fst_getRequiredComponentIssuanceUnits hrequired)
    (fun x w w' hw h => stakeChange_of_issueComponent staking hooks hw h) hloop
  have hsupply := (World.flow_of_mint hmint).2.1
  obtain ⟨-, rfl⟩ := World.mint_spec hmint
  refine hw₁.of_positions hchange.positions fun k => ?_
  have hdeposit := hchange.deposits k
  have hroom := Rounding.add_div_le_of_room preciseUnit_pos (hw.backed k) (room k)
  rw [hunits, hstaked, Int.one_mul] at hdeposit
  rw [hunits, hsupply, hchange.supply, hspare.supply, Nat.mul_add,
    Nat.mul_comm (unitsOn setToken token w k) q]
  have hkept : staked setToken w₂ k = staked setToken w k +
      q * unitsOn setToken token w k / preciseUnit := by exact_mod_cast hdeposit
  exact hroom.trans_eq hkept.symm

/-- Redeeming preserves the invariant. -/
theorem redeem (staking : ExactStaking setToken env) (hooks : HooksSpare stakingModule setToken env)
    {msgSender recipient : Address} (hw : Invariant stakingModule setToken token w)
    (h : IssuanceModule.redeem issuanceModule (attach stakingModule env) w msgSender setToken q
      recipient = .ok w') : Invariant stakingModule setToken token w' := by
  simp only [IssuanceModule.redeem, bind_eq_ok] at h
  obtain ⟨-, -, -, -, w₁, hburn, required, hrequired, hloop⟩ := h
  obtain ⟨-, hle, hw₁⟩ := World.burn_spec hburn
  have hsupply : w₁.totalSupply setToken + q = w.totalSupply setToken := by
    rw [hw₁]
    simpa [World.totalSupply, World.setTokenLedger] using Nat.sub_add_cancel hle
  have hpos : bothPositions setToken w₁ = bothPositions setToken w := by rw [hw₁]; rfl
  have hstaked : ∀ k, staked setToken w₁ k = staked setToken w k := by
    intro k
    rw [hw₁]
    rfl
  have hunits : ∀ k, unitsOn setToken token w₁ k = unitsOn setToken token w k := by
    intro k
    rw [hw₁]
    rfl
  have hinv : Invariant stakingModule setToken token w₁ := hw.of_positions hpos fun k => by
    rw [hstaked]
    refine le_trans (Nat.div_le_div_right (Nat.mul_le_mul_left _ ?_)) (hw.backed k)
    omega
  have hchange := stakeChange_of_components hinv (-1)
    (IssuanceModule.map_fst_getRequiredComponentIssuanceUnits hrequired)
    (fun x w w' hw h => stakeChange_of_redeemComponent staking hooks hw h) hloop
  refine hinv.of_positions hchange.positions fun k => ?_
  have hdeposit := hchange.deposits k
  have hbacked := hw.backed k
  rw [hunits, hstaked] at hdeposit
  rw [hunits, hchange.supply]
  rw [← hsupply, Nat.mul_add, Nat.mul_comm (unitsOn setToken token w k) q] at hbacked
  refine Rounding.div_le_of_add_div_le (hbacked.trans_eq ?_)
  omega

/-! ## Staking -/

/-- Under the multiplier one, every unit has a virtual unit. -/
private theorem hasVirtualUnit {s : SetToken} (hm : s.positionMultiplier = preciseUnitInt)
    (unit : ℤ) : HasVirtualUnit s unit := by
  rw [HasVirtualUnit, hm]
  exact Int.dvd_mul_left unit preciseUnitInt

/-- Under the multiplier one, no default position reads zero but the one that is not there. -/
private theorem not_hasFraction {s : SetToken} (hm : s.positionMultiplier = preciseUnitInt)
    (c : Address) : ¬Tracking.HasFraction s c := by
  rintro ⟨hunit, hreal⟩
  rw [SetToken.defaultRealUnit, SetToken.realUnit, hm,
    Int.mul_ediv_cancel _ preciseUnitInt_pos.ne'] at hreal
  exact hunit hreal

/-- Writing positions keeps the lists right and the multiplier one. -/
private theorem tracking_of_updatePositions {p : ComponentPositions}
    {newDefaultUnit : ℕ → Except Revert ℕ} {newExternalUnit : ℤ → Except Revert ℤ}
    (hs : Tracking.Invariant (w.setTokens setToken))
    (hm : (w.setTokens setToken).positionMultiplier = preciseUnitInt)
    (h : updatePositions stakingModule w setToken c p newDefaultUnit newExternalUnit = .ok w') :
    Tracking.Invariant (w'.setTokens setToken) ∧
      (w'.setTokens setToken).positionMultiplier = preciseUnitInt := by
  obtain ⟨n, x, s₁, s₂, hdefault, -, hexternal, rfl⟩ := updatePositions_spec h
  have hs₁ := hs.editDefaultPosition (fun _ _ => not_hasFraction hm c) hdefault
  have hm₁ := (Position.positionMultiplier_of_editDefaultPosition hs.multiplier hdefault).trans hm
  have hs₂ := hs₁.editExternalPosition (fun _ _ _ => not_hasFraction hm₁ c) hexternal
  have hm₂ := (Position.positionMultiplier_of_editExternalPosition hs₁.multiplier
    hexternal).trans hm₁
  simpa [World.setSetToken] using And.intro hs₂ hm₂

/-- Writing new positions for the token of a contract, after the call to it, preserves the invariant
where enough is deposited for the new units. -/
private theorem of_updatePositions {p : ComponentPositions}
    {newDefaultUnit : ℕ → Except Revert ℕ} {newExternalUnit : ℤ → Except Revert ℤ} {n : ℤ}
    (hw : Invariant stakingModule setToken token w) (hchange : StakeChange setToken w w₁ (on j n))
    (hinStep : InStep stakingModule (w'.setTokens setToken) (w'.stakingPositions setToken))
    (hnew : ∀ k, k ≠ j → p.units k = (w.stakingPositions setToken (token j)).units k)
    (hbacked : p.units j * w.totalSupply setToken / preciseUnit ≤ staked setToken w₁ j)
    (h : updatePositions stakingModule w₁ setToken (token j) p newDefaultUnit newExternalUnit =
      .ok w') : Invariant stakingModule setToken token w' := by
  obtain ⟨hset, hmodule⟩ := Prod.mk.inj hchange.positions
  obtain ⟨htracking, hm⟩ := tracking_of_updatePositions (hset ▸ hw.tracking)
    (hset ▸ hw.multiplier) h
  obtain ⟨_, _, _, _, -, -, -, rfl⟩ := updatePositions_spec h
  have hpos : ∀ d, ((setStakingPositions w₁ setToken (token j) p).stakingPositions setToken d) =
      if d = token j then p else w.stakingPositions setToken d := by
    intro d
    rw [← hmodule]
    by_cases hd : d = token j <;> simp [setStakingPositions, hd]
  have hunits : ∀ k, unitsOn setToken token (setStakingPositions w₁ setToken (token j) p) k =
      if k = j then p.units j else unitsOn setToken token w k := by
    intro k
    rw [unitsOn, getStakingPositionUnit, getStakingPosition, hpos]
    by_cases hk : k = j
    · subst hk
      rw [if_pos rfl, if_pos rfl, ComponentPositions.units]
    · by_cases ht : token k = token j
      · rw [if_pos ht, if_neg hk, ← ComponentPositions.units, hnew k hk, ← ht]
        rfl
      · rw [if_neg ht, if_neg hk]
        rfl
  refine ⟨htracking, hinStep, hm, fun d k hk => ?_, fun k => ?_⟩
  · change (((setStakingPositions w₁ setToken (token j) p).stakingPositions setToken d).units k) ≠ 0
      at hk
    rw [hpos] at hk
    split_ifs at hk with hd
    · by_cases hkj : k = j
      · rw [hd, hkj]
      · exact hd ▸ hw.component _ k (hnew k hkj ▸ hk)
    · exact hw.component d k hk
  · change unitsOn setToken token (setStakingPositions w₁ setToken (token j) p) k *
      w₁.totalSupply setToken / preciseUnit ≤ staked setToken w₁ k
    rw [hunits, hchange.supply]
    split_ifs with hk
    · exact hk ▸ hbacked
    · have hdeposit := hchange.deposits k
      rw [on, if_neg (Ne.symm hk)] at hdeposit
      have := hw.backed k
      omega

/-- Staking where there is room preserves the invariant. -/
theorem stake (staking : ExactStaking setToken env) {msgSender : Address} {adapterName : String}
    {n : ℕ} (hw : Invariant stakingModule setToken token w)
    (room : HasRoom setToken token w j (w.totalSupply setToken * n))
    (h : StakingModule.stake stakingModule env w msgSender setToken j (token j) adapterName n =
      .ok w') : Invariant stakingModule setToken token w' := by
  simp only [StakingModule.stake, bind_eq_ok] at h
  obtain ⟨-, -, _, -, -, -, _, -, w₁, hinvoke, h⟩ := h
  have hchange := stakeChange_of_invokeStake staking hinvoke
  have hbefore := inStep_of_positions hw.inStep hchange.positions
  have hinStep := hbefore.of_writes (hbefore.writes_of_updateStakeState h)
    (hasVirtualUnit ((Prod.mk.inj hchange.positions).1 ▸ hw.multiplier) _)
  simp only [updateStakeState, bind_eq_ok] at h
  obtain ⟨p, hp, h⟩ := h
  rw [(Prod.mk.inj hchange.positions).2] at hp
  obtain ⟨-, -, hunits⟩ := (hw.inStep.tracked _).addStake hp
  refine hw.of_updatePositions hchange hinStep (fun k hk => by simp [hunits, hk]) ?_ h
  have hdeposit := hchange.deposits j
  have hroom := Rounding.add_div_le_of_room preciseUnit_pos (hw.backed j) room
  rw [on, if_pos rfl] at hdeposit
  rw [hunits, if_pos rfl, Nat.add_mul, Nat.mul_comm n]
  refine hroom.trans_eq ?_
  exact_mod_cast hdeposit.symm

/-- Unstaking preserves the invariant. -/
theorem unstake (staking : ExactStaking setToken env) {msgSender : Address} {adapterName : String}
    {n : ℕ} (hw : Invariant stakingModule setToken token w)
    (h : StakingModule.unstake stakingModule env w msgSender setToken j (token j) adapterName n =
      .ok w') : Invariant stakingModule setToken token w' := by
  simp only [StakingModule.unstake, bind_eq_ok] at h
  obtain ⟨-, -, -, -, _, -, w₁, hinvoke, h⟩ := h
  have hchange := stakeChange_of_invokeUnstake staking hinvoke
  have hbefore := inStep_of_positions hw.inStep hchange.positions
  have hinStep := hbefore.of_writes (hbefore.writes_of_updateUnstakeState h)
    (hasVirtualUnit ((Prod.mk.inj hchange.positions).1 ▸ hw.multiplier) _)
  simp only [updateUnstakeState, bind_eq_ok] at h
  obtain ⟨p, hp, h⟩ := h
  rw [(Prod.mk.inj hchange.positions).2] at hp
  obtain ⟨-, -, hunits⟩ := (hw.inStep.tracked _).removeStake hp
  refine hw.of_updatePositions hchange hinStep (fun k hk => by simpa [hk] using hunits k) ?_ h
  have hdeposit := hchange.deposits j
  have hbacked := hw.backed j
  have hat := hunits j
  rw [if_pos rfl] at hat
  change p.units j + n = unitsOn setToken token w j at hat
  rw [on, if_pos rfl] at hdeposit
  rw [← hat, Nat.add_mul, Nat.mul_comm n] at hbacked
  refine Rounding.div_le_of_add_div_le (hbacked.trans_eq ?_)
  omega

/-- Every action that leaves room preserves the invariant. -/
theorem step (staking : ExactStaking setToken env) (hooks : HooksSpare stakingModule setToken env)
    {a : Action} (hw : Invariant stakingModule setToken token w)
    (room : LeavesRoom setToken token a w)
    (h : step stakingModule issuanceModule setToken token env a w = .ok w') :
    Invariant stakingModule setToken token w' := by
  cases a with
  | stake msgSender j adapterName units => exact hw.stake staking room h
  | unstake msgSender j adapterName units => exact hw.unstake staking h
  | issue msgSender quantity recipient => exact hw.issue staking hooks room h
  | redeem msgSender quantity recipient => exact hw.redeem staking hooks h
  | other rest =>
    obtain rfl := Except.ok.inj h
    refine hw.of_positions (by simp [bothPositions]) fun k => ?_
    have := hw.backed k
    simpa [World.totalSupply, staked] using this

end Invariant

/-! ## Runs -/

/-- After any run of actions that leave room, from a Set of multiplier one with nothing staked, what
is deposited on each contract covers the redemption of any quantity up to the supply. -/
theorem staked_of_run {w₀ : World} (staking : ExactStaking setToken env)
    (hooks : HooksSpare stakingModule setToken env)
    (tracking : Tracking.Invariant (w₀.setTokens setToken))
    (multiplier : (w₀.setTokens setToken).positionMultiplier = preciseUnitInt)
    (initial : NothingStaked stakingModule (w₀.setTokens setToken) (w₀.stakingPositions setToken))
    (reached : ReachWhen (step stakingModule issuanceModule setToken token env)
      (LeavesRoom setToken token) w₀ w) (j : Address) :
    unitsOn setToken token w j * w.totalSupply setToken / preciseUnit ≤ staked setToken w j ∧
      ∀ quantity requested, quantity ≤ w.totalSupply setToken →
        Position.getDefaultTotalNotional quantity (unitsOn setToken token w j) = .ok requested →
          requested ≤ staked setToken w j := by
  have hunits : ∀ c k, (w₀.stakingPositions setToken c).units k = 0 := by
    intro c k
    rw [initial.empty]
    rfl
  have hw₀ : Invariant stakingModule setToken token w₀ := by
    refine ⟨tracking, initial.inStep, multiplier, fun c k hk => absurd (hunits c k) hk, fun k => ?_⟩
    have h0 : unitsOn setToken token w₀ k = 0 := hunits (token k) k
    rw [h0, Nat.zero_mul, Nat.zero_div]
    exact Nat.zero_le _
  have hw := reached.invariant (Invariant stakingModule setToken token)
    (fun a t t' ht met stepped => ht.step staking hooks met stepped) hw₀
  refine ⟨hw.backed j, fun quantity requested hle h => ?_⟩
  obtain ⟨-, rfl⟩ := PreciseUnitMath.preciseMul_eq_ok.mp h
  rw [Nat.mul_comm]
  exact (Nat.div_le_div_right (Nat.mul_le_mul_left _ hle)).trans (hw.backed j)

/-- The gauge credits and returns exactly what it is asked for. -/
private theorem exactStaking_gauge : ExactStaking setToken stakingGauge := by
  constructor
  · intro adapter j n w target value data w₁ w₂ words hdata hcall
    obtain ⟨rfl, rfl, rfl⟩ : j = target ∧ 0 = value ∧ .depositAmount n = data := by
      simpa [stakingGauge] using hdata
    simp only [World.execute, stakingGauge, bind_eq_ok, World.editToken_eq_ok, pure_eq_ok,
      Prod.mk.injEq] at hcall
    obtain ⟨_, ⟨t, ht, rfl⟩, rfl, -⟩ := hcall
    have hledger : StakeChange setToken w₁
        { w₁.setTokenLedger 11 t with calls := w₁.calls } fun _ => 0 :=
      .of_ledger (ERC20.of_transferFrom_eq_ok ht).2.2.2
    refine ⟨hledger.positions, hledger.supply, fun k => ?_⟩
    by_cases hk : j = k
    · subst hk
      simp [staked, World.store, on]
    · simp [staked, World.store, on, hk, Ne.symm hk, World.setTokenLedger]
  · intro adapter j n w target value data w₁ w₂ words hdata hcall
    obtain ⟨rfl, rfl, rfl⟩ : j = target ∧ 0 = value ∧ .withdraw n = data := by
      simpa [stakingGauge] using hdata
    simp only [World.execute, stakingGauge, bind_eq_ok, World.editToken_eq_ok, require_eq_ok,
      pure_eq_ok, Prod.mk.injEq, ERC20.transfer, ERC20.move_eq_ok] at hcall
    obtain ⟨-, hle, _, ⟨t, ⟨-, -, -, -, rfl⟩, rfl⟩, rfl, -⟩ := hcall
    have hledger : StakeChange setToken w₁
        { w₁.setTokenLedger 11 ((w₁.tokens 11).transferred j setToken n) with calls := w₁.calls }
        fun _ => 0 :=
      .of_ledger (ERC20.totalSupply_transferred (w₁.tokens 11) j setToken n)
    refine ⟨hledger.positions, hledger.supply, fun k => ?_⟩
    by_cases hk : j = k
    · subst hk
      simp only [staked, World.store, on, Function.update_self, if_true]
      omega
    · simp [staked, World.store, on, hk, Ne.symm hk, World.setTokenLedger]

private theorem hooksSpare_gauge : HooksSpare stakingModule setToken stakingGauge := by
  have hrefl : ∀ w w', (Except.ok w : Except Revert World) = .ok w' →
      StakeChange setToken w w' fun _ => 0 := by
    intro w w' h
    obtain rfl : w = w' := by simpa using h
    exact .refl _ _
  exact ⟨fun _ _ _ _ w w' h => hrefl w w' h, fun _ _ _ _ _ w w' _ h => hrefl w w' h,
    fun _ _ _ _ _ w w' _ h => hrefl w w' h⟩

/-- The Set of a gauge, with the issuance module `6` and the given supply, all of it with the user
`50`. -/
def exampleWorld (supply : ℕ) : World :=
  { StakingUnits.exampleWorld 0 with
    controller := { isSet := fun a => a = 100, isModule := fun a => a = 5 ∨ a = 6 }
    tokens := fun a =>
      if a = 11 then
        { balances := fun b => if b = 100 then supply else 10 ^ 30
          allowances := fun _ _ => 10 ^ 30 }
      else { balances := fun b => if b = 50 then supply else 0, totalSupply := supply } }

private theorem tracking_exampleWorld {supply : ℕ} :
    Tracking.Invariant ((exampleWorld supply).setTokens 100) := by
  have hposition : ∀ c, ((exampleWorld supply).setTokens 100).componentPositions c =
    if c = 11 then { virtualUnit := 10 ^ 18 } else {} := fun _ => rfl
  have hmodules : ∀ c, ((exampleWorld supply).setTokens 100).externalPositionModules c = [] := by
    intro c
    rw [SetToken.externalPositionModules, hposition]
    split <;> rfl
  have hunit : ∀ c, ((exampleWorld supply).setTokens 100).defaultPositionVirtualUnit c =
      if c = 11 then 10 ^ 18 else 0 := by
    intro c
    rw [SetToken.defaultPositionVirtualUnit, hposition]
    split <;> rfl
  refine ⟨⟨List.nodup_singleton _, fun c => ?_, fun c p => ?_⟩, fun c => ?_, fun c => ?_,
    preciseUnitInt_pos⟩
  · rw [hmodules, hunit]
    have hcomponents : ((exampleWorld supply).setTokens 100).components = [11] := rfl
    rw [hcomponents, List.mem_singleton]
    split_ifs with hc
    · exact iff_of_true hc (.inl (by decide))
    · exact iff_of_false hc (by simp)
  · rw [hmodules, SetToken.externalPositionVirtualUnit, hposition]
    split <;> simp
  · rw [hmodules]
    exact List.nodup_nil
  · rw [hunit]
    split <;> decide

/-- Issuing whole Sets leaves room: there is nothing to round. -/
private theorem leavesRoom_issue_whole {msgSender recipient : Address} :
    LeavesRoom setToken token (.issue msgSender preciseUnit recipient) w := by
  refine fun j => .inl ?_
  rw [Nat.mul_mod_right, Nat.add_zero]
  exact Nat.mod_lt _ preciseUnit_pos

/-- Half of each token is staked, one Set is issued, and one and a half are redeemed. -/
theorem staked_of_run_example :
    ∃ w, runAll (step 5 6 100 (fun _ => 11) stakingGauge)
        [.stake 3 300 "gauge" (5 * 10 ^ 17), .issue 50 preciseUnit 50,
          .redeem 50 (15 * 10 ^ 17) 50] (exampleWorld (10 ^ 18)) = .ok w ∧
      unitsOn 100 (fun _ => 11) w 300 = 5 * 10 ^ 17 ∧ w.totalSupply 100 = 5 * 10 ^ 17 ∧
      unitsOn 100 (fun _ => 11) w 300 * w.totalSupply 100 / preciseUnit ≤ staked 100 w 300 := by
  obtain ⟨w, hrun, h⟩ := exists_of_yields
    (x := runAll (step 5 6 100 (fun _ => 11) stakingGauge)
      [.stake 3 300 "gauge" (5 * 10 ^ 17), .issue 50 preciseUnit 50,
        .redeem 50 (15 * 10 ^ 17) 50] (exampleWorld (10 ^ 18)))
    (p := fun w => unitsOn 100 (fun _ => 11) w 300 = 5 * 10 ^ 17 ∧
      w.totalSupply 100 = 5 * 10 ^ 17) (by decide +kernel)
  obtain ⟨hunits, hsupply⟩ := of_decide_eq_true h
  obtain ⟨w₁, h₁, hrest⟩ := foldlM_cons_eq_ok.mp hrun
  obtain ⟨w₂, h₂, hrest⟩ := foldlM_cons_eq_ok.mp hrest
  obtain ⟨w₃, h₃, hrest⟩ := foldlM_cons_eq_ok.mp hrest
  obtain rfl : w₃ = w := by simpa using hrest
  have hstake : LeavesRoom 100 (fun _ => 11) (.stake 3 300 "gauge" (5 * 10 ^ 17))
      (exampleWorld (10 ^ 18)) := .inl (by decide +kernel)
  have hredeem : LeavesRoom 100 (fun _ => 11) (.redeem 50 (15 * 10 ^ 17) 50) w₂ := trivial
  have hreached := ((ReachWhen.start.next _ hstake h₁).next _ leavesRoom_issue_whole h₂).next _
    hredeem h₃
  exact ⟨w₃, hrun, hunits, hsupply, (staked_of_run exactStaking_gauge hooksSpare_gauge
    tracking_exampleWorld rfl (nothingStaked_exampleWorld 0) hreached 300).1⟩

/-- Half of each token is staked for a supply of one, and another one is issued. Nothing is
deposited then, as each half rounds to zero, and a redemption of both asks for one. -/
theorem issue_stakes_too_little :
    ∃ w, ExactStaking 100 stakingGauge ∧ HooksSpare 5 100 stakingGauge ∧
      Tracking.Invariant ((exampleWorld 1).setTokens 100) ∧
      NothingStaked 5 ((exampleWorld 1).setTokens 100) ((exampleWorld 1).stakingPositions 100) ∧
      Reach (step 5 6 100 (fun _ => 11) stakingGauge) (exampleWorld 1) w ∧
      ¬unitsOn 100 (fun _ => 11) w 300 * w.totalSupply 100 / preciseUnit ≤ staked 100 w 300 := by
  obtain ⟨w, hrun, h⟩ := exists_of_yields
    (x := runAll (step 5 6 100 (fun _ => 11) stakingGauge)
      [.stake 3 300 "gauge" (5 * 10 ^ 17), .issue 50 1 50] (exampleWorld 1))
    (p := fun w => ¬unitsOn 100 (fun _ => 11) w 300 * w.totalSupply 100 / preciseUnit ≤
      staked 100 w 300) (by decide +kernel)
  exact ⟨w, exactStaking_gauge, hooksSpare_gauge, tracking_exampleWorld,
    nothingStaked_exampleWorld 0, reach_of_runAll hrun, of_decide_eq_true h⟩

end StakingRedemption

end SetProtocol
