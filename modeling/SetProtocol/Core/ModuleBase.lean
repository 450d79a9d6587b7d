import SetProtocol.Core.Position
import SetProtocol.Core.World

set_option relaxedAutoImplicit false
set_option autoImplicit false

/-!
# What all modules share

`contracts/protocol/lib/ModuleBase.sol`, with the libraries `Invoke` and `ExplicitERC20` by which
modules move tokens. The address of the module is the first argument of a function.

## Main definitions

* `SetProtocol.ModuleBase.transferFrom` — a transfer by allowance, checked by the balance of the
  recipient.
* `SetProtocol.Invoke.strictInvokeTransfer` — a transfer by the SetToken, checked by its balance.
* `SetProtocol.ModuleBase.onlyValidAndInitializedSet` and so on — the modifiers.
* `SetProtocol.Position.calculateAndEditDefaultPosition` — a default position is set by what the
  SetToken holds after an action.
* `SetProtocol.Moved` — the abstract effect of a transfer on a ledger.

## Main results

* `SetProtocol.ModuleBase.transferFrom_spec`, `SetProtocol.Invoke.strictInvokeTransfer_spec` —
  a transfer that succeeds moves exactly the amount.
-/

namespace SetProtocol

open Checked

/-- A ledger before and after `amount` went from one account to another. -/
structure Moved (t t' : ERC20) (sender recipient : Address) (amount : ℕ) : Prop where
  /-- The sender loses the amount and the recipient gains it. -/
  balances : ∀ a, t'.balances a + (if a = sender then amount else 0) =
    t.balances a + (if a = recipient then amount else 0)
  /-- No tokens are created or destroyed. -/
  totalSupply : t'.totalSupply = t.totalSupply

namespace Moved

/-- Moving nothing changes nothing. -/
theorem zero (t : ERC20) (sender recipient : Address) : Moved t t sender recipient 0 :=
  ⟨fun a => by simp, rfl⟩

end Moved

/-- The log entry of a transfer, which is made for a positive amount only. -/
def transferCall (amount : ℕ) (call : Call) : List Call := if 0 < amount then [call] else []

namespace ModuleBase

/-! ## Modifiers -/

/-- `isSetValidAndInitialized`. -/
def isSetValidAndInitialized (self : Address) (w : World) (setToken : Address) : Bool :=
  w.controller.isSet setToken && (w.setTokens setToken).isInitializedModule self

/-- The modifier `onlyValidAndInitializedSet`. -/
def onlyValidAndInitializedSet (self : Address) (w : World) (setToken : Address) :
    Except Revert Unit :=
  require (isSetValidAndInitialized self w setToken = true)
    "Must be a valid and initialized SetToken"

/-- The modifier `onlySetManager`. -/
def onlySetManager (w : World) (setToken caller : Address) : Except Revert Unit :=
  require ((w.setTokens setToken).manager = caller) "Must be the SetToken manager"

/-- The modifier `onlyManagerAndValidSet`. -/
def onlyManagerAndValidSet (self : Address) (w : World) (setToken caller : Address) :
    Except Revert Unit := do
  onlySetManager w setToken caller
  onlyValidAndInitializedSet self w setToken

/-- The modifier `onlyModule`. -/
def onlyModule (w : World) (setToken caller : Address) : Except Revert Unit := do
  require ((w.setTokens setToken).moduleStates caller = .initialized) "Only the module can call"
  require (w.controller.isModule caller = true) "Module must be enabled on controller"

/-- The modifier `onlyValidAndPendingSet`. -/
def onlyValidAndPendingSet (self : Address) (w : World) (setToken : Address) :
    Except Revert Unit := do
  require (w.controller.isSet setToken = true) "Must be controller-enabled SetToken"
  require ((w.setTokens setToken).isPendingModule self = true) "Must be pending initialization"

/-! ## Adapters and fees -/

/-- `getAndValidateAdapterWithHash`. -/
def getAndValidateAdapterWithHash (self : Address) (w : World) (integrationHash : ℕ) :
    Except Revert Address := do
  let adapter := w.integrations self integrationHash
  require (adapter ≠ zeroAddress) "Must be valid adapter"
  return adapter

/-- `getAndValidateAdapter`. -/
def getAndValidateAdapter (self : Address) (env : Env) (w : World) (integrationName : String) :
    Except Revert Address :=
  getAndValidateAdapterWithHash self w (env.keccak256 integrationName)

/-- `getModuleFee`: the part of the quantity that the protocol takes. -/
def getModuleFee (self : Address) (w : World) (feeIndex quantity : ℕ) : Except Revert ℕ :=
  PreciseUnitMath.preciseMul quantity (w.controller.getModuleFee self feeIndex)

/-! ## Transfers by allowance -/

/-- `transferFrom`, by the library `ExplicitERC20`. -/
def transferFrom (self : Address) (w : World) (token sender recipient : Address) (quantity : ℕ) :
    Except Revert World :=
  if 0 < quantity then do
    let existingBalance := (w.tokens token).balances recipient
    let w := w.log ⟨self, token, 0, .transferFrom sender recipient quantity⟩
    let w ← w.editToken token fun t => t.transferFrom self sender recipient quantity
    let newBalance := (w.tokens token).balances recipient
    let expectedBalance ← SafeMath.add existingBalance quantity
    require (newBalance = expectedBalance) "Invalid post transfer balance"
    return w
  else .ok w

/-- A `transferFrom` that succeeds moves the quantity, the recipient has it on top of what it had,
and the call is logged. -/
theorem transferFrom_spec {self token sender recipient : Address} {quantity : ℕ} {w w' : World}
    (h : transferFrom self w token sender recipient quantity = .ok w') :
    ∃ t', Moved (w.tokens token) t' sender recipient quantity ∧
      t'.balances recipient = (w.tokens token).balances recipient + quantity ∧
      w' = { w.setTokenLedger token t' with
        calls := w.calls ++
          transferCall quantity ⟨self, token, 0, .transferFrom sender recipient quantity⟩ } := by
  unfold transferFrom at h
  split_ifs at h with hq
  · simp only [bind_eq_ok, World.editToken_eq_ok, SafeMath.add_eq_ok, require_eq_ok,
      pure_eq_ok] at h
    obtain ⟨_, ⟨t', ht', rfl⟩, _, ⟨-, rfl⟩, -, hbal, rfl⟩ := h
    obtain ⟨-, hle, hmoved, hsupply⟩ := ERC20.of_transferFrom_eq_ok ht'
    refine ⟨t', ⟨fun a => ?_, hsupply⟩, ?_, ?_⟩
    · rw [hmoved]
      exact ERC20.balances_transferred recipient hle a
    · simpa [World.setTokenLedger] using hbal
    · rw [transferCall, if_pos hq]
      rfl
  · obtain rfl : quantity = 0 := by omega
    obtain rfl : w = w' := by simpa using h
    exact ⟨w.tokens token, .zero _ _ _, rfl, by simp [transferCall]⟩

end ModuleBase

namespace Invoke

/-! ## Transfers by the SetToken -/

/-- `invokeApprove`. -/
def invokeApprove (self : Address) (env : Env) (w : World) (setToken token spender : Address)
    (quantity : ℕ) : Except Revert World := do
  let (w, _) ← w.invoke env self setToken token 0 (.approve spender quantity)
  return w

/-- `invokeTransfer`. -/
def invokeTransfer (self : Address) (env : Env) (w : World) (setToken token recipient : Address)
    (quantity : ℕ) : Except Revert World :=
  if 0 < quantity then do
    let (w, _) ← w.invoke env self setToken token 0 (.transfer recipient quantity)
    return w
  else .ok w

/-- `strictInvokeTransfer`. -/
def strictInvokeTransfer (self : Address) (env : Env) (w : World)
    (setToken token recipient : Address) (quantity : ℕ) : Except Revert World :=
  if 0 < quantity then do
    let existingBalance := (w.tokens token).balances setToken
    let w ← invokeTransfer self env w setToken token recipient quantity
    let newBalance := (w.tokens token).balances setToken
    let expectedBalance ← SafeMath.sub existingBalance quantity
    require (newBalance = expectedBalance) "Invalid post transfer balance"
    return w
  else .ok w

/-- `invokeUnwrapWETH`. -/
def invokeUnwrapWETH (self : Address) (env : Env) (w : World) (setToken weth : Address)
    (quantity : ℕ) : Except Revert World := do
  let (w, _) ← w.invoke env self setToken weth 0 (.withdraw quantity)
  return w

/-- `invokeWrapWETH`. -/
def invokeWrapWETH (self : Address) (env : Env) (w : World) (setToken weth : Address)
    (quantity : ℕ) : Except Revert World := do
  let (w, _) ← w.invoke env self setToken weth quantity .deposit
  return w

/-- An approval changes allowances only, and is logged. -/
theorem invokeApprove_spec {self setToken token spender : Address} {quantity : ℕ} {env : Env}
    {w w' : World} (h : invokeApprove self env w setToken token spender quantity = .ok w') :
    ∃ t', t'.balances = (w.tokens token).balances ∧
      t'.totalSupply = (w.tokens token).totalSupply ∧
      w' = { w.setTokenLedger token t' with
        calls := w.calls ++ [⟨setToken, token, 0, .approve spender quantity⟩] } := by
  simp only [invokeApprove, bind_eq_ok, World.invoke_eq_ok, World.execute, World.editToken_eq_ok,
    ERC20.approve_eq_ok, pure_eq_ok, Prod.exists, Prod.mk.injEq] at h
  obtain ⟨_, _, ⟨-, _, ⟨_, ⟨-, -, rfl⟩, rfl⟩, rfl, -⟩, rfl⟩ := h
  -- the ledger is found by the equation for the world
  refine ⟨_, ?_, ?_, rfl⟩
  · rfl
  · rfl

/-- An `invokeTransfer` that succeeds moves the quantity out of the SetToken, and the call is
logged. -/
theorem invokeTransfer_spec {self setToken token recipient : Address} {quantity : ℕ}
    {env : Env} {w w' : World}
    (h : invokeTransfer self env w setToken token recipient quantity = .ok w') :
    ∃ t', Moved (w.tokens token) t' setToken recipient quantity ∧
      w' = { w.setTokenLedger token t' with
        calls := w.calls ++
          transferCall quantity ⟨setToken, token, 0, .transfer recipient quantity⟩ } := by
  unfold invokeTransfer at h
  split_ifs at h with hq
  · simp only [World.invoke, World.execute, bind_eq_ok, World.editToken_eq_ok, pure_eq_ok,
      ERC20.transfer, ERC20.move_eq_ok] at h
    obtain ⟨_, ⟨-, -, _, ⟨_, ⟨-, -, hle, -, rfl⟩, rfl⟩, rfl⟩, rfl⟩ := h
    refine ⟨_, ⟨fun a => ERC20.balances_transferred recipient hle a, rfl⟩, ?_⟩
    rw [transferCall, if_pos hq]
    rfl
  · obtain rfl : quantity = 0 := by omega
    obtain rfl : w = w' := by simpa using h
    exact ⟨w.tokens token, .zero _ _ _, by simp [transferCall]⟩

/-- A `strictInvokeTransfer` that succeeds is a transfer after which the SetToken has the quantity
less. -/
theorem strictInvokeTransfer_spec {self setToken token recipient : Address} {quantity : ℕ}
    {env : Env} {w w' : World}
    (h : strictInvokeTransfer self env w setToken token recipient quantity = .ok w') :
    ∃ t', Moved (w.tokens token) t' setToken recipient quantity ∧
      quantity ≤ (w.tokens token).balances setToken ∧
      t'.balances setToken = (w.tokens token).balances setToken - quantity ∧
      w' = { w.setTokenLedger token t' with
        calls := w.calls ++
          transferCall quantity ⟨setToken, token, 0, .transfer recipient quantity⟩ } := by
  unfold strictInvokeTransfer at h
  split_ifs at h with hq
  · simp only [bind_eq_ok, SafeMath.sub_eq_ok, require_eq_ok, pure_eq_ok] at h
    obtain ⟨_, htransfer, _, ⟨hle, rfl⟩, -, hbal, rfl⟩ := h
    obtain ⟨t', hmoved, rfl⟩ := invokeTransfer_spec htransfer
    refine ⟨t', hmoved, hle, ?_, rfl⟩
    simpa [World.setTokenLedger] using hbal
  · obtain rfl : quantity = 0 := by omega
    obtain rfl : w = w' := by simpa using h
    exact ⟨w.tokens token, .zero _ _ _, Nat.zero_le _, rfl, by simp [transferCall]⟩

end Invoke

namespace ModuleBase

/-- `payProtocolFeeFromSetToken`. -/
def payProtocolFeeFromSetToken (self : Address) (env : Env) (w : World)
    (setToken token : Address) (feeQuantity : ℕ) : Except Revert World :=
  if 0 < feeQuantity then
    Invoke.strictInvokeTransfer self env w setToken token w.controller.feeRecipient feeQuantity
  else .ok w

end ModuleBase

namespace Position

/-! ## Edits by balances -/

/-- `calculateAndEditDefaultPosition`, with the balance, and with the unit before and after. -/
def calculateAndEditDefaultPosition (self : Address) (w : World) (setToken component : Address)
    (setTotalSupply componentPreviousBalance : ℕ) : Except Revert (World × ℕ × ℕ × ℕ) := do
  let currentBalance := (w.tokens component).balances setToken
  let positionUnit ←
    SafeCast.toUint256 (← (w.setTokens setToken).getDefaultPositionRealUnit component)
  let newTokenUnit ← (
    if 0 < currentBalance then
      calculateDefaultEditPositionUnit setTotalSupply componentPreviousBalance currentBalance
        positionUnit
    else .ok 0)
  let w ← w.editSetToken self setToken fun m s => editDefaultPosition m s component newTokenUnit
  return (w, currentBalance, positionUnit, newTokenUnit)

/-- The edit reads the unit, computes the new one from the balances, and writes it. -/
theorem calculateAndEditDefaultPosition_eq_ok {self setToken component : Address} {w : World}
    {supply previousBalance : ℕ} {r : World × ℕ × ℕ × ℕ} :
    calculateAndEditDefaultPosition self w setToken component supply previousBalance = .ok r ↔
      ∃ unit : ℕ, (w.setTokens setToken).getDefaultPositionRealUnit component = .ok (unit : ℤ) ∧
        ∃ n, (if 0 < (w.tokens component).balances setToken then
            calculateDefaultEditPositionUnit supply previousBalance
              ((w.tokens component).balances setToken) unit
          else .ok 0) = .ok n ∧
        ∃ s', editDefaultPosition (w.message self) (w.setTokens setToken) component n = .ok s' ∧
          (w.setSetToken setToken s', (w.tokens component).balances setToken, unit, n) = r := by
  simp only [calculateAndEditDefaultPosition, bind_eq_ok, SafeCast.toUint256_eq_ok,
    World.editSetToken_eq_ok, pure_eq_ok]
  constructor
  · rintro ⟨_, hunit, unit, rfl, n, hn, _, ⟨s', hedit, rfl⟩, rfl⟩
    exact ⟨unit, hunit, n, hn, s', hedit, rfl⟩
  · rintro ⟨unit, hunit, n, hn, s', hedit, rfl⟩
    exact ⟨_, hunit, unit, rfl, n, hn, _, ⟨s', hedit, rfl⟩, rfl⟩

end Position

end SetProtocol
