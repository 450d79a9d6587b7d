import Mathlib.Logic.Function.Basic
import SetProtocol.Core.AddressArrayUtils

set_option relaxedAutoImplicit false
set_option autoImplicit false

/-!
# Token ledgers

The storage of an `ERC20` contract with its operations, as OpenZeppelin writes them. A SetToken
inherits this contract and the components are used through its interface. The message sender of
an operation is its first argument.

## Main definitions

* `SetProtocol.ERC20` — the storage of a token.
* `SetProtocol.ERC20.transfer`, `transferFrom`, `approve`, `mint`, `burn` — the operations.

## Main results

* `SetProtocol.ERC20.balances_transferred` — a transfer moves the amount and nothing else, also
  between equal accounts.
* `SetProtocol.ERC20.transfer_eq_ok` and its siblings — when an operation succeeds, and with
  which ledger.
-/

namespace SetProtocol

open Checked

/-- The storage of a token contract. -/
structure ERC20 where
  /-- The amount each account holds. -/
  balances : Address → ℕ := fun _ => 0
  /-- The amount each owner lets each spender move. -/
  allowances : Address → Address → ℕ := fun _ _ => 0
  /-- The amount of tokens there are. -/
  totalSupply : ℕ := 0
  /-- The number of decimals the token is displayed with. -/
  decimals : ℕ := 18

namespace ERC20

/-- The base units of a token of at most 18 decimals fit a `uint256`. -/
theorem ten_pow_mod_of_le {decimals : ℕ} (h : decimals ≤ 18) :
    10 ^ decimals % 2 ^ 256 = 10 ^ decimals := by
  apply Nat.mod_eq_of_lt
  calc 10 ^ decimals ≤ 10 ^ 18 := Nat.pow_le_pow_right (by decide) h
    _ < 2 ^ 256 := by decide

/-! ## Operations -/

/-- The reason of a transfer beyond the balance of the sender. -/
def insufficientBalance : Revert := "ERC20: transfer amount exceeds balance"

/-- The ledger after `amount` went from one account to another. -/
def transferred (t : ERC20) (sender recipient : Address) (amount : ℕ) : ERC20 :=
  let balances := Function.update t.balances sender (t.balances sender - amount)
  { t with balances := Function.update balances recipient (balances recipient + amount) }

/-- `_transfer`. -/
def move (t : ERC20) (sender recipient : Address) (amount : ℕ) : Except Revert ERC20 := do
  require (sender ≠ zeroAddress) "ERC20: transfer from the zero address"
  require (recipient ≠ zeroAddress) "ERC20: transfer to the zero address"
  require (amount ≤ t.balances sender) insufficientBalance
  let t' := t.transferred sender recipient amount
  require (InUint256 (t'.balances recipient)) "SafeMath: addition overflow"
  return t'

/-- `approve`, and `_approve` with the owner in place of the message sender. -/
def approve (t : ERC20) (owner spender : Address) (amount : ℕ) : Except Revert ERC20 := do
  require (owner ≠ zeroAddress) "ERC20: approve from the zero address"
  require (spender ≠ zeroAddress) "ERC20: approve to the zero address"
  return { t with
    allowances := Function.update t.allowances owner
      (Function.update (t.allowances owner) spender amount) }

/-- `transfer`. -/
def transfer (t : ERC20) (msgSender recipient : Address) (amount : ℕ) : Except Revert ERC20 :=
  t.move msgSender recipient amount

/-- `transferFrom`. -/
def transferFrom (t : ERC20) (msgSender sender recipient : Address) (amount : ℕ) :
    Except Revert ERC20 := do
  let t ← t.move sender recipient amount
  require (amount ≤ t.allowances sender msgSender) "ERC20: transfer amount exceeds allowance"
  t.approve sender msgSender (t.allowances sender msgSender - amount)

/-- `increaseAllowance`. -/
def increaseAllowance (t : ERC20) (msgSender spender : Address) (addedValue : ℕ) :
    Except Revert ERC20 := do
  t.approve msgSender spender (← SafeMath.add (t.allowances msgSender spender) addedValue)

/-- `decreaseAllowance`. -/
def decreaseAllowance (t : ERC20) (msgSender spender : Address) (subtractedValue : ℕ) :
    Except Revert ERC20 := do
  require (subtractedValue ≤ t.allowances msgSender spender)
    "ERC20: decreased allowance below zero"
  t.approve msgSender spender (t.allowances msgSender spender - subtractedValue)

/-- `_mint`. -/
def mint (t : ERC20) (account : Address) (amount : ℕ) : Except Revert ERC20 := do
  require (account ≠ zeroAddress) "ERC20: mint to the zero address"
  let totalSupply ← SafeMath.add t.totalSupply amount
  let balance ← SafeMath.add (t.balances account) amount
  return { t with
    totalSupply := totalSupply
    balances := Function.update t.balances account balance }

/-- `_burn`. -/
def burn (t : ERC20) (account : Address) (amount : ℕ) : Except Revert ERC20 := do
  require (account ≠ zeroAddress) "ERC20: burn from the zero address"
  require (amount ≤ t.balances account) "ERC20: burn amount exceeds balance"
  let totalSupply ← SafeMath.sub t.totalSupply amount
  return { t with
    totalSupply := totalSupply
    balances := Function.update t.balances account (t.balances account - amount) }

/-! ## Balances -/

/-- A transfer within the sender's balance moves the amount from the sender to the recipient. -/
theorem balances_transferred {t : ERC20} {sender : Address} (recipient : Address) {amount : ℕ}
    (h : amount ≤ t.balances sender) (a : Address) :
    (t.transferred sender recipient amount).balances a + (if a = sender then amount else 0) =
      t.balances a + (if a = recipient then amount else 0) := by
  by_cases hs : a = sender <;> by_cases hr : a = recipient
  · subst hs hr
    simp only [transferred, Function.update_self, if_true]
    omega
  · subst hs
    simp only [transferred, Function.update_of_ne hr, Function.update_self, if_true, if_neg hr]
    omega
  · subst hr
    simp only [transferred, Function.update_of_ne hs, Function.update_self, if_true, if_neg hs]
    omega
  · simp only [transferred, Function.update_of_ne hs, Function.update_of_ne hr, if_neg hs,
      if_neg hr]

@[simp] theorem totalSupply_transferred (t : ERC20) (sender recipient : Address) (amount : ℕ) :
    (t.transferred sender recipient amount).totalSupply = t.totalSupply := rfl

@[simp] theorem allowances_transferred (t : ERC20) (sender recipient : Address) (amount : ℕ) :
    (t.transferred sender recipient amount).allowances = t.allowances := rfl

/-! ## Successful operations -/

variable {t t' : ERC20} {msgSender sender recipient account spender : Address} {amount : ℕ}

/-- When `_transfer` succeeds, and with which ledger. -/
@[simp] theorem move_eq_ok :
    t.move sender recipient amount = .ok t' ↔
      sender ≠ zeroAddress ∧ recipient ≠ zeroAddress ∧ amount ≤ t.balances sender ∧
        InUint256 ((t.transferred sender recipient amount).balances recipient) ∧
        t.transferred sender recipient amount = t' := by
  simp [move]

/-- When `approve` succeeds, and with which ledger. -/
@[simp] theorem approve_eq_ok :
    t.approve sender spender amount = .ok t' ↔
      sender ≠ zeroAddress ∧ spender ≠ zeroAddress ∧
        { t with
          allowances := Function.update t.allowances sender
            (Function.update (t.allowances sender) spender amount) } = t' := by
  simp [approve]

/-- A successful `transferFrom` moves the amount, within the sender's balance. -/
theorem of_transferFrom_eq_ok (h : t.transferFrom msgSender sender recipient amount = .ok t') :
    recipient ≠ zeroAddress ∧ amount ≤ t.balances sender ∧
      t'.balances = (t.transferred sender recipient amount).balances ∧
      t'.totalSupply = t.totalSupply := by
  simp only [transferFrom, bind_eq_ok, require_eq_ok, move_eq_ok, approve_eq_ok] at h
  obtain ⟨s, ⟨-, hr, hb, -, rfl⟩, -, -, -, -, rfl⟩ := h
  exact ⟨hr, hb, rfl, rfl⟩

/-- When `_mint` succeeds, and with which ledger. -/
@[simp] theorem mint_eq_ok :
    t.mint account amount = .ok t' ↔
      account ≠ zeroAddress ∧ InUint256 (t.totalSupply + amount) ∧
        InUint256 (t.balances account + amount) ∧
        { t with
          totalSupply := t.totalSupply + amount
          balances := Function.update t.balances account (t.balances account + amount) } = t' := by
  simp [mint]

/-- When `_burn` succeeds, and with which ledger. -/
@[simp] theorem burn_eq_ok :
    t.burn account amount = .ok t' ↔
      account ≠ zeroAddress ∧ amount ≤ t.balances account ∧ amount ≤ t.totalSupply ∧
        { t with
          totalSupply := t.totalSupply - amount
          balances := Function.update t.balances account (t.balances account - amount) } = t' := by
  simp [burn]

end ERC20

end SetProtocol
