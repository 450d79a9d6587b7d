import SetProtocol.Core.Encoding
import SetProtocol.Core.ModuleBase

set_option relaxedAutoImplicit false
set_option autoImplicit false

/-!
# Calls to Compound

`contracts/protocol/integration/lib/Compound.sol`, the library by which modules make a SetToken call
Compound.

## Main definitions

* `SetProtocol.Compound.invokeEnterMarkets`, `invokeExitMarket` — joining and leaving a market.
* `SetProtocol.Compound.invokeBorrow`, `invokeRepayBorrowCToken`, `invokeRepayBorrowCEther` — taking
  out and paying back debt.
* `SetProtocol.Compound.invokeMintCToken`, `invokeMintCEther`, `invokeRedeemUnderlying` — putting in
  and taking out collateral.

## Main results

* `SetProtocol.Compound.invokeAndCheck_eq_ok` — a checked call succeeds when Compound returns zero.
-/

namespace SetProtocol

open Checked

namespace Compound

/-- `abi.decode` of a return value, as one word. -/
def decodeWord (words : List ℕ) : Except Revert ℕ :=
  match words with
  | word :: _ => .ok word
  | [] => .error ""

/-- The body that most functions of the library share: make the call, and require the return value
zero. They differ in the target, the call and the reason. -/
def invokeAndCheck (self : Address) (env : Env) (w : World) (setToken target : Address)
    (data : CallData) (reason : Revert) : Except Revert World := do
  let (w, words) ← w.invoke env self setToken target 0 data
  let word ← decodeWord words
  require (word = 0) reason
  return w

/-- `invokeEnterMarkets`. -/
def invokeEnterMarkets (self : Address) (env : Env) (w : World)
    (setToken cToken comptroller : Address) : Except Revert World :=
  invokeAndCheck self env w setToken comptroller (.enterMarkets [cToken]) "Entering failed"

/-- `invokeExitMarket`. -/
def invokeExitMarket (self : Address) (env : Env) (w : World)
    (setToken cToken comptroller : Address) : Except Revert World :=
  invokeAndCheck self env w setToken comptroller (.exitMarket cToken) "Exiting failed"

/-- `invokeBorrow`. -/
def invokeBorrow (self : Address) (env : Env) (w : World) (setToken cToken : Address)
    (notionalBorrowQuantity : ℕ) : Except Revert World :=
  invokeAndCheck self env w setToken cToken (.borrow notionalBorrowQuantity) "Borrow failed"

/-- `invokeRepayBorrowCToken`. -/
def invokeRepayBorrowCToken (self : Address) (env : Env) (w : World) (setToken cToken : Address)
    (repayNotional : ℕ) : Except Revert World :=
  invokeAndCheck self env w setToken cToken (.repayBorrow repayNotional) "Repay failed"

/-- `invokeRepayBorrowCEther`, whose call sends the amount along and returns nothing. -/
def invokeRepayBorrowCEther (self : Address) (env : Env) (w : World) (setToken cEther : Address)
    (repayNotional : ℕ) : Except Revert World := do
  let (w, _) ← w.invoke env self setToken cEther repayNotional .repayBorrowEther
  return w

/-- The arguments of a function of an amount. -/
def amountLayout : Abi.Layout (ℕ × Unit) := .cons uint256Codec .nil

/-- `getMintCTokenCalldata`. -/
def getMintCTokenCalldata (env : Env) (mintNotional : ℕ) : CallData :=
  .bytes (encodeWithSignature env.keccak256 "mint(uint256)" amountLayout (mintNotional, ()))

/-- `getMintCEtherCalldata`. -/
def getMintCEtherCalldata (env : Env) : CallData :=
  .bytes (encodeWithSignature env.keccak256 "mint()" .nil ())

/-- `getRedeemUnderlyingCalldata`. -/
def getRedeemUnderlyingCalldata (env : Env) (redeemNotional : ℕ) : CallData :=
  .bytes (encodeWithSignature env.keccak256 "redeemUnderlying(uint256)" amountLayout
    (redeemNotional, ()))

/-- `invokeMintCToken`. -/
def invokeMintCToken (self : Address) (env : Env) (w : World) (setToken cToken : Address)
    (mintNotional : ℕ) : Except Revert World :=
  invokeAndCheck self env w setToken cToken (getMintCTokenCalldata env mintNotional) "Mint failed"

/-- `invokeMintCEther`, whose call sends the amount along and returns nothing. -/
def invokeMintCEther (self : Address) (env : Env) (w : World) (setToken cEther : Address)
    (mintNotional : ℕ) : Except Revert World := do
  let (w, _) ← w.invoke env self setToken cEther mintNotional (getMintCEtherCalldata env)
  return w

/-- `invokeRedeemUnderlying`. -/
def invokeRedeemUnderlying (self : Address) (env : Env) (w : World) (setToken cToken : Address)
    (redeemNotional : ℕ) : Except Revert World :=
  invokeAndCheck self env w setToken cToken (getRedeemUnderlyingCalldata env redeemNotional)
    "Redeem failed"

/-- A checked call succeeds when it is made and returns the word zero first. -/
theorem invokeAndCheck_eq_ok {self setToken target : Address} {env : Env} {w w' : World}
    {data : CallData} {reason : Revert} :
    invokeAndCheck self env w setToken target data reason = .ok w' ↔
      ∃ words, w.invoke env self setToken target 0 data = .ok (w', 0 :: words) := by
  simp only [invokeAndCheck, bind_eq_ok, require_eq_ok, pure_eq_ok, Prod.exists]
  constructor
  · rintro ⟨_, words, hinvoke, word, hword, -, hzero, rfl⟩
    cases words with
    | nil => exact absurd hword (by simp [decodeWord])
    | cons x words =>
      obtain rfl : x = word := by simpa [decodeWord] using hword
      exact ⟨words, hzero ▸ hinvoke⟩
  · rintro ⟨words, hinvoke⟩
    exact ⟨w', _, hinvoke, 0, rfl, (), rfl, rfl⟩

end Compound

end SetProtocol
