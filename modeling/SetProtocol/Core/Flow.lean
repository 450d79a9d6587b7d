import Mathlib.Algebra.BigOperators.Group.List.Basic
import SetProtocol.Core.ModuleBase

set_option relaxedAutoImplicit false
set_option autoImplicit false

/-!
# Flows of tokens into and out of a Set

A call that leaves the positions and the supply of a Set alone can still move tokens. A flow bounds
what it moves, token by token: flows add up over a sequence of calls and over a loop.

## Main definitions

* `SetProtocol.Flow` — the Set gained at least so much and lost at most so much of each token.
* `SetProtocol.Moves` — the Set received and paid exactly so much of each token.

## Main results

* `SetProtocol.Flow.trans`, `SetProtocol.Flow.foldlM` — flows add up.
* `SetProtocol.Moves.of_transferFrom`, `SetProtocol.Moves.of_strictInvokeTransfer` — what a
  transfer moves.
* `SetProtocol.World.mint_spec`, `SetProtocol.World.burn_spec` — minting and burning change the
  supply and no other token.
-/

namespace SetProtocol

open Checked

/-- The call left the storage and the supply of the Set alone. Of each token the Set gained at
least `into` and lost at most `out`. -/
structure Flow (setToken : Address) (w w' : World) (into out : Address → ℕ) : Prop where
  /-- The positions are unchanged. -/
  positions : w'.setTokens setToken = w.setTokens setToken
  /-- The supply is unchanged. -/
  supply : w'.totalSupply setToken = w.totalSupply setToken
  /-- The balances of the Set change within the bounds. -/
  balances : ∀ c, (w.tokens c).balances setToken + into c ≤ (w'.tokens c).balances setToken + out c

/-- The amount of one token, and nothing of the others. -/
def only (token : Address) (amount : ℕ) (c : Address) : ℕ := if c = token then amount else 0

namespace Flow

variable {setToken : Address} {w w₁ w₂ : World} {into out into' out' : Address → ℕ}

/-- Doing nothing moves nothing. -/
theorem refl (setToken : Address) (w : World) : Flow setToken w w (fun _ => 0) (fun _ => 0) :=
  ⟨rfl, rfl, fun _ => Nat.le_refl _⟩

/-- Flows add up over a sequence. -/
theorem trans (h₁ : Flow setToken w w₁ into out) (h₂ : Flow setToken w₁ w₂ into' out') :
    Flow setToken w w₂ (fun c => into c + into' c) (fun c => out c + out' c) := by
  refine ⟨h₂.positions.trans h₁.positions, h₂.supply.trans h₁.supply, fun c => ?_⟩
  have := h₁.balances c
  have := h₂.balances c
  omega

/-- Bounds may be relaxed. -/
theorem mono (h : Flow setToken w w₁ into out) (hi : ∀ c, into' c ≤ into c)
    (ho : ∀ c, out c ≤ out' c) : Flow setToken w w₁ into' out' := by
  refine ⟨h.positions, h.supply, fun c => ?_⟩
  have := h.balances c
  have := hi c
  have := ho c
  omega

/-- Flows add up over a loop, whose body may rely on the positions of the Set. A round over `b`
moves the token `k b` only. -/
theorem foldlM {β : Type} {f : World → β → Except Revert World} (k : β → Address) (i o : β → ℕ)
    {s : SetToken} {l : List β}
    (body : ∀ b ∈ l, ∀ w w', w.setTokens setToken = s → f w b = .ok w' →
      Flow setToken w w' (only (k b) (i b)) (only (k b) (o b)))
    (hs : w.setTokens setToken = s) (h : l.foldlM f w = .ok w₁) :
    Flow setToken w w₁ (fun c => (l.map fun b => only (k b) (i b) c).sum)
      (fun c => (l.map fun b => only (k b) (o b) c).sum) := by
  induction l generalizing w with
  | nil =>
    obtain rfl : w = w₁ := by simpa using h
    exact refl setToken w
  | cons b l ih =>
    obtain ⟨w', h₁, h₂⟩ := foldlM_cons_eq_ok.mp h
    have hhead := body b List.mem_cons_self w w' hs h₁
    have htail := ih (fun a ha => body a (List.mem_cons_of_mem b ha))
      (hhead.positions.trans hs) h₂
    simpa using hhead.trans htail

/-- Over keys without duplicates, the amounts of one key are the amount at that key. -/
theorem sum_only {β : Type} (key : β → Address) (amount : β → ℕ) {l : List β}
    (hl : (l.map key).Nodup) {b : β} (hb : b ∈ l) :
    (l.map fun a => only (key a) (amount a) (key b)).sum = amount b := by
  induction l with
  | nil => exact absurd hb List.not_mem_nil
  | cons a l ih =>
    rw [List.map_cons, List.nodup_cons] at hl
    rw [List.map_cons, List.sum_cons]
    rcases List.mem_cons.mp hb with rfl | hb
    · have hzero : (l.map fun a => only (key a) (amount a) (key b)).sum = 0 := by
        apply List.sum_eq_zero
        intro n hn
        obtain ⟨a, ha, rfl⟩ := List.mem_map.mp hn
        have hne : key b ≠ key a := fun he => hl.1 (he ▸ List.mem_map_of_mem ha)
        rw [only, if_neg hne]
      rw [hzero, only, if_pos rfl, Nat.add_zero]
    · have hne : key b ≠ key a := fun he => hl.1 (he ▸ List.mem_map_of_mem hb)
      rw [ih hl.2 hb, only, if_neg hne, Nat.zero_add]

/-- A transfer to the Set by allowance brings in the quantity. -/
theorem of_transferFrom {self token sender : Address} {quantity : ℕ}
    (h : ModuleBase.transferFrom self w token sender setToken quantity = .ok w₁) :
    Flow setToken w w₁ (only token quantity) (only token 0) := by
  obtain ⟨t', hmoved, hbal, rfl⟩ := ModuleBase.transferFrom_spec h
  refine ⟨rfl, ?_, fun c => ?_⟩
  · by_cases hc : setToken = token
    · subst hc
      simpa [World.totalSupply, World.setTokenLedger] using hmoved.totalSupply
    · simp [World.totalSupply, World.setTokenLedger, hc]
  · by_cases hc : c = token
    · subst hc
      simp [World.setTokenLedger, only, hbal]
    · simp [World.setTokenLedger, only, hc]

end Flow

/-- The call left the storage and the supply of the Set alone. Of each token the Set received
`into` and paid `out`. -/
structure Moves (setToken : Address) (w w' : World) (into out : Address → ℕ) : Prop where
  /-- The positions are unchanged. -/
  positions : w'.setTokens setToken = w.setTokens setToken
  /-- The supply is unchanged. -/
  supply : w'.totalSupply setToken = w.totalSupply setToken
  /-- The balances of the Set change by the amounts. -/
  balances : ∀ c, (w'.tokens c).balances setToken + out c = (w.tokens c).balances setToken + into c

namespace Moves

variable {setToken : Address} {w w₁ w₂ : World} {into out into' out' : Address → ℕ}

/-- Moves add up over a sequence. -/
theorem trans (h₁ : Moves setToken w w₁ into out) (h₂ : Moves setToken w₁ w₂ into' out') :
    Moves setToken w w₂ (fun c => into c + into' c) (fun c => out c + out' c) := by
  refine ⟨h₂.positions.trans h₁.positions, h₂.supply.trans h₁.supply, fun c => ?_⟩
  have := h₁.balances c
  have := h₂.balances c
  omega

/-- The amounts may be written in another way. -/
theorem congr (h : Moves setToken w w₁ into out) (hi : ∀ c, into' c = into c)
    (ho : ∀ c, out' c = out c) : Moves setToken w w₁ into' out' :=
  ⟨h.positions, h.supply, fun c => by rw [hi, ho, h.balances]⟩

/-- The amounts bound what moves. -/
theorem flow (h : Moves setToken w w₁ into out) : Flow setToken w w₁ into out :=
  ⟨h.positions, h.supply, fun c => (h.balances c).ge⟩

/-- The effect of another ledger of one token. -/
private theorem of_ledger {token : Address} {t' : ERC20} {calls : List Call} {i o : ℕ}
    (hsupply : t'.totalSupply = (w.tokens token).totalSupply)
    (hbal : t'.balances setToken + o = (w.tokens token).balances setToken + i) :
    Moves setToken w { w.setTokenLedger token t' with calls := calls } (only token i)
      (only token o) := by
  refine ⟨rfl, ?_, fun c => ?_⟩
  · by_cases hc : setToken = token
    · subst hc
      simpa [World.totalSupply, World.setTokenLedger] using hsupply
    · simp [World.totalSupply, World.setTokenLedger, hc]
  · by_cases hc : c = token
    · subst hc
      simpa [World.setTokenLedger, only] using hbal
    · simp [World.setTokenLedger, only, hc]

variable (setToken) in
/-- A transfer by allowance takes the quantity from the sender and gives it to the recipient. It
fails between equal accounts, unless nothing is transferred. -/
theorem of_transferFrom {self token sender recipient : Address} {quantity : ℕ}
    (h : ModuleBase.transferFrom self w token sender recipient quantity = .ok w₁) :
    Moves setToken w w₁
      (only token (if sender ≠ setToken ∧ recipient = setToken then quantity else 0))
      (only token (if sender = setToken then quantity else 0)) := by
  obtain ⟨t', hmoved, hbal, rfl⟩ := ModuleBase.transferFrom_spec h
  refine of_ledger hmoved.totalSupply ?_
  have hset := hmoved.balances setToken
  by_cases hs : sender = setToken <;> by_cases hr : recipient = setToken
  · subst hs hr
    simp only [if_true] at hset
    simp only [ne_eq, not_true_eq_false, false_and, if_false, if_true]
    omega
  · simpa [hs, hr, Ne.symm hr] using hset
  · simpa [hs, hr, Ne.symm hs] using hset
  · simpa [hs, hr, Ne.symm hs, Ne.symm hr] using hset

/-- A transfer by the Set to another account takes out the quantity. -/
theorem of_invokeTransfer {self token recipient : Address} {quantity : ℕ} {env : Env}
    (hrecipient : recipient ≠ setToken)
    (h : Invoke.invokeTransfer self env w setToken token recipient quantity = .ok w₁) :
    Moves setToken w w₁ (only token 0) (only token quantity) := by
  obtain ⟨t', hmoved, rfl⟩ := Invoke.invokeTransfer_spec h
  refine of_ledger hmoved.totalSupply ?_
  simpa [hrecipient.symm] using hmoved.balances setToken

/-- A transfer by the Set takes out the quantity. -/
theorem of_strictInvokeTransfer {self token recipient : Address} {quantity : ℕ} {env : Env}
    (h : Invoke.strictInvokeTransfer self env w setToken token recipient quantity = .ok w₁) :
    Moves setToken w w₁ (only token 0) (only token quantity) := by
  obtain ⟨t', hmoved, hle, hbal, rfl⟩ := Invoke.strictInvokeTransfer_spec h
  refine of_ledger hmoved.totalSupply ?_
  omega

end Moves

namespace Flow

variable {setToken self token recipient spender : Address} {quantity n : ℕ} {env : Env}
  {w w' : World}

/-- A transfer by the Set takes out the quantity at most. -/
theorem of_strictInvokeTransfer
    (h : Invoke.strictInvokeTransfer self env w setToken token recipient quantity = .ok w') :
    Flow setToken w w' (only token 0) (only token quantity) :=
  (Moves.of_strictInvokeTransfer h).flow

/-- What another ledger of one token, and a call that is recorded, do to the Set. -/
private theorem of_ledger {t' : ERC20} {calls : List Call} {i o : ℕ}
    (hsupply : t'.totalSupply = (w.tokens token).totalSupply)
    (hbalance : (w.tokens token).balances setToken + i ≤ t'.balances setToken + o) :
    Flow setToken w { w.setTokenLedger token t' with calls := calls } (only token i)
      (only token o) := by
  refine ⟨rfl, ?_, fun c => ?_⟩
  · by_cases hc : setToken = token
    · subst hc
      simpa [World.totalSupply, World.setTokenLedger] using hsupply
    · simp [World.totalSupply, World.setTokenLedger, hc]
  · by_cases hc : c = token
    · subst hc
      simpa [World.setTokenLedger, only] using hbalance
    · simp [World.setTokenLedger, only, hc]

/-- So does a transfer that is not checked, to whatever recipient. -/
theorem of_invokeTransfer
    (h : Invoke.invokeTransfer self env w setToken token recipient quantity = .ok w') :
    Flow setToken w w' (only token 0) (only token quantity) := by
  by_cases hself : recipient = setToken
  · obtain ⟨t', hmoved, rfl⟩ := Invoke.invokeTransfer_spec h
    have hsame := hmoved.balances setToken
    rw [if_pos hself.symm, if_pos rfl] at hsame
    apply of_ledger hmoved.totalSupply
    omega
  · exact (Moves.of_invokeTransfer hself h).flow

/-- An approval moves nothing. -/
theorem of_invokeApprove
    (h : Invoke.invokeApprove self env w setToken token spender quantity = .ok w') :
    Flow setToken w w' (fun _ => 0) (fun _ => 0) := by
  obtain ⟨t', hbalances, hsupply, rfl⟩ := Invoke.invokeApprove_spec h
  have hledger : Flow setToken w { w.setTokenLedger token t' with
      calls := w.calls ++ [⟨setToken, token, 0, .approve spender quantity⟩] }
      (only token 0) (only token 0) := by
    apply of_ledger hsupply
    rw [hbalances]
  refine hledger.mono (fun c => Nat.zero_le _) fun c => ?_
  simp [only]

end Flow

namespace World

variable {w w' : World} {sender setToken account : Address} {quantity : ℕ}

/-- What minting changes: the supply and one balance of the Set's own ledger. -/
theorem mint_spec (h : w.mint sender setToken account quantity = .ok w') :
    account ≠ zeroAddress ∧
      w' = w.setTokenLedger setToken
        { w.tokens setToken with
          totalSupply := w.totalSupply setToken + quantity
          balances := Function.update (w.tokens setToken).balances account
            ((w.tokens setToken).balances account + quantity) } := by
  simp only [mint, bind_eq_ok, SetToken.privileged_eq_ok, editToken_eq_ok, ERC20.mint_eq_ok] at h
  obtain ⟨-, -, _, ⟨ha, -, -, rfl⟩, rfl⟩ := h
  exact ⟨ha, rfl⟩

/-- What burning changes: the supply and one balance of the Set's own ledger. -/
theorem burn_spec (h : w.burn sender setToken account quantity = .ok w') :
    quantity ≤ (w.tokens setToken).balances account ∧ quantity ≤ w.totalSupply setToken ∧
      w' = w.setTokenLedger setToken
        { w.tokens setToken with
          totalSupply := w.totalSupply setToken - quantity
          balances := Function.update (w.tokens setToken).balances account
            ((w.tokens setToken).balances account - quantity) } := by
  simp only [burn, bind_eq_ok, SetToken.privileged_eq_ok, editToken_eq_ok, ERC20.burn_eq_ok] at h
  obtain ⟨-, -, _, ⟨-, hb, hs, rfl⟩, rfl⟩ := h
  exact ⟨hb, hs, rfl⟩

/-- Minting raises the balance of one account of the Set's own ledger. -/
theorem balances_of_mint (h : w.mint sender setToken account quantity = .ok w') (c a : Address) :
    (w'.tokens c).balances a =
      (w.tokens c).balances a + if c = setToken ∧ a = account then quantity else 0 := by
  obtain ⟨-, rfl⟩ := mint_spec h
  by_cases hc : c = setToken
  · subst hc
    by_cases ha : a = account
    · subst ha
      simp [setTokenLedger]
    · simp [setTokenLedger, ha]
  · simp [setTokenLedger, hc]

/-- Minting raises the supply, and takes no tokens from the Set. -/
theorem flow_of_mint (h : w.mint sender setToken account quantity = .ok w') :
    w'.setTokens = w.setTokens ∧ w'.totalSupply setToken = w.totalSupply setToken + quantity ∧
      ∀ c a, (w.tokens c).balances a ≤ (w'.tokens c).balances a := by
  refine ⟨?_, ?_, fun c a => balances_of_mint h c a ▸ Nat.le_add_right _ _⟩
  · obtain ⟨-, rfl⟩ := mint_spec h
    rfl
  · obtain ⟨-, rfl⟩ := mint_spec h
    simp [totalSupply, setTokenLedger]

/-- Burning lowers the balance of one account of the Set's own ledger. -/
theorem balances_of_burn (h : w.burn sender setToken account quantity = .ok w') (c a : Address) :
    (w'.tokens c).balances a + (if c = setToken ∧ a = account then quantity else 0) =
      (w.tokens c).balances a := by
  obtain ⟨hle, -, rfl⟩ := burn_spec h
  by_cases hc : c = setToken
  · subst hc
    by_cases ha : a = account
    · subst ha
      simp [setTokenLedger, hle]
    · simp [setTokenLedger, ha]
  · simp [setTokenLedger, hc]

/-- Burning the tokens of another account lowers the supply, and takes no tokens from the Set. -/
theorem flow_of_burn (h : w.burn sender setToken account quantity = .ok w')
    (ha : account ≠ setToken) :
    w'.setTokens = w.setTokens ∧ w'.totalSupply setToken + quantity = w.totalSupply setToken ∧
      ∀ c, (w'.tokens c).balances setToken = (w.tokens c).balances setToken := by
  refine ⟨?_, ?_, fun c => ?_⟩
  · obtain ⟨-, -, rfl⟩ := burn_spec h
    rfl
  · obtain ⟨-, hle, rfl⟩ := burn_spec h
    simp only [totalSupply, setTokenLedger, Function.update_self] at hle ⊢
    omega
  · have hburned := balances_of_burn h c setToken
    rwa [if_neg fun hc => ha hc.2.symm, Nat.add_zero] at hburned

/-! ### Balances that change without a transfer -/

/-- The world with more on one balance. -/
def gain (w : World) (token account : Address) (n : ℕ) : World :=
  let t := w.tokens token
  w.setTokenLedger token
    { t with balances := Function.update t.balances account (t.balances account + n) }

/-- The world with less on one balance. -/
def lose (w : World) (token account : Address) (n : ℕ) : Except Revert World := do
  let t := w.tokens token
  require (n ≤ t.balances account) ERC20.insufficientBalance
  return w.setTokenLedger token
    { t with balances := Function.update t.balances account (t.balances account - n) }

/-- The Set gains what comes in. -/
theorem flow_gain (setToken : Address) (w : World) (token : Address) (n : ℕ) :
    Flow setToken w (w.gain token setToken n) (only token n) (only token 0) := by
  let t := w.tokens token
  let t' := { t with balances := Function.update t.balances setToken (t.balances setToken + n) }
  have hbalance : t.balances setToken + n ≤ t'.balances setToken + 0 := by
    simp [t']
  exact Flow.of_ledger rfl hbalance

/-- The Set loses what goes out, and nothing else changes. -/
theorem flow_of_lose {token : Address} {n : ℕ} (h : w.lose token setToken n = .ok w') :
    Flow setToken w w' (only token 0) (only token n) := by
  simp only [lose, bind_eq_ok, require_eq_ok, pure_eq_ok] at h
  obtain ⟨-, hle, rfl⟩ := h
  let t := w.tokens token
  let t' := { t with balances := Function.update t.balances setToken (t.balances setToken - n) }
  have hbalance : t.balances setToken + 0 ≤ t'.balances setToken + n := by
    simp only [t', Function.update_self]
    omega
  exact Flow.of_ledger rfl hbalance

end World

end SetProtocol
