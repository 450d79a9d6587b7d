import SetProtocol.Core.ModuleBase

set_option relaxedAutoImplicit false
set_option autoImplicit false

/-!
# Reverts for lack of balance

A transfer beyond the balance of its sender reverts with a reason of its own, which nothing else
in the protocol uses. A program that never reverts with this reason never runs out of tokens.

## Main definitions

* `SetProtocol.NeverShort` — the program does not revert for lack of balance.

## Main results

* `SetProtocol.NeverShort.bind`, `SetProtocol.NeverShort.foldlM`, `SetProtocol.NeverShort.mapM` —
  composition.
* `SetProtocol.neverShort_strictInvokeTransfer` — a transfer within the balance of the Set.
-/

namespace SetProtocol

open Checked

/-- The program does not revert for lack of balance. -/
def NeverShort {α : Type} (x : Except Revert α) : Prop := Avoids x ERC20.insufficientBalance

namespace NeverShort

variable {α β σ : Type}

/-! ## Composition -/

theorem ok (a : α) : NeverShort (.ok a : Except Revert α) := avoids_ok a _

theorem error {e : Revert} (h : e ≠ ERC20.insufficientBalance) :
    NeverShort (.error e : Except Revert α) :=
  avoids_error h

theorem require {p : Prop} [Decidable p] {e : Revert} (h : e ≠ ERC20.insufficientBalance) :
    NeverShort (Checked.require p e) :=
  avoids_require h

theorem bind {x : Except Revert α} {f : α → Except Revert β} (hx : NeverShort x)
    (hf : ∀ a, x = .ok a → NeverShort (f a)) : NeverShort (x >>= f) :=
  Avoids.bind hx hf

theorem ite {p : Prop} [Decidable p] {x y : Except Revert α} (hx : p → NeverShort x)
    (hy : ¬p → NeverShort y) : NeverShort (if p then x else y) := by
  split
  · next h => exact hx h
  · next h => exact hy h

theorem mapM {f : α → Except Revert β} {l : List α} (h : ∀ a ∈ l, NeverShort (f a)) :
    NeverShort (l.mapM f) :=
  avoids_mapM l h

theorem foldlM {f : σ → α → Except Revert σ} (I : List α → σ → Prop)
    (avoids : ∀ a l s, I (a :: l) s → NeverShort (f s a))
    (step : ∀ a l s s', I (a :: l) s → f s a = .ok s' → I l s') {l : List α} {s : σ}
    (hs : I l s) : NeverShort (l.foldlM f s) :=
  avoids_foldlM I avoids step l s hs

end NeverShort

/-! ## Arithmetic -/

section Arithmetic

variable (a b : ℕ) (i j : ℤ)

theorem neverShort_add : NeverShort (SafeMath.add a b) :=
  .ite (fun _ => .ok _) fun _ => .error (by decide)

theorem neverShort_sub : NeverShort (SafeMath.sub a b) :=
  .ite (fun _ => .ok _) fun _ => .error (by decide)

theorem neverShort_mul : NeverShort (SafeMath.mul a b) :=
  .ite (fun _ => .ok _) fun _ => .error (by decide)

theorem neverShort_div : NeverShort (SafeMath.div a b) :=
  .ite (fun _ => .ok _) fun _ => .error (by decide)

theorem neverShort_addInt : NeverShort (SignedSafeMath.add i j) :=
  .ite (fun _ => .ok _) fun _ => .error (by decide)

theorem neverShort_mulInt : NeverShort (SignedSafeMath.mul i j) :=
  .ite (fun _ => .ok _) fun _ => .error (by decide)

theorem neverShort_divInt : NeverShort (SignedSafeMath.div i j) :=
  .ite (fun _ => .error (by decide)) fun _ => .ite (fun _ => .error (by decide)) fun _ => .ok _

theorem neverShort_toUint256 : NeverShort (SafeCast.toUint256 i) :=
  .ite (fun _ => .ok _) fun _ => .error (by decide)

theorem neverShort_preciseMul : NeverShort (PreciseUnitMath.preciseMul a b) :=
  (neverShort_mul a b).bind fun _ _ => neverShort_div _ _

theorem neverShort_preciseMulCeil : NeverShort (PreciseUnitMath.preciseMulCeil a b) :=
  .ite (fun _ => .ok _) fun _ => (neverShort_mul a b).bind fun _ _ =>
    (neverShort_sub _ _).bind fun _ _ => (neverShort_div _ _).bind fun _ _ => neverShort_add _ _

theorem neverShort_divDown : NeverShort (PreciseUnitMath.divDown i j) :=
  (NeverShort.require (by decide)).bind fun _ _ => (NeverShort.require (by decide)).bind fun _ _ =>
    (neverShort_divInt i j).bind fun _ _ => .ite (fun _ => .ok _) fun _ => .ok _

end Arithmetic

/-! ## The SetToken -/

section SetToken

variable (m : Message) (s : SetToken) (component positionModule : Address)

theorem neverShort_privileged : NeverShort (SetToken.privileged m s) := by
  refine NeverShort.bind ?_ fun _ _ => ?_
  · exact (NeverShort.require (by decide)).bind fun _ _ => .require (by decide)
  · exact .ite (fun _ => .require (by decide)) fun _ => .ok _

theorem neverShort_convertVirtualToRealUnit (v : ℤ) :
    NeverShort (s.convertVirtualToRealUnit v) :=
  (neverShort_mulInt _ _).bind fun _ _ => neverShort_divDown _ _

theorem neverShort_getDefaultPositionRealUnit :
    NeverShort (s.getDefaultPositionRealUnit component) :=
  neverShort_convertVirtualToRealUnit s _

theorem neverShort_getExternalPositionRealUnit :
    NeverShort (s.getExternalPositionRealUnit component positionModule) :=
  neverShort_convertVirtualToRealUnit s _

end SetToken

/-! ## Calls that change the world -/

section World

variable {self setToken token recipient account : Address} {quantity : ℕ} {env : Env} {w : World}

theorem neverShort_onlyValidAndInitializedSet :
    NeverShort (ModuleBase.onlyValidAndInitializedSet self w setToken) :=
  .require (by decide)

theorem neverShort_mint : NeverShort (w.mint self setToken account quantity) := by
  refine (neverShort_privileged _ _).bind fun _ _ => NeverShort.bind ?_ fun _ _ => .ok _
  exact (NeverShort.require (by decide)).bind fun _ _ => (neverShort_add _ _).bind fun _ _ =>
    (neverShort_add _ _).bind fun _ _ => .ok _

theorem neverShort_burn : NeverShort (w.burn self setToken account quantity) := by
  refine (neverShort_privileged _ _).bind fun _ _ => NeverShort.bind ?_ fun _ _ => .ok _
  exact (NeverShort.require (by decide)).bind fun _ _ => (NeverShort.require (by decide)).bind
    fun _ _ => (neverShort_sub _ _).bind fun _ _ => .ok _

/-- A transfer within the balance of the Set does not fail for lack of balance. -/
theorem neverShort_strictInvokeTransfer
    (hle : quantity ≤ (w.tokens token).balances setToken) :
    NeverShort (Invoke.strictInvokeTransfer self env w setToken token recipient quantity) := by
  have hmove : NeverShort ((w.tokens token).move setToken recipient quantity) := by
    refine (NeverShort.require (by decide)).bind fun _ _ => (NeverShort.require (by decide)).bind
      fun _ _ => NeverShort.bind ?_ fun _ _ => (NeverShort.require (by decide)).bind
        fun _ _ => .ok _
    rw [require, if_pos hle]
    exact .ok _
  refine .ite (fun hq => ?_) fun _ => .ok _
  refine NeverShort.bind ?_ fun _ _ => (neverShort_sub _ _).bind fun _ _ =>
    (NeverShort.require (by decide)).bind fun _ _ => .ok _
  rw [Invoke.invokeTransfer, if_pos hq]
  refine NeverShort.bind ((neverShort_privileged _ _).bind fun _ _ => ?_) fun _ _ => .ok _
  exact (hmove.bind fun _ _ => .ok _).bind fun _ _ => .ok _

end World

end SetProtocol
