import Mathlib.Data.List.Count
import Mathlib.Order.Iterate
import Mathlib.Order.Lattice
import SetProtocol.Lib.Checked

set_option relaxedAutoImplicit false
set_option autoImplicit false

/-!
# Loops that update one place several times

A loop over keys whose round for a key applies a function to what a state holds at that key applies
it as often as the key is listed. For a monotone function on a linear order, doing it more than once
makes no difference only where doing it twice makes none.

## Main results

* `Iterates.iterate_eq_self_iff` — a monotone function comes back to a point only by staying there.
* `Iterates.foldlM_eq_iterate_count` — the loop applies the function once for each occurrence.
-/

namespace Iterates

open Checked

/-- A monotone function comes back to a point only by staying there. -/
theorem iterate_eq_self_iff {α : Type*} [LinearOrder α] {g : α → α} (hg : Monotone g) {n : ℕ}
    (hn : 0 < n) {x : α} : g^[n] x = x ↔ g x = x := by
  constructor
  · intro h
    apply le_antisymm
    · by_contra hlt
      have hup := hg.monotone_iterate_of_le_map (not_le.mp hlt).le hn
      exact hlt (by simpa [h] using hup)
    · by_contra hlt
      have hdown := hg.antitone_iterate_of_map_le (not_le.mp hlt).le hn
      exact hlt (by simpa [h] using hdown)
  · exact fun h => Function.iterate_fixed h n

/-- After the first time, further times make no difference exactly where the second one makes
none. -/
theorem iterate_succ_eq_iff {α : Type*} [LinearOrder α] {g : α → α} (hg : Monotone g) {n : ℕ}
    {x : α} : g^[n + 1] x = g x ↔ n = 0 ∨ g (g x) = g x := by
  rw [Function.iterate_succ_apply]
  rcases Nat.eq_zero_or_pos n with rfl | hn
  · simp
  · rw [iterate_eq_self_iff hg hn]
    simp [hn.ne']

universe u

variable {ε : Type*} {β σ : Type u} {α : Type*} [DecidableEq β]

/-- A loop whose rounds for the key `c` apply `g` to a part of the state, and whose other rounds
leave that part alone, applies `g` as often as `c` is listed. -/
theorem foldlM_eq_iterate_count {f : σ → β → Except ε σ} {l : List β} {c : β} {g : α → α}
    (value : σ → α) (I : σ → Prop)
    (preserved : ∀ b ∈ l, ∀ s s', I s → f s b = .ok s' → I s')
    (applied : ∀ s s', I s → f s c = .ok s' → value s' = g (value s))
    (other : ∀ b ∈ l, b ≠ c → ∀ s s', I s → f s b = .ok s' → value s' = value s)
    {s t : σ} (hs : I s) (h : l.foldlM f s = .ok t) :
    I t ∧ value t = g^[l.count c] (value s) := by
  induction l generalizing s with
  | nil =>
    obtain rfl : s = t := by simpa using h
    exact ⟨hs, rfl⟩
  | cons b l ih =>
    obtain ⟨s', hround, hrest⟩ := foldlM_cons_eq_ok.mp h
    have hs' := preserved b List.mem_cons_self s s' hs hround
    obtain ⟨ht, hvalue⟩ := ih (fun a ha => preserved a (List.mem_cons_of_mem b ha))
      (fun a ha => other a (List.mem_cons_of_mem b ha)) hs' hrest
    refine ⟨ht, ?_⟩
    rw [hvalue]
    rcases eq_or_ne b c with rfl | hne
    · rw [applied s s' hs hround, List.count_cons_self, Function.iterate_succ_apply]
    · rw [other b List.mem_cons_self hne s s' hs hround, List.count_cons_of_ne hne]

end Iterates
