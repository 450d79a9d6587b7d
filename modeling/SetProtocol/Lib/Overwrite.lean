import Mathlib.Data.List.Basic
import Mathlib.Data.List.Nodup
import Mathlib.Logic.Function.Basic

set_option relaxedAutoImplicit false
set_option autoImplicit false

/-!
# Writing a list of entries

A function is written at a list of keys, one after the other. A key that comes more than once has
the value of its last entry.

## Main definitions

* `Overwrite.overwrite` — the function after the entries were written.

## Main results

* `Overwrite.overwrite_cons` — the first entry is written first.
* `Overwrite.overwrite_of_notMem` — other keys keep their values.
* `Overwrite.overwrite_of_last` — the last entry of a key is found, which every key of the list has
  by `exists_last`.
* `Overwrite.overwrite_of_mem` — without repeated keys, every entry is found.
-/

namespace Overwrite

universe u v

variable {κ : Type u} {β : Type v} [DecidableEq κ] {f : κ → β} {l : List (κ × β)} {k : κ} {b : β}

/-- A function after the entries of a list were written, in order. -/
def overwrite (f : κ → β) (l : List (κ × β)) (k : κ) : β :=
  match l.reverse.find? fun entry => entry.1 = k with
  | some entry => entry.2
  | none => f k

@[simp] theorem overwrite_nil (f : κ → β) : overwrite f [] = f := rfl

/-- The first entry is written first, and the others may write over it. -/
theorem overwrite_cons (f : κ → β) (entry : κ × β) (l : List (κ × β)) :
    overwrite f (entry :: l) = overwrite (Function.update f entry.1 entry.2) l := by
  funext k
  unfold overwrite
  rw [List.reverse_cons, List.find?_append]
  cases l.reverse.find? fun entry => entry.1 = k with
  | some later => rfl
  | none =>
    rcases eq_or_ne entry.1 k with rfl | hne
    · simp
    · simp [hne, hne.symm]

/-- Keys without an entry keep their values. -/
theorem overwrite_of_notMem (h : k ∉ l.map Prod.fst) : overwrite f l k = f k := by
  induction l generalizing f with
  | nil => rfl
  | cons entry l ih =>
    rw [List.map_cons, List.mem_cons, not_or] at h
    obtain ⟨hne, hrest⟩ := h
    rw [overwrite_cons, ih hrest, Function.update_of_ne hne]

/-- The last entry of a key is found. -/
theorem overwrite_of_last {pre post : List (κ × β)} (h : k ∉ post.map Prod.fst) :
    overwrite f (pre ++ (k, b) :: post) k = b := by
  induction pre generalizing f with
  | nil => rw [List.nil_append, overwrite_cons, overwrite_of_notMem h, Function.update_self]
  | cons entry pre ih => rw [List.cons_append, overwrite_cons, ih]

/-- A key of the list has a last entry. -/
theorem exists_last (h : k ∈ l.map Prod.fst) :
    ∃ pre b post, l = pre ++ (k, b) :: post ∧ k ∉ post.map Prod.fst := by
  induction l with
  | nil => cases h
  | cons entry l ih =>
    by_cases hlater : k ∈ l.map Prod.fst
    · obtain ⟨pre, b, post, rfl, hpost⟩ := ih hlater
      exact ⟨entry :: pre, b, post, rfl, hpost⟩
    · rw [List.map_cons, List.mem_cons] at h
      obtain rfl := h.resolve_right hlater
      exact ⟨[], entry.2, l, rfl, hlater⟩

/-- Without repeated keys, every entry is found. -/
theorem overwrite_of_mem (hnodup : (l.map Prod.fst).Nodup) (h : (k, b) ∈ l) :
    overwrite f l k = b := by
  obtain ⟨pre, post, rfl⟩ := List.append_of_mem h
  apply overwrite_of_last
  rw [List.map_append, List.map_cons] at hnodup
  exact (List.nodup_cons.mp (List.nodup_append.mp hnodup).2.1).1

end Overwrite
