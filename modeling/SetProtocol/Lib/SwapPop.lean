import Mathlib.Data.List.Nodup
import Mathlib.Data.List.Perm.Basic

set_option relaxedAutoImplicit false
set_option autoImplicit false

/-!
# Removal by swap and pop

An array drops an entry in constant time by moving its last entry into the vacated place and
shrinking by one. This file describes what is left.

## Main definitions

* `SwapPop.swapPop` — remove the entry at an index.

## Main results

* `SwapPop.swapPop_perm` — nothing but the entry is lost, and nothing is duplicated.
* `SwapPop.getElem?_swapPop_of_ne`, `getElem?_swapPop_self` — the entries at each place.
* `SwapPop.swapPop_idxOf_perm` — as a multiset, removing at the first index of an element is
  erasing the element.
* `SwapPop.map_swapPop` — parallel arrays stay parallel under removals at the same index.
* `SwapPop.swapPop_eq_dropLast` — removing another copy of the last entry drops the last entry.
-/

namespace SwapPop

universe u

variable {α β : Type u}

/-- Move the last entry to index `i` and shrink the list by one. -/
def swapPop (l : List α) (i : ℕ) : List α :=
  match l.getLast? with
  | none => []
  | some x => (l.set i x).dropLast

/-- On a list with its last entry exposed, that entry overwrites index `i` of the rest. -/
@[simp] theorem swapPop_concat (l : List α) (x : α) (i : ℕ) :
    swapPop (l ++ [x]) i = l.set i x := by
  simp only [swapPop, List.getLast?_concat]
  rcases Nat.lt_or_ge i l.length with h | h
  · rw [List.set_append_left _ _ h, List.dropLast_concat]
  · rw [List.set_append_right _ _ h, List.set_eq_of_length_le h]
    rcases Nat.eq_zero_or_pos (i - l.length) with h0 | h0
    · rw [h0, List.set_cons_zero, List.dropLast_concat]
    · rw [List.set_eq_of_length_le h0, List.dropLast_concat]

/-- The removed entry together with what is left is the list. -/
theorem swapPop_perm (l : List α) (i : ℕ) (h : i < l.length) : (l[i] :: swapPop l i).Perm l := by
  obtain rfl | ⟨l, x, rfl⟩ := l.eq_nil_or_concat'
  · simp at h
  rw [swapPop_concat]
  rcases Nat.lt_or_ge i l.length with hi | hi
  · rw [List.getElem_append_left hi]
    calc (l[i] :: l.set i x).Perm (l[i] :: x :: l.eraseIdx i) :=
          (List.set_perm_cons_eraseIdx hi x).cons _
      _ |>.Perm (x :: l[i] :: l.eraseIdx i) := List.Perm.swap _ _ _
      _ |>.Perm (x :: l) := (List.getElem_cons_eraseIdx_perm hi).cons _
      _ |>.Perm (l ++ [x]) := (List.perm_append_singleton x l).symm
  · obtain rfl : i = l.length := by simp at h; omega
    rw [List.getElem_concat_length rfl, List.set_eq_of_length_le (Nat.le_refl _)]
    exact (List.perm_append_singleton x l).symm

/-- A removal within the list shortens it by one. -/
theorem length_swapPop (l : List α) (i : ℕ) : (swapPop l i).length = l.length - 1 := by
  obtain rfl | ⟨l, x, rfl⟩ := l.eq_nil_or_concat'
  · rfl
  · rw [swapPop_concat]
    simp

/-- The places before the last one keep their entries, except for the vacated one. -/
theorem getElem?_swapPop_of_ne (l : List α) {i j : ℕ} (hi : i < l.length - 1) (hij : i ≠ j) :
    (swapPop l j)[i]? = l[i]? := by
  obtain rfl | ⟨l, x, rfl⟩ := l.eq_nil_or_concat'
  · rfl
  · have hlt : i < l.length := by simpa using hi
    rw [swapPop_concat, List.getElem?_set_ne hij.symm, List.getElem?_append_left hlt]

/-- The vacated place has the last entry. -/
theorem getElem?_swapPop_self (l : List α) {i : ℕ} (hi : i < l.length - 1) :
    (swapPop l i)[i]? = l.getLast? := by
  obtain rfl | ⟨l, x, rfl⟩ := l.eq_nil_or_concat'
  · simp at hi
  · have hlt : i < l.length := by simpa using hi
    rw [swapPop_concat, List.getElem?_set_self hlt, List.getLast?_concat]

/-- Where the entry is the last one again, the removal only drops the last one. -/
theorem swapPop_eq_dropLast {l : List α} {i : ℕ} (h : l[i]? = l.getLast?) :
    swapPop l i = l.dropLast := by
  obtain rfl | ⟨l, x, rfl⟩ := l.eq_nil_or_concat'
  · rfl
  · rw [swapPop_concat, List.dropLast_concat]
    rw [List.getLast?_concat] at h
    rcases Nat.lt_or_ge i l.length with hi | hi
    · rw [List.getElem?_append_left hi, List.getElem?_eq_getElem hi, Option.some.injEq] at h
      rw [← h, List.set_getElem_self]
    · exact List.set_eq_of_length_le hi

/-- A removal commutes with a map, so parallel arrays stay parallel. -/
theorem map_swapPop (f : α → β) (l : List α) (i : ℕ) :
    (swapPop l i).map f = swapPop (l.map f) i := by
  obtain rfl | ⟨l, x, rfl⟩ := l.eq_nil_or_concat'
  · rfl
  · rw [swapPop_concat, List.map_append, List.map_set, List.map_singleton,
      swapPop_concat]

section DecidableEq

variable [DecidableEq α] {l : List α} {a b : α}

/-- As a multiset, removing at the first index of an element erases it. -/
theorem swapPop_idxOf_perm (ha : a ∈ l) : (swapPop l (l.idxOf a)).Perm (l.erase a) := by
  have h := swapPop_perm l (l.idxOf a) (List.idxOf_lt_length_of_mem ha)
  rw [List.getElem_idxOf] at h
  exact (List.perm_cons a).mp (h.trans (List.perm_cons_erase ha))

/-- Removals keep a list free of duplicates. -/
theorem nodup_swapPop (hl : l.Nodup) (ha : a ∈ l) : (swapPop l (l.idxOf a)).Nodup :=
  (swapPop_idxOf_perm ha).nodup_iff.mpr (hl.erase a)

/-- After the removal of an element from a list without duplicates the others are left. -/
theorem mem_swapPop (hl : l.Nodup) (ha : a ∈ l) :
    b ∈ swapPop l (l.idxOf a) ↔ b ≠ a ∧ b ∈ l := by
  rw [(swapPop_idxOf_perm ha).mem_iff, hl.mem_erase_iff]

end DecidableEq

end SwapPop
