import Mathlib.Logic.Function.Basic
import SetProtocol.Lib.SwapPop

set_option relaxedAutoImplicit false
set_option autoImplicit false

/-!
# Lists kept in step with a flag

A register keeps the same set twice: as a list that can be read out, and as a flag by which
membership is tested. The two are in step when the list has no duplicates and holds exactly the
flagged elements. This file has the operations that keep them so.

## Main definitions

* `Register.Lists` — the list holds the elements with a property, each once.
* `Register.Index` — the list holds the keys that have values, and the values of a key are listed
  each once.

## Main results

* `Register.Lists.set` — appending an element without the flag while setting its flag.
* `Register.Lists.clear` — erasing an element while clearing its flag; `clear_swapPop` is the
  same for a removal by swap and pop.
* `Register.Lists.keep` — a change of a flag between two values that do not count.
* `Register.Lists.write`, `rewrite`, `erase` — the same where every value but one is a flag.
* `Register.foldl_clear_eq_iff` — clearing the flags of a whole list.
* `Register.Index.push`, `Register.Index.erase` — a value joins and leaves; the key joins with its
  first value and leaves with its last one.
* `Register.Index.clear` — clearing the values of the listed keys leaves no value at all.
-/

namespace Register

universe u

variable {α β : Type u} {l l' : List α} {p q : α → Prop}

/-- The list holds the elements with the property and no others, each of them once. -/
structure Lists (l : List α) (p : α → Prop) : Prop where
  /-- No element is listed twice. -/
  nodup : l.Nodup
  /-- The listed elements are those with the property. -/
  mem_iff : ∀ a, a ∈ l ↔ p a

namespace Lists

/-- Nothing is listed where nothing has the property. -/
theorem nil (h : ∀ a, ¬p a) : Lists [] p := by
  refine ⟨List.nodup_nil, fun a => ?_⟩
  simp [h a]

/-- The property counts only by its extension. -/
theorem congr (h : Lists l p) (hpq : ∀ a, p a ↔ q a) : Lists l q :=
  ⟨h.nodup, fun a => (h.mem_iff a).trans (hpq a)⟩

/-- An empty list means that nothing has the property. -/
theorem not_of_nil (h : Lists [] p) (a : α) : ¬p a := by
  rw [← h.mem_iff]
  exact List.not_mem_nil

/-- For a Boolean flag, that it is not set. -/
theorem eq_false_of_nil {f : α → Bool} (h : Lists [] fun a => f a = true) (a : α) : f a = false :=
  Bool.eq_false_iff.mpr (h.not_of_nil a)

/-- An element joins at the end. -/
theorem append {a : α} (h : Lists l p) (ha : ¬p a) (hq : ∀ b, q b ↔ b = a ∨ p b) :
    Lists (l ++ [a]) q := by
  have hnot : a ∉ l := fun hmem => ha ((h.mem_iff a).mp hmem)
  refine ⟨List.concat_eq_append ▸ h.nodup.concat hnot, fun b => ?_⟩
  rw [List.mem_append, List.mem_singleton, h.mem_iff, hq]
  exact or_comm

/-- An element leaves, in whatever order the others stay. -/
theorem remove [DecidableEq α] {a : α} (h : Lists l p) (hl : l'.Perm (l.erase a))
    (hq : ∀ b, q b ↔ b ≠ a ∧ p b) : Lists l' q := by
  refine ⟨hl.nodup_iff.mpr (h.nodup.erase a), fun b => ?_⟩
  rw [hl.mem_iff, h.nodup.mem_erase_iff, h.mem_iff, hq]

end Lists

/-! ## Flags -/

section Flags

variable [DecidableEq α] {f : α → β} {a : α} {u v : β}

/-- A flagged element is one that was set, or had the flag before. -/
theorem update_eq_iff_of_set (b : α) :
    Function.update f a v b = v ↔ b = a ∨ f b = v := by
  rcases eq_or_ne b a with rfl | hb
  · simp
  · simp [hb]

/-- Once a flag is cleared, the others are the flagged elements. -/
theorem update_eq_iff_of_clear (huv : u ≠ v) (b : α) :
    Function.update f a u b = v ↔ b ≠ a ∧ f b = v := by
  rcases eq_or_ne b a with rfl | hb
  · simp [huv]
  · simp [hb]

/-- A value other than `u` is what was written, or was there before. -/
theorem update_ne_iff_of_set (hvu : v ≠ u) (b : α) :
    Function.update f a v b ≠ u ↔ b = a ∨ f b ≠ u := by
  rcases eq_or_ne b a with rfl | hb
  · simp [hvu]
  · simp [hb]

/-- Once `u` is written, the others keep their values. -/
theorem update_ne_iff_of_clear (b : α) :
    Function.update f a u b ≠ u ↔ b ≠ a ∧ f b ≠ u := by
  rcases eq_or_ne b a with rfl | hb
  · simp
  · simp [hb]

namespace Lists

/-- Set the flag of an element that does not have it, and append the element. -/
theorem set (h : Lists l (fun b => f b = v)) (ha : f a ≠ v) :
    Lists (l ++ [a]) (fun b => Function.update f a v b = v) :=
  h.append ha update_eq_iff_of_set

/-- Clear the flag of an element, and erase the element. -/
theorem clear (h : Lists l (fun b => f b = v)) (huv : u ≠ v) :
    Lists (l.erase a) (fun b => Function.update f a u b = v) :=
  h.remove (List.Perm.refl _) (update_eq_iff_of_clear huv)

/-- Clear the flag of an element, and swap and pop it. -/
theorem clear_swapPop (h : Lists l (fun b => f b = v)) (huv : u ≠ v) (ha : a ∈ l) :
    Lists (SwapPop.swapPop l (l.idxOf a)) (fun b => Function.update f a u b = v) :=
  h.remove (SwapPop.swapPop_idxOf_perm ha) (update_eq_iff_of_clear huv)

/-- Write a value other than `u` for an element that has `u`, and append the element. -/
theorem write (h : Lists l (fun b => f b ≠ u)) (ha : f a = u) (hvu : v ≠ u) :
    Lists (l ++ [a]) (fun b => Function.update f a v b ≠ u) :=
  h.append (not_not.mpr ha) (update_ne_iff_of_set hvu)

/-- Write a value other than `u` for an element that has one. -/
theorem rewrite (h : Lists l (fun b => f b ≠ u)) (ha : f a ≠ u) (hvu : v ≠ u) :
    Lists l (fun b => Function.update f a v b ≠ u) := by
  refine h.congr fun b => ?_
  rw [update_ne_iff_of_set hvu]
  constructor
  · exact .inr
  · rintro (rfl | hb)
    · exact ha
    · exact hb

/-- Write `u` for an element, and erase the element. -/
theorem erase (h : Lists l (fun b => f b ≠ u)) :
    Lists (l.erase a) (fun b => Function.update f a u b ≠ u) :=
  h.remove (List.Perm.refl _) update_ne_iff_of_clear

/-- A flag that changes between two other values does not touch the list. -/
theorem keep (h : Lists l (fun b => f b = v)) (ha : f a ≠ v) (huv : u ≠ v) :
    Lists l (fun b => Function.update f a u b = v) := by
  refine h.congr fun b => ?_
  rw [update_eq_iff_of_clear huv]
  constructor
  · intro hb
    refine ⟨?_, hb⟩
    rintro rfl
    exact ha hb
  · exact And.right

end Lists

/-- Clearing flags one after the other leaves those outside of the list. -/
theorem foldl_clear_eq_iff (huv : u ≠ v) (l : List α) (f : α → β) (b : α) :
    l.foldl (fun f a => Function.update f a u) f b = v ↔ b ∉ l ∧ f b = v := by
  induction l generalizing f with
  | nil => simp
  | cons a l ih =>
    rw [List.foldl_cons, ih, update_eq_iff_of_clear huv, List.mem_cons]
    tauto

end Flags

/-! ## Keys with lists of values -/

section Index

variable {keys : List α} {values : α → List β} {k : α} {v : β}

/-- The keys that have values are listed, and so are the values of each key. -/
structure Index (keys : List α) (values : α → List β) : Prop where
  /-- The listed keys are those with values, each of them once. -/
  keys : Lists keys fun k => values k ≠ []
  /-- No value is listed twice under a key. -/
  values : ∀ k, (values k).Nodup

namespace Index

/-- Without values there are no keys. -/
theorem nil (h : ∀ k, values k = []) : Index [] values := by
  refine ⟨Lists.nil fun k hk => hk (h k), fun k => ?_⟩
  rw [h k]
  exact List.nodup_nil

/-- A key with a value is listed. -/
theorem mem_of_value (h : Index keys values) (hv : v ∈ values k) : k ∈ keys := by
  rw [h.keys.mem_iff]
  exact List.ne_nil_of_mem hv

variable [DecidableEq α]

/-- A value joins at the end. The key joins when this is its only value. -/
theorem push (h : Index keys values) (hv : v ∉ values k) :
    Index (if (values k ++ [v]).length = 1 then keys ++ [k] else keys)
      (Function.update values k (values k ++ [v])) := by
  refine ⟨?_, fun j => ?_⟩
  · split
    · -- there was no value before
      rename_i hone
      have hnil : values k = [] := by simpa using hone
      refine h.keys.append (fun hk => hk hnil) fun j => ?_
      rcases eq_or_ne j k with rfl | hj
      · simp
      · simp [hj]
    · rename_i hmore
      have hne : values k ≠ [] := fun hnil => hmore (by rw [hnil]; rfl)
      refine h.keys.congr fun j => ?_
      rcases eq_or_ne j k with rfl | hj
      · simp [hne]
      · rw [Function.update_of_ne hj]
  · rcases eq_or_ne j k with rfl | hj
    · rw [Function.update_self]
      exact List.concat_eq_append ▸ (h.values j).concat hv
    · rw [Function.update_of_ne hj]
      exact h.values j

/-- A value leaves. The key leaves when this was its only value. -/
theorem erase [DecidableEq β] (h : Index keys values) :
    Index (if ((values k).erase v).length = 0 then keys.erase k else keys)
      (Function.update values k ((values k).erase v)) := by
  refine ⟨?_, fun j => ?_⟩
  · split
    · rename_i hzero
      rw [List.length_eq_zero_iff] at hzero
      refine h.keys.remove (List.Perm.refl _) fun j => ?_
      rcases eq_or_ne j k with rfl | hj
      · simp [hzero]
      · simp [hj]
    · rename_i hsome
      rw [List.length_eq_zero_iff] at hsome
      have hne : values k ≠ [] := by
        intro hnil
        rw [hnil] at hsome
        exact hsome rfl
      refine h.keys.congr fun j => ?_
      rcases eq_or_ne j k with rfl | hj
      · simp [hne, hsome]
      · rw [Function.update_of_ne hj]
  · rcases eq_or_ne j k with rfl | hj
    · rw [Function.update_self]
      exact (h.values j).erase v
    · rw [Function.update_of_ne hj]
      exact h.values j

/-- Once the values of the listed keys are cleared no key has values. -/
theorem clear (h : Index keys values) (k : α) :
    keys.foldl (fun values k => Function.update values k []) values k = [] := by
  by_contra hne
  -- values that are left were there before, under a key that is not listed
  obtain ⟨hk, hleft⟩ := (foldl_clear_eq_iff (Ne.symm hne) keys values k).mp rfl
  rw [← hleft] at hne
  exact hk ((h.keys.mem_iff k).mpr hne)

end Index

end Index

end Register
