import SetProtocol.Lib.Checked

set_option relaxedAutoImplicit false
set_option autoImplicit false

/-!
# Arrays filled from the front

A program that cannot extend an array counts its entries first, allocates an array of that size, and
writes the entries at a running index. A write beyond the end reverts. This file shows that a loop
over as many entries as were counted writes each place of the array exactly once.

## Main definitions

* `Filling.put` — write the next entry.

## Main results

* `Filling.foldlM_put` — a loop over the counted number of entries returns them as the array.
* `Filling.filter_flatMap` — the entries with one key, in a list made of groups of entries by key.
-/

namespace Filling

open Checked

universe u

variable {ε : Type*} {α β : Type u} {reason : ε}

/-- Write the next entry of an array, given with the number of entries written so far. -/
def put (reason : ε) (filled : List β × ℕ) (b : β) : Except ε (List β × ℕ) :=
  if filled.2 < filled.1.length then .ok (filled.1.set filled.2 b, filled.2 + 1)
  else .error reason

/-! ## Loops of writes -/

/-- A write overwrites the first entry that is not written yet. -/
theorem put_append {written rest : List β} {x b : β} :
    put reason (written ++ x :: rest, written.length) b =
      .ok ((written ++ [b]) ++ rest, (written ++ [b]).length) := by
  have hroom : written.length < (written ++ x :: rest).length := by simp
  have hset : (written ++ x :: rest).set written.length b = (written ++ [b]) ++ rest := by
    rw [List.set_append_right _ _ (Nat.le_refl _), Nat.sub_self, List.set_cons_zero,
      List.append_assoc, List.singleton_append]
  unfold put
  rw [if_pos hroom, hset, List.length_append, List.length_singleton]

/-- A loop that writes as many entries as there are places left. -/
theorem foldlM_put_append {l : List β} :
    ∀ {written rest : List β}, rest.length = l.length →
      l.foldlM (put reason) (written ++ rest, written.length) =
        .ok (written ++ l, (written ++ l).length) := by
  induction l with
  | nil =>
    intro written rest hlength
    obtain rfl := List.eq_nil_of_length_eq_zero hlength
    rw [List.foldlM_nil, List.append_nil]
    rfl
  | cons b l ih =>
    intro written rest hlength
    cases rest with
    | nil => exact absurd hlength (by simp)
    | cons x rest =>
      have hrest : rest.length = l.length := by simpa using hlength
      refine foldlM_cons_eq_ok.mpr ⟨_, put_append, ?_⟩
      rw [ih hrest, List.append_assoc, List.singleton_append]

/-- A loop over the counted number of entries returns them as the array, with all places written. -/
theorem foldlM_put {l : List β} {x : β} :
    l.foldlM (put reason) (List.replicate l.length x, 0) = .ok (l, l.length) := by
  have hlength : (List.replicate l.length x).length = l.length := List.length_replicate
  have hfill : l.foldlM (put reason) ([] ++ List.replicate l.length x, ([] : List β).length) =
      .ok ([] ++ l, ([] ++ l).length) := foldlM_put_append hlength
  simpa using hfill

/-! ## Groups -/

/-- A loop over groups of entries is a loop over all entries. -/
theorem foldlM_flatMap {σ : Type u} {f : α → List β} {g : σ → β → Except ε σ} {l : List α} :
    ∀ {s : σ}, (l.flatMap f).foldlM g s = l.foldlM (fun s a => (f a).foldlM g s) s := by
  induction l with
  | nil => intro s; rfl
  | cons a l ih =>
    intro s
    rw [List.flatMap_cons, List.foldlM_append, List.foldlM_cons]
    congr 1
    funext t
    exact ih

/-- Where each group has its own key, the entries with a key are those of its group. -/
theorem filter_flatMap [DecidableEq α] {f : α → List β} {key : β → α} {l : List α} {c : α}
    (hkey : ∀ a, ∀ b ∈ f a, key b = a) (hl : l.Nodup) (hc : c ∈ l) :
    (l.flatMap f).filter (fun b => key b = c) = f c := by
  induction l with
  | nil => exact absurd hc List.not_mem_nil
  | cons a l ih =>
    obtain ⟨hal, hl⟩ := List.nodup_cons.mp hl
    rw [List.flatMap_cons, List.filter_append]
    rcases List.mem_cons.mp hc with rfl | hc
    · have hgroup : (f c).filter (fun b => key b = c) = f c := by
        apply List.filter_eq_self.mpr
        intro b hb
        simpa using hkey c b hb
      have hrest : (l.flatMap f).filter (fun b => key b = c) = [] := by
        apply List.filter_eq_nil_iff.mpr
        intro b hb
        obtain ⟨a, ha, hb⟩ := List.mem_flatMap.mp hb
        rw [hkey a b hb, decide_eq_true_eq]
        rintro rfl
        exact hal ha
      rw [hgroup, hrest, List.append_nil]
    · have hgroup : (f a).filter (fun b => key b = c) = [] := by
        apply List.filter_eq_nil_iff.mpr
        intro b hb
        rw [hkey a b hb, decide_eq_true_eq]
        rintro rfl
        exact hal hc
      rw [hgroup, ih hl hc, List.nil_append]

end Filling
