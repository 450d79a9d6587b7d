import Mathlib.Data.List.Perm.Basic
import SetProtocol.Lib.SwapPop
import SetProtocol.Math.SafeMath

set_option relaxedAutoImplicit false
set_option autoImplicit false

/-!
# Address arrays

`contracts/lib/AddressArrayUtils.sol`. An array is a list; its accesses check their index as the
virtual machine does.

## Main definitions

* `SetProtocol.Address` — the addresses of accounts and contracts.
* `SetProtocol.AddressArrayUtils.indexOf`, `contains`, `hasDuplicate` — the searches.
* `SetProtocol.AddressArrayUtils.remove` — the removal that keeps the order, by two copy loops.
* `SetProtocol.AddressArrayUtils.removeStorage` — the removal by swap and pop.

## Main results

* `SetProtocol.AddressArrayUtils.remove_eq_ok` — `remove` erases the first occurrence.
* `SetProtocol.AddressArrayUtils.removeStorage_eq_ok` — `removeStorage` swaps and pops at it.
* `SetProtocol.AddressArrayUtils.removals_exact` — neither loses nor duplicates anything else.
* `SetProtocol.AddressArrayUtils.hasDuplicate_eq_ok` — `hasDuplicate` decides the lack of
  duplicates.
-/

namespace SetProtocol

open Checked

/-- The address of an account or a contract. -/
abbrev Address := BitVec 160

/-- The values that Solidity calls `address(0)`. -/
abbrev zeroAddress : Address := 0

namespace AddressArrayUtils

/-! ## Array accesses -/

/-- `A[i]` as a value. -/
def read (A : List Address) (i : ℕ) : Except Revert Address :=
  match A[i]? with
  | some a => .ok a
  | none => .error "invalid opcode"

/-- `A[i] = a`. -/
def write (A : List Address) (i : ℕ) (a : Address) : Except Revert (List Address) :=
  if i < A.length then .ok (A.set i a) else .error "invalid opcode"

@[simp] theorem read_eq_ok {A : List Address} {i : ℕ} {a : Address} :
    read A i = .ok a ↔ A[i]? = some a := by
  unfold read
  split <;> simp_all

@[simp] theorem write_eq_ok {A B : List Address} {i : ℕ} {a : Address} :
    write A i a = .ok B ↔ i < A.length ∧ A.set i a = B := by
  unfold write
  split <;> rename_i h <;> simp [h]

/-! ## Searches -/

/-- The loop of `indexOf`, at index `i` with the entries `A` to come. -/
def indexOfLoop (a : Address) : List Address → ℕ → ℕ × Bool
  | [], _ => (2 ^ 256 - 1, false)
  | x :: A, i => if x = a then (i, true) else indexOfLoop a A (i + 1)

/-- `indexOf`, the first index of `a` and whether there is one. -/
def indexOf (A : List Address) (a : Address) : ℕ × Bool := indexOfLoop a A 0

/-- `indexOf` with its accesses to the array, of which `n` are still to come, from index `i` on. -/
def indexOfReads (A : List Address) (a : Address) : ℕ → ℕ → Except Revert (ℕ × Bool)
  | 0, _ => .ok (2 ^ 256 - 1, false)
  | n + 1, i => do
    if (← read A i) = a then return (i, true)
    indexOfReads A a n (i + 1)

/-- `contains`. -/
def contains (A : List Address) (a : Address) : Bool := (indexOf A a).2

/-- The outer loop of `hasDuplicate`; the inner one searches the entries that follow. -/
def hasDuplicateLoop : List Address → Bool
  | [] => false
  | current :: A => if current ∈ A then true else hasDuplicateLoop A

/-- `hasDuplicate`. -/
def hasDuplicate (A : List Address) : Except Revert Bool := do
  require (0 < A.length) "A is empty"
  return hasDuplicateLoop A

private theorem indexOfLoop_eq (a : Address) (A : List Address) (i : ℕ) :
    indexOfLoop a A i = if a ∈ A then (i + A.idxOf a, true) else (2 ^ 256 - 1, false) := by
  induction A generalizing i with
  | nil => rfl
  | cons x A ih =>
    rw [indexOfLoop, ih]
    by_cases hx : x = a
    · subst hx
      simp
    · have hxa : ¬a = x := fun h => hx h.symm
      simp only [hx, if_false, List.mem_cons, hxa, false_or, List.idxOf_cons_ne _ hx]
      split
      · congr 1
        omega
      · rfl

/-- `indexOf` finds the first occurrence. -/
theorem indexOf_eq (A : List Address) (a : Address) :
    indexOf A a = if a ∈ A then (A.idxOf a, true) else (2 ^ 256 - 1, false) := by
  rw [indexOf, indexOfLoop_eq, Nat.zero_add]

/-- The search reads only places within the array. -/
private theorem indexOfReads_eq (A : List Address) (a : Address) {n i : ℕ}
    (h : i + n = A.length) : indexOfReads A a n i = .ok (indexOfLoop a (A.drop i) i) := by
  induction n generalizing i with
  | zero =>
    rw [List.drop_eq_nil_of_le (by omega)]
    rfl
  | succ n ih =>
    have hi : i < A.length := by omega
    rw [List.drop_eq_getElem_cons hi, indexOfLoop, indexOfReads, bind_eq_ok]
    refine ⟨A[i], read_eq_ok.mpr (List.getElem?_eq_getElem hi), ?_⟩
    split
    · rfl
    · exact ih (by omega)

/-- Reading the array place by place, `indexOf` stays within it. -/
theorem indexOfReads_length (A : List Address) (a : Address) :
    indexOfReads A a A.length 0 = .ok (indexOf A a) :=
  indexOfReads_eq A a (Nat.zero_add _)

/-- `contains` decides membership. -/
@[simp] theorem contains_eq_true {A : List Address} {a : Address} :
    contains A a = true ↔ a ∈ A := by
  rw [contains, indexOf_eq]
  split <;> simp_all

@[simp] theorem contains_eq_false {A : List Address} {a : Address} :
    contains A a = false ↔ a ∉ A := by
  rw [← contains_eq_true, Bool.not_eq_true]

private theorem hasDuplicateLoop_eq_false {A : List Address} :
    hasDuplicateLoop A = false ↔ A.Nodup := by
  induction A with
  | nil => simp [hasDuplicateLoop]
  | cons current A ih =>
    rw [hasDuplicateLoop, List.nodup_cons, ← ih]
    split <;> simp_all

/-- `hasDuplicate` decides the lack of duplicates of a non-empty array. -/
theorem hasDuplicate_eq_ok {A : List Address} {b : Bool} :
    hasDuplicate A = .ok b ↔ A ≠ [] ∧ (b = false ↔ A.Nodup) := by
  rw [← hasDuplicateLoop_eq_false, hasDuplicate]
  simp only [bind_eq_ok, require_eq_ok, pure_eq_ok, List.length_pos_iff]
  cases b <;> cases hasDuplicateLoop A <;> simp

/-! ## Removals -/

/-- One round of a copy loop: `newAddresses[target i] = A[i]`. -/
def copyRound (A : List Address) (target : ℕ → ℕ) (newAddresses : List Address) (i : ℕ) :
    Except Revert (List Address) := do
  write newAddresses (target i) (← read A i)

/-- `pop`, the array without the entry at `index`, and that entry. -/
def pop (A : List Address) (index : ℕ) : Except Revert (List Address × Address) := do
  require (index < A.length) "Index must be < A length"
  let newAddresses := List.replicate (A.length - 1) zeroAddress
  let newAddresses ← (List.range index).foldlM (copyRound A id) newAddresses
  let newAddresses ← (List.range' (index + 1) (A.length - (index + 1))).foldlM
    (copyRound A fun j => j - 1) newAddresses
  return (newAddresses, ← read A index)

/-- `remove`, on an array in memory. -/
def remove (A : List Address) (a : Address) : Except Revert (List Address) :=
  match indexOf A a with
  | (_, false) => .error "Address not in array."
  | (index, true) => do
    let (A', _) ← pop A index
    return A'

/-- `removeStorage`, on an array in storage. -/
def removeStorage (A : List Address) (a : Address) : Except Revert (List Address) :=
  match indexOf A a with
  | (_, false) => .error "Address not in array."
  | (index, true) => do
    let lastIndex := A.length - 1
    let A' ← (if index ≠ lastIndex then do write A index (← read A lastIndex) else .ok A)
    return A'.dropLast

/-- A copy to the first place not yet written. -/
private theorem copyRound_eq_ok {A B : List Address} {f : ℕ → ℕ} {i n : ℕ} {x : Address}
    (hi : A[i]? = some x) (hf : f i = B.length) :
    copyRound A f (B ++ List.replicate (n + 1) zeroAddress) i =
      .ok ((B ++ [x]) ++ List.replicate n zeroAddress) := by
  simp only [copyRound, bind_eq_ok, read_eq_ok, write_eq_ok]
  refine ⟨x, hi, ?_, ?_⟩
  · rw [hf]
    simp
  · rw [hf, List.set_append_right _ _ (Nat.le_refl _), Nat.sub_self, List.replicate_succ,
      List.set_cons_zero, List.append_assoc, List.singleton_append]

/-- A copy loop over `k` entries from index `s` on appends them to what was written before. -/
private theorem copyLoop_eq_ok {A B : List Address} {f : ℕ → ℕ} {s n : ℕ}
    (hf : ∀ j, f (s + j) = B.length + j) (k : ℕ) (hk : s + k ≤ A.length) :
    (List.range' s k).foldlM (copyRound A f) (B ++ List.replicate (n + k) zeroAddress) =
      .ok (B ++ (A.drop s).take k ++ List.replicate n zeroAddress) := by
  induction k generalizing n with
  | zero => simp
  | succ k ih =>
    have hx : A[s + k]? = some A[s + k] := List.getElem?_eq_getElem (by omega)
    have htake : (A.drop s).take (k + 1) = (A.drop s).take k ++ [A[s + k]] := by
      rw [List.take_add_one, List.getElem?_drop, hx, Option.toList_some]
    have hround := copyRound_eq_ok (B := B ++ (A.drop s).take k) (f := f) (n := n) hx
      (by rw [hf, List.length_append, List.length_take, List.length_drop]; omega)
    rw [List.range'_1_concat, List.foldlM_append, show n + (k + 1) = (n + 1) + k by omega,
      ih (by omega), htake]
    simpa using hround

/-- Within the array, `pop` erases the entry at the index. -/
theorem pop_eq {A : List Address} {index : ℕ} (h : index < A.length) :
    pop A index = .ok (A.eraseIdx index, A[index]) := by
  have h₁ := copyLoop_eq_ok (A := A) (B := []) (f := id) (s := 0)
    (n := A.length - (index + 1)) (fun j => by simp) index (by omega)
  have h₂ := copyLoop_eq_ok (A := A) (B := A.take index) (f := fun j => j - 1)
    (s := index + 1) (n := 0) (fun j => by rw [List.length_take]; omega)
    (A.length - (index + 1)) (by omega)
  have hlen : A.length - (index + 1) + index = A.length - 1 := by omega
  have hrest : (A.drop (index + 1)).take (A.length - (index + 1)) = A.drop (index + 1) :=
    List.take_of_length_le (by rw [List.length_drop])
  rw [hlen, ← List.range_eq_range', List.nil_append, List.nil_append, List.drop_zero] at h₁
  rw [Nat.zero_add, List.replicate_zero, List.append_nil, hrest] at h₂
  rw [List.eraseIdx_eq_take_drop_succ]
  unfold pop
  simp only [bind_eq_ok, require_eq_ok, read_eq_ok, pure_eq_ok, Prod.mk.injEq]
  exact ⟨(), h, _, h₁, _, h₂, _, List.getElem?_eq_getElem h, rfl, rfl⟩

/-- `remove` succeeds for the members, and erases the first occurrence. -/
@[simp] theorem remove_eq_ok {A B : List Address} {a : Address} :
    remove A a = .ok B ↔ a ∈ A ∧ A.erase a = B := by
  unfold remove
  rw [indexOf_eq]
  by_cases ha : a ∈ A
  · have hi := List.idxOf_lt_length_of_mem ha
    simp only [ha, if_true, pop_eq hi, bind_eq_ok, pure_eq_ok]
    simp
  · simp [ha]

/-- `removeStorage` succeeds for the members, and swaps and pops at the first occurrence. -/
@[simp] theorem removeStorage_eq_ok {A B : List Address} {a : Address} :
    removeStorage A a = .ok B ↔ a ∈ A ∧ SwapPop.swapPop A (A.idxOf a) = B := by
  unfold removeStorage
  rw [indexOf_eq]
  by_cases ha : a ∈ A
  · obtain rfl | ⟨L, x, rfl⟩ := A.eq_nil_or_concat'
    · simp at ha
    have hi := List.idxOf_lt_length_of_mem ha
    simp only [ha, if_true, bind_eq_ok, pure_eq_ok, SwapPop.swapPop_concat, true_and]
    rw [List.length_append, List.length_singleton] at hi ⊢
    rw [Nat.add_sub_cancel]
    split
    · have hlt : (L ++ [x]).idxOf a < L.length := by omega
      simp [List.set_append_left _ _ hlt, hi]
    · have heq : (L ++ [x]).idxOf a = L.length := by omega
      simp [heq, List.set_eq_of_length_le (Nat.le_refl _)]
  · simp [ha]

/-- `remove` refuses the addresses that are not in the array. -/
theorem remove_of_notMem {A : List Address} {a : Address} (ha : a ∉ A) :
    remove A a = .error "Address not in array." := by
  rw [remove, indexOf_eq, if_neg ha]

/-- `removeStorage` refuses the addresses that are not in the array. -/
theorem removeStorage_of_notMem {A : List Address} {a : Address} (ha : a ∉ A) :
    removeStorage A a = .error "Address not in array." := by
  rw [removeStorage, indexOf_eq, if_neg ha]

/-- The removals lose nothing but one occurrence of the address and duplicate nothing: with every
access in range they revert exactly for the addresses that are not in the array, `remove` keeps
the order of the others, and `removeStorage` changes only the vacated place, which has the last
entry then. -/
theorem removals_exact (A : List Address) (a : Address) :
    indexOfReads A a A.length 0 = .ok (indexOf A a) ∧
    (a ∉ A → remove A a = .error "Address not in array." ∧
      removeStorage A a = .error "Address not in array.") ∧
    (a ∈ A →
      (∃ B C, A = B ++ a :: C ∧ a ∉ B ∧ remove A a = .ok (B ++ C)) ∧
      ∃ A', removeStorage A a = .ok A' ∧ (a :: A').Perm A ∧ A'.length = A.length - 1 ∧
        (∀ i < A.length - 1, i ≠ A.idxOf a → A'[i]? = A[i]?) ∧
        (A.idxOf a < A.length - 1 → A'[A.idxOf a]? = A.getLast?)) := by
  refine ⟨indexOfReads_length A a, fun ha => ⟨remove_of_notMem ha, removeStorage_of_notMem ha⟩,
    fun ha =>
      ⟨?_, SwapPop.swapPop A (A.idxOf a), removeStorage_eq_ok.mpr ⟨ha, rfl⟩, ?_, ?_, ?_, ?_⟩⟩
  · obtain ⟨B, C, hB, hA, herase⟩ := List.exists_erase_eq ha
    exact ⟨B, C, hA, hB, remove_eq_ok.mpr ⟨ha, herase⟩⟩
  · exact ((SwapPop.swapPop_idxOf_perm ha).cons a).trans (List.perm_cons_erase ha).symm
  · exact SwapPop.length_swapPop A _
  · exact fun i hi hne => SwapPop.getElem?_swapPop_of_ne A hi hne
  · exact SwapPop.getElem?_swapPop_self A

/-- A repeated address, an address at the end, and one that is not in the array. -/
theorem removals_exact_example :
    (∃ B C, [1, 2, 1, 3] = B ++ (1 : Address) :: C ∧ 1 ∉ B ∧ remove [1, 2, 1, 3] 1 = .ok (B ++ C)) ∧
    (∃ A', removeStorage [1, 2, 3] 3 = .ok A' ∧ ((3 : Address) :: A').Perm [1, 2, 3]) ∧
    remove [1, 2] 3 = .error "Address not in array." := by
  have h := ((removals_exact [1, 2, 3] 3).2.2 (by decide)).2
  exact ⟨((removals_exact [1, 2, 1, 3] 1).2.2 (by decide)).1,
    h.imp fun _ h => ⟨h.1, h.2.1⟩, ((removals_exact [1, 2] 3).2.1 (by decide)).1⟩

end AddressArrayUtils

end SetProtocol
