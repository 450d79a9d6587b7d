import Mathlib.Data.List.Forall2
import Mathlib.Tactic.TypeStar

set_option relaxedAutoImplicit false
set_option autoImplicit false

/-!
# Programs that may revert

A program of type `Except ε α` returns a value or reverts with a reason, and a program that
reverts returns no state. This file has the rules for reasoning about a successful run of such
a program, about its loops (`List.foldlM`, `List.mapM`), and about the reasons it can revert
with.

## Main definitions

* `Checked.require` — continue when a condition holds, revert otherwise.
* `Checked.Avoids` — the program does not revert with the given reason.
* `Checked.Rounds` — the rounds of a loop, as a relation of states.

## Main results

* `Checked.bind_eq_ok` — a sequence succeeds when each of its parts does.
* `Checked.foldlM_rest` — the loop rule, with the elements still to come in the invariant.
* `Checked.foldlM_eq_ok_split` — the rounds before an element, its own round, and those after it.
* `Checked.rounds_of_foldlM` — a loop goes through the rounds of its body.
* `Checked.foldlM_eq_ok_foldl` — a loop whose body does not revert.
* `Checked.mapM_eq_ok`, `mapM_eq_ok_map` — a mapping loop succeeds when it does so elementwise.
* `Checked.Avoids.bind`, `Checked.avoids_foldlM` — composition of `Checked.Avoids`.
-/

namespace Checked

universe u

variable {ε : Type*} {α β σ : Type u}

/-- Continue when `p` holds and revert with `reason` otherwise. -/
def require (p : Prop) [Decidable p] (reason : ε) : Except ε Unit :=
  if p then .ok () else .error reason

/-! ## Successful runs -/

/-- A requirement passes when its condition holds. -/
@[simp] theorem require_eq_ok {p : Prop} [Decidable p] {reason : ε} {u : Unit} :
    require p reason = .ok u ↔ p := by
  unfold require
  split <;> simp_all

/-- A sequence succeeds when its first part does and the rest does from there. -/
@[simp] theorem bind_eq_ok {x : Except ε α} {f : α → Except ε β} {b : β} :
    (x >>= f) = .ok b ↔ ∃ a, x = .ok a ∧ f a = .ok b := by
  cases x with
  | error e => simp [bind, Except.bind]
  | ok a => simp [bind, Except.bind]

/-- Returning a value succeeds with that value. -/
@[simp] theorem pure_eq_ok {a b : α} : (pure a : Except ε α) = .ok b ↔ a = b := by
  simp [pure, Except.pure]

/-- A mapped program succeeds when the program does, with the image of its value. -/
@[simp] theorem map_eq_ok {f : α → β} {x : Except ε α} {b : β} :
    f <$> x = .ok b ↔ ∃ a, x = .ok a ∧ f a = b := by
  cases x with
  | error e => simp [Functor.map, Except.map]
  | ok a => simp [Functor.map, Except.map]

/-- Whether the program returns a value with the property. -/
def yields (x : Except ε α) (p : α → Bool) : Bool :=
  match x with
  | .ok a => p a
  | .error _ => false

/-- A program that yields a property returns a value with it. -/
theorem exists_of_yields {x : Except ε α} {p : α → Bool} (h : yields x p = true) :
    ∃ a, x = .ok a ∧ p a = true := by
  cases x with
  | error e => simp [yields] at h
  | ok a => exact ⟨a, rfl, h⟩

/-! ## Loops -/

/-- A loop over `a :: l` runs its body on `a` and then loops over `l`. -/
theorem foldlM_cons_eq_ok {f : σ → α → Except ε σ} {a : α} {l : List α} {s t : σ} :
    (a :: l).foldlM f s = .ok t ↔ ∃ s', f s a = .ok s' ∧ l.foldlM f s' = .ok t := by
  rw [List.foldlM_cons, bind_eq_ok]

/-- A loop seen from one of its rounds: the rounds before it, the round, and the rounds after it. -/
theorem foldlM_eq_ok_split {f : σ → α → Except ε σ} {l : List α} {i : ℕ} {a : α}
    (hi : l[i]? = some a) {s t : σ} (h : l.foldlM f s = .ok t) :
    ∃ s₁ s₂, (l.take i).foldlM f s = .ok s₁ ∧ f s₁ a = .ok s₂ ∧
      (l.drop (i + 1)).foldlM f s₂ = .ok t := by
  obtain ⟨hlt, rfl⟩ := List.getElem?_eq_some_iff.mp hi
  rw [← List.take_append_drop i l, List.drop_eq_getElem_cons hlt, List.foldlM_append,
    bind_eq_ok] at h
  obtain ⟨s₁, h₁, h⟩ := h
  obtain ⟨s₂, h₂, h₃⟩ := foldlM_cons_eq_ok.mp h
  exact ⟨s₁, s₂, h₁, h₂, h₃⟩

/-- The loop rule with the elements still to come in the invariant: what holds of the whole
list and the initial state, and is handed on by each round, holds at the end. -/
theorem foldlM_rest {f : σ → α → Except ε σ} (I : List α → σ → Prop)
    (step : ∀ a l s s', I (a :: l) s → f s a = .ok s' → I l s') :
    ∀ {l : List α} {s t : σ}, I l s → l.foldlM f s = .ok t → I [] t
  | [], s, t, hs, h => by
    obtain rfl : s = t := by simpa using h
    exact hs
  | a :: l, s, t, hs, h => by
    obtain ⟨s', h₁, h₂⟩ := foldlM_cons_eq_ok.mp h
    exact foldlM_rest I step (step a l s s' hs h₁) h₂

/-- The plain loop rule: an invariant that every round over an element of the list preserves
holds at the end. -/
theorem foldlM_preserves {f : σ → α → Except ε σ} {l : List α} (I : σ → Prop)
    (step : ∀ a ∈ l, ∀ s s', I s → f s a = .ok s' → I s') {s t : σ} (hs : I s)
    (h : l.foldlM f s = .ok t) : I t := by
  have hI := foldlM_rest (fun r s => (∀ a ∈ r, a ∈ l) ∧ I s)
    (fun a r s s' hI hf => ⟨fun b hb => hI.1 b (List.mem_cons_of_mem a hb),
      step a (hI.1 a List.mem_cons_self) s s' hI.2 hf⟩) ⟨fun _ ha => ha, hs⟩ h
  exact hI.2

/-- A loop whose body relates the state before a round to the state after it by a reflexive and
transitive relation so relates the initial state to the final one. -/
theorem foldlM_rel {f : σ → α → Except ε σ} {l : List α} (R : σ → σ → Prop)
    (refl : ∀ s, R s s) (trans : ∀ {s t u}, R s t → R t u → R s u)
    (step : ∀ a ∈ l, ∀ s s', f s a = .ok s' → R s s') {s t : σ}
    (h : l.foldlM f s = .ok t) : R s t :=
  foldlM_preserves (R s) (fun a ha _ _ hs hf => trans hs (step a ha _ _ hf)) (refl s) h

/-- A state becomes another in rounds over the elements of a list, each of which relates the state
before it to the state after it. -/
inductive Rounds (R : α → σ → σ → Prop) : List α → σ → σ → Prop
  | nil (s : σ) : Rounds R [] s s
  | cons {a : α} {l : List α} {s t u : σ} (first : R a s t) (rest : Rounds R l t u) :
    Rounds R (a :: l) s u

/-- A loop goes through the rounds that its body makes. -/
theorem rounds_of_foldlM {f : σ → α → Except ε σ} {R : α → σ → σ → Prop} {l : List α}
    (round : ∀ a s t, f s a = .ok t → R a s t) {s t : σ} (h : l.foldlM f s = .ok t) :
    Rounds R l s t := by
  induction l generalizing s with
  | nil =>
    obtain rfl : s = t := by simpa using h
    exact .nil s
  | cons a l ih =>
    obtain ⟨s', h₁, h₂⟩ := foldlM_cons_eq_ok.mp h
    exact .cons (round a s s' h₁) (ih h₂)

/-- Loops whose bodies agree on the elements agree. -/
theorem foldlM_congr {f g : σ → α → Except ε σ} {l : List α}
    (h : ∀ a ∈ l, ∀ s, f s a = g s a) (s : σ) : l.foldlM f s = l.foldlM g s := by
  induction l generalizing s with
  | nil => rfl
  | cons a l ih =>
    rw [List.foldlM_cons, List.foldlM_cons, h a List.mem_cons_self]
    congr 1
    funext t
    exact ih (fun b hb => h b (List.mem_cons_of_mem a hb)) t

/-- A loop whose body succeeds on each element is the loop over the values of its body. -/
theorem foldlM_eq_ok_foldl {f : σ → α → Except ε σ} {g : σ → α → σ} {l : List α}
    (h : ∀ a ∈ l, ∀ s, f s a = .ok (g s a)) (s : σ) : l.foldlM f s = .ok (l.foldl g s) := by
  induction l generalizing s with
  | nil => rfl
  | cons a l ih =>
    have hrest := ih fun b hb => h b (List.mem_cons_of_mem a hb)
    exact foldlM_cons_eq_ok.mpr ⟨g s a, h a List.mem_cons_self s, hrest (g s a)⟩

/-- A mapping loop succeeds when its body succeeds on each element, and its results are those
of the body. -/
theorem mapM_eq_ok {f : α → Except ε β} {l : List α} {r : List β} :
    l.mapM f = .ok r ↔ List.Forall₂ (fun a b => f a = .ok b) l r := by
  induction l generalizing r with
  | nil =>
    rw [List.mapM_nil, pure_eq_ok, List.forall₂_nil_left_iff]
    exact eq_comm
  | cons a l ih =>
    rw [List.mapM_cons]
    simp only [bind_eq_ok, pure_eq_ok, List.forall₂_cons_left_iff, ih]
    constructor
    · rintro ⟨b, hb, bs, hbs, rfl⟩
      exact ⟨b, bs, hb, hbs, rfl⟩
    · rintro ⟨b, bs, hb, hbs, rfl⟩
      exact ⟨b, hb, bs, hbs, rfl⟩

/-- A mapping loop whose body checks each element and computes its image succeeds when all elements
pass, with their images. -/
theorem mapM_eq_ok_map {f : α → Except ε β} {p : α → Prop} {g : α → β}
    (hf : ∀ a b, f a = .ok b ↔ p a ∧ g a = b) {l : List α} {r : List β} :
    l.mapM f = .ok r ↔ (∀ a ∈ l, p a) ∧ l.map g = r := by
  induction l generalizing r with
  | nil => simp
  | cons a l ih =>
    rw [List.mapM_cons]
    simp only [bind_eq_ok, pure_eq_ok, hf, ih, List.forall_mem_cons, List.map_cons]
    constructor
    · rintro ⟨_, ⟨ha, rfl⟩, _, ⟨hl, rfl⟩, rfl⟩
      exact ⟨⟨ha, hl⟩, rfl⟩
    · rintro ⟨⟨ha, hl⟩, rfl⟩
      exact ⟨_, ⟨ha, rfl⟩, _, ⟨hl, rfl⟩, rfl⟩

/-- A mapping loop whose body succeeds on each element returns the values of its body. -/
theorem mapM_eq_ok_of_forall {f : α → Except ε β} {g : α → β} {l : List α}
    (h : ∀ a ∈ l, f a = .ok (g a)) : l.mapM f = .ok (l.map g) := by
  rw [mapM_eq_ok, List.forall₂_map_right_iff, List.forall₂_same]
  exact h

/-- The results of a mapping loop carry the keys of the elements they come from. -/
theorem map_of_mapM_eq_ok {γ : Type u} {f : α → Except ε β} {k : α → γ} {k' : β → γ} {l : List α}
    {r : List β} (hkey : ∀ a b, f a = .ok b → k' b = k a) (h : l.mapM f = .ok r) :
    r.map k' = l.map k := by
  have hrel : List.Forall₂ (fun x y => x = y) (r.map k') (l.map k) := by
    rw [List.forall₂_map_left_iff, List.forall₂_map_right_iff]
    exact ((mapM_eq_ok.mp h).imp hkey).flip
  rwa [List.forall₂_eq_eq_eq] at hrel

/-- Each element of a mapping loop has its result. -/
theorem exists_of_mem_of_mapM_eq_ok {f : α → Except ε β} {l : List α} {r : List β}
    (h : l.mapM f = .ok r) {a : α} (ha : a ∈ l) : ∃ b ∈ r, f a = .ok b := by
  induction mapM_eq_ok.mp h with
  | nil => exact absurd ha List.not_mem_nil
  | @cons x y l r hxy hlr ih =>
    rcases List.mem_cons.mp ha with rfl | ha
    · exact ⟨y, List.mem_cons_self, hxy⟩
    · obtain ⟨b, hb, hab⟩ := ih (mapM_eq_ok.mpr hlr) ha
      exact ⟨b, List.mem_cons_of_mem y hb, hab⟩

/-- Each result of a mapping loop comes from an element. -/
theorem exists_of_mem_mapM {f : α → Except ε β} {l : List α} {r : List β}
    (h : l.mapM f = .ok r) {b : β} (hb : b ∈ r) : ∃ a ∈ l, f a = .ok b := by
  induction mapM_eq_ok.mp h with
  | nil => exact absurd hb List.not_mem_nil
  | @cons x y l r hxy hlr ih =>
    rcases List.mem_cons.mp hb with rfl | hb
    · exact ⟨x, List.mem_cons_self, hxy⟩
    · obtain ⟨a, ha, hab⟩ := ih (mapM_eq_ok.mpr hlr) hb
      exact ⟨a, List.mem_cons_of_mem x ha, hab⟩

/-- A loop of checks passes when each of them does. -/
theorem forM_eq_ok {f : α → Except ε PUnit} {l : List α} {u : PUnit} :
    l.forM f = .ok u ↔ ∀ a ∈ l, f a = .ok ⟨⟩ := by
  induction l with
  | nil => simp
  | cons a l ih =>
    rw [List.forM_eq_forM] at ih ⊢
    rw [List.forM_cons, bind_eq_ok, Unique.exists_iff, ih, List.forall_mem_cons]

/-! ## Reasons for reverting -/

/-- The program does not revert with reason `e`. -/
def Avoids (x : Except ε α) (e : ε) : Prop := x ≠ .error e

/-- A returned value is no revert. -/
@[simp] theorem avoids_ok (a : α) (e : ε) : Avoids (.ok a) e := by simp [Avoids]

/-- A returned value is no revert. -/
@[simp] theorem avoids_pure (a : α) (e : ε) : Avoids (pure a : Except ε α) e := by
  simp [Avoids, pure, Except.pure]

/-- A revert for another reason is none for this one. -/
theorem avoids_error {e e' : ε} (h : e' ≠ e) : Avoids (.error e' : Except ε α) e := by
  simpa [Avoids] using h

/-- A requirement with another reason does not revert with this one. -/
theorem avoids_require {p : Prop} [Decidable p] {e e' : ε} (h : e' ≠ e) :
    Avoids (require p e') e := by
  unfold require
  split
  · exact avoids_ok _ _
  · exact avoids_error h

/-- A sequence avoids a reason when its first part does, and the rest does after each success
of the first part. -/
theorem Avoids.bind {x : Except ε α} {f : α → Except ε β} {e : ε} (hx : Avoids x e)
    (hf : ∀ a, x = .ok a → Avoids (f a) e) : Avoids (x >>= f) e := by
  cases x with
  | error e' =>
    have : e' ≠ e := fun h => hx (by rw [h])
    exact avoids_error this
  | ok a => exact hf a rfl

/-- A loop avoids a reason when its body does under an invariant of the elements still to come
that the body hands on. -/
theorem avoids_foldlM {f : σ → α → Except ε σ} {e : ε} (I : List α → σ → Prop)
    (avoids : ∀ a l s, I (a :: l) s → Avoids (f s a) e)
    (step : ∀ a l s s', I (a :: l) s → f s a = .ok s' → I l s') :
    ∀ (l : List α) (s : σ), I l s → Avoids (l.foldlM f s) e
  | [], s, _ => by simp
  | a :: l, s, hs => by
    rw [List.foldlM_cons]
    exact (avoids a l s hs).bind fun s' h => avoids_foldlM I avoids step l s' (step a l s s' hs h)

/-- A mapping loop avoids a reason that its body avoids on each element. -/
theorem avoids_mapM {f : α → Except ε β} {e : ε} :
    ∀ l : List α, (∀ a ∈ l, Avoids (f a) e) → Avoids (l.mapM f) e
  | [], _ => by simp
  | a :: l, h => by
    rw [List.mapM_cons]
    refine (h a List.mem_cons_self).bind fun b _ => ?_
    have hl : ∀ a' ∈ l, Avoids (f a') e := fun a' ha' => h a' (List.mem_cons_of_mem a ha')
    exact (avoids_mapM l hl).bind fun bs _ => avoids_pure _ _

end Checked
