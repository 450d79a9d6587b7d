import SetProtocol.Lib.Checked

set_option relaxedAutoImplicit false
set_option autoImplicit false

/-!
# Two programs that may revert, side by side

Two programs agree when both revert, or both return and their values are related. The reasons of
reverting are not compared. This file has the rules by which the agreement of two programs follows
from that of their parts, and two rules for loops that do the same work in a different order.

## Main definitions

* `Lockstep.Agree` — both programs revert, or both return related values.

## Main results

* `Lockstep.Agree.bind` — sequences agree when their parts do; `Lockstep.agree_bind_same` is for
  sequences that begin alike.
* `Lockstep.Agree.foldlM`, `Lockstep.Agree.mapM` — loops agree when their rounds do.
* `Lockstep.agree_mapM_mapM` — one mapping loop with two bodies, and two in a row.
* `Lockstep.agree_foldlM_mapM` — a loop that computes values on its way, and one that computes all
  of them first.
-/

namespace Lockstep

open Checked

universe u

variable {ε : Type*} {α β γ δ σ τ : Type u} {R : α → β → Prop}

/-- Both programs revert, or both return and their values are related. -/
def Agree (R : α → β → Prop) (x : Except ε α) (y : Except ε β) : Prop :=
  match x, y with
  | .ok a, .ok b => R a b
  | .error _, .error _ => True
  | .ok _, .error _ => False
  | .error _, .ok _ => False

variable {x : Except ε α} {y : Except ε β} {z : Except ε γ}

/-! ## Single programs -/

@[simp] theorem agree_ok {a : α} {b : β} :
    Agree R (.ok a : Except ε α) (.ok b) ↔ R a b := Iff.rfl

/-- A program that returns agrees with a program that returns a related value. -/
theorem Agree.of_eq_ok {a : α} {b : β} (hx : x = .ok a) (hy : y = .ok b) (h : R a b) :
    Agree R x y := by
  rw [hx, hy]
  exact h

/-- Programs agree when each value of one of them comes with a related value of the other. -/
theorem agree_iff :
    Agree R x y ↔ (∀ a, x = .ok a → ∃ b, y = .ok b ∧ R a b) ∧
      ∀ b, y = .ok b → ∃ a, x = .ok a ∧ R a b := by
  cases x with
  | ok a =>
    cases y with
    | ok b => simp [Agree]
    | error e => simp [Agree]
  | error e =>
    cases y with
    | ok b => simp [Agree]
    | error e' => simp [Agree]

/-- Programs that return the same values agree. -/
theorem agree_eq_iff {y : Except ε α} : Agree Eq x y ↔ ∀ a, x = .ok a ↔ y = .ok a := by
  rw [agree_iff]
  constructor
  · rintro ⟨h₁, h₂⟩ a
    constructor
    · intro h
      obtain ⟨_, hy, rfl⟩ := h₁ a h
      exact hy
    · intro h
      obtain ⟨_, hx, rfl⟩ := h₂ a h
      exact hx
  · intro h
    exact ⟨fun a ha => ⟨a, (h a).mp ha, rfl⟩, fun a ha => ⟨a, (h a).mpr ha, rfl⟩⟩

/-- A program agrees with itself. -/
theorem Agree.refl {R : α → α → Prop} (h : ∀ a, R a a) (x : Except ε α) : Agree R x x := by
  cases x with
  | ok a => exact h a
  | error e => trivial

/-- The values may be less related. -/
theorem Agree.mono {S : α → β → Prop} (h : Agree R x y) (hS : ∀ a b, R a b → S a b) :
    Agree S x y := by
  rw [agree_iff] at h ⊢
  refine ⟨fun a ha => ?_, fun b hb => ?_⟩
  · obtain ⟨b, hb, hab⟩ := h.1 a ha
    exact ⟨b, hb, hS a b hab⟩
  · obtain ⟨a, ha, hab⟩ := h.2 b hb
    exact ⟨a, ha, hS a b hab⟩

/-- Agreement can be read from right to left. -/
theorem Agree.symm (h : Agree R x y) : Agree (fun b a => R a b) y x := by
  rw [agree_iff] at h ⊢
  exact ⟨h.2, h.1⟩

/-- What holds of the values of the first program may be added. -/
theorem Agree.and_left {P : α → Prop} (h : Agree R x y) (hP : ∀ a, x = .ok a → P a) :
    Agree (fun a b => R a b ∧ P a) x y := by
  rw [agree_iff] at h ⊢
  refine ⟨fun a ha => ?_, fun b hb => ?_⟩
  · obtain ⟨b, hb, hab⟩ := h.1 a ha
    exact ⟨b, hb, hab, hP a ha⟩
  · obtain ⟨a, ha, hab⟩ := h.2 b hb
    exact ⟨a, ha, hab, hP a ha⟩

/-- A program between two others. -/
theorem Agree.trans {S : β → γ → Prop} {T : α → γ → Prop} (h₁ : Agree R x y) (h₂ : Agree S y z)
    (hT : ∀ a b c, R a b → S b c → T a c) : Agree T x z := by
  rw [agree_iff] at h₁ h₂ ⊢
  refine ⟨fun a ha => ?_, fun c hc => ?_⟩
  · obtain ⟨b, hb, hab⟩ := h₁.1 a ha
    obtain ⟨c, hc, hbc⟩ := h₂.1 b hb
    exact ⟨c, hc, hT a b c hab hbc⟩
  · obtain ⟨b, hb, hbc⟩ := h₂.2 c hc
    obtain ⟨a, ha, hab⟩ := h₁.2 b hb
    exact ⟨a, ha, hT a b c hab hbc⟩

/-- A program may be replaced by one that returns the same values. -/
theorem Agree.eq_left {x' : Except ε α} (hx : Agree Eq x x') (h : Agree R x' y) : Agree R x y :=
  hx.trans h fun _ _ _ ha hb => ha ▸ hb

/-- So may the other one. -/
theorem Agree.eq_right {y' : Except ε β} (h : Agree R x y') (hy : Agree Eq y' y) : Agree R x y :=
  h.trans hy fun _ _ _ ha hb => hb ▸ ha

/-- Programs that return the same values do so in either order. -/
theorem Agree.symm_eq {x' : Except ε α} (h : Agree Eq x x') : Agree Eq x' x :=
  h.symm.mono fun _ _ => Eq.symm

/-- Requirements agree when their conditions hold together. -/
theorem agree_require {p q : Prop} [Decidable p] [Decidable q] {e e' : ε} (h : p ↔ q) :
    Agree (fun _ _ => True) (require p e) (require q e') := by
  rw [agree_iff]
  simp [h]

/-- Sequences agree when their first parts do, and the rests do on related values. -/
theorem Agree.bind {S : γ → δ → Prop} {f : α → Except ε γ} {g : β → Except ε δ}
    (hx : Agree R x y)
    (hf : ∀ a b, x = .ok a → y = .ok b → R a b → Agree S (f a) (g b)) :
    Agree S (x >>= f) (y >>= g) := by
  cases x with
  | ok a =>
    cases y with
    | ok b => exact hf a b rfl rfl hx
    | error e => exact hx.elim
  | error e =>
    cases y with
    | ok b => exact hx.elim
    | error e' => trivial

/-- Sequences agree when their first parts return the same, and the rests agree on it. -/
theorem Agree.bind_eq {S : γ → δ → Prop} {x' : Except ε α} {f : α → Except ε γ} {g : α → Except ε δ}
    (hx : Agree Eq x x') (hf : ∀ a, x = .ok a → Agree S (f a) (g a)) :
    Agree S (x >>= f) (x' >>= g) := by
  refine hx.bind fun a a' ha _ h => ?_
  subst h
  exact hf a ha

/-- Sequences that begin alike agree when the rests do. -/
theorem agree_bind_same {S : γ → δ → Prop} {f : α → Except ε γ} {g : α → Except ε δ}
    (hf : ∀ a, x = .ok a → Agree S (f a) (g a)) : Agree S (x >>= f) (x >>= g) :=
  (Agree.refl (fun _ => rfl) x).bind_eq hf

/-- A part that returns counts for nothing but its value. -/
theorem Agree.bind_right {g : γ → Except ε β} {c : γ} (hz : z = .ok c) (h : Agree R x (g c)) :
    Agree R x (z >>= g) := by
  rw [hz]
  exact h

/-- A part that returns what it is given may be left out at the end. -/
theorem agree_bind_self {f : α → Except ε α} (h : ∀ a, x = .ok a → f a = .ok a) :
    Agree Eq x (x >>= f) := by
  cases hx : x with
  | ok a => exact Agree.of_eq_ok rfl (h a hx) rfl
  | error e => trivial

/-! ## Loops -/

/-- Loops agree when their rounds, on related elements, keep their states related. -/
theorem Agree.foldlM {P : α → β → Prop} {S : σ → τ → Prop} {f : σ → α → Except ε σ}
    {g : τ → β → Except ε τ} {l : List α} {l' : List β} (hl : List.Forall₂ P l l')
    (hround : ∀ a b s t, P a b → S s t → Agree S (f s a) (g t b)) {s : σ} {t : τ} (h : S s t) :
    Agree S (l.foldlM f s) (l'.foldlM g t) := by
  induction hl generalizing s t with
  | nil => exact h
  | cons hab _ ih =>
    rw [List.foldlM_cons, List.foldlM_cons]
    exact (hround _ _ s t hab h).bind fun s' t' _ _ h' => ih h'

/-- Mapping loops agree when their rounds do. -/
theorem Agree.mapM {P : α → β → Prop} {Q : γ → δ → Prop} {f : α → Except ε γ} {g : β → Except ε δ}
    {l : List α} {l' : List β} (hl : List.Forall₂ P l l')
    (hround : ∀ a b, P a b → Agree Q (f a) (g b)) :
    Agree (List.Forall₂ Q) (l.mapM f) (l'.mapM g) := by
  induction hl with
  | nil => exact List.Forall₂.nil
  | cons hab _ ih =>
    rw [List.mapM_cons, List.mapM_cons]
    refine (hround _ _ hab).bind fun c d _ _ hcd => ih.bind fun cs ds _ _ hs => ?_
    exact List.Forall₂.cons hcd hs

/-- The elements of a list, each next to itself. -/
theorem forall₂_self (l : List α) : List.Forall₂ (fun a b => a = b ∧ a ∈ l) l l :=
  List.forall₂_same.mpr fun _ ha => ⟨rfl, ha⟩

/-- Mapping loops return the same when their rounds do. -/
theorem agree_mapM_of_mem {f g : α → Except ε β} {l : List α}
    (h : ∀ a ∈ l, Agree Eq (f a) (g a)) : Agree Eq (l.mapM f) (l.mapM g) := by
  have hrounds : Agree (List.Forall₂ Eq) (l.mapM f) (l.mapM g) := by
    refine Agree.mapM (forall₂_self l) ?_
    rintro a _ ⟨rfl, ha⟩
    exact h a ha
  refine hrounds.mono fun r r' hr => ?_
  rwa [List.forall₂_eq_eq_eq] at hr

/-- A mapping loop with two bodies does what two mapping loops in a row do. -/
theorem agree_mapM_mapM {f : α → Except ε β} {g : β → Except ε γ} (l : List α) :
    Agree Eq (l.mapM fun a => f a >>= g) (l.mapM f >>= fun r => r.mapM g) := by
  rw [agree_eq_iff]
  induction l with
  | nil => simp
  | cons a l ih =>
    intro cs
    simp only [List.mapM_cons, bind_eq_ok, pure_eq_ok]
    symm
    constructor
    · rintro ⟨_, ⟨b, hb, bs, hbs, rfl⟩, hcs⟩
      simp only [List.mapM_cons, bind_eq_ok, pure_eq_ok] at hcs
      obtain ⟨c, hc, rest, hrest, rfl⟩ := hcs
      exact ⟨c, ⟨b, hb, hc⟩, rest, (ih rest).mpr (bind_eq_ok.mpr ⟨bs, hbs, hrest⟩), rfl⟩
    · rintro ⟨c, ⟨b, hb, hc⟩, rest, hrest, rfl⟩
      obtain ⟨bs, hbs, hrest⟩ := bind_eq_ok.mp ((ih rest).mp hrest)
      refine ⟨b :: bs, ⟨b, hb, bs, hbs, rfl⟩, ?_⟩
      simp only [List.mapM_cons, bind_eq_ok, pure_eq_ok]
      exact ⟨c, hc, rest, hrest, rfl⟩

/-- A loop that computes the value of each element before it uses it does what a mapping loop
followed by a loop over its results does: the values do not depend on the state. -/
theorem agree_foldlM_mapM {f : α → Except ε β} {g : σ → β → Except ε σ} (l : List α) (s : σ) :
    Agree Eq (l.foldlM (fun s a => f a >>= fun b => g s b) s)
      (l.mapM f >>= fun r => r.foldlM g s) := by
  rw [agree_eq_iff]
  induction l generalizing s with
  | nil => simp
  | cons a l ih =>
    intro t
    simp only [List.mapM_cons, List.foldlM_cons, bind_eq_ok, pure_eq_ok]
    symm
    constructor
    · rintro ⟨_, ⟨b, hb, bs, hbs, rfl⟩, ht⟩
      obtain ⟨s', hs', ht⟩ := foldlM_cons_eq_ok.mp ht
      exact ⟨s', ⟨b, hb, hs'⟩, (ih s' t).mpr (bind_eq_ok.mpr ⟨bs, hbs, ht⟩)⟩
    · rintro ⟨s', ⟨b, hb, hs'⟩, ht⟩
      obtain ⟨bs, hbs, ht⟩ := bind_eq_ok.mp ((ih s' t).mp ht)
      exact ⟨b :: bs, ⟨b, hb, bs, hbs, rfl⟩, foldlM_cons_eq_ok.mpr ⟨s', hs', ht⟩⟩

end Lockstep
