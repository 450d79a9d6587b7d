import SetProtocol.Lib.Checked

set_option relaxedAutoImplicit false
set_option autoImplicit false

/-!
# Records of what is elsewhere

A system keeps records of things that are not under its control. Some operations write records
anew, so that they hold afterwards, and some events make records out of date. A record that was
written and not made out of date since is one that holds.

## Main definitions

* `Freshness.Refreshes` — an operation writes some records anew, may lose others, and keeps the
  rest.
* `Freshness.History` — operations in a row, with the records that may be out of date.

## Main results

* `Freshness.Refreshes.trans`, `Freshness.Refreshes.foldlM` — one operation after the other.
* `Freshness.History.holds_of_not_stale` — after a history each record holds that is not out of date.
-/

namespace Freshness

universe u

variable {α : Type*} {σ : Type u} {holds : α → σ → Prop} {s t r : σ}
  {fresh fresh' lost lost' stale stale₀ : α → Prop}

/-- After the operation the fresh records hold. The others hold if they did before, but for those
that may be lost. -/
structure Refreshes (holds : α → σ → Prop) (fresh lost : α → Prop) (s t : σ) : Prop where
  /-- These were written. -/
  written : ∀ a, fresh a → holds a t
  /-- These were left alone. -/
  kept : ∀ a, ¬fresh a → ¬lost a → holds a s → holds a t

namespace Refreshes

/-- What writes nothing loses only records that fail afterwards. -/
theorem of_kept (h : ∀ a, ¬lost a → holds a s → holds a t) :
    Refreshes holds (fun _ => False) lost s t :=
  ⟨fun _ ha => ha.elim, fun a _ ha hs => h a ha hs⟩

/-- Doing nothing. -/
theorem refl (s : σ) : Refreshes holds (fun _ => False) (fun _ => False) s s :=
  of_kept fun _ _ hs => hs

/-- A record that the second operation writes is fresh, and one that it loses is not. -/
theorem trans (h : Refreshes holds fresh lost s t) (h' : Refreshes holds fresh' lost' t r) :
    Refreshes holds (fun a => fresh' a ∨ fresh a ∧ ¬lost' a) (fun a => lost a ∨ lost' a) s r := by
  refine ⟨fun a ha => ?_, fun a ha hl hs => ?_⟩
  · by_cases hfresh' : fresh' a
    · exact h'.written a hfresh'
    · obtain ⟨hfresh, hlost'⟩ := ha.resolve_left hfresh'
      exact h'.kept a hfresh' hlost' (h.written a hfresh)
  · obtain ⟨hlost, hlost'⟩ := not_or.mp hl
    obtain ⟨hfresh', hfresh⟩ := not_or.mp ha
    have ht : holds a t := h.kept a (fun hf => hfresh ⟨hf, hlost'⟩) hlost hs
    exact h'.kept a hfresh' hlost' ht

/-- Fewer records may be called fresh, and what is fresh need not be called lost. -/
theorem mono (h : Refreshes holds fresh lost s t) (hfresh : ∀ a, fresh' a → fresh a)
    (hlost : ∀ a, ¬fresh' a → ¬lost' a → ¬lost a) : Refreshes holds fresh' lost' s t := by
  refine ⟨fun a ha => h.written a (hfresh a ha), fun a ha hl hs => ?_⟩
  by_cases hf : fresh a
  · exact h.written a hf
  · exact h.kept a hf (hlost a ha hl) hs

/-- A loop whose rounds each write some records and lose none, by induction on the list. The rounds
may rely on what each of them preserves. -/
theorem foldlM {ε : Type*} {β : Type u} {f : σ → β → Except ε σ} {l : List β} (inv : σ → Prop)
    (key : β → α → Prop)
    (body : ∀ b ∈ l, ∀ s t, inv s → f s b = .ok t →
      inv t ∧ Refreshes holds (key b) (fun _ => False) s t)
    (hs : inv s) (h : l.foldlM f s = .ok t) :
    inv t ∧ Refreshes holds (fun a => ∃ b ∈ l, key b a) (fun _ => False) s t := by
  induction l generalizing s with
  | nil =>
    obtain rfl : s = t := by simpa using h
    exact ⟨hs, (refl s).mono (fun a ⟨_, hb, _⟩ => (List.not_mem_nil hb).elim) fun _ _ hl => hl⟩
  | cons b l ih =>
    obtain ⟨s', hround, hloop⟩ := Checked.foldlM_cons_eq_ok.mp h
    obtain ⟨hs', hround⟩ := body b List.mem_cons_self s s' hs hround
    obtain ⟨ht, hloop⟩ := ih (fun c hc => body c (List.mem_cons_of_mem b hc)) hs' hloop
    refine ⟨ht, (hround.trans hloop).mono (fun a ⟨c, hc, hkey⟩ => ?_) fun _ _ _ hl => ?_⟩
    · rcases List.mem_cons.mp hc with rfl | hc
      · exact .inr ⟨hkey, id⟩
      · exact .inl ⟨c, hc, hkey⟩
    · exact hl.elim id id

end Refreshes

/-! ## Histories -/

/-- Operations in a row. Each is given with the records it writes and those it may lose, and the
history with the records that may be out of date. -/
inductive History (step : (α → Prop) → (α → Prop) → σ → σ → Prop) (stale₀ : α → Prop) (s : σ) :
    (α → Prop) → σ → Prop
  | start : History step stale₀ s stale₀ s
  | next {stale fresh lost : α → Prop} {t r : σ} (history : History step stale₀ s stale t)
      (stepped : step fresh lost t r) :
      History step stale₀ s (fun a => ¬fresh a ∧ (stale a ∨ lost a)) r

/-- What each step preserves is there at the end, and each record holds that is not out of date. -/
theorem History.holds_of_not_stale {step : (α → Prop) → (α → Prop) → σ → σ → Prop} (inv : σ → Prop)
    (keeps : ∀ fresh lost t r, inv t → step fresh lost t r →
      inv r ∧ Refreshes holds fresh lost t r)
    (h : History step stale₀ s stale t) (hinv : inv s) (hs : ∀ a, ¬stale₀ a → holds a s) :
    inv t ∧ ∀ a, ¬stale a → holds a t := by
  induction h with
  | start => exact ⟨hinv, hs⟩
  | @next stale fresh lost t r _ stepped ih =>
    obtain ⟨hinv, hholds⟩ := ih
    obtain ⟨hinv', hrefreshes⟩ := keeps fresh lost t r hinv stepped
    refine ⟨hinv', fun a ha => ?_⟩
    by_cases hfresh : fresh a
    · exact hrefreshes.written a hfresh
    · have hkept : ¬(stale a ∨ lost a) := fun h => ha ⟨hfresh, h⟩
      obtain ⟨hstale, hlost⟩ := not_or.mp hkept
      exact hrefreshes.kept a hfresh hlost (hholds a hstale)

end Freshness
