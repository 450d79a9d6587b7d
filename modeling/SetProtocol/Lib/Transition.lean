import Mathlib.Tactic.SplitIfs
import SetProtocol.Lib.Checked

set_option relaxedAutoImplicit false
set_option autoImplicit false

/-!
# Runs of a system of fallible actions

A system is given by `step : action → state → Except ε state`. A step that reverts leaves the
state as it was, so the runs of the system are the sequences of its successful steps.

## Main definitions

* `Transition.ReachWhen` — reachability by successful actions that each meet a guard in the state
  before them; `Transition.Reach` is the case without a guard.
* `Transition.runAll` — a list of actions, run in order.
* `Transition.attemptAll` — a list of actions, each of which may revert.
* `Transition.guarded` — the step that reverts where the guard is not met.

## Main results

* `Transition.ReachWhen.invariant` — a property that holds initially and is preserved by each
  guarded step holds in every state so reached.
* `Transition.reachWhen_of_runAll` — running a list of actions, each tested against the guard,
  reaches its final state.
-/

namespace Transition

universe u

variable {ε : Type*} {σ α : Type u} {step : α → σ → Except ε σ} {guard : α → σ → Prop}

/-- The states reached from `s` by successful actions, each of which meets `guard` in the state
before it. -/
inductive ReachWhen (step : α → σ → Except ε σ) (guard : α → σ → Prop) (s : σ) : σ → Prop
  | start : ReachWhen step guard s s
  | next {t t' : σ} (a : α) (reached : ReachWhen step guard s t) (met : guard a t)
      (stepped : step a t = .ok t') : ReachWhen step guard s t'

/-- The states reached from `s` by successful actions. -/
abbrev Reach (step : α → σ → Except ε σ) : σ → σ → Prop := ReachWhen step fun _ _ => True

/-- An inductive invariant of the guarded steps holds in every state they reach. -/
theorem ReachWhen.invariant (I : σ → Prop)
    (preserved : ∀ a t t', I t → guard a t → step a t = .ok t' → I t') {s t : σ}
    (reached : ReachWhen step guard s t) (initial : I s) : I t := by
  induction reached with
  | start => exact initial
  | next a _ met stepped ih => exact preserved a _ _ ih met stepped

/-- Run the actions of a list in order. -/
def runAll (step : α → σ → Except ε σ) (actions : List α) (s : σ) : Except ε σ :=
  actions.foldlM (fun t a => step a t) s

/-- Try the actions of a list in order. One that reverts leaves the state as it was. -/
def attemptAll (step : α → σ → Except ε σ) (actions : List α) (s : σ) : σ :=
  actions.foldl (fun t a =>
    match step a t with
    | .ok t' => t'
    | .error _ => t) s

/-- What holds initially, and is preserved by the actions of the list that succeed, holds after all
of them were tried. -/
theorem attemptAll_invariant (I : σ → Prop) {actions : List α}
    (preserved : ∀ a ∈ actions, ∀ t t', I t → step a t = .ok t' → I t') {s : σ} (initial : I s) :
    I (attemptAll step actions s) := by
  induction actions generalizing s with
  | nil => exact initial
  | cons a actions ih =>
    have hrest : ∀ b ∈ actions, ∀ t t', I t → step b t = .ok t' → I t' :=
      fun b hb => preserved b (List.mem_cons_of_mem a hb)
    unfold attemptAll at ih ⊢
    rw [List.foldl_cons]
    apply ih hrest
    split
    · rename_i t' h
      exact preserved a List.mem_cons_self s t' initial h
    · exact initial

/-- The step that reverts where the guard is not met. -/
def guarded (step : α → σ → Except ε σ) (guard : α → σ → Prop) [∀ a s, Decidable (guard a s)]
    (reason : ε) (a : α) (s : σ) : Except ε σ :=
  if guard a s then step a s else .error reason

/-- Running a list of actions reaches its final state. -/
theorem reach_of_runAll {actions : List α} {s t : σ} (h : runAll step actions s = .ok t) :
    Reach step s t :=
  Checked.foldlM_preserves (Reach step s)
    (fun a _ _ _ reached stepped => ReachWhen.next a reached trivial stepped) .start h

/-- A guarded step that succeeds is a step that succeeds. -/
theorem of_guarded_eq_ok [∀ a s, Decidable (guard a s)] {reason : ε} {a : α} {s t : σ}
    (h : guarded step guard reason a s = .ok t) : guard a s ∧ step a s = .ok t := by
  unfold guarded at h
  split_ifs at h with met
  exact ⟨met, h⟩

/-- A run whose actions all pass the test is a run. -/
theorem runAll_of_guarded [∀ a s, Decidable (guard a s)] {reason : ε} {actions : List α}
    {s t : σ} (h : runAll (guarded step guard reason) actions s = .ok t) :
    runAll step actions s = .ok t := by
  induction actions generalizing s with
  | nil => exact h
  | cons a actions ih =>
    obtain ⟨s', h₁, h₂⟩ := Checked.foldlM_cons_eq_ok.mp h
    exact Checked.foldlM_cons_eq_ok.mpr ⟨s', (of_guarded_eq_ok h₁).2, ih h₂⟩

/-- Running a list of actions, each tested against the guard, reaches its final state. -/
theorem reachWhen_of_runAll [∀ a s, Decidable (guard a s)] {reason : ε} {actions : List α}
    {s t : σ} (h : runAll (guarded step guard reason) actions s = .ok t) :
    ReachWhen step guard s t := by
  refine Checked.foldlM_preserves (ReachWhen step guard s) (fun a _ t t' reached h => ?_) .start h
  obtain ⟨met, stepped⟩ := of_guarded_eq_ok h
  exact .next a reached met stepped

/-- So does running a list of actions that meet the guard in all states. -/
theorem reachWhen_of_forall {actions : List α} {s t : σ} (met : ∀ a ∈ actions, ∀ s, guard a s)
    (h : runAll step actions s = .ok t) : ReachWhen step guard s t :=
  Checked.foldlM_preserves (ReachWhen step guard s)
    (fun a ha _ _ reached stepped => .next a reached (met a ha _) stepped) .start h

end Transition
