import Mathlib.Data.Nat.Notation
import Mathlib.Data.Set.Defs
import Mathlib.Tactic.TypeStar

/-!
# Labelled transition systems with an executable step

A transition system is a set of initial states and a partial step function: `step s a` is
`some s'` when the action `a` is enabled in `s`, and `none` otherwise. The same function is
replayed on concrete schedules (`run`) and quantified over in invariants (`ReachableVia`).

Runs are restricted by a *discipline* `G : S → A → Prop`, a condition on each step that may
read the state before it. `Reachable` is the unrestricted case.

## Main results

* `ReachableVia.invariant`: what holds initially and is kept by every disciplined step holds
  in every state a disciplined run reaches;
* `reachableVia_of_runVia`: the end state of a replayed schedule is reachable;
* `runVia_potential`: along a replay the output is bounded by a potential that pays for it;
* `RunsTo.head`: a program that is not interrupted, step by step;
* `Simulation.reachable`: a map that matches each step by a run of another system carries
  reachable states to reachable states.
-/

/-- A transition system on states `S` with actions `A`. -/
structure TransitionSystem (S A : Type*) where
  /-- The initial states. -/
  Init : S → Prop
  /-- The partial step function: `none` when the action is not enabled. -/
  step : S → A → Option S

namespace TransitionSystem

variable {S A T B : Type*} (sys : TransitionSystem S A)

/-- States reached by a run whose every step `(s, a)` satisfies the discipline `G`. -/
inductive ReachableVia (G : S → A → Prop) : S → Prop
  | init {s : S} : sys.Init s → ReachableVia G s
  | step {s s' : S} {a : A} :
      ReachableVia G s → G s a → sys.step s a = some s' → ReachableVia G s'

/-- States reached by any run. -/
def Reachable : S → Prop := sys.ReachableVia fun _ _ => True

variable {sys} {G G' : S → A → Prop}

/-- A property that holds initially and is kept by every disciplined step is an invariant of
the disciplined runs. -/
theorem ReachableVia.invariant {s : S} (h : sys.ReachableVia G s) (Inv : S → Prop)
    (hinit : ∀ s, sys.Init s → Inv s)
    (hstep : ∀ s a s', Inv s → G s a → sys.step s a = some s' → Inv s') : Inv s := by
  induction h with
  | init hs => exact hinit _ hs
  | step _ hG hs ih => exact hstep _ _ _ ih hG hs

/-- A weaker discipline reaches more states. -/
theorem ReachableVia.mono {s : S} (h : sys.ReachableVia G s) (hG : ∀ s a, G s a → G' s a) :
    sys.ReachableVia G' s := by
  induction h with
  | init hs => exact .init hs
  | step _ hg hs ih => exact .step ih (hG _ _ hg) hs

/-- Disciplined runs are runs. -/
theorem ReachableVia.reachable {s : S} (h : sys.ReachableVia G s) : sys.Reachable s :=
  h.mono fun _ _ _ => trivial

/-! ## Replaying a schedule -/

variable (sys)

/-- Replay a schedule from `s`; `none` if an action is not enabled. -/
def run (s : S) : List A → Option S
  | [] => some s
  | a :: as => (sys.step s a).bind fun s' => run s' as

/-- Replay a schedule from `s`; `none` if an action is not enabled or breaks the discipline. -/
def runVia (G : S → A → Prop) [∀ s a, Decidable (G s a)] (s : S) : List A → Option S
  | [] => some s
  | a :: as => if G s a then (sys.step s a).bind fun s' => runVia G s' as else none

@[simp]
theorem run_nil (s : S) : sys.run s [] = some s := rfl

@[simp]
theorem run_cons (s : S) (a : A) (as : List A) :
    sys.run s (a :: as) = (sys.step s a).bind fun s' => sys.run s' as := rfl

variable {sys}

/-- Replay under the discipline, started in a reachable state, stays reachable. -/
theorem ReachableVia.runVia [∀ s a, Decidable (G s a)] {s s' : S} {as : List A}
    (hs : sys.ReachableVia G s) (h : sys.runVia G s as = some s') : sys.ReachableVia G s' := by
  induction as generalizing s with
  | nil =>
    obtain rfl : s = s' := by simpa [TransitionSystem.runVia] using h
    exact hs
  | cons a as ih =>
    by_cases hG : G s a
    · cases hstep : sys.step s a with
      | none => simp [TransitionSystem.runVia, hG, hstep] at h
      | some t =>
        refine ih (.step hs hG hstep) ?_
        simpa [TransitionSystem.runVia, hG, hstep] using h
    · simp [TransitionSystem.runVia, hG] at h

/-- What a disciplined replay puts out is paid from a potential, if every step pays for what it puts
out. -/
theorem runVia_potential [∀ s a, Decidable (G s a)] (Inv : S → Prop) (out potential : S → ℕ)
    (hstep : ∀ s a s', Inv s → G s a → sys.step s a = some s' →
      Inv s' ∧ out s' + potential s' ≤ out s + potential s)
    {s s' : S} {as : List A} (hs : Inv s) (h : sys.runVia G s as = some s') :
    out s' + potential s' ≤ out s + potential s := by
  induction as generalizing s with
  | nil =>
    obtain rfl : s = s' := by simpa [TransitionSystem.runVia] using h
    exact Nat.le_refl _
  | cons a as ih =>
    by_cases hG : G s a
    · cases ha : sys.step s a with
      | none => simp [TransitionSystem.runVia, hG, ha] at h
      | some t =>
        obtain ⟨ht, hle⟩ := hstep s a t hs hG ha
        exact Nat.le_trans (ih ht (by simpa [TransitionSystem.runVia, hG, ha] using h)) hle
    · simp [TransitionSystem.runVia, hG] at h

/-- The end state of a disciplined replay from an initial state is reachable. -/
theorem reachableVia_of_runVia [∀ s a, Decidable (G s a)] {s s' : S} {as : List A}
    (hs : sys.Init s) (h : sys.runVia G s as = some s') : sys.ReachableVia G s' :=
  (ReachableVia.init hs).runVia h

/-- A schedule that can be replayed under the discipline ends in a reachable state. -/
theorem reachableVia_get [∀ s a, Decidable (G s a)] {s : S} {as : List A} (hs : sys.Init s)
    (h : (sys.runVia G s as).isSome = true) :
    sys.ReachableVia G ((sys.runVia G s as).get h) :=
  reachableVia_of_runVia hs (Option.some_get h).symm

/-- Replay started in a reachable state stays reachable. -/
theorem Reachable.run {s s' : S} {as : List A} (hs : sys.Reachable s)
    (h : sys.run s as = some s') : sys.Reachable s' := by
  induction as generalizing s with
  | nil =>
    obtain rfl : s = s' := by simpa using h
    exact hs
  | cons a as ih =>
    cases hstep : sys.step s a with
    | none => simp [hstep] at h
    | some t => exact ih (.step hs trivial hstep) (by simpa [hstep] using h)

/-- The end state of a replay from an initial state is reachable. -/
theorem reachable_of_run {s s' : S} {as : List A} (hs : sys.Init s)
    (h : sys.run s as = some s') : sys.Reachable s' :=
  Reachable.run (.init hs) h

/-- A schedule that can be replayed ends in a reachable state. -/
theorem reachable_get {s : S} {as : List A} (hs : sys.Init s) (h : (sys.run s as).isSome = true) :
    sys.Reachable ((sys.run s as).get h) :=
  reachable_of_run hs (Option.some_get h).symm

/-- A property fails in some reachable state once a replay ends in a state where it fails. -/
theorem not_forall_reachable_of_run {P : S → Prop} {s : S} (as : List A) (hs : sys.Init s)
    (h : (sys.run s as).isSome = true) (hP : ¬ P ((sys.run s as).get h)) :
    ¬ ∀ t, sys.Reachable t → P t :=
  fun hall => hP (hall _ (reachable_get hs h))

/-! ## One program without interruption -/

variable (sys) in
/-- Repeated steps of one program, the action `a`, lead from `s` to `s'`. -/
def RunsTo (a : A) (s s' : S) : Prop := ∃ n, sys.run s (List.replicate n a) = some s'

theorem RunsTo.refl (a : A) (s : S) : sys.RunsTo a s s := ⟨0, rfl⟩

theorem RunsTo.head {a : A} {s t s' : S} (hstep : sys.step s a = some t)
    (h : sys.RunsTo a t s') : sys.RunsTo a s s' := by
  obtain ⟨n, hn⟩ := h
  exact ⟨n + 1, by rw [List.replicate_succ, run_cons, hstep, Option.bind_some, hn]⟩

/-! ## Simulation -/

/-- `f` matches every step of `sys` (under the discipline `G`) by a finite run of `abs`. -/
structure Simulation (sys : TransitionSystem S A) (G : S → A → Prop)
    (abs : TransitionSystem T B) (f : S → T) : Prop where
  /-- Initial states map to initial states. -/
  init : ∀ s, sys.Init s → abs.Init (f s)
  /-- Each step is matched by a schedule of the abstract system. -/
  step : ∀ s a s', G s a → sys.step s a = some s' → ∃ bs, abs.run (f s) bs = some (f s')

/-- A simulation maps the states of disciplined runs to reachable abstract states. -/
theorem Simulation.reachable {abs : TransitionSystem T B} {f : S → T}
    (sim : Simulation sys G abs f) {s : S} (h : sys.ReachableVia G s) :
    abs.Reachable (f s) := by
  induction h with
  | init hs => exact .init (sim.init _ hs)
  | step _ hG hs ih =>
    obtain ⟨bs, hbs⟩ := sim.step _ _ _ hG hs
    exact ih.run hbs

end TransitionSystem
