import Mathlib.Data.Nat.Notation
import RsiDriver.ToMathlib.TransitionSystem

/-!
# Counting the steps of a run

`CountedRun sys G P s n s'` is a run from `s` to `s'` all of whose steps keep to `G`, and `n` of
whose steps are of the kind `P`. A rank that no step raises and every step of the kind `P` lowers
bounds `n`; this is how bounded waiting is shown.

## Main results

* `CountedRun.invariant`: what every step keeps holds at the end;
* `CountedRun.add_rank_le`: the count and the rank left over are at most the rank at the start.
-/

namespace TransitionSystem

variable {S A : Type*} (sys : TransitionSystem S A)

/-- A run whose steps from `t` to `u` by `a` satisfy `G t a u`; the steps with `P t a` are
counted. -/
inductive CountedRun (G : S → A → S → Prop) (P : S → A → Prop) (s : S) : ℕ → S → Prop
  | refl : CountedRun G P s 0 s
  | other {n : ℕ} {t u : S} {a : A} : CountedRun G P s n t → sys.step t a = some u → G t a u →
      ¬ P t a → CountedRun G P s n u
  | counted {n : ℕ} {t u : S} {a : A} : CountedRun G P s n t → sys.step t a = some u → G t a u →
      P t a → CountedRun G P s (n + 1) u

namespace CountedRun

variable {sys} {G : S → A → S → Prop} {P : S → A → Prop} {s s' : S} {n : ℕ}

/-- What every step of the run keeps. -/
theorem invariant (h : sys.CountedRun G P s n s') (Inv : S → Prop) (hs : Inv s)
    (hstep : ∀ t a u, Inv t → sys.step t a = some u → G t a u → Inv u) : Inv s' := by
  induction h with
  | refl => exact hs
  | other _ hst hG _ ih => exact hstep _ _ _ ih hst hG
  | counted _ hst hG _ ih => exact hstep _ _ _ ih hst hG

/-- A rank that no step raises and every counted step lowers. -/
theorem add_rank_le (h : sys.CountedRun G P s n s') (Inv : S → Prop) (hs : Inv s)
    (hstep : ∀ t a u, Inv t → sys.step t a = some u → G t a u → Inv u) (rank : S → ℕ)
    (hle : ∀ t a u, Inv t → sys.step t a = some u → G t a u → rank u ≤ rank t)
    (hlt : ∀ t a u, Inv t → sys.step t a = some u → G t a u → P t a → rank u < rank t) :
    n + rank s' ≤ rank s := by
  induction h with
  | refl => exact Nat.le_of_eq (Nat.zero_add _)
  | other hrun hst hG _ ih =>
    have := hle _ _ _ (hrun.invariant Inv hs hstep) hst hG
    omega
  | counted hrun hst hG hP ih =>
    have := hlt _ _ _ (hrun.invariant Inv hs hstep) hst hG hP
    omega

end CountedRun

end TransitionSystem
