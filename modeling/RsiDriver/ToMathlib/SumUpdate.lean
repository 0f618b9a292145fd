import Mathlib.Algebra.GroupWithZero.Nat
import Mathlib.Data.Nat.Notation
import Mathlib.Logic.Function.Basic
import Mathlib.Tactic.TypeStar

/-!
# Sums over the places of a function

A store with several places is a function `f : α → β`, and a quantity such as "how often does `x`
occur in the store" is a sum of `g (f i)` over a list of places. An operation on one place changes
the sum by what that place gains or loses.

## Main results

* `sum_map_comp_update`: the effect of replacing the contents of one place.
-/

/-- Replacing the contents of one of several distinct places. -/
theorem sum_map_comp_update {α β : Type*} [DecidableEq α] {l : List α} (hl : l.Nodup) {i : α}
    (hi : i ∈ l) (f : α → β) (b : β) (g : β → ℕ) :
    (l.map fun j => g (Function.update f i b j)).sum + g (f i) =
      (l.map fun j => g (f j)).sum + g b := by
  induction l with
  | nil => cases hi
  | cons j l ih =>
    obtain ⟨hj, hl'⟩ := List.nodup_cons.1 hl
    by_cases hij : i = j
    · subst hij
      -- the place occurs once, so the rest of the sum is unchanged
      have hrest : (l.map fun k => g (Function.update f i b k)) = l.map fun k => g (f k) := by
        refine List.map_congr_left fun k hk => ?_
        have hne : k ≠ i := by
          rintro rfl
          exact hj hk
        rw [Function.update_of_ne hne]
      simp only [List.map_cons, List.sum_cons, Function.update_self, hrest]
      omega
    · have hmem : i ∈ l := (List.mem_cons.1 hi).resolve_left hij
      have hih := ih hl' hmem
      simp only [List.map_cons, List.sum_cons, Function.update_of_ne (Ne.symm hij)]
      omega

/-- Replacing the contents of one of finitely many places. -/
theorem sum_finRange_comp_update {n : ℕ} {β : Type*} (i : Fin n) (f : Fin n → β) (b : β)
    (g : β → ℕ) :
    ((List.finRange n).map fun j => g (Function.update f i b j)).sum + g (f i) =
      ((List.finRange n).map fun j => g (f j)).sum + g b :=
  sum_map_comp_update (List.nodup_finRange n) (List.mem_finRange i) f b g
