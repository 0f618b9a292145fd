import Mathlib.Data.Fintype.Card

/-!
# Loops over a finite state

A loop whose next state depends on its state alone, `next : α → Option α`, with `none` where it
ends. Over a finite type it ends within as many rounds as there are states, or never.

## Main results

* `isSome_after`: a loop that is still running after that many rounds never ends.
-/

namespace FiniteLoop

variable {α : Type*} (next : α → Option α)

/-- The state after `n` rounds; `none` once the loop has ended. -/
def after : ℕ → α → Option α
  | 0, a => some a
  | n + 1, a => (next a).bind (after n)

variable {next} {a : α} {m n : ℕ}

theorem after_add (m n : ℕ) (a : α) :
    after next (m + n) a = (after next m a).bind (after next n) := by
  induction m generalizing a with
  | zero => rw [Nat.zero_add, after, Option.bind_some]
  | succ m ih =>
    rw [Nat.succ_add, after, after, Option.bind_assoc]
    congr 1
    funext b
    exact ih b

/-- A loop that has ended stays so. -/
theorem after_eq_none_of_le (h : m ≤ n) (hm : after next m a = none) : after next n a = none := by
  obtain ⟨k, rfl⟩ := Nat.exists_eq_add_of_le h
  rw [after_add, hm, Option.bind_none]

/-- Until a loop ends it meets no state twice. -/
theorem after_injOn {i j : ℕ} (hn : after next n a = none)
    (hmin : ∀ k < n, after next k a ≠ none) (hij : i < j) (hj : j < n) :
    after next i a ≠ after next j a := by
  intro heq
  apply hmin (i + (n - j)) (by omega)
  rw [after_add, heq, ← after_add, Nat.add_sub_cancel' hj.le]
  exact hn

/-- A loop that is still running after as many rounds as there are states never ends. -/
theorem isSome_after [Fintype α] (h : (after next (Fintype.card α) a).isSome = true) (n : ℕ) :
    (after next n a).isSome = true := by
  classical
  by_contra hend
  have hex : ∃ n, after next n a = none := ⟨n, by simpa using hend⟩
  -- the states before the first end are pairwise different
  have hfirst := Nat.find_spec hex
  have hmin : ∀ k < Nat.find hex, after next k a ≠ none := fun k hk => Nat.find_min hex hk
  have hinj : Function.Injective fun k : Fin (Nat.find hex) =>
      (after next k a).get (Option.isSome_iff_ne_none.2 (hmin k k.2)) := by
    intro i j hij
    have heq : after next i a = after next j a := Option.get_inj.1 hij
    rcases Nat.lt_trichotomy i j with hlt | hsame | hgt
    · exact absurd heq (after_injOn hfirst hmin hlt j.2)
    · exact Fin.ext hsame
    · exact absurd heq.symm (after_injOn hfirst hmin hgt i.2)
  have hle : Nat.find hex ≤ Fintype.card α := by
    simpa using Fintype.card_le_of_injective _ hinj
  rw [after_eq_none_of_le hle hfirst] at h
  exact absurd h Bool.false_ne_true

end FiniteLoop
