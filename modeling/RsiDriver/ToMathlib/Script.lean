import Mathlib.Data.Nat.Notation
import Mathlib.Tactic.TypeStar

/-!
# Scripts that end with their first failure

A script is a list of actions that are performed one after the other. Whether an action fails may
depend on how many were performed before it. An action that fails is still performed, and it is the
last one.

## Main results

* `perform_append`: a script in two parts;
* `perform_of_succeeds`: a script that succeeds was performed as a whole;
* `exists_take_perform`: what was performed is the beginning of the script;
* `perform_failure_last`: nothing follows a failure.
-/

namespace Script

variable {A : Type*} (fails : ℕ → A → Bool)

/-- The actions performed so far, continued by a script, and whether all of the script succeeded. -/
def perform (done : List A) : List A → List A × Bool
  | [] => (done, true)
  | a :: as => if fails done.length a then (done ++ [a], false) else perform (done ++ [a]) as

@[simp]
theorem perform_nil (done : List A) : perform fails done [] = (done, true) := rfl

variable {fails} {done : List A}

theorem perform_cons_of_fails {a : A} (as : List A) (h : fails done.length a = true) :
    perform fails done (a :: as) = (done ++ [a], false) := by
  rw [perform, if_pos h]

theorem perform_cons_of_not_fails {a : A} (as : List A) (h : fails done.length a = false) :
    perform fails done (a :: as) = perform fails (done ++ [a]) as := by
  rw [perform, if_neg (Bool.eq_false_iff.1 h)]

/-- The second part of a script is performed if the first one succeeds. -/
theorem perform_append (done as bs : List A) :
    perform fails done (as ++ bs) =
      if (perform fails done as).2 then perform fails (perform fails done as).1 bs
      else perform fails done as := by
  induction as generalizing done with
  | nil => rfl
  | cons a as ih =>
    cases h : fails done.length a with
    | true => simp [perform_cons_of_fails _ h]
    | false => simp only [List.cons_append, perform_cons_of_not_fails _ h, ih]

/-- A script that succeeds was performed as a whole. -/
theorem perform_of_succeeds {as : List A} (h : (perform fails done as).2 = true) :
    (perform fails done as).1 = done ++ as := by
  induction as generalizing done with
  | nil => simp
  | cons a as ih =>
    cases hfail : fails done.length a with
    | true => simp [perform_cons_of_fails _ hfail] at h
    | false =>
      rw [perform_cons_of_not_fails _ hfail] at h ⊢
      rw [ih h, List.append_assoc]
      rfl

/-- What was performed is the beginning of the script. -/
theorem exists_take_perform (fails : ℕ → A → Bool) (done as : List A) :
    ∃ k, (perform fails done as).1 = done ++ as.take k := by
  induction as generalizing done with
  | nil => exact ⟨0, by simp⟩
  | cons a as ih =>
    cases hfail : fails done.length a with
    | true => exact ⟨1, by simp [perform_cons_of_fails _ hfail]⟩
    | false =>
      obtain ⟨k, hk⟩ := ih (done ++ [a])
      refine ⟨k + 1, ?_⟩
      rw [perform_cons_of_not_fails _ hfail, hk, List.append_assoc, List.take_succ_cons]
      rfl

/-- Something of a script that is not empty is performed. -/
theorem perform_ne_nil {as : List A} (h : as ≠ []) : (perform fails done as).1 ≠ done := by
  cases as with
  | nil => exact absurd rfl h
  | cons a as =>
    cases hfail : fails done.length a with
    | true => simp [perform_cons_of_fails _ hfail]
    | false =>
      obtain ⟨k, hk⟩ := exists_take_perform fails (done ++ [a]) as
      rw [perform_cons_of_not_fails _ hfail, hk]
      simp

/-- An action behind the given ones that fails is the last one that is performed. -/
theorem perform_failure_last {as pre post : List A} {a : A}
    (h : (perform fails done as).1 = pre ++ a :: post) (hpre : done.length ≤ pre.length)
    (ha : fails pre.length a = true) : post = [] ∧ (perform fails done as).2 = false := by
  induction as generalizing done with
  | nil =>
    -- the action would be one of those before
    have hlength : done.length = (pre ++ a :: post).length := congrArg List.length h
    rw [List.length_append, List.length_cons] at hlength
    omega
  | cons b as ih =>
    cases hfail : fails done.length b with
    | true =>
      rw [perform_cons_of_fails _ hfail] at h ⊢
      have hlength := congrArg List.length h
      simp only [List.length_append, List.length_cons, List.length_nil] at hlength
      exact ⟨List.eq_nil_of_length_eq_zero (by omega), rfl⟩
    | false =>
      rw [perform_cons_of_not_fails _ hfail] at h ⊢
      obtain ⟨k, hk⟩ := exists_take_perform fails (done ++ [b]) as
      by_cases hlen : pre.length = done.length
      · -- it would be `b`, which does not fail
        have hget : (pre ++ a :: post)[pre.length]? = some a := by simp
        rw [← h, hk, hlen] at hget
        obtain rfl : b = a := by simpa using hget
        rw [hlen, hfail] at ha
        exact absurd ha Bool.false_ne_true
      · refine ih h ?_
        rw [List.length_append, List.length_singleton]
        omega

end Script
