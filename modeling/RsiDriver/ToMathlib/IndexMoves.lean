import Mathlib.Data.Nat.Notation
import Mathlib.Logic.Function.Basic

/-!
# Moving entries of one array to another

A program that fills an array from another one is described by its moves, the pairs of the index
that is written and the index that is read. `IndexMoves.apply` carries the moves out one after the
other, and `IndexMoves.Within` says that no index is out of range.

## Main results

* `apply_segment`: the entries `s, s + 1, …` put at `0, 1, …` in this order;
* `segment_succ`: a segment grows at its end.
-/

/-- The indices that are written and read, in the order of the moves. -/
abbrev IndexMoves := List (ℕ × ℕ)

namespace IndexMoves

variable {α : Type*}

/-- The array `dst` after the moves out of `src`. -/
def apply (src : ℕ → α) (l : IndexMoves) (dst : ℕ → α) : ℕ → α :=
  l.foldl (fun m p => Function.update m p.1 (src p.2)) dst

/-- Every move writes below `room` and reads below `size`. -/
def Within (room size : ℕ) (l : IndexMoves) : Prop := ∀ p ∈ l, p.1 < room ∧ p.2 < size

instance (room size : ℕ) (l : IndexMoves) : Decidable (l.Within room size) :=
  inferInstanceAs (Decidable (∀ p ∈ l, p.1 < room ∧ p.2 < size))

/-- `n` entries from the index `s` on are put at the beginning. -/
def segment (s n : ℕ) : IndexMoves := (List.range n).map fun i => (i, s + i)

variable {src dst : ℕ → α} {l l' : IndexMoves} {room size s n : ℕ}

theorem apply_append : apply src (l ++ l') dst = apply src l' (apply src l dst) :=
  List.foldl_append

@[simp]
theorem within_nil : Within room size [] := by simp [Within]

@[simp]
theorem within_append : Within room size (l ++ l') ↔ l.Within room size ∧ l'.Within room size :=
  List.forall_mem_append

theorem segment_succ (s n : ℕ) : segment s (n + 1) = segment s n ++ [(n, s + n)] := by
  simp [segment, List.range_succ]

/-- What a segment leaves behind. -/
theorem apply_segment (src dst : ℕ → α) (s n j : ℕ) :
    apply src (segment s n) dst j = if j < n then src (s + j) else dst j := by
  induction n with
  | zero => simp [segment, apply]
  | succ n ih =>
    rw [segment_succ, apply_append]
    change Function.update (apply src (segment s n) dst) n (src (s + n)) j = _
    by_cases hj : j = n
    · -- the entry that was moved last
      subst hj
      simp
    · rw [Function.update_of_ne hj, ih]
      have hlt : j < n ↔ j < n + 1 := by omega
      simp only [hlt]

theorem within_segment : (segment s n).Within room size ↔ n = 0 ∨ n ≤ room ∧ s + n ≤ size := by
  constructor
  · intro h
    cases n with
    | zero => exact .inl rfl
    | succ n =>
      have hlast : (n, s + n) ∈ segment s (n + 1) := by rw [segment_succ]; simp
      have := h _ hlast
      dsimp only at this
      omega
  · intro h p hp
    obtain ⟨i, hi, rfl⟩ := List.mem_map.1 hp
    have := List.mem_range.1 hi
    dsimp only
    omega

end IndexMoves
