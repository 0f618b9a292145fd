import Mathlib.Data.List.Basic
import Mathlib.Tactic.TypeStar
import RsiDriver.ToMathlib.ByteMemory

/-!
# Cutting a range into pieces

A buffer is often transferred in pieces of a fixed size, with a shorter one at the end for what is
left. `ByteRange.pieces n size` are the pieces of `n` bytes of a range of `size` bytes from zero on.

## Main results

* `foldl_pieces`: an invariant on the number of bytes done holds of the whole range;
* `forall_pieces`: a property of all pieces;
* `forall_pieces_not_across`: a boundary inside the range falls between two pieces if it is a
  multiple of their size, and into one otherwise.
-/

namespace ByteRange

/-- The pieces of `n` bytes of a range of `size` bytes, and what is left. -/
def pieces (n size : ℕ) : List ByteRange :=
  (List.range (size / n)).map (fun k => ⟨k * n, n⟩) ++
    if size % n = 0 then [] else [⟨size / n * n, size % n⟩]

/-- The boundary `b` lies inside the range. -/
def Across (b : ℕ) (r : ByteRange) : Prop := r.start < b ∧ b < r.start + r.size

variable {n size b k : ℕ} {r : ByteRange} {p : ByteRange → Prop} {σ : Type*}

/-- A property of all pieces. -/
theorem forall_pieces :
    (∀ r ∈ pieces n size, p r) ↔
      (∀ k < size / n, p ⟨k * n, n⟩) ∧ (size % n ≠ 0 → p ⟨size / n * n, size % n⟩) := by
  rw [pieces, List.forall_mem_append, List.forall_mem_map]
  refine and_congr ?_ ?_
  · simp only [List.mem_range]
  · by_cases hrest : size % n = 0
    · simp [hrest]
    · simp [hrest]

/-- No piece goes over the end. -/
theorem le_of_mem_pieces (hr : r ∈ pieces n size) : r.start + r.size ≤ size := by
  have hsplit := Nat.div_add_mod' size n
  revert r
  rw [forall_pieces]
  refine ⟨fun k hk => ?_, fun _ => ?_⟩
  · have hnext : (k + 1) * n ≤ size / n * n := Nat.mul_le_mul_right _ hk
    rw [Nat.add_one_mul] at hnext
    show k * n + n ≤ size
    omega
  · exact Nat.le_of_eq hsplit

/-- No piece is longer than asked for. -/
theorem size_le_of_mem_pieces (hn : 0 < n) (hr : r ∈ pieces n size) : r.size ≤ n := by
  revert r
  rw [forall_pieces]
  exact ⟨fun _ _ => Nat.le_refl n, fun _ => Nat.le_of_lt (Nat.mod_lt size hn)⟩

/-- Where a piece starts. -/
theorem start_of_getElem?_pieces (h : (pieces n size)[k]? = some r) : r.start = k * n := by
  rw [pieces] at h
  by_cases hk : k < size / n
  · rw [List.getElem?_append_left (by simpa using hk), List.getElem?_map,
      List.getElem?_range hk] at h
    rw [← Option.some.inj h]
  · rw [List.getElem?_append_right (by simpa using hk)] at h
    split at h
    · simp at h
    · -- the last piece is the only one behind the whole ones
      rw [List.getElem?_singleton] at h
      split at h
      · rename_i hlast
        have hlen : k = size / n := by simp at hlast; omega
        rw [← Option.some.inj h, hlen]
      · simp at h

/-- **An invariant on the number of bytes done** holds of the whole range if each piece moves it
on. -/
theorem foldl_pieces {f : σ → ByteRange → σ} {s : σ} (inv : ℕ → σ → Prop) (h0 : inv 0 s)
    (hstep : ∀ r ∈ pieces n size, ∀ s, inv r.start s → inv (r.start + r.size) (f s r)) :
    inv size ((pieces n size).foldl f s) := by
  have hsteps := (forall_pieces (p := fun r => ∀ s, inv r.start s →
    inv (r.start + r.size) (f s r))).1 hstep
  -- the whole pieces, one after the other
  have hwhole : ∀ k ≤ size / n,
      inv (k * n) (((List.range k).map fun k => (⟨k * n, n⟩ : ByteRange)).foldl f s) := by
    intro k hk
    induction k with
    | zero => rwa [Nat.zero_mul]
    | succ k ih =>
      rw [List.range_succ, List.map_append, List.foldl_append, Nat.add_one_mul]
      exact hsteps.1 k hk _ (ih (Nat.le_of_succ_le hk))
  have hlast := hwhole (size / n) (Nat.le_refl _)
  have hsplit := Nat.div_add_mod' size n
  rw [pieces, List.foldl_append]
  by_cases hrest : size % n = 0
  · rw [hrest, Nat.add_zero] at hsplit
    rw [hsplit] at hlast
    rw [if_pos hrest]
    exact hlast
  · rw [if_neg hrest]
    have hend := hsteps.2 hrest _ hlast
    rwa [hsplit] at hend

/-- **A boundary inside the range** falls between two pieces exactly if it is a multiple of their
size. -/
theorem forall_pieces_not_across (hn : 0 < n) (hb : 0 < b) :
    (∀ r ∈ pieces n size, ¬ r.Across b) ↔ size ≤ b ∨ n ∣ b := by
  have hsplit := Nat.div_add_mod' size n
  constructor
  · intro h
    by_contra hnot
    obtain ⟨hinside, hmultiple⟩ := not_or.1 hnot
    rw [Nat.not_le] at hinside
    rw [forall_pieces] at h
    -- the piece that the boundary falls into
    have hpos : b / n * n < b := by
      have hle := Nat.div_mul_le_self b n
      have hne : b / n * n ≠ b := fun heq => hmultiple (Nat.dvd_of_mod_eq_zero
        (by have := Nat.div_add_mod' b n; omega))
      omega
    have hnext : b < b / n * n + n := Nat.lt_div_mul_add hn
    by_cases hk : b / n < size / n
    · exact h.1 (b / n) hk ⟨hpos, hnext⟩
    · have heq : b / n = size / n :=
        Nat.le_antisymm (Nat.div_le_div_right (Nat.le_of_lt hinside)) (Nat.not_lt.1 hk)
      rw [heq] at hpos
      refine h.2 (by omega) ⟨hpos, ?_⟩
      show b < size / n * n + size % n
      omega
  · rintro (hle | ⟨c, rfl⟩) r hr ⟨hstart, hend⟩
    · have hr := le_of_mem_pieces hr
      omega
    · -- a piece reaches from a multiple of the size to the next one at most
      obtain ⟨k, hk⟩ := List.mem_iff_getElem?.1 hr
      have hsize := size_le_of_mem_pieces hn hr
      rw [start_of_getElem?_pieces hk, Nat.mul_comm n c] at hstart hend
      have hlow : k < c := Nat.lt_of_mul_lt_mul_right hstart
      have hle := Nat.mul_le_mul_right n (Nat.succ_le_of_lt hlow)
      rw [Nat.succ_mul] at hle
      omega

end ByteRange
