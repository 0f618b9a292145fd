import Mathlib.Data.Nat.Count

/-!
# A line that is polled until it is stable

The answers of a line are a sequence of booleans. A poller takes the line to be active when two
answers in a row are, and an inactive answer that is not behind an active one counts against it; it
gives up at the `k`-th of these. An active answer with an inactive one behind it is a glitch, which
counts for nothing.

## Main results

* `AcceptsAt.le`, `RejectsAt.le`, `AcceptsAt.not_rejectsAt`: a line is decided once;
* `exists_acceptsAt_iff`, `exists_rejectsAt`: when it is accepted, and when it is given up;
* `decided_of_glitches_le`: a line with few glitches is decided soon.
-/

namespace Debounce

variable (s : ℕ → Bool)

/-- The line is active twice in a row. -/
def StableAt (i : ℕ) : Prop := s i = true ∧ s (i + 1) = true

/-- The answer is inactive and not behind an active one. -/
def Plain (i : ℕ) : Prop := s i = false ∧ (i = 0 ∨ s (i - 1) = false)

instance : DecidablePred (StableAt s) := fun _ => inferInstanceAs (Decidable (_ ∧ _))

instance : DecidablePred (Plain s) := fun _ => inferInstanceAs (Decidable (_ ∧ _))

/-- The plain inactive answers among the first `n` -/
def plains (n : ℕ) : ℕ := Nat.count (Plain s) n

/-- The line is not active twice in a row within the first `n` answers. -/
def Unstable (n : ℕ) : Prop := ∀ i, i + 2 ≤ n → ¬ StableAt s i

/-- The line is accepted with the `n`-th answer. -/
structure AcceptsAt (k n : ℕ) : Prop where
  two_le : 2 ≤ n
  stable : StableAt s (n - 2)
  plains_lt : plains s n < k
  unstable : Unstable s (n - 1)

/-- The poller gives up with the `n`-th answer. -/
structure RejectsAt (k n : ℕ) : Prop where
  pos : 0 < n
  plain : Plain s (n - 1)
  plains_eq : plains s n = k
  unstable : Unstable s n

variable {s} {k m n : ℕ}

theorem plains_mono (h : m ≤ n) : plains s m ≤ plains s n := Nat.count_monotone _ h

theorem plains_succ_of_plain (h : Plain s n) : plains s (n + 1) = plains s n + 1 :=
  Nat.count_succ_eq_succ_count_iff.2 h

theorem plains_succ_of_not_plain (h : ¬ Plain s n) : plains s (n + 1) = plains s n :=
  Nat.count_succ_eq_count_iff.2 h

theorem not_plain_of_active (h : s n = true) : ¬ Plain s n := fun hplain => by
  rw [hplain.1] at h
  exact Bool.noConfusion h

/-- An inactive answer behind an active one does not count. -/
theorem not_plain_of_behind (hn : n ≠ 0) (h : s (n - 1) = true) : ¬ Plain s n := fun hplain => by
  rcases hplain.2 with hzero | hinactive
  · exact hn hzero
  · rw [h] at hinactive
    exact Bool.noConfusion hinactive

/-- Two active answers do not count. -/
theorem plains_of_stableAt (h : StableAt s n) : plains s (n + 2) = plains s n := by
  rw [plains_succ_of_not_plain (not_plain_of_active h.2),
    plains_succ_of_not_plain (not_plain_of_active h.1)]

theorem AcceptsAt.plains_sub (h : AcceptsAt s k n) : plains s n = plains s (n - 2) := by
  have hn : n - 2 + 2 = n := Nat.sub_add_cancel h.two_le
  rw [← plains_of_stableAt h.stable, hn]

/-- A line is accepted once. -/
theorem AcceptsAt.le (hm : AcceptsAt s k m) (hn : AcceptsAt s k n) : m ≤ n := by
  by_contra hlt
  rw [Nat.not_le] at hlt
  have htwo := hn.two_le
  exact hm.unstable (n - 2) (by omega) hn.stable

/-- A line that is accepted is not given up. -/
theorem AcceptsAt.not_rejectsAt (hm : AcceptsAt s k m) (hn : RejectsAt s k n) : False := by
  have htwo := hm.two_le
  rcases Nat.lt_or_ge n m with hlt | hle
  · have hplains := plains_mono (s := s) hlt.le
    have hk := hn.plains_eq
    have hmk := hm.plains_lt
    omega
  · exact hn.unstable (m - 2) (by omega) hm.stable

/-- A line is given up once. -/
theorem RejectsAt.le (hm : RejectsAt s k m) (hn : RejectsAt s k n) : m ≤ n := by
  by_contra hlt
  rw [Nat.not_le] at hlt
  have hlast := plains_succ_of_plain hm.plain
  rw [Nat.sub_add_cancel hm.pos, hm.plains_eq] at hlast
  have hplains := plains_mono (s := s) (Nat.le_pred_of_lt hlt)
  have hk := hn.plains_eq
  rw [Nat.pred_eq_sub_one] at hplains
  omega

/-- When a line is accepted: it is active twice in a row before it has been given up. -/
theorem exists_acceptsAt_iff :
    (∃ n ≤ m, AcceptsAt s k n) ↔ ∃ i, i + 2 ≤ m ∧ StableAt s i ∧ plains s i < k := by
  constructor
  · rintro ⟨n, hn, h⟩
    have htwo := h.two_le
    exact ⟨n - 2, by omega, h.stable, by rw [← h.plains_sub]; exact h.plains_lt⟩
  · rintro ⟨i, hi, hstable, hplains⟩
    -- the first time that it is stable
    classical
    have hex : ∃ i, StableAt s i := ⟨i, hstable⟩
    have hle : Nat.find hex ≤ i := Nat.find_min' hex hstable
    refine ⟨Nat.find hex + 2, by omega, by omega, Nat.find_spec hex, ?_, fun j hj => ?_⟩
    · rw [plains_of_stableAt (Nat.find_spec hex)]
      exact Nat.lt_of_le_of_lt (plains_mono hle) hplains
    · exact Nat.find_min hex (by omega)

/-- When a line is given up, if it is not accepted. -/
theorem exists_rejectsAt (hk : 0 < k) (haccept : ¬ ∃ n ≤ m, AcceptsAt s k n)
    (hplains : k ≤ plains s m) : ∃ n ≤ m, RejectsAt s k n := by
  classical
  have hex : ∃ n, k ≤ plains s n := ⟨m, hplains⟩
  have hfirst := Nat.find_spec hex
  have hmin : ∀ j < Nat.find hex, plains s j < k := fun j hj => Nat.not_le.1 (Nat.find_min hex hj)
  have hle : Nat.find hex ≤ m := Nat.find_min' hex hplains
  have hpos : 0 < Nat.find hex := by
    refine Nat.pos_of_ne_zero fun hzero => ?_
    rw [hzero, plains, Nat.count_zero] at hfirst
    omega
  -- the last answer is the one that counts
  have hlast := hmin (Nat.find hex - 1) (by omega)
  have hplain : Plain s (Nat.find hex - 1) := by
    by_contra hnot
    have hsame := plains_succ_of_not_plain hnot
    rw [Nat.sub_add_cancel hpos] at hsame
    omega
  have hnext := plains_succ_of_plain hplain
  rw [Nat.sub_add_cancel hpos] at hnext
  refine ⟨Nat.find hex, hle, hpos, hplain, by omega, fun i hi hstable => ?_⟩
  exact haccept (exists_acceptsAt_iff.2 ⟨i, by omega, hstable, hmin i (by omega)⟩)

/-! ## Glitches -/

/-- The inactive answers behind an active one, among the first `n` -/
def glitches (s : ℕ → Bool) (n : ℕ) : ℕ :=
  Nat.count (fun i => s i = false ∧ i ≠ 0 ∧ s (i - 1) = true) n

/-- As long as the line is not stable, each active answer but the last one has a glitch behind
it. -/
theorem Unstable.eq_plains_add (h : Unstable s n) :
    n = plains s n + 2 * glitches s n + if n ≠ 0 ∧ s (n - 1) = true then 1 else 0 := by
  induction n with
  | zero => rfl
  | succ n ih =>
    have hbefore := ih fun i hi => h i (by omega)
    rw [plains, glitches, Nat.count_succ, Nat.count_succ]
    rw [plains, glitches] at hbefore
    have hone : n + 1 - 1 = n := rfl
    rw [hone]
    by_cases hlast : n ≠ 0 ∧ s (n - 1) = true
    · -- the next answer is inactive, or the line would be stable
      have hfalse : s n = false := by
        have hunstable := h (n - 1) (by omega)
        rw [StableAt, Nat.sub_add_cancel (Nat.pos_of_ne_zero hlast.1)] at hunstable
        exact Bool.eq_false_iff.2 fun htrue => hunstable ⟨hlast.2, htrue⟩
      rw [if_pos hlast] at hbefore
      rw [if_neg (not_plain_of_behind hlast.1 hlast.2), if_pos ⟨hfalse, hlast⟩, hfalse]
      simp only [Bool.false_eq_true, and_false, if_false]
      omega
    · have hglitch : ¬ (s n = false ∧ n ≠ 0 ∧ s (n - 1) = true) := fun hg => hlast hg.2
      rw [if_neg hlast] at hbefore
      rw [if_neg hglitch]
      cases hn : s n with
      | true =>
        -- it may be the first half of a glitch
        rw [if_neg (not_plain_of_active hn), if_pos ⟨Nat.succ_ne_zero n, rfl⟩]
        omega
      | false =>
        have hplain : Plain s n := by
          refine ⟨hn, ?_⟩
          by_cases hzero : n = 0
          · exact Or.inl hzero
          · exact Or.inr (Bool.eq_false_iff.2 fun htrue => hlast ⟨hzero, htrue⟩)
        rw [if_pos hplain]
        simp only [Bool.false_eq_true, and_false, if_false]
        omega

/-- **A line with at most `g` glitches is decided** within `k + 2 g + 1` answers. -/
theorem decided_of_glitches_le {g : ℕ} (hk : 0 < k) (hg : glitches s n ≤ g)
    (hn : k + 2 * g + 1 ≤ n) : (∃ m ≤ n, AcceptsAt s k m) ∨ ∃ m ≤ n, RejectsAt s k m := by
  by_cases haccept : ∃ m ≤ n, AcceptsAt s k m
  · exact Or.inl haccept
  by_cases hplains : k ≤ plains s n
  · exact Or.inr (exists_rejectsAt hk haccept hplains)
  · rw [Nat.not_le] at hplains
    have hunstable : Unstable s n := fun i hi hstable => haccept
      (exists_acceptsAt_iff.2 ⟨i, hi, hstable, Nat.lt_of_le_of_lt (plains_mono (by omega)) hplains⟩)
    have hcount := hunstable.eq_plains_add
    split at hcount <;> omega

end Debounce
