import Mathlib.Order.Lattice

/-!
# Leftmost minima

The leftmost minimum of a function among the indices with a property, and the loop that looks for
it: it keeps an index with a value and takes each index whose value is strictly below the one it
keeps. The value it starts with need not be that of any index.

## Main results

* `LeftmostMin.unique`: there is at most one;
* `foldl_minStep`: the loop keeps its start if no value is below it, and otherwise finds the
  leftmost minimum.
-/

variable {ι α : Type*} [LinearOrder ι] [LinearOrder α]

/-- Among the indices with `p`, the values of `f` are least at `i`, and `i` is the first index of
that kind. -/
structure LeftmostMin (p : ι → Prop) (f : ι → α) (i : ι) : Prop where
  mem : p i
  le : ∀ j, p j → f i ≤ f j
  leftmost : ∀ j, p j → f j = f i → i ≤ j

namespace LeftmostMin

variable {p q : ι → Prop} {f g : ι → α} {i j : ι}

theorem unique (hi : LeftmostMin p f i) (hj : LeftmostMin p f j) : i = j := by
  have heq : f i = f j := le_antisymm (hi.le j hj.mem) (hj.le i hi.mem)
  exact le_antisymm (hi.leftmost j hj.mem heq.symm) (hj.leftmost i hi.mem heq)

/-- Only the indices with the property matter, and the values there. -/
theorem congr (hpq : ∀ j, p j ↔ q j) (hfg : ∀ j, p j → f j = g j) :
    LeftmostMin p f i ↔ LeftmostMin q g i := by
  obtain rfl : p = q := funext fun j => propext (hpq j)
  constructor
  · intro h
    refine ⟨h.mem, fun j hj => ?_, fun j hj heq => h.leftmost j hj ?_⟩
    · rw [← hfg i h.mem, ← hfg j hj]
      exact h.le j hj
    · rw [hfg i h.mem, hfg j hj, heq]
  · intro h
    refine ⟨h.mem, fun j hj => ?_, fun j hj heq => h.leftmost j hj ?_⟩
    · rw [hfg i h.mem, hfg j hj]
      exact h.le j hj
    · rw [← hfg i h.mem, ← hfg j hj, heq]

variable {k : ι} {l : List ι}

/-- The first index of a list, if no value behind it is below. -/
theorem head (hk : ∀ j ∈ l, k < j) (hpk : p k) (hle : ∀ j ∈ l, p j → f k ≤ f j) :
    LeftmostMin (fun j => j ∈ k :: l ∧ p j) f k where
  mem := ⟨List.mem_cons_self, hpk⟩
  le := by
    rintro j ⟨hj, hpj⟩
    rcases List.mem_cons.1 hj with rfl | hj
    · exact le_rfl
    · exact hle j hj hpj
  leftmost := by
    rintro j ⟨hj, -⟩ -
    rcases List.mem_cons.1 hj with rfl | hj
    · exact le_rfl
    · exact (hk j hj).le

/-- An index is put in front whose value is above the minimum. -/
theorem cons (h : LeftmostMin (fun j => j ∈ l ∧ p j) f i) (hlt : p k → f i < f k) :
    LeftmostMin (fun j => j ∈ k :: l ∧ p j) f i where
  mem := ⟨List.mem_cons_of_mem k h.mem.1, h.mem.2⟩
  le := by
    rintro j ⟨hj, hpj⟩
    rcases List.mem_cons.1 hj with rfl | hj
    · exact (hlt hpj).le
    · exact h.le j ⟨hj, hpj⟩
  leftmost := by
    rintro j ⟨hj, hpj⟩ heq
    rcases List.mem_cons.1 hj with rfl | hj
    · exact absurd heq.symm (hlt hpj).ne
    · exact h.leftmost j ⟨hj, hpj⟩ heq

end LeftmostMin

/-- One turn of the loop that looks for a minimum. -/
def minStep (p : ι → Prop) [DecidablePred p] (f : ι → α) (acc : ι × α) (j : ι) : ι × α :=
  if p j ∧ f j < acc.2 then (j, f j) else acc

/-- The loop over indices in increasing order: it ends with the value it started with if none is
below that, and with the leftmost minimum otherwise. -/
theorem foldl_minStep (p : ι → Prop) [DecidablePred p] (f : ι → α) (l : List ι)
    (hl : l.Pairwise (· < ·)) (acc : ι × α) :
    (l.foldl (minStep p f) acc = acc ∧ ∀ j ∈ l, p j → acc.2 ≤ f j) ∨
      LeftmostMin (fun j => j ∈ l ∧ p j) f (l.foldl (minStep p f) acc).1 ∧
        (l.foldl (minStep p f) acc).2 = f (l.foldl (minStep p f) acc).1 ∧
        (l.foldl (minStep p f) acc).2 < acc.2 := by
  induction l generalizing acc with
  | nil => exact .inl ⟨rfl, fun _ h => absurd h List.not_mem_nil⟩
  | cons k l ih =>
    obtain ⟨hk, hl⟩ := List.pairwise_cons.1 hl
    rw [List.foldl_cons]
    -- what the first turn does
    have hle : p k → (minStep p f acc k).2 ≤ f k := by
      intro hpk
      unfold minStep
      split_ifs with h
      · exact le_rfl
      · exact not_lt.1 fun hlt => h ⟨hpk, hlt⟩
    have hacc : (minStep p f acc k).2 ≤ acc.2 := by
      unfold minStep
      split_ifs with h
      · exact h.2.le
      · exact le_rfl
    rcases ih hl (minStep p f acc k) with ⟨heq, hrest⟩ | ⟨hmin, hval, hlt⟩
    · rw [heq]
      by_cases h : p k ∧ f k < acc.2
      · -- the first index is taken and stays
        have hstep : minStep p f acc k = (k, f k) := if_pos h
        rw [hstep] at hrest ⊢
        exact .inr ⟨.head hk h.1 hrest, rfl, h.2⟩
      · have hstep : minStep p f acc k = acc := if_neg h
        rw [hstep] at hrest hle ⊢
        left
        refine ⟨rfl, fun j hj hpj => ?_⟩
        rcases List.mem_cons.1 hj with rfl | hj
        · exact hle hpj
        · exact hrest j hj hpj
    · -- a later index is strictly below all that was kept before
      right
      refine ⟨hmin.cons fun hpk => ?_, hval, hlt.trans_le hacc⟩
      rw [← hval]
      exact hlt.trans_le (hle hpk)
