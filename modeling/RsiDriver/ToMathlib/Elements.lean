import Mathlib.Tactic.ByContra
import RsiDriver.ToMathlib.ByteMemory

/-!
# Elements with a type and a length

A buffer of elements that follow one another: a byte that tells the type, a byte with the number of
data bytes, and the data. A reader goes from element to element as long as the next one is complete.
An element is given by its position.

## Main results

* `elements_cons`, `elements_nil`: the elements from a position on;
* `completeAt_of_mem_elements`: every element lies in the buffer with its data;
* `completeAt_of_elements_ne_nil`: if there is an element, there is one in front.
-/

namespace ByteMemory

variable (m : ByteMemory)

/-- The number of data bytes of the element at `p`. -/
def datalen (p : ℕ) : ℕ := (m (p + 1)).toNat

/-- There is an element at `p` that ends in front of `stop`. -/
def CompleteAt (p stop : ℕ) : Prop := p + 2 + m.datalen p ≤ stop

instance (p stop : ℕ) : Decidable (m.CompleteAt p stop) :=
  inferInstanceAs (Decidable (p + 2 + m.datalen p ≤ stop))

/-- The positions of the complete elements from `p` on, in a buffer that ends at `stop`. -/
def elements (p stop : ℕ) : List ℕ :=
  if m.CompleteAt p stop then p :: elements (p + 2 + m.datalen p) stop else []
termination_by stop - p
decreasing_by
  have hcomplete : p + 2 + m.datalen p ≤ stop := ‹_›
  omega

variable {m} {p q stop : ℕ}

theorem elements_cons (h : m.CompleteAt p stop) :
    m.elements p stop = p :: m.elements (p + 2 + m.datalen p) stop := by
  rw [elements, if_pos h]

theorem elements_nil (h : ¬ m.CompleteAt p stop) : m.elements p stop = [] := by
  rw [elements, if_neg h]

/-- If there is an element, there is one in front. -/
theorem completeAt_of_elements_ne_nil (h : m.elements p stop ≠ []) : m.CompleteAt p stop := by
  by_contra hcomplete
  exact h (elements_nil hcomplete)

/-- The induction goes with the reader. -/
theorem completeAt_of_mem_elements (h : q ∈ m.elements p stop) : p ≤ q ∧ m.CompleteAt q stop := by
  fun_induction elements m p stop with
  | case1 p hcomplete ih =>
    obtain rfl | hq := List.mem_cons.1 h
    · exact ⟨Nat.le_refl _, hcomplete⟩
    · obtain ⟨hle, hq⟩ := ih hq
      exact ⟨by omega, hq⟩
  | case2 p => exact absurd h List.not_mem_nil

end ByteMemory
