import Mathlib.Algebra.Order.Group.Abs
import Mathlib.Algebra.Order.Monoid.Defs
import Mathlib.Data.List.Chain
import Mathlib.Tactic.TypeStar

/-!
# A threshold with hysteresis

A monitor watches a value and raises an event when the value lies below or above a threshold. After
an event the next one is raised only when the value has moved on by more than the hysteresis, down
for a low event and up for a high one. A sample may be missing.

## Main results

* `raisedAt_trace_isChain`: the values at which events are raised one after the other are more than
  the hysteresis apart.
-/

namespace Hysteresis

/-- The value has gone below the threshold, or above it. -/
inductive Event
  | low
  | high
  deriving DecidableEq, Repr

/-- The threshold, the hysteresis, and the value of the last event. -/
structure Monitor (α : Type*) where
  thold : α
  hyst : α
  last : Option α

/-- The samples at which events are raised. -/
def raisedAt {α : Type*} (xs : List (Option α)) (events : List (Option Event)) : List α :=
  (xs.zip events).filterMap fun p => p.2.bind fun _ => p.1

namespace Monitor

variable {α : Type*} [AddCommGroup α] [LinearOrder α] (m : Monitor α)

/-- A value below the threshold that has gone down since the last event. -/
def IsLow (x : α) : Prop := x < m.thold ∧ ∀ l ∈ m.last, x < l - m.hyst

/-- A value above the threshold that has gone up since the last event. -/
def IsHigh (x : α) : Prop := m.thold < x ∧ ∀ l ∈ m.last, l + m.hyst < x

instance (x : α) : Decidable (m.IsLow x) := inferInstanceAs (Decidable (_ ∧ _))

instance (x : α) : Decidable (m.IsHigh x) := inferInstanceAs (Decidable (_ ∧ _))

/-- The event that a value raises. -/
def event (x : α) : Option Event :=
  if m.IsLow x then some .low else if m.IsHigh x then some .high else none

/-- The monitor after a value. -/
def observe (x : α) : Monitor α :=
  if (m.event x).isSome then { m with last := some x } else m

/-- The events of a sequence of samples. -/
def trace (m : Monitor α) : List (Option α) → List (Option Event)
  | [] => []
  | none :: xs => none :: trace m xs
  | some x :: xs => m.event x :: trace (m.observe x) xs

variable {m}

theorem observe_of_isSome {x : α} (h : (m.event x).isSome) :
    m.observe x = { m with last := some x } := if_pos h

theorem observe_of_eq_none {x : α} (h : m.event x = none) : m.observe x = m :=
  if_neg (by simp [h])

variable [IsOrderedAddMonoid α]

/-- An event is raised at a value that is more than the hysteresis away from the last one. -/
theorem hyst_lt_abs_sub {x l : α} (h : (m.event x).isSome) (hl : m.last = some l) :
    m.hyst < |x - l| := by
  unfold event at h
  split at h
  · next hlow =>
    -- the value has gone down
    have hx : x < l - m.hyst := hlow.2 l hl
    exact lt_abs.2 (.inr (by rw [neg_sub]; exact lt_sub_comm.1 hx))
  · split at h
    · next hhigh =>
      have hx : l + m.hyst < x := hhigh.2 l hl
      exact lt_abs.2 (.inl (lt_sub_iff_add_lt'.2 hx))
    · simp at h

/-- **Two consecutive events are more than the hysteresis apart.** -/
theorem raisedAt_trace_isChain (m : Monitor α) (xs : List (Option α)) :
    (m.last.toList ++ raisedAt xs (m.trace xs)).IsChain fun a b => m.hyst < |b - a| := by
  induction xs generalizing m with
  | nil => cases h : m.last <;> simp [raisedAt, trace]
  | cons sample xs ih =>
    cases sample with
    | none => exact ih m
    | some x =>
      cases hevent : m.event x with
      | none =>
        -- the monitor stays as it is
        have htail := ih m
        rw [trace, hevent, observe_of_eq_none hevent]
        exact htail
      | some e =>
        -- the new value is the next one of the chain
        have hsome : (m.event x).isSome := by simp [hevent]
        have htail := ih (m.observe x)
        rw [trace, hevent, observe_of_isSome hsome]
        rw [observe_of_isSome hsome] at htail
        cases hl : m.last with
        | none => exact htail
        | some l => exact List.isChain_cons_cons.2 ⟨hyst_lt_abs_sub hsome hl, htail⟩

end Monitor

end Hysteresis
