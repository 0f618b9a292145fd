import Mathlib.Data.Nat.ModEq
import Mathlib.Logic.Function.Basic

/-!
# Queues in a ring of slots

A queue in a ring keeps the indices of its front and of its rear; both are -1 while the queue is
empty. `RingQueue size slots front rear l` says that the entries are `l`, in their order.

## Main results

* `RingQueue.full_iff`: when the slot behind the rear is the front;
* `RingQueue.singleton`, `RingQueue.concat`: adding an entry;
* `RingQueue.eq_iff`, `RingQueue.tail`: taking the front off;
* `RingQueue.map_slots`: the entries are what is read in the slots.
-/

/-- The entries `l` stand in a ring of `size` slots, from `front` on. -/
structure RingHolds {α : Type*} (size : ℕ) (slots : ℕ → α) (front : ℕ) (l : List α) : Prop where
  front_lt : front < size
  length_le : l.length ≤ size
  slot : ∀ i, ∀ h : i < l.length, slots ((front + i) % size) = l[i]

/-- The queue `l` between `front` and `rear`, or the empty queue. -/
inductive RingQueue {α : Type*} (size : ℕ) (slots : ℕ → α) : ℤ → ℤ → List α → Prop
  | nil : RingQueue size slots (-1) (-1) []
  | cons {f r : ℕ} {a : α} {l : List α} (h : RingHolds size slots f (a :: l))
      (hrear : r = (f + l.length) % size) : RingQueue size slots f r (a :: l)

variable {α : Type*} {size : ℕ} {slots : ℕ → α} {f : ℕ} {a b : α} {l : List α}

/-- Different places of the queue are different slots. -/
theorem ring_index_ne {i j : ℕ} (hij : i < j) (hj : j < size) :
    (f + i) % size ≠ (f + j) % size := by
  intro h
  have hmod := Nat.ModEq.add_left_cancel' f (show Nat.ModEq size (f + i) (f + j) from h)
  rw [Nat.ModEq, Nat.mod_eq_of_lt (Nat.lt_trans hij hj), Nat.mod_eq_of_lt hj] at hmod
  exact Nat.ne_of_lt hij hmod

namespace RingHolds

theorem head (h : RingHolds size slots f (a :: l)) : slots f = a := by
  have := h.slot 0 (Nat.succ_pos _)
  rwa [Nat.add_zero, Nat.mod_eq_of_lt h.front_lt] at this

theorem tail (h : RingHolds size slots f (a :: l)) : RingHolds size slots ((f + 1) % size) l where
  front_lt := Nat.mod_lt _ (Nat.zero_lt_of_lt h.front_lt)
  length_le := Nat.le_of_succ_le h.length_le
  slot i hi := by
    have := h.slot (i + 1) (Nat.succ_lt_succ hi)
    rw [Nat.mod_add_mod, Nat.add_assoc, Nat.add_comm 1 i]
    exact this

/-- A new entry goes into the slot behind the last one. -/
theorem concat (h : RingHolds size slots f l) (hroom : l.length < size) (a : α) :
    RingHolds size (Function.update slots ((f + l.length) % size) a) f (l ++ [a]) where
  front_lt := h.front_lt
  length_le := by rw [List.length_append]; exact hroom
  slot i hi := by
    rw [List.length_append, List.length_singleton] at hi
    rcases Nat.lt_succ_iff_lt_or_eq.1 hi with hlt | rfl
    · rw [Function.update_of_ne (ring_index_ne hlt hroom), List.getElem_append_left hlt]
      exact h.slot i hlt
    · rw [Function.update_self]
      simp

/-- The front is changed in its slot. -/
theorem set_head (h : RingHolds size slots f (a :: l)) (b : α) :
    RingHolds size (Function.update slots f b) f (b :: l) where
  front_lt := h.front_lt
  length_le := h.length_le
  slot i hi := by
    cases i with
    | zero => rw [Nat.add_zero, Nat.mod_eq_of_lt h.front_lt, Function.update_self]; rfl
    | succ i =>
      have hne : (f + (i + 1)) % size ≠ f := by
        have := ring_index_ne (f := f) (Nat.succ_pos i) (Nat.lt_of_lt_of_le hi h.length_le)
        rw [Nat.add_zero, Nat.mod_eq_of_lt h.front_lt] at this
        exact this.symm
      rw [Function.update_of_ne hne]
      exact h.slot (i + 1) hi

end RingHolds

namespace RingQueue

variable {front rear : ℤ}

/-- The indices are those of slots, or both are -1. -/
theorem range (h : RingQueue size slots front rear l) :
    (front = -1 ∧ rear = -1 ∧ l = []) ∨
      (0 ≤ front ∧ front < size ∧ 0 ≤ rear ∧ rear < size ∧ l ≠ []) := by
  cases h with
  | nil => exact .inl ⟨rfl, rfl, rfl⟩
  | @cons f r a l h hrear =>
    have hf := h.front_lt
    have hr : r < size := hrear ▸ Nat.mod_lt _ (Nat.zero_lt_of_lt hf)
    exact .inr ⟨by omega, by omega, by omega, by omega, List.cons_ne_nil _ _⟩

/-- The front of a queue with entries is a slot. -/
theorem front_ne (h : RingQueue size slots front rear (a :: l)) : front ≠ -1 := by
  rcases h.range with ⟨-, -, hl⟩ | ⟨hf, -⟩
  · exact absurd hl (List.cons_ne_nil a l)
  · omega

theorem length_le (h : RingQueue size slots front rear l) : l.length ≤ size := by
  cases h with
  | nil => exact Nat.zero_le size
  | cons h _ => exact h.length_le

/-- The index behind the rear. -/
theorem succ_rear_eq {f r n : ℕ} (hrear : r = (f + n) % size) :
    ((r : ℤ) + 1) % size = ((f + (n + 1)) % size : ℕ) := by
  rw [hrear]
  push_cast
  rw [Int.emod_add_emod, Int.add_assoc]

/-- Behind the rear is the front exactly when every slot is taken. -/
theorem full_iff (h : RingQueue size slots front rear l) (hsize : 0 < size) :
    front = (rear + 1) % size ↔ l.length = size := by
  cases h with
  | nil => simp; omega
  | @cons f r a l h hrear =>
    rw [succ_rear_eq hrear, Int.natCast_inj, List.length_cons]
    have hf := Nat.mod_eq_of_lt h.front_lt
    constructor
    · intro heq
      have hlt : ¬ l.length + 1 < size := by
        intro hlt
        have hne := ring_index_ne (f := f) (Nat.succ_pos l.length) hlt
        rw [Nat.add_zero, hf] at hne
        exact hne heq
      have hle := h.length_le
      rw [List.length_cons] at hle
      omega
    · intro hlen
      rw [hlen, Nat.add_mod_right, hf]

/-- The first entry of an empty queue goes into the first slot. -/
theorem singleton (slots : ℕ → α) (hsize : 0 < size) (a : α) :
    RingQueue size (Function.update slots 0 a) (0 : ℕ) (0 : ℕ) [a] := by
  refine .cons ⟨hsize, hsize, fun i hi => ?_⟩ (by simp)
  obtain rfl : i = 0 := Nat.lt_one_iff.1 hi
  simp

/-- A further entry goes into the slot behind the rear. -/
theorem concat (h : RingQueue size slots front rear l) (hne : l ≠ []) (hroom : l.length < size)
    (b : α) :
    RingQueue size (Function.update slots ((rear + 1) % size).toNat b) front ((rear + 1) % size)
      (l ++ [b]) := by
  cases h with
  | nil => exact absurd rfl hne
  | @cons f r a l h hrear =>
    rw [succ_rear_eq hrear, Int.toNat_natCast]
    refine .cons (l := l ++ [b]) (h.concat hroom b) ?_
    rw [List.length_append, List.length_singleton]

/-- The front is the rear exactly if there is one entry. -/
theorem eq_iff (h : RingQueue size slots front rear (a :: l)) : front = rear ↔ l = [] := by
  cases h with
  | @cons f r _ _ h hrear =>
    rw [Int.natCast_inj, hrear]
    have hf := Nat.mod_eq_of_lt h.front_lt
    constructor
    · intro heq
      by_contra hne
      have hlt : l.length < size := h.length_le
      have hindex := ring_index_ne (f := f) (List.length_pos_iff.2 hne) hlt
      rw [Nat.add_zero, hf] at hindex
      exact hindex heq
    · rintro rfl
      rw [List.length_nil, Nat.add_zero, hf]

/-- The entry at the front. -/
theorem head (h : RingQueue size slots front rear (a :: l)) : slots front.toNat = a := by
  cases h with
  | cons h _ => exact h.head

/-- The front is taken off a queue with further entries. -/
theorem tail (h : RingQueue size slots front rear (a :: b :: l)) :
    RingQueue size slots ((front + 1) % size) rear (b :: l) := by
  cases h with
  | @cons f r _ _ h hrear =>
    have hfront : ((f : ℤ) + 1) % size = ((f + 1) % size : ℕ) := by push_cast; rfl
    rw [hfront]
    refine .cons h.tail ?_
    rw [hrear, Nat.mod_add_mod, List.length_cons, Nat.add_assoc, Nat.add_comm 1]

/-- The front is changed in its slot. -/
theorem set_head (h : RingQueue size slots front rear (a :: l)) (b : α) :
    RingQueue size (Function.update slots front.toNat b) front rear (b :: l) := by
  cases h with
  | cons h hrear => exact .cons (h.set_head b) hrear

/-- The entries, read slot by slot. -/
theorem map_slots (h : RingQueue size slots front rear l) :
    (List.range l.length).map (fun i => slots ((front.toNat + i) % size)) = l := by
  cases h with
  | nil => rfl
  | @cons f r a l h hrear =>
    apply List.ext_getElem (by simp)
    intro i hi hi'
    simpa using h.slot i hi'

end RingQueue
