import Mathlib.Tactic.TypeStar
import RsiDriver.ToMathlib.ByteMemory

/-!
# Accesses to objects of a known size

A program that takes bytes out of one object and puts them into another is safe if each access stays
inside its object. `Access B` is an access to one of the objects `B`, and a program is described by
the list of its accesses. Sizes are given by a function on the objects: the bytes of a buffer, or
the entries of a table.

## Main results

* `allInBounds_append`: a program in two parts;
* `contents_copy`: what a copy leaves in its destination;
* `allInBounds_copy`: copying bytes is in bounds if the bytes lie in the source and have room in the
  destination.
-/

/-- An access to an object: bytes that are read, bytes that are put at a place, or an entry of a
table that is addressed. -/
inductive Access (B : Type*)
  | read (b : B) (r : ByteRange)
  | write (b : B) (start : ℕ) (data : List (BitVec 8))
  | entry (b : B) (i : ℕ)
  deriving DecidableEq, Repr

namespace Access

variable {B : Type*} (size : B → ℕ)

/-- The access stays inside its object. -/
def InBounds : Access B → Prop
  | .read b r => r.Within (size b)
  | .write b start data => (ByteRange.mk start data.length).Within (size b)
  | .entry b i => i < size b

instance : DecidablePred (InBounds size)
  | .read b r => inferInstanceAs (Decidable (r.Within (size b)))
  | .write b start data =>
    inferInstanceAs (Decidable ((ByteRange.mk start data.length).Within (size b)))
  | .entry b i => inferInstanceAs (Decidable (i < size b))

/-- All accesses of a program stay inside their objects. -/
def AllInBounds (l : List (Access B)) : Prop := ∀ a ∈ l, a.InBounds size

instance (l : List (Access B)) : Decidable (AllInBounds size l) :=
  inferInstanceAs (Decidable (∀ a ∈ l, a.InBounds size))

/-- One byte is read. -/
def byte (b : B) (i : ℕ) : Access B := .read b ⟨i, 1⟩

/-- `memcpy` of `n` bytes from the address `a` of the object `src`, whose contents are `m`. -/
def copy (m : ByteMemory) (src : B) (a n : ℕ) (dst : B) (start : ℕ) : List (Access B) :=
  [.read src ⟨a, n⟩, .write dst start (m.bytes a n)]

/-- The bytes that are put into the object, at the places where they are put. -/
def putInto [DecidableEq B] (b : B) : Access B → Option (ℕ × List (BitVec 8))
  | .write b' start data => if b' = b then some (start, data) else none
  | .read _ _ | .entry _ _ => none

/-- What the object holds after the accesses. -/
def contents [DecidableEq B] (b : B) (l : List (Access B)) (m : ByteMemory) : ByteMemory :=
  (l.filterMap (putInto b)).foldl
    (fun m w => m.copy w.1 w.2.length fun i => w.2.getD i 0) m

variable {size} {b src dst : B} {a n i start : ℕ} {l l' : List (Access B)} {x : Access B}

@[simp]
theorem inBounds_read : (Access.read b ⟨a, n⟩).InBounds size ↔ n = 0 ∨ a + n ≤ size b := Iff.rfl

@[simp]
theorem inBounds_byte : (byte b i).InBounds size ↔ i < size b := by
  rw [byte, inBounds_read]
  omega

@[simp]
theorem inBounds_write {data : List (BitVec 8)} :
    (Access.write b start data).InBounds size ↔
      data.length = 0 ∨ start + data.length ≤ size b := Iff.rfl

@[simp]
theorem inBounds_entry : (Access.entry b i).InBounds size ↔ i < size b := Iff.rfl

@[simp]
theorem allInBounds_nil : AllInBounds size ([] : List (Access B)) := by simp [AllInBounds]

@[simp]
theorem allInBounds_cons : AllInBounds size (x :: l) ↔ x.InBounds size ∧ AllInBounds size l :=
  List.forall_mem_cons

@[simp]
theorem allInBounds_append :
    AllInBounds size (l ++ l') ↔ AllInBounds size l ∧ AllInBounds size l' :=
  List.forall_mem_append

@[simp]
theorem allInBounds_copy {m : ByteMemory} :
    AllInBounds size (copy m src a n dst start) ↔
      n = 0 ∨ a + n ≤ size src ∧ start + n ≤ size dst := by
  rw [copy, allInBounds_cons, allInBounds_cons, inBounds_read, inBounds_write,
    ByteMemory.length_bytes]
  simp only [allInBounds_nil, and_true]
  omega

/-- What a copy puts, and where. -/
theorem write_mem_copy {m : ByteMemory} {data : List (BitVec 8)} :
    write b i data ∈ copy m src a n dst start ↔ b = dst ∧ i = start ∧ data = m.bytes a n := by
  simp [copy]

section Contents

variable [DecidableEq B] {m data : ByteMemory}

@[simp]
theorem contents_nil : contents b ([] : List (Access B)) m = m := rfl

theorem contents_append : contents b (l ++ l') m = contents b l' (contents b l m) := by
  rw [contents, List.filterMap_append, List.foldl_append]
  rfl

/-- What a copy leaves in the object that it is made to. -/
theorem contents_copy :
    contents dst (copy data src a n dst start) m = m.copy start n fun i => data (a + i) := by
  have hput : (copy data src a n dst start).filterMap (putInto dst) =
      [(start, data.bytes a n)] := by
    simp only [copy, List.filterMap_cons, putInto, List.filterMap_nil, if_true]
  rw [contents, hput]
  funext i
  simp only [List.foldl_cons, List.foldl_nil, ByteMemory.copy, ByteMemory.length_bytes]
  by_cases hi : start ≤ i ∧ i < start + n
  · have hget : i - start < (data.bytes a n).length := by
      rw [ByteMemory.length_bytes]
      omega
    rw [if_pos hi, if_pos hi, List.getD_eq_getElem?_getD, List.getElem?_eq_getElem hget,
      Option.getD_some, ByteMemory.getElem_bytes]
  · rw [if_neg hi, if_neg hi]

end Contents

/-- The accesses of a loop. -/
theorem allInBounds_flatMap {α : Type*} {xs : List α} {f : α → List (Access B)} :
    AllInBounds size (xs.flatMap f) ↔ ∀ x ∈ xs, AllInBounds size (f x) := by
  constructor
  · intro h x hx a ha
    exact h a (List.mem_flatMap.2 ⟨x, hx, ha⟩)
  · intro h a ha
    obtain ⟨x, hx, hax⟩ := List.mem_flatMap.1 ha
    exact h x hx a hax

/-- Accesses that are each made under a condition. -/
theorem allInBounds_ite {p : Prop} [Decidable p] :
    AllInBounds size (if p then l else l') ↔
      (p → AllInBounds size l) ∧ (¬ p → AllInBounds size l') := by
  by_cases hp : p <;> simp [hp]

end Access
