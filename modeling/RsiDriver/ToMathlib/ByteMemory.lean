import Mathlib.Algebra.GroupWithZero.Nat
import Mathlib.Data.Nat.Notation

/-!
# Memory as a sequence of bytes

A memory is seen from an address on; a program that is handed a buffer may read past its end, so
that addresses are not bounded here. `Holds m a l` says that the bytes `l` stand at the address `a`,
and `ByteRange.Within` that an access stays inside a buffer.

## Main results

* `holds_append`: a concatenation stands where its parts stand one after the other;
* `Holds.bytes_drop_take`: reading back a part of what is there;
* `Holds.le16_toNat`: reading back a number that was written with `le16Bytes`;
* `holds_override`: a memory that holds a given list and goes on as another memory does;
* `Holds.close_gap`: moving bytes over a part takes that part out.
-/

/-- The bytes from an address on. -/
abbrev ByteMemory := ℕ → BitVec 8

/-- The bytes `start`, `start + 1`, …, `start + size - 1`. -/
structure ByteRange where
  start : ℕ
  size : ℕ
  deriving DecidableEq, Repr

/-- The range lies inside a buffer of `len` bytes. A range without bytes does so wherever it
starts. -/
def ByteRange.Within (len : ℕ) (r : ByteRange) : Prop := r.size = 0 ∨ r.start + r.size ≤ len

instance (len : ℕ) (r : ByteRange) : Decidable (r.Within len) :=
  inferInstanceAs (Decidable (r.size = 0 ∨ r.start + r.size ≤ len))

namespace ByteMemory

variable (m : ByteMemory)

/-- `n` bytes from the address `a` on. -/
def bytes (a n : ℕ) : List (BitVec 8) := (List.range n).map fun i => m (a + i)

/-- The 16-bit number at the address `a`, least significant byte first. -/
def le16 (a : ℕ) : BitVec 16 := m (a + 1) ++ m a

/-- The 32-bit number at the address `a`, least significant byte first. -/
def le32 (a : ℕ) : BitVec 32 := m.le16 (a + 2) ++ m.le16 a

/-- A number as two bytes, least significant byte first. -/
def le16Bytes (n : ℕ) : List (BitVec 8) := [BitVec.ofNat 8 n, BitVec.ofNat 8 (n / 256)]

/-- The bytes `l` stand at the address `a`. -/
def Holds (a : ℕ) (l : List (BitVec 8)) : Prop := ∀ i, ∀ h : i < l.length, m (a + i) = l[i]

/-- `m` with `l` in front. -/
def override (l : List (BitVec 8)) : ByteMemory :=
  fun i => if h : i < l.length then l[i] else m i

variable {m} {a k : ℕ} {l l' : List (BitVec 8)}

theorem holds_append : m.Holds a (l ++ l') ↔ m.Holds a l ∧ m.Holds (a + l.length) l' := by
  constructor
  · intro h
    constructor
    · intro i hi
      have := h i (by rw [List.length_append]; omega)
      rwa [List.getElem_append_left hi] at this
    · intro i hi
      have := h (l.length + i) (by rw [List.length_append]; omega)
      rw [List.getElem_append_right (Nat.le_add_right _ _)] at this
      simpa [Nat.add_assoc] using this
  · rintro ⟨h, h'⟩ i hi
    by_cases hlt : i < l.length
    · rw [List.getElem_append_left hlt]
      exact h i hlt
    · -- an index in the second part
      rw [List.length_append] at hi
      rw [List.getElem_append_right (Nat.le_of_not_lt hlt), ← h' (i - l.length) (by omega)]
      congr 1
      omega

theorem length_bytes (a n : ℕ) : (m.bytes a n).length = n := by simp [bytes]

theorem getElem_bytes {a n i : ℕ} (h : i < (m.bytes a n).length) :
    (m.bytes a n)[i] = m (a + i) := by
  simp [bytes]

theorem bytes_add (a n k : ℕ) : m.bytes a (n + k) = m.bytes a n ++ m.bytes (a + n) k := by
  simp [bytes, List.range_add, Function.comp_def, Nat.add_assoc]

/-- Reading block by block. -/
theorem flatten_bytes (n k : ℕ) :
    ((List.range n).map fun i => m.bytes (i * k) k).flatten = m.bytes 0 (n * k) := by
  induction n with
  | zero => simp [bytes]
  | succ n ih =>
    rw [List.range_succ, List.map_append, List.flatten_append, ih, Nat.add_one_mul, bytes_add,
      Nat.zero_add]
    simp

/-- Reading back what is there. -/
theorem Holds.bytes_eq (h : m.Holds a l) : m.bytes a l.length = l := by
  apply List.ext_getElem (length_bytes a l.length)
  intro i hi hi'
  rw [getElem_bytes]
  exact h i hi'

theorem holds_of_bytes_eq (h : m.bytes a l.length = l) : m.Holds a l := by
  intro i hi
  have hget : i < (m.bytes a l.length).length := by rwa [length_bytes]
  rw [← getElem_bytes hget]
  simp only [h]

theorem Holds.drop (h : m.Holds a l) (hk : k ≤ l.length) : m.Holds (a + k) (l.drop k) := by
  rw [← List.take_append_drop k l, holds_append, List.length_take, Nat.min_eq_left hk] at h
  exact h.2

theorem Holds.take (h : m.Holds a l) (k : ℕ) : m.Holds a (l.take k) := by
  rw [← List.take_append_drop k l, holds_append] at h
  exact h.1

/-- Reading back a part of what is there. -/
theorem Holds.bytes_drop_take {n : ℕ} (h : m.Holds a l) (hn : k + n ≤ l.length) :
    m.bytes (a + k) n = (l.drop k).take n := by
  have hlen : ((l.drop k).take n).length = n := by simp; omega
  have hpart := (h.drop (k := k) (by omega)).take n
  rw [← hpart.bytes_eq, hlen]

theorem Holds.apply (h : m.Holds a l) {i : ℕ} (hi : i < l.length) : m (a + i) = l[i] := h i hi

theorem toNat_le16 (a : ℕ) : (m.le16 a).toNat = (m (a + 1)).toNat * 256 + (m a).toNat := by
  have hlow := (m a).isLt
  rw [le16, BitVec.toNat_append, ← Nat.shiftLeft_add_eq_or_of_lt hlow, Nat.shiftLeft_eq]

/-- Reading back a number. -/
theorem Holds.le16_toNat {n : ℕ} (h : m.Holds a (le16Bytes n)) (hn : n < 2 ^ 16) :
    (m.le16 a).toNat = n := by
  have hlow : m a = BitVec.ofNat 8 n := h 0 (by simp [le16Bytes])
  have hhigh : m (a + 1) = BitVec.ofNat 8 (n / 256) := h 1 (by simp [le16Bytes])
  rw [toNat_le16, hlow, hhigh, BitVec.toNat_ofNat, BitVec.toNat_ofNat]
  omega

/-- Two memories that hold the same bytes agree there. -/
theorem Holds.eq_of_holds {m' : ByteMemory} {a' i : ℕ} (h : m.Holds a l) (h' : m'.Holds a' l)
    (hi : i < l.length) : m (a + i) = m' (a' + i) := by
  rw [h i hi, h' i hi]

/-- The list as a memory, with zeros behind it. -/
def ofList (l : List (BitVec 8)) : ByteMemory := override (fun _ => 0) l

/-- A memory that holds a given list. -/
theorem holds_override (m : ByteMemory) (l : List (BitVec 8)) : (m.override l).Holds 0 l := by
  intro i hi
  simp [override, hi]

theorem holds_ofList (l : List (BitVec 8)) : (ofList l).Holds 0 l := holds_override _ l

theorem override_of_le (m : ByteMemory) {l : List (BitVec 8)} {i : ℕ} (h : l.length ≤ i) :
    m.override l i = m i := by
  simp [override, Nat.not_lt.2 h]

/-- Where the list is made of one byte. -/
theorem override_replicate (m : ByteMemory) {b : BitVec 8} {n i : ℕ} (h : i < n) :
    m.override (List.replicate n b) i = b := by
  simp [override, h]

/-- `memcpy`: the first `n` bytes of another memory, put at `dst`. -/
def copy (m : ByteMemory) (dst n : ℕ) (src : ByteMemory) : ByteMemory :=
  fun i => if dst ≤ i ∧ i < dst + n then src (i - dst) else m i

theorem copy_add {dst n i : ℕ} (src : ByteMemory) (h : i < n) :
    m.copy dst n src (dst + i) = src i := by
  rw [copy, if_pos ⟨Nat.le_add_right dst i, Nat.add_lt_add_left h dst⟩, Nat.add_sub_cancel_left]

theorem copy_of_lt {dst n i : ℕ} (src : ByteMemory) (h : i < dst) :
    m.copy dst n src i = m i := by
  rw [copy, if_neg (by omega)]

/-- `memmove`: the `n` bytes at `src` are copied to `dst`. -/
def move (m : ByteMemory) (dst src n : ℕ) : ByteMemory :=
  fun i => if dst ≤ i ∧ i < dst + n then m (src + (i - dst)) else m i

theorem Holds.move (h : m.Holds k l) (a : ℕ) : (m.move a k l.length).Holds a l := by
  intro i hi
  have hin : a ≤ a + i ∧ a + i < a + l.length := ⟨Nat.le_add_right a i, by omega⟩
  rw [ByteMemory.move, if_pos hin, Nat.add_sub_cancel_left]
  exact h i hi

/-- What stands in front of the target stays. -/
theorem Holds.move_of_le (h : m.Holds a l) {dst : ℕ} (hle : a + l.length ≤ dst) (src n : ℕ) :
    (m.move dst src n).Holds a l := by
  intro i hi
  have hout : ¬ (dst ≤ a + i ∧ a + i < dst + n) := by omega
  rw [ByteMemory.move, if_neg hout]
  exact h i hi

/-- What stands behind a part is moved over it. -/
theorem Holds.close_gap {gap : List (BitVec 8)} (h : m.Holds 0 (l ++ gap ++ l')) :
    (m.move l.length (l.length + gap.length) l'.length).Holds 0 (l ++ l') := by
  rw [holds_append, holds_append] at h
  obtain ⟨⟨hl, -⟩, hl'⟩ := h
  rw [List.length_append, Nat.zero_add] at hl'
  refine holds_append.2 ⟨hl.move_of_le (by omega) _ _, ?_⟩
  rw [Nat.zero_add]
  exact hl'.move _

end ByteMemory
