import Mathlib.Data.Nat.Notation
import Mathlib.Tactic.Ring

/-!
# Big-endian numbers in byte arrays

`memcmp` compares two byte arrays of one length at the first byte where they differ. If the arrays
hold numbers, most significant byte first, this is the comparison of the numbers.

## Main results

* `bigEndian_lt`: an array of `n` bytes holds a number below `256 ^ n`;
* `memcmp_eq_gt_iff`: `memcmp` compares the numbers.
-/

/-- The number that the bytes spell, most significant byte first. -/
def bigEndian : List (BitVec 8) → ℕ
  | [] => 0
  | b :: l => b.toNat * 256 ^ l.length + bigEndian l

/-- The sign of the C library's `memcmp` on the common length of two arrays. -/
def memcmp : List (BitVec 8) → List (BitVec 8) → Ordering
  | b :: l, b' :: l' => if b < b' then .lt else if b' < b then .gt else memcmp l l'
  | _, _ => .eq

theorem bigEndian_lt (l : List (BitVec 8)) : bigEndian l < 256 ^ l.length := by
  induction l with
  | nil => decide
  | cons b l ih =>
    have hb : b.toNat + 1 ≤ 256 := b.isLt
    have hmul := Nat.mul_le_mul_right (256 ^ l.length) hb
    rw [bigEndian, List.length_cons, Nat.pow_succ, Nat.mul_comm (256 ^ l.length)]
    rw [Nat.add_mul] at hmul
    omega

/-- A greater first byte outweighs the rest. -/
theorem bigEndian_cons_lt {b b' : BitVec 8} {l l' : List (BitVec 8)} (hlen : l.length = l'.length)
    (h : b < b') : bigEndian (b :: l) < bigEndian (b' :: l') := by
  have hl := bigEndian_lt l
  have hmul := Nat.mul_le_mul_right (256 ^ l.length) (Nat.succ_le_of_lt (BitVec.lt_def.1 h))
  rw [bigEndian, bigEndian, ← hlen]
  rw [Nat.succ_mul] at hmul
  omega

theorem memcmp_eq_gt_iff {l l' : List (BitVec 8)} (hlen : l.length = l'.length) :
    memcmp l l' = .gt ↔ bigEndian l' < bigEndian l := by
  induction l generalizing l' with
  | nil =>
    obtain rfl := List.length_eq_zero_iff.1 hlen.symm
    simp [memcmp]
  | cons b l ih =>
    cases l' with
    | nil => simp at hlen
    | cons b' l' =>
      have hlen' : l.length = l'.length := Nat.succ.inj hlen
      rw [memcmp]
      by_cases hlt : b < b'
      · have := bigEndian_cons_lt hlen' hlt
        simp only [hlt, if_true, reduceCtorEq, false_iff]
        omega
      · by_cases hgt : b' < b
        · have := bigEndian_cons_lt hlen'.symm hgt
          simp only [hlt, hgt, if_true, if_false, true_iff]
          omega
        · -- the first bytes are equal, and the rest decides
          obtain rfl : b = b' := by bv_omega
          simp only [hlt, if_false, ih hlen', bigEndian, hlen']
          omega
