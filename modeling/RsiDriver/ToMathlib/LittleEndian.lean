import Mathlib.Data.Nat.Digits.Defs
import RsiDriver.ToMathlib.ByteMemory

/-!
# Little-endian numbers in memory

`m.littleEndian a n` is the number that the `n` bytes at the address `a` spell, least significant
byte first, and `ofBitVec x` is the memory that holds the bytes of `x`. A bus of whole words has a
lane for each byte of a word; an access to some of the bytes uses their lanes. A word that repeats
the bytes of an access shows them on the lanes of every access that is aligned to its size.

## Main results

* `littleEndian_ofBitVec`: the bytes of a number spell a part of its digits;
* `ofBitVec_le32`: the bytes of a word that was read are the bytes that were there;
* `Repeats.lane`: where the bytes of an access stand in a word that repeats them.
-/

namespace ByteMemory

variable {w : ℕ} (m m' : ByteMemory) {a b n k : ℕ}

/-- The number that the `n` bytes at the address `a` spell, least significant byte first. -/
def littleEndian (a n : ℕ) : ℕ := Nat.ofDigits 256 ((m.bytes a n).map BitVec.toNat)

/-- The bytes of a number, least significant byte first, zero behind them. -/
def ofBitVec (x : BitVec w) : ByteMemory := fun i => x.extractLsb' (8 * i) 8

theorem littleEndian_zero (a : ℕ) : m.littleEndian a 0 = 0 := rfl

/-- One byte more. -/
theorem littleEndian_succ (a n : ℕ) :
    m.littleEndian a (n + 1) = m.littleEndian a n + 256 ^ n * (m (a + n)).toNat := by
  have hone : m.bytes (a + n) 1 = [m (a + n)] := by simp [bytes]
  rw [littleEndian, bytes_add, List.map_append, Nat.ofDigits_append, List.length_map, length_bytes,
    hone, List.map_singleton, Nat.ofDigits_singleton, littleEndian]

variable {m m'}

/-- Only the `n` bytes count. -/
theorem littleEndian_congr (h : ∀ i < n, m (a + i) = m' (b + i)) :
    m.littleEndian a n = m'.littleEndian b n := by
  have hbytes : m.bytes a n = m'.bytes b n :=
    List.map_congr_left fun i hi => h i (List.mem_range.1 hi)
  rw [littleEndian, littleEndian, hbytes]

/-- The bytes of a number from byte `k` on. -/
theorem littleEndian_ofBitVec (x : BitVec w) (k n : ℕ) :
    (ofBitVec x).littleEndian k n = x.toNat / 256 ^ k % 256 ^ n := by
  induction n with
  | zero => rw [littleEndian_zero, Nat.pow_zero, Nat.mod_one]
  | succ n ih =>
    have hpow : (2 : ℕ) ^ (8 * (k + n)) = 256 ^ k * 256 ^ n := by
      rw [Nat.pow_mul, ← Nat.pow_add]
    have hbyte : (ofBitVec x (k + n)).toNat = x.toNat / 256 ^ k / 256 ^ n % 256 := by
      rw [ofBitVec, BitVec.extractLsb'_toNat, Nat.shiftRight_eq_div_pow, hpow,
        Nat.div_div_eq_div_mul]
    rw [littleEndian_succ, ih, hbyte, Nat.mod_pow_succ]

/-- A shift and a mask take the number out of the bytes from `k` on. -/
theorem toNat_ushiftRight_and_mask (x : BitVec w) (k : ℕ) (hn : 8 * n ≤ w) :
    (x >>> (8 * k) &&& BitVec.ofNat w (2 ^ (8 * n) - 1)).toNat =
      (ofBitVec x).littleEndian k n := by
  have hmask : 2 ^ (8 * n) - 1 < 2 ^ w := by
    have hle := Nat.pow_le_pow_right (n := 2) (by decide) hn
    have hpos := Nat.two_pow_pos (8 * n)
    omega
  rw [BitVec.toNat_and, BitVec.toNat_ofNat, Nat.mod_eq_of_lt hmask,
    Nat.and_two_pow_sub_one_eq_mod, BitVec.toNat_ushiftRight, Nat.shiftRight_eq_div_pow,
    littleEndian_ofBitVec, Nat.pow_mul, Nat.pow_mul]

/-! ## The bytes of a word -/

/-- Byte `i` of a word that was read from memory. -/
theorem ofBitVec_le32 (m : ByteMemory) (a : ℕ) {i : ℕ} (hi : i < 4) :
    ofBitVec (m.le32 a) i = m (a + i) := by
  have hcases : i = 0 ∨ i = 1 ∨ i = 2 ∨ i = 3 := by omega
  rcases hcases with rfl | rfl | rfl | rfl
  all_goals
    apply BitVec.eq_of_getLsbD_eq
    intro p hp
    simp only [ofBitVec, le32, le16, BitVec.getLsbD_extractLsb', BitVec.getLsbD_append]
    grind

/-- Only the four bytes count. -/
theorem le32_congr (h : ∀ i < 4, m (a + i) = m' (b + i)) : m.le32 a = m'.le32 b := by
  rw [le32, le32, le16, le16, le16, le16]
  have hfirst : m a = m' b := h 0 (by decide)
  have hsecond := h 1 (by decide)
  have hthird := h 2 (by decide)
  have hfourth : m (a + 2 + 1) = m' (b + 2 + 1) := h 3 (by decide)
  rw [hfirst, hsecond, hthird, hfourth]

theorem ofBitVec_or (x y : BitVec w) (i : ℕ) :
    ofBitVec (x ||| y) i = ofBitVec x i ||| ofBitVec y i := BitVec.extractLsb'_or

/-- A shift by whole bytes. -/
theorem ofBitVec_shiftLeft (x : BitVec w) {i : ℕ} (hi : 8 * (i + 1) ≤ w) (k : ℕ) :
    ofBitVec (x <<< (8 * k)) i = if i < k then 0 else ofBitVec x (i - k) := by
  apply BitVec.eq_of_getLsbD_eq
  intro p hp
  have hin : 8 * i + p < w := by omega
  rw [ofBitVec, BitVec.getLsbD_extractLsb', BitVec.getLsbD_shiftLeft]
  by_cases hik : i < k
  · -- a byte that the shift has brought in
    have hlow : 8 * i + p < 8 * k := by omega
    simp [hik, hlow]
  · have hhigh : ¬ 8 * i + p < 8 * k := by omega
    have hindex : 8 * i + p - 8 * k = 8 * (i - k) + p := by omega
    simp [hik, hhigh, hin, hp, hindex, ofBitVec]

/-- The mask of the lowest `n` bytes. -/
theorem ofBitVec_and_mask (x : BitVec w) {i : ℕ} (hi : 8 * (i + 1) ≤ w) (n : ℕ) :
    ofBitVec (x &&& BitVec.ofNat w (2 ^ (8 * n) - 1)) i = if i < n then ofBitVec x i else 0 := by
  apply BitVec.eq_of_getLsbD_eq
  intro p hp
  have hin : 8 * i + p < w := by omega
  rw [ofBitVec, BitVec.getLsbD_extractLsb', BitVec.getLsbD_and, BitVec.getLsbD_ofNat,
    Nat.testBit_two_pow_sub_one]
  by_cases hmask : i < n
  · have hlow : 8 * i + p < 8 * n := by omega
    simp [hmask, hlow, hin, ofBitVec]
  · have hhigh : ¬ 8 * i + p < 8 * n := by omega
    simp [hmask, hhigh]

/-- A change of the width that keeps the byte. -/
theorem ofBitVec_setWidth (x : BitVec w) {v i : ℕ} (hi : 8 * (i + 1) ≤ v) :
    ofBitVec (x.setWidth v) i = ofBitVec x i :=
  BitVec.extractLsb'_setWidth_of_le (by omega)

/-! ## Lanes -/

/-- The lanes of a word of `N` bytes repeat the first `n` bytes of the data. -/
def Repeats (word data : ByteMemory) (N n : ℕ) : Prop := ∀ j < N, word j = data (j % n)

/-- The lanes of an access that is aligned to its size show the data. -/
theorem Repeats.lane {word data : ByteMemory} {N o i : ℕ} (h : Repeats word data N n)
    (ho : n ∣ o) (hi : i < n) (hN : o + i < N) : word (o + i) = data i := by
  rw [h _ hN, Nat.add_mod, Nat.mod_eq_zero_of_dvd ho, Nat.zero_add, Nat.mod_mod,
    Nat.mod_eq_of_lt hi]

end ByteMemory
