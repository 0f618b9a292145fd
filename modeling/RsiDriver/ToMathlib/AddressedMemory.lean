import Mathlib.Algebra.GroupWithZero.Nat
import Mathlib.Data.Nat.Notation
import Mathlib.Logic.Function.Basic

/-!
# Memory with addresses of a fixed width

A memory is a function on `w`-bit addresses. `store m a n data` puts `data 0`, `data 1`, … into the
`n` cells from the address `a` on; addresses go on from zero behind the last one, as they do on a
bus. A transfer in pieces is a transfer of the whole as long as it does not come round to where it
started.

## Main results

* `store_store`: two stores one behind the other are one store;
* `store_apply_add`, `store_of_le`: what a store puts into a cell, and what it leaves alone.
-/

/-- A memory with `w`-bit addresses. -/
abbrev AddressedMemory (w : ℕ) (β : Type*) := BitVec w → β

namespace AddressedMemory

variable {w : ℕ} {β : Type*}

/-- `data 0`, …, `data (n - 1)` into the cells from `a` on. -/
def store (m : AddressedMemory w β) (a : BitVec w) (n : ℕ) (data : ℕ → β) : AddressedMemory w β :=
  fun x => if (x - a).toNat < n then data (x - a).toNat else m x

variable (m : AddressedMemory w β) (a : BitVec w) {n k i : ℕ} {data data' : ℕ → β}

@[simp]
theorem store_zero (data : ℕ → β) : m.store a 0 data = m := by
  funext x
  simp [store]

/-- Only the first `n` values count. -/
theorem store_congr (h : ∀ i < n, data i = data' i) : m.store a n data = m.store a n data' := by
  funext x
  by_cases hx : (x - a).toNat < n
  · simp only [store, hx, if_true, h _ hx]
  · simp only [store, hx, if_false]

/-- A cell that is further away than the store reaches keeps its value. -/
theorem store_of_le {x : BitVec w} (h : n ≤ (x - a).toNat) : m.store a n data x = m x := by
  rw [store, if_neg (Nat.not_lt.2 h)]

theorem toNat_add_ofNat_sub (h : i < 2 ^ w) : (a + BitVec.ofNat w i - a).toNat = i := by
  rw [BitVec.add_comm, BitVec.add_sub_cancel, BitVec.toNat_ofNat, Nat.mod_eq_of_lt h]

/-- Cell `i` of a store. -/
theorem store_apply_add (h : i < n) (hw : i < 2 ^ w) :
    m.store a n data (a + BitVec.ofNat w i) = data i := by
  rw [store, toNat_add_ofNat_sub a hw, if_pos h]

/-- The distance of a cell from the address that is `n` further on. -/
theorem toNat_sub_add_ofNat (x : BitVec w) (hn : n < 2 ^ w) :
    (x - (a + BitVec.ofNat w n)).toNat =
      if n ≤ (x - a).toNat then (x - a).toNat - n else 2 ^ w + (x - a).toNat - n := by
  have hlt := (x - a).isLt
  rw [← BitVec.sub_sub, BitVec.toNat_sub, BitVec.toNat_ofNat, Nat.mod_eq_of_lt hn]
  split
  · have hsplit : 2 ^ w - n + (x - a).toNat = (x - a).toNat - n + 2 ^ w := by omega
    rw [hsplit, Nat.add_mod_right, Nat.mod_eq_of_lt (by omega)]
  · rw [Nat.mod_eq_of_lt (by omega)]
    omega

/-- **Two stores one behind the other are one store.** -/
theorem store_store (h : n + k ≤ 2 ^ w) (data : ℕ → β) :
    (m.store a n data).store (a + BitVec.ofNat w n) k (fun i => data (n + i)) =
      m.store a (n + k) data := by
  rcases Nat.eq_zero_or_pos k with rfl | hk
  · rw [store_zero, Nat.add_zero]
  funext x
  have hlt := (x - a).isLt
  have hdist := toNat_sub_add_ofNat a x (n := n) (by omega)
  by_cases hx : n ≤ (x - a).toNat
  · -- behind the first store
    rw [if_pos hx] at hdist
    have hiff : (x - a).toNat - n < k ↔ (x - a).toNat < n + k := by omega
    have hindex : n + ((x - a).toNat - n) = (x - a).toNat := by omega
    have hnot : ¬ (x - a).toNat < n := Nat.not_lt.2 hx
    simp only [store, hdist, hiff, hindex, hnot, if_false]
  · -- inside the first store, which the second one does not come round to
    rw [if_neg hx] at hdist
    have hfar : ¬ 2 ^ w + (x - a).toNat - n < k := by omega
    have hin : (x - a).toNat < n := Nat.not_le.1 hx
    simp only [store, hdist, hfar, hin, Nat.lt_add_right k hin, if_true, if_false]

/-- One cell more. -/
theorem store_succ (h : n < 2 ^ w) (data : ℕ → β) :
    m.store a (n + 1) data =
      Function.update (m.store a n data) (a + BitVec.ofNat w n) (data n) := by
  funext x
  by_cases hx : x = a + BitVec.ofNat w n
  · subst hx
    rw [Function.update_self, store_apply_add m a (Nat.lt_succ_self n) h]
  · rw [Function.update_of_ne hx]
    have hne : (x - a).toNat ≠ n := by
      rintro rfl
      apply hx
      rw [BitVec.ofNat_toNat, BitVec.setWidth_eq, BitVec.add_comm, BitVec.sub_add_cancel]
    have hiff : (x - a).toNat < n + 1 ↔ (x - a).toNat < n := by omega
    simp only [store, hiff]

end AddressedMemory
