import Mathlib.Data.List.Nodup
import RsiDriver.ToMathlib.SumUpdate

/-!
# Tables with a fixed set of slots

A table keeps entries in the slots `places`; `f i` is the entry of slot `i`, if it has one. The
entries have keys, and a lookup scans the slots in order.

## Main results

* `occupied_insert`, `occupied_erase`: the number of entries after an insertion and an erasure;
* `full_of_occupied`: a table with as many entries as slots has no free slot;
* `findKey_eq_some_iff`: in a table with distinct keys, the lookup finds exactly the slot of the
  key.
-/

namespace SlotTable

variable {ι α κ : Type*}

/-- The number of slots that have an entry. -/
def occupied (places : List ι) (f : ι → Option α) : ℕ :=
  (places.map fun i => if (f i).isSome then 1 else 0).sum

/-- Entries in different slots have different keys. -/
def DistinctKeys (places : List ι) (f : ι → Option α) (key : α → κ) : Prop :=
  ∀ i ∈ places, ∀ j ∈ places, ∀ a ∈ f i, ∀ b ∈ f j, key a = key b → i = j

variable {places : List ι} {f : ι → Option α} {key : α → κ} {i : ι} {a : α}

/-! ## Counting the entries -/

theorem occupied_eq_zero (h : ∀ i ∈ places, f i = none) : occupied places f = 0 := by
  induction places with
  | nil => rfl
  | cons j places ih =>
    have hrest := ih fun i hi => h i (List.mem_cons_of_mem _ hi)
    rw [occupied] at hrest
    simp [occupied, h j List.mem_cons_self, hrest]

theorem occupied_insert [DecidableEq ι] (hplaces : places.Nodup) (hi : i ∈ places)
    (hfree : f i = none) :
    occupied places (Function.update f i (some a)) = occupied places f + 1 := by
  have h := sum_map_comp_update hplaces hi f (some a) fun e : Option α => if e.isSome then 1 else 0
  simpa [occupied, hfree] using h

theorem occupied_erase [DecidableEq ι] (hplaces : places.Nodup) (hi : i ∈ places)
    (hentry : f i = some a) :
    occupied places (Function.update f i none) + 1 = occupied places f := by
  have h := sum_map_comp_update hplaces hi f none fun e : Option α => if e.isSome then 1 else 0
  simpa [occupied, hentry] using h

theorem occupied_replace [DecidableEq ι] {b : α} (hplaces : places.Nodup) (hi : i ∈ places)
    (hentry : f i = some a) :
    occupied places (Function.update f i (some b)) = occupied places f := by
  have h := sum_map_comp_update hplaces hi f (some b) fun e : Option α => if e.isSome then 1 else 0
  simpa [occupied, hentry] using h

/-- A slot outside the table does not count. -/
theorem occupied_update_of_notMem [DecidableEq ι] {e : Option α} (hi : i ∉ places) :
    occupied places (Function.update f i e) = occupied places f := by
  refine congrArg List.sum (List.map_congr_left fun j hj => ?_)
  have hne : j ≠ i := fun h => hi (h ▸ hj)
  rw [Function.update_of_ne hne]

theorem occupied_le (places : List ι) (f : ι → Option α) : occupied places f ≤ places.length := by
  induction places with
  | nil => exact Nat.le_refl 0
  | cons j places ih =>
    rw [occupied] at ih
    simp only [occupied, List.map_cons, List.sum_cons, List.length_cons]
    split_ifs <;> omega

/-- A table with as many entries as slots has no free slot. -/
theorem full_of_occupied (h : places.length ≤ occupied places f) : ∀ i ∈ places, f i ≠ none := by
  induction places with
  | nil => simp
  | cons j places ih =>
    have hle := occupied_le places f
    rw [occupied] at hle
    simp only [occupied, List.map_cons, List.sum_cons, List.length_cons] at h
    split_ifs at h with hj
    · intro i hi
      rcases List.mem_cons.1 hi with rfl | hi
      · exact Option.isSome_iff_ne_none.1 hj
      · exact ih (by rw [occupied]; omega) i hi
    · omega

/-! ## Distinct keys -/

theorem DistinctKeys.insert [DecidableEq ι] (h : DistinctKeys places f key)
    (hfresh : ∀ j ∈ places, ∀ b ∈ f j, key b = key a → j = i) :
    DistinctKeys places (Function.update f i (some a)) key := by
  intro j hj k hk b hb c hc hkey
  -- two old entries are told apart as before, the new one and an old one because it is fresh
  by_cases hji : j = i <;> by_cases hki : k = i
  · rw [hji, hki]
  · rw [hji, Function.update_self] at hb
    rw [Function.update_of_ne hki] at hc
    obtain rfl : a = b := by simpa using hb
    exact absurd (hfresh k hk c hc hkey.symm) hki
  · rw [Function.update_of_ne hji] at hb
    rw [hki, Function.update_self] at hc
    obtain rfl : a = c := by simpa using hc
    exact absurd (hfresh j hj b hb hkey) hji
  · rw [Function.update_of_ne hji] at hb
    rw [Function.update_of_ne hki] at hc
    exact h j hj k hk b hb c hc hkey

theorem DistinctKeys.erase [DecidableEq ι] (h : DistinctKeys places f key) (i : ι) :
    DistinctKeys places (Function.update f i none) key := by
  intro j hj k hk b hb c hc hkey
  by_cases hji : j = i
  · rw [hji, Function.update_self] at hb
    cases hb
  · by_cases hki : k = i
    · rw [hki, Function.update_self] at hc
      cases hc
    · rw [Function.update_of_ne hji] at hb
      rw [Function.update_of_ne hki] at hc
      exact h j hj k hk b hb c hc hkey

/-! ## Lookup -/

variable [DecidableEq κ]

/-- The first slot whose entry has the key `k`. -/
def findKey (places : List ι) (f : ι → Option α) (key : α → κ) (k : κ) : Option ι :=
  places.find? fun i => (f i).any fun a => key a == k

variable {k : κ}

theorem findKey_eq_none_iff :
    findKey places f key k = none ↔ ∀ i ∈ places, ∀ a ∈ f i, key a ≠ k := by
  rw [findKey, List.find?_eq_none]
  refine forall₂_congr fun i _ => ?_
  rw [Option.any_eq_true]
  exact ⟨fun h a ha hkey => h ⟨a, ha, beq_iff_eq.2 hkey⟩,
    fun h ⟨a, ha, hkey⟩ => h a ha (beq_iff_eq.1 hkey)⟩

theorem findKey_some (h : findKey places f key k = some i) :
    i ∈ places ∧ ∃ a ∈ f i, key a = k := by
  refine ⟨List.mem_of_find?_eq_some h, ?_⟩
  have hany := List.find?_some h
  rw [Option.any_eq_true] at hany
  obtain ⟨a, ha, hkey⟩ := hany
  exact ⟨a, ha, beq_iff_eq.1 hkey⟩

/-- The lookup of a key finds the slot that has it. -/
theorem findKey_eq_some_iff (h : DistinctKeys places f key) :
    findKey places f key k = some i ↔ i ∈ places ∧ ∃ a ∈ f i, key a = k := by
  refine ⟨findKey_some, ?_⟩
  rintro ⟨hi, a, ha, hkey⟩
  cases hfind : findKey places f key k with
  | none => exact absurd hkey (findKey_eq_none_iff.1 hfind i hi a ha)
  | some j =>
    obtain ⟨hj, b, hb, hkeyb⟩ := findKey_some hfind
    rw [h j hj i hi b hb a ha (hkeyb.trans hkey.symm)]

end SlotTable
