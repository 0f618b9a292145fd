import Mathlib.Algebra.Order.Group.Int
import RsiDriver.ToMathlib.Hysteresis

/-!
# Connection quality monitoring

mac80211 sets a threshold and a hysteresis for the signal of the access point
(`rsi_mac80211_bss_info_changed`); `rsi_perform_cqm` (`rsi_91x_mac80211.c`) gets the signal of each
beacon and notifies mac80211 of low and high events. The signal of the last event is a signed byte,
and 0 stands for no event yet. The hysteresis is unsigned, so the sums with it and the comparisons
of those sums are made modulo 2^32.

The events are compared with those of a monitor on integers. While the interface is down no signal
counts, for either.

## Main results

* `performCqm_eq_event_iff`: which signals the driver judges as the monitor does;
* `obeysHysteresis_iff`: the sequences of signals for which the driver raises the monitor's events;
* `not_forall_obeysHysteresis`: two beacons of almost the same signal, and an event for each.
-/

namespace Cqm

open Hysteresis (Event Monitor raisedAt)

/-! ## The driver -/

/-- `struct cqm_info` -/
structure CqmInfo where
  lastCqmEventRssi : BitVec 8
  rssiThold : BitVec 32
  rssiHyst : BitVec 32
  deriving DecidableEq, Repr

/-- `BSS_CHANGED_CQM` in `rsi_mac80211_bss_info_changed` -/
def configure (rssiThold rssiHyst : BitVec 32) : CqmInfo := ⟨0, rssiThold, rssiHyst⟩

/-- The signal of a beacon, and whether the interface is down. -/
structure Beacon where
  rssi : BitVec 8
  ifaceDown : Bool

/-- `rsi_perform_cqm` -/
def performCqm (c : CqmInfo) (b : Beacon) : Option Event × CqmInfo :=
  let lastEvent := c.lastCqmEventRssi
  let thold := c.rssiThold
  let hyst := c.rssiHyst
  let rssi := b.rssi.signExtend 32
  if b.ifaceDown then (none, c)
  -- the threshold is signed, the hysteresis makes the other comparison unsigned
  else if rssi.slt thold ∧ (lastEvent = 0 ∨ rssi < lastEvent.signExtend 32 - hyst) then
    (some .low, { c with lastCqmEventRssi := b.rssi })
  else if thold.slt rssi ∧ (lastEvent = 0 ∨ lastEvent.signExtend 32 + hyst < rssi) then
    (some .high, { c with lastCqmEventRssi := b.rssi })
  else (none, c)

/-- The events of a sequence of beacons. -/
def trace (c : CqmInfo) : List Beacon → List (Option Event)
  | [] => []
  | b :: bs => (performCqm c b).1 :: trace (performCqm c b).2 bs

/-! ## The monitor -/

/-- The signal of a beacon as the monitor sees it. -/
def Beacon.sample (b : Beacon) : Option ℤ := if b.ifaceDown then none else some b.rssi.toInt

/-- The monitor for a threshold and a hysteresis. -/
def monitor (rssiThold rssiHyst : BitVec 32) : Monitor ℤ := ⟨rssiThold.toInt, rssiHyst.toNat, none⟩

/-- The driver's record stands for a monitor, where a last event at 0 looks like none. -/
structure Represents (c : CqmInfo) (m : Monitor ℤ) : Prop where
  thold : m.thold = c.rssiThold.toInt
  hyst : m.hyst = c.rssiHyst.toNat
  last : m.last = none ∧ c.lastCqmEventRssi = 0 ∨ m.last = some c.lastCqmEventRssi.toInt

/-! ## Comparisons modulo 2^32 -/

/-- Two integers have the same sign, and more: they lie between the same multiples of 2^32. -/
def SameBlock (a b : ℤ) : Prop := a / 2 ^ 32 = b / 2 ^ 32

/-- A signal can be compared with `last - hyst` modulo 2^32: both have the same sign, or the
difference has wrapped around and is not above the signal even so. -/
def ComparesBelow (x d : ℤ) : Prop := SameBlock x d ∨ SameBlock x (d + 2 ^ 32) ∧ d + 2 ^ 32 ≤ x

/-- A signal can be compared with `last + hyst` modulo 2^32. -/
def ComparesAbove (x s : ℤ) : Prop := SameBlock x s ∨ SameBlock x (s - 2 ^ 32) ∧ x ≤ s - 2 ^ 32

instance (a b : ℤ) : Decidable (SameBlock a b) := inferInstanceAs (Decidable (_ = _))

instance (x d : ℤ) : Decidable (ComparesBelow x d) := inferInstanceAs (Decidable (_ ∨ _))

instance (x s : ℤ) : Decidable (ComparesAbove x s) := inferInstanceAs (Decidable (_ ∨ _))

theorem comparesBelow_iff {x d : ℤ} (hx : -128 ≤ x ∧ x ≤ 127) (hd : -2 ^ 32 - 127 ≤ d ∧ d ≤ 127) :
    (x % 2 ^ 32 < d % 2 ^ 32 ↔ x < d) ↔ ComparesBelow x d := by
  unfold ComparesBelow SameBlock
  omega

theorem comparesAbove_iff {x s : ℤ} (hx : -128 ≤ x ∧ x ≤ 127) (hs : -128 ≤ s ∧ s ≤ 2 ^ 32 + 126) :
    (s % 2 ^ 32 < x % 2 ^ 32 ↔ s < x) ↔ ComparesAbove x s := by
  unfold ComparesAbove SameBlock
  omega

/-- Words that stand for integers are compared as these are modulo 2^32. -/
theorem ofInt_lt_ofInt_iff (a b : ℤ) :
    BitVec.ofInt 32 a < BitVec.ofInt 32 b ↔ a % 2 ^ 32 < b % 2 ^ 32 := by
  rw [BitVec.lt_def, BitVec.toNat_ofInt, BitVec.toNat_ofInt]
  omega

theorem toInt_bounds (x : BitVec 8) : -128 ≤ x.toInt ∧ x.toInt ≤ 127 := by
  have h₁ := BitVec.le_toInt x
  have h₂ := BitVec.toInt_lt (x := x)
  omega

theorem ofNat_toNat_eq_ofInt (h : BitVec 32) : h = BitVec.ofInt 32 h.toNat := by
  rw [BitVec.ofInt_natCast, BitVec.ofNat_toNat, BitVec.setWidth_eq]

/-- `last - hyst` is the word of the integer. -/
theorem sub_hyst_eq (last : BitVec 8) (hyst : BitVec 32) :
    last.signExtend 32 - hyst = BitVec.ofInt 32 (last.toInt - hyst.toNat) := by
  conv_lhs => rw [ofNat_toNat_eq_ofInt hyst]
  rw [BitVec.signExtend, Int.sub_eq_add_neg, BitVec.ofInt_add, BitVec.ofInt_neg,
    BitVec.sub_eq_add_neg]

/-- `last + hyst` is the word of the integer. -/
theorem add_hyst_eq (last : BitVec 8) (hyst : BitVec 32) :
    last.signExtend 32 + hyst = BitVec.ofInt 32 (last.toInt + hyst.toNat) := by
  conv_lhs => rw [ofNat_toNat_eq_ofInt hyst]
  rw [BitVec.signExtend, ← BitVec.ofInt_add]

/-! ## One beacon -/

/-- The driver judges a signal as the monitor does: after an event at 0, which it does not remember,
the signal has moved on by more than the hysteresis, and after any other event it can be compared
modulo 2^32. -/
def Judges (m : Monitor ℤ) (x : ℤ) : Prop :=
  ∀ l ∈ m.last,
    if l = 0 then (x < m.thold → x < -m.hyst) ∧ (m.thold < x → m.hyst < x)
    else (x < m.thold → ComparesBelow x (l - m.hyst)) ∧
      (m.thold < x → ComparesAbove x (l + m.hyst))

instance (m : Monitor ℤ) (x : ℤ) : Decidable (Judges m x) :=
  inferInstanceAs (Decidable (∀ _ ∈ m.last, _))

theorem slt_iff_toInt (a : BitVec 8) (b : BitVec 32) :
    (a.signExtend 32).slt b ↔ a.toInt < b.toInt := by
  rw [BitVec.slt_iff_toInt_lt, BitVec.toInt_signExtend_of_le (by decide)]

theorem slt_iff_toInt' (a : BitVec 32) (b : BitVec 8) :
    a.slt (b.signExtend 32) ↔ a.toInt < b.toInt := by
  rw [BitVec.slt_iff_toInt_lt, BitVec.toInt_signExtend_of_le (by decide)]

/-- What `rsi_perform_cqm` decides, in integers. -/
theorem performCqm_up (c : CqmInfo) (x : BitVec 8) :
    performCqm c ⟨x, false⟩ =
      let l := c.lastCqmEventRssi.toInt
      let hyst : ℤ := c.rssiHyst.toNat
      if x.toInt < c.rssiThold.toInt ∧ (l = 0 ∨ x.toInt % 2 ^ 32 < (l - hyst) % 2 ^ 32) then
        (some .low, { c with lastCqmEventRssi := x })
      else if c.rssiThold.toInt < x.toInt ∧ (l = 0 ∨ (l + hyst) % 2 ^ 32 < x.toInt % 2 ^ 32) then
        (some .high, { c with lastCqmEventRssi := x })
      else (none, c) := by
  have hzero : c.lastCqmEventRssi = 0 ↔ c.lastCqmEventRssi.toInt = 0 :=
    ⟨fun h => by rw [h]; rfl, fun h => BitVec.eq_of_toInt_eq h⟩
  -- the comparisons with the hysteresis are unsigned
  have hlow : x.signExtend 32 < c.lastCqmEventRssi.signExtend 32 - c.rssiHyst ↔
      x.toInt % 2 ^ 32 < (c.lastCqmEventRssi.toInt - c.rssiHyst.toNat) % 2 ^ 32 := by
    rw [sub_hyst_eq, BitVec.signExtend, ofInt_lt_ofInt_iff]
  have hhigh : c.lastCqmEventRssi.signExtend 32 + c.rssiHyst < x.signExtend 32 ↔
      (c.lastCqmEventRssi.toInt + c.rssiHyst.toNat) % 2 ^ 32 < x.toInt % 2 ^ 32 := by
    rw [add_hyst_eq, BitVec.signExtend, ofInt_lt_ofInt_iff]
  simp only [performCqm, Bool.false_eq_true, if_false, slt_iff_toInt, slt_iff_toInt', hzero, hlow,
    hhigh]

/-- Two ways to choose an event agree when they agree on the side of the threshold where the value
lies. -/
theorem choice_eq_iff {x t : ℤ} {low low' high high' : Prop} [Decidable low] [Decidable low']
    [Decidable high] [Decidable high'] :
    (if x < t ∧ low then some Event.low else if t < x ∧ high then some .high else none) =
        (if x < t ∧ low' then some Event.low else if t < x ∧ high' then some .high else none) ↔
      (x < t → (low ↔ low')) ∧ (t < x → (high ↔ high')) := by
  rcases Int.lt_trichotomy x t with hlt | heq | hgt
  · have hnot : ¬ t < x := by omega
    by_cases h : low <;> by_cases h' : low' <;> simp [hlt, hnot, h, h']
  · subst heq
    simp
  · have hnot : ¬ x < t := by omega
    by_cases h : high <;> by_cases h' : high' <;> simp [hgt, hnot, h, h']

/-- The event of `rsi_perform_cqm`. -/
theorem performCqm_event (c : CqmInfo) (x : BitVec 8) :
    (performCqm c ⟨x, false⟩).1 =
      let l := c.lastCqmEventRssi.toInt
      let hyst : ℤ := c.rssiHyst.toNat
      if x.toInt < c.rssiThold.toInt ∧ (l = 0 ∨ x.toInt % 2 ^ 32 < (l - hyst) % 2 ^ 32) then
        some .low
      else if c.rssiThold.toInt < x.toInt ∧ (l = 0 ∨ (l + hyst) % 2 ^ 32 < x.toInt % 2 ^ 32) then
        some .high
      else none := by
  rw [performCqm_up]
  dsimp only
  split
  · rfl
  · split <;> rfl

/-- The driver remembers the signal if it has raised an event. -/
theorem performCqm_record (c : CqmInfo) (x : BitVec 8) :
    (performCqm c ⟨x, false⟩).2 =
      if (performCqm c ⟨x, false⟩).1.isSome then { c with lastCqmEventRssi := x } else c := by
  rw [performCqm_up]
  dsimp only
  split
  · rfl
  · split <;> rfl

/-- Which signals the driver judges as the monitor does. -/
theorem performCqm_eq_event_iff {c : CqmInfo} {m : Monitor ℤ} (h : Represents c m) (x : BitVec 8) :
    (performCqm c ⟨x, false⟩).1 = m.event x.toInt ↔ Judges m x.toInt := by
  have hx := toInt_bounds x
  have hl := toInt_bounds c.lastCqmEventRssi
  have hhyst : (c.rssiHyst.toNat : ℤ) < 2 ^ 32 := by exact_mod_cast c.rssiHyst.isLt
  rw [performCqm_event, Monitor.event, Judges]
  simp only [Monitor.IsLow, Monitor.IsHigh, h.thold, h.hyst]
  refine choice_eq_iff.trans ?_
  obtain ⟨hnone, hzero⟩ | hsome := h.last
  · -- no event yet, for both
    simp [hnone, hzero]
  · simp only [hsome, Option.mem_def, Option.some.injEq, forall_eq']
    by_cases hzero : c.lastCqmEventRssi.toInt = 0
    · simp [hzero]
    · simp only [hzero, false_or, if_false]
      rw [comparesBelow_iff hx (by omega), comparesAbove_iff hx (by omega)]

/-- An event that both raise, or neither, leaves them in step. -/
theorem Represents.observe {c : CqmInfo} {m : Monitor ℤ} (h : Represents c m) {x : BitVec 8}
    (heq : (performCqm c ⟨x, false⟩).1 = m.event x.toInt) :
    Represents (performCqm c ⟨x, false⟩).2 (m.observe x.toInt) := by
  rw [performCqm_record, heq, Monitor.observe]
  split
  · exact ⟨h.thold, h.hyst, .inr rfl⟩
  · exact h

/-! ## Sequences of beacons -/

/-- Every signal of a sequence is judged as the monitor does. -/
def JudgesAll (m : Monitor ℤ) : List (Option ℤ) → Prop
  | [] => True
  | none :: xs => JudgesAll m xs
  | some x :: xs => Judges m x ∧ JudgesAll (m.observe x) xs

/-- The driver raises the events of the monitor, and two consecutive ones are more than the
hysteresis apart. -/
def ObeysHysteresis (rssiThold rssiHyst : BitVec 32) (bs : List Beacon) : Prop :=
  trace (configure rssiThold rssiHyst) bs =
      (monitor rssiThold rssiHyst).trace (bs.map Beacon.sample) ∧
    (raisedAt (bs.map Beacon.sample) (trace (configure rssiThold rssiHyst) bs)).IsChain
      fun a b => (rssiHyst.toNat : ℤ) < |b - a|

theorem represents_configure (rssiThold rssiHyst : BitVec 32) :
    Represents (configure rssiThold rssiHyst) (monitor rssiThold rssiHyst) :=
  ⟨rfl, rfl, .inl ⟨rfl, rfl⟩⟩

/-- The driver's events are the monitor's if every signal is judged as the monitor does. -/
theorem trace_eq_iff {c : CqmInfo} {m : Monitor ℤ} (h : Represents c m) (bs : List Beacon) :
    trace c bs = m.trace (bs.map Beacon.sample) ↔ JudgesAll m (bs.map Beacon.sample) := by
  induction bs generalizing c m with
  | nil => exact iff_of_true rfl trivial
  | cons b bs ih =>
    obtain ⟨x, down⟩ := b
    cases down with
    | true =>
      -- nothing happens, and the record stays
      have hcall : performCqm c ⟨x, true⟩ = (none, c) := rfl
      rw [trace, hcall]
      simpa [Beacon.sample, Monitor.trace, JudgesAll] using ih h
    | false =>
      have hsample : Beacon.sample ⟨x, false⟩ = some x.toInt := rfl
      rw [List.map_cons, hsample, trace, Monitor.trace, JudgesAll, List.cons.injEq,
        ← performCqm_eq_event_iff h]
      exact and_congr_right fun heq => ih (h.observe heq)

/-- The sequences of signals for which the driver raises the monitor's events. -/
theorem obeysHysteresis_iff (rssiThold rssiHyst : BitVec 32) (bs : List Beacon) :
    ObeysHysteresis rssiThold rssiHyst bs ↔
      JudgesAll (monitor rssiThold rssiHyst) (bs.map Beacon.sample) := by
  have htrace := trace_eq_iff (represents_configure rssiThold rssiHyst) bs
  refine ⟨fun h => htrace.1 h.1, fun h => ⟨htrace.2 h, ?_⟩⟩
  rw [htrace.2 h]
  exact (monitor rssiThold rssiHyst).raisedAt_trace_isChain (bs.map Beacon.sample)

/-- With a threshold of -70 and a hysteresis of 80, a beacon at -60 raises a high event. The sum of
both is positive, and any negative signal above the threshold is above it modulo 2^32. -/
theorem not_forall_obeysHysteresis :
    ¬ ∀ (rssiThold rssiHyst : BitVec 32) (bs : List Beacon),
      ObeysHysteresis rssiThold rssiHyst bs := by
  intro h
  have htrace := (h (BitVec.ofInt 32 (-70)) 80
    [⟨BitVec.ofInt 8 (-60), false⟩, ⟨BitVec.ofInt 8 (-59), false⟩]).1
  exact absurd htrace (by decide)

end Cqm
