import RsiDriver.Mgmt.Beacon

/-!
# The index over a beacon

The loop of `rsi_prepare_beacon` over the elements has an index of eight bits. It is followed here
through any beacon: over complete elements the index stays where it can be as long as what is left
of the beacon has at most 255 bytes, and an incomplete element at the end adds its length byte,
which may be a byte that the country elements have left behind the beacon.

## Main results

* `endsIn_iff`: the beacons for which the loop ends, the index does not wrap, and the result can be
  sent.
-/

namespace Beacon

/-- The index wraps when the element at it is skipped. -/
def Strip.Wraps (s : Strip) : Prop :=
  s.index.toNat < s.len ∧ s.mem s.index.toNat ≠ BEACON_COUNTRY_IE ∧
    256 ≤ s.index.toNat + 2 + (s.mem (s.index.toNat + 1)).toNat

/-- The loop ends in a state with the property `P`, and the index does not wrap on the way. -/
def EndsIn (P : Strip → Prop) (s : Strip) : Prop :=
  (∃ n t, turns n s = .done t ∧ P t) ∧ ∀ n t, turns n s = .more t → ¬ t.Wraps

/-- The beacon fits into `room` bytes, and the first word carries its length. -/
def Sendable (room : ℕ) (s : Strip) : Prop :=
  s.len + 16 ≤ room ∧ (s.descWord0 &&& 0xfff).toNat = s.len

/-- The memory after the country elements were taken out from the place `pos` on, where a beacon of
`len` bytes has the elements. -/
def leftBehind : ℕ → List Ie → ℕ → ByteMemory → ByteMemory
  | _, [], _, m => m
  | pos, e :: es, len, m =>
    if e.id = BEACON_COUNTRY_IE then
      leftBehind pos es (len - e.bytes.length)
        (m.move pos (pos + e.bytes.length) (len - (pos + e.bytes.length)))
    else leftBehind (pos + e.bytes.length) es len m

/-! ## One turn -/

section Turn

variable {P : Strip → Prop} {s u : Strip}

theorem endsIn_of_done (h : turn s = .done) : EndsIn P s ↔ P s := by
  have hlen := turn_eq_done_iff.1 h
  have hturns (n : ℕ) : turns (n + 1) s = .done s := by rw [turns, h]
  constructor
  · rintro ⟨⟨n, t, hn, ht⟩, -⟩
    cases n with
    | zero => cases hn
    | succ n =>
      rw [hturns] at hn
      obtain rfl := Outcome.done.inj hn
      exact ht
  · intro hP
    refine ⟨⟨1, s, hturns 0, hP⟩, fun n t hn hwrap => ?_⟩
    cases n with
    | zero =>
      obtain rfl := Outcome.more.inj hn
      exact absurd hwrap.1 (Nat.not_lt.2 hlen)
    | succ n =>
      rw [hturns] at hn
      cases hn

theorem not_endsIn_of_oops (h : turn s = .oops) : ¬ EndsIn P s := by
  rintro ⟨⟨n, t, hn, -⟩, -⟩
  cases n with
  | zero => cases hn
  | succ n =>
    rw [turns, h] at hn
    cases hn

theorem not_endsIn_of_wraps (h : s.Wraps) : ¬ EndsIn P s := fun hends => hends.2 0 s rfl h

/-- The loop goes on with the next turn. -/
theorem endsIn_of_next (hwrap : ¬ s.Wraps) (h : turn s = .next u) : EndsIn P s ↔ EndsIn P u := by
  have hturns (n : ℕ) : turns (n + 1) s = turns n u := by rw [turns, h]
  constructor
  · rintro ⟨⟨n, t, hn, ht⟩, hall⟩
    constructor
    · cases n with
      | zero => cases hn
      | succ n => exact ⟨n, t, (hturns n).symm.trans hn, ht⟩
    · intro n t hn
      exact hall (n + 1) t ((hturns n).trans hn)
  · rintro ⟨⟨n, t, hn, ht⟩, hall⟩
    refine ⟨⟨n + 1, t, (hturns n).trans hn, ht⟩, fun n t hn => ?_⟩
    cases n with
    | zero =>
      obtain rfl := Outcome.more.inj hn
      exact hwrap
    | succ n => exact hall n t ((hturns n).symm.trans hn)

end Turn

/-! ## The elements -/

namespace At

variable {P : Strip → Prop} {pre : List (BitVec 8)} {e : Ie} {es : List Ie}
  {rest : List (BitVec 8)} {s : Strip}

/-- A country element does not move the index. -/
theorem not_wraps_of_country (h : At pre (e :: es) rest s) (he : e.id = BEACON_COUNTRY_IE) :
    ¬ s.Wraps := fun hwrap => hwrap.2.1 (h.mem_eq.1.trans he)

/-- Another element moves it behind its end. -/
theorem wraps_iff (h : At pre (e :: es) rest s) (he : e.id ≠ BEACON_COUNTRY_IE) :
    s.Wraps ↔ 255 < pre.length + e.bytes.length := by
  obtain ⟨hid, hlen⟩ := h.mem_eq
  have hin := Nat.lt_of_not_le h.in_frame.1
  rw [Strip.Wraps, hid, hlen, h.index, e.length_bytes]
  constructor
  · rintro ⟨-, -, hwrap⟩
    omega
  · intro hlt
    exact ⟨h.index ▸ hin, he, by omega⟩

/-- Skipping leaves the memory as it is. -/
theorem mem_of_next {t : Strip} (h : At pre (e :: es) rest s) (he : e.id ≠ BEACON_COUNTRY_IE)
    (hnext : turn s = .next t) : t.mem = s.mem := by
  have hturn : turn s = .next (s.skip (s.mem (s.index.toNat + 1))) := by
    simp only [turn, h.in_frame.1, h.mem_eq.1, he, h.in_frame.2, if_false]
  rw [hturn] at hnext
  obtain rfl := Turn.next.inj hnext
  rfl

/-- The loop comes to the end of the elements. The induction is on the elements; a country element
leaves the place, and another one the memory. -/
theorem exists_at_end (h : At pre es rest s)
    (hle : pre.length + (ieBytes (kept es)).length ≤ 255) :
    ∃ u, At (pre ++ ieBytes (kept es)) [] rest u ∧
      u.mem = leftBehind pre.length es s.len s.mem ∧ ∀ P, EndsIn P s ↔ EndsIn P u := by
  induction es generalizing pre s with
  | nil =>
    refine ⟨s, ?_, rfl, fun P => Iff.rfl⟩
    rw [show ieBytes (kept []) = [] from rfl, List.append_nil]
    exact h
  | cons e es ih =>
    by_cases he : e.id = BEACON_COUNTRY_IE
    · have hkept : kept (e :: es) = kept es := List.filter_cons_of_neg (by simp [he])
      rw [hkept] at hle ⊢
      obtain ⟨hturn, ht⟩ := h.turn_country he
      obtain ⟨u, hu, hmem, hiff⟩ := ih ht hle
      refine ⟨u, hu, ?_, fun P =>
        (endsIn_of_next (h.not_wraps_of_country he) hturn).trans (hiff P)⟩
      rw [hmem, leftBehind, if_pos he, e.length_bytes]
      simp only [Strip.cut, h.index, Nat.sub_sub, Nat.add_assoc]
    · have hkept : kept (e :: es) = e :: kept es := List.filter_cons_of_pos (by simp [he])
      rw [hkept, ieBytes_cons] at hle ⊢
      rw [List.length_append] at hle
      obtain ⟨t, hturn, ht⟩ := h.turn_kept he (by omega)
      have hwrap : ¬ s.Wraps := by
        rw [h.wraps_iff he]
        omega
      obtain ⟨u, hu, hmem, hiff⟩ := ih ht (by rw [List.length_append]; omega)
      rw [List.append_assoc] at hu
      refine ⟨u, hu, ?_, fun P => (endsIn_of_next hwrap hturn).trans (hiff P)⟩
      rw [hmem, leftBehind, if_neg he, List.length_append, h.mem_of_next he hturn, ht.len, h.len,
        List.length_append, ieBytes_cons, List.length_append]
      congr 1
      omega

/-- If more is left the index wraps. -/
theorem not_endsIn (h : At pre es rest s)
    (hlt : 255 < pre.length + (ieBytes (kept es)).length) : ¬ EndsIn P s := by
  induction es generalizing pre s with
  | nil =>
    have := s.index.isLt
    rw [h.index] at this
    rw [show ieBytes (kept []) = [] from rfl, List.length_nil] at hlt
    omega
  | cons e es ih =>
    by_cases he : e.id = BEACON_COUNTRY_IE
    · have hkept : kept (e :: es) = kept es := List.filter_cons_of_neg (by simp [he])
      rw [hkept] at hlt
      obtain ⟨hturn, ht⟩ := h.turn_country he
      rw [endsIn_of_next (h.not_wraps_of_country he) hturn]
      exact ih ht hlt
    · have hkept : kept (e :: es) = e :: kept es := List.filter_cons_of_pos (by simp [he])
      rw [hkept, ieBytes_cons, List.length_append] at hlt
      by_cases hwrap : 255 < pre.length + e.bytes.length
      · exact not_endsIn_of_wraps ((h.wraps_iff he).2 hwrap)
      · obtain ⟨t, hturn, ht⟩ := h.turn_kept he (Nat.le_of_not_lt hwrap)
        rw [endsIn_of_next (fun hw => hwrap ((h.wraps_iff he).1 hw)) hturn]
        exact ih ht (by rw [List.length_append]; omega)

/-! ## The incomplete element -/

/-- The first byte of an incomplete element, and how far the beacon goes. -/
theorem mem_rest_head {id : BitVec 8} {tail : List (BitVec 8)} (h : At pre [] (id :: tail) s) :
    s.mem s.index.toNat = id ∧ s.len = s.index.toNat + 1 + tail.length := by
  have hall := (ByteMemory.holds_append.1 h.holds).2
  have hid := hall 0 (by simp)
  have hlen := h.len
  simp only [ieBytes_nil, List.length_nil, List.length_cons, Nat.zero_add] at hlen
  rw [Nat.zero_add] at hid
  rw [h.index]
  exact ⟨hid, by omega⟩

/-- The length byte leads out of the beacon. -/
theorem len_lt_of_truncated {id : BitVec 8} {tail : List (BitVec 8)}
    (h : At pre [] (id :: tail) s) (hrest : Truncated (id :: tail)) :
    s.len < s.index.toNat + 2 + (s.mem (s.index.toNat + 1)).toNat := by
  have hlen := h.mem_rest_head.2
  cases tail with
  | nil =>
    rw [List.length_nil] at hlen
    omega
  | cons k body =>
    have hk := h.mem_rest.2
    have := hrest.2 k (by simp)
    rw [hk]
    simp only [List.length_cons] at hlen this
    omega

/-- What an incomplete element asks for. -/
theorem endsIn_rest {room : ℕ} {id : BitVec 8} {tail : List (BitVec 8)}
    (h : At pre [] (id :: tail) s) (hrest : Truncated (id :: tail)) :
    EndsIn (Sendable room) s ↔
      (id ≠ BEACON_COUNTRY_IE ∧ s.index.toNat + 2 + (s.mem (s.index.toNat + 1)).toNat ≤ 255) ∧
        Sendable room s := by
  obtain ⟨hid, hlen⟩ := h.mem_rest_head
  have hout := h.len_lt_of_truncated hrest
  have hin : ¬ s.len ≤ s.index.toNat := by omega
  by_cases hcountry : id = BEACON_COUNTRY_IE
  · -- `memmove` gets a negative length
    have hmove : s.len < s.index.toNat + (s.mem (s.index.toNat + 1)).toNat + 2 := by omega
    have hturn : turn s = .oops := by
      simp only [turn, hin, hid, hcountry, hmove, if_true, if_false]
    exact iff_of_false (not_endsIn_of_oops hturn) fun hr => hr.1.1 hcountry
  · by_cases hfit : s.index.toNat + 2 + (s.mem (s.index.toNat + 1)).toNat ≤ 255
    · have hwrap : ¬ s.Wraps := fun hw => by
        have := hw.2.2
        omega
      have hturn : turn s = .next (s.look.skip (s.mem (s.index.toNat + 1))) := by
        simp only [turn, hin, hid, hcountry, if_false]
      have hend : turn (s.look.skip (s.mem (s.index.toNat + 1))) = .done := by
        rw [turn_eq_done_iff]
        show s.len ≤ (s.index + (2 + s.mem (s.index.toNat + 1))).toNat
        rw [BitVec.toNat_add, BitVec.toNat_add]
        show _ ≤ (_ + (2 + _) % 2 ^ 8) % 2 ^ 8
        omega
      rw [endsIn_of_next hwrap hturn, endsIn_of_done hend, and_iff_right ⟨hcountry, hfit⟩]
      rfl
    · have hwraps : s.Wraps := ⟨by omega, by rwa [hid], by omega⟩
      exact iff_of_false (not_endsIn_of_wraps hwraps) fun hr => hfit hr.1.2

end At

/-! ## Beacons -/

/-- A length of twelve bits can be read back. -/
theorem toNat_lengthWord_of_lt {len : ℕ} (h : len < 4096) :
    (lengthWord len &&& 0xfff).toNat = len := by
  show (len % 2 ^ 16 ||| 5 * 2 ^ 12) &&& (2 ^ 12 - 1) = len
  rw [Nat.and_two_pow_sub_one_eq_mod, Nat.or_mod_two_pow, Nat.mul_mod_left, Nat.or_zero]
  omega

/-- A state whose first word is made from the length. -/
theorem sendable_iff {room : ℕ} {s : Strip} (hroom : room ≤ 4096)
    (hword : s.descWord0 = lengthWord s.len) : Sendable room s ↔ s.len + 16 ≤ room := by
  rw [Sendable, hword]
  exact and_iff_left_of_imp fun h => toNat_lengthWord_of_lt (by omega)

namespace BcnFrame

variable (f : BcnFrame) (behind : ByteMemory)

/-- The length byte of the incomplete element, which may stand behind the beacon that is left. -/
def lenByte : BitVec 8 :=
  match f.rest with
  | _ :: k :: _ => k
  | _ => leftBehind 36 f.ies f.bytes.length (behind.override f.bytes) (f.keptLen + f.rest.length)

/-- The index stays below 256: what is left of the complete elements has at most 255 bytes, and an
incomplete element is not a country element and would end there, too. -/
def IndexFits : Prop :=
  f.keptLen ≤ 255 ∧
    ∀ id ∈ f.rest.head?, id ≠ BEACON_COUNTRY_IE ∧ f.keptLen + 2 + (f.lenByte behind).toNat ≤ 255

/-- The beacons that come through the loop and can be sent. -/
theorem endsIn_iff {room : ℕ} (hroom : room ≤ 4096) :
    EndsIn (Sendable room) (f.start behind) ↔
      f.IndexFits behind ∧ f.keptLen + f.rest.length + 16 ≤ room := by
  have hkept := f.length_header_kept
  have hstart := f.at_start behind
  by_cases hle : f.keptLen ≤ 255
  · obtain ⟨u, hu, hmem, hiff⟩ := hstart.exists_at_end (by
      rw [← List.length_append, hkept]
      exact hle)
    have hindex : u.index.toNat = f.keptLen := hu.index.trans hkept
    have hlen := hu.len
    rw [hkept, ieBytes_nil, List.length_nil, Nat.zero_add] at hlen
    rw [hiff, IndexFits, and_iff_right hle]
    cases hrest : f.rest with
    | nil =>
      rw [hrest] at hu hlen
      rw [endsIn_of_done hu.turn_end, sendable_iff hroom hu.word, hlen]
      simp
    | cons id tail =>
      rw [hrest] at hu hlen
      have hbyte : u.mem (u.index.toNat + 1) = f.lenByte behind := by
        rw [lenByte, hrest]
        cases tail with
        | nil =>
          rw [hmem, hindex, f.length_header]
          rfl
        | cons k body => exact hu.mem_rest.2
      have htrunc : Truncated (id :: tail) := hrest ▸ f.truncated (by rw [hrest]; simp)
      rw [hu.endsIn_rest htrunc, sendable_iff hroom hu.word, hbyte, hindex, hlen]
      simp
  · refine iff_of_false (hstart.not_endsIn ?_) fun h => hle h.1.1
    rw [← List.length_append, hkept]
    exact Nat.lt_of_not_le hle

end BcnFrame

end Beacon
