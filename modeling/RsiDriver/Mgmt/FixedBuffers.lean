import Mathlib.Algebra.Order.Group.Int
import Mathlib.Algebra.Ring.Int.Defs
import Mathlib.Data.Int.Notation
import Mathlib.Tactic.SplitIfs
import RsiDriver.Mgmt.BeaconIndex

/-!
# Frames of variable length in buffers of fixed size

Four builders allocate a buffer before they know how much will be put into it: `rsi_send_beacon`
takes the beacon of mac80211, `rsi_get_beacon_meas` the probe request that was stored for background
scans, `rsi_send_bgscan_probe_req` the probe request of mac80211 with the elements of the scan, and
`rsi_rrm_parse_radio_action_frame` the request that was received. None of them compares the length
with the size of its buffer.

A builder is described by what it writes into its buffer, by the length that it puts there with
`skb_put`, and by its variables of eight bits. Lengths that are given to `memcpy` have 64 bits, so
that a negative one is large.

## Main results

* `getBeaconMeas_bounded_iff`: the measurements of beacons that keep to their buffer and wrap no
  variable;
* `call_keeps_iff`: the calls that do so, with a length field that counts what was put behind the
  descriptor;
* `not_keeps_longBeacon`: a beacon of 497 bytes.
-/

namespace FixedBuf

open Beacon (BcnFrame)

/-- `MAX_MGMT_PKT_SIZE` -/
def MAX_MGMT_PKT_SIZE : ℕ := 512
/-- `FRAME_DESC_SZ` -/
def FRAME_DESC_SZ : ℕ := 16
/-- `MIN_802_11_HDR_LEN` -/
def MIN_802_11_HDR_LEN : ℕ := 24
/-- `MAX_RRM_REQ` -/
def MAX_RRM_REQ : ℕ := 5
/-- `RSI_WIFI_MGMT_Q << 12` -/
def MGMT_Q : BitVec 16 := 0x4000

/-- A number as `memcpy` takes it. -/
def sizeT (n : ℤ) : ℕ := (n % 2 ^ 64).toNat

/-- A frame that was built: the room in its buffer, the ranges of bytes that were written there,
`skb->len`, and, for a frame to the device, its first word. -/
structure Built where
  room : ℕ
  writes : List ByteRange
  len : ℕ
  word0 : Option (BitVec 16)
  /-- A variable of eight bits has wrapped. -/
  wrapped : Bool
  deriving DecidableEq, Repr

/-- Nothing is written behind the buffer, and no variable has wrapped. -/
def Built.Bounded (b : Built) : Prop :=
  (∀ r ∈ b.writes, r.Within b.room) ∧ b.len ≤ b.room ∧ b.wrapped = false

instance (b : Built) : Decidable b.Bounded := inferInstanceAs (Decidable (_ ∧ _))

/-- The bytes that were put behind the descriptor, one after the other. -/
def Built.placed (b : Built) : ℕ :=
  ((b.writes.map fun r => r.start + r.size).foldl max 0) - FRAME_DESC_SZ

/-- The length field of the first word counts them. -/
def Built.LengthOk (b : Built) : Prop := ∀ w ∈ b.word0, (w &&& 0xfff).toNat = b.placed

instance (b : Built) : Decidable b.LengthOk := by
  unfold Built.LengthOk
  cases b.word0 with
  | none => exact isTrue (by simp)
  | some w => exact decidable_of_iff ((w &&& 0xfff).toNat = b.placed) (by simp)

/-! ## The measurement of beacons -/

/-- The size of `struct rsi_bcn_meas_req`, with the descriptor. -/
def BCN_MEAS_REQ_SIZE : ℕ := 56

/-- What `rsi_get_beacon_meas` goes by. -/
structure BeaconMeas where
  /-- `dev_alloc_skb` succeeds. -/
  alloc : Bool
  /-- `params.meas_mode` -/
  measMode : BitVec 8
  /-- `params.ssid_ie[1]` -/
  ssidLen : BitVec 8
  bgscanProbeReqLen : BitVec 32
  deriving DecidableEq, Repr

/-- The probe request of an active measurement: what is written, `index`, and whether it has
wrapped. -/
def bgscanProbe (a : BeaconMeas) : List ByteRange × BitVec 8 × Bool :=
  let ssid := 2 + a.ssidLen.toNat
  -- `index += 2 + params.ssid_ie[1]`
  let index : BitVec 8 := 24 + (2 + a.ssidLen)
  let wraps₁ := decide (256 ≤ 24 + ssid)
  let rest : ℤ := a.bgscanProbeReqLen.toInt - MIN_802_11_HDR_LEN - 2
  let index' := index + BitVec.ofInt 8 rest
  let wraps₂ := decide (index.toNat + rest < 0 ∨ 256 ≤ index.toNat + rest)
  ([⟨BCN_MEAS_REQ_SIZE, MIN_802_11_HDR_LEN⟩, ⟨BCN_MEAS_REQ_SIZE + 24, ssid⟩,
    ⟨BCN_MEAS_REQ_SIZE + index.toNat, sizeT rest⟩], index', wraps₁ || wraps₂)

/-- `rsi_get_beacon_meas`; `length` is a variable of eight bits, too. -/
def getBeaconMeas (a : BeaconMeas) : Option Built :=
  if a.alloc = false then none
  else
    let (probe, index, wrapped) := if a.measMode = 1 then bgscanProbe a else ([], 0, false)
    let length := FRAME_DESC_SZ + BCN_MEAS_REQ_SIZE + index.toNat
    some
      { room := MAX_MGMT_PKT_SIZE
        writes := ⟨0, BCN_MEAS_REQ_SIZE⟩ :: probe
        len := length
        word0 := some (MGMT_Q ||| BitVec.ofNat 16 (BCN_MEAS_REQ_SIZE + index.toNat))
        wrapped := wrapped || decide (256 ≤ length) }

/-! ## The probe request of a background scan -/

/-- The size of `struct rsi_bgscan_probe`. -/
def BGSCAN_PROBE_SIZE : ℕ := 26

/-- What `rsi_send_bgscan_probe_req` goes by. -/
structure BgscanProbeReq where
  /-- `dev_alloc_skb` succeeds. -/
  alloc : Bool
  /-- There is an interface. -/
  vif : Bool
  /-- The length of what `ieee80211_probereq_get` returns, with the SSID element in it. -/
  probereq : Option ℕ
  /-- `scan_req->ie_len` -/
  ieLen : ℕ
  deriving DecidableEq, Repr

/-- `rsi_send_bgscan_probe_req`; `pbreq_len` has 16 bits. -/
def sendBgscanProbeReq (a : BgscanProbeReq) : Option Built :=
  if a.alloc = false ∨ a.vif = false then none
  else
    a.probereq.map fun len =>
      let pbreqLen := BitVec.ofNat 16 (len + a.ieLen)
      { room := BGSCAN_PROBE_SIZE + 1500
        writes := [⟨0, BGSCAN_PROBE_SIZE⟩, ⟨BGSCAN_PROBE_SIZE, len + a.ieLen⟩]
        len := BGSCAN_PROBE_SIZE + pbreqLen.toNat
        word0 := some (BitVec.ofNat 16 (BGSCAN_PROBE_SIZE - FRAME_DESC_SZ + pbreqLen.toNat) |||
          MGMT_Q)
        wrapped := false }

/-! ## A measurement request -/

/-- What `rsi_rrm_parse_radio_action_frame` goes by. -/
structure RadioAction where
  numPendRrmReqs : ℕ
  /-- `dev_alloc_skb` succeeds. -/
  alloc : Bool
  msgLen : ℕ
  deriving DecidableEq, Repr

/-- `rsi_rrm_parse_radio_action_frame`; the frame that it queues is the one that was received. -/
def rrmParseRadioActionFrame (a : RadioAction) : Option Built :=
  if MAX_RRM_REQ < a.numPendRrmReqs ∨ a.alloc = false then none
  else
    some
      { room := MAX_MGMT_PKT_SIZE
        writes := [⟨0, a.msgLen⟩]
        len := a.msgLen
        word0 := none
        wrapped := false }

/-! ## The beacon -/

/-- What `rsi_send_beacon` goes by. -/
structure SendBeacon where
  /-- `dev_alloc_skb` succeeds. -/
  alloc : Bool
  /-- `skb->data & 0x3f` -/
  dwordAlignBytes : BitVec 6
  /-- The bytes that `skb_pull` takes from the empty buffer if it is asked to. -/
  skbPull : ℕ → ℕ
  acxModule : Bool
  /-- The beacon of mac80211, and what stands behind it. -/
  macBcn : Option (List (BitVec 8))
  behind : ByteMemory

/-- What the buffer has room for. -/
def SendBeacon.room (a : SendBeacon) : ℕ :=
  MAX_MGMT_PKT_SIZE -
    if a.dwordAlignBytes = 0 then 0 else a.skbPull (64 - a.dwordAlignBytes.toNat)

/-- The state in front of the loop of `rsi_prepare_beacon`. -/
def SendBeacon.start (a : SendBeacon) (bcn : List (BitVec 8)) : Beacon.Strip where
  mem := a.behind.override bcn
  len := bcn.length
  index := 36
  descWord0 := Beacon.lengthWord bcn.length
  strayed := false

/-- The frame, once the elements are as they should be. -/
def SendBeacon.built (a : SendBeacon) (s : Beacon.Strip) : Built where
  room := a.room
  writes := [⟨0, FRAME_DESC_SZ⟩, ⟨FRAME_DESC_SZ, s.len⟩]
  len := s.len + FRAME_DESC_SZ
  word0 := some s.descWord0
  wrapped := false

/-- `rsi_send_beacon` and `rsi_prepare_beacon` have built a frame with the property `P`. The loop
over the elements, which is for an ACx module, has ended, and its index has not wrapped. -/
def SendBeacon.BuiltWith (a : SendBeacon) (P : Built → Prop) (bcn : List (BitVec 8)) : Prop :=
  if a.acxModule = true then Beacon.EndsIn (fun s => P (a.built s)) (a.start bcn)
  else P (a.built (a.start bcn))

/-! ## The four builders -/

/-- A call of a builder. -/
inductive Call
  | sendBeacon (a : SendBeacon)
  | getBeaconMeas (a : BeaconMeas)
  | sendBgscanProbeReq (a : BgscanProbeReq)
  | rrmParseRadioActionFrame (a : RadioAction)

/-- The input is rejected, or a frame with the property `P` is built. -/
def Call.RejectsOr (P : Built → Prop) : Call → Prop
  | .sendBeacon a => a.alloc = true → ∀ bcn ∈ a.macBcn, a.BuiltWith P bcn
  | .getBeaconMeas a => ∀ b ∈ FixedBuf.getBeaconMeas a, P b
  | .sendBgscanProbeReq a => ∀ b ∈ FixedBuf.sendBgscanProbeReq a, P b
  | .rrmParseRadioActionFrame a => ∀ b ∈ FixedBuf.rrmParseRadioActionFrame a, P b

/-- The call keeps to its buffer and wraps no variable, and the length field counts what was put
behind the descriptor. -/
def Call.Keeps (c : Call) : Prop := c.RejectsOr fun b => b.Bounded ∧ b.LengthOk

/-- The beacon fits. -/
def SendBeacon.Fits (a : SendBeacon) (bcn : List (BitVec 8)) : Prop :=
  if a.acxModule = true ∧ 36 ≤ bcn.length then
    ∀ f : BcnFrame, f.bytes = bcn →
      f.IndexFits a.behind ∧ f.keptLen + f.rest.length + FRAME_DESC_SZ ≤ a.room
  else bcn.length + FRAME_DESC_SZ ≤ a.room

/-- The lengths fit the buffer, and what is counted fits into eight bits. -/
def Call.Fits : Call → Prop
  | .sendBeacon a => a.alloc = true → ∀ bcn ∈ a.macBcn, a.Fits bcn
  | .getBeaconMeas a => a.alloc = true → a.measMode = 1 →
    26 ≤ a.bgscanProbeReqLen.toInt ∧ a.bgscanProbeReqLen.toInt + a.ssidLen.toNat ≤ 183
  | .sendBgscanProbeReq a => a.alloc = true → a.vif = true →
    ∀ len ∈ a.probereq, len + a.ieLen ≤ 1500
  | .rrmParseRadioActionFrame a =>
    a.numPendRrmReqs ≤ MAX_RRM_REQ → a.alloc = true → a.msgLen ≤ MAX_MGMT_PKT_SIZE

/-- The call sends a measurement of beacons, whose length field counts the descriptor. -/
def Call.SendsBeaconMeas : Call → Prop
  | .getBeaconMeas a => a.alloc = true
  | _ => False

/-! ## Each builder -/

section Builders

/-- A length that is not negative is taken as it is. -/
theorem sizeT_of_nonneg {n : ℤ} (h : 0 ≤ n) (hlt : n < 2 ^ 63) : (sizeT n : ℤ) = n := by
  rw [sizeT]
  omega

/-- A negative length is larger than any buffer. -/
theorem le_sizeT_of_neg {n : ℤ} (h : n < 0) (hle : -2 ^ 63 ≤ n) : 2 ^ 63 ≤ sizeT n := by
  rw [sizeT]
  omega

/-- An active measurement keeps to its buffer, and its two variables do not wrap. -/
theorem getBeaconMeas_bounded_iff (a : BeaconMeas) :
    (∀ b ∈ getBeaconMeas a, b.Bounded) ↔ Call.Fits (.getBeaconMeas a) := by
  rw [Call.Fits]
  cases halloc : a.alloc with
  | false => simp [getBeaconMeas, halloc]
  | true =>
    by_cases hmode : a.measMode = 1
    · have hssid := a.ssidLen.isLt
      have hlow := a.bgscanProbeReqLen.le_toInt
      have hhigh := a.bgscanProbeReqLen.toInt_lt
      -- the two sums of `index`
      have hindex : (24 + (2 + a.ssidLen) : BitVec 8).toNat = (26 + a.ssidLen.toNat) % 256 := by
        rw [BitVec.toNat_add, BitVec.toNat_add]
        show (24 + (2 + _) % 2 ^ 8) % 2 ^ 8 = _
        omega
      have hindex' (rest : ℤ) : ((24 + (2 + a.ssidLen) + BitVec.ofInt 8 rest).toNat : ℤ) =
          (((26 + a.ssidLen.toNat) % 256 : ℕ) + rest) % 256 := by
        rw [BitVec.toNat_add, hindex, BitVec.toNat_ofInt]
        omega
      have hend := hindex' (a.bgscanProbeReqLen.toInt - MIN_802_11_HDR_LEN - 2)
      simp only [getBeaconMeas, halloc, hmode, bgscanProbe, if_true, Bool.true_eq_false, if_false,
        Option.mem_def, Option.some_inj, forall_eq', Built.Bounded, List.forall_mem_cons,
        List.not_mem_nil, false_implies, implies_true, and_true, ByteRange.Within,
        Bool.or_eq_false_iff, decide_eq_false_iff_not, true_implies, BCN_MEAS_REQ_SIZE,
        MAX_MGMT_PKT_SIZE, FRAME_DESC_SZ, MIN_802_11_HDR_LEN, hindex] at hend ⊢
      constructor
      · rintro ⟨⟨-, -, -, hcopy⟩, -, ⟨hwrap₁, hwrap₂⟩, hlength⟩
        have hpos : 26 ≤ a.bgscanProbeReqLen.toInt := by
          by_contra hneg
          have := le_sizeT_of_neg (n := a.bgscanProbeReqLen.toInt - (24 : ℕ) - 2) (by omega)
            (by omega)
          omega
        omega
      · rintro ⟨hpos, hle⟩
        have hsize := sizeT_of_nonneg (n := a.bgscanProbeReqLen.toInt - (24 : ℕ) - 2) (by omega)
          (by omega)
        omega
    · simp only [getBeaconMeas, halloc, hmode, Bool.true_eq_false, if_false, Option.mem_def,
        Option.some_inj, forall_eq']
      exact iff_of_true (by decide) (by simp)

theorem sendBgscanProbeReq_bounded_iff (a : BgscanProbeReq) :
    (∀ b ∈ sendBgscanProbeReq a, b.Bounded) ↔ Call.Fits (.sendBgscanProbeReq a) := by
  rw [Call.Fits]
  by_cases hnone : a.alloc = false ∨ a.vif = false
  · rw [sendBgscanProbeReq, if_pos hnone]
    refine iff_of_true (by simp) fun halloc hvif => ?_
    simp [halloc, hvif] at hnone
  · obtain ⟨halloc, hvif⟩ : a.alloc = true ∧ a.vif = true := by simpa using hnone
    rw [sendBgscanProbeReq, if_neg hnone]
    cases hpb : a.probereq with
    | none => simp
    | some len =>
      simp only [Option.map_some, Option.mem_def, Option.some_inj, forall_eq', Built.Bounded,
        List.forall_mem_cons, List.not_mem_nil, false_implies, implies_true, and_true,
        ByteRange.Within, BGSCAN_PROBE_SIZE, BitVec.toNat_ofNat, halloc, hvif, true_implies]
      omega

theorem rrmParseRadioActionFrame_bounded_iff (a : RadioAction) :
    (∀ b ∈ rrmParseRadioActionFrame a, b.Bounded) ↔ Call.Fits (.rrmParseRadioActionFrame a) := by
  rw [Call.Fits]
  by_cases hnone : MAX_RRM_REQ < a.numPendRrmReqs ∨ a.alloc = false
  · rw [rrmParseRadioActionFrame, if_pos hnone]
    refine iff_of_true (by simp) fun hnum halloc => ?_
    rcases hnone with hlt | hfail
    · omega
    · simp [halloc] at hfail
  · obtain ⟨hnum, halloc⟩ : a.numPendRrmReqs ≤ MAX_RRM_REQ ∧ a.alloc = true := by simpa using hnone
    rw [rrmParseRadioActionFrame, if_neg hnone]
    simp only [Option.mem_def, Option.some_inj, forall_eq', Built.Bounded, List.forall_mem_cons,
      List.not_mem_nil, false_implies, implies_true, and_true, ByteRange.Within, hnum, halloc,
      true_implies]
    omega

/-- The length field of a measurement of beacons has the size of the descriptor in it. -/
theorem getBeaconMeas_not_lengthOk {a : BeaconMeas} {b : Built} (hb : b ∈ getBeaconMeas a)
    (hfit : Call.Fits (.getBeaconMeas a)) : ¬ b.LengthOk := by
  rw [Call.Fits] at hfit
  cases halloc : a.alloc with
  | false => simp [getBeaconMeas, halloc] at hb
  | true =>
    have hfield {n : ℕ} (hn : n < 4096) :
        ((MGMT_Q ||| BitVec.ofNat 16 n) &&& 0xfff).toNat = n := by
      show (4 * 2 ^ 12 ||| n % 2 ^ 16) &&& (2 ^ 12 - 1) = n
      rw [Nat.and_two_pow_sub_one_eq_mod, Nat.or_mod_two_pow, Nat.mul_mod_left, Nat.zero_or]
      omega
    by_cases hmode : a.measMode = 1
    · obtain ⟨hpos, hle⟩ := hfit halloc hmode
      have hsize := sizeT_of_nonneg (n := a.bgscanProbeReqLen.toInt - (24 : ℕ) - 2) (by omega)
        (by omega)
      have hindex : (24 + (2 + a.ssidLen) : BitVec 8).toNat = 26 + a.ssidLen.toNat := by
        rw [BitVec.toNat_add, BitVec.toNat_add]
        show (24 + (2 + _) % 2 ^ 8) % 2 ^ 8 = _
        omega
      have hend : ((24 + (2 + a.ssidLen) +
          BitVec.ofInt 8 (a.bgscanProbeReqLen.toInt - (24 : ℕ) - 2)).toNat : ℤ) =
          a.bgscanProbeReqLen.toInt + a.ssidLen.toNat := by
        rw [BitVec.toNat_add, hindex, BitVec.toNat_ofInt]
        omega
      simp only [getBeaconMeas, halloc, hmode, bgscanProbe, if_true, Bool.true_eq_false, if_false,
        Option.mem_def, Option.some_inj, MIN_802_11_HDR_LEN] at hb
      obtain rfl := hb
      intro hok
      have heq := hok _ rfl
      rw [hfield (by rw [BCN_MEAS_REQ_SIZE]; omega)] at heq
      simp only [Built.placed, BCN_MEAS_REQ_SIZE, FRAME_DESC_SZ, List.map_cons, List.map_nil,
        List.foldl_cons, List.foldl_nil, hindex] at heq
      omega
    · simp only [getBeaconMeas, halloc, hmode, Bool.true_eq_false, if_false, Option.mem_def,
        Option.some_inj] at hb
      obtain rfl := hb
      decide

theorem sendBgscanProbeReq_lengthOk {a : BgscanProbeReq} {b : Built}
    (hb : b ∈ sendBgscanProbeReq a) (hbounded : b.Bounded) : b.LengthOk := by
  rw [sendBgscanProbeReq] at hb
  split_ifs at hb with hnone
  · simp at hb
  · obtain ⟨len, -, rfl⟩ := Option.map_eq_some_iff.1 hb
    have hroom := hbounded.1 ⟨26, len + a.ieLen⟩ (by simp [BGSCAN_PROBE_SIZE])
    simp only [ByteRange.Within, BGSCAN_PROBE_SIZE] at hroom
    rintro w hw
    obtain rfl := Option.some_inj.1 hw
    simp only [Built.placed, BGSCAN_PROBE_SIZE, FRAME_DESC_SZ, List.map_cons, List.map_nil,
      List.foldl_cons, List.foldl_nil, BitVec.toNat_ofNat]
    show ((26 - 16 + (len + a.ieLen) % 2 ^ 16) % 2 ^ 16 ||| 4 * 2 ^ 12) &&& (2 ^ 12 - 1) = _
    rw [Nat.and_two_pow_sub_one_eq_mod, Nat.or_mod_two_pow, Nat.mul_mod_left, Nat.or_zero]
    omega

/-- The frame of a beacon. -/
theorem built_keeps_iff (a : SendBeacon) (s : Beacon.Strip) :
    ((a.built s).Bounded ∧ (a.built s).LengthOk) ↔ Beacon.Sendable a.room s := by
  have hlength : (a.built s).LengthOk ↔ (s.descWord0 &&& 0xfff).toNat = s.len := by
    simp only [Built.LengthOk, SendBeacon.built, Built.placed, Option.mem_def, Option.some_inj,
      forall_eq', FRAME_DESC_SZ, List.map_cons, List.map_nil, List.foldl_cons, List.foldl_nil]
    omega
  rw [hlength, Beacon.Sendable]
  refine and_congr_left' ?_
  simp only [Built.Bounded, SendBeacon.built, List.forall_mem_cons, List.not_mem_nil,
    false_implies, implies_true, and_true, ByteRange.Within, FRAME_DESC_SZ]
  omega

theorem sendBeacon_keeps_iff (a : SendBeacon) (bcn : List (BitVec 8)) :
    a.BuiltWith (fun b => b.Bounded ∧ b.LengthOk) bcn ↔ a.Fits bcn := by
  have hroom : a.room ≤ 4096 := Nat.le_trans (Nat.sub_le _ _) (by decide)
  have hplain : Beacon.Sendable a.room (a.start bcn) ↔ bcn.length + FRAME_DESC_SZ ≤ a.room :=
    Beacon.sendable_iff hroom rfl
  rw [SendBeacon.BuiltWith, SendBeacon.Fits]
  simp only [built_keeps_iff]
  by_cases hacx : a.acxModule = true
  · rw [if_pos hacx]
    by_cases hlen : 36 ≤ bcn.length
    · rw [if_pos ⟨hacx, hlen⟩]
      constructor
      · rintro h f rfl
        exact (f.endsIn_iff a.behind hroom).1 h
      · intro h
        obtain ⟨f, rfl⟩ := Beacon.exists_bcnFrame bcn hlen
        exact (f.endsIn_iff a.behind hroom).2 (h f rfl)
    · -- the loop has nothing to do
      rw [if_neg fun h => hlen h.2, ← hplain]
      apply Beacon.endsIn_of_done
      rw [Beacon.turn_eq_done_iff]
      exact Nat.le_of_lt (Nat.lt_of_not_le hlen)
  · rw [if_neg hacx, if_neg fun h => hacx h.1, hplain]

end Builders

/-- A builder keeps to its buffer, wraps no variable and tells the length if and only if the lengths
fit and it does not send a measurement of beacons. -/
theorem call_keeps_iff (c : Call) : c.Keeps ↔ c.Fits ∧ ¬ c.SendsBeaconMeas := by
  cases c with
  | sendBeacon a =>
    simp only [Call.Keeps, Call.RejectsOr, Call.Fits, Call.SendsBeaconMeas, not_false_eq_true,
      and_true, sendBeacon_keeps_iff]
  | getBeaconMeas a =>
    rw [Call.SendsBeaconMeas]
    constructor
    · intro h
      have hfit := (getBeaconMeas_bounded_iff a).1 fun b hb => (h b hb).1
      refine ⟨hfit, fun halloc => ?_⟩
      obtain ⟨b, hb⟩ : ∃ b, b ∈ getBeaconMeas a := by simp [getBeaconMeas, halloc]
      exact getBeaconMeas_not_lengthOk hb hfit (h b hb).2
    · rintro ⟨-, halloc⟩ b hb
      simp [getBeaconMeas, halloc] at hb
  | sendBgscanProbeReq a =>
    have hnot : ¬ Call.SendsBeaconMeas (.sendBgscanProbeReq a) := not_false
    rw [and_iff_left hnot, ← sendBgscanProbeReq_bounded_iff]
    exact ⟨fun h b hb => (h b hb).1,
      fun h b hb => ⟨h b hb, sendBgscanProbeReq_lengthOk hb (h b hb)⟩⟩
  | rrmParseRadioActionFrame a =>
    have hnot : ¬ Call.SendsBeaconMeas (.rrmParseRadioActionFrame a) := not_false
    rw [and_iff_left hnot, ← rrmParseRadioActionFrame_bounded_iff]
    refine ⟨fun h b hb => (h b hb).1, fun h b hb => ⟨h b hb, ?_⟩⟩
    -- there is no length field
    rw [rrmParseRadioActionFrame] at hb
    split_ifs at hb
    · simp at hb
    · obtain rfl := Option.some_inj.1 hb
      simp [Built.LengthOk]

/-- A beacon of 497 bytes in an aligned buffer. -/
def longBeacon : Call :=
  .sendBeacon
    { alloc := true
      dwordAlignBytes := 0
      skbPull := fun _ => 0
      acxModule := false
      macBcn := some (List.replicate 497 0)
      behind := fun _ => 0 }

/-- It is written behind the end of the buffer. -/
theorem not_keeps_longBeacon : ¬ longBeacon.Keeps := by
  rw [call_keeps_iff]
  rintro ⟨hfits, -⟩
  have h := hfits rfl _ rfl
  rw [SendBeacon.Fits, if_neg (fun h => Bool.false_ne_true h.1), List.length_replicate] at h
  exact absurd h (by decide)

end FixedBuf
