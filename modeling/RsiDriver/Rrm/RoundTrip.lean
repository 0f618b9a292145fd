import RsiDriver.Rrm.Requests

/-!
# Requests that are built and parsed

A build with `RSI_DEBUG_RRM` can send measurement requests: `rsi_rrm_send_channel_load_req`,
`rsi_rrm_send_frame_req` and `rsi_rrm_send_beacon_req` (`rsi_91x_rrm.c`) fill packed structures. The
parsers of the same file read at offsets that are written out, from the end of the 802.11 header on.

Two of the parsers do not read what the builders write. `rsi_rrm_parse_frame_req` takes the address
from the header. The loop of `rsi_rrm_parse_beacon_req` compares an index that counts from the end
of the header with the length of the whole frame, so that it takes 24 bytes behind the frame for
elements; the builder has cleared them, and an element of zeros is an empty SSID.

## Main results

* `Request.readsBack_iff`: which requests read back.
-/

namespace Rrm

/-- A hardware address -/
abbrev EthAddr := Vector (BitVec 8) 6

/-- The interface: `vif->addr` and `bss_conf.bssid` -/
structure Vif where
  addr : EthAddr
  bssid : EthAddr

/-- The parameters that every request has. -/
structure ReqParams where
  regulatoryClass : BitVec 8
  channelNum : BitVec 8
  randInterval : BitVec 16
  measDuration : BitVec 16
  measReqMode : BitVec 8

/-- `struct rsi_chload_meas_req_params` -/
structure ChloadReqParams where
  mp : ReqParams
  macid : EthAddr

/-- `struct rsi_frame_meas_req_params` -/
structure FrameReqParams where
  mp : ReqParams
  destid : EthAddr
  frameReqType : BitVec 8
  macid : EthAddr

/-- `struct rsi_beacon_meas_req_params` -/
structure BeaconReqParams where
  mp : ReqParams
  destid : EthAddr
  measMode : BitVec 8
  bssid : EthAddr
  str : List (BitVec 8)

/-- The string in `str`, up to its end. -/
def BeaconReqParams.ssid (p : BeaconReqParams) : List (BitVec 8) := p.str.takeWhile (· ≠ 0)

/-! ## The builders -/

/-- `struct ieee80211_basic_hdr` of an action frame -/
def basicHdr (addr1 addr2 addr3 : EthAddr) : List (BitVec 8) :=
  [0xd0, 0, 0, 0] ++ addr1.toList ++ addr2.toList ++ addr3.toList ++ [0, 0]

/-- `struct wl_action_req`, `struct rm_element` and the fields that every request has -/
def reqBody (length type : BitVec 8) (p : ReqParams) : List (BitVec 8) :=
  [5, 0, 2, 0, 0] ++ [38, length, 0, p.measReqMode, type] ++ [p.regulatoryClass, p.channelNum] ++
    ByteMemory.le16Bytes p.randInterval.toNat ++ ByteMemory.le16Bytes p.measDuration.toNat

/-- A buffer that is filled with a frame. -/
def putFrame (buf : ByteMemory) (frame : List (BitVec 8)) : Skb :=
  ⟨0, buf.override frame, frame.length⟩

/-- `rsi_rrm_send_channel_load_req`; `buf` is what `dev_alloc_skb` gives. -/
def rrmSendChannelLoadReq (vif : Vif) (p : ChloadReqParams) : Option ByteMemory → Except ℤ Skb
  | none => .error ENOMEM
  | some buf =>
    -- a station that is incapable or refuses
    if p.mp.measReqMode.getLsbD 1 || p.mp.measReqMode.getLsbD 2 then .error EINVAL
    else .ok (putFrame buf (basicHdr p.macid vif.addr vif.bssid ++ reqBody 9 3 p.mp))

/-- `rsi_rrm_send_frame_req` -/
def rrmSendFrameReq (vif : Vif) (p : FrameReqParams) : Option ByteMemory → Except ℤ Skb
  | none => .error ENOMEM
  | some buf =>
    .ok (putFrame buf (basicHdr p.destid vif.addr vif.bssid ++
      (reqBody 16 6 p.mp ++ p.frameReqType :: p.macid.toList)))

/-- The optional elements of a beacon request: the reporting detail and the SSID -/
def beaconOptElems (ssid : List (BitVec 8)) : List (BitVec 8) :=
  let elemLen := BitVec.ofNat 8 ssid.length
  [2, 1, 0] ++ [0, elemLen] ++ ssid.take elemLen.toNat

/-- `sizeof(struct dot11_beacon_meas_req) + MAX_OPT_SUB_ELM_SIZE` -/
def BEACON_REQ_ROOM : ℕ := 47 + 128

/-- `rsi_rrm_send_beacon_req`; the buffer is cleared. -/
def rrmSendBeaconReq (vif : Vif) (p : BeaconReqParams) : Option ByteMemory → Except ℤ Skb
  | none => .error ENOMEM
  | some buf =>
    let optElems := beaconOptElems p.ssid
    .ok (putFrame (buf.override (List.replicate BEACON_REQ_ROOM 0))
      (basicHdr p.destid vif.addr vif.bssid ++
        (reqBody (16 + BitVec.ofNat 8 optElems.length) 5 p.mp ++
          (p.measMode :: p.bssid.toList ++ optElems))))

/-! ## What reads back -/

/-- A request with its parameters. -/
inductive Request
  | channelLoad (p : ChloadReqParams)
  | frame (p : FrameReqParams)
  | beacon (p : BeaconReqParams)

/-- The parser gives the parameters that were sent, and the type of the request. -/
structure SameParams (type : BitVec 8) (p : ReqParams) (q : MeasParams) : Prop where
  regulatoryClass : q.regulatoryClass = p.regulatoryClass
  channelNum : q.channelNum = p.channelNum
  randInterval : q.randInterval = p.randInterval
  measDuration : q.measDuration = p.measDuration
  measReqMode : q.measReqMode = p.measReqMode
  measType : q.measType = type

/-- The element of the request ends where the frame ends. -/
def LengthFits (skb : Skb) : Prop := (skb.data 30).toNat = skb.len - 31

namespace Request

/-- The request as a frame. -/
def send (vif : Vif) : Request → Option ByteMemory → Except ℤ Skb
  | .channelLoad p => rrmSendChannelLoadReq vif p
  | .frame p => rrmSendFrameReq vif p
  | .beacon p => rrmSendBeaconReq vif p

/-- **The request reads back** from its frame: its parser returns 0 and gives every parameter, and
the length of the element is right. -/
def ReadsBack (skb : Skb) : Request → Prop
  | .channelLoad p =>
    LengthFits skb ∧ ∃ q, rrmParseChannelLoadReq skb = .ok q ∧ SameParams 3 p.mp q
  | .frame p =>
    LengthFits skb ∧ ∃ q, rrmParseFrameReq skb = .ok q ∧ SameParams 6 p.mp q.mp ∧
      q.frameReqType = p.frameReqType ∧ q.macAddr = p.macid.toList
  | .beacon p =>
    LengthFits skb ∧ ∃ q, rrmParseBeaconReq skb = .ok q ∧ SameParams 5 p.mp q.mp ∧
      q.measMode = p.measMode ∧ q.macAddr = p.bssid.toList ∧ q.rptDetail = some 0 ∧
      q.ssidIe = some (p.ssid ++ List.replicate (SSID_LEN - p.ssid.length) 0)

/-- The string of a beacon request is shorter than its field. -/
def SsidFits : Request → Prop
  | .beacon p => p.ssid.length < SSID_LEN
  | .channelLoad _ | .frame _ => True

/-- What the parsers leave of a request: the address of a frame request is that part of the header
which they read in its place, and a beacon request is for any SSID. -/
def Survives (vif : Vif) : Request → Prop
  | .channelLoad _ => True
  | .frame p => p.macid.toList = vif.bssid.toList.drop 1 ++ [0]
  | .beacon p => p.ssid = []

end Request

/-! ## The fields in a frame -/

theorem length_basicHdr (addr1 addr2 addr3 : EthAddr) :
    (basicHdr addr1 addr2 addr3).length = 24 := by
  simp [basicHdr]

theorem length_reqBody (length type : BitVec 8) (p : ReqParams) :
    (reqBody length type p).length = 16 := rfl

section Fields

variable {skb : Skb} {addr1 addr2 addr3 : EthAddr} {length type : BitVec 8} {p : ReqParams}
  {rest : List (BitVec 8)}

/-- What follows the header and what follows the fields that every request has. -/
theorem holds_parts (skb : Skb)
    (h : skb.data.Holds 0 (basicHdr addr1 addr2 addr3 ++ (reqBody length type p ++ rest))) :
    skb.data.Holds 24 (reqBody length type p) ∧ skb.data.Holds 40 rest := by
  have hbody := (ByteMemory.holds_append.1 h).2
  rw [length_basicHdr] at hbody
  exact ByteMemory.holds_append.1 hbody

theorem sameParams_of_holds (h : skb.data.Holds 24 (reqBody length type p)) :
    SameParams type p (measParams skb.frm) := by
  have hle : ∀ {k : ℕ} {x : BitVec 16}, skb.data.Holds (24 + k) (ByteMemory.le16Bytes x.toNat) →
      skb.frm.le16 k = x := by
    intro k x hx
    apply BitVec.eq_of_toNat_eq
    exact hx.le16_toNat x.isLt
  have hrand : skb.data.Holds (24 + 12) (ByteMemory.le16Bytes p.randInterval.toNat) :=
    (ByteMemory.holds_append.1 (ByteMemory.holds_append.1 h).1).2
  exact {
    regulatoryClass := h 10 (by simp [length_reqBody])
    channelNum := h 11 (by simp [length_reqBody])
    randInterval := hle hrand
    measDuration := hle (ByteMemory.holds_append.1 h).2
    measReqMode := h 8 (by simp [length_reqBody])
    measType := h 9 (by simp [length_reqBody]) }

theorem lengthFits_iff_of_holds (h : skb.data.Holds 24 (reqBody length type p)) :
    LengthFits skb ↔ length.toNat = skb.len - 31 := by
  have hlength : skb.data 30 = length := h 6 (by simp [length_reqBody])
  rw [LengthFits, hlength]

/-- The address that `rsi_rrm_parse_frame_req` reads: the end of the third address of the header,
and the first byte of the sequence number. -/
theorem bytes_header (skb : Skb) (h : skb.data.Holds 0 (basicHdr addr1 addr2 addr3 ++ rest)) :
    skb.data.bytes 17 6 = addr3.toList.drop 1 ++ [0] := by
  have hhdr := (ByteMemory.holds_append.1 h).1
  have hbytes := hhdr.bytes_drop_take (k := 17) (n := 6) (by simp [length_basicHdr])
  rw [Nat.zero_add] at hbytes
  have hfront :
      ([0xd0, 0, 0, 0] ++ addr1.toList ++ addr2.toList : List (BitVec 8)).length = 16 := by
    simp
  have haddr3 : addr3.toList.length = 6 := by simp
  rw [hbytes, basicHdr, List.append_assoc _ addr3.toList, List.drop_append,
    List.drop_eq_nil_of_le (by omega), hfront, List.nil_append, List.drop_append_of_le_length
    (by omega), List.take_append, List.take_of_length_le (by simp)]
  simp

end Fields

/-! ## The three requests -/

theorem readsBack_channelLoad {vif : Vif} {p : ChloadReqParams} {buf : ByteMemory} {skb : Skb}
    (h : rrmSendChannelLoadReq vif p (some buf) = .ok skb) :
    (Request.channelLoad p).ReadsBack skb := by
  simp only [rrmSendChannelLoadReq] at h
  split at h
  · cases h
  obtain rfl := Except.ok.inj h
  have hframe := ByteMemory.holds_override buf
    (basicHdr p.macid vif.addr vif.bssid ++ reqBody 9 3 p.mp)
  rw [← List.append_nil (reqBody 9 3 p.mp)] at hframe ⊢
  obtain ⟨hbody, -⟩ := holds_parts (putFrame buf _) hframe
  refine ⟨(lengthFits_iff_of_holds hbody).2 ?_, _, if_neg ?_, sameParams_of_holds hbody⟩
  · simp [putFrame, length_basicHdr, length_reqBody]
  · simp [putFrame, length_basicHdr, length_reqBody, RRM_MIN_CHLOAD_FRM_LEN]

theorem readsBack_frame_iff (vif : Vif) (p : FrameReqParams) {buf : ByteMemory} {skb : Skb}
    (h : rrmSendFrameReq vif p (some buf) = .ok skb) :
    (Request.frame p).ReadsBack skb ↔ (Request.frame p).Survives vif := by
  obtain rfl := Except.ok.inj h
  have hframe := ByteMemory.holds_override buf (basicHdr p.destid vif.addr vif.bssid ++
    (reqBody 16 6 p.mp ++ p.frameReqType :: p.macid.toList))
  set frame := basicHdr p.destid vif.addr vif.bssid ++
    (reqBody 16 6 p.mp ++ p.frameReqType :: p.macid.toList) with hdef
  have hlen : (putFrame buf frame).len = 47 := by
    simp [putFrame, hdef, length_basicHdr, length_reqBody]
  obtain ⟨hbody, hrest⟩ := holds_parts (putFrame buf frame) hframe
  have haddr := bytes_header (putFrame buf frame) hframe
  have hparse : rrmParseFrameReq (putFrame buf frame) =
      .ok ⟨measParams (putFrame buf frame).frm, (putFrame buf frame).frm 16,
        vif.bssid.toList.drop 1 ++ [0]⟩ := by
    rw [rrmParseFrameReq, if_neg (by rw [hlen]; decide), haddr]
  constructor
  · rintro ⟨-, q, hq, -, -, hmac⟩
    obtain rfl := ParseResult.ok.inj (hparse.symm.trans hq)
    exact hmac.symm
  · intro hmac
    refine ⟨(lengthFits_iff_of_holds hbody).2 (by rw [hlen]; rfl), _, hparse,
      sameParams_of_holds hbody, hrest 0 (by simp), hmac.symm⟩

/-! ### The loop over the elements of a beacon request -/

/-- The parameters with the SSID that an element of zeros stands for. -/
def BeaconMeasParams.withoutSsid (params : BeaconMeasParams) : BeaconMeasParams :=
  { params with ssidIe := some (List.replicate SSID_LEN 0) }

/-- A round of the loop. -/
theorem optElems_round {skb : Skb} {index index' : BitVec 8} {params params' : BeaconMeasParams}
    (hlt : index.toNat < skb.len) (helem : optElem skb.frm index.toNat params = .ok params')
    (hindex : index + 2 + skb.frm (index.toNat + 1) = index') (fuel : ℕ) :
    optElems skb (fuel + 1) index params = optElems skb fuel index' params' := by
  rw [optElems, if_pos hlt, helem, hindex]
  rfl

/-- Behind the elements the loop goes on over zeros until the index comes to the length of the
frame. -/
theorem optElems_zeros {skb : Skb} (hlen : skb.len < 254) {fuel : ℕ} {index : BitVec 8}
    {params : BeaconMeasParams} (hfuel : skb.len ≤ index.toNat + 2 * fuel)
    (hzero : ∀ i, index.toNat ≤ i → i ≤ skb.len → skb.frm i = 0) :
    optElems skb (fuel + 1) index params =
      .ok (if index.toNat < skb.len then params.withoutSsid else params) := by
  induction fuel generalizing index params with
  | zero =>
    have hend : ¬ index.toNat < skb.len := by omega
    rw [optElems, if_neg hend, if_neg hend]
  | succ fuel ih =>
    by_cases hlt : index.toNat < skb.len
    · -- an empty SSID
      have hid : skb.frm index.toNat = 0 := hzero _ (Nat.le_refl _) (by omega)
      have hnone : skb.frm (index.toNat + 1) = 0 := hzero _ (by omega) (by omega)
      have helem : optElem skb.frm index.toNat params = .ok params.withoutSsid := by
        rw [optElem, hid, hnone]
        rfl
      have hindex : (index + 2 + skb.frm (index.toNat + 1)).toNat = index.toNat + 2 := by
        rw [hnone]
        bv_omega
      rw [optElems_round hlt helem rfl, ih (by omega) (fun i hi => hzero i (by omega)), if_pos hlt]
      split <;> rfl
    · rw [optElems, if_neg hlt, if_neg hlt]

theorem Skb.bytes_frm (skb : Skb) (a n : ℕ) : skb.frm.bytes a n = skb.data.bytes (24 + a) n := by
  apply List.map_congr_left
  intro i _
  show skb.data (24 + (a + i)) = skb.data (24 + a + i)
  rw [Nat.add_assoc]

section Built

variable {skb : Skb} {ssid : List (BitVec 8)} (hssid : ssid.length < SSID_LEN)
  (h : skb.data.Holds 47 (beaconOptElems ssid)) (hlen : skb.len = 52 + ssid.length)
  (params : BeaconMeasParams) (fuel : ℕ)

include h hlen

/-- The reporting detail. -/
theorem optElems_rptDetail :
    optElems skb (fuel + 1) 23 params =
      optElems skb fuel 26 { params with rptDetail := some 0 } := by
  rw [beaconOptElems] at h
  have hhead := (ByteMemory.holds_append.1 h).1
  have hid : skb.frm 23 = 2 := hhead 0 (by simp)
  have hsize : skb.frm 24 = 1 := hhead 1 (by simp)
  have hval : skb.frm 25 = 0 := hhead 2 (by simp)
  apply optElems_round
  · rw [hlen]
    simp
    omega
  · show optElem skb.frm 23 params = _
    rw [optElem, hid, hval]
    rfl
  · show (23 : BitVec 8) + 2 + skb.frm 24 = 26
    rw [hsize]
    rfl

include hssid

theorem optElems_ssid :
    optElems skb (fuel + 1) 26 params =
      optElems skb fuel (BitVec.ofNat 8 (28 + ssid.length))
        { params with ssidIe := some (ssid ++ List.replicate (SSID_LEN - ssid.length) 0) } := by
  have hroom : SSID_LEN = 32 := rfl
  have hn : (BitVec.ofNat 8 ssid.length).toNat = ssid.length := by
    rw [BitVec.toNat_ofNat]
    omega
  rw [beaconOptElems, hn, List.take_length] at h
  obtain ⟨hhead, htail⟩ := ByteMemory.holds_append.1 h
  have hid : skb.frm 26 = 0 := hhead 3 (by simp)
  have hsize : skb.frm 27 = BitVec.ofNat 8 ssid.length := hhead 4 (by simp)
  have hbytes : skb.frm.bytes (26 + 2) ssid.length = ssid := by
    rw [Skb.bytes_frm]
    exact htail.bytes_eq
  apply optElems_round
  · rw [hlen]
    simp
    omega
  · show optElem skb.frm 26 _ = _
    have hssidId : (0 : BitVec 8) = SSID_ELEM_ID := rfl
    rw [optElem, hid, hsize, hn, if_pos hssidId, if_neg (by omega), hbytes]
  · show (26 : BitVec 8) + 2 + skb.frm 27 = _
    rw [hsize, BitVec.ofNat_add]
    rfl

end Built

theorem length_beaconOptElems {ssid : List (BitVec 8)} (hssid : ssid.length < SSID_LEN) :
    (beaconOptElems ssid).length = 5 + ssid.length := by
  have hsize : SSID_LEN = 32 := rfl
  rw [beaconOptElems, BitVec.toNat_ofNat, Nat.mod_eq_of_lt (by omega), List.take_length]
  simp
  omega

/-- The frame of a beacon request, in front of bytes that were cleared. -/
structure BeaconFrame (p : BeaconReqParams) (skb : Skb) : Prop where
  len : skb.len = 52 + p.ssid.length
  body : skb.data.Holds 24 (reqBody (16 + BitVec.ofNat 8 (beaconOptElems p.ssid).length) 5 p.mp)
  fixed : skb.data.Holds 40 (p.measMode :: p.bssid.toList)
  elems : skb.data.Holds 47 (beaconOptElems p.ssid)
  behind : ∀ i, 28 + p.ssid.length ≤ i → i ≤ skb.len → skb.frm i = 0

theorem beaconFrame_of_send {vif : Vif} {p : BeaconReqParams} {buf : ByteMemory} {skb : Skb}
    (hssid : p.ssid.length < SSID_LEN) (h : rrmSendBeaconReq vif p (some buf) = .ok skb) :
    BeaconFrame p skb := by
  have hsize : SSID_LEN = 32 := rfl
  have hopt := length_beaconOptElems hssid
  obtain rfl := Except.ok.inj h
  have hframe := ByteMemory.holds_override (buf.override (List.replicate BEACON_REQ_ROOM 0))
    (basicHdr p.destid vif.addr vif.bssid ++
      (reqBody (16 + BitVec.ofNat 8 (beaconOptElems p.ssid).length) 5 p.mp ++
        (p.measMode :: p.bssid.toList ++ beaconOptElems p.ssid)))
  set frame := basicHdr p.destid vif.addr vif.bssid ++
      (reqBody (16 + BitVec.ofNat 8 (beaconOptElems p.ssid).length) 5 p.mp ++
        (p.measMode :: p.bssid.toList ++ beaconOptElems p.ssid)) with hdef
  set skb := putFrame (buf.override (List.replicate BEACON_REQ_ROOM 0)) frame with hskb
  have hlen : skb.len = 52 + p.ssid.length := by
    simp [hskb, putFrame, hdef, length_basicHdr, length_reqBody, hopt]
    omega
  obtain ⟨hbody, hrest⟩ := holds_parts skb hframe
  obtain ⟨hmode, helems⟩ := ByteMemory.holds_append.1 hrest
  have hfixed : 40 + (p.measMode :: p.bssid.toList).length = 47 := by simp
  rw [hfixed] at helems
  refine ⟨hlen, hbody, hmode, helems, fun i hi hle => ?_⟩
  have hroom : BEACON_REQ_ROOM = 175 := rfl
  have hbehind : frame.length ≤ 24 + i := by
    show skb.len ≤ 24 + i
    omega
  show (buf.override _).override frame (24 + i) = 0
  rw [ByteMemory.override_of_le _ hbehind]
  exact ByteMemory.override_replicate buf (by omega)

/-- The parser goes on behind the frame, and an element of zeros erases the SSID. -/
theorem BeaconFrame.parse {p : BeaconReqParams} {skb : Skb} (hframe : BeaconFrame p skb)
    (hssid : p.ssid.length < SSID_LEN) :
    rrmParseBeaconReq skb =
      .ok ⟨measParams skb.frm, skb.frm 16, p.bssid.toList, some (List.replicate SSID_LEN 0), none,
        some 0⟩ := by
  have hsize : SSID_LEN = 32 := rfl
  have hlen := hframe.len
  have hmac : skb.frm.bytes 17 6 = p.bssid.toList := by
    rw [Skb.bytes_frm, hframe.fixed.bytes_drop_take (k := 1) (by simp)]
    simp
  have hindex : (BitVec.ofNat 8 (28 + p.ssid.length)).toNat = 28 + p.ssid.length := by
    rw [BitVec.toNat_ofNat]
    omega
  have hmin : ¬ skb.len < RRM_MIN_BEACON_FRM_LEN := by
    rw [hlen, RRM_MIN_BEACON_FRM_LEN]
    omega
  have hzero := hframe.behind
  rw [← hindex] at hzero
  rw [rrmParseBeaconReq, if_neg hmin, optElems_rptDetail hframe.elems hlen _ 255,
    optElems_ssid hssid hframe.elems hlen _ 254, optElems_zeros (by omega) (by omega) hzero, hindex,
    if_pos (by omega), hmac]
  rfl

/-- A string has no byte that is zero. -/
theorem BeaconReqParams.ssid_eq_nil {p : BeaconReqParams}
    (h : List.replicate SSID_LEN 0 = p.ssid ++ List.replicate (SSID_LEN - p.ssid.length) 0) :
    p.ssid = [] := by
  apply List.eq_nil_iff_forall_not_mem.2
  intro b hb
  have hb0 : b = 0 := by
    apply List.eq_of_mem_replicate (n := SSID_LEN)
    rw [h]
    exact List.mem_append_left _ hb
  have hne := List.all_eq_true.1 List.all_takeWhile b hb
  simp [hb0] at hne

theorem readsBack_beacon_iff (vif : Vif) (p : BeaconReqParams) {buf : ByteMemory} {skb : Skb}
    (hssid : p.ssid.length < SSID_LEN) (h : rrmSendBeaconReq vif p (some buf) = .ok skb) :
    (Request.beacon p).ReadsBack skb ↔ (Request.beacon p).Survives vif := by
  have hframe := beaconFrame_of_send hssid h
  have hparse := hframe.parse hssid
  constructor
  · rintro ⟨-, q, hq, -, -, -, -, hie⟩
    obtain rfl := ParseResult.ok.inj (hparse.symm.trans hq)
    exact BeaconReqParams.ssid_eq_nil (Option.some.inj hie)
  · intro hnil
    have hsize : SSID_LEN = 32 := rfl
    have hlength : (16 + BitVec.ofNat 8 (beaconOptElems p.ssid).length).toNat = skb.len - 31 := by
      rw [length_beaconOptElems hssid, hframe.len]
      bv_omega
    refine ⟨(lengthFits_iff_of_holds hframe.body).2 hlength, _, hparse,
      sameParams_of_holds hframe.body, hframe.fixed 0 (by simp), rfl, rfl, ?_⟩
    rw [show p.ssid = [] from hnil]
    rfl

namespace Request

/-- **Round trip** of the requests: which ones read back from the frame that is built for them. -/
theorem readsBack_iff {vif : Vif} {req : Request} {buf : ByteMemory} {skb : Skb}
    (hssid : req.SsidFits) (h : req.send vif (some buf) = .ok skb) :
    req.ReadsBack skb ↔ req.Survives vif := by
  cases req with
  | channelLoad p => exact iff_of_true (readsBack_channelLoad h) trivial
  | frame p => exact readsBack_frame_iff vif p h
  | beacon p => exact readsBack_beacon_iff vif p hssid h

/-- A station in the network of an access point -/
def stationVif : Vif := ⟨⟨#[2, 0, 0, 0, 0, 1], rfl⟩, ⟨#[2, 0, 0, 0, 0, 9], rfl⟩⟩

def channelSix : ReqParams := ⟨12, 6, 0, 100, 0⟩

/-- A channel load request reads back. -/
theorem readsBack_channelLoadReq :
    ∃ skb, (channelLoad ⟨channelSix, stationVif.bssid⟩).send stationVif (some fun _ => 0) =
        .ok skb ∧
      ((channelLoad ⟨channelSix, stationVif.bssid⟩).ReadsBack skb ↔
        (channelLoad ⟨channelSix, stationVif.bssid⟩).Survives stationVif) :=
  ⟨_, rfl, readsBack_iff trivial rfl⟩

/-- The address in a frame request is not the one that is parsed. -/
theorem not_readsBack : ¬ ∀ (vif : Vif) (req : Request) (buf : ByteMemory) (skb : Skb),
    req.SsidFits → req.send vif (some buf) = .ok skb → req.ReadsBack skb := by
  intro hall
  obtain ⟨-, q, hq, -, -, hmac⟩ := hall stationVif
    (frame ⟨channelSix, stationVif.bssid, 1, stationVif.addr⟩) (fun _ => 0) _ trivial rfl
  obtain rfl := ParseResult.ok.inj hq
  exact absurd hmac (by decide)

end Request

end Rrm
