import Mathlib.Data.Int.Notation
import Mathlib.Tactic.SplitIfs
import RsiDriver.Tx.Adapter

/-!
# Transmit descriptors

`rsi_prepare_data_desc` and `rsi_prepare_mgmt_desc` (`rsi_91x_hal.c`) push a header in front of a
frame and fill it: eight little-endian descriptor words, an extended descriptor, and padding that
aligns the header. `FrameDesc` is the contents of that header; each paragraph of the source that
fills it is one function here, in the order of the source.

The two functions differ in who releases the frame on an error: the first one does, the second
one leaves it to its caller.

## Main results

* `prepareDataDesc_ready_iff`: when a data descriptor is produced;
* `prepareMgmtDesc_cases`: what the management path can return.
-/

namespace Tx

/-- `FRAME_DESC_SZ` -/
def FRAME_DESC_SZ : ℕ := 16

/-- `FRAME_DESC_SZ + sizeof(struct xtended_desc)` -/
def HEADER_SIZE : ℕ := FRAME_DESC_SZ + 4

/-- `MAX_MGMT_PKT_SIZE` -/
def MAX_MGMT_PKT_SIZE : ℕ := 512

/-- The ethertype `ETH_P_PAE` -/
def ETH_P_PAE : BitVec 16 := 0x888e

/-- The ethertype `ETH_P_802_3` -/
def ETH_P_802_3 : BitVec 16 := 0x0001

/-- `-EINVAL` -/
def EINVAL : ℤ := -22

/-- `-ENOSPC` -/
def ENOSPC : ℤ := -28

/-- The header that the driver puts in front of a frame. -/
structure FrameDesc where
  w0 : BitVec 16
  w1 : BitVec 16
  w2 : BitVec 16
  w3 : BitVec 16
  w4 : BitVec 16
  w5 : BitVec 16
  w6 : BitVec 16
  w7 : BitVec 16
  /-- `xtend_desc->confirm_frame_type` -/
  confirmFrameType : BitVec 8
  /-- `xtend_desc->retry_cnt` -/
  retryCnt : BitVec 8
  deriving DecidableEq, Repr

namespace FrameDesc

/-- The header after `memset`. -/
def zero : FrameDesc := ⟨0, 0, 0, 0, 0, 0, 0, 0, 0, 0⟩

/-- The descriptor words in order. -/
def words (d : FrameDesc) : Vector (BitVec 16) 8 :=
  #v[d.w0, d.w1, d.w2, d.w3, d.w4, d.w5, d.w6, d.w7]

/-- The byte of the header at offset `i`. -/
def byteAt (d : FrameDesc) (i : ℕ) : BitVec 8 :=
  if i < FRAME_DESC_SZ then ((d.words.toList.getD (i / 2) 0) >>> (8 * (i % 2))).setWidth 8
  else if i = FRAME_DESC_SZ then d.confirmFrameType
  else if i = FRAME_DESC_SZ + 1 then d.retryCnt
  else 0

end FrameDesc

/-- Write a header of `headerSize` bytes at the data pointer. -/
def SkBuff.writeDesc (skb : SkBuff) (headerSize : ℕ) (d : FrameDesc) : SkBuff :=
  { skb with byte := fun i => if i < headerSize then d.byteAt i else skb.byte i }

/-- The test for an EAPOL frame. -/
def isEapol (type : IfType) (protocol : BitVec 16) : Bool :=
  (type == .station && (protocol == ETH_P_PAE || protocol == ETH_P_802_3)) ||
    (type == .ap && protocol == ETH_P_PAE)

/-- What the two descriptor functions return: 0, a negative error code, or a crash. -/
inductive DescResult
  | ready (a : Adapter) (skb : SkBuff)
  | rejected (a : Adapter) (skb : SkBuff) (status : ℤ)
  | oops (fault : Fault)

/-- What becomes of the frame while the header is pushed. -/
inductive Pushed
  | pushed (skb : SkBuff) (headerSize : ℕ)
  | noHeadroom (skb : SkBuff)
  | panic

/-! ## The data descriptor -/

/-- `rsi_prepare_data_desc` up to the second `skb_push`. The second test compares the remaining
headroom with the 20 bytes that are already pushed, not with the padding. -/
def pushDataHeader (usbFullSpeed : Bool) (skb : SkBuff) : Pushed :=
  if skb.headroom < HEADER_SIZE then .noHeadroom skb
  else
    match skb.push HEADER_SIZE with
    | none => .panic
    | some skb =>
      let align := (skb.data &&& 0x3f).toNat
      if skb.headroom < HEADER_SIZE then .noHeadroom skb
      else
        let dwordAlignBytes :=
          if (skb.len + align) % 64 = 0 ∧ usbFullSpeed = true then align + 1 else align
        match skb.push dwordAlignBytes with
        | none => .panic
        | some skb => .pushed skb (HEADER_SIZE + dwordAlignBytes)

section DataDesc

variable (a : Adapter) (skb : SkBuff) (headerSize : ℕ) (vif : Vif)

/-- The destination of the frame that starts at `headerSize`. -/
def dataDest : MacAddr :=
  if skb.txParams.encapOffload then skb.hDest headerSize else skb.addr1 headerSize

/-- The vif of the frame's source address. -/
def dataVif : Option Vif :=
  a.getVif (if skb.txParams.encapOffload then skb.hSource headerSize else skb.addr2 headerSize)

/-- `common->stations[tx_params->sta_id]` -/
def txStation : Option RsiSta := a.stationAt skb.txParams.staId.toNat

/-- `sta` of `rsi_prepare_data_desc`. -/
def dataSta : Option Sta :=
  if vif.type = .station then (a.stations RSI_MAX_ASSOC_STAS).sta
  else (txStation a skb).bind RsiSta.sta

/-- The crashes of `rsi_prepare_data_desc` after the header is pushed: an index outside
`stations`, the hardware configuration of a missing `hw`, the rate of a missing peer. -/
def dataDescFault : Option Fault :=
  if vif.type ≠ .station ∧ (txStation a skb).isNone then some .outOfBounds
  else if a.minRate ≠ 0xffff ∧ a.hw.isNone then some .nullDeref
  else if isEapol vif.type skb.protocol ∧ vif.type = .station ∧
      (a.stations RSI_MAX_ASSOC_STAS).sta.isNone then some .nullDeref
  else none

/-- Word 2, the QoS bit, and the kind of an encapsulated frame. -/
def descQos (d : FrameDesc) : FrameDesc :=
  let d := { d with w2 := BitVec.ofNat 16 (headerSize - FRAME_DESC_SZ) }
  if skb.txParams.encapOffload then
    { d with
      w1 := 1 -- `ENCAP_OFFLOAD_DATA_PKT`
      w6 := if (dataSta a skb vif).any (·.wme) then d.w6 ||| 0x1000 else d.w6 }
  else if FrameControl.isDataQos (skb.frameControl headerSize) then { d with w6 := d.w6 ||| 0x1000 }
  else d

/-- `ieee80211_hdr_size`: the length of the 802.11 header with the QoS field and the cipher's
header. -/
def ieee80211HdrSize : BitVec 16 :=
  24 + (if FrameControl.isDataQos (skb.frameControl headerSize) then 2 else 0) +
    if !skb.info.dontEncrypt && skb.info.hwKey then (if a.cipherWep then 4 else 8) else 0

/-- `ENABLE_ENCRYPTION` -/
def descEncrypt (d : FrameDesc) : FrameDesc :=
  let encrypt :=
    if skb.txParams.encapOffload then
      !skb.info.dontEncrypt && skb.protocol != ETH_P_PAE && skb.protocol != ETH_P_802_3
    else !skb.info.dontEncrypt && skb.info.hwKey
  if encrypt then { d with w6 := d.w6 ||| 0x8000 } else d

/-- Word 0, and the header length and sequence number of an 802.11 frame. -/
def descLength (d : FrameDesc) : FrameDesc :=
  let d := { d with w0 := BitVec.ofNat 16 (skb.len - FRAME_DESC_SZ) ||| 5 <<< 12 }
  if skb.txParams.encapOffload then d
  else
    { d with
      w2 := d.w2 ||| ieee80211HdrSize a skb headerSize <<< 8
      w6 := d.w6 ||| skb.seqNum headerSize }

/-- The rate set through the configuration of the interface. -/
def descMinRate (d : FrameDesc) : FrameDesc :=
  if a.minRate ≠ 0xffff then
    { d with
      w3 := 1 -- `RATE_INFO_ENABLE`
      w4 := if a.sgi ∧ a.minRate &&& 0x100 ≠ 0 then a.minRate ||| 0x200 else a.minRate
      w5 := if a.hw.any (·.ht40) then 6 else d.w5 }
  else d

/-- `adapter->ax_params.he_ppdu_type` after the descriptor is filled. -/
def hePpduType : BitVec 8 :=
  if (a.axParams.ax11Enabled = true ∧ vif.type = .station) ∧
      a.fixedRateEn = true ∧ a.enableErSu = true ∧ a.configErSu ≠ 0 then
    if a.configErSu = 2 ∨ (a.configErSu = 1 ∧ a.fixedRate &&& 0x7 ≤ 2) then 1 else 0
  else a.axParams.hePpduType

/-- `bbp_info` -/
def bbpInfo (p : AxParams) : BitVec 16 :=
  p.codingType.setWidth 16 ||| p.nominalPe.setWidth 16 <<< 1 |||
    (BitVec.ofBool p.ulDl).setWidth 16 <<< 3 ||| p.hePpduType.setWidth 16 <<< 4 |||
    p.beamChange.setWidth 16 <<< 6 ||| p.bw.setWidth 16 <<< 7 ||| p.stbc.setWidth 16 <<< 8 |||
    p.txBf.setWidth 16 <<< 9 ||| p.giLtf.setWidth 16 <<< 10 ||| p.dcm.setWidth 16 <<< 12 |||
    p.nstsMidamble.setWidth 16 <<< 13

/-- The 11ax parameters and the fixed rate. -/
def descRate (d : FrameDesc) : FrameDesc :=
  let d :=
    if a.axParams.ax11Enabled = true ∧ vif.type = .station then
      { d with w5 := bbpInfo { a.axParams with hePpduType := hePpduType a vif } }
    else d
  if a.fixedRateEn then { d with w3 := 1, w4 := a.fixedRate } else d

/-- Word 1 of an EAPOL frame, before the confirm bit. -/
def eapolWord1 (w1 : BitVec 16) : BitVec 16 :=
  if skb.txParams.encapOffload = true ∧ vif.type = .station then
    0x1000 ||| 0x8000 -- `FETCH_RETRY_CNT_FRM_HST | ENCAP_OFFLOAD_MGMT_PKT`
  else w1 ||| 0x1000

/-- The frame has the length of the fourth message of the EAPOL handshake. -/
def isEapol4 : Bool :=
  if skb.txParams.encapOffload then skb.len == 113 + headerSize
  else skb.len - headerSize == 133 || skb.len - headerSize == 131

/-- The EAPOL paragraph. -/
def descEapol (d : FrameDesc) : FrameDesc :=
  if isEapol vif.type skb.protocol then
    -- the device confirms the fourth message
    let confirm := vif.type = .station ∧ isEapol4 skb headerSize = true
    { d with
      w0 := if vif.type = .station ∧ a.eapol4Confirm = false then
          BitVec.ofNat 16 (skb.len - FRAME_DESC_SZ) ||| 4 <<< 12 -- `RSI_WIFI_MGMT_Q`
        else d.w0
      w1 := if confirm then eapolWord1 skb vif d.w1 ||| 0x400 else eapolWord1 skb vif d.w1
      w3 := 1
      w4 := if vif.type = .station then
          ((a.stations RSI_MAX_ASSOC_STAS).sta.map (·.minSupportedRate)).getD 0
        else 0 -- `RSI_RATE_1`
      w5 := if a.axParams.ax11Enabled then 0 else d.w5
      w6 := d.w6 ||| 0x2000 -- `QUEUE_TO_HEAD`
      confirmFrameType := if confirm then 1 else d.confirmFrameType -- `EAPOL4_CONFIRM`
      retryCnt := 15 }
  else d

/-- `skb->priority` after the EAPOL paragraph: re-keying goes to the voice queue. -/
def eapolPriority : BitVec 32 :=
  if isEapol vif.type skb.protocol ∧ vif.type = .station ∧ a.eapol4Confirm = true then 3
  else skb.priority

/-- Word 7: tid, queue and station. -/
def descStation (d : FrameDesc) : FrameDesc :=
  { d with
    w7 := (skb.txParams.tid &&& 0xf).setWidth 16 <<< 4 |||
      (eapolPriority a skb vif &&& 0xf).setWidth 16 ||| skb.txParams.staId.signExtend 16 <<< 8 }

/-- The rate of broadcast and multicast frames. -/
def descBroadcast (d : FrameDesc) : FrameDesc :=
  if (dataDest skb headerSize).isBroadcast || (dataDest skb headerSize).isMulticast then
    { d with
      -- `RATE_INFO_ENABLE | RSI_BROADCAST_PKT`
      w3 := if skb.txParams.encapOffload then d.w3 else 1 ||| 0x200
      w4 := if vif.type = .ap ∨ vif.type = .p2pGo then
          (if a.band = 1 then 0x8b else 0) -- `RSI_RATE_6`, `RSI_RATE_1`
        else d.w4 }
  else d

/-- The vap id, and the more-data bit of an access point. -/
def descVap (d : FrameDesc) : FrameDesc :=
  { d with
    w3 := if skb.txParams.encapOffload = false ∧ (vif.type = .ap ∨ vif.type = .p2pGo) ∧
        FrameControl.hasMoredata (skb.frameControl headerSize) = true then d.w3 ||| 2
      else d.w3
    w4 := d.w4 ||| vif.vapId.setWidth 16 <<< 14 }

/-- The header that `rsi_prepare_data_desc` fills. -/
def dataDesc : FrameDesc :=
  descVap skb headerSize vif <| descBroadcast a skb headerSize vif <| descStation a skb vif <|
    descEapol a skb headerSize vif <| descRate a vif <| descMinRate a <|
    descLength a skb headerSize <| descEncrypt skb <| descQos a skb headerSize vif .zero

/-- The power management bit that the driver sets in the frame itself. -/
def setPowerMgmt : SkBuff :=
  if skb.txParams.encapOffload = false ∧ vif.type = .station ∧ a.psEnabled = true then
    skb.setByte (headerSize + 1) (skb.byte (headerSize + 1) ||| 0x10)
  else skb

/-- The frame with its data descriptor. -/
def fillDataDesc : SkBuff :=
  { (setPowerMgmt a skb headerSize vif).writeDesc headerSize (dataDesc a skb headerSize vif) with
    priority := eapolPriority a skb vif }

end DataDesc

/-- `rsi_prepare_data_desc`. On an error it releases the frame itself. -/
def prepareDataDesc (a : Adapter) (skb : SkBuff) : DescResult :=
  match pushDataHeader a.usbFullSpeed skb with
  | .panic => .oops .skbUnderPanic
  | .noHeadroom skb => .rejected (a.indicateTxStatus skb) skb ENOSPC
  | .pushed skb headerSize =>
    let skb := skb.withHdrSize headerSize
    match dataVif a skb headerSize with
    | none => .rejected (a.indicateTxStatus skb) skb ENOSPC
    | some vif =>
      match dataDescFault a skb vif with
      | some fault => .oops fault
      | none =>
        .ready { a with axParams.hePpduType := hePpduType a vif }
          (fillDataDesc a skb headerSize vif)

/-! ## The management descriptor -/

/-- `rsi_prepare_mgmt_desc` up to the second `skb_push`. Here the second test is on the padding. -/
def pushMgmtHeader (skb : SkBuff) : Pushed :=
  if skb.headroom < HEADER_SIZE then .noHeadroom skb
  else
    match skb.push HEADER_SIZE with
    | none => .panic
    | some skb =>
      let dwordAlignBytes := (skb.data &&& 0x3f).toNat
      if skb.headroom < dwordAlignBytes then .noHeadroom skb
      else
        match skb.push dwordAlignBytes with
        | none => .panic
        | some skb => .pushed skb (HEADER_SIZE + dwordAlignBytes)

section MgmtDesc

variable (a : Adapter) (skb : SkBuff) (headerSize : ℕ) (vif : Vif)

/-- Words 0 to 2 and the protection bit. -/
def mgmtLength (d : FrameDesc) : FrameDesc :=
  let protect := FrameControl.hasProtected (skb.frameControl headerSize)
  { d with
    w0 := BitVec.ofNat 16 (skb.len - FRAME_DESC_SZ) ||| 4 <<< 12 -- `RSI_WIFI_MGMT_Q`
    w1 := 0 -- `TX_DOT11_MGMT`
    w2 := BitVec.ofNat 16 (headerSize - FRAME_DESC_SZ) ||| (if protect then 32 else 24) <<< 8
    w6 := if protect then 0x8000 else d.w6 }

/-- Word 3 and the sequence number. -/
def mgmtFlags (d : FrameDesc) : FrameDesc :=
  let probing := FrameControl.isProbeReq (skb.frameControl headerSize) && a.scanInProg
  { d with
    -- `INSERT_SEQ_IN_FW`, `RATE_INFO_ENABLE`, `RSI_BROADCAST_PKT`
    w3 := (if probing then 4 else d.w3) ||| 1 |||
      if (skb.addr1 headerSize).isMulticast then 0x200 else 0
    w6 := d.w6 ||| skb.seqNum headerSize }

/-- The rate, the channel width, and the retry count of a probe response. -/
def mgmtRate (d : FrameDesc) : FrameDesc :=
  let fc := skb.frameControl headerSize
  let scanning := FrameControl.isProbeReq fc || FrameControl.isProbeResp fc ||
    FrameControl.isBeacon fc
  { d with
    w1 := if FrameControl.isProbeResp fc then d.w1 ||| 0x1800 else d.w1
    w4 :=
      if scanning then (if a.band = 0 ∧ a.p2pEnabled = false then 0 else 0x8b)
      else a.minimumBasicRate.setWidth 16
    w5 := if a.hw.any (·.ht40) then 6 else d.w5
    retryCnt := if FrameControl.isProbeResp fc then 3 else d.retryCnt }

/-- The station id of a management frame: an action frame of an access point names its station,
which may be unknown (`none`). -/
def mgmtStaId : Option (BitVec 16) :=
  if (vif.type = .ap ∨ vif.type = .p2pGo) ∧
      FrameControl.isAction (skb.frameControl headerSize) = true then
    (a.findSta (skb.addr1 headerSize)).map fun i => (a.stations i).staId
  else some (vif.vapId.setWidth 16)

/-- The header that `rsi_prepare_mgmt_desc` fills. -/
def mgmtDesc (staId : BitVec 16) : FrameDesc :=
  let d :=
    mgmtRate a skb headerSize <| mgmtFlags a skb headerSize <| mgmtLength skb headerSize .zero
  { d with w4 := d.w4 ||| vif.vapId.setWidth 16 <<< 14, w7 := d.w7 ||| staId <<< 8 }

end MgmtDesc

/-- `rsi_prepare_mgmt_desc`. On an error the frame still belongs to the caller. -/
def prepareMgmtDesc (a : Adapter) (skb : SkBuff) : DescResult :=
  if a.hw.isNone then .rejected a skb EINVAL
  else
    match pushMgmtHeader skb with
    | .panic => .oops .skbUnderPanic
    | .noHeadroom skb => .rejected a skb ENOSPC
    | .pushed skb headerSize =>
      let skb := skb.withHdrSize headerSize
      match a.getVif (skb.addr2 headerSize) with
      | none => .rejected a skb ENOSPC
      | some vif =>
        if MAX_MGMT_PKT_SIZE < skb.len then .rejected a skb EINVAL
        else
          match mgmtStaId a skb headerSize vif with
          | none => .rejected a skb EINVAL
          | some staId => .ready a (skb.writeDesc headerSize (mgmtDesc a skb headerSize vif staId))

/-! ## When a descriptor is produced -/

/-- The padding in front of a data frame: the pushed header is aligned to 64 bytes, plus one byte
when a full-speed USB transfer would be a multiple of 64. -/
def dataPadding (usbFullSpeed : Bool) (skb : SkBuff) : ℕ :=
  let align := ((skb.data - BitVec.ofNat 64 HEADER_SIZE) &&& 0x3f).toNat
  if (skb.len + HEADER_SIZE + align) % 64 = 0 ∧ usbFullSpeed = true then align + 1 else align

/-- What can become of a data frame while the header is pushed. -/
theorem pushDataHeader_cases (usbFullSpeed : Bool) (skb : SkBuff) :
    (skb.headroom < 2 * HEADER_SIZE ∧ ∃ skb' n, skb.PushedBy skb' n ∧ n ≤ skb.headroom ∧
      pushDataHeader usbFullSpeed skb = .noHeadroom skb') ∨
    (2 * HEADER_SIZE ≤ skb.headroom ∧ skb.headroom < HEADER_SIZE + dataPadding usbFullSpeed skb ∧
      pushDataHeader usbFullSpeed skb = .panic) ∨
    (2 * HEADER_SIZE ≤ skb.headroom ∧ HEADER_SIZE + dataPadding usbFullSpeed skb ≤ skb.headroom ∧
      ∃ skb', skb.PushedBy skb' (HEADER_SIZE + dataPadding usbFullSpeed skb) ∧
        pushDataHeader usbFullSpeed skb =
          .pushed skb' (HEADER_SIZE + dataPadding usbFullSpeed skb)) := by
  unfold pushDataHeader
  -- the first test
  by_cases hroom : skb.headroom < HEADER_SIZE
  · exact .inl ⟨by omega, skb, 0, .refl skb, Nat.zero_le _, if_pos hroom⟩
  obtain ⟨skb1, hpush1, h1⟩ := SkBuff.exists_push (Nat.le_of_not_lt hroom)
  have hroom1 := h1.headroom
  rw [if_neg hroom, hpush1]
  dsimp only
  -- the second test, which looks at the header again and not at the padding
  by_cases hroom2 : skb1.headroom < HEADER_SIZE
  · exact .inl ⟨by omega, skb1, HEADER_SIZE, h1, by omega, if_pos hroom2⟩
  have hpad : (if (skb1.len + (skb1.data &&& 0x3f).toNat) % 64 = 0 ∧ usbFullSpeed = true then
      (skb1.data &&& 0x3f).toNat + 1 else (skb1.data &&& 0x3f).toNat) =
      dataPadding usbFullSpeed skb := by
    rw [h1.len, h1.data]
    rfl
  rw [if_neg hroom2, hpad]
  by_cases hpanic : skb1.headroom < dataPadding usbFullSpeed skb
  · -- the padding was not tested against the headroom
    rw [SkBuff.push_eq_none_iff.2 hpanic]
    exact .inr (.inl ⟨by omega, by omega, rfl⟩)
  · obtain ⟨skb2, hpush2, h2⟩ := SkBuff.exists_push (Nat.le_of_not_lt hpanic)
    rw [hpush2]
    exact .inr (.inr ⟨by omega, by omega, skb2, h1.trans h2, rfl⟩)

/-- The padding in front of a management frame. -/
def mgmtPadding (skb : SkBuff) : ℕ :=
  ((skb.data - BitVec.ofNat 64 HEADER_SIZE) &&& 0x3f).toNat

/-- What can become of a management frame while the header is pushed. -/
theorem pushMgmtHeader_cases (skb : SkBuff) :
    (skb.headroom < HEADER_SIZE + mgmtPadding skb ∧ ∃ skb' n, skb.PushedBy skb' n ∧
      n ≤ skb.headroom ∧ pushMgmtHeader skb = .noHeadroom skb') ∨
    (HEADER_SIZE + mgmtPadding skb ≤ skb.headroom ∧
      ∃ skb', skb.PushedBy skb' (HEADER_SIZE + mgmtPadding skb) ∧
        pushMgmtHeader skb = .pushed skb' (HEADER_SIZE + mgmtPadding skb)) := by
  unfold pushMgmtHeader
  by_cases hroom : skb.headroom < HEADER_SIZE
  · exact .inl ⟨by omega, skb, 0, .refl skb, Nat.zero_le _, if_pos hroom⟩
  obtain ⟨skb1, hpush1, h1⟩ := SkBuff.exists_push (Nat.le_of_not_lt hroom)
  have hroom1 := h1.headroom
  have hpad : (skb1.data &&& 0x3f).toNat = mgmtPadding skb := by
    rw [h1.data]
    rfl
  rw [if_neg hroom, hpush1]
  dsimp only
  rw [hpad]
  -- the second test is on the padding, so the second push succeeds
  by_cases hroom2 : skb1.headroom < mgmtPadding skb
  · exact .inl ⟨by omega, skb1, HEADER_SIZE, h1, by omega, if_pos hroom2⟩
  · obtain ⟨skb2, hpush2, h2⟩ := SkBuff.exists_push (Nat.le_of_not_lt hroom2)
    rw [if_neg hroom2, hpush2]
    exact .inr ⟨by omega, skb2, h1.trans h2, rfl⟩

/-- The vif that the source address of an outgoing data frame belongs to. -/
def sourceVif (a : Adapter) (skb : SkBuff) : Option Vif := dataVif a skb 0

/-- When `rsi_prepare_data_desc` returns 0: there is room for two unpadded headers and for one
padded header, the source address is that of a vif, and nothing missing is dereferenced. -/
structure DataDescReady (a : Adapter) (skb : SkBuff) : Prop where
  unpadded : 2 * HEADER_SIZE ≤ skb.headroom
  padded : HEADER_SIZE + dataPadding a.usbFullSpeed skb ≤ skb.headroom
  vif : ∃ vif, sourceVif a skb = some vif ∧ dataDescFault a skb vif = none

/-- The vif is looked up with the address in the pushed frame, which is the frame's own. -/
theorem dataVif_of_pushedBy {a : Adapter} {skb skb' : SkBuff} {n : ℕ} (h : skb.PushedBy skb' n)
    (size : ℕ) : dataVif a (skb'.withHdrSize size) n = sourceVif a skb := by
  have hsource : (skb'.withHdrSize size).hSource n = skb.hSource 0 := h.addrAt 6
  have haddr2 : (skb'.withHdrSize size).addr2 n = skb.addr2 0 := h.addrAt 10
  have hencap : (skb'.withHdrSize size).txParams.encapOffload = skb.txParams.encapOffload := by
    rw [← h.txParams]
    rfl
  rw [sourceVif, dataVif, dataVif, hsource, haddr2, hencap]

theorem dataDescFault_of_pushedBy {a : Adapter} {skb skb' : SkBuff} {n : ℕ}
    (h : skb.PushedBy skb' n) (size : ℕ) (vif : Vif) :
    dataDescFault a (skb'.withHdrSize size) vif = dataDescFault a skb vif := by
  have hstaId : (skb'.withHdrSize size).txParams.staId = skb.txParams.staId := by
    rw [← h.txParams]
    rfl
  have hprotocol : (skb'.withHdrSize size).protocol = skb.protocol := h.protocol
  unfold dataDescFault txStation
  rw [hstaId, hprotocol]

@[simp]
theorem fillDataDesc_tag (a : Adapter) (skb : SkBuff) (headerSize : ℕ) (vif : Vif) :
    (fillDataDesc a skb headerSize vif).tag = skb.tag := by
  unfold fillDataDesc setPowerMgmt
  split <;> rfl

/-- Filling the descriptor changes the priority only to the voice queue. -/
theorem fillDataDesc_priority (a : Adapter) (skb : SkBuff) (headerSize : ℕ) (vif : Vif) :
    (fillDataDesc a skb headerSize vif).priority = skb.priority ∨
      (fillDataDesc a skb headerSize vif).priority = 3 := by
  simp only [fillDataDesc, eapolPriority]
  split
  · exact .inr rfl
  · exact .inl rfl

/-- What `rsi_prepare_data_desc` does with a frame: it fills the descriptor, or it releases the
frame, or it crashes. -/
theorem prepareDataDesc_cases (a : Adapter) (skb : SkBuff) :
    (DataDescReady a skb ∧ ∃ ppdu skb', skb'.tag = skb.tag ∧
      (skb'.priority = skb.priority ∨ skb'.priority = 3) ∧
      prepareDataDesc a skb = .ready { a with axParams.hePpduType := ppdu } skb') ∨
    (¬ DataDescReady a skb ∧ ∃ skb' status, skb'.tag = skb.tag ∧
      prepareDataDesc a skb = .rejected (a.indicateTxStatus skb') skb' status) ∨
    (¬ DataDescReady a skb ∧ ∃ fault, prepareDataDesc a skb = .oops fault) := by
  unfold prepareDataDesc
  rcases pushDataHeader_cases a.usbFullSpeed skb with
    ⟨hroom, skb', _, hpushed, -, heq⟩ | ⟨-, hroom, heq⟩ | ⟨hroom, hpad, skb', hpushed, heq⟩
  · -- no room for two headers: the status is reported
    rw [heq]
    right; left
    exact ⟨fun hready => by have := hready.unpadded; omega, skb', ENOSPC, hpushed.tag, rfl⟩
  · -- no room for the padding
    rw [heq]
    right; right
    exact ⟨fun hready => by have := hready.padded; omega, .skbUnderPanic, rfl⟩
  · rw [heq]
    dsimp only
    rw [dataVif_of_pushedBy hpushed]
    cases hvif : sourceVif a skb with
    | none =>
      -- the source address is nobody's
      right; left
      refine ⟨fun hready => ?_, _, ENOSPC, ?_, rfl⟩
      · obtain ⟨vif, hsome, -⟩ := hready.vif
        simp [hvif] at hsome
      · exact hpushed.tag
    | some vif =>
      dsimp only
      rw [dataDescFault_of_pushedBy hpushed]
      cases hfault : dataDescFault a skb vif with
      | some fault =>
        right; right
        refine ⟨fun hready => ?_, fault, rfl⟩
        obtain ⟨vif', hsome, hnone⟩ := hready.vif
        obtain rfl : vif = vif' := by simpa [hvif] using hsome
        simp [hfault] at hnone
      | none =>
        left
        refine ⟨⟨hroom, hpad, vif, hvif, hfault⟩, _, _, ?_, ?_, rfl⟩
        · rw [fillDataDesc_tag]
          exact hpushed.tag
        · rw [← hpushed.priority]
          exact fillDataDesc_priority ..

/-- What `rsi_prepare_mgmt_desc` does with a frame: it fills the descriptor, or it leaves the frame
to its caller. It does not crash. -/
theorem prepareMgmtDesc_cases (a : Adapter) (skb : SkBuff) :
    (∃ skb', skb'.tag = skb.tag ∧ skb'.priority = skb.priority ∧
      prepareMgmtDesc a skb = .ready a skb') ∨
    (∃ skb' status, skb'.tag = skb.tag ∧ prepareMgmtDesc a skb = .rejected a skb' status) := by
  unfold prepareMgmtDesc
  by_cases hhw : a.hw.isNone = true
  · exact .inr ⟨skb, EINVAL, rfl, if_pos hhw⟩
  rw [if_neg hhw]
  rcases pushMgmtHeader_cases skb with ⟨-, skb', _, h, -, heq⟩ | ⟨-, skb', h, heq⟩
  · rw [heq]
    exact .inr ⟨skb', ENOSPC, h.tag, rfl⟩
  -- what is left cannot crash: an unknown vif, a frame too long, an unknown station
  rw [heq]
  dsimp only
  split
  · refine .inr ⟨_, _, ?_, rfl⟩
    exact h.tag
  · split_ifs
    · refine .inr ⟨_, _, ?_, rfl⟩
      exact h.tag
    · split
      · refine .inr ⟨_, _, ?_, rfl⟩
        exact h.tag
      · refine .inl ⟨_, ?_, ?_, rfl⟩
        · exact h.tag
        · exact h.priority

end Tx
