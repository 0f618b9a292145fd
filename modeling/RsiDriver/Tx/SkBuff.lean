import Mathlib.Algebra.GroupWithZero.Nat
import Mathlib.Data.Nat.Notation

/-!
# Socket buffers and 802.11 headers

`SkBuff` models the parts of `struct sk_buff` and of its control block that the transmit path
reads and writes: the data bytes, the headroom in front of them, the address of the first byte,
and the driver's own parameters. Bytes are numbered from the data pointer; a read past `len` is
a read of the buffer's tail and gives whatever `byte` says.

The second half of the file is the accessors of `ieee80211.h` for a header at a given offset.
-/

namespace Tx

/-- A hardware address; the first byte in memory is the most significant one. -/
abbrev MacAddr := BitVec 48

/-- `struct skb_info`, the driver's data in the control block. The two flags are
`ENCAP_OFFLOAD_EN` and `INTERNAL_MGMT_PKT` of its `flags`. -/
structure SkbInfo where
  encapOffload : Bool
  internalMgmtPkt : Bool
  tid : BitVec 8
  staId : BitVec 8
  internalHdrSize : BitVec 8
  deriving DecidableEq, Repr

/-- `RSI_MAX_VIFS` -/
abbrev RSI_MAX_VIFS : ℕ := 3

instance : NeZero RSI_MAX_VIFS := ⟨by decide⟩

/-- The index of an interface in `vifs`. -/
abbrev VifIndex := Fin RSI_MAX_VIFS

/-- `enum nl80211_iftype`, as far as the driver tells its values apart. -/
inductive IfType
  | station
  | ap
  | p2pClient
  | p2pGo
  | other
  deriving DecidableEq, Repr

/-- `struct ieee80211_vif` with the driver's `struct vif_priv` and the BSS configuration. -/
structure Vif where
  type : IfType
  addr : MacAddr
  vapId : BitVec 8
  /-- `bss_conf.assoc` -/
  assoc : Bool
  /-- `bss_conf.bssid` -/
  bssid : MacAddr
  deriving DecidableEq, Repr

/-- The fields of `struct ieee80211_tx_info` that the driver reads. -/
structure TxInfo where
  /-- `IEEE80211_TX_INTFL_DONT_ENCRYPT` -/
  dontEncrypt : Bool
  /-- `IEEE80211_TX_CTL_REQ_TX_STATUS` -/
  reqTxStatus : Bool
  /-- `IEEE80211_TX_CTRL_PORT_CTRL_PROTO` -/
  portCtrlProto : Bool
  /-- `control.hw_key` is not `NULL`. -/
  hwKey : Bool
  /-- `control.vif` -/
  vif : Option Vif
  deriving DecidableEq, Repr

/-- `struct sk_buff`. `tag` is no field of the source: it identifies the buffer, so that a run can
be asked what became of it. -/
structure SkBuff where
  tag : ℕ
  /-- The address of the first data byte, `(unsigned long)skb->data`. -/
  data : BitVec 64
  /-- `skb_headroom(skb)` -/
  headroom : ℕ
  len : ℕ
  byte : ℕ → BitVec 8
  priority : BitVec 32
  /-- The ethertype, in host byte order. -/
  protocol : BitVec 16
  info : TxInfo
  txParams : SkbInfo

namespace SkBuff

/-- `skb_push`: `none` is the kernel's `skb_under_panic`. The new bytes are those of the headroom;
every caller clears them. -/
def push (skb : SkBuff) (n : ℕ) : Option SkBuff :=
  if n ≤ skb.headroom then
    some { skb with
      data := skb.data - BitVec.ofNat 64 n
      headroom := skb.headroom - n
      len := skb.len + n
      byte := fun i => if i < n then 0 else skb.byte (i - n) }
  else
    none

/-- Overwrite one byte. -/
def setByte (skb : SkBuff) (i : ℕ) (b : BitVec 8) : SkBuff :=
  { skb with byte := fun j => if j = i then b else skb.byte j }

/-- `tx_params->internal_hdr_size = headerSize` -/
def withHdrSize (skb : SkBuff) (headerSize : ℕ) : SkBuff :=
  { skb with txParams.internalHdrSize := BitVec.ofNat 8 headerSize }

/-- The little-endian 16-bit word at offset `i`. -/
def word (skb : SkBuff) (i : ℕ) : BitVec 16 := skb.byte (i + 1) ++ skb.byte i

/-- The hardware address at offset `i`. -/
def addrAt (skb : SkBuff) (i : ℕ) : MacAddr :=
  skb.byte i ++ skb.byte (i + 1) ++ skb.byte (i + 2) ++ skb.byte (i + 3) ++ skb.byte (i + 4) ++
    skb.byte (i + 5)

/-- `skb'` is `skb` with `n` bytes pushed in front. -/
structure PushedBy (skb skb' : SkBuff) (n : ℕ) : Prop where
  tag : skb'.tag = skb.tag
  data : skb'.data = skb.data - BitVec.ofNat 64 n
  headroom : skb'.headroom + n = skb.headroom
  len : skb'.len = skb.len + n
  byte : ∀ i, skb'.byte (n + i) = skb.byte i
  priority : skb'.priority = skb.priority
  protocol : skb'.protocol = skb.protocol
  info : skb'.info = skb.info
  txParams : skb'.txParams = skb.txParams

/-- `skb_push` succeeds when there is room. -/
theorem exists_push {skb : SkBuff} {n : ℕ} (h : n ≤ skb.headroom) :
    ∃ skb', skb.push n = some skb' ∧ skb.PushedBy skb' n := by
  refine ⟨_, if_pos h, ?_⟩
  exact {
    tag := rfl
    data := rfl
    headroom := Nat.sub_add_cancel h
    len := rfl
    byte := fun i => by
      have hbyte : (if n + i < n then 0 else skb.byte (n + i - n)) = skb.byte i := by
        rw [if_neg (by omega), Nat.add_sub_cancel_left]
      exact hbyte
    priority := rfl
    protocol := rfl
    info := rfl
    txParams := rfl }

theorem PushedBy.refl (skb : SkBuff) : skb.PushedBy skb 0 where
  tag := rfl
  data := (BitVec.sub_zero _).symm
  headroom := rfl
  len := rfl
  byte i := by rw [Nat.zero_add]
  priority := rfl
  protocol := rfl
  info := rfl
  txParams := rfl

/-- Two pushes are one. -/
theorem PushedBy.trans {skb skb' skb'' : SkBuff} {m n : ℕ} (h : skb.PushedBy skb' m)
    (h' : skb'.PushedBy skb'' n) : skb.PushedBy skb'' (m + n) where
  tag := h'.tag.trans h.tag
  data := by rw [h'.data, h.data, BitVec.ofNat_add]; bv_omega
  headroom := by have := h.headroom; have := h'.headroom; omega
  len := by rw [h'.len, h.len]; omega
  byte i := by rw [show m + n + i = n + (m + i) by omega, h'.byte, h.byte]
  priority := h'.priority.trans h.priority
  protocol := h'.protocol.trans h.protocol
  info := h'.info.trans h.info
  txParams := h'.txParams.trans h.txParams

/-- A push moves the frame, it does not change it. -/
theorem PushedBy.addrAt {skb skb' : SkBuff} {n : ℕ} (h : skb.PushedBy skb' n) (i : ℕ) :
    skb'.addrAt (n + i) = skb.addrAt i := by
  simp only [SkBuff.addrAt, Nat.add_assoc, h.byte]

/-- `skb_push` fails exactly when the headroom is too small. -/
theorem push_eq_none_iff {skb : SkBuff} {n : ℕ} : skb.push n = none ↔ skb.headroom < n := by
  unfold push
  split <;> simp <;> omega

/-! ## The header of an 802.11 frame

Offsets are relative to the start of the header at `h`. -/

/-- `wh->frame_control` -/
def frameControl (skb : SkBuff) (h : ℕ) : BitVec 16 := skb.word h

/-- `wh->addr1` -/
def addr1 (skb : SkBuff) (h : ℕ) : MacAddr := skb.addrAt (h + 4)

/-- `wh->addr2` -/
def addr2 (skb : SkBuff) (h : ℕ) : MacAddr := skb.addrAt (h + 10)

/-- `IEEE80211_SEQ_TO_SN(wh->seq_ctrl)` -/
def seqNum (skb : SkBuff) (h : ℕ) : BitVec 16 := (skb.word (h + 22) &&& 0xfff0) >>> 4

/-- `*ieee80211_get_qos_ctl(wh) & IEEE80211_QOS_CTL_TID_MASK`: the QoS control field follows the
fourth address if the frame has one. -/
def qosTid (skb : SkBuff) (h : ℕ) : BitVec 8 :=
  skb.byte (h + if skb.frameControl h &&& 0x0300 = 0x0300 then 30 else 24) &&& 0x0f

/-- `ehdr->h_dest` of an Ethernet header at `h` -/
def hDest (skb : SkBuff) (h : ℕ) : MacAddr := skb.addrAt h

/-- `ehdr->h_source` of an Ethernet header at `h` -/
def hSource (skb : SkBuff) (h : ℕ) : MacAddr := skb.addrAt (h + 6)

end SkBuff

/-- `is_broadcast_ether_addr` -/
def MacAddr.isBroadcast (addr : MacAddr) : Bool := addr == 0xffffffffffff

/-- `is_multicast_ether_addr` -/
def MacAddr.isMulticast (addr : MacAddr) : Bool := addr.getLsbD 40

/-! ## Frame types, from the frame control field -/

namespace FrameControl

/-- `ieee80211_is_mgmt` -/
def isMgmt (fc : BitVec 16) : Bool := fc &&& 0x0c == 0x00

/-- `ieee80211_is_ctl` -/
def isCtl (fc : BitVec 16) : Bool := fc &&& 0x0c == 0x04

/-- `ieee80211_is_data_qos`: any subtype with the QoS bit. -/
def isDataQos (fc : BitVec 16) : Bool := fc &&& 0x8c == 0x88

/-- The test of one type and subtype. -/
def isSubtype (code fc : BitVec 16) : Bool := fc &&& 0xfc == code

/-- `ieee80211_is_assoc_req` -/
def isAssocReq : BitVec 16 → Bool := isSubtype 0x00

/-- `ieee80211_is_reassoc_req` -/
def isReassocReq : BitVec 16 → Bool := isSubtype 0x20

/-- `ieee80211_is_probe_req` -/
def isProbeReq : BitVec 16 → Bool := isSubtype 0x40

/-- `ieee80211_is_probe_resp` -/
def isProbeResp : BitVec 16 → Bool := isSubtype 0x50

/-- `ieee80211_is_beacon` -/
def isBeacon : BitVec 16 → Bool := isSubtype 0x80

/-- `ieee80211_is_action` -/
def isAction : BitVec 16 → Bool := isSubtype 0xd0

/-- `ieee80211_is_nullfunc` -/
def isNullfunc : BitVec 16 → Bool := isSubtype 0x48

/-- `ieee80211_is_qos_nullfunc` -/
def isQosNullfunc : BitVec 16 → Bool := isSubtype 0xc8

/-- `ieee80211_has_moredata` -/
def hasMoredata (fc : BitVec 16) : Bool := fc &&& 0x2000 == 0x2000

/-- `ieee80211_has_protected` -/
def hasProtected (fc : BitVec 16) : Bool := fc &&& 0x4000 == 0x4000

end FrameControl

/-- The frames that `rsi_core_xmit` sends through the management queue. -/
def SkBuff.isMgmtFrame (skb : SkBuff) : Bool :=
  !skb.txParams.encapOffload &&
    (FrameControl.isMgmt (skb.frameControl 0) || FrameControl.isCtl (skb.frameControl 0) ||
      FrameControl.isQosNullfunc (skb.frameControl 0))

end Tx
