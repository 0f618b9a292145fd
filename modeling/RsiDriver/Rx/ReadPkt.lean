import Mathlib.Data.Int.Notation
import Mathlib.Tactic.SplitIfs
import RsiDriver.ToMathlib.ByteMemory

/-!
# Taking a receive buffer apart

The device puts several packets into one transfer. `rsi_read_pkt` (`rsi_91x_main.c`) goes through
the buffer and passes each packet to the handler of its queue; a data packet is first copied into a
buffer of its own by `rsi_prepare_skb`. Each packet starts with its length and the offset of its
descriptor, and the descriptor carries the queue, the length of what follows it and the size of an
extended descriptor in front of the payload.

`readPkt` is `rsi_read_pkt`. It also records which bytes of the buffer are read or handed on;
nothing in the source keeps these inside the buffer, so the buffer is a memory that goes on behind
its end. The length of the buffer is a non-negative `s32`, and `index` is below twice that.

Left out are the debug output, `check_traffic_pwr_save`, and what the handlers do.
-/

namespace Rx

/-- `FRAME_DESC_SZ` -/
def FRAME_DESC_SZ : ℕ := 16

/-- `RSI_RCV_BUFFER_LEN` -/
def RSI_RCV_BUFFER_LEN : ℕ := 2000

/-- `-EINVAL` -/
def EINVAL : ℤ := -22

/-- The queues by number. -/
def RSI_COEX_Q : BitVec 16 := 0
/-- `RSI_ZIGB_Q` -/
def RSI_ZIGB_Q : BitVec 16 := 1
/-- `RSI_WIFI_MGMT_Q` -/
def RSI_WIFI_MGMT_Q : BitVec 16 := 4
/-- `RSI_WIFI_DATA_Q` -/
def RSI_WIFI_DATA_Q : BitVec 16 := 5
/-- `RSI_BT_MGMT_Q` -/
def RSI_BT_MGMT_Q : BitVec 16 := 6
/-- `RSI_BT_DATA_Q` -/
def RSI_BT_DATA_Q : BitVec 16 := 7

/-- The options that `rsi_read_pkt` is compiled with. -/
structure Build where
  /-- `CONFIG_RSI_COEX_MODE` -/
  coexMode : Bool
  /-- `CONFIG_RSI_BT_ALONE` or `CONFIG_RSI_COEX_MODE` -/
  bt : Bool
  /-- `CONFIG_RSI_COEX_MODE` and `CONFIG_RSI_ZIGB` -/
  zigb : Bool
  deriving DecidableEq, Repr

/-- No Bluetooth, no coex mode. -/
def defaultBuild : Build := ⟨false, false, false⟩

/-- What the rest of the kernel does while a buffer is taken apart, by the position of the packet it
is done for. -/
structure Env where
  /-- `dev_alloc_skb` succeeds. -/
  alloc : ℕ → Bool
  /-- The ZigBee module is ready and takes the packet. -/
  zbRecv : ℕ → Bool
  /-- `rsi_get_connected_channel` -/
  connectedChannel : BitVec 16
  /-- `NET_SKB_PAD`, the headroom of a new buffer -/
  netSkbPad : ℕ

/-- Every allocation succeeds. -/
def allocating : Env := ⟨fun _ => true, fun _ => true, 6, 64⟩

/-- The buffer that `rsi_prepare_skb` makes. -/
structure RxSkb where
  data : List (BitVec 8)
  headroom : ℕ
  rssi : BitVec 8
  channel : BitVec 16
  deriving DecidableEq, Repr

/-- The handlers of the queues other than data. -/
inductive Handler
  | mgmtPktRecv
  | coexRecvPkt
  | hciRecvPkt
  /-- The `RSI_ZIGB_Q` case, which attaches the ZigBee module or hands the packet to it. -/
  | zigb
  deriving DecidableEq, Repr

/-- A packet on its way to its handler. -/
inductive Dispatch
  /-- The descriptor and what follows it by its length field. -/
  | handOn (handler : Handler) (packet : List (BitVec 8))
  /-- The rest of the data branch: `value` is the word at `offset + 28`. -/
  | data (value : BitVec 32) (skb : RxSkb)
  deriving DecidableEq, Repr

section Fields

variable (m : ByteMemory) (index desc : ℕ)

/-- `actual_length` of the packet at `index`. -/
def actualLength : ℕ := (m.le16 index).toNat

/-- `offset` of the packet at `index`. -/
def offset : ℕ := (m.le16 (index + 2)).toNat

/-- The place of the descriptor, `frame_desc + offset`. -/
def descOf : ℕ := index + offset m index

/-- `rsi_get_queueno` -/
def queueno : BitVec 16 := (m.le16 desc &&& 0x7000) >>> 12

/-- `rsi_get_length` -/
def length : BitVec 16 := m.le16 desc &&& 0x0fff

/-- `rsi_get_extended_desc` -/
def extendedDesc : BitVec 8 := m (desc + 4)

/-- `value`: four bytes, least significant byte first. -/
def value : BitVec 32 := m (desc + 31) ++ m (desc + 30) ++ m (desc + 29) ++ m (desc + 28)

end Fields

/-- `pkt_len` of `rsi_prepare_skb` after the size of the extended descriptor is taken off, an
unsigned 32-bit number. -/
def payloadLen (pktLen : ℕ) (ext : BitVec 8) : BitVec 32 :=
  BitVec.ofNat 32 (min pktLen (RSI_RCV_BUFFER_LEN * 4)) - ext.setWidth 32

/-- `payload_offset`, an unsigned 8-bit number. -/
def payloadOffset (ext : BitVec 8) : BitVec 8 := ext + BitVec.ofNat 8 FRAME_DESC_SZ

/-- `rsi_prepare_skb` for the packet with its descriptor at `desc`: the new buffer, and what is
read. -/
def prepareSkb (env : Env) (m : ByteMemory) (desc pktLen : ℕ) (ext : BitVec 8) (alloc : Bool) :
    Option RxSkb × List ByteRange :=
  -- the `WARN` for a dummy packet
  if pktLen = 0 then (none, [])
  else if alloc = false then (none, [])
  else
    -- `memcpy` of `skb->len` bytes, and `rsi_get_rssi`
    let start := desc + (payloadOffset ext).toNat
    let size := (payloadLen pktLen ext).toNat
    (some ⟨m.bytes start size, env.netSkbPad, m (desc + FRAME_DESC_SZ), env.connectedChannel⟩,
      [⟨start, size⟩, ⟨desc + FRAME_DESC_SZ, 1⟩])

/-- A packet that is handed on where it is. -/
def handOn (m : ByteMemory) (desc : ℕ) (handler : Handler) : Dispatch × ByteRange :=
  let size := FRAME_DESC_SZ + (length m desc).toNat
  (.handOn handler (m.bytes desc size), ⟨desc, size⟩)

/-- The cases of the switch over the queue. -/
inductive Route
  | handOn (handler : Handler)
  | data
  | zigb
  deriving DecidableEq, Repr

/-- The case of a queue; `none` is the default case, a packet from an invalid queue. -/
def Build.route (b : Build) (q : BitVec 16) : Option Route :=
  -- without coex mode this queue carries management frames
  if q = RSI_COEX_Q then some (.handOn (if b.coexMode then .coexRecvPkt else .mgmtPktRecv))
  else if q = RSI_WIFI_DATA_Q then some .data
  else if q = RSI_WIFI_MGMT_Q then some (.handOn .mgmtPktRecv)
  else if (q = RSI_BT_MGMT_Q ∨ q = RSI_BT_DATA_Q) ∧ b.bt = true then some (.handOn .hciRecvPkt)
  else if q = RSI_ZIGB_Q ∧ b.zigb = true then some .zigb
  else none

/-- The switch of `rsi_read_pkt` for the packet at `index` with its descriptor at `desc`: where it
goes, `none` for a failure, and what is read or handed on. -/
def dispatch (b : Build) (env : Env) (m : ByteMemory) (index desc : ℕ) (ext : BitVec 8) :
    Option Dispatch × List ByteRange :=
  match b.route (queueno m desc) with
  | none => (none, [])
  | some (.handOn handler) =>
    let (d, r) := handOn m desc handler
    (some d, [r])
  | some .data =>
    -- `value` is read before the buffer is allocated
    let (skb, rs) := prepareSkb env m desc (length m desc).toNat ext (env.alloc index)
    (skb.map (.data (value m desc)), ⟨desc + 28, 4⟩ :: rs)
  | some .zigb =>
    -- `zb_pkt_type` is read first
    let (d, r) := handOn m desc .zigb
    (some d, ⟨desc + 15, 1⟩ :: if env.zbRecv index then [r] else [])

/-- What a call of `rsi_read_pkt` leaves behind: its result, the packets it passed on in order, and
the bytes it read or handed on. -/
structure Outcome where
  status : ℤ
  dispatched : List Dispatch
  accesses : List ByteRange
  deriving DecidableEq, Repr

/-- The rest of the loop after one packet. -/
def Outcome.after (d : Dispatch) (rs : List ByteRange) (o : Outcome) : Outcome :=
  ⟨o.status, d :: o.dispatched, rs ++ o.accesses⟩

/-- The extended descriptor size is read anew for two queues and carried over for the others. -/
def nextExtendedDesc (m : ByteMemory) (desc : ℕ) (ext : BitVec 8) : BitVec 8 :=
  if queueno m desc = RSI_WIFI_DATA_Q ∨ queueno m desc = RSI_WIFI_MGMT_Q then extendedDesc m desc
  else ext

/-- What is read of the headers of the packet at `index`. -/
def headerAccesses (m : ByteMemory) (index : ℕ) : List ByteRange :=
  [⟨index, 4⟩, ⟨descOf m index, 2⟩]

/-- What is read before the switch of a packet that passed the test of its header. -/
def extendedDescAccesses (m : ByteMemory) (desc : ℕ) : List ByteRange :=
  if queueno m desc = RSI_WIFI_DATA_Q ∨ queueno m desc = RSI_WIFI_MGMT_Q then [⟨desc + 4, 2⟩]
  else []

/-- The loop of `rsi_read_pkt`, with at most `fuel` turns: `index` is the position in the buffer,
`rcvPktLen` is what is left of it, and `ext` is `extended_desc`. -/
def readLoop (b : Build) (env : Env) (m : ByteMemory) :
    ℕ → ℕ → ℤ → BitVec 8 → Option Outcome
  | 0, _, _, _ => none
  | fuel + 1, index, rcvPktLen, ext =>
    let desc := descOf m index
    -- `break`: what is left of the buffer is dropped, and the call succeeds
    if queueno m desc ≠ RSI_ZIGB_Q ∧
        (actualLength m index < 4 + FRAME_DESC_SZ ∨ offset m index < 4) then
      some ⟨0, [], headerAccesses m index⟩
    else
      let ext := nextExtendedDesc m desc ext
      let (d, rs) := dispatch b env m index desc ext
      let rs := headerAccesses m index ++ extendedDescAccesses m desc ++ rs
      match d with
      -- `goto fail`
      | none => some ⟨EINVAL, [], rs⟩
      | some d =>
        -- `rcv_pkt_len` is signed and may fall below 0
        if 0 < rcvPktLen - actualLength m index then
          (readLoop b env m fuel (index + actualLength m index)
            (rcvPktLen - actualLength m index) ext).map (.after d rs)
        else some ⟨0, [d], rs⟩

/-- `rsi_read_pkt` on a buffer of `rcvPktLen` bytes, with at most `fuel` turns of its loop. -/
def readPkt (b : Build) (env : Env) (m : ByteMemory) (rcvPktLen fuel : ℕ) : Option Outcome :=
  readLoop b env m fuel 0 rcvPktLen 0

/-! ## The loop -/

section Loop

variable {b : Build} {env : Env} {m : ByteMemory}

/-- A call that returns does the same with more turns allowed. -/
theorem readLoop_add {fuel index : ℕ} {rem : ℤ} {ext : BitVec 8} {o : Outcome}
    (h : readLoop b env m fuel index rem ext = some o) (k : ℕ) :
    readLoop b env m (fuel + k) index rem ext = some o := by
  induction fuel generalizing index rem ext o with
  | zero => cases h
  | succ fuel ih =>
    rw [Nat.succ_add, readLoop]
    rw [readLoop] at h
    by_cases hheader : queueno m (descOf m index) ≠ RSI_ZIGB_Q ∧
        (actualLength m index < 4 + FRAME_DESC_SZ ∨ offset m index < 4)
    -- the loop ends at the header in both
    · rw [if_pos hheader] at h ⊢
      exact h
    · rw [if_neg hheader] at h ⊢
      dsimp only at h ⊢
      cases hd : (dispatch b env m index (descOf m index)
          (nextExtendedDesc m (descOf m index) ext)).1 with
      | none =>
        rw [hd] at h
        exact h
      | some d =>
        rw [hd] at h
        dsimp only at h ⊢
        by_cases hmore : 0 < rem - actualLength m index
        · rw [if_pos hmore] at h ⊢
          -- the rest of the loop is the same
          obtain ⟨o', hrest, rfl⟩ := Option.map_eq_some_iff.1 h
          rw [ih hrest]
          rfl
        · rw [if_neg hmore] at h ⊢
          exact h

/-- The outcome of a call does not depend on how many turns are allowed. -/
theorem readPkt_unique {len fuel fuel' : ℕ} {o o' : Outcome}
    (h : readPkt b env m len fuel = some o) (h' : readPkt b env m len fuel' = some o') :
    o = o' := by
  -- both are outcomes of a call with `fuel + fuel'` turns
  have hadd := readLoop_add h fuel'
  have hadd' := readLoop_add h' fuel
  rw [Nat.add_comm fuel' fuel, hadd] at hadd'
  exact Option.some.inj hadd'

end Loop

/-! ## The queues -/

/-- Only the data queue is a data queue, in every build. -/
theorem route_eq_data_iff {b : Build} {q : BitVec 16} :
    b.route q = some .data ↔ q = RSI_WIFI_DATA_Q := by
  unfold Build.route
  by_cases hdata : q = RSI_WIFI_DATA_Q
  -- the queue number decides, none of the options does
  · subst hdata
    rw [if_neg (by decide), if_pos rfl]
    simp
  · rw [if_neg hdata]
    split_ifs <;> simp [hdata]

/-- A build that takes packets for the ZigBee module at all has a case for them. -/
theorem route_zigb {b : Build} (h : (b.route RSI_ZIGB_Q).isSome = true) :
    b.route RSI_ZIGB_Q = some .zigb := by
  have hne : RSI_ZIGB_Q ≠ RSI_COEX_Q ∧ RSI_ZIGB_Q ≠ RSI_WIFI_DATA_Q ∧
      RSI_ZIGB_Q ≠ RSI_WIFI_MGMT_Q ∧ RSI_ZIGB_Q ≠ RSI_BT_MGMT_Q ∧
      RSI_ZIGB_Q ≠ RSI_BT_DATA_Q := by decide
  cases hzigb : b.zigb <;> simp_all [Build.route]

/-! ## The fields -/

/-- The length field has twelve bits. -/
theorem length_le (m : ByteMemory) (desc : ℕ) : (length m desc).toNat ≤ 4095 := by
  rw [length, BitVec.toNat_and]
  exact Nat.and_le_right

theorem payloadOffset_toNat (ext : BitVec 8) :
    (payloadOffset ext).toNat = (ext.toNat + 16) % 256 := by
  rw [payloadOffset, BitVec.toNat_add]
  rfl

/-- An extended descriptor that is part of the length. -/
theorem payloadLen_of_le {pktLen : ℕ} {ext : BitVec 8} (hmax : pktLen ≤ 4095)
    (hext : ext.toNat ≤ pktLen) : (payloadLen pktLen ext).toNat = pktLen - ext.toNat := by
  have hmin : min pktLen (RSI_RCV_BUFFER_LEN * 4) = pktLen :=
    Nat.min_eq_left (Nat.le_trans hmax (by decide))
  have hlt := ext.isLt
  -- no borrow
  rw [payloadLen, hmin, BitVec.toNat_sub, BitVec.toNat_ofNat, BitVec.toNat_setWidth]
  omega

/-- A longer one makes the length of the payload wrap around. -/
theorem le_payloadLen_of_lt {pktLen : ℕ} {ext : BitVec 8} (hext : pktLen < ext.toNat) :
    2 ^ 31 ≤ (payloadLen pktLen ext).toNat := by
  have hlt := ext.isLt
  have hmin : min pktLen (RSI_RCV_BUFFER_LEN * 4) = pktLen := by
    refine Nat.min_eq_left (Nat.le_trans ?_ (by decide : 256 ≤ RSI_RCV_BUFFER_LEN * 4))
    omega
  rw [payloadLen, hmin, BitVec.toNat_sub, BitVec.toNat_ofNat, BitVec.toNat_setWidth]
  omega

end Rx
