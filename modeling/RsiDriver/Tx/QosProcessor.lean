import Mathlib.Tactic.SplitIfs
import RsiDriver.Tx.CoreXmit

/-!
# Draining the transmit queues

One iteration of `rsi_core_qos_processor` takes the queue that `rsi_core_determine_hal_queue`
chose, removes a packet and passes it to one of three senders, which differ in how they release
it (`rsi_91x_core.c`, `rsi_91x_hal.c`; the build without coex mode). A null-data frame whose
status mac80211 asked for is not released by its sender: it is parked in the slot of its station
until the device confirms it.

The choice of the queue, the device's answer about its buffers and the outcome of `rsi_send_pkt`
are inputs of an iteration.
-/

namespace Tx

/-- What a sender or an iteration leaves behind. `failed` is a non-zero return value; `parkedAt` is
the slot of `stations` the packet was parked in. -/
structure Sent where
  adapter : Adapter
  failed : Bool
  parkedAt : Option (Fin 33)
  fault : Option Fault

namespace Adapter

/-- `rsi_send_pkt`, as far as its caller sees it: `ok` says whether `write_pkt` took the packet. -/
def sendPkt (a : Adapter) (skb : SkBuff) (ok : Bool) : Adapter :=
  if ok then { a with written := a.written ++ [skb] } else a

/-- The end of the two senders: `rsi_send_pkt`, then `rsi_indicate_tx_status`. -/
def sendStatus (a : Adapter) (skb : SkBuff) (ok : Bool) : Sent :=
  ⟨(a.sendPkt skb ok).indicateTxStatus skb, !ok, none, none⟩

/-- `rsi_send_data_pkt`. Every path ends in `rsi_indicate_tx_status`. -/
def sendDataPkt (a : Adapter) (skb : SkBuff) (ok : Bool) : Sent :=
  let headerSize := skb.txParams.internalHdrSize.toNat
  let err : Sent := ⟨a.indicateTxStatus skb, true, none, none⟩
  match a.ifaceDown, skb.info.vif, dataVif a skb headerSize with
  | false, some bssVif, some vif =>
    if vif.type = .station ∧ (bssVif.assoc = false ∨ skb.txParams.encapOffload = false ∧
        skb.addr1 headerSize ≠ bssVif.bssid) then err
    else a.sendStatus skb ok
  | _, _, _ => err

end Adapter

/-- What `rsi_send_mgmt_pkt` does about the confirm of a null-data frame. -/
inductive NullData
  /-- No confirm is asked for. -/
  | plain
  /-- The packet is parked in this slot; the descriptor names this station id. -/
  | park (slot : Fin 33) (staId : BitVec 16)
  /-- There is no station, and the packet is released at once. -/
  | refuse
  | oops (fault : Fault)
  deriving DecidableEq

/-- The null-data paragraph of `rsi_send_mgmt_pkt`. For an access point the station that
`rsi_find_sta` returns is dereferenced unchecked, and its `sta_id` indexes `stations`. -/
def nullData (a : Adapter) (vif : Vif) (skb : SkBuff) (headerSize : ℕ) : NullData :=
  if FrameControl.isQosNullfunc (skb.frameControl headerSize) ∧ skb.info.reqTxStatus then
    match vif.type with
    | .ap =>
      match a.findSta (skb.addr1 headerSize) with
      | none => .oops .nullDeref
      | some i =>
        if h : (a.stations i).staId.toNat < 33 then .park ⟨_, h⟩ (a.stations i).staId
        else .oops .outOfBounds
    | .station => .park RSI_MAX_ASSOC_STAS (a.stations RSI_MAX_ASSOC_STAS).staId
    | .p2pClient | .p2pGo | .other => .refuse
  else .plain

/-- Ask for a confirm of the given type: `RSI_DESC_REQUIRE_CFM_TO_HOST` in word 1 of the
descriptor, and the type in the extended descriptor. -/
def SkBuff.requireConfirm (skb : SkBuff) (confirmFrameType : BitVec 8) : SkBuff :=
  (skb.setByte 3 (skb.byte 3 ||| 0x04)).setByte FRAME_DESC_SZ confirmFrameType

/-- Ask for a `NULLDATA_CONFIRM` of the station `staId`, which goes into word 7. -/
def SkBuff.requireNullDataConfirm (skb : SkBuff) (staId : BitVec 16) : SkBuff :=
  (skb.setByte 15 (skb.byte 15 ||| staId.setWidth 8)).requireConfirm 3

/-- A probe request is not sent while the device scans in the background, unless it goes to the
connected channel and to one receiver. -/
def probeDropped (a : Adapter) (vif : Vif) (skb : SkBuff) (headerSize : ℕ) : Bool :=
  FrameControl.isProbeReq (skb.frameControl headerSize) && vif.assoc && a.bgscanEn &&
    (a.mac80211CurChannel != a.connectedChannel || skb.byte (headerSize + 4) == 0xff)

namespace Adapter

/-- `common->stations[slot].sta_skb = skb` -/
def park (a : Adapter) (slot : Fin 33) (skb : SkBuff) : Adapter :=
  { a with
    stations := Function.update a.stations slot { a.stations slot with staSkb := some skb } }

/-- `rsi_send_mgmt_pkt` -/
def sendMgmtPkt (a : Adapter) (skb : SkBuff) (ok : Bool) : Sent :=
  let headerSize := skb.txParams.internalHdrSize.toNat
  if skb.txParams.internalMgmtPkt then
    let skb := skb.setByte 1 (skb.byte 1 ||| 0x80) -- immediate wake-up
    ⟨(a.sendPkt skb ok).kfreeSkb skb, !ok, none, none⟩
  -- from here on the status goes to mac80211
  else if a.ifaceDown then ⟨a.indicateTxStatus skb, true, none, none⟩
  else if skb.txParams.encapOffload then a.sendStatus skb ok
  else
    match a.getVif (skb.addr2 headerSize) with
    | none => ⟨a.indicateTxStatus skb, true, none, none⟩
    | some vif =>
      match nullData a vif skb headerSize with
      | .oops fault => ⟨a, true, none, some fault⟩
      | .refuse => ⟨a.indicateTxStatus skb, true, none, none⟩
      | .park slot staId =>
        -- the slot keeps the packet until its confirm comes, even if the device did not take it
        let skb := skb.requireNullDataConfirm staId
        ⟨(a.park slot skb).sendPkt skb ok, !ok, some slot, none⟩
      | .plain =>
        if probeDropped a vif skb headerSize then ⟨a.indicateTxStatus skb, false, none, none⟩
        else if FrameControl.isProbeReq (skb.frameControl headerSize) && !vif.assoc then
          a.sendStatus (skb.requireConfirm 2) ok -- `PROBEREQ_CONFIRM`
        else a.sendStatus skb ok

/-- `ieee80211_wake_queue` -/
def wakeQueue (a : Adapter) (ac : Fin NUM_EDCA_QUEUES) : Adapter :=
  { a with hw := a.hw.map fun hw =>
      { hw with queueStopped := Function.update hw.queueStopped ac false } }

/-- The mac80211 queues that an iteration wakes after it removed a data packet. The test of
`&edca_params[VI_Q].acm`, an address, is always true. -/
def wakeList (a : Adapter) : List (Fin NUM_EDCA_QUEUES) :=
  let len := fun q : QNum => (a.txQueue q).length
  (if len VO_Q < 100 then [3] else []) ++
    if len VO_Q = 0 then
      (if (a.edcaParams 2).acm = false ∧ len VI_Q < 150 ∨ len BE_Q < 25 then [2] else []) ++
        if len VI_Q < 5 then
          (if len BE_Q < 25 then [1] else []) ++
            if len BE_Q < 15 ∧ len BK_Q < 10 then [0] else []
        else []
    else []

end Adapter

/-- `rsi_get_aligned_skb`, called when the data pointer is not a multiple of eight: push eight
bytes, pull up to the next multiple, and move the data down. `none` is `skb_under_panic`. -/
def SkBuff.aligned (skb : SkBuff) : Option SkBuff :=
  let off := (skb.data &&& 7).toNat
  if off = 0 then some skb
  else if skb.headroom < 8 then none
  else some { skb with data := skb.data - BitVec.ofNat 64 off, headroom := skb.headroom - off }

/-- Aligning moves the data and changes nothing else. -/
theorem SkBuff.aligned_cases {skb skb' : SkBuff} (h : skb.aligned = some skb') :
    ∃ data headroom, skb' = { skb with data := data, headroom := headroom } := by
  unfold aligned at h
  dsimp only at h
  split_ifs at h with hoff
  · obtain rfl : skb = skb' := by simpa using h
    exact ⟨skb.data, skb.headroom, rfl⟩
  · exact ⟨_, _, (Option.some.inj h).symm⟩

namespace Adapter

/-- The packet an iteration removes, if it gets that far, with the queue it leaves behind.
`hwFree` says whether `check_hw_queue_status` is positive. -/
def dequeue (a : Adapter) (q : QNum) (hwFree : Bool) : Option (SkBuff × Adapter) :=
  if a.hibernateResume ∨ (hwFree = false ∧ (q < MGMT_SOFT_Q ∨ a.peerNotify = false ∧
      q = MGMT_SOFT_Q)) then none
  else
    match a.txQueue q with
    | [] => none
    | skb :: rest => some (skb, { a with txQueue := Function.update a.txQueue q rest })

/-- The sender of a queue. -/
def send (a : Adapter) (q : QNum) (skb : SkBuff) (ok : Bool) : Sent :=
  if q = MGMT_SOFT_Q then a.sendMgmtPkt skb ok
  else if q = MGMT_BEACON_Q then ⟨(a.sendPkt skb ok).kfreeSkb skb, !ok, none, none⟩
  else a.sendDataPkt skb ok

/-- What an iteration does with the packet `skb` it removed from `q`. -/
def drain (a : Adapter) (q : QNum) (skb : SkBuff) (ok : Bool) : Sent :=
  if q < MGMT_SOFT_Q ∧ a.hw.isNone then ⟨a, true, none, none⟩
  else
    let a := if q < MGMT_SOFT_Q then a.wakeList.foldl wakeQueue a else a
    let a :=
      if a.peerNotify ∧ skb.byte 2 = 8 then { a with peerNotify := false } else a -- `PEER_NOTIFY`
    match skb.aligned with
    | none => ⟨a, true, none, some .skbUnderPanic⟩
    | some skb => a.send q skb ok

/-- The `NULLDATA_CONFIRM` branch of `rsi_mgmt_pkt_recv`: the slot it looks at. -/
def confirmSlot (a : Adapter) (staId : BitVec 8) : Except Fault (Fin 33) :=
  match a.vifs 0 with
  | none => .error .nullDeref
  | some vif =>
    if vif.type = .station then .ok RSI_MAX_ASSOC_STAS
    else if h : staId.toNat < 33 then .ok ⟨_, h⟩
    else .error .outOfBounds

/-- What the `NULLDATA_CONFIRM` branch does with its slot. The slot is not cleared. With hardware
and the interface up, `rsi_indicate_tx_status` dereferences the packet. -/
def confirm (a : Adapter) (slot : Fin 33) : Adapter × Option Fault :=
  match (a.stations slot).staSkb with
  | some skb => (a.indicateTxStatus skb, none)
  | none => (a, if a.hw.isSome && !a.ifaceDown then some .nullDeref else none)

end Adapter

end Tx
