import RsiDriver.Tx.Descriptor

/-!
# Queueing a frame for transmission

`coreXmit` is `rsi_core_xmit` (`rsi_91x_core.c`): it receives a frame from mac80211, sorts it into
a queue, picks the station it is for, has the descriptor prepared, queues it and stops the
mac80211 queues that run full. The result pairs the driver's state with a crash, if there was one;
the state is then the one the crash left behind.

A management frame that asks for an association also makes the driver queue frames of its own.
Which ones depends on code that is not modelled here, so they are a parameter: `none` when
`rsi_send_sta_notify_frame` cannot allocate its frame.
-/

namespace Tx

/-- `TID_TO_WME_AC` -/
def tidToWmeAc (tid : BitVec 8) : BitVec 32 :=
  if tid = 0 ∨ tid = 3 then 1 else if tid < 3 then 0 else if tid < 6 then 2 else 3

/-- The TID of an encapsulated frame: the top three bits of the IPv6 traffic class or of the IPv4
type of service. -/
def encapTid (skb : SkBuff) : BitVec 8 :=
  if skb.word 12 = 0xdd86 then
    (((skb.byte 14 ++ skb.byte 15 : BitVec 16) >>> 4).setWidth 8) >>> 5
  else skb.byte 15 >>> 5

/-- `tid` of `rsi_core_xmit`; `IEEE80211_NONQOS_TID` is 16. -/
def xmitTid (skb : SkBuff) : BitVec 8 :=
  if skb.txParams.encapOffload then encapTid skb
  else if FrameControl.isDataQos (skb.frameControl 0) then skb.qosTid 0
  else 16

/-- `skb->priority` of a data frame before the descriptor is prepared. -/
def xmitPriority (vif : Vif) (skb : SkBuff) : BitVec 32 :=
  if isEapol vif.type skb.protocol then 4 -- `MGMT_SOFT_Q`
  else if vif.type = .ap ∧ (skb.addr1 0).isBroadcast = true then 3 -- `VO_Q`
  else if skb.txParams.encapOffload = false ∧
      FrameControl.isDataQos (skb.frameControl 0) = false then 1 -- `BE_Q`
  else tidToWmeAc (xmitTid skb)

/-- The slot of `stations` a data frame is for, and whether it was found for a unicast frame. -/
def xmitStation (a : Adapter) (vif : Vif) (skb : SkBuff) : Option (Fin 33 × Bool) :=
  let dest := dataDest skb 0
  let unicast := !dest.isBroadcast && !dest.isMulticast
  if unicast = true ∧ (vif.type = .ap ∨ vif.type = .p2pGo) then (a.findSta dest).map (·, true)
  else if unicast = true ∧ vif.type = .station then some (RSI_MAX_ASSOC_STAS, true)
  else if vif.type = .ap then (a.findSta dest).map (·, false)
  else if vif.type = .station then some (RSI_MAX_ASSOC_STAS, false)
  else none

/-- Null-data frames are dropped while the device scans in the background. -/
def nullDropped (a : Adapter) (vif : Vif) (skb : SkBuff) : Bool :=
  !skb.txParams.encapOffload && vif.type == .station && a.bgscanEn &&
    (FrameControl.isQosNullfunc (skb.frameControl 0) ||
      FrameControl.isNullfunc (skb.frameControl 0))

/-- A data frame as `rsi_prepare_data_desc` receives it. -/
def xmitSkb (a : Adapter) (vif : Vif) (skb : SkBuff) (i : Fin 33) : SkBuff :=
  { skb with
    priority := xmitPriority vif skb
    txParams.tid := xmitTid skb
    txParams.staId := (a.stations i).staId.setWidth 8 }

/-- The marks of a frame of the driver's own: `BIT(7)` of byte 1, for an immediate wake-up, the flag
`INTERNAL_MGMT_PKT` and the queue. -/
def SkBuff.internal (skb : SkBuff) : SkBuff :=
  { skb.setByte 1 (skb.byte 1 ||| 0x80) with
    priority := 4
    txParams.internalMgmtPkt := true }

namespace Adapter

/-- The block-ack session that the first unicast frame of a station and TID starts. -/
def startSession (a : Adapter) (skb : SkBuff) (i : Fin 33) (unicast : Bool) : Adapter :=
  if unicast && !(a.stations i).aggrFlag (xmitTid skb) && !skb.info.portCtrlProto then
    a.startTxAggr i (xmitTid skb)
  else a

/-- The queue `q` holds more packets than `host_txq_maxlen[q] - NW_QUEUE_STOP_OFFSET`, compared as
unsigned 32-bit numbers. -/
def overWaterMark (a : Adapter) (q : Fin NUM_EDCA_QUEUES) : Bool :=
  (a.hostTxqMaxlen q).setWidth 32 - 3 < BitVec.ofNat 32 (a.txQueue (q.castLE (by decide))).length

/-- The mac80211 queues that `rsi_core_xmit` stops after queueing a frame in `q`, in order. -/
def stopList (a : Adapter) (q : Fin NUM_EDCA_QUEUES) : List (Fin NUM_EDCA_QUEUES) :=
  let len := fun q : QNum => (a.txQueue q).length
  (if a.overWaterMark q then q :: if (a.edcaParams 2).acm then [2] else [] else []) ++
    if (a.edcaParams 1).aifs < (a.edcaParams 2).aifs then
      if 5 < len BE_Q then [2, 3, 0]
      else if 10 < len BK_Q then [3, 2]
      else if 10 < len VO_Q then [2]
      else []
    else
      if 15 < len VO_Q then [2, 1, 0]
      else if 30 < len VI_Q then [1, 0]
      else if 60 < len BE_Q then [0]
      else []

/-- The flow control at the end of `rsi_core_xmit`. -/
def flowControl (a : Adapter) (q : Fin NUM_EDCA_QUEUES) : Adapter × Option Fault :=
  if a.stopList q = [] then (a, none)
  else if a.hw.isNone then (a, some .nullDeref)
  else ((a.stopList q).foldl stopQueue a, none)

/-- `rsi_send_internal_mgmt_frame`: a `PEER_NOTIFY` frame, whose byte 2 is 8, goes to the head of
the queue. -/
def sendInternalMgmtFrame (a : Adapter) (skb : SkBuff) : Adapter :=
  let skb := skb.internal
  let queue := a.txQueue MGMT_SOFT_Q
  { a with
    txQueue := Function.update a.txQueue MGMT_SOFT_Q
      (if skb.byte 2 = 8 then skb :: queue else queue ++ [skb]) }

/-- `rsi_send_sta_notify_frame` for an association request: `internal` is what it queues, in
order. -/
def sendStaNotify (a : Adapter) (internal : Option (List SkBuff)) : Adapter :=
  match internal with
  | none => a
  | some frames => frames.foldl sendInternalMgmtFrame { a with peerNotify := true }

/-- The end of `rsi_core_xmit`, with the answer of the function that prepares the descriptor:
`q_num` is the queue the frame was sorted into before. A rejected frame is freed. -/
def queueOrFree (a : Adapter) (qNum : BitVec 32) : DescResult → Adapter × Option Fault
  | .oops fault => (a, some fault)
  | .rejected a skb _ => (a.freeTxskb skb, none)
  | .ready a skb =>
    if h : qNum.toNat < 4 then (a.coreQueuePkt skb).flowControl ⟨_, h⟩
    else (a.coreQueuePkt skb, none) -- `MGMT_SOFT_Q`

/-- The management branch of `rsi_core_xmit`. An association request needs the BSS of `vifs[0]`
and the last vif. -/
def xmitMgmt (a : Adapter) (skb : SkBuff) (internal : Option (List SkBuff)) :
    Adapter × Option Fault :=
  let assoc := FrameControl.isAssocReq (skb.frameControl 0) ||
    FrameControl.isReassocReq (skb.frameControl 0)
  if assoc && ((a.vifs 0).isNone || a.lastVif.isNone) then
    ({ a with eapol4Confirm := false, startBgscan := false }, some .nullDeref)
  else
    let a :=
      if assoc then
        { a with eapol4Confirm := false, startBgscan := false }.sendStaNotify internal
      else a
    a.queueOrFree 4 (prepareMgmtDesc a { skb with priority := 4 })

/-- The data branch of `rsi_core_xmit`. -/
def xmitData (a : Adapter) (skb : SkBuff) : Adapter × Option Fault :=
  match a.lastVif with
  | none => (a, some .nullDeref)
  | some vif =>
    if nullDropped a vif skb then (a.indicateTxStatus skb, none)
    else
      match xmitStation a vif skb with
      | none => (a.freeTxskb skb, none)
      | some (i, unicast) =>
        let b := a.startSession skb i unicast
        b.queueOrFree (xmitPriority vif skb) (prepareDataDesc b (xmitSkb a vif skb i))

/-- `rsi_core_xmit` -/
def coreXmit (a : Adapter) (skb : SkBuff) (internal : Option (List SkBuff)) :
    Adapter × Option Fault :=
  if skb.len = 0 ∨ a.fsmMacInitDone = false then (a.freeTxskb skb, none)
  else if skb.isMgmtFrame then a.xmitMgmt skb internal
  else a.xmitData skb

end Adapter

end Tx
