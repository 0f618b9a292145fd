import Mathlib.Data.FinEnum
import Mathlib.Data.Int.Notation
import RsiDriver.ToMathlib.ByteMemory
import RsiDriver.ToMathlib.FiniteLoop
import RsiDriver.ToMathlib.TransitionSystem

/-!
# Radio measurement requests

In a build with `CONFIG_RSI_11K`, `rsi_rrm_parse_radio_action_frame` queues each measurement request
that is received, and `rsi_rrm_sched_req` takes one at a time off the queue, parses it and has the
device measure. The device answers with `RADIO_MEAS_RPT`, on which a report is sent from
`rrm_pending_frame`, the frame is freed, and the next request is scheduled (`rsi_91x_rrm.c`,
`rsi_mgmt_pkt_recv`). Both run in the receive thread, one message after the other.

The content of the command to the device and of the report on the air is left out, and so are the
copies of the parameters that only `RSI_DEBUG_RRM` reads. A parser that writes past a field or never
returns ends the run, and so does the use of a pointer that is `NULL`.

## Main results

* `optElems_spins`: after 256 rounds the loop of `rsi_rrm_parse_beacon_req` never ends;
* `serves_of_orderly`: the requests are served in order, one at a time, and the frame of each is
  freed once, if each request that is scheduled can be served and each report answers a measurement;
* `not_serves`: a second report for the same measurement.
-/

namespace Rrm

/-- `MIN_802_11_HDR_LEN` -/
def MIN_802_11_HDR_LEN : ℕ := 24
/-- `MAX_MGMT_PKT_SIZE` -/
def MAX_MGMT_PKT_SIZE : ℕ := 512
/-- `MAX_RRM_REQ` -/
def MAX_RRM_REQ : ℕ := 5
/-- `RRM_MIN_CHLOAD_FRM_LEN` -/
def RRM_MIN_CHLOAD_FRM_LEN : ℕ := 6
/-- `RRM_MIN_FRM_REQ_LEN` -/
def RRM_MIN_FRM_REQ_LEN : ℕ := 13
/-- `RRM_MIN_BEACON_FRM_LEN` -/
def RRM_MIN_BEACON_FRM_LEN : ℕ := 13
/-- `SSID_LEN` -/
def SSID_LEN : ℕ := 32
/-- The size of `bcn_rpt_info`. -/
def BCN_RPT_INFO_LEN : ℕ := 64

/-- `IEEE80211_ACTION_RADIO_MEAS_REQ` -/
def IEEE80211_ACTION_RADIO_MEAS_REQ : BitVec 8 := 0

/-- The element ids of a beacon request. -/
def SSID_ELEM_ID : BitVec 8 := 0
/-- `BEACON_REPORT_INFO` -/
def BEACON_REPORT_INFO : BitVec 8 := 1
/-- `REPORTING_DETAIL` -/
def REPORTING_DETAIL : BitVec 8 := 2
/-- `AP_CHANNEL_RPT` -/
def AP_CHANNEL_RPT : BitVec 8 := 51
/-- `VENDOR_SPECIFIC` -/
def VENDOR_SPECIFIC : BitVec 8 := 221

/-- `-EPERM` -/
def EPERM : ℤ := -1
/-- `-ENOMEM` -/
def ENOMEM : ℤ := -12
/-- `-ENODEV` -/
def ENODEV : ℤ := -19
/-- `-EINVAL` -/
def EINVAL : ℤ := -22
/-- `-EOPNOTSUPP` -/
def EOPNOTSUPP : ℤ := -95

/-- The types of measurement. -/
inductive MeasType
  | channelLoad
  | frame
  | beacon
  deriving DecidableEq, Repr

/-- `RRM_TYPE_CHANNEL_LOAD`, `RRM_TYPE_BEACON`, `RRM_TYPE_FRAME`. -/
def MeasType.ofByte (b : BitVec 8) : Option MeasType :=
  if b = 3 then some .channelLoad
  else if b = 5 then some .beacon
  else if b = 6 then some .frame
  else none

/-- A queued frame. What stands behind its `len` bytes is whatever the buffer held before; `id`
tells the buffers apart. -/
structure Skb where
  id : ℕ
  data : ByteMemory
  len : ℕ

/-! ## The parsers -/

/-- `struct rsi_meas_params` -/
structure MeasParams where
  dialogToken : BitVec 8
  channelNum : BitVec 8
  measReqMode : BitVec 8
  measType : BitVec 8
  measDuration : BitVec 16
  randInterval : BitVec 16
  regulatoryClass : BitVec 8

/-- `struct rsi_frame_meas_params` -/
structure FrameMeasParams where
  mp : MeasParams
  frameReqType : BitVec 8
  macAddr : List (BitVec 8)

/-- `struct rsi_beacon_meas_params`; the fields that only an element fills are `none` before. -/
structure BeaconMeasParams where
  mp : MeasParams
  measMode : BitVec 8
  macAddr : List (BitVec 8)
  ssidIe : Option (List (BitVec 8))
  bcnRptInfo : Option (List (BitVec 8))
  rptDetail : Option (BitVec 8)

/-- The parameters that go to the device. -/
inductive Params
  | channelLoad (params : MeasParams)
  | frame (params : FrameMeasParams)
  | beacon (params : BeaconMeasParams)

/-- How a parser ends. -/
inductive ParseResult (α : Type)
  | ok (params : α)
  | err (status : ℤ)
  /-- It has written past the end of a field. -/
  | overrun
  /-- It does not end. -/
  | spins

namespace ParseResult

variable {α β : Type}

/-- The parser went on with `f`. -/
def bind (r : ParseResult α) (f : α → ParseResult β) : ParseResult β :=
  match r with
  | .ok params => f params
  | .err status => .err status
  | .overrun => .overrun
  | .spins => .spins

/-- The parameters as `f` of what the parser returned. -/
def map (f : α → β) (r : ParseResult α) : ParseResult β := r.bind fun params => .ok (f params)

/-- The parser has accepted the frame. -/
def isOk : ParseResult α → Bool
  | .ok _ => true
  | _ => false

/-- The parser has come back to its caller. -/
def returns : ParseResult α → Bool
  | .ok _ | .err _ => true
  | .overrun | .spins => false

theorem returns_of_isOk {r : ParseResult α} (h : r.isOk = true) : r.returns = true := by
  cases r with
  | ok => rfl
  | err | overrun | spins => cases h

end ParseResult

/-- The fields that all requests share. -/
def measParams (frm : ByteMemory) : MeasParams where
  dialogToken := frm 2
  measReqMode := frm 8
  measType := frm 9
  regulatoryClass := frm 10
  channelNum := frm 11
  randInterval := frm.le16 12
  measDuration := frm.le16 14

/-- The frame behind its header. -/
def Skb.frm (skb : Skb) : ByteMemory := fun i => skb.data (MIN_802_11_HDR_LEN + i)

/-- `rsi_rrm_parse_channel_load_req` -/
def rrmParseChannelLoadReq (skb : Skb) : ParseResult MeasParams :=
  if skb.len < RRM_MIN_CHLOAD_FRM_LEN then .err EINVAL else .ok (measParams skb.frm)

/-- `rsi_rrm_parse_frame_req`; the address is read at the offset 17 of the whole frame. -/
def rrmParseFrameReq (skb : Skb) : ParseResult FrameMeasParams :=
  if skb.len < RRM_MIN_FRM_REQ_LEN then .err EINVAL
  else .ok ⟨measParams skb.frm, skb.frm 16, skb.data.bytes 17 6⟩

/-- One element of a beacon request. -/
def optElem (frm : ByteMemory) (index : ℕ) (params : BeaconMeasParams) :
    ParseResult BeaconMeasParams :=
  let optElemId := frm index
  let optElemLen := (frm (index + 1)).toNat
  -- `memcpy` into `ssid_ie` by the length in the frame
  if optElemId = SSID_ELEM_ID then
    if SSID_LEN < optElemLen then .overrun
    else
      let ssid := frm.bytes (index + 2) optElemLen ++ List.replicate (SSID_LEN - optElemLen) 0
      .ok { params with ssidIe := some ssid }
  else if optElemId = BEACON_REPORT_INFO then
    -- the id and the length are copied with the element
    if BCN_RPT_INFO_LEN < optElemLen + 2 then .overrun
    else .ok { params with bcnRptInfo := some (frm.bytes index (optElemLen + 2)) }
  else if optElemId = REPORTING_DETAIL then
    .ok { params with rptDetail := some (frm (index + 2)) }
  -- these end the loop, as does any other element
  else if optElemId = AP_CHANNEL_RPT then .err EOPNOTSUPP
  else if optElemId = VENDOR_SPECIFIC then .err EOPNOTSUPP
  else .err EOPNOTSUPP

/-- The loop of `rsi_rrm_parse_beacon_req`, at most `fuel` rounds of it. `index` is a byte, so that
it wraps. -/
def optElems (skb : Skb) : ℕ → BitVec 8 → BeaconMeasParams → ParseResult BeaconMeasParams
  | 0, _, _ => .spins
  | fuel + 1, index, params =>
    -- `index` counts from the header on, `len` from the start of the frame
    if index.toNat < skb.len then
      (optElem skb.frm index.toNat params).bind
        (optElems skb fuel (index + 2 + skb.frm (index.toNat + 1)))
    else .ok params

/-- `rsi_rrm_parse_beacon_req` -/
def rrmParseBeaconReq (skb : Skb) : ParseResult BeaconMeasParams :=
  if skb.len < RRM_MIN_BEACON_FRM_LEN then .err EINVAL
  else
    -- more than 256 rounds make no difference; see `optElems_spins`
    optElems skb 256 23 ⟨measParams skb.frm, skb.frm 16, skb.frm.bytes 17 6, none, none, none⟩

/-- The parser of each type. -/
def MeasType.parse : MeasType → Skb → ParseResult Params
  | .channelLoad, skb => (rrmParseChannelLoadReq skb).map .channelLoad
  | .frame, skb => (rrmParseFrameReq skb).map .frame
  | .beacon, skb => (rrmParseBeaconReq skb).map .beacon

/-! ## The loop over the elements -/

section OptElems

variable {skb : Skb} {params : BeaconMeasParams} {index : BitVec 8} {n : ℕ}

/-- Which elements are taken does not depend on the parameters so far. -/
theorem isOk_optElem (frm : ByteMemory) (i : ℕ) (params params' : BeaconMeasParams) :
    (optElem frm i params).isOk = (optElem frm i params').isOk := by
  unfold optElem
  dsimp only
  split_ifs <;> rfl

theorem optElem_ne_spins (frm : ByteMemory) (i : ℕ) (params : BeaconMeasParams) :
    optElem frm i params ≠ .spins := by
  unfold optElem
  dsimp only
  split_ifs <;> exact fun h => (by cases h)

/-- The index of the next round, if there is one. -/
def nextIndex (skb : Skb) (params : BeaconMeasParams) (index : BitVec 8) : Option (BitVec 8) :=
  if index.toNat < skb.len ∧ (optElem skb.frm index.toNat params).isOk = true then
    some (index + 2 + skb.frm (index.toNat + 1))
  else none

theorem optElems_eq_spins (params₀ : BeaconMeasParams) :
    optElems skb n index params = .spins ↔
      (FiniteLoop.after (nextIndex skb params₀) n index).isSome = true := by
  -- the loop goes by the index alone, round by round
  induction n generalizing index params with
  | zero => simp [optElems, FiniteLoop.after]
  | succ n ih =>
    rw [optElems, FiniteLoop.after, nextIndex, isOk_optElem _ _ params₀ params]
    by_cases hlt : index.toNat < skb.len
    · rw [if_pos hlt]
      cases helem : optElem skb.frm index.toNat params with
      | ok params' => simpa [ParseResult.bind, ParseResult.isOk, hlt] using ih
      | err | overrun => simp [ParseResult.bind, ParseResult.isOk]
      | spins => exact absurd helem (optElem_ne_spins _ _ _)
    · simp [hlt]

/-- The index is a byte: a loop that is still running after 256 rounds never ends. -/
theorem optElems_spins (h : optElems skb 256 index params = .spins) (n : ℕ) :
    optElems skb n index params = .spins := by
  -- as many rounds as there are indices
  have hcard : Fintype.card (BitVec 8) = 256 := FinEnum.card_eq_fintypeCard.symm
  rw [optElems_eq_spins params] at h ⊢
  apply FiniteLoop.isSome_after
  rwa [hcard]

end OptElems

/-! ## The driver and the device -/

/-- The states of the scheduler. -/
inductive RrmState
  | idle
  | reqSent
  | respRcvd
  deriving DecidableEq, Repr

/-- The driver's fields, the measurements the device has not answered, and what has become of the
frames. -/
structure Sys where
  rrmState : RrmState
  rrmEnqState : Bool
  numPendRrmReqs : ℕ
  rrmQueue : List Skb
  rrmPendingFrame : Option Skb
  /-- The requests that the device measures. -/
  outstanding : List Skb
  queued : List Skb
  dequeued : List Skb
  /-- The requests that were handed to the device, with what their parser returned. -/
  handed : List (Skb × ParseResult Params)
  /-- The frames that were freed through `rrm_pending_frame`. -/
  freed : List ℕ
  usedAfterFree : Bool
  /-- The receive thread goes on. -/
  alive : Bool

/-- The choices of a schedule. -/
inductive Act
  /-- A request is received; `data` is the buffer after the copy. `allocOk` and `sendOk` are the
  outcomes of `dev_alloc_skb` and of the function that has the device measure. -/
  | recvRequest (data : ByteMemory) (msgLen : ℕ) (allocOk sendOk : Bool)
  /-- `RADIO_MEAS_RPT`; it `answers` the oldest measurement or none. `vif` and `allocOk` are the
  outcomes of `rsi_get_sta_vif`, in a build with `CONFIG_STA_PLUS_AP`, and of `dev_alloc_skb`. -/
  | measRpt (msg : ByteMemory) (answers vif allocOk sendOk : Bool)

/-- The action and the type of a request. -/
def Skb.action (skb : Skb) : BitVec 8 := skb.data (1 + MIN_802_11_HDR_LEN)
/-- `meas_req_type` -/
def Skb.measReqType (skb : Skb) : BitVec 8 := skb.data (9 + MIN_802_11_HDR_LEN)

namespace Sys

/-- Nothing has been received yet. -/
def start : Sys where
  rrmState := .idle
  rrmEnqState := false
  numPendRrmReqs := 0
  rrmQueue := []
  rrmPendingFrame := none
  outstanding := []
  queued := []
  dequeued := []
  handed := []
  freed := []
  usedAfterFree := false
  alive := true

/-- The branch of `rsi_rrm_sched_req` for a request of the type `t`. What the parser returns is not
looked at. -/
def measure (s : Sys) (skb : Skb) (t : MeasType) (sendOk : Bool) : Sys :=
  if (t.parse skb).returns = false then { s with alive := false }
  else if sendOk = true then
    { s with
      handed := s.handed ++ [(skb, t.parse skb)]
      outstanding := s.outstanding ++ [skb] }
  else s

/-- `rsi_rrm_sched_req` -/
def rrmSchedReq (s : Sys) (sendOk : Bool) : Sys × ℤ :=
  match s.rrmQueue with
  | [] => (s, 0)
  | skb :: rrmQueue =>
    -- a request is being measured
    if s.rrmEnqState = true then (s, 0)
    else
      let s := { s with
        rrmQueue := rrmQueue
        dequeued := s.dequeued ++ [skb]
        rrmPendingFrame := some skb }
      if skb.action = IEEE80211_ACTION_RADIO_MEAS_REQ then
        let s := { s with rrmState := .reqSent, rrmEnqState := true }
        match MeasType.ofByte skb.measReqType with
        | some t => (s.measure skb t sendOk, 0)
        -- a type that is not known: `rrm_enq_state` stays set
        | none => (s, 0)
      else (s, EPERM)

/-- `rsi_rrm_parse_radio_action_frame` -/
def rrmParseRadioActionFrame (s : Sys) (data : ByteMemory) (msgLen : ℕ) (allocOk sendOk : Bool) :
    Sys × ℤ :=
  -- `rx_rrm`, which is freed here, points into the received message
  if MAX_RRM_REQ < s.numPendRrmReqs then ({ s with alive := false }, 0)
  else if allocOk = false then (s, ENOMEM)
  -- `skb_put` behind the end of the buffer
  else if MAX_MGMT_PKT_SIZE < msgLen then ({ s with alive := false }, 0)
  else
    let skb : Skb := ⟨s.queued.length, data, msgLen⟩
    let s := { s with rrmQueue := s.rrmQueue ++ [skb], queued := s.queued ++ [skb] }
    if s.rrmState = .reqSent then (s, 0) else ((s.rrmSchedReq sendOk).1, 0)

/-- What the three reports do with `rrm_pending_frame`: its header is read, and it is freed. -/
def usePendingFrame (s : Sys) : Sys :=
  -- `rrm_pending_frame` is not reset here
  match s.rrmPendingFrame with
  | none => { s with alive := false }
  | some skb =>
    { s with
      usedAfterFree := s.usedAfterFree || decide (skb.id ∈ s.freed)
      freed := s.freed ++ [skb.id] }

/-- `rsi_prepare_channel_load_rpt` -/
def prepareChannelLoadRpt (s : Sys) (vif allocOk : Bool) : Sys × ℤ :=
  if vif = false then (s, ENODEV)
  else if allocOk = false then (s, ENOMEM)
  else (s.usePendingFrame, 0)

/-- `rsi_prepare_frame_rpt` -/
def prepareFrameRpt (s : Sys) (allocOk : Bool) : Sys × ℤ :=
  if allocOk = false then (s, ENOMEM) else (s.usePendingFrame, 0)

/-- `rsi_prepare_beacon_rpt` -/
def prepareBeaconRpt (s : Sys) (allocOk : Bool) : Sys × ℤ :=
  if allocOk = false then (s, ENOMEM) else (s.usePendingFrame, 0)

/-- `rsi_rrm_recv_cmd_frame` -/
def rrmRecvCmdFrame (s : Sys) (msg : ByteMemory) (vif allocOk : Bool) : Sys :=
  match MeasType.ofByte (msg 5) with
  | some .channelLoad => (s.prepareChannelLoadRpt vif allocOk).1
  | some .beacon => (s.prepareBeaconRpt allocOk).1
  | some .frame => (s.prepareFrameRpt allocOk).1
  | none => s

/-- The branch of `rsi_mgmt_pkt_recv` for `RADIO_MEAS_RPT`. -/
def radioMeasRpt (s : Sys) (msg : ByteMemory) (vif allocOk sendOk : Bool) : Sys :=
  -- whatever has been asked for
  let s := { s with rrmEnqState := false, rrmState := .respRcvd }
  let s := s.rrmRecvCmdFrame msg vif allocOk
  if s.alive then (s.rrmSchedReq sendOk).1 else s

/-- The driver and the device. -/
def system : TransitionSystem Sys Act where
  Init s := s = start
  step s
    | .recvRequest data msgLen allocOk sendOk =>
      if s.alive = true then some (s.rrmParseRadioActionFrame data msgLen allocOk sendOk).1
      else none
    | .measRpt msg answers vif allocOk sendOk =>
      if s.alive = false ∨ answers = true ∧ s.outstanding = [] then none
      else
        let outstanding := if answers = true then s.outstanding.tail else s.outstanding
        some (({ s with outstanding := outstanding }).radioMeasRpt msg vif allocOk sendOk)

/-- Requests are served in order and one at a time: -/
structure Serves (s : Sys) : Prop where
  /-- the receive thread goes on; -/
  alive : s.alive = true
  /-- the device measures at most one; -/
  oneAtATime : s.outstanding.length ≤ 1
  /-- requests are dequeued in the order of their arrival; -/
  inOrder : s.dequeued ++ s.rrmQueue = s.queued
  /-- they are handed to the device in that order, -/
  handedInOrder : (s.handed.map Prod.fst).Sublist s.dequeued
  /-- each at most once, -/
  handedOnce : (s.handed.map fun h => h.1.id).Nodup
  /-- with parameters that its parser accepted; -/
  accepted : ∀ h ∈ s.handed, h.2.isOk = true
  /-- the queue is not stopped: when the device measures nothing, no request waits, and the next one
  is scheduled at once; -/
  notStopped : s.outstanding = [] →
    s.rrmQueue = [] ∧ s.rrmState ≠ .reqSent ∧ s.rrmEnqState = false
  /-- at most `MAX_RRM_REQ` requests wait; -/
  bounded : s.rrmQueue.length ≤ MAX_RRM_REQ
  /-- the frame of each request that the device was handed is freed once, with the report; -/
  freedOnce : (s.freed ++ s.outstanding.map Skb.id).Perm (s.handed.map fun h => h.1.id)
  /-- and it is not used afterwards. -/
  notUsedAfterFree : s.usedAfterFree = false

/-- The frame can be scheduled while the requests `rest` wait behind it: it is a measurement request
of a known type, its parser accepts it and the device gets it; or it is another action, which is
dropped, and no request waits. -/
def CanServe (skb : Skb) (rest : List Skb) (sendOk : Bool) : Prop :=
  if skb.action = IEEE80211_ACTION_RADIO_MEAS_REQ then
    match MeasType.ofByte skb.measReqType with
    | some t => (t.parse skb).isOk = true ∧ sendOk = true
    | none => False
  else rest = []

/-- The next request, if there is one, can be scheduled. -/
def NextCanServe (rrmQueue : List Skb) (sendOk : Bool) : Prop :=
  match rrmQueue with
  | [] => True
  | skb :: rest => CanServe skb rest sendOk

/-- The report is of a known type and can be sent. -/
def CanReport (msg : ByteMemory) (vif allocOk : Bool) : Prop :=
  match MeasType.ofByte (msg 5) with
  | some .channelLoad => vif = true ∧ allocOk = true
  | some .beacon | some .frame => allocOk = true
  | none => False

/-- The condition on each step. A request fits its buffer; it finds room in the queue, or it is
scheduled at once and can be served. A report that can be sent answers a measurement, and the next
request can be served; any other report comes while the device measures nothing. -/
def Orderly (s : Sys) : Act → Prop
  | .recvRequest data msgLen allocOk sendOk => allocOk = true →
      msgLen ≤ MAX_MGMT_PKT_SIZE ∧
        if s.rrmState = .reqSent then s.rrmQueue.length < MAX_RRM_REQ
        else CanServe ⟨s.queued.length, data, msgLen⟩ [] sendOk
  | .measRpt msg answers vif allocOk sendOk =>
      if answers = true then CanReport msg vif allocOk ∧ NextCanServe s.rrmQueue sendOk
      else s.outstanding = [] ∧ ¬ CanReport msg vif allocOk

instance (skb : Skb) (rest : List Skb) (sendOk : Bool) : Decidable (CanServe skb rest sendOk) := by
  unfold CanServe
  split
  · split <;> infer_instance
  · infer_instance

instance (rrmQueue : List Skb) (sendOk : Bool) : Decidable (NextCanServe rrmQueue sendOk) := by
  cases rrmQueue <;> (unfold NextCanServe; infer_instance)

instance (msg : ByteMemory) (vif allocOk : Bool) : Decidable (CanReport msg vif allocOk) := by
  unfold CanReport
  split <;> infer_instance

instance (s : Sys) (a : Act) : Decidable (Orderly s a) := by
  cases a <;> (unfold Orderly; infer_instance)

/-! ## What holds between the steps -/

section Sound

variable {s : Sys} {skb : Skb} {rest : List Skb} {sendOk : Bool}

/-- What holds at every point of a run, whether the device measures or not. -/
structure Sound (s : Sys) : Prop where
  alive : s.alive = true
  numPend : s.numPendRrmReqs = 0
  /-- Each buffer has an `id` of its own. -/
  ids : s.queued.map Skb.id = List.range s.queued.length
  inOrder : s.dequeued ++ s.rrmQueue = s.queued
  handedInOrder : (s.handed.map Prod.fst).Sublist s.dequeued
  accepted : ∀ h ∈ s.handed, h.2.isOk = true
  bounded : s.rrmQueue.length ≤ MAX_RRM_REQ
  freedOnce : (s.freed ++ s.outstanding.map Skb.id).Perm (s.handed.map fun h => h.1.id)
  notUsedAfterFree : s.usedAfterFree = false

/-- The device measures nothing, and the next request will be scheduled. -/
structure Ready (s : Sys) : Prop extends Sound s where
  nothing : s.outstanding = []
  notSent : s.rrmState ≠ .reqSent
  notEnq : s.rrmEnqState = false

/-- The device measures one request, the pending one. -/
structure Serving (s : Sys) : Prop extends Sound s where
  pending : ∃ skb, s.outstanding = [skb] ∧ s.rrmPendingFrame = some skb
  sent : s.rrmState = .reqSent
  enq : s.rrmEnqState = true

/-- The state between two messages. -/
def Inv (s : Sys) : Prop := Ready s ∧ s.rrmQueue = [] ∨ Serving s

theorem inv_start : Inv start := by
  refine .inl ⟨⟨⟨rfl, rfl, rfl, rfl, .slnil, ?_, Nat.zero_le _, .nil, rfl⟩, rfl, ?_, rfl⟩, rfl⟩
  · intro h hh
    exact absurd hh List.not_mem_nil
  · intro h
    cases h

/-- No buffer is handed to the device twice, as each is dequeued once. -/
theorem Sound.nodup_handed (hs : Sound s) : (s.handed.map fun h => h.1.id).Nodup := by
  have hsub : ((s.handed.map Prod.fst).map Skb.id).Sublist (s.queued.map Skb.id) := by
    apply List.Sublist.map
    rw [← hs.inOrder]
    exact hs.handedInOrder.trans (List.sublist_append_left _ _)
  -- the `id`s count the queued frames
  rw [hs.ids, List.map_map] at hsub
  exact hsub.nodup List.nodup_range

theorem Inv.serves (hs : Inv s) : Serves s := by
  have hsound : Sound s := hs.elim (fun h => h.1.toSound) fun h => h.toSound
  have hone : s.outstanding.length ≤ 1 := by
    rcases hs with ⟨hready, -⟩ | hserving
    · simp [hready.nothing]
    · obtain ⟨skb, hout, -⟩ := hserving.pending
      simp [hout]
  have hstop : s.outstanding = [] →
      s.rrmQueue = [] ∧ s.rrmState ≠ .reqSent ∧ s.rrmEnqState = false := by
    intro hnil
    rcases hs with ⟨hready, hqueue⟩ | hserving
    · exact ⟨hqueue, hready.notSent, hready.notEnq⟩
    · -- the device measures
      obtain ⟨skb, hout, -⟩ := hserving.pending
      rw [hout] at hnil
      cases hnil
  exact
    { alive := hsound.alive
      oneAtATime := hone
      inOrder := hsound.inOrder
      handedInOrder := hsound.handedInOrder
      handedOnce := hsound.nodup_handed
      accepted := hsound.accepted
      notStopped := hstop
      bounded := hsound.bounded
      freedOnce := hsound.freedOnce
      notUsedAfterFree := hsound.notUsedAfterFree }

/-- A frame joins the queue. -/
theorem Sound.queue (hs : Sound s) (data : ByteMemory) (msgLen : ℕ)
    (hroom : s.rrmQueue.length < MAX_RRM_REQ) :
    Sound { s with
      rrmQueue := s.rrmQueue ++ [⟨s.queued.length, data, msgLen⟩]
      queued := s.queued ++ [⟨s.queued.length, data, msgLen⟩] } where
  alive := hs.alive
  numPend := hs.numPend
  ids := by simp [hs.ids, List.range_succ]
  inOrder := by simp [← hs.inOrder]
  handedInOrder := hs.handedInOrder
  accepted := hs.accepted
  bounded := by
    rw [List.length_append]
    exact hroom
  freedOnce := hs.freedOnce
  notUsedAfterFree := hs.notUsedAfterFree

/-- The first frame is taken off the queue. -/
theorem Sound.dequeue (hs : Sound s) (hqueue : s.rrmQueue = skb :: rest) :
    Sound { s with
      rrmQueue := rest
      dequeued := s.dequeued ++ [skb]
      rrmPendingFrame := some skb } where
  alive := hs.alive
  numPend := hs.numPend
  ids := hs.ids
  inOrder := by simp [← hs.inOrder, hqueue]
  handedInOrder := hs.handedInOrder.trans (List.sublist_append_left _ _)
  accepted := hs.accepted
  bounded := by
    have hbound := hs.bounded
    rw [hqueue, List.length_cons] at hbound
    exact Nat.le_of_succ_le hbound
  freedOnce := hs.freedOnce
  notUsedAfterFree := hs.notUsedAfterFree

end Sound

/-! ## The steps -/

section Steps

variable {s s' : Sys} {sendOk : Bool}

/-- The device is handed the request that was dequeued. -/
theorem Ready.hand {skb : Skb} {r : ParseResult Params} (hs : Ready s) (hr : r.isOk = true)
    (hnew : (s.handed.map Prod.fst ++ [skb]).Sublist s.dequeued)
    (hpending : s.rrmPendingFrame = some skb) :
    Serving { s with
      rrmState := .reqSent
      rrmEnqState := true
      handed := s.handed ++ [(skb, r)]
      outstanding := s.outstanding ++ [skb] } := by
  have hfreed := hs.freedOnce
  rw [hs.nothing, List.map_nil, List.append_nil] at hfreed
  refine ⟨⟨hs.alive, hs.numPend, hs.ids, hs.inOrder, ?_, ?_, hs.bounded, ?_,
    hs.notUsedAfterFree⟩, ⟨skb, ?_, hpending⟩, rfl, rfl⟩
  · simpa using hnew
  · intro h hh
    rcases List.mem_append.1 hh with hold | hlast
    · exact hs.accepted h hold
    · rw [List.mem_singleton.1 hlast]
      exact hr
  · simpa [hs.nothing] using hfreed.append_right [skb.id]
  · simp [hs.nothing]

/-- The scheduler takes the next request, if that can be served. -/
theorem Ready.rrmSchedReq (hs : Ready s) (hnext : NextCanServe s.rrmQueue sendOk) :
    Inv (s.rrmSchedReq sendOk).1 := by
  unfold Sys.rrmSchedReq
  split
  · rename_i hqueue
    exact .inl ⟨hs, hqueue⟩
  · rename_i skb rest hqueue
    rw [hqueue] at hnext
    have hdeq := hs.toSound.dequeue hqueue
    have hready : Ready { s with
        rrmQueue := rest
        dequeued := s.dequeued ++ [skb]
        rrmPendingFrame := some skb } := ⟨hdeq, hs.nothing, hs.notSent, hs.notEnq⟩
    rw [if_neg (by simp [hs.notEnq])]
    dsimp only
    have hserve : CanServe skb rest sendOk := hnext
    unfold CanServe at hserve
    split at hserve
    · rename_i haction
      rw [if_pos haction]
      split at hserve
      · -- a request of a known type, which its parser accepts
        rename_i t _
        obtain ⟨haccepted, rfl⟩ := hserve
        have hreturns := ParseResult.returns_of_isOk haccepted
        have hserving := hready.hand haccepted (hs.handedInOrder.append (.refl _)) rfl
        rw [measure, if_neg (by simp [hreturns]), if_pos rfl]
        exact .inr hserving
      · exact hserve.elim
    · -- another action, which is dropped
      rename_i haction
      rw [if_neg haction]
      exact .inl ⟨hready, hserve⟩

theorem Inv.recvRequest {data : ByteMemory} {msgLen : ℕ} {allocOk : Bool} (hs : Inv s)
    (horderly : Orderly s (.recvRequest data msgLen allocOk sendOk)) :
    Inv (s.rrmParseRadioActionFrame data msgLen allocOk sendOk).1 := by
  -- the counter is only ever 0, so that its bound is not reached
  have hnum : s.numPendRrmReqs = 0 := hs.elim (fun h => h.1.numPend) fun h => h.numPend
  unfold rrmParseRadioActionFrame
  rw [if_neg (by simp [hnum])]
  split
  · exact hs
  · rename_i halloc
    obtain ⟨hlen, hsched⟩ := horderly (by simpa using halloc)
    rw [if_neg (Nat.not_lt.2 hlen)]
    dsimp only
    rcases hs with ⟨hready, hqueue⟩ | hserving
    · -- the request is scheduled at once
      rw [if_neg hready.notSent] at hsched ⊢
      have hroom : s.rrmQueue.length < MAX_RRM_REQ := by
        rw [hqueue]
        exact Nat.zero_lt_succ _
      refine Ready.rrmSchedReq
        ⟨hready.toSound.queue data msgLen hroom, hready.nothing, hready.notSent, hready.notEnq⟩ ?_
      rw [hqueue]
      exact hsched
    · -- it waits
      rw [if_pos hserving.sent] at hsched ⊢
      exact .inr ⟨hserving.toSound.queue data msgLen hsched, hserving.pending, hserving.sent,
        hserving.enq⟩

theorem rrmRecvCmdFrame_eq (s : Sys) (msg : ByteMemory) (vif allocOk : Bool) :
    (CanReport msg vif allocOk → s.rrmRecvCmdFrame msg vif allocOk = s.usePendingFrame) ∧
      (¬ CanReport msg vif allocOk → s.rrmRecvCmdFrame msg vif allocOk = s) := by
  unfold rrmRecvCmdFrame CanReport
  split <;> cases vif <;> cases allocOk <;>
    simp [prepareChannelLoadRpt, prepareBeaconRpt, prepareFrameRpt]

/-- The report on the pending request is sent, and its frame is freed. -/
theorem Serving.usePendingFrame (hs : Serving s) :
    Ready ({ s with
      outstanding := s.outstanding.tail
      rrmEnqState := false
      rrmState := .respRcvd }).usePendingFrame := by
  obtain ⟨skb, hout, hpending⟩ := hs.pending
  have hfreed := hs.freedOnce
  rw [hout, List.map_singleton] at hfreed
  -- what was freed and what is pending have been handed out once each
  have hnotFreed : skb.id ∉ s.freed := by
    have hnodup := hfreed.nodup_iff.2 hs.toSound.nodup_handed
    intro hmem
    exact List.disjoint_of_nodup_append hnodup hmem (List.mem_singleton_self _)
  unfold Sys.usePendingFrame
  rw [hpending]
  refine ⟨⟨hs.alive, hs.numPend, hs.ids, hs.inOrder, hs.handedInOrder, hs.accepted, hs.bounded, ?_,
    ?_⟩, ?_, ?_, rfl⟩
  · simpa [hout] using hfreed
  · simp [hs.notUsedAfterFree, hnotFreed]
  · rw [hout]
    rfl
  · intro h
    cases h

theorem Inv.measRpt {msg : ByteMemory} {answers vif allocOk : Bool} (hs : Inv s)
    (horderly : Orderly s (.measRpt msg answers vif allocOk sendOk))
    (hstep : system.step s (.measRpt msg answers vif allocOk sendOk) = some s') : Inv s' := by
  simp only [system] at hstep
  split at hstep
  · cases hstep
  · rename_i hcan
    cases hstep
    unfold radioMeasRpt
    dsimp only
    cases answers with
    | true =>
      -- the report answers the pending request
      obtain ⟨hreport, hnext⟩ := horderly
      have hserving : Serving s := by
        rcases hs with ⟨hready, -⟩ | hserving
        · exact absurd (.inr ⟨rfl, hready.nothing⟩) hcan
        · exact hserving
      have hready := hserving.usePendingFrame
      rw [if_pos rfl, (rrmRecvCmdFrame_eq _ msg vif allocOk).1 hreport, if_pos hready.alive]
      apply hready.rrmSchedReq
      unfold Sys.usePendingFrame
      split <;> exact hnext
    | false =>
      -- nothing is sent, and no request waits
      obtain ⟨hnone, hreport⟩ := horderly
      rw [(rrmRecvCmdFrame_eq _ msg vif allocOk).2 hreport]
      rcases hs with ⟨hready, hqueue⟩ | hserving
      · rw [if_neg Bool.false_ne_true, if_pos hready.alive]
        refine Ready.rrmSchedReq ⟨?_, hready.nothing, fun h => (by cases h), rfl⟩ ?_
        · exact { hready.toSound with }
        · rw [hqueue]
          trivial
      · obtain ⟨skb, hout, -⟩ := hserving.pending
        rw [hout] at hnone
        cases hnone

theorem inv_of_step {a : Act} (hs : Inv s) (ha : Orderly s a) (hstep : system.step s a = some s') :
    Inv s' := by
  cases a with
  | recvRequest data msgLen allocOk sendOk =>
    simp only [system] at hstep
    split at hstep
    · cases hstep
      exact hs.recvRequest ha
    · cases hstep
  | measRpt => exact hs.measRpt ha hstep

end Steps

/-! ## Results -/

/-- The requests are served in order, one at a time, if each step meets the condition. -/
theorem serves_of_orderly {s : Sys} (hs : system.ReachableVia Orderly s) : Serves s := by
  apply Inv.serves
  refine hs.invariant Inv ?_ fun _ _ _ => inv_of_step
  rintro s rfl
  exact inv_start

/-- A channel load request. -/
def channelLoadReq : ByteMemory :=
  ByteMemory.ofList (List.replicate 24 0 ++ [5, 0, 1, 0, 0, 38, 8, 0, 0, 3, 12, 6, 0, 0, 100, 0])

/-- A channel load report. -/
def channelLoadRpt : ByteMemory := ByteMemory.ofList [0, 0, 0, 0, 0, 3, 0, 0, 40, 0, 100, 0]

/-- Two requests, of which the second waits until the first is reported. -/
theorem serves_twoRequests : ∃ s, Serves s ∧ s.freed = [0] ∧ s.outstanding.map Skb.id = [1] :=
  let as : List Act :=
    [.recvRequest channelLoadReq 40 true true, .recvRequest channelLoadReq 40 true true,
      .measRpt channelLoadRpt true true true true]
  have h : (system.runVia Orderly start as).isSome = true := by decide
  ⟨(system.runVia Orderly start as).get h,
    serves_of_orderly (TransitionSystem.reachableVia_get rfl h), rfl, rfl⟩

/-- A second report for the same measurement is sent from the freed frame and frees it again. -/
theorem not_serves : ¬ ∀ s, system.Reachable s → Serves s := by
  apply TransitionSystem.not_forall_reachable_of_run
    [.recvRequest channelLoadReq 40 true true, .measRpt channelLoadRpt true true true true,
      .measRpt channelLoadRpt false true true true] rfl (by decide)
  intro hserves
  have hused := hserves.notUsedAfterFree
  exact absurd hused (by decide)

end Sys

end Rrm
