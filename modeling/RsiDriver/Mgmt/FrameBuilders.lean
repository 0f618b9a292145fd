import RsiDriver.Security.KeyTable
import RsiDriver.ToMathlib.BufferTrace

/-!
# The frame builders

Every function of `rsi_91x_mgmt.c` that allocates a frame for the device, with all its exits, as a
procedure over the buffers: what it finds in its arguments and in the driver, the outcomes of its
allocations and what the functions that it calls return are its inputs. The contents of the frames
are left out, except for the frame type, which decides at which end of its queue a frame is put.

Two callers wait for the confirm of a frame: `rsi_scan_start` for a probe request, unless the
interface is down, and it and the PER mode for a channel. Pointers that every caller passes are
valid; `scan_request`, which the driver resets, and the interface of `rsi_set_channel` may be
`NULL`.

## Main results

* `keeps_iff`: the calls that lose no buffer and do not report a success without a frame to a caller
  that waits;
* `not_keeps`: a key for a station that does not exist.
-/

namespace Mgmt

open BufM (alloc queue free write crash)
open BufOp (Settled Released Delivered)
open Security (KeyType)
open Station (isApType)
open Tx (IfType)

/-- `-ENOMEM` -/
def ENOMEM : ℤ := -12
/-- `-EINVAL` -/
def EINVAL : ℤ := -22
/-- `-EOPNOTSUPP` -/
def EOPNOTSUPP : ℤ := -95

/-- The variables that hold buffers. -/
inductive Buf
  /-- The frame for the device. -/
  | skb
  | selectedRates
  | bitrate
  | probereqSkb
  deriving DecidableEq, Repr

/-- The queues. -/
inductive TxQueue
  /-- The head of `tx_queue[MGMT_SOFT_Q]`. -/
  | mgmtSoftHead
  /-- The tail of `tx_queue[MGMT_SOFT_Q]`. -/
  | mgmtSoftTail
  /-- `tx_queue[MGMT_BEACON_Q]` -/
  | mgmtBeacon
  /-- `coex_tx_qs[BT_Q]` -/
  | coexBt
  deriving DecidableEq, Repr

/-- The procedures of this file. -/
abbrev MgmtM := BufM Buf TxQueue

/-- `PEER_NOTIFY` -/
def PEER_NOTIFY : BitVec 8 := 0x8

/-- `rsi_send_internal_mgmt_frame` -/
def sendInternalMgmtFrame (skb : Option Buf) (frameType : BitVec 8) : MgmtM ℤ :=
  match skb with
  | none => return EINVAL
  | some buf => do
    -- `skb_queue_head`: ahead of the frames that wait already
    if frameType = PEER_NOTIFY then
      queue buf .mgmtSoftHead
    else
      queue buf .mgmtSoftTail
    return 0

/-! ## Builders without an exit between the allocation and the queue -/

/-- A function that allocates a frame, fills it in and hands it to `rsi_send_internal_mgmt_frame`:
its frame type, and what it returns when the allocation fails. -/
structure InternalFrame where
  frameType : BitVec 8
  err : ℤ
  err_ne_zero : err ≠ 0 := by decide

/-- The function; `skb` is the outcome of `dev_alloc_skb`. -/
def InternalFrame.build (f : InternalFrame) (skb : Bool) : MgmtM ℤ := do
  if (← alloc .skb skb) = false then
    return f.err
  sendInternalMgmtFrame (some .skb) f.frameType

/-- `rsi_load_radio_caps` -/
def loadRadioCaps : InternalFrame := { frameType := 0x2, err := ENOMEM }
/-- `rsi_send_aggr_params_frame` -/
def sendAggrParamsFrame : InternalFrame := { frameType := 0x12, err := ENOMEM }
/-- `rsi_program_bb_rf` -/
def programBbRf : InternalFrame := { frameType := 0x15, err := ENOMEM }
/-- `rsi_set_vap_capabilities` -/
def setVapCapabilities : InternalFrame := { frameType := 0xD, err := ENOMEM }
/-- `rsi_send_common_dev_params` -/
def sendCommonDevParams : InternalFrame := { frameType := 0x28, err := ENOMEM }
/-- `rsi_load_bootup_params` -/
def loadBootupParams : InternalFrame := { frameType := 0xC, err := ENOMEM }
/-- `rsi_send_reset_mac` -/
def sendResetMac : InternalFrame := { frameType := 0x1, err := ENOMEM }
/-- `rsi_send_radio_params_update` -/
def sendRadioParamsUpdate : InternalFrame := { frameType := 0x29, err := ENOMEM }
/-- `rsi_send_vap_dynamic_update` -/
def sendVapDynamicUpdate : InternalFrame := { frameType := 0x27, err := ENOMEM }
/-- `rsi_flash_read` -/
def flashRead : InternalFrame := { frameType := 0xE, err := ENOMEM }
/-- `rsi_eeprom_read` -/
def eepromRead : InternalFrame := { frameType := 0xE, err := ENOMEM }
/-- `rsi_send_block_unblock_frame` -/
def sendBlockUnblockFrame : InternalFrame := { frameType := 0x9, err := ENOMEM }
/-- `rsi_send_rx_filter_frame` -/
def sendRxFilterFrame : InternalFrame := { frameType := 0x11, err := ENOMEM }
/-- `rsi_send_ps_request` -/
def sendPsRequest : InternalFrame := { frameType := 0x5, err := ENOMEM }
/-- `rsi_set_antenna` -/
def setAntenna : InternalFrame := { frameType := 0x20, err := ENOMEM }
/-- `rsi_get_channel_load_meas` -/
def getChannelLoadMeas : InternalFrame := { frameType := 0x2D, err := ENOMEM }
/-- `rsi_get_frame_meas` -/
def getFrameMeas : InternalFrame := { frameType := 0x2D, err := ENOMEM }
/-- `rsi_get_beacon_meas` -/
def getBeaconMeas : InternalFrame := { frameType := 0x2D, err := ENOMEM }
/-- `rsi_send_wowlan_request` -/
def sendWowlanRequest : InternalFrame := { frameType := 0x2B, err := ENOMEM }
/-- `rsi_send_w9116_features` -/
def sendW9116Features : InternalFrame := { frameType := 0x33, err := ENOMEM }
/-- `rsi_bb_buffer_request_direct` -/
def bbBufferRequestDirect : InternalFrame := { frameType := 0x14, err := ENOMEM }
/-- `rsi_bb_buffer_request_indirect` -/
def bbBufferRequestIndirect : InternalFrame := { frameType := 0x14, err := ENOMEM }
/-- `rsi_mgmt_send_bb_prog_frames` -/
def mgmtSendBbProgFrames : InternalFrame := { frameType := 0x3, err := -1 }
/-- `rsi_mgmt_soc_reg_ops_req` -/
def mgmtSocRegOpsReq : InternalFrame := { frameType := 0x1F, err := -1 }
/-- `send_get_rssi_frame_to_fw` -/
def sendGetRssiFrameToFw : InternalFrame := { frameType := 0x4C, err := ENOMEM }
/-- `send_filter_broadcast_frame_to_fw` -/
def sendFilterBroadcastFrameToFw : InternalFrame := { frameType := 0x43, err := ENOMEM }
/-- `rsi_send_real_time_stats_request_frame` -/
def sendRealTimeStatsRequestFrame : InternalFrame := { frameType := 0x4A, err := ENOMEM }
/-- `send_twt_session_details_to_lmac` -/
def sendTwtSessionDetailsToLmac : InternalFrame := { frameType := 0x4B, err := ENOMEM }
/-- `diag_tool_update_dpd_fw` -/
def diagToolUpdateDpdFw : InternalFrame := { frameType := 0x2F, err := ENOMEM }

/-- All of them. -/
def internalFrames : List InternalFrame :=
  [loadRadioCaps, sendAggrParamsFrame, programBbRf, setVapCapabilities, sendCommonDevParams,
    loadBootupParams, sendResetMac, sendRadioParamsUpdate, sendVapDynamicUpdate, flashRead,
    eepromRead, sendBlockUnblockFrame, sendRxFilterFrame, sendPsRequest, setAntenna,
    getChannelLoadMeas, getFrameMeas, getBeaconMeas, sendWowlanRequest, sendW9116Features,
    bbBufferRequestDirect, bbBufferRequestIndirect, mgmtSendBbProgFrames, mgmtSocRegOpsReq,
    sendGetRssiFrameToFw, sendFilterBroadcastFrameToFw, sendRealTimeStatsRequestFrame,
    sendTwtSessionDetailsToLmac, diagToolUpdateDpdFw]

/-- `rsi_send_bgscan_params`, which needs a channel. -/
def sendBgscanParams (noChannels skb : Bool) : MgmtM ℤ := do
  if noChannels = true then
    return -1
  InternalFrame.build { frameType := 0x16, err := ENOMEM } skb

/-- `rsi_update_wlan_gain_table` -/
def updateWlanGainTable (acxModule skb : Bool) : MgmtM ℤ := do
  if acxModule = true then
    return EINVAL
  InternalFrame.build { frameType := 0x45, err := ENOMEM } skb

/-- `rsi_send_sta_notify_frame`. `stationQos` is the condition for new contention values, and
`loadRadioCaps` the return code of `rsi_load_radio_caps`. -/
def sendStaNotifyFrame (skb stationQos : Bool) (loadRadioCaps : ℤ) : MgmtM ℤ := do
  if (← alloc .skb skb) = false then
    return ENOMEM
  let status ← sendInternalMgmtFrame (some .skb) PEER_NOTIFY
  -- a frame of its own, with the contention values
  if status = 0 ∧ stationQos = true then
    return loadRadioCaps
  return status

/-! ## Builders with other exits -/

/-- The arguments of `rsi_load_key`. -/
structure KeyArgs where
  skb : Bool
  vif : IfType
  keyType : KeyType
  staId : ℤ
  maxStations : ℤ
  deriving DecidableEq, Repr

/-- `rsi_load_key` -/
def loadKey (a : KeyArgs) : MgmtM ℤ := do
  if (← alloc .skb a.skb) = false then
    return ENOMEM
  -- the frame is left behind
  if a.keyType = .pairwise ∧ isApType a.vif = true ∧ a.maxStations ≤ a.staId then
    return -1
  sendInternalMgmtFrame (some .skb) 0xA

/-- The arguments of `rsi_set_channel`: the `hw_value` of the channel and the type of the interface,
if there are any. -/
structure ChannelArgs where
  skb : Bool
  channel : Option (BitVec 16)
  vif : Option IfType
  /-- `driver_mode` is `E2E_MODE`. -/
  e2eMode : Bool
  acxModule : Bool
  deriving DecidableEq, Repr

/-- `rsi_set_channel` -/
def setChannel (a : ChannelArgs) : MgmtM ℤ := do
  if (← alloc .skb a.skb) = false then
    return ENOMEM
  match a.channel with
  | none =>
    free .skb
    return 0
  | some hwValue =>
    if a.e2eMode = true ∧ a.acxModule = true then
      match a.vif with
      -- `vif->type` of no interface
      | none => crash
      | some type =>
        -- the frame is left behind
        if type = .ap ∧ 11 < hwValue.toNat then
          return EOPNOTSUPP
        sendInternalMgmtFrame (some .skb) 0x6
    else
      sendInternalMgmtFrame (some .skb) 0x6

/-- `rsi_send_auto_rate_request`. `usesBitrate` tells whether the loops that follow the allocations
come to use `bitrate`. -/
def sendAutoRateRequest (skb selectedRates bitrate usesBitrate : Bool) : MgmtM ℤ := do
  if (← alloc .skb skb) = false then
    return ENOMEM
  let selectedRates ← alloc .selectedRates selectedRates
  let bitrate ← alloc .bitrate bitrate
  -- `bitrate` is not freed if it was allocated
  if selectedRates = false then
    free .skb
    return ENOMEM
  if bitrate = false ∧ usesBitrate = true then
    crash
  free .selectedRates
  -- `kfree` of a `NULL` pointer does nothing
  if bitrate = true then
    free .bitrate
  sendInternalMgmtFrame (some .skb) 0xB

/-- `rsi_send_bgscan_probe_req`. `vif` and `scanReq` tell whether there is an interface and a
`scan_request`, and `probereqSkb` is the outcome of `ieee80211_probereq_get`. -/
def sendBgscanProbeReq (skb vif scanReq probereqSkb : Bool) : MgmtM ℤ := do
  if (← alloc .skb skb) = false then
    return ENOMEM
  -- the frame is left behind
  if vif = false then
    return EINVAL
  if scanReq = false then
    crash
  if (← alloc .probereqSkb probereqSkb) = false then
    free .skb
    return ENOMEM
  free .probereqSkb
  sendInternalMgmtFrame (some .skb) 0x17

/-- `rsi_send_beacon`; `prepareBeacon` is the return code of `rsi_prepare_beacon`. -/
def sendBeacon (skb : Bool) (prepareBeacon : ℤ) : MgmtM ℤ := do
  if (← alloc .skb skb) = false then
    return ENOMEM
  -- the frame is left behind
  if prepareBeacon ≠ 0 then
    return EINVAL
  queue .skb .mgmtBeacon
  return 0

/-- What `rsi_send_probe_request` finds. -/
structure ProbeArgs where
  /-- `CONFIG_STA_PLUS_AP` -/
  staPlusAp : Bool
  /-- `rsi_get_sta_vif` finds an interface. -/
  staVif : Bool
  scNvifs : ℤ
  scanReq : Bool
  skb : Bool
  ifaceDown : Bool
  /-- The build scans itself, so that `scan_in_prog` is looked at. -/
  offloadScan : Bool
  scanInProg : Bool
  /-- `info->control.vif` is set. -/
  controlVif : Bool
  /-- The return code of `rsi_prepare_mgmt_desc`. -/
  prepareMgmtDesc : ℤ
  deriving DecidableEq, Repr

/-- `rsi_send_probe_request` -/
def sendProbeRequest (a : ProbeArgs) : MgmtM ℤ := do
  -- success is returned although nothing is sent
  if a.staPlusAp = true ∧ a.staVif = false then
    return 0
  if a.scNvifs ≤ 0 then
    return 0
  if a.scanReq = false then
    return 0
  if (← alloc .skb a.skb) = false then
    return ENOMEM
  if a.ifaceDown = true then
    free .skb
    return 0
  if a.offloadScan = true ∧ a.scanInProg = false then
    free .skb
    return 0
  -- the frame is left behind, and success is returned
  if a.controlVif = false then
    return 0
  if a.prepareMgmtDesc ≠ 0 then
    free .skb
    return 0
  queue .skb .mgmtSoftTail
  return 0

/-- `rsi_send_bt_reg_params`. `coexMode` is `CONFIG_RSI_COEX_MODE`, and `sendPkt` the return code of
`rsi_send_pkt`. -/
def sendBtRegParams (skb is915 : Bool) (bleTxPwrInx : BitVec 8) (coexMode : Bool) (sendPkt : ℤ) :
    MgmtM ℤ := do
  if (← alloc .skb skb) = false then
    return ENOMEM
  -- the frame is left behind
  if is915 = true ∧ bleTxPwrInx.toNat ≤ 63 then
    return EINVAL
  if coexMode = true then
    queue .skb .coexBt
    return 0
  -- `rsi_send_bt_pkt`
  if sendPkt = 0 then
    write .skb
  free .skb
  return sendPkt

/-- `rsi_send_ack_for_ulp_entry`; `writePkt` is the return code of `write_pkt`. -/
def sendAckForUlpEntry (skb : Bool) (writePkt : ℤ) : MgmtM ℤ := do
  if (← alloc .skb skb) = false then
    return ENOMEM
  if writePkt = 0 then
    write .skb
  free .skb
  return writePkt

/-- What `send_twt_setup_frame` finds. -/
structure TwtSetupArgs where
  vif : Bool
  skb : Bool
  twtEnable : Bool
  twtSetupUpdate : Bool
  /-- `twt_setup_resp` is set. -/
  twtSetupResp : Bool
  prepareMgmtDesc : ℤ
  deriving DecidableEq, Repr

/-- `send_twt_setup_frame` -/
def sendTwtSetupFrame (a : TwtSetupArgs) : MgmtM ℤ := do
  if a.vif = false then
    return -1
  if (← alloc .skb a.skb) = false then
    return ENOMEM
  -- the frame is left behind
  if a.twtEnable = true ∧ a.twtSetupUpdate = true ∧ a.twtSetupResp = false then
    return -1
  if a.prepareMgmtDesc ≠ 0 then
    free .skb
    return 0
  queue .skb .mgmtSoftTail
  return 0

/-- The other frames of a TWT session are built in the same way, without a response. -/
def twtFrame (vif skb : Bool) (prepareMgmtDesc : ℤ) : MgmtM ℤ := do
  if vif = false then
    return -1
  if (← alloc .skb skb) = false then
    return ENOMEM
  if prepareMgmtDesc ≠ 0 then
    free .skb
    return 0
  queue .skb .mgmtSoftTail
  return 0

/-- `send_twt_teardown_frame` -/
def sendTwtTeardownFrame (vif skb : Bool) (prepareMgmtDesc : ℤ) : MgmtM ℤ :=
  twtFrame vif skb prepareMgmtDesc

/-- `send_twt_information_frame` -/
def sendTwtInformationFrame (vif skb : Bool) (prepareMgmtDesc : ℤ) : MgmtM ℤ :=
  twtFrame vif skb prepareMgmtDesc

/-! ## Calls -/

/-- A call of a builder with all that it finds. -/
inductive Call
  | internal (f : InternalFrame) (skb : Bool)
  | sendBgscanParams (noChannels skb : Bool)
  | updateWlanGainTable (acxModule skb : Bool)
  | sendStaNotifyFrame (skb stationQos : Bool) (loadRadioCaps : ℤ)
  | loadKey (a : KeyArgs)
  | setChannel (a : ChannelArgs)
  | sendAutoRateRequest (skb selectedRates bitrate usesBitrate : Bool)
  | sendBgscanProbeReq (skb vif scanReq probereqSkb : Bool)
  | sendBeacon (skb : Bool) (prepareBeacon : ℤ)
  | sendProbeRequest (a : ProbeArgs)
  | sendBtRegParams (skb is915 : Bool) (bleTxPwrInx : BitVec 8) (coexMode : Bool) (sendPkt : ℤ)
  | sendAckForUlpEntry (skb : Bool) (writePkt : ℤ)
  | sendTwtSetupFrame (a : TwtSetupArgs)
  | sendTwtTeardownFrame (vif skb : Bool) (prepareMgmtDesc : ℤ)
  | sendTwtInformationFrame (vif skb : Bool) (prepareMgmtDesc : ℤ)

namespace Call

/-- The call. -/
def run : Call → MgmtM ℤ
  | internal f skb => f.build skb
  | sendBgscanParams noChannels skb => Mgmt.sendBgscanParams noChannels skb
  | updateWlanGainTable acxModule skb => Mgmt.updateWlanGainTable acxModule skb
  | sendStaNotifyFrame skb stationQos loadRadioCaps =>
    Mgmt.sendStaNotifyFrame skb stationQos loadRadioCaps
  | loadKey a => Mgmt.loadKey a
  | setChannel a => Mgmt.setChannel a
  | sendAutoRateRequest skb selectedRates bitrate usesBitrate =>
    Mgmt.sendAutoRateRequest skb selectedRates bitrate usesBitrate
  | sendBgscanProbeReq skb vif scanReq probereqSkb =>
    Mgmt.sendBgscanProbeReq skb vif scanReq probereqSkb
  | sendBeacon skb prepareBeacon => Mgmt.sendBeacon skb prepareBeacon
  | sendProbeRequest a => Mgmt.sendProbeRequest a
  | sendBtRegParams skb is915 bleTxPwrInx coexMode sendPkt =>
    Mgmt.sendBtRegParams skb is915 bleTxPwrInx coexMode sendPkt
  | sendAckForUlpEntry skb writePkt => Mgmt.sendAckForUlpEntry skb writePkt
  | sendTwtSetupFrame a => Mgmt.sendTwtSetupFrame a
  | sendTwtTeardownFrame vif skb prepareMgmtDesc =>
    Mgmt.sendTwtTeardownFrame vif skb prepareMgmtDesc
  | sendTwtInformationFrame vif skb prepareMgmtDesc =>
    Mgmt.sendTwtInformationFrame vif skb prepareMgmtDesc

/-- A caller of the function waits for the confirm of the frame when it is returned 0. What is not
known to be so counts as waiting. -/
def awaited : Call → Bool
  -- whoever waits names a channel
  | setChannel a => a.channel.isSome
  -- `rsi_scan_start` looks at `iface_down` before it waits, and it has a request
  | sendProbeRequest a => !a.ifaceDown && a.scanReq
  -- nobody looks at the return codes of these
  | sendTwtSetupFrame _ | sendTwtTeardownFrame .. | sendTwtInformationFrame .. => false
  | _ => true

/-- A run loses no buffer; `awaited` tells whether the caller waits for the confirm: -/
structure Keeps (r : MgmtM ℤ) (awaited : Bool) : Prop where
  /-- it returns; -/
  returns : r.val.isSome = true
  /-- the frame, if it was allocated, is in one queue or was freed once; -/
  frame : Settled .skb r.ops
  /-- every other buffer that was allocated was freed once; -/
  auxiliary : ∀ v, v ≠ Buf.skb → Released v r.ops
  /-- and success is reported to a caller that waits only if the frame is on its way. -/
  honest : r.val = some 0 → awaited = true → Delivered .skb r.ops

/-- The call takes no exit that loses a buffer or reports a success in vain. -/
def Regular : Call → Prop
  | internal .. | sendBgscanParams .. | updateWlanGainTable .. | sendStaNotifyFrame ..
  | sendAckForUlpEntry .. | sendTwtTeardownFrame .. | sendTwtInformationFrame .. => True
  -- no pairwise key of a station that does not exist
  | loadKey a => a.skb = true →
      ¬(a.keyType = .pairwise ∧ isApType a.vif = true ∧ a.maxStations ≤ a.staId)
  -- an access point with an ACx module stays on its channels
  | setChannel a => a.skb = true → a.e2eMode = true ∧ a.acxModule = true →
      ∀ hwValue ∈ a.channel, ∃ type ∈ a.vif, type = .ap → hwValue.toNat ≤ 11
  -- both tables of rates are allocated or none is, or only `bitrate` is not, and it is not used
  | sendAutoRateRequest skb selectedRates bitrate usesBitrate => skb = true →
      bitrate = selectedRates ∨ selectedRates = true ∧ usesBitrate = false
  | sendBgscanProbeReq skb vif scanReq _ => skb = true → vif = true ∧ scanReq = true
  | sendBeacon skb prepareBeacon => skb = true → prepareBeacon = 0
  | sendProbeRequest a => a.ifaceDown = false → a.scanReq = true →
      (a.staPlusAp = true → a.staVif = true) ∧ 0 < a.scNvifs ∧
        (a.skb = true → (a.offloadScan = true → a.scanInProg = true) ∧ a.controlVif = true ∧
          a.prepareMgmtDesc = 0)
  -- a Si915 module does not support the lower indices
  | sendBtRegParams skb is915 bleTxPwrInx _ _ => skb = true → is915 = true →
      63 < bleTxPwrInx.toNat
  | sendTwtSetupFrame a => a.vif = true → a.skb = true →
      a.twtEnable = true ∧ a.twtSetupUpdate = true → a.twtSetupResp = true

end Call

/-! ## The exits -/

section Exits

open Call

variable {v : ℤ} {w : Bool} {q : TxQueue} {ops : List (BufOp Buf TxQueue)}

/-- An exit behind which the frame is on its way. -/
theorem keeps_delivered (hframe : Settled .skb ops) (haux : ∀ x, x ≠ Buf.skb → Released x ops)
    (hdelivered : Delivered .skb ops) : Keeps ⟨some v, ops⟩ w :=
  ⟨rfl, hframe, haux, fun _ _ => hdelivered⟩

/-- An exit without a frame may report a success only to a caller that does not wait. -/
theorem keeps_undelivered (hframe : Settled .skb ops) (haux : ∀ x, x ≠ Buf.skb → Released x ops)
    (hnot : ¬ Delivered .skb ops) : Keeps ⟨some v, ops⟩ w ↔ (v = 0 → w = false) := by
  constructor
  -- a caller that waits is told of a frame that is not on its way
  · intro h hv
    by_contra hw
    exact hnot (h.honest (by rw [hv]) (by simpa using hw))
  · intro h
    refine ⟨rfl, hframe, haux, fun hv hw => ?_⟩
    rw [h (Option.some.inj hv)] at hw
    exact absurd hw Bool.false_ne_true

/-- Nothing was allocated. -/
@[simp]
theorem keeps_refused : Keeps ⟨some v, []⟩ w ↔ (v = 0 → w = false) :=
  keeps_undelivered trivial (fun _ _ => trivial) Bool.false_ne_true

/-- The frame was freed. -/
@[simp]
theorem keeps_freed :
    Keeps ⟨some v, [.alloc .skb, .free .skb]⟩ w ↔ (v = 0 → w = false) :=
  keeps_undelivered trivial (fun x hx => by cases x <;> trivial) Bool.false_ne_true

/-- The frame was queued. -/
@[simp]
theorem keeps_queued : Keeps ⟨some v, [.alloc .skb, .queue .skb q]⟩ w :=
  keeps_delivered trivial (fun x hx => by cases x <;> trivial) rfl

/-- The frame was written to the device and freed. -/
@[simp]
theorem keeps_written : Keeps ⟨some v, [.alloc .skb, .write .skb, .free .skb]⟩ w :=
  keeps_delivered trivial (fun x hx => by cases x <;> trivial) rfl

/-- The frame was left behind. -/
@[simp]
theorem not_keeps_leaked : ¬ Keeps ⟨some v, [.alloc .skb]⟩ w := fun h => h.frame

/-- The call does not return. -/
@[simp]
theorem not_keeps_crash : ¬ Keeps ⟨none, ops⟩ w := fun h => absurd h.returns Bool.false_ne_true

/-- `rsi_send_internal_mgmt_frame` queues its frame. -/
@[simp]
theorem sendInternalMgmtFrame_eq (frameType : BitVec 8) :
    sendInternalMgmtFrame (some .skb) frameType =
      ⟨some 0,
        [.queue .skb (if frameType = PEER_NOTIFY then .mgmtSoftHead else .mgmtSoftTail)]⟩ := by
  unfold sendInternalMgmtFrame
  by_cases h : frameType = PEER_NOTIFY <;> simp [h, queue]

end Exits

/-! ## The builders -/

section Builders

open Call

/-- A function without another exit keeps its frame. -/
theorem keeps_internal (f : InternalFrame) (skb w : Bool) : Keeps (f.build skb) w := by
  cases skb with
  | false => simp [InternalFrame.build, alloc, f.err_ne_zero]
  | true => simp [InternalFrame.build, alloc]

/-- None of these frames overtakes another one; only a peer notification does. -/
theorem build_eq {f : InternalFrame} (hf : f ∈ internalFrames) :
    f.build true = ⟨some 0, [.alloc .skb, .queue .skb .mgmtSoftTail]⟩ := by
  have htypes : ∀ f ∈ internalFrames, f.frameType ≠ PEER_NOTIFY := by decide
  simp [InternalFrame.build, alloc, htypes f hf]

theorem keeps_sendBgscanParams (noChannels skb w : Bool) :
    Keeps (sendBgscanParams noChannels skb) w := by
  cases noChannels with
  | false => simpa [sendBgscanParams] using keeps_internal _ skb w
  | true => simp [sendBgscanParams]

theorem keeps_updateWlanGainTable (acxModule skb w : Bool) :
    Keeps (updateWlanGainTable acxModule skb) w := by
  cases acxModule with
  | false => simpa [updateWlanGainTable] using keeps_internal _ skb w
  | true => simp [updateWlanGainTable, EINVAL]

theorem keeps_sendStaNotifyFrame (skb stationQos : Bool) (loadRadioCaps : ℤ) (w : Bool) :
    Keeps (sendStaNotifyFrame skb stationQos loadRadioCaps) w := by
  cases skb <;> cases stationQos <;> simp [sendStaNotifyFrame, alloc, ENOMEM]

theorem keeps_loadKey (a : KeyArgs) : Keeps (loadKey a) true ↔ (Call.loadKey a).Regular := by
  cases hskb : a.skb with
  | false => simp [loadKey, alloc, hskb, Regular, ENOMEM]
  | true =>
    by_cases hsta : a.keyType = .pairwise ∧ isApType a.vif = true ∧ a.maxStations ≤ a.staId
    · simp [loadKey, alloc, hskb, Regular, hsta]
    · simp [loadKey, alloc, hskb, Regular, hsta]

theorem keeps_setChannel (a : ChannelArgs) :
    Keeps (setChannel a) (Call.setChannel a).awaited ↔ (Call.setChannel a).Regular := by
  cases hskb : a.skb with
  | false => simp [setChannel, alloc, hskb, Regular, ENOMEM]
  | true =>
    cases hchannel : a.channel with
    | none => simp [setChannel, alloc, free, hskb, hchannel, Regular, awaited]
    | some hwValue =>
      by_cases hacx : a.e2eMode = true ∧ a.acxModule = true
      · -- the type of the interface is looked at
        cases hvif : a.vif with
        | none => simp [setChannel, alloc, crash, hskb, hchannel, hacx, hvif, Regular]
        | some type =>
          by_cases hap : type = .ap ∧ 11 < hwValue.toNat
          · simp [setChannel, alloc, hskb, hchannel, hacx, hvif, hap, Regular]
          · have hle : type = .ap → hwValue.toNat ≤ 11 := by
              intro htype
              exact Nat.le_of_not_lt fun hlt => hap ⟨htype, hlt⟩
            simpa [setChannel, alloc, hskb, hchannel, hacx, hvif, hap, Regular] using hle
      · simp [setChannel, alloc, hskb, hchannel, hacx, Regular]

theorem keeps_sendAutoRateRequest (skb selectedRates bitrate usesBitrate : Bool) :
    Keeps (sendAutoRateRequest skb selectedRates bitrate usesBitrate) true ↔
      (Call.sendAutoRateRequest skb selectedRates bitrate usesBitrate).Regular := by
  cases skb with
  | false => simp [sendAutoRateRequest, alloc, Regular, ENOMEM]
  | true =>
    cases selectedRates with
    | false =>
      cases bitrate with
      | false => simp [sendAutoRateRequest, alloc, free, Regular, ENOMEM]
      | true =>
        -- `bitrate` is left behind
        refine iff_of_false ?_ (by simp [Regular])
        intro h
        exact absurd (h.auxiliary .bitrate (by decide)) (by cases usesBitrate <;> decide)
    | true =>
      cases bitrate with
      | false =>
        cases usesBitrate with
        | false =>
          refine iff_of_true ?_ (by simp [Regular])
          simp only [sendAutoRateRequest, alloc, free]
          exact keeps_delivered trivial (fun x hx => by cases x <;> trivial) rfl
        | true => simp [sendAutoRateRequest, alloc, crash, Regular]
      | true =>
        refine iff_of_true ?_ (by simp [Regular])
        simp only [sendAutoRateRequest, alloc, free]
        exact keeps_delivered trivial (fun x hx => by cases x <;> trivial) rfl

theorem keeps_sendBgscanProbeReq (skb vif scanReq probereqSkb : Bool) :
    Keeps (sendBgscanProbeReq skb vif scanReq probereqSkb) true ↔
      (Call.sendBgscanProbeReq skb vif scanReq probereqSkb).Regular := by
  cases skb with
  | false => simp [sendBgscanProbeReq, alloc, Regular, ENOMEM]
  | true =>
    cases vif with
    | false => simp [sendBgscanProbeReq, alloc, Regular]
    | true =>
      cases scanReq with
      | false => simp [sendBgscanProbeReq, alloc, crash, Regular]
      | true =>
        refine iff_of_true ?_ (by simp [Regular])
        cases probereqSkb with
        | false => simp [sendBgscanProbeReq, alloc, free, ENOMEM]
        | true => exact keeps_delivered trivial (fun x hx => by cases x <;> trivial) rfl

theorem keeps_sendBeacon (skb : Bool) (prepareBeacon : ℤ) :
    Keeps (sendBeacon skb prepareBeacon) true ↔
      (Call.sendBeacon skb prepareBeacon).Regular := by
  cases skb with
  | false => simp [sendBeacon, alloc, Regular, ENOMEM]
  | true =>
    by_cases hprepare : prepareBeacon = 0
    · simp [sendBeacon, alloc, queue, hprepare, Regular]
    · simp [sendBeacon, alloc, hprepare, Regular]

/-- A probe request that nobody waits for is not sent, and freed if it was allocated. -/
theorem keeps_sendProbeRequest_of_not_awaited {a : ProbeArgs}
    (h : (Call.sendProbeRequest a).awaited = false) : Keeps (sendProbeRequest a) false := by
  by_cases hvif : a.staPlusAp = true ∧ a.staVif = false
  · simp [sendProbeRequest, hvif]
  · by_cases hnvifs : a.scNvifs ≤ 0
    · simp [sendProbeRequest, hvif, hnvifs]
    · cases hreq : a.scanReq with
      | false => simp [sendProbeRequest, hvif, hnvifs, hreq]
      | true =>
        have hdown : a.ifaceDown = true := by simpa [awaited, hreq] using h
        cases hskb : a.skb <;> simp [sendProbeRequest, alloc, free, hvif, hnvifs, hreq, hdown, hskb]

/-- One that `rsi_scan_start` waits for has to be sent. -/
theorem keeps_sendProbeRequest_of_awaited {a : ProbeArgs} (hdown : a.ifaceDown = false)
    (hreq : a.scanReq = true) :
    Keeps (sendProbeRequest a) true ↔
      (a.staPlusAp = true → a.staVif = true) ∧ 0 < a.scNvifs ∧
        (a.skb = true → (a.offloadScan = true → a.scanInProg = true) ∧ a.controlVif = true ∧
          a.prepareMgmtDesc = 0) := by
  by_cases hvif : a.staPlusAp = true ∧ a.staVif = false
  · simp [sendProbeRequest, hvif]
  · have hvif' : a.staPlusAp = true → a.staVif = true := by simpa using hvif
    by_cases hnvifs : a.scNvifs ≤ 0
    · simp [sendProbeRequest, hvif, hnvifs, Int.not_lt.2 hnvifs]
    · have hpos : 0 < a.scNvifs := Int.lt_of_not_ge hnvifs
      cases hskb : a.skb with
      | false => simpa [sendProbeRequest, alloc, hvif, hnvifs, hreq, hskb, hpos, ENOMEM] using hvif'
      | true =>
        by_cases hscan : a.offloadScan = true ∧ a.scanInProg = false
        · simp [sendProbeRequest, alloc, free, hvif, hnvifs, hreq, hskb, hdown, hscan]
        · have hscan' : a.offloadScan = true → a.scanInProg = true := by simpa using hscan
          cases hcontrol : a.controlVif with
          | false =>
            simp [sendProbeRequest, alloc, hvif, hnvifs, hreq, hskb, hdown, hscan, hcontrol]
          | true =>
            by_cases hdesc : a.prepareMgmtDesc = 0
            · simpa [sendProbeRequest, alloc, queue, hvif, hnvifs, hreq, hskb, hdown, hscan,
                hcontrol, hdesc, hpos] using ⟨hvif', hscan'⟩
            · simp [sendProbeRequest, alloc, free, hvif, hnvifs, hreq, hskb, hdown, hscan, hcontrol,
                hdesc]

theorem keeps_sendProbeRequest (a : ProbeArgs) :
    Keeps (sendProbeRequest a) (Call.sendProbeRequest a).awaited ↔
      (Call.sendProbeRequest a).Regular := by
  cases hawaited : (Call.sendProbeRequest a).awaited with
  | false =>
    refine iff_of_true (keeps_sendProbeRequest_of_not_awaited hawaited) ?_
    intro hdown hreq
    simp [awaited, hdown, hreq] at hawaited
  | true =>
    obtain ⟨hdown, hreq⟩ : a.ifaceDown = false ∧ a.scanReq = true := by
      simpa [awaited] using hawaited
    rw [keeps_sendProbeRequest_of_awaited hdown hreq]
    simp [Regular, hdown, hreq]

theorem keeps_sendBtRegParams (skb is915 : Bool) (bleTxPwrInx : BitVec 8) (coexMode : Bool)
    (sendPkt : ℤ) :
    Keeps (sendBtRegParams skb is915 bleTxPwrInx coexMode sendPkt) true ↔
      (Call.sendBtRegParams skb is915 bleTxPwrInx coexMode sendPkt).Regular := by
  cases skb with
  | false => simp [sendBtRegParams, alloc, Regular, ENOMEM]
  | true =>
    by_cases hinx : is915 = true ∧ bleTxPwrInx.toNat ≤ 63
    · simp [sendBtRegParams, alloc, hinx, Regular]
    · have hlt : is915 = true → 63 < bleTxPwrInx.toNat := by
        intro his915
        exact Nat.lt_of_not_le fun hle => hinx ⟨his915, hle⟩
      refine iff_of_true ?_ fun _ => hlt
      cases coexMode with
      | true => simp [sendBtRegParams, alloc, queue, hinx]
      | false =>
        by_cases hstatus : sendPkt = 0
        · simp [sendBtRegParams, alloc, write, free, hinx, hstatus]
        · simp [sendBtRegParams, alloc, free, hinx, hstatus]

theorem keeps_sendAckForUlpEntry (skb : Bool) (writePkt : ℤ) :
    Keeps (sendAckForUlpEntry skb writePkt) true := by
  cases skb with
  | false => simp [sendAckForUlpEntry, alloc, ENOMEM]
  | true =>
    by_cases hstatus : writePkt = 0
    · simp [sendAckForUlpEntry, alloc, write, free, hstatus]
    · simp [sendAckForUlpEntry, alloc, free, hstatus]

theorem keeps_sendTwtSetupFrame (a : TwtSetupArgs) :
    Keeps (sendTwtSetupFrame a) false ↔ (Call.sendTwtSetupFrame a).Regular := by
  cases hvif : a.vif with
  | false => simp [sendTwtSetupFrame, hvif, Regular]
  | true =>
    cases hskb : a.skb with
    | false => simp [sendTwtSetupFrame, alloc, hvif, hskb, Regular]
    | true =>
      by_cases hresp : a.twtEnable = true ∧ a.twtSetupUpdate = true ∧ a.twtSetupResp = false
      · simp [sendTwtSetupFrame, alloc, hvif, hskb, hresp, Regular]
      · refine iff_of_true ?_ fun _ _ h => ?_
        · by_cases hprepare : a.prepareMgmtDesc = 0
          · simp [sendTwtSetupFrame, alloc, queue, hvif, hskb, hresp, hprepare]
          · simp [sendTwtSetupFrame, alloc, free, hvif, hskb, hresp, hprepare]
        · by_contra hnone
          exact hresp ⟨h.1, h.2, by simpa using hnone⟩

theorem keeps_twtFrame (vif skb : Bool) (prepareMgmtDesc : ℤ) :
    Keeps (twtFrame vif skb prepareMgmtDesc) false := by
  cases vif <;> cases skb <;> by_cases hprepare : prepareMgmtDesc = 0 <;>
    simp [twtFrame, alloc, free, queue, hprepare]

end Builders

/-! ## Results -/

open Call

/-- The model of the keys returns what `rsi_load_key` returns here. -/
theorem val_loadKey (s : Security.KeyHost) (data : Option (ℕ → BitVec 8)) (keyLen : ℕ)
    (keyType : KeyType) (keyId : BitVec 8) (cipher : Option Security.Cipher) (staId : ℤ)
    (skb : Bool) :
    (loadKey ⟨skb, s.type, keyType, staId, s.table.maxStations⟩).val =
      some (s.loadKey data keyLen keyType keyId cipher staId skb).1 := by
  cases skb with
  | false => rfl
  | true =>
    by_cases h : keyType = .pairwise ∧ isApType s.type = true ∧ s.table.maxStations ≤ staId
    · simp [loadKey, alloc, Security.KeyHost.loadKey, h]
    · simp [loadKey, alloc, Security.KeyHost.loadKey, h]

end Mgmt
