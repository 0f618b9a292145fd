import Mathlib.Data.Nat.Notation
import Mathlib.Tactic.SplitIfs

/-!
# Target wake time: configurations and frames

The records that a TWT negotiation is about: what the user asks for (`rsi_twt_config_t`, and
`twt_selection_t` for the automatic configuration), the TWT element that station and access point
exchange in setup frames, the teardown frame, and the `TWT_CONFIG` frame that tells the LMAC of a
session. A bit field of the source is a `BitVec` of its width, so that an assignment to it
truncates.

The builders of the two frames that the driver fills in from a configuration or a response are here
too, since they read nothing else.
-/

namespace Twt

/-- `enum ieee80211_twt_setup_cmd`, in the width of `req_type`. -/
def TWT_SETUP_CMD_REQUEST : BitVec 8 := 0

def TWT_SETUP_CMD_SUGGEST : BitVec 8 := 1

def TWT_SETUP_CMD_DEMAND : BitVec 8 := 2

def TWT_SETUP_CMD_ACCEPT : BitVec 8 := 4

def TWT_SETUP_CMD_ALTERNATE : BitVec 8 := 5

def TWT_SETUP_CMD_DICTATE : BitVec 8 := 6

def TWT_SETUP_CMD_REJECT : BitVec 8 := 7

/-- The TWT status codes that the modelled functions report. -/
inductive TwtStatus
  | deviceNotInConnectedState
  | setupErrSessionActive
  | teardownErrFlowidNotMatched
  | teardownErrNoactiveSess
  | setupSessionInProgress
  | sessionSucc
  | unsolSessionSucc
  | setupApRejected
  | setupRspOutofTol
  | setupRspNotMatched
  | setupUnsupportedRsp
  | teardownSucc
  | apTeardownSucc
  | setupFailMaxRetriesReached
  | inactiveDuetoDisconnect
  | autoConfigFail
deriving DecidableEq

/-- `rsi_twt_config_t`. -/
structure TwtConfig where
  wakeDuration : BitVec 8
  wakeDurationTol : BitVec 8
  wakeIntExp : BitVec 8
  wakeIntExpTol : BitVec 8
  wakeIntMantissa : BitVec 16
  wakeIntMantissaTol : BitVec 16
  implicitTwt : BitVec 8
  unAnnouncedTwt : BitVec 8
  triggeredTwt : BitVec 8
  negotiationType : BitVec 8
  twtChannel : BitVec 8
  twtProtection : BitVec 8
  twtFlowId : BitVec 8
  restrictTxOutsideTsp : BitVec 8
  twtRetryLimit : BitVec 8
  twtRetryInterval : BitVec 8
  reqType : BitVec 8
  twtEnable : BitVec 8
  twtWakeDurationUnit : BitVec 8
  rxLatency : BitVec 32
  beaconWakeUpCountAfterSp : BitVec 8
deriving DecidableEq

/-- `twt_selection_t`. -/
structure TwtSelection where
  twtEnable : BitVec 8
  expectedTxThroughput : BitVec 16
  txLatency : BitVec 32
  rxLatency : BitVec 32
  deviceAvgThroughput : BitVec 16
  estimatedExtraWakeDurationPercent : BitVec 8
  twtTolerableDeviation : BitVec 8
  defaultWakeIntervalMs : BitVec 32
  defaultMinWakeDurationMs : BitVec 32
  beaconWakeUpCountAfterSp : BitVec 8
deriving DecidableEq

/-- `twt_element_t`. -/
structure TwtElement where
  eid : BitVec 8
  elength : BitVec 8
  controlNdpPi : BitVec 1
  controlRespPmMode : BitVec 1
  controlNegotiationType : BitVec 2
  controlTwtInfoFrameDis : BitVec 1
  controlWakeDurationUnit : BitVec 1
  reqTypeTwtReq : BitVec 1
  reqTypeTwtSetupCommand : BitVec 3
  reqTypeTrigger : BitVec 1
  reqTypeImplicitTwt : BitVec 1
  reqTypeFlowType : BitVec 1
  reqTypeTwtFlowId : BitVec 3
  reqTypeTwtWiExp : BitVec 5
  reqTypeTwtProtection : BitVec 1
  targetWakeTime0 : BitVec 32
  targetWakeTime1 : BitVec 32
  nomMinWakeDuration : BitVec 8
  wakeIntervalMantisa : BitVec 16
  twtChannel : BitVec 8
deriving DecidableEq

/-- The command of the element, in the width of `req_type`. -/
def TwtElement.setupCommand (el : TwtElement) : BitVec 8 := el.reqTypeTwtSetupCommand.setWidth 8

/-- The flow id of the element, in the width of `twt_active_session_flow_id`. -/
def TwtElement.flowId (el : TwtElement) : BitVec 8 := el.reqTypeTwtFlowId.setWidth 8

/-- `twt_setup_frame_t`, after its action category and type. -/
structure TwtSetupFrame where
  dialogToken : BitVec 8
  twtElement : TwtElement
deriving DecidableEq

/-- `twt_teardown_frame_t`, after its action category and type. -/
structure TwtTeardownFrame where
  flowId : BitVec 3
  negotiationType : BitVec 2
  teardownAll : BitVec 1
deriving DecidableEq

/-- `twt_session_config_t`: the `TWT_CONFIG` frame. -/
structure TwtSessionConfig where
  frameDesc0 : BitVec 16
  frameDesc1 : BitVec 16
  frameDesc2 : BitVec 16
  frameDesc3 : BitVec 16
  frameDesc4 : BitVec 16
  frameDesc5 : BitVec 16
  twtEnable : BitVec 1
  twtNegotiationType : BitVec 1
  twtReq : BitVec 1
  twtSetupCommand : BitVec 3
  twtTrigger : BitVec 1
  twtImplicit : BitVec 1
  twtFlowType : BitVec 1
  twtFlowId : BitVec 3
  twtWakeInterExpo : BitVec 5
  twtProtection : BitVec 1
  targetWakeTime0 : BitVec 32
  targetWakeTime1 : BitVec 32
  twtNomWakeDur : BitVec 32
  twtWakeInterval0 : BitVec 32
  twtWakeInterval1 : BitVec 32
deriving DecidableEq

/-! ## The setup frame -/

namespace TwtConfig

/-- What `send_twt_setup_frame` writes to a configuration that is not enabled. -/
def withDefaults (cfg : TwtConfig) : TwtConfig :=
  { cfg with
    twtFlowId := 1
    negotiationType := 0
    reqType := TWT_SETUP_CMD_REQUEST
    twtRetryLimit := 5 }

/-- The element that every setup frame starts from. -/
def baseElement : TwtElement where
  eid := 216
  elength := 15
  controlNdpPi := 0
  controlRespPmMode := 0
  controlNegotiationType := 0
  controlTwtInfoFrameDis := 1
  controlWakeDurationUnit := 0
  reqTypeTwtReq := 1
  reqTypeTwtSetupCommand := 0
  reqTypeTrigger := 0
  reqTypeImplicitTwt := 0
  reqTypeFlowType := 0
  reqTypeTwtFlowId := 0
  reqTypeTwtWiExp := 0
  reqTypeTwtProtection := 0
  targetWakeTime0 := 0
  targetWakeTime1 := 0
  nomMinWakeDuration := 0
  wakeIntervalMantisa := 0
  twtChannel := 0

/-- The element for an enabled configuration, before the wake interval and duration. -/
def requestElement (cfg : TwtConfig) : TwtElement :=
  { baseElement with
    controlNegotiationType := cfg.negotiationType.setWidth 2
    reqTypeTwtSetupCommand := cfg.reqType.setWidth 3
    reqTypeTrigger := cfg.triggeredTwt.setWidth 1
    reqTypeImplicitTwt := cfg.implicitTwt.setWidth 1
    reqTypeFlowType := cfg.unAnnouncedTwt.setWidth 1
    reqTypeTwtFlowId := cfg.twtFlowId.setWidth 3
    reqTypeTwtProtection := cfg.twtProtection.setWidth 1
    controlWakeDurationUnit := cfg.twtWakeDurationUnit.setWidth 1 }

/-- The element of an update, which takes over what the access point proposed in `resp`. -/
def updateElement (cfg : TwtConfig) (resp : TwtElement) : TwtElement :=
  let el :=
    { cfg.requestElement with
      reqTypeTwtWiExp := resp.reqTypeTwtWiExp
      nomMinWakeDuration := resp.nomMinWakeDuration
      wakeIntervalMantisa := resp.wakeIntervalMantisa }
  -- an alternative to a demand is answered by a suggestion
  if cfg.reqType = TWT_SETUP_CMD_DEMAND ∧ resp.setupCommand = TWT_SETUP_CMD_ALTERNATE then
    { el with
      reqTypeTwtSetupCommand := TWT_SETUP_CMD_SUGGEST.setWidth 3
      targetWakeTime0 := resp.targetWakeTime0
      targetWakeTime1 := resp.targetWakeTime1
      controlNdpPi := 1 }
  else el

/-- The element that `send_twt_setup_frame` fills in; `none` where it gives up because an update
comes without a response. -/
def setupElement (cfg : TwtConfig) (twtSetupUpdate : Bool) (twtSetupResp : Option TwtSetupFrame) :
    Option TwtElement :=
  if cfg.twtEnable ≠ 0 then
    if !twtSetupUpdate then
      some { cfg.requestElement with
        reqTypeTwtWiExp := cfg.wakeIntExp.setWidth 5
        nomMinWakeDuration := cfg.wakeDuration
        wakeIntervalMantisa := cfg.wakeIntMantissa }
    else twtSetupResp.map fun resp => cfg.updateElement resp.twtElement
  else
    some { baseElement with
      controlWakeDurationUnit := 0
      controlNegotiationType := 0
      reqTypeTwtSetupCommand := TWT_SETUP_CMD_REQUEST.setWidth 3
      reqTypeTrigger := 1
      reqTypeImplicitTwt := 1
      reqTypeFlowType := 0
      reqTypeTwtFlowId := 1
      reqTypeTwtProtection := 0
      reqTypeTwtWiExp := 20
      nomMinWakeDuration := 40
      wakeIntervalMantisa := 5 }

/-- Only an update without a response is given up. -/
theorem setupElement_ne_none (cfg : TwtConfig) {update : Bool} {resp : Option TwtSetupFrame}
    (h : update = true → resp.isSome = true) : cfg.setupElement update resp ≠ none := by
  unfold setupElement
  split_ifs with hen hupdate
  · nofun
  · obtain ⟨resp, rfl⟩ := Option.isSome_iff_exists.1 (h (by simpa using hupdate))
    nofun
  · nofun

end TwtConfig

/-! ## The `TWT_CONFIG` frame -/

/-- The descriptor word 0 of a `TWT_CONFIG` frame: its length and queue, and the bit that
`rsi_send_internal_mgmt_frame` sets. -/
def configDesc0 : BitVec 16 := 24 ||| 0x4 <<< 12 ||| 0x8000

def TWT_CONFIG : BitVec 16 := 75

/-- The wake interval that `send_twt_session_details_to_lmac` computes. The source shifts the `int`
1, whose top bit is extended to 64 bits. -/
def detailsWakeInterval (el : TwtElement) : BitVec 64 :=
  el.wakeIntervalMantisa.setWidth 64 *
    ((1 : BitVec 32) <<< el.reqTypeTwtWiExp.toNat).signExtend 64

/-- The receive latency for the LMAC: what one wake interval leaves of it, in units of 100 ms. -/
def detailsRxLatency (cfg : TwtConfig) (el : TwtElement) : BitVec 32 :=
  ((cfg.rxLatency.setWidth 64 - detailsWakeInterval el / 1024) / 100).setWidth 32

/-- The frame of `send_twt_session_details_to_lmac` for a session that `resp` grants. -/
def setupDetails (autoConfigEnable : Bool) (cfg : TwtConfig) (el : TwtElement) :
    TwtSessionConfig where
  frameDesc0 := configDesc0
  frameDesc1 := TWT_CONFIG
  frameDesc2 := cfg.restrictTxOutsideTsp.setWidth 16 <<< 8
  frameDesc3 := if autoConfigEnable then (detailsRxLatency cfg el).setWidth 16 else 0
  frameDesc4 := if autoConfigEnable then cfg.beaconWakeUpCountAfterSp.setWidth 16 else 0
  frameDesc5 := if autoConfigEnable then (detailsRxLatency cfg el >>> 16).setWidth 16 else 0
  twtEnable := 1
  twtNegotiationType := el.controlNegotiationType.setWidth 1
  twtReq := el.reqTypeTwtReq
  twtSetupCommand := el.reqTypeTwtSetupCommand
  twtTrigger := el.reqTypeTrigger
  twtImplicit := el.reqTypeImplicitTwt
  twtFlowType := el.reqTypeFlowType
  twtFlowId := el.reqTypeTwtFlowId
  twtWakeInterExpo := el.reqTypeTwtWiExp
  twtProtection := el.reqTypeTwtProtection
  targetWakeTime0 := el.targetWakeTime0
  targetWakeTime1 := el.targetWakeTime1
  twtNomWakeDur := el.nomMinWakeDuration.setWidth 32 *
    if el.controlWakeDurationUnit ≠ 0 then 1024 else 256
  twtWakeInterval0 := (detailsWakeInterval el).setWidth 32
  twtWakeInterval1 := (detailsWakeInterval el >>> 32).setWidth 32

/-- The frame of `send_twt_session_details_to_lmac` for the end of a session. -/
def teardownDetails (cfg : TwtConfig) (flowId : BitVec 8) : TwtSessionConfig where
  frameDesc0 := configDesc0
  frameDesc1 := TWT_CONFIG
  frameDesc2 := cfg.restrictTxOutsideTsp.setWidth 16 <<< 8
  frameDesc3 := 0
  frameDesc4 := 0
  frameDesc5 := 0
  twtEnable := 0
  twtNegotiationType := 0
  twtReq := 0
  twtSetupCommand := 0
  twtTrigger := 0
  twtImplicit := 0
  twtFlowType := 0
  twtFlowId := flowId.setWidth 3
  twtWakeInterExpo := 0
  twtProtection := 0
  targetWakeTime0 := 0
  targetWakeTime1 := 0
  twtNomWakeDur := 0
  twtWakeInterval0 := 0
  twtWakeInterval1 := 0

end Twt
