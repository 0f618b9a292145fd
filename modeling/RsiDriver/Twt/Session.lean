import RsiDriver.PowerSave.PsState
import RsiDriver.Twt.Params

/-!
# Target wake time: the session

The build with `CONFIG_TWT_SUPPORT` for kernels from 5.7 on. A TWT session is asked for by a netlink
command, or after an association when a configuration is stored; it becomes active when the access
point accepts, and ends when either side tears it down.
-/

namespace Twt

open PowerSave

/-! ## The driver -/

/-- `twt_setup_timer`: its callback is set, it is pending. -/
structure SetupTimer where
  function : Bool
  pending : Bool
deriving DecidableEq

/-- Why a setup frame is sent: a session is asked for, the timer has expired, or the access point
has made a proposal of its own. -/
inductive SetupCause
  | request
  | retry
  | proposal
deriving DecidableEq

/-- A setup frame in the transmit queue, and what the session fields were when it was queued. -/
structure SentSetup where
  cause : SetupCause
  frame : TwtSetupFrame
  sessionActive : Bool
  sessionInProgress : Bool
deriving DecidableEq

/-- What the TWT functions read and write of `struct rsi_hw`. -/
structure TwtAdapter where
  apSupportTwt : Bool
  twtSessionActive : Bool
  twtActiveSessionFlowId : BitVec 8
  twtSessionInProgress : Bool
  twtRetryCountLimit : BitVec 8
  twtDemandRespRetryLimit : BitVec 8
  twtCurrentStatus : TwtStatus
  rsiTwtConfig : TwtConfig
  apTwtInfoFrameSupport : Bool
  userTwtAutoConfig : TwtSelection
  twtAutoConfigEnable : Bool
  twtPsDisable : Bool
  twtSetupTimer : SetupTimer
  /-- `ax_params._11ax_enabled`. -/
  axEnabled : Bool
  ps : PsAdapter
  /-- The setup frames queued so far, the oldest first. -/
  setups : List SentSetup
  /-- The teardown frames queued so far. -/
  teardowns : List TwtTeardownFrame
  /-- The `TWT_CONFIG` frames queued since the last association. -/
  configs : List TwtSessionConfig
  /-- The copies of netlink messages that are allocated. -/
  cmdCopies : ℕ
deriving DecidableEq

/-- The outcomes of the calls that a TWT function makes. -/
structure Outcomes where
  /-- `vifs[sc_nvifs - 1]` is not `NULL`. -/
  vif : Bool
  /-- `dev_alloc_skb` and `rsi_prepare_mgmt_desc` for the setup frame. -/
  setupSkb : Bool
  setupDesc : Bool
  /-- The same for the teardown frame. -/
  teardownSkb : Bool
  teardownDesc : Bool
  /-- `dev_alloc_skb` for the `TWT_CONFIG` frame. -/
  configSkb : Bool
  /-- `dev_alloc_skb` for the requests of `rsi_disable_ps` and `rsi_enable_ps`. -/
  disablePs : Bool
  enablePs : Bool
deriving DecidableEq

/-- A first or repeated setup frame reaches the queue. -/
def Outcomes.setupQueued (o : Outcomes) : Bool := o.vif && o.setupSkb && o.setupDesc

namespace TwtAdapter

/-- A session is active, or is being negotiated. -/
def busy (a : TwtAdapter) : Bool := a.twtSessionActive || a.twtSessionInProgress

/-- `mod_timer`, or `init_twt_setup_timer` where the timer has no callback yet. -/
def armSetupTimer (a : TwtAdapter) : TwtAdapter := { a with twtSetupTimer := ⟨true, true⟩ }

/-- `del_timer`. -/
def delSetupTimer (a : TwtAdapter) : TwtAdapter :=
  { a with twtSetupTimer := { a.twtSetupTimer with pending := false } }

/-- Power save is disabled for the negotiation. -/
def suspendPs (a : TwtAdapter) (o : Outcomes) : TwtAdapter :=
  if a.ps.psState = .enabled then
    { a with ps := a.ps.disablePs o.disablePs, twtPsDisable := true }
  else a

/-- Power save is enabled again after a negotiation that disabled it. -/
def resumePs (a : TwtAdapter) (o : Outcomes) : TwtAdapter :=
  if a.twtPsDisable then { a with ps := a.ps.enablePs o.enablePs, twtPsDisable := false } else a

/-- `send_twt_setup_frame` once the element is filled in: queue the frame. -/
def queueSetup (a : TwtAdapter) (cause : SetupCause) (el : TwtElement) : TwtAdapter :=
  armSetupTimer
    { a with
      setups := a.setups ++ [⟨cause, ⟨1, el⟩, a.twtSessionActive, a.twtSessionInProgress⟩]
      twtRetryCountLimit := a.twtRetryCountLimit + 1
      twtSessionInProgress := true
      twtCurrentStatus := .setupSessionInProgress }

/-- `send_twt_setup_frame`. -/
def sendTwtSetupFrame (a : TwtAdapter) (o : Outcomes) (cause : SetupCause) (twtSetupUpdate : Bool)
    (twtSetupResp : Option TwtSetupFrame) : TwtAdapter :=
  if !o.vif || !o.setupSkb then a
  else
    -- from here on power save stays disabled, also if no frame is queued
    let a := a.suspendPs o
    match a.rsiTwtConfig.setupElement twtSetupUpdate twtSetupResp with
    | none => a
    | some el =>
      -- the defaults that stand in for a missing configuration become the configuration
      let a :=
        if a.rsiTwtConfig.twtEnable = 0 then { a with rsiTwtConfig := a.rsiTwtConfig.withDefaults }
        else a
      if o.setupDesc then a.queueSetup cause el else a

/-- `send_twt_teardown_frame`. -/
def sendTwtTeardownFrame (a : TwtAdapter) (o : Outcomes) (flowId negotiationType : BitVec 8) :
    TwtAdapter :=
  if o.vif && o.teardownSkb && o.teardownDesc then
    { a with
      teardowns := a.teardowns ++
        [{ flowId := if flowId ≠ 0xFF then flowId.setWidth 3 else 0
           negotiationType := negotiationType.setWidth 2
           teardownAll := if flowId ≠ 0xFF then 0 else 1 }] }
  else a

/-- `send_twt_session_details_to_lmac` with `setup = 1`. -/
def sendSetupDetails (a : TwtAdapter) (o : Outcomes) (resp : TwtSetupFrame) : TwtAdapter :=
  let el := resp.twtElement
  if o.configSkb then
    { a with
      twtSessionActive := true
      twtActiveSessionFlowId := el.flowId
      apTwtInfoFrameSupport := el.controlTwtInfoFrameDis == 0
      configs := a.configs ++ [setupDetails a.twtAutoConfigEnable a.rsiTwtConfig el] }
  else a

/-- `send_twt_session_details_to_lmac` with `setup = 0`. -/
def sendTeardownDetails (a : TwtAdapter) (o : Outcomes) (flowId : BitVec 8) : TwtAdapter :=
  -- without a buffer the session stays active
  if o.configSkb then
    { a with
      twtSessionActive := false
      configs := a.configs ++ [teardownDetails a.rsiTwtConfig flowId] }
  else a

end TwtAdapter

/-! ## The response to a setup frame -/

/-- The locals of `rsi_mgmt_process_twt_setup_resp` at `RSP_PROC_DONE`. -/
structure RspProc where
  adapter : TwtAdapter
  triggerSetupAgain : Bool
  sendTwtTeardown : Bool

namespace TwtAdapter

/-- The session is granted. -/
def respAccepted (a : TwtAdapter) (o : Outcomes) (fr : TwtSetupFrame) : RspProc where
  adapter :=
    { a with
      twtCurrentStatus := if a.twtSessionInProgress then .sessionSucc else .unsolSessionSucc
    }.sendSetupDetails o fr
  triggerSetupAgain := false
  sendTwtTeardown := false

/-- The access point proposes other parameters, which the driver asks for in turn. -/
def respProposed (a : TwtAdapter) (o : Outcomes) (fr : TwtSetupFrame) : RspProc where
  adapter := { a with twtRetryCountLimit := 0 }.sendTwtSetupFrame o .proposal true (some fr)
  triggerSetupAgain := true
  sendTwtTeardown := false

/-- The response is not what was asked for; a session that it grants is torn down. -/
def respMismatched (a : TwtAdapter) (fr : TwtSetupFrame) (status : TwtStatus) : RspProc where
  adapter := { a with twtCurrentStatus := status }
  triggerSetupAgain := false
  sendTwtTeardown := fr.twtElement.setupCommand == TWT_SETUP_CMD_ACCEPT

/-- The response is not one of those that grant or propose a session. -/
def respRefused (a : TwtAdapter) (status : TwtStatus) : RspProc where
  adapter := { a with twtCurrentStatus := status }
  triggerSetupAgain := false
  sendTwtTeardown := false

/-- A response to `TWT_SETUP_CMD_REQUEST` that grants or proposes a session. -/
def respToRequest (a : TwtAdapter) (o : Outcomes) (fr : TwtSetupFrame) : RspProc :=
  if fr.twtElement.setupCommand = TWT_SETUP_CMD_ACCEPT then a.respAccepted o fr
  else a.respProposed o fr

/-- A response to `TWT_SETUP_CMD_SUGGEST` that grants or proposes a session. -/
def respToSuggest (a : TwtAdapter) (o : Outcomes) (fr : TwtSetupFrame) : Option RspProc :=
  (suggestOutOfTol a.twtAutoConfigEnable a.userTwtAutoConfig a.rsiTwtConfig fr.twtElement).map
    fun outOfTol =>
      if outOfTol then a.respMismatched fr .setupRspOutofTol
      else if fr.twtElement.setupCommand = TWT_SETUP_CMD_ACCEPT then a.respAccepted o fr
      else a.respProposed o fr

/-- A response to `TWT_SETUP_CMD_DEMAND` that grants or proposes a session. -/
def respToDemand (a : TwtAdapter) (o : Outcomes) (fr : TwtSetupFrame) : RspProc :=
  if demandNotMatched a.rsiTwtConfig fr.twtElement then a.respMismatched fr .setupRspNotMatched
  else if fr.twtElement.setupCommand = TWT_SETUP_CMD_ACCEPT then a.respAccepted o fr
  else if a.twtDemandRespRetryLimit < a.rsiTwtConfig.twtRetryLimit then
    let rsp := a.respProposed o fr
    { rsp with
      adapter :=
        { rsp.adapter with
          twtDemandRespRetryLimit := rsp.adapter.twtDemandRespRetryLimit + 1 } }
  else { a with twtRetryCountLimit := 0 }.respRefused .setupApRejected

/-- The switch on the type of the request and, inside, on the command of the response. -/
def respByReqType (a : TwtAdapter) (o : Outcomes) (fr : TwtSetupFrame) : Option RspProc :=
  let cmd := fr.twtElement.setupCommand
  let reqType := a.rsiTwtConfig.reqType
  if reqType ≠ TWT_SETUP_CMD_REQUEST ∧ reqType ≠ TWT_SETUP_CMD_SUGGEST ∧
      reqType ≠ TWT_SETUP_CMD_DEMAND then
    -- a configuration with another request: no status is set
    some ⟨a, false, false⟩
  else if cmd = TWT_SETUP_CMD_ACCEPT ∨ cmd = TWT_SETUP_CMD_ALTERNATE ∨
      cmd = TWT_SETUP_CMD_DICTATE then
    if reqType = TWT_SETUP_CMD_REQUEST then some (a.respToRequest o fr)
    else if reqType = TWT_SETUP_CMD_SUGGEST then a.respToSuggest o fr
    else some (a.respToDemand o fr)
  else if cmd = TWT_SETUP_CMD_REJECT then some (a.respRefused .setupApRejected)
  else some (a.respRefused .setupUnsupportedRsp)

/-- The teardown of a session that the access point grants with other parameters; it may be the
active one. -/
def teardownGranted (a : TwtAdapter) (o : Outcomes) (fr : TwtSetupFrame) : TwtAdapter :=
  let el := fr.twtElement
  let a := a.sendTwtTeardownFrame o el.flowId (el.controlNegotiationType.setWidth 8)
  if a.twtSessionActive ∧ a.twtActiveSessionFlowId = el.flowId then
    { a.sendTeardownDetails o a.twtActiveSessionFlowId with twtCurrentStatus := .teardownSucc }
  else a

/-- `RSP_PROC_DONE`. -/
def rspProcDone (rsp : RspProc) (o : Outcomes) (fr : TwtSetupFrame) : TwtAdapter :=
  let a := if rsp.sendTwtTeardown then rsp.adapter.teardownGranted o fr else rsp.adapter
  if rsp.triggerSetupAgain then a else { a with twtSessionInProgress := false }

/-- A response to a setup frame ends the retries. -/
def stopRetries (a : TwtAdapter) : TwtAdapter :=
  if a.twtSessionInProgress then { a with twtRetryCountLimit := 0 }.delSetupTimer else a

/-- `rsi_mgmt_process_twt_setup_resp`; `none` is a division by zero. -/
def mgmtProcessTwtSetupResp (a : TwtAdapter) (o : Outcomes) (fr : TwtSetupFrame) :
    Option TwtAdapter :=
  let a := a.stopRetries
  if validateUnsupportedTwtRespParams a.twtAutoConfigEnable fr then
    some (rspProcDone (a.respMismatched fr .setupUnsupportedRsp) o fr)
  else (a.respByReqType o fr).map fun rsp => rspProcDone rsp o fr

/-! ## The handlers -/

/-- A received setup frame: `rsi_mgmt_pkt_to_core` for `WLAN_S1G_TWT_SETUP`. -/
def rxTwtSetup (a : TwtAdapter) (o : Outcomes) (fr : TwtSetupFrame) : Option TwtAdapter :=
  let el := fr.twtElement
  let teardown := a.sendTwtTeardownFrame o el.flowId (el.controlNegotiationType.setWidth 8)
  if a.twtSessionInProgress then (a.mgmtProcessTwtSetupResp o fr).map (·.resumePs o)
  else if a.apSupportTwt ∧ el.setupCommand = TWT_SETUP_CMD_ACCEPT then
    if !a.twtSessionActive then
      -- an unsolicited grant; without a configuration of the user any supported one will do
      if a.rsiTwtConfig.twtEnable = 0 then
        if validateUnsupportedTwtRespParams a.twtAutoConfigEnable fr then
          some { teardown with twtCurrentStatus := .setupUnsupportedRsp }
        else some { a.sendSetupDetails o fr with twtCurrentStatus := .unsolSessionSucc }
      else a.mgmtProcessTwtSetupResp o fr
    -- a second session is torn down, a new grant of the active one is processed
    else if a.twtActiveSessionFlowId ≠ el.flowId then some teardown
    else a.mgmtProcessTwtSetupResp o fr
  else some a

/-- A received teardown frame: `rsi_mgmt_pkt_to_core` for `WLAN_S1G_TWT_TEARDOWN`. -/
def rxTwtTeardown (a : TwtAdapter) (o : Outcomes) (fr : TwtTeardownFrame) : TwtAdapter :=
  if !a.twtSessionActive then a
  else if fr.teardownAll ≠ 0 then
    { a.sendTeardownDetails o 0xFF with twtCurrentStatus := .apTeardownSucc }
  else if a.twtActiveSessionFlowId = fr.flowId.setWidth 8 then
    { a.sendTeardownDetails o (fr.flowId.setWidth 8) with twtCurrentStatus := .apTeardownSucc }
  else a

/-- `twt_setup_timer_callback`. -/
def twtSetupTimerCallback (a : TwtAdapter) (o : Outcomes) : TwtAdapter :=
  if a.twtRetryCountLimit < a.rsiTwtConfig.twtRetryLimit then
    a.sendTwtSetupFrame o .retry false none
  else
    { a with
      twtRetryCountLimit := 0
      twtSessionInProgress := false
      twtCurrentStatus := .setupFailMaxRetriesReached }.delSetupTimer.resumePs o

/-- `process_twt_setup_cmd` and whether it accepts the command. The copy of the message is freed
only if it does. -/
def processTwtSetupCmd (a : TwtAdapter) (cfg : TwtConfig) : TwtAdapter × Bool :=
  let a := { a with cmdCopies := a.cmdCopies + 1 }
  if cfg.twtEnable ≠ 0 ∧ a.busy then
    ({ a with twtCurrentStatus := .setupErrSessionActive }, false)
  -- flow id `0xff` stands for every session
  else if cfg.twtEnable = 0 ∧ a.twtSessionActive ∧
      (a.twtActiveSessionFlowId ≠ cfg.twtFlowId ∧ cfg.twtFlowId ≠ 0xff) then
    ({ a with twtCurrentStatus := .teardownErrFlowidNotMatched }, false)
  else if cfg.twtEnable = 0 ∧ !a.twtSessionActive then
    ({ a with twtCurrentStatus := .teardownErrNoactiveSess }, false)
  else ({ a with rsiTwtConfig := cfg, cmdCopies := a.cmdCopies - 1 }, true)

/-- The teardown that both commands ask for. -/
def teardownByCommand (a : TwtAdapter) (o : Outcomes) : TwtAdapter :=
  let a := a.sendTwtTeardownFrame o a.rsiTwtConfig.twtFlowId a.rsiTwtConfig.negotiationType
  { a.sendTeardownDetails o a.rsiTwtConfig.twtFlowId with twtCurrentStatus := .teardownSucc }

/-- `TWT_CONFIG_CMD`. -/
def twtConfigCmd (a : TwtAdapter) (o : Outcomes) (cfg : TwtConfig) : TwtAdapter :=
  let (a, accepted) := a.processTwtSetupCmd cfg
  if !accepted then a
  else if !a.axEnabled then a
  else if a.rsiTwtConfig.twtEnable ≠ 0 then a.sendTwtSetupFrame o .request false none
  else a.teardownByCommand o

/-- The start of `TWT_AUTO_CONFIG`: `cfg` is the configuration computed for `user`, if there is one.
The message is stored in either case. -/
def storeAutoConfig (a : TwtAdapter) (user : TwtSelection) (cfg : Option TwtConfig) : TwtAdapter :=
  match cfg with
  | some cfg => { a with rsiTwtConfig := cfg, userTwtAutoConfig := user }
  | none => { a with twtCurrentStatus := .autoConfigFail, userTwtAutoConfig := user }

/-- The rest of `TWT_AUTO_CONFIG`, which goes on after a failure too. -/
def applyAutoConfig (a : TwtAdapter) (o : Outcomes) (user : TwtSelection) : TwtAdapter :=
  if !a.axEnabled then a
  else if user.twtEnable ≠ 0 then
    { a with twtAutoConfigEnable := true, twtRetryCountLimit := 0 }.sendTwtSetupFrame o .request
      false none
  else a.teardownByCommand o

/-- `TWT_AUTO_CONFIG`; `none` is a division by zero. -/
def twtAutoConfig (a : TwtAdapter) (o : Outcomes) (user : TwtSelection) : Option TwtAdapter :=
  (user.useCaseBasedTwtParamsConfiguration a.rsiTwtConfig).map fun cfg =>
    (a.storeAutoConfig user cfg).applyAutoConfig o user

/-- The setup frame for a stored configuration, which `rsi_inform_bss_status` sends in an open
network and the confirm of the fourth EAPOL message in a secured one. -/
def setupAfterConnection (a : TwtAdapter) (o : Outcomes) : TwtAdapter :=
  if a.axEnabled ∧ a.apSupportTwt ∧ a.rsiTwtConfig.twtEnable ≠ 0 then
    a.sendTwtSetupFrame o .request false none
  else a

/-- `rsi_mac80211_bss_info_changed` for an association. `twtRequester` is there if `BSS_CHANGED_TWT`
is set. The history of `TWT_CONFIG` frames starts again. -/
def bssInfoAssoc (a : TwtAdapter) (heSupport : Bool) (twtRequester : Option Bool) : TwtAdapter :=
  { a with
    axEnabled := heSupport
    twtCurrentStatus := .teardownErrNoactiveSess
    apSupportTwt := if heSupport then twtRequester.getD a.apSupportTwt else a.apSupportTwt
    ps := { a.ps with assoc := true }
    configs := [] }

/-- An association, with the setup frame of `rsi_inform_bss_status`; `secured` is bit 4 of the
capabilities. -/
def associate (a : TwtAdapter) (o : Outcomes) (heSupport : Bool) (twtRequester : Option Bool)
    (secured : Bool) : TwtAdapter :=
  let a := a.bssInfoAssoc heSupport twtRequester
  if secured then a else a.setupAfterConnection o

/-- Power save comes back once the keys are there, on kernels from 6.0 on. -/
def restoreUserPs (a : TwtAdapter) (o : Outcomes) : TwtAdapter :=
  if a.ps.kernel6 ∧ a.ps.userPsEn then { a with ps := a.ps.enablePs o.enablePs } else a

/-- The confirm of the fourth EAPOL message. -/
def eapol4Confirm (a : TwtAdapter) (o : Outcomes) : TwtAdapter :=
  (a.restoreUserPs o).setupAfterConnection o

/-- `rsi_mac80211_sta_remove` for the access point, and `rsi_mac80211_bss_info_changed` for the end
of the association. -/
def disassociate (a : TwtAdapter) : TwtAdapter :=
  { a with
    twtCurrentStatus :=
      if a.rsiTwtConfig.twtEnable = 1 then .inactiveDuetoDisconnect else a.twtCurrentStatus
    axEnabled := false
    ps := { a.ps with assoc := false } }

end TwtAdapter

/-! ## Runs -/

/-- Whether the station is associated, and if not, whether it has been. -/
inductive Link
  | idle
  | associated
  | disassociated
deriving DecidableEq

/-- The driver, the number of power-save requests that the device has confirmed, and the link. -/
structure TwtSys where
  adapter : TwtAdapter
  confirmed : ℕ
  link : Link
deriving DecidableEq

/-- Commands, received frames, expiries and the events of an association; the last is any other use
of power save. -/
inductive TwtAct
  | configCmd (o : Outcomes) (cfg : TwtConfig)
  | autoConfig (o : Outcomes) (user : TwtSelection)
  | rxSetup (o : Outcomes) (fr : TwtSetupFrame)
  | rxTeardown (o : Outcomes) (fr : TwtTeardownFrame)
  | setupTimer (o : Outcomes)
  | associate (o : Outcomes) (heSupport : Bool) (twtRequester : Option Bool) (secured : Bool)
  | eapol4Confirm (o : Outcomes)
  | disassociate
  | powerSave (act : PsAct)
deriving DecidableEq

namespace TwtSys

/-- One action. -/
def step (s : TwtSys) : TwtAct → Option TwtSys
  | .configCmd o cfg => some { s with adapter := s.adapter.twtConfigCmd o cfg }
  | .autoConfig o user => (s.adapter.twtAutoConfig o user).map ({ s with adapter := · })
  | .rxSetup o fr => (s.adapter.rxTwtSetup o fr).map ({ s with adapter := · })
  | .rxTeardown o fr => some { s with adapter := s.adapter.rxTwtTeardown o fr }
  | .setupTimer o =>
    if s.adapter.twtSetupTimer.pending then
      some { s with adapter := s.adapter.delSetupTimer.twtSetupTimerCallback o }
    else none
  | .associate o he twtRequester secured =>
    some { s with
      adapter := s.adapter.associate o he twtRequester secured
      link := .associated }
  | .eapol4Confirm o => some { s with adapter := s.adapter.eapol4Confirm o }
  | .disassociate => some { s with adapter := s.adapter.disassociate, link := .disassociated }
  | .powerSave act =>
    (PsSys.step ⟨s.adapter.ps, s.confirmed⟩ act).map fun p =>
      { s with adapter := { s.adapter with ps := p.adapter }, confirmed := p.confirmed }

/-- Runs start without a session and before any association, with any configuration. -/
def system : TransitionSystem TwtSys TwtAct where
  Init s :=
    s.link = .idle ∧ s.adapter.twtSessionActive = false ∧
      s.adapter.twtSessionInProgress = false ∧ s.adapter.twtSetupTimer.pending = false ∧
      s.adapter.axEnabled = false ∧ s.adapter.setups = [] ∧ s.adapter.configs = []
  step := step

end TwtSys

end Twt
