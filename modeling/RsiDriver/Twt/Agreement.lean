import RsiDriver.Twt.Session

/-!
# Target wake time: host and device agree on the session

`twt_session_active` and `twt_active_session_flow_id` change only together with a `TWT_CONFIG` frame
to the LMAC, so the two agree from one association to its end. What goes wrong is at the edges. A
disassociation leaves the session fields and the setup timer as they are, and so does the next
association. `TWT_AUTO_CONFIG`, an association and the confirm of the fourth EAPOL message send a
setup frame without the test that `TWT_CONFIG_CMD` makes for a session that is active or in
progress. A grant is accepted whether or not the station is associated.

## Main results

* `not_twtSessionOk`: a disassociation in an active session leaves it active;
* `twtSessionOk_of_discipline`: in the runs without these steps host and device agree, sessions are
  asked for one at a time, and none outlives the association;
* `not_twtSessionOk_of_not_discipline`: every one of these steps does damage.
-/

namespace Twt

open PowerSave

/-! ## What should hold -/

/-- `twt_session_active` is set with flow id `f` just when the last `TWT_CONFIG` frame since the
association enables `f`. -/
def TwtAdapter.SessionAgrees (a : TwtAdapter) : Prop :=
  ∀ f : BitVec 8, (a.twtSessionActive = true ∧ a.twtActiveSessionFlowId = f) ↔
    ∃ fr, a.configs.getLast? = some fr ∧ fr.twtEnable = 1 ∧ fr.twtFlowId.setWidth 8 = f

/-- No setup frame has been sent for a new session while another one was active or in progress. -/
def TwtAdapter.RequestsSeparate (a : TwtAdapter) : Prop :=
  ∀ r ∈ a.setups, r.cause = .request → r.sessionActive = false ∧ r.sessionInProgress = false

/-- No session is active or in progress, and the setup timer is not pending. -/
structure TwtAdapter.NoSession (a : TwtAdapter) : Prop where
  active : a.twtSessionActive = false
  inProgress : a.twtSessionInProgress = false
  timer : a.twtSetupTimer.pending = false

/-- The session of the host and that of the device agree. -/
structure TwtSessionOk (s : TwtSys) : Prop where
  agrees : s.adapter.SessionAgrees
  separate : s.adapter.RequestsSeparate
  noSession : s.link = .disassociated → s.adapter.NoSession

/-! ## The view of a session -/

/-- The fields that a session is about. -/
structure SessionView where
  active : Bool
  flowId : BitVec 8
  inProgress : Bool
  timerPending : Bool
  axEnabled : Bool
  setups : List SentSetup
  configs : List TwtSessionConfig

namespace SessionView

/-- A setup frame is queued. -/
def send (v : SessionView) (cause : SetupCause) (el : TwtElement) : SessionView :=
  { v with
    setups := v.setups ++ [⟨cause, ⟨1, el⟩, v.active, v.inProgress⟩]
    inProgress := true
    timerPending := true }

/-- A session is granted, and the device is told. -/
def grant (v : SessionView) (fr : TwtSessionConfig) : SessionView :=
  { v with active := true, flowId := fr.twtFlowId.setWidth 8, configs := v.configs ++ [fr] }

/-- The session ends, and the device is told. -/
def teardown (v : SessionView) (fr : TwtSessionConfig) : SessionView :=
  { v with active := false, configs := v.configs ++ [fr] }

/-- The setup timer is deleted, or has expired. -/
def stopTimer (v : SessionView) : SessionView := { v with timerPending := false }

/-- The negotiation is over. -/
def finish (v : SessionView) : SessionView := { v with inProgress := false }

/-- The station joins a network with or without HE, or leaves it. -/
def setAx (v : SessionView) (axEnabled : Bool) : SessionView := { v with axEnabled := axEnabled }

/-- The history of the device starts again. -/
def newAssociation (v : SessionView) : SessionView := { v with configs := [] }

/-- The flow id of the session that is active at the host. -/
def hostSession (v : SessionView) : Option (BitVec 8) := if v.active then some v.flowId else none

/-- The flow id of the session that the device has been told of. -/
def deviceSession (v : SessionView) : Option (BitVec 8) :=
  v.configs.getLast?.bind fun fr =>
    if fr.twtEnable = 1 then some (fr.twtFlowId.setWidth 8) else none

end SessionView

namespace TwtAdapter

/-- The session fields of the adapter. -/
def view (a : TwtAdapter) : SessionView where
  active := a.twtSessionActive
  flowId := a.twtActiveSessionFlowId
  inProgress := a.twtSessionInProgress
  timerPending := a.twtSetupTimer.pending
  axEnabled := a.axEnabled
  setups := a.setups
  configs := a.configs

/-- Host and device agree just when they have the same session. -/
theorem sessionAgrees_iff (a : TwtAdapter) :
    a.SessionAgrees ↔ a.view.hostSession = a.view.deviceSession := by
  -- both sides name a flow id, so it is enough to compare them at every one
  have hhost (f : BitVec 8) :
      a.view.hostSession = some f ↔ a.twtSessionActive = true ∧ a.twtActiveSessionFlowId = f := by
    cases hactive : a.twtSessionActive <;> simp [view, SessionView.hostSession, hactive]
  have hdevice (f : BitVec 8) : a.view.deviceSession = some f ↔
      ∃ fr, a.configs.getLast? = some fr ∧ fr.twtEnable = 1 ∧ fr.twtFlowId.setWidth 8 = f := by
    simp [view, SessionView.deviceSession, Option.bind_eq_some_iff]
  rw [Option.ext_iff]
  simp only [hhost, hdevice]
  rfl

@[simp]
theorem view_suspendPs (a : TwtAdapter) (o : Outcomes) : (a.suspendPs o).view = a.view := by
  unfold suspendPs
  split_ifs <;> rfl

@[simp]
theorem rsiTwtConfig_suspendPs (a : TwtAdapter) (o : Outcomes) :
    (a.suspendPs o).rsiTwtConfig = a.rsiTwtConfig := by
  unfold suspendPs
  split_ifs <;> rfl

@[simp]
theorem view_resumePs (a : TwtAdapter) (o : Outcomes) : (a.resumePs o).view = a.view := by
  unfold resumePs
  split_ifs <;> rfl

/-- The end of the retries changes nothing that the checks of a response read, and no frame. -/
theorem stopRetries_spec (a : TwtAdapter) :
    a.stopRetries.twtAutoConfigEnable = a.twtAutoConfigEnable ∧
      a.stopRetries.userTwtAutoConfig = a.userTwtAutoConfig ∧
      a.stopRetries.rsiTwtConfig = a.rsiTwtConfig ∧ a.stopRetries.teardowns = a.teardowns ∧
      a.stopRetries.configs = a.configs := by
  unfold stopRetries
  split_ifs <;> exact ⟨rfl, rfl, rfl, rfl, rfl⟩

theorem view_storeAutoConfig (a : TwtAdapter) (user : TwtSelection) (cfg : Option TwtConfig) :
    (a.storeAutoConfig user cfg).view = a.view := by
  cases cfg <;> rfl

/-- Nothing that the request after a connection depends on changes with power save. -/
theorem restoreUserPs_spec (a : TwtAdapter) (o : Outcomes) :
    (a.restoreUserPs o).view = a.view ∧ (a.restoreUserPs o).apSupportTwt = a.apSupportTwt ∧
      (a.restoreUserPs o).rsiTwtConfig = a.rsiTwtConfig := by
  unfold restoreUserPs
  split_ifs <;> exact ⟨rfl, rfl, rfl⟩

@[simp]
theorem view_sendTwtTeardownFrame (a : TwtAdapter) (o : Outcomes) (f n : BitVec 8) :
    (a.sendTwtTeardownFrame o f n).view = a.view := by
  unfold sendTwtTeardownFrame
  split_ifs <;> rfl

@[simp]
theorem view_queueSetup (a : TwtAdapter) (cause : SetupCause) (el : TwtElement) :
    (a.queueSetup cause el).view = a.view.send cause el := rfl

/-- `send_twt_setup_frame` queues a frame or leaves the session as it is. -/
theorem view_sendTwtSetupFrame (a : TwtAdapter) (o : Outcomes) (cause : SetupCause) (update : Bool)
    (resp : Option TwtSetupFrame) (h : update = true → resp.isSome = true) :
    ∃ el, (a.sendTwtSetupFrame o cause update resp).view =
      if o.setupQueued then a.view.send cause el else a.view := by
  obtain ⟨el, hel⟩ := Option.ne_none_iff_exists'.1 (a.rsiTwtConfig.setupElement_ne_none h)
  refine ⟨el, ?_⟩
  -- without an interface or a buffer nothing has happened yet
  cases hvif : o.vif
  case false => simp [sendTwtSetupFrame, Outcomes.setupQueued, hvif]
  cases hskb : o.setupSkb
  case false => simp [sendTwtSetupFrame, Outcomes.setupQueued, hskb]
  simp only [sendTwtSetupFrame, Outcomes.setupQueued, hvif, hskb, rsiTwtConfig_suspendPs, hel]
  -- power save may be suspended by now, and the defaults stored, also if the frame is dropped
  cases hdesc : o.setupDesc with
  | false =>
    simp only [Bool.not_true, Bool.or_self, Bool.and_false, Bool.false_eq_true, if_false]
    split_ifs <;> exact view_suspendPs a o
  | true =>
    simp only [Bool.not_true, Bool.or_self, Bool.and_self, Bool.false_eq_true, if_false, if_true,
      view_queueSetup]
    split_ifs <;> exact congrArg (·.send cause el) (view_suspendPs a o)

theorem view_sendSetupDetails (a : TwtAdapter) (o : Outcomes) (resp : TwtSetupFrame) :
    (a.sendSetupDetails o resp).view =
      if o.configSkb then
        a.view.grant (setupDetails a.twtAutoConfigEnable a.rsiTwtConfig resp.twtElement)
      else a.view := by
  unfold sendSetupDetails
  split_ifs <;> rfl

theorem view_sendTeardownDetails (a : TwtAdapter) (o : Outcomes) (flowId : BitVec 8) :
    (a.sendTeardownDetails o flowId).view =
      if o.configSkb then a.view.teardown (teardownDetails a.rsiTwtConfig flowId) else a.view := by
  unfold sendTeardownDetails
  split_ifs <;> rfl

end TwtAdapter

/-! ## What every move keeps -/

/-- `P` is kept by every move that the handlers make, with what they have tested before it. -/
structure Kept (P : SessionView → Prop) : Prop where
  timer : ∀ {v}, P v → v.timerPending = true → v.inProgress = true
  stopTimer : ∀ {v}, P v → P v.stopTimer
  request : ∀ {v} el, P v → v.active = false → v.inProgress = false → P (v.send .request el)
  renew : ∀ {v} cause el, P v → v.inProgress = true → cause ≠ .request → P (v.send cause el)
  grant : ∀ {v fr}, P v → fr.twtEnable = 1 → P (v.grant fr)
  teardown : ∀ {v fr}, P v → fr.twtEnable = 0 → P (v.teardown fr)
  finish : ∀ {v}, P v → v.timerPending = false → P v.finish
  setAx : ∀ {v} axEnabled, P v → P (v.setAx axEnabled)

/-- `P` holds at `RSP_PROC_DONE`, and the timer is pending only if the setup was sent again. -/
structure RspProc.Kept (P : SessionView → Prop) (rsp : RspProc) : Prop where
  view : P rsp.adapter.view
  timer : rsp.triggerSetupAgain = false → rsp.adapter.view.timerPending = false

namespace Kept

variable {P : SessionView → Prop} {a a' : TwtAdapter} {o : Outcomes} {fr : TwtSetupFrame}

theorem sendSetupDetails (hP : Kept P) (h : P a.view) : P (a.sendSetupDetails o fr).view := by
  rw [TwtAdapter.view_sendSetupDetails]
  split_ifs
  · exact hP.grant h rfl
  · exact h

theorem sendTeardownDetails (hP : Kept P) (h : P a.view) (flowId : BitVec 8) :
    P (a.sendTeardownDetails o flowId).view := by
  rw [TwtAdapter.view_sendTeardownDetails]
  split_ifs
  · exact hP.teardown h rfl
  · exact h

/-- A setup frame for the session that is being negotiated. -/
theorem sendRenewal (hP : Kept P) (h : P a.view) (hprogress : a.twtSessionInProgress = true)
    (cause : SetupCause) (update : Bool) (resp : Option TwtSetupFrame) (hcause : cause ≠ .request)
    (hresp : update = true → resp.isSome = true) :
    P (a.sendTwtSetupFrame o cause update resp).view := by
  obtain ⟨el, hview⟩ := a.view_sendTwtSetupFrame o cause update resp hresp
  rw [hview]
  split_ifs
  · exact hP.renew cause el h hprogress hcause
  · exact h

/-- A setup frame for a new session. -/
theorem sendRequest (h : P a.view)
    (hrequest : o.setupQueued = true → ∀ el, P (a.view.send .request el)) :
    P (a.sendTwtSetupFrame o .request false none).view := by
  obtain ⟨el, hview⟩ := a.view_sendTwtSetupFrame o .request false none nofun
  rw [hview]
  split_ifs with hqueued
  · exact hrequest hqueued el
  · exact h

/-! ### A response -/

theorem respAccepted (hP : Kept P) (h : P a.view) (htimer : a.view.timerPending = false) :
    (a.respAccepted o fr).Kept P where
  view := hP.sendSetupDetails (a := { a with twtCurrentStatus := _ }) h
  timer _ := by
    show (TwtAdapter.sendSetupDetails _ o fr).view.timerPending = false
    rw [TwtAdapter.view_sendSetupDetails]
    split_ifs <;> exact htimer

theorem respProposed (hP : Kept P) (h : P a.view) (hprogress : a.twtSessionInProgress = true) :
    (a.respProposed o fr).Kept P where
  view := hP.sendRenewal (a := { a with twtRetryCountLimit := 0 }) h hprogress .proposal true
    (some fr) nofun fun _ => rfl
  timer := nofun

theorem respMismatched (h : P a.view) (htimer : a.view.timerPending = false) (status : TwtStatus) :
    (a.respMismatched fr status).Kept P :=
  ⟨h, fun _ => htimer⟩

theorem respRefused (h : P a.view) (htimer : a.view.timerPending = false) (status : TwtStatus) :
    (a.respRefused status).Kept P :=
  ⟨h, fun _ => htimer⟩

/-- A proposal is answered only while a session is in progress. -/
theorem respToRequest (hP : Kept P) (h : P a.view) (htimer : a.view.timerPending = false)
    (hcmd : fr.twtElement.setupCommand = TWT_SETUP_CMD_ACCEPT ∨ a.twtSessionInProgress = true) :
    (a.respToRequest o fr).Kept P := by
  unfold TwtAdapter.respToRequest
  split_ifs with haccept
  · exact hP.respAccepted h htimer
  · exact hP.respProposed h (hcmd.resolve_left haccept)

theorem respToSuggest {rsp : RspProc} (hP : Kept P) (h : P a.view)
    (htimer : a.view.timerPending = false)
    (hcmd : fr.twtElement.setupCommand = TWT_SETUP_CMD_ACCEPT ∨ a.twtSessionInProgress = true)
    (hrsp : a.respToSuggest o fr = some rsp) : rsp.Kept P := by
  obtain ⟨outOfTol, -, rfl⟩ := Option.map_eq_some_iff.1 hrsp
  cases outOfTol with
  | true => exact respMismatched h htimer _
  | false => exact hP.respToRequest h htimer hcmd

theorem respToDemand (hP : Kept P) (h : P a.view) (htimer : a.view.timerPending = false)
    (hcmd : fr.twtElement.setupCommand = TWT_SETUP_CMD_ACCEPT ∨ a.twtSessionInProgress = true) :
    (a.respToDemand o fr).Kept P := by
  unfold TwtAdapter.respToDemand
  split_ifs with hmatch haccept hlimit
  · exact respMismatched h htimer _
  · exact hP.respAccepted h htimer
  · -- below the limit the demand goes out again, and is counted
    have hrsp : (a.respProposed o fr).Kept P := hP.respProposed h (hcmd.resolve_left haccept)
    exact ⟨hrsp.view, hrsp.timer⟩
  · exact respRefused (a := { a with twtRetryCountLimit := 0 }) h htimer _

theorem respByReqType {rsp : RspProc} (hP : Kept P) (h : P a.view)
    (htimer : a.view.timerPending = false)
    (hcmd : fr.twtElement.setupCommand = TWT_SETUP_CMD_ACCEPT ∨ a.twtSessionInProgress = true)
    (hrsp : a.respByReqType o fr = some rsp) : rsp.Kept P := by
  simp only [TwtAdapter.respByReqType] at hrsp
  split_ifs at hrsp
  -- a request type that the driver does not know
  · exact Option.some.inj hrsp ▸ ⟨h, fun _ => htimer⟩
  · exact Option.some.inj hrsp ▸ hP.respToRequest h htimer hcmd
  · exact hP.respToSuggest h htimer hcmd hrsp
  · exact Option.some.inj hrsp ▸ hP.respToDemand h htimer hcmd
  · exact Option.some.inj hrsp ▸ respRefused h htimer _
  · exact Option.some.inj hrsp ▸ respRefused h htimer _

theorem teardownGranted (hP : Kept P) (h : P a.view) :
    P (a.teardownGranted o fr).view ∧
      (a.teardownGranted o fr).view.timerPending = a.view.timerPending := by
  have hframe := a.view_sendTwtTeardownFrame o fr.twtElement.flowId
    (fr.twtElement.controlNegotiationType.setWidth 8)
  simp only [TwtAdapter.teardownGranted]
  split_ifs
  · refine ⟨hP.sendTeardownDetails (hframe ▸ h) _, ?_⟩
    show (TwtAdapter.sendTeardownDetails _ o _).view.timerPending = _
    rw [TwtAdapter.view_sendTeardownDetails, hframe]
    split_ifs <;> rfl
  · rw [hframe]
    exact ⟨h, rfl⟩

theorem rspProcDone {rsp : RspProc} (hP : Kept P) (h : rsp.Kept P) :
    P (TwtAdapter.rspProcDone rsp o fr).view := by
  have ⟨hview, htimer⟩ : P (rsp.adapter.teardownGranted o fr).view ∧ _ := hP.teardownGranted h.view
  unfold TwtAdapter.rspProcDone
  cases hteardown : rsp.sendTwtTeardown <;> cases hagain : rsp.triggerSetupAgain
  · exact hP.finish h.view (h.timer hagain)
  · exact h.view
  · exact hP.finish hview (htimer.trans (h.timer hagain))
  · exact hview

theorem stopRetries (hP : Kept P) (h : P a.view) :
    P a.stopRetries.view ∧ a.stopRetries.view.timerPending = false ∧
      a.stopRetries.twtSessionInProgress = a.twtSessionInProgress := by
  unfold TwtAdapter.stopRetries
  split_ifs with hprogress
  · exact ⟨hP.stopTimer h, rfl, rfl⟩
  · -- the timer is left alone, but there is no session for which it could be pending
    refine ⟨h, ?_, rfl⟩
    exact Bool.eq_false_iff.2 fun hpending => hprogress (hP.timer h hpending)

theorem mgmtProcessTwtSetupResp (hP : Kept P) (h : P a.view)
    (hcmd : fr.twtElement.setupCommand = TWT_SETUP_CMD_ACCEPT ∨ a.twtSessionInProgress = true)
    (hproc : a.mgmtProcessTwtSetupResp o fr = some a') : P a'.view := by
  obtain ⟨hview, htimer, hprogress⟩ := hP.stopRetries h
  simp only [TwtAdapter.mgmtProcessTwtSetupResp] at hproc
  split_ifs at hproc
  · exact Option.some.inj hproc ▸ hP.rspProcDone (respMismatched hview htimer _)
  · obtain ⟨rsp, hrsp, rfl⟩ := Option.map_eq_some_iff.1 hproc
    exact hP.rspProcDone (hP.respByReqType hview htimer (hprogress ▸ hcmd) hrsp)

/-! ### The handlers -/

theorem rxTwtSetup (hP : Kept P) (h : P a.view) (hrx : a.rxTwtSetup o fr = some a') :
    P a'.view := by
  simp only [TwtAdapter.rxTwtSetup] at hrx
  split_ifs at hrx with hprogress hsupport hactive henable hvalid hflow
  -- the response to a setup frame may propose something, which is answered in the same session
  · obtain ⟨b, hproc, rfl⟩ := Option.map_eq_some_iff.1 hrx
    rw [TwtAdapter.view_resumePs]
    exact hP.mgmtProcessTwtSetupResp h (.inr hprogress) hproc
  -- everything else that is processed is a grant
  · cases hrx
    exact TwtAdapter.view_sendTwtTeardownFrame a o _ _ ▸ h
  · cases hrx
    exact hP.sendSetupDetails h
  · exact hP.mgmtProcessTwtSetupResp h (.inl hsupport.2) hrx
  · cases hrx
    exact TwtAdapter.view_sendTwtTeardownFrame a o _ _ ▸ h
  · exact hP.mgmtProcessTwtSetupResp h (.inl hsupport.2) hrx
  · cases hrx
    exact h

theorem rxTwtTeardown (hP : Kept P) (h : P a.view) (fr : TwtTeardownFrame) :
    P (a.rxTwtTeardown o fr).view := by
  unfold TwtAdapter.rxTwtTeardown
  split_ifs
  · exact h
  · exact hP.sendTeardownDetails h _
  · exact hP.sendTeardownDetails h _
  · exact h

/-- An expiry of the timer. -/
theorem twtSetupTimerCallback (hP : Kept P) (h : P a.view)
    (hpending : a.twtSetupTimer.pending = true) :
    P (a.delSetupTimer.twtSetupTimerCallback o).view := by
  have hprogress : a.twtSessionInProgress = true := hP.timer h hpending
  have hstop : P a.delSetupTimer.view := hP.stopTimer h
  unfold TwtAdapter.twtSetupTimerCallback
  split_ifs
  · exact hP.sendRenewal hstop hprogress .retry false none nofun nofun
  · rw [TwtAdapter.view_resumePs]
    exact hP.finish hstop rfl

theorem teardownByCommand (hP : Kept P) (h : P a.view) : P (a.teardownByCommand o).view := by
  refine hP.sendTeardownDetails ?_ _
  rw [TwtAdapter.view_sendTwtTeardownFrame]
  exact h

end Kept

/-- `process_twt_setup_cmd` stores what it accepts, and accepts a setup only without a session. -/
theorem TwtAdapter.processTwtSetupCmd_spec (a : TwtAdapter) (cfg : TwtConfig) :
    (a.processTwtSetupCmd cfg).1.view = a.view ∧
      ((a.processTwtSetupCmd cfg).2 = true → cfg.twtEnable ≠ 0 → a.busy = false) ∧
      ((a.processTwtSetupCmd cfg).2 = true → (a.processTwtSetupCmd cfg).1.rsiTwtConfig = cfg) := by
  simp only [processTwtSetupCmd]
  split_ifs with hbusy hflow hactive
  · exact ⟨rfl, nofun, nofun⟩
  · exact ⟨rfl, nofun, nofun⟩
  · exact ⟨rfl, nofun, nofun⟩
  · exact ⟨rfl, fun _ henable => Bool.eq_false_iff.2 fun h => hbusy ⟨henable, h⟩, fun _ => rfl⟩

namespace Kept

variable {P : SessionView → Prop} {a a' : TwtAdapter} {o : Outcomes}

theorem twtConfigCmd (hP : Kept P) (h : P a.view) (cfg : TwtConfig) :
    P (a.twtConfigCmd o cfg).view := by
  obtain ⟨hview, hidle, hstored⟩ := a.processTwtSetupCmd_spec cfg
  have hkept : P (a.processTwtSetupCmd cfg).1.view := hview ▸ h
  simp only [TwtAdapter.twtConfigCmd]
  split_ifs with haccepted hax henable
  · exact hkept
  · exact hkept
  · -- the test of `process_twt_setup_cmd` was made before the configuration was stored
    have haccepted : (a.processTwtSetupCmd cfg).2 = true := by simpa using haccepted
    have hbusy := hidle haccepted (hstored haccepted ▸ henable)
    simp only [TwtAdapter.busy, Bool.or_eq_false_iff] at hbusy
    refine sendRequest hkept fun _ el => ?_
    rw [hview]
    exact hP.request el h hbusy.1 hbusy.2
  · exact hP.teardownByCommand hkept

theorem twtAutoConfig (hP : Kept P) (h : P a.view) {user : TwtSelection}
    (hrequest : a.axEnabled = true → user.twtEnable ≠ 0 → o.setupQueued = true →
      ∀ el, P (a.view.send .request el))
    (hauto : a.twtAutoConfig o user = some a') : P a'.view := by
  obtain ⟨cfg, -, rfl⟩ := Option.map_eq_some_iff.1 hauto
  have hview := a.view_storeAutoConfig user cfg
  have hax := congrArg SessionView.axEnabled hview
  unfold TwtAdapter.applyAutoConfig
  split_ifs with hskip henable
  · exact hview ▸ h
  · refine sendRequest (hview ▸ h) fun hqueued el => ?_
    have hon : (a.storeAutoConfig user cfg).axEnabled = true := by simpa using hskip
    exact hview ▸ hrequest (hax.symm.trans hon) henable hqueued el
  · exact hP.teardownByCommand (hview ▸ h)

theorem setupAfterConnection (h : P a.view)
    (hrequest : a.axEnabled = true → a.apSupportTwt = true → a.rsiTwtConfig.twtEnable ≠ 0 →
      o.setupQueued = true → ∀ el, P (a.view.send .request el)) :
    P (a.setupAfterConnection o).view := by
  unfold TwtAdapter.setupAfterConnection
  split_ifs with hconfigured
  · exact sendRequest h (hrequest hconfigured.1 hconfigured.2.1 hconfigured.2.2)
  · exact h

end Kept

/-! ## The condition -/

/-- An unsolicited grant that makes a session active, if none is active or in progress. -/
def TwtAdapter.grantsUnsolicited (a : TwtAdapter) (o : Outcomes) (fr : TwtSetupFrame) : Bool :=
  a.apSupportTwt && fr.twtElement.setupCommand == TWT_SETUP_CMD_ACCEPT && o.configSkb &&
    if a.rsiTwtConfig.twtEnable = 0 then !validateUnsupportedTwtRespParams a.twtAutoConfigEnable fr
    else acceptsResp a.twtAutoConfigEnable a.userTwtAutoConfig a.rsiTwtConfig fr

namespace TwtSys

/-- The action sends a setup frame for a new session without a look at the session fields. -/
def sendsRequest (s : TwtSys) : TwtAct → Bool
  | .autoConfig o user => s.adapter.axEnabled && user.twtEnable != 0 && o.setupQueued
  | .eapol4Confirm o =>
    s.adapter.axEnabled && s.adapter.apSupportTwt && s.adapter.rsiTwtConfig.twtEnable != 0 &&
      o.setupQueued
  | .associate o heSupport twtRequester secured =>
    !secured && heSupport && twtRequester.getD s.adapter.apSupportTwt &&
      s.adapter.rsiTwtConfig.twtEnable != 0 && o.setupQueued
  | _ => false

/-- The action leaves a session, or makes one, on the wrong side of an association. -/
def strandsSession (s : TwtSys) : TwtAct → Bool
  | .associate .. => s.adapter.twtSessionActive
  | .disassociate => s.adapter.busy
  | .rxSetup o fr => decide (s.link = .disassociated) && s.adapter.grantsUnsolicited o fr
  | _ => false

end TwtSys

/-- The condition on each step: no setup frame is sent for a new session while one is active or in
progress, other than by `TWT_CONFIG_CMD`, which tests for it; an association does not begin with an
active session or end with one that is active or in progress; and no grant is accepted after it. -/
def TwtDiscipline (s : TwtSys) (act : TwtAct) : Prop :=
  (s.sendsRequest act = true → s.adapter.busy = false) ∧ s.strandsSession act = false

instance (s : TwtSys) (act : TwtAct) : Decidable (TwtDiscipline s act) :=
  inferInstanceAs (Decidable ((_ = _ → _ = _) ∧ _ = _))

/-! ## A session that outlives its association -/

/-- A driver that has just been loaded. -/
def TwtSys.start : TwtSys where
  adapter :=
    { apSupportTwt := false, twtSessionActive := false, twtActiveSessionFlowId := 0
      twtSessionInProgress := false, twtRetryCountLimit := 0, twtDemandRespRetryLimit := 0
      twtCurrentStatus := .deviceNotInConnectedState
      rsiTwtConfig := ⟨0, 0, 0, 0, 0, 0, 0, 0, 0, 0, 0, 0, 0, 0, 0, 0, 0, 0, 0, 0, 0⟩
      apTwtInfoFrameSupport := false, userTwtAutoConfig := ⟨0, 0, 0, 0, 0, 0, 0, 0, 0, 0⟩
      twtAutoConfigEnable := false, twtPsDisable := false, twtSetupTimer := ⟨false, false⟩
      axEnabled := false, ps := PsSys.start.adapter, setups := [], teardowns := [], configs := []
      cmdCopies := 0 }
  confirmed := 0
  link := .idle

theorem TwtSys.init_start : TwtSys.system.Init TwtSys.start :=
  ⟨rfl, rfl, rfl, rfl, rfl, rfl, rfl⟩

/-- Every call succeeds. -/
def Outcomes.good : Outcomes := ⟨true, true, true, true, true, true, true, true⟩

/-- A request for flow 1 with a wake interval of 512 ms. -/
def sampleConfig : TwtConfig where
  wakeDuration := 128
  wakeDurationTol := 0
  wakeIntExp := 13
  wakeIntExpTol := 0
  wakeIntMantissa := 64
  wakeIntMantissaTol := 0
  implicitTwt := 1
  unAnnouncedTwt := 0
  triggeredTwt := 1
  negotiationType := 0
  twtChannel := 0
  twtProtection := 0
  twtFlowId := 1
  restrictTxOutsideTsp := 1
  twtRetryLimit := 6
  twtRetryInterval := 10
  reqType := TWT_SETUP_CMD_SUGGEST
  twtEnable := 1
  twtWakeDurationUnit := 0
  rxLatency := 0
  beaconWakeUpCountAfterSp := 0

/-- The grant of `sampleConfig`. -/
def sampleGrant : TwtSetupFrame where
  dialogToken := 1
  twtElement :=
    { sampleConfig.requestElement with
      reqTypeTwtReq := 0
      reqTypeTwtSetupCommand := 4
      reqTypeTwtWiExp := 13
      nomMinWakeDuration := 128
      wakeIntervalMantisa := 64 }

/-- The user asks for a session, the access point grants it, and the station leaves the network. -/
def strandedSchedule : List TwtAct :=
  [.associate .good true (some true) true, .configCmd .good sampleConfig,
    .rxSetup .good sampleGrant, .disassociate]

/-- A disassociation in an active session leaves it active. -/
theorem not_twtSessionOk : ¬ ∀ s, TwtSys.system.Reachable s → TwtSessionOk s := by
  refine TransitionSystem.not_forall_reachable_of_run strandedSchedule TwtSys.init_start rfl
    fun hok => ?_
  have hactive := (hok.noSession rfl).active
  cases hactive

/-! ## The invariant -/

/-- One action keeps `P`, if an association and a request sent without a test do. -/
theorem Kept.step {P : SessionView → Prop} (hP : Kept P) {s s' : TwtSys} {act : TwtAct}
    (h : P s.adapter.view)
    (hassoc : ∀ o he tr sec, act = .associate o he tr sec → P s.adapter.view.newAssociation)
    (hrequest : s.sendsRequest act = true → ∀ v el, P v → v.active = s.adapter.twtSessionActive →
      v.inProgress = s.adapter.twtSessionInProgress → P (v.send .request el))
    (hstep : s.step act = some s') : P s'.adapter.view := by
  cases act with
  | configCmd o cfg =>
    cases hstep
    exact hP.twtConfigCmd h cfg
  | autoConfig o user =>
    obtain ⟨a', hauto, rfl⟩ := Option.map_eq_some_iff.1 hstep
    refine hP.twtAutoConfig h (fun hax henable hqueued el => ?_) hauto
    refine hrequest ?_ _ el h rfl rfl
    simpa [TwtSys.sendsRequest, hax, hqueued] using henable
  | rxSetup o fr =>
    obtain ⟨a', hrx, rfl⟩ := Option.map_eq_some_iff.1 hstep
    exact hP.rxTwtSetup h hrx
  | rxTeardown o fr =>
    cases hstep
    exact hP.rxTwtTeardown h fr
  | setupTimer o =>
    simp only [TwtSys.step] at hstep
    split_ifs at hstep with hpending
    cases hstep
    exact hP.twtSetupTimerCallback h hpending
  | associate o he tr sec =>
    cases hstep
    have hnew : P (s.adapter.bssInfoAssoc he tr).view := hP.setAx he (hassoc o he tr sec rfl)
    simp only [TwtAdapter.associate]
    split_ifs with hsecured
    · exact hnew
    · refine setupAfterConnection hnew fun hax hsupport henable hqueued el => ?_
      refine hrequest ?_ _ el hnew rfl rfl
      obtain rfl : he = true := hax
      have hsupport : tr.getD s.adapter.apSupportTwt = true := hsupport
      have henable : s.adapter.rsiTwtConfig.twtEnable ≠ 0 := henable
      simpa [TwtSys.sendsRequest, hsecured, hsupport, hqueued] using henable
  | eapol4Confirm o =>
    cases hstep
    obtain ⟨hview, happs, hcfg⟩ := s.adapter.restoreUserPs_spec o
    have hps : P (s.adapter.restoreUserPs o).view := hview ▸ h
    refine setupAfterConnection hps fun hax hsupport henable hqueued el => ?_
    refine hrequest ?_ _ el hps (congrArg SessionView.active hview)
      (congrArg SessionView.inProgress hview)
    rw [happs] at hsupport
    rw [hcfg] at henable
    have hax : s.adapter.axEnabled = true := (congrArg SessionView.axEnabled hview).symm.trans hax
    simpa [TwtSys.sendsRequest, hax, hsupport, hqueued] using henable
  | disassociate =>
    cases hstep
    exact hP.setAx false h
  | powerSave act =>
    obtain ⟨p, -, rfl⟩ := Option.map_eq_some_iff.1 hstep
    exact h

/-- Retries, answers to proposals and the timer belong to a session in progress. -/
structure SessionView.Renews (v : SessionView) : Prop where
  renewals : ∀ r ∈ v.setups, r.cause ≠ .request → r.sessionInProgress = true
  timer : v.timerPending = true → v.inProgress = true

/-- Host and device agree, and sessions are asked for one at a time. -/
structure SessionView.Agrees (v : SessionView) : Prop extends v.Renews where
  session : v.hostSession = v.deviceSession
  requests : ∀ r ∈ v.setups, r.cause = .request →
    r.sessionActive = false ∧ r.sessionInProgress = false

namespace SessionView

variable {v : SessionView}

/-- What holds of the frames sent before and of the new one holds of all. -/
theorem forall_mem_setups_send {q : SentSetup → Prop} {cause : SetupCause} {el : TwtElement}
    (h : ∀ r ∈ v.setups, q r) (hnew : q ⟨cause, ⟨1, el⟩, v.active, v.inProgress⟩) :
    ∀ r ∈ (v.send cause el).setups, q r := by
  intro r hr
  rcases List.mem_append.1 hr with hold | hlast
  · exact h r hold
  · exact List.mem_singleton.1 hlast ▸ hnew

theorem Renews.send {cause : SetupCause} {el : TwtElement} (h : v.Renews)
    (hcause : cause ≠ .request → v.inProgress = true) : (v.send cause el).Renews where
  renewals := forall_mem_setups_send h.renewals hcause
  timer _ := rfl

theorem Agrees.send {cause : SetupCause} {el : TwtElement} (h : v.Agrees)
    (hcause : cause ≠ .request → v.inProgress = true)
    (hrequest : cause = .request → v.active = false ∧ v.inProgress = false) :
    (v.send cause el).Agrees where
  toRenews := h.toRenews.send hcause
  session := h.session
  requests := forall_mem_setups_send h.requests hrequest

theorem kept_renews : Kept Renews where
  timer h := h.timer
  stopTimer h := ⟨h.renewals, nofun⟩
  request _ h _ _ := h.send nofun
  renew _ _ h hprogress _ := h.send fun _ => hprogress
  grant h _ := ⟨h.renewals, h.timer⟩
  teardown h _ := ⟨h.renewals, h.timer⟩
  finish h htimer := ⟨h.renewals, fun hpending => absurd (htimer.symm.trans hpending) nofun⟩
  setAx _ h := ⟨h.renewals, h.timer⟩

theorem kept_agrees : Kept Agrees where
  timer h := h.timer
  stopTimer h := { h with toRenews := kept_renews.stopTimer h.toRenews }
  request _ h hactive hprogress := h.send nofun fun _ => ⟨hactive, hprogress⟩
  renew _ _ h hprogress hcause := h.send (fun _ => hprogress) fun heq => absurd heq hcause
  -- the flow id of the host is read off the frame that tells the device
  grant h henable :=
    { toRenews := kept_renews.grant h.toRenews henable
      session := by simp [hostSession, deviceSession, SessionView.grant, henable]
      requests := h.requests }
  teardown h henable :=
    { toRenews := kept_renews.teardown h.toRenews henable
      session := by simp [hostSession, deviceSession, SessionView.teardown, henable]
      requests := h.requests }
  finish h htimer := { h with toRenews := kept_renews.finish h.toRenews htimer }
  setAx b h := { h with toRenews := kept_renews.setAx b h.toRenews }

/-- A new association is in keeping with a host that has no session. -/
theorem Agrees.newAssociation (h : v.Agrees) (hactive : v.active = false) :
    v.newAssociation.Agrees where
  renewals := h.renewals
  timer := h.timer
  session := by simp [hostSession, deviceSession, SessionView.newAssociation, hactive]
  requests := h.requests

end SessionView

theorem renews_of_reachable {s : TwtSys} (h : TwtSys.system.Reachable s) :
    s.adapter.view.Renews := by
  refine h.invariant (·.adapter.view.Renews) ?_ fun s act s' hinv _ hstep => ?_
  · rintro s ⟨-, -, -, htimer, -, hsetups, -⟩
    refine ⟨fun r hr => ?_, fun hpending => absurd (htimer.symm.trans hpending) nofun⟩
    exact absurd (hsetups ▸ hr : r ∈ []) List.not_mem_nil
  · refine SessionView.kept_renews.step hinv (fun _ _ _ _ _ => ⟨hinv.renewals, hinv.timer⟩)
      (fun _ v el hv _ _ => hv.send nofun) hstep

/-- In every run, a setup frame that is a retry or the answer to a proposal is sent for the session
in progress. -/
theorem renewal_inProgress {s : TwtSys} (h : TwtSys.system.Reachable s) :
    ∀ r ∈ s.adapter.setups, r.cause ≠ .request → r.sessionInProgress = true :=
  (renews_of_reachable h).renewals

/-! ## Without a session -/

theorem SessionView.finish_eq {v : SessionView} (h : v.inProgress = false) : v.finish = v := by
  cases v
  exact congrArg (SessionView.mk _ _ · _ _ _ _) h.symm

namespace TwtAdapter

variable {a a' : TwtAdapter} {o : Outcomes} {fr : TwtSetupFrame}

theorem view_teardownGranted (hactive : a.twtSessionActive = false) :
    (a.teardownGranted o fr).view = a.view := by
  have hframe := a.view_sendTwtTeardownFrame o fr.twtElement.flowId
    (fr.twtElement.controlNegotiationType.setWidth 8)
  have hinactive : (a.sendTwtTeardownFrame o fr.twtElement.flowId
      (fr.twtElement.controlNegotiationType.setWidth 8)).twtSessionActive = false :=
    (congrArg SessionView.active hframe).trans hactive
  simp only [teardownGranted, hinactive, Bool.false_eq_true, false_and, if_false]
  exact hframe

/-- A response that neither grants a session nor asks again leaves things as they were. -/
theorem view_rspProcDone {rsp : RspProc} (hview : rsp.adapter.view = a.view)
    (hagain : rsp.triggerSetupAgain = false) (hactive : a.twtSessionActive = false)
    (hprogress : a.twtSessionInProgress = false) : (rspProcDone rsp o fr).view = a.view := by
  have hinactive : rsp.adapter.twtSessionActive = false :=
    (congrArg SessionView.active hview).trans hactive
  have hfinish : (rspProcDone rsp o fr).view = rsp.adapter.view.finish := by
    unfold rspProcDone
    rw [hagain]
    cases hteardown : rsp.sendTwtTeardown with
    | false => rfl
    | true => exact congrArg SessionView.finish (view_teardownGranted hinactive)
  rw [hfinish, hview]
  exact SessionView.finish_eq hprogress

/-- The switch on the type of the request, for a grant. -/
theorem respByReqType_accept {rsp : RspProc}
    (hcmd : fr.twtElement.setupCommand = TWT_SETUP_CMD_ACCEPT)
    (hvalid : validateUnsupportedTwtRespParams a.twtAutoConfigEnable fr = false)
    (hrsp : a.respByReqType o fr = some rsp) :
    if acceptsResp a.twtAutoConfigEnable a.userTwtAutoConfig a.rsiTwtConfig fr then
      rsp = a.respAccepted o fr
    else rsp.adapter.view = a.view ∧ rsp.triggerSetupAgain = false := by
  simp only [respByReqType, hcmd, true_or, if_true] at hrsp
  simp only [acceptsResp, hvalid, Bool.not_false, Bool.true_and]
  -- one case for each type of request, as in the definition of `acceptsResp`
  split_ifs at hrsp with hother hrequest hsuggest
  · cases hrsp
    simp [hother]
  · cases hrsp
    simp [respToRequest, hcmd, hrequest]
  · obtain ⟨outOfTol, htol, rfl⟩ := Option.map_eq_some_iff.1 hrsp
    simp only [if_neg hrequest, if_pos hsuggest, htol]
    cases outOfTol with
    | true => exact ⟨rfl, rfl⟩
    | false => simp [hcmd]
  · cases hrsp
    have hdemand : a.rsiTwtConfig.reqType = TWT_SETUP_CMD_DEMAND := by
      by_contra hdemand
      exact hother ⟨hrequest, hsuggest, hdemand⟩
    simp only [if_neg hrequest, if_neg hsuggest, if_pos hdemand, respToDemand]
    cases hmatch : demandNotMatched a.rsiTwtConfig fr.twtElement with
    | true => exact ⟨rfl, rfl⟩
    | false => simp [hcmd]

/-- A grant that arrives while there is no session makes one active if it is acceptable, and else
does nothing. -/
theorem mgmtProcessTwtSetupResp_accept (hactive : a.twtSessionActive = false)
    (hprogress : a.twtSessionInProgress = false)
    (hcmd : fr.twtElement.setupCommand = TWT_SETUP_CMD_ACCEPT)
    (hproc : a.mgmtProcessTwtSetupResp o fr = some a') :
    if o.configSkb && acceptsResp a.twtAutoConfigEnable a.userTwtAutoConfig a.rsiTwtConfig fr then
      a'.twtSessionActive = true
    else a'.view = a.view := by
  have hstop : a.stopRetries = a := if_neg (by simp [hprogress])
  simp only [mgmtProcessTwtSetupResp, hstop] at hproc
  split_ifs at hproc with hvalid
  · -- an unsupported grant is torn down towards the access point only
    cases hproc
    simp only [acceptsResp, hvalid, Bool.not_true, Bool.false_and, Bool.and_false,
      Bool.false_eq_true, if_false]
    exact view_rspProcDone rfl rfl hactive hprogress
  · obtain ⟨rsp, hrsp, rfl⟩ := Option.map_eq_some_iff.1 hproc
    have hdecision := respByReqType_accept hcmd (by simpa using hvalid) hrsp
    split_ifs at hdecision with haccept
    · -- an acceptable grant still needs the frame to the device
      subst hdecision
      rw [haccept, Bool.and_true]
      cases hskb : o.configSkb with
      | true => simp [rspProcDone, respAccepted, sendSetupDetails, hskb]
      | false =>
        refine view_rspProcDone ?_ rfl hactive hprogress
        show (sendSetupDetails _ o fr).view = a.view
        rw [view_sendSetupDetails, hskb]
        rfl
    · rw [Bool.eq_false_iff.2 haccept, Bool.and_false, if_neg nofun]
      exact view_rspProcDone hdecision.1 hdecision.2 hactive hprogress

theorem rxTwtSetup_noSession (hactive : a.twtSessionActive = false)
    (hprogress : a.twtSessionInProgress = false) (hrx : a.rxTwtSetup o fr = some a') :
    if a.grantsUnsolicited o fr then a'.twtSessionActive = true else a'.view = a.view := by
  simp only [rxTwtSetup, hprogress, hactive, Bool.false_eq_true, Bool.not_false, if_true,
    if_false] at hrx
  split_ifs at hrx with hgrant henable hvalid
  · cases hrx
    have hrefused : a.grantsUnsolicited o fr = false := by
      simp [grantsUnsolicited, henable, hvalid]
    rw [hrefused]
    exact a.view_sendTwtTeardownFrame o _ _
  · cases hrx
    cases hskb : o.configSkb with
    | true => simp [grantsUnsolicited, sendSetupDetails, hgrant, henable, hvalid, hskb]
    | false =>
      simp only [grantsUnsolicited, hskb, Bool.and_false, Bool.false_and, Bool.false_eq_true,
        if_false]
      exact (view_sendSetupDetails a o fr).trans (by rw [hskb]; rfl)
  · have hdecision := mgmtProcessTwtSetupResp_accept hactive hprogress hgrant.2 hrx
    have hgrants : a.grantsUnsolicited o fr = (o.configSkb &&
        acceptsResp a.twtAutoConfigEnable a.userTwtAutoConfig a.rsiTwtConfig fr) := by
      simp only [grantsUnsolicited, hgrant, if_neg henable, beq_self_eq_true, Bool.true_and]
    rw [hgrants]
    exact hdecision
  · cases hrx
    have hrefused : a.grantsUnsolicited o fr = false := by
      by_contra hgrants
      simp only [grantsUnsolicited, Bool.not_eq_false, Bool.and_eq_true, beq_iff_eq] at hgrants
      exact hgrant hgrants.1.1
    rw [hrefused]
    rfl

theorem NoSession.of_view_eq (hview : a'.view = a.view) (h : a.NoSession) : a'.NoSession where
  active := (congrArg SessionView.active hview).trans h.active
  inProgress := (congrArg SessionView.inProgress hview).trans h.inProgress
  timer := (congrArg SessionView.timerPending hview).trans h.timer

theorem view_twtConfigCmd_noAx (hax : a.axEnabled = false) (cfg : TwtConfig) :
    (a.twtConfigCmd o cfg).view = a.view := by
  obtain ⟨hview, -, -⟩ := a.processTwtSetupCmd_spec cfg
  have hax : (a.processTwtSetupCmd cfg).1.axEnabled = false :=
    (congrArg SessionView.axEnabled hview).trans hax
  simp only [twtConfigCmd, hax, Bool.not_false, if_true, ite_self]
  exact hview

theorem view_twtAutoConfig_noAx (hax : a.axEnabled = false) {user : TwtSelection}
    (hauto : a.twtAutoConfig o user = some a') : a'.view = a.view := by
  obtain ⟨cfg, -, rfl⟩ := Option.map_eq_some_iff.1 hauto
  have hview := a.view_storeAutoConfig user cfg
  have hoff : (a.storeAutoConfig user cfg).axEnabled = false :=
    (congrArg SessionView.axEnabled hview).trans hax
  rw [applyAutoConfig, hoff]
  exact hview

theorem setupAfterConnection_noAx (hax : a.axEnabled = false) : a.setupAfterConnection o = a :=
  if_neg fun hconfigured => by simp [hax] at hconfigured

end TwtAdapter

/-! ## Runs that keep the condition -/

/-- The invariant of disciplined runs. -/
structure TwtInv (s : TwtSys) : Prop where
  view : s.adapter.view.Agrees
  noSession : s.link = .disassociated → s.adapter.NoSession
  noAx : s.link = .disassociated → s.adapter.axEnabled = false

/-- After a disassociation nothing happens to the session until the next association. -/
theorem TwtInv.view_eq {s s' : TwtSys} {act : TwtAct} (hinv : TwtInv s)
    (hlink : s.link = .disassociated) (hlink' : s'.link = .disassociated)
    (hdisc : TwtDiscipline s act) (hstep : s.step act = some s') :
    s'.adapter.view = s.adapter.view := by
  have hno := hinv.noSession hlink
  have hax := hinv.noAx hlink
  cases act with
  | configCmd o cfg =>
    cases hstep
    exact TwtAdapter.view_twtConfigCmd_noAx hax cfg
  | autoConfig o user =>
    obtain ⟨a', hauto, rfl⟩ := Option.map_eq_some_iff.1 hstep
    exact TwtAdapter.view_twtAutoConfig_noAx hax hauto
  | rxSetup o fr =>
    obtain ⟨a', hrx, rfl⟩ := Option.map_eq_some_iff.1 hstep
    have hdecision := TwtAdapter.rxTwtSetup_noSession hno.active hno.inProgress hrx
    have hrefused : s.adapter.grantsUnsolicited o fr = false := by
      have hstrands := hdisc.2
      simpa [TwtSys.strandsSession, hlink] using hstrands
    simpa [hrefused] using hdecision
  | rxTeardown o fr =>
    cases hstep
    exact congrArg TwtAdapter.view (if_pos (by simp [hno.active]))
  | setupTimer o =>
    simp [TwtSys.step, hno.timer] at hstep
  | associate o he tr sec =>
    cases hstep
    cases hlink'
  | eapol4Confirm o =>
    cases hstep
    obtain ⟨hview, -, -⟩ := s.adapter.restoreUserPs_spec o
    have hax : (s.adapter.restoreUserPs o).axEnabled = false :=
      (congrArg SessionView.axEnabled hview).trans hax
    exact (congrArg TwtAdapter.view (TwtAdapter.setupAfterConnection_noAx hax)).trans hview
  | disassociate =>
    cases hstep
    exact congrArg (SessionView.mk _ _ _ _ · _ _) hax.symm
  | powerSave act =>
    obtain ⟨p, -, rfl⟩ := Option.map_eq_some_iff.1 hstep
    rfl

theorem TwtInv.step {s s' : TwtSys} {act : TwtAct} (hinv : TwtInv s) (hdisc : TwtDiscipline s act)
    (hstep : s.step act = some s') : TwtInv s' := by
  -- the discipline is what the general step lemma asks for
  have hview : s'.adapter.view.Agrees := by
    refine SessionView.kept_agrees.step hinv.view (fun o he tr sec hact => ?_)
      (fun hsends v el hv hactive hprogress => hv.send nofun fun _ => ?_) hstep
    · subst hact
      exact hinv.view.newAssociation hdisc.2
    · have hbusy := hdisc.1 hsends
      simp only [TwtAdapter.busy, Bool.or_eq_false_iff] at hbusy
      exact ⟨hactive.trans hbusy.1, hprogress.trans hbusy.2⟩
  by_cases hact : act = .disassociate
  · subst hact
    cases hstep
    have hbusy : s.adapter.busy = false := hdisc.2
    simp only [TwtAdapter.busy, Bool.or_eq_false_iff] at hbusy
    refine ⟨hview, fun _ => ⟨hbusy.1, hbusy.2, ?_⟩, fun _ => rfl⟩
    exact Bool.eq_false_iff.2 fun hpending =>
      absurd (hbusy.2.symm.trans (hinv.view.timer hpending)) nofun
  · -- no other action leads to a disassociated link
    have hlink (h : s'.link = .disassociated) : s.link = .disassociated := by
      cases act with
      | disassociate => exact absurd rfl hact
      | associate o he tr sec => cases hstep; cases h
      | configCmd | rxTeardown | eapol4Confirm => cases hstep; exact h
      | autoConfig | rxSetup | powerSave =>
        obtain ⟨_, -, rfl⟩ := Option.map_eq_some_iff.1 hstep
        exact h
      | setupTimer o =>
        simp only [TwtSys.step] at hstep
        split_ifs at hstep
        cases hstep
        exact h
    refine ⟨hview, fun h => ?_, fun h => ?_⟩
    · exact (hinv.noSession (hlink h)).of_view_eq (hinv.view_eq (hlink h) h hdisc hstep)
    · exact (congrArg SessionView.axEnabled (hinv.view_eq (hlink h) h hdisc hstep)).trans
        (hinv.noAx (hlink h))

/-- In every run whose steps keep the condition, host and device agree on the session, sessions are
asked for one at a time, and none is left after a disassociation. -/
theorem twtSessionOk_of_discipline {s : TwtSys} (h : TwtSys.system.ReachableVia TwtDiscipline s) :
    TwtSessionOk s := by
  have hinv : TwtInv s := by
    refine h.invariant TwtInv ?_ fun s act s' hinv hdisc hstep => hinv.step hdisc hstep
    rintro s ⟨hlink, hactive, -, htimer, -, hsetups, hconfigs⟩
    have hnone (r : SentSetup) : r ∉ s.adapter.view.setups := by
      show r ∉ s.adapter.setups
      simp [hsetups]
    refine ⟨⟨⟨fun r hr => absurd hr (hnone r), fun hpending => ?_⟩, ?_,
      fun r hr => absurd hr (hnone r)⟩, fun h => ?_, fun h => ?_⟩
    · exact absurd (htimer.symm.trans hpending) nofun
    · simp [TwtAdapter.view, SessionView.hostSession, SessionView.deviceSession, hactive, hconfigs]
    · exact absurd (hlink.symm.trans h) nofun
    · exact absurd (hlink.symm.trans h) nofun
  exact ⟨s.adapter.sessionAgrees_iff.2 hinv.view.session, hinv.view.requests, hinv.noSession⟩

/-- A session is set up with one retry and torn down by the access point; the station leaves and
comes back, and the stored configuration is asked for again. -/
def wholeSchedule : List TwtAct :=
  [.associate .good true (some true) true, .eapol4Confirm .good, .configCmd .good sampleConfig,
    .setupTimer .good, .rxSetup .good sampleGrant, .rxTeardown .good ⟨1, 0, 0⟩, .disassociate,
    .associate .good true none true, .eapol4Confirm .good, .rxSetup .good sampleGrant]

/-- The state at the end of `wholeSchedule`, with a second session. -/
def wholeState : TwtSys := (TwtSys.system.runVia TwtDiscipline .start wholeSchedule).get rfl

/-- The condition is kept by a run through two associations, each with a session. -/
theorem twtSessionOk_wholeState :
    wholeState.adapter.twtSessionActive = true ∧ TwtSessionOk wholeState :=
  ⟨rfl, twtSessionOk_of_discipline (TransitionSystem.reachableVia_get TwtSys.init_start rfl)⟩

/-! ## Runs that break the condition -/

theorem not_requestsSeparate_of_send {a a' : TwtAdapter} {el : TwtElement} (hbusy : a.busy = true)
    (hview : a'.view = a.view.send .request el) : ¬ a'.RequestsSeparate := by
  intro hsep
  have hsetups : a'.setups = (a.view.send .request el).setups := congrArg SessionView.setups hview
  have hlast : a.twtSessionActive = false ∧ a.twtSessionInProgress = false :=
    hsep ⟨.request, ⟨1, el⟩, a.twtSessionActive, a.twtSessionInProgress⟩
      (hsetups ▸ List.mem_append_right _ (List.mem_singleton_self _)) rfl
  simp [TwtAdapter.busy, hlast] at hbusy

/-- A request that is queued while there is a session. -/
theorem not_requestsSeparate_of_queued {a b : TwtAdapter} {o : Outcomes} (hbusy : a.busy = true)
    (hactive : b.twtSessionActive = a.twtSessionActive)
    (hprogress : b.twtSessionInProgress = a.twtSessionInProgress) (hqueued : o.setupQueued = true) :
    ¬ (b.sendTwtSetupFrame o .request false none).RequestsSeparate := by
  obtain ⟨el, hview⟩ := b.view_sendTwtSetupFrame o .request false none nofun
  rw [hqueued, if_pos rfl] at hview
  refine not_requestsSeparate_of_send ?_ hview
  rw [TwtAdapter.busy, hactive, hprogress]
  exact hbusy

theorem sendsRequest_damage {s s' : TwtSys} {act : TwtAct} (hsends : s.sendsRequest act = true)
    (hbusy : s.adapter.busy = true) (hstep : s.step act = some s') :
    ¬ s'.adapter.RequestsSeparate := by
  cases act with
  | autoConfig o user =>
    obtain ⟨a', hauto, rfl⟩ := Option.map_eq_some_iff.1 hstep
    obtain ⟨cfg, -, rfl⟩ := Option.map_eq_some_iff.1 hauto
    simp only [TwtSys.sendsRequest, Bool.and_eq_true, bne_iff_ne] at hsends
    have hview := s.adapter.view_storeAutoConfig user cfg
    have hon : (s.adapter.storeAutoConfig user cfg).axEnabled = true :=
      (congrArg SessionView.axEnabled hview).trans hsends.1.1
    show ¬ ((s.adapter.storeAutoConfig user cfg).applyAutoConfig o user).RequestsSeparate
    rw [TwtAdapter.applyAutoConfig, hon, if_neg nofun, if_pos hsends.1.2]
    exact not_requestsSeparate_of_queued hbusy (congrArg SessionView.active hview)
      (congrArg SessionView.inProgress hview) hsends.2
  | associate o he tr sec =>
    cases hstep
    simp only [TwtSys.sendsRequest, Bool.and_eq_true, Bool.not_eq_true', bne_iff_ne] at hsends
    obtain ⟨⟨⟨⟨rfl, rfl⟩, hsupport⟩, henable⟩, hqueued⟩ := hsends
    show ¬ ((s.adapter.bssInfoAssoc true tr).setupAfterConnection o).RequestsSeparate
    rw [TwtAdapter.setupAfterConnection, if_pos ⟨rfl, hsupport, henable⟩]
    exact not_requestsSeparate_of_queued hbusy rfl rfl hqueued
  | eapol4Confirm o =>
    cases hstep
    simp only [TwtSys.sendsRequest, Bool.and_eq_true, bne_iff_ne] at hsends
    obtain ⟨⟨⟨hax, hsupport⟩, henable⟩, hqueued⟩ := hsends
    obtain ⟨hview, happs, hcfg⟩ := s.adapter.restoreUserPs_spec o
    have hon : (s.adapter.restoreUserPs o).axEnabled = true :=
      (congrArg SessionView.axEnabled hview).trans hax
    show ¬ ((s.adapter.restoreUserPs o).setupAfterConnection o).RequestsSeparate
    rw [TwtAdapter.setupAfterConnection,
      if_pos ⟨hon, happs.trans hsupport, hcfg.symm ▸ henable⟩]
    exact not_requestsSeparate_of_queued hbusy (congrArg SessionView.active hview)
      (congrArg SessionView.inProgress hview) hqueued
  | configCmd | rxSetup | rxTeardown | setupTimer | disassociate | powerSave => cases hsends

/-- A session that is active although the device has been told of none. -/
theorem not_sessionAgrees_of_no_config {a : TwtAdapter} (hactive : a.twtSessionActive = true)
    (hconfigs : a.configs = []) : ¬ a.SessionAgrees := by
  intro hagrees
  obtain ⟨fr, hlast, -⟩ := (hagrees a.twtActiveSessionFlowId).1 ⟨hactive, rfl⟩
  simp [hconfigs] at hlast

/-- Each step that breaks the condition leads from a state in order to one that is not. -/
theorem not_twtSessionOk_of_not_discipline {s s' : TwtSys} {act : TwtAct} (hok : TwtSessionOk s)
    (hdisc : ¬ TwtDiscipline s act) (hstep : s.step act = some s') : ¬ TwtSessionOk s' := by
  intro hok'
  -- either a request meets a session, or a session is left behind
  by_cases hsends : s.sendsRequest act = true ∧ s.adapter.busy = true
  · exact sendsRequest_damage hsends.1 hsends.2 hstep hok'.separate
  · have hstrands : s.strandsSession act = true := by
      by_contra hstrands
      refine hdisc ⟨fun h => ?_, Bool.eq_false_iff.2 hstrands⟩
      exact Bool.eq_false_iff.2 fun hbusy => hsends ⟨h, hbusy⟩
    cases act with
    | associate o he tr sec =>
      cases hstep
      have hnew : (s.adapter.bssInfoAssoc he tr).view.active = true ∧
          (s.adapter.bssInfoAssoc he tr).view.configs = [] := ⟨hstrands, rfl⟩
      -- the setup frame of an open network changes neither
      have hactive : (s.adapter.associate o he tr sec).view.active = true ∧
          (s.adapter.associate o he tr sec).view.configs = [] := by
        simp only [TwtAdapter.associate]
        split_ifs
        · exact hnew
        · exact Kept.setupAfterConnection (P := fun v => v.active = true ∧ v.configs = []) hnew
            fun _ _ _ _ _ => hnew
      exact not_sessionAgrees_of_no_config hactive.1 hactive.2 hok'.agrees
    | disassociate =>
      cases hstep
      have hno := hok'.noSession rfl
      have hbusy : s.adapter.busy = true := hstrands
      have hidle : s.adapter.busy = false := Bool.or_eq_false_iff.2 ⟨hno.active, hno.inProgress⟩
      exact absurd (hidle.symm.trans hbusy) nofun
    | rxSetup o fr =>
      obtain ⟨a', hrx, rfl⟩ := Option.map_eq_some_iff.1 hstep
      simp only [TwtSys.strandsSession, Bool.and_eq_true, decide_eq_true_eq] at hstrands
      have hno := hok.noSession hstrands.1
      have hdecision := TwtAdapter.rxTwtSetup_noSession hno.active hno.inProgress hrx
      rw [if_pos hstrands.2] at hdecision
      exact absurd ((hok'.noSession hstrands.1).active.symm.trans hdecision) nofun
    | configCmd | autoConfig | rxTeardown | setupTimer | eapol4Confirm | powerSave => cases hstrands

end Twt
