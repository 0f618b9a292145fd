import RsiDriver.Twt.Negotiation

/-!
# Target wake time: power save during a negotiation

`send_twt_setup_frame` disables power save before the frame is queued, and sets `twt_ps_disable`;
the response and the last expiry of the timer enable it again. So a frame that cannot be queued
leaves power save disabled without a negotiation, or without the timer that would end it. A proposal
of the access point goes through the same function while the caller already enables power save, and
the negotiation goes on without the suspension.

## Main results

* `psPart_step`: what a step does to power save is what its calls do, in their order;
* `not_psSuspensionOk`: a setup frame that gets no descriptor suspends power save for nobody;
* `psSuspensionOk_of_discipline`: otherwise power save is suspended exactly for a negotiation, and
  each suspension ends with it;
* `not_psSuspensionOk_of_not_discipline`: each step that breaks the condition breaks that.
-/

namespace Twt

open PowerSave

/-! ## The calls -/

/-- A call of `rsi_disable_ps` or `rsi_enable_ps` for a negotiation, with the outcome of its
allocation. -/
inductive PsCall
  | disable (alloc : Bool)
  | enable (alloc : Bool)
deriving DecidableEq

/-- What the calls change: power save, and `twt_ps_disable`. -/
structure PsPart where
  ps : PsAdapter
  twtPsDisable : Bool
deriving DecidableEq

/-- One call, with the assignment that follows it. -/
def PsPart.call (p : PsPart) : PsCall → PsPart
  | .disable alloc => ⟨p.ps.disablePs alloc, true⟩
  | .enable alloc => ⟨p.ps.enablePs alloc, false⟩

/-- `send_twt_setup_frame` finds power save enabled. -/
def Outcomes.suspends (o : Outcomes) (ps : PsAdapter) : Bool :=
  o.vif && o.setupSkb && decide (ps.psState = .enabled)

/-- The calls of `send_twt_setup_frame`. -/
def PsPart.suspend (p : PsPart) (o : Outcomes) : PsPart :=
  if o.suspends p.ps then p.call (.disable o.disablePs) else p

/-- The fields of the adapter. -/
def TwtAdapter.psPart (a : TwtAdapter) : PsPart := ⟨a.ps, a.twtPsDisable⟩

/-- A session is in progress, its timer is pending. -/
def TwtAdapter.negotiation (a : TwtAdapter) : Bool × Bool :=
  (a.twtSessionInProgress, a.twtSetupTimer.pending)

/-- A response, or an expiry of the timer. -/
def TwtAct.continues : TwtAct → Bool
  | .rxSetup _ _ | .setupTimer _ => true
  | _ => false

namespace TwtSys

/-- Power save as the handler of the action finds it, or leaves it if it is no handler of TWT. -/
def psBefore (s : TwtSys) : TwtAct → PsPart
  | .eapol4Confirm o => (s.adapter.restoreUserPs o).psPart
  | .associate _ _ _ _ => ⟨{ s.adapter.ps with assoc := true }, s.adapter.twtPsDisable⟩
  | .disassociate => ⟨{ s.adapter.ps with assoc := false }, s.adapter.twtPsDisable⟩
  | .powerSave act =>
    ⟨((PsSys.step ⟨s.adapter.ps, s.confirmed⟩ act).map (·.adapter)).getD s.adapter.ps,
      s.adapter.twtPsDisable⟩
  | _ => s.adapter.psPart

/-- The retries of the timer are used up. -/
def retriesUsed (s : TwtSys) : Bool :=
  !decide (s.adapter.twtRetryCountLimit < s.adapter.rsiTwtConfig.twtRetryLimit)

/-- The call of `send_twt_setup_frame` in the step, if there is one. -/
def setupCall (s : TwtSys) : TwtAct → Option Outcomes
  | .configCmd o cfg =>
    if (s.adapter.processTwtSetupCmd cfg).2 ∧ s.adapter.axEnabled ∧ cfg.twtEnable ≠ 0 then some o
    else none
  | .autoConfig o user => if s.adapter.axEnabled ∧ user.twtEnable ≠ 0 then some o else none
  | .rxSetup o fr =>
    if s.adapter.twtSessionInProgress && s.adapter.takesProposal fr then some o else none
  | .setupTimer o => if s.retriesUsed then none else some o
  | .associate o heSupport twtRequester secured =>
    if secured = false ∧ heSupport ∧ twtRequester.getD s.adapter.apSupportTwt ∧
      s.adapter.rsiTwtConfig.twtEnable ≠ 0 then some o
    else none
  | .eapol4Confirm o =>
    if s.adapter.axEnabled ∧ s.adapter.apSupportTwt ∧ s.adapter.rsiTwtConfig.twtEnable ≠ 0 then
      some o
    else none
  | .rxTeardown _ _ | .disassociate | .powerSave _ => none

/-- A setup frame is queued. -/
def queues (s : TwtSys) (act : TwtAct) : Bool := (s.setupCall act).any Outcomes.setupQueued

/-- A response that is not taken up for a proposal, or the last expiry of the timer. -/
def ends (s : TwtSys) : TwtAct → Bool
  | .rxSetup _ fr => !(s.adapter.twtSessionInProgress && s.adapter.takesProposal fr)
  | .setupTimer _ => s.retriesUsed
  | _ => false

/-- Power save is disabled. -/
def suspends (s : TwtSys) (act : TwtAct) : Bool :=
  (s.setupCall act).any fun o => o.suspends (s.psBefore act).ps

/-- A response, or the last expiry of the timer, enables power save again; the callers do not ask
whether the negotiation goes on. -/
def resumes (s : TwtSys) : TwtAct → Bool
  | .rxSetup o fr =>
    s.adapter.twtSessionInProgress && (s.adapter.twtPsDisable || s.suspends (.rxSetup o fr))
  | .setupTimer _ => s.retriesUsed && s.adapter.twtPsDisable
  | _ => false

/-- The calls of the step, in their order. -/
def psCalls (s : TwtSys) (act : TwtAct) : List PsCall :=
  (match s.setupCall act with
    | some o => if s.suspends act then [.disable o.disablePs] else []
    | none => []) ++
  match act with
  | .rxSetup o _ | .setupTimer o => if s.resumes act then [.enable o.enablePs] else []
  | _ => []

end TwtSys

/-! ## What the handlers do to power save -/

namespace TwtAdapter

theorem psPart_suspendPs (a : TwtAdapter) (o : Outcomes) (hvif : o.vif = true)
    (hskb : o.setupSkb = true) : (a.suspendPs o).psPart = a.psPart.suspend o := by
  unfold suspendPs PsPart.suspend Outcomes.suspends
  by_cases henabled : a.ps.psState = .enabled
  · have hps : a.psPart.ps.psState = .enabled := henabled
    rw [hvif, hskb, decide_eq_true hps, if_pos henabled]
    rfl
  · have hps : ¬ a.psPart.ps.psState = .enabled := henabled
    rw [decide_eq_false hps, Bool.and_false, if_neg henabled]
    rfl

/-- Power save is disabled before anything else can fail but the allocation. -/
theorem psPart_sendTwtSetupFrame (a : TwtAdapter) (o : Outcomes) (cause : SetupCause)
    (update : Bool) (resp : Option TwtSetupFrame) :
    (a.sendTwtSetupFrame o cause update resp).psPart = a.psPart.suspend o := by
  cases hvif : o.vif with
  | false => simp [sendTwtSetupFrame, PsPart.suspend, Outcomes.suspends, hvif]
  | true =>
    cases hskb : o.setupSkb with
    | false => simp [sendTwtSetupFrame, PsPart.suspend, Outcomes.suspends, hskb]
    | true =>
      have hps := a.psPart_suspendPs o hvif hskb
      simp only [sendTwtSetupFrame, hvif, hskb, Bool.not_true, Bool.or_self, Bool.false_eq_true,
        if_false]
      cases (a.suspendPs o).rsiTwtConfig.setupElement update resp with
      | none => exact hps
      | some el => split_ifs <;> exact hps

theorem psPart_resumePs (a : TwtAdapter) (o : Outcomes) :
    (a.resumePs o).psPart =
      if a.twtPsDisable then a.psPart.call (.enable o.enablePs) else a.psPart := by
  unfold resumePs
  split_ifs <;> rfl

theorem psPart_sendTwtTeardownFrame (a : TwtAdapter) (o : Outcomes) (f n : BitVec 8) :
    (a.sendTwtTeardownFrame o f n).psPart = a.psPart := by
  unfold sendTwtTeardownFrame
  split_ifs <;> rfl

theorem psPart_sendSetupDetails (a : TwtAdapter) (o : Outcomes) (fr : TwtSetupFrame) :
    (a.sendSetupDetails o fr).psPart = a.psPart := by
  unfold sendSetupDetails
  split_ifs <;> rfl

theorem psPart_sendTeardownDetails (a : TwtAdapter) (o : Outcomes) (flowId : BitVec 8) :
    (a.sendTeardownDetails o flowId).psPart = a.psPart := by
  unfold sendTeardownDetails
  split_ifs <;> rfl

theorem psPart_teardownGranted (a : TwtAdapter) (o : Outcomes) (fr : TwtSetupFrame) :
    (a.teardownGranted o fr).psPart = a.psPart := by
  simp only [teardownGranted]
  split_ifs
  · exact (psPart_sendTeardownDetails _ o _).trans (a.psPart_sendTwtTeardownFrame o _ _)
  · exact a.psPart_sendTwtTeardownFrame o _ _

theorem psPart_teardownByCommand (a : TwtAdapter) (o : Outcomes) :
    (a.teardownByCommand o).psPart = a.psPart :=
  (psPart_sendTeardownDetails _ o _).trans (a.psPart_sendTwtTeardownFrame o _ _)

theorem psPart_stopRetries (a : TwtAdapter) : a.stopRetries.psPart = a.psPart := by
  unfold stopRetries
  split_ifs <;> rfl

/-- A frame that is queued starts or renews the negotiation. -/
theorem negotiation_sendTwtSetupFrame (a : TwtAdapter) (o : Outcomes) (cause : SetupCause) :
    (a.sendTwtSetupFrame o cause false none).negotiation =
      (a.twtSessionInProgress || o.setupQueued, a.twtSetupTimer.pending || o.setupQueued) := by
  obtain ⟨cfg, hview, -, -⟩ := a.retryView_sendTwtSetupFrame o cause false none nofun
  have hnegotiation : (a.sendTwtSetupFrame o cause false none).negotiation =
      ((a.retryView.trySend o).inProgress, (a.retryView.trySend o).timerPending) :=
    congrArg (fun v : RetryView => (v.inProgress, v.timerPending)) hview
  rw [hnegotiation, RetryView.trySend]
  cases o.setupQueued with
  | false => simp [retryView]
  | true => simp [RetryView.send]

/-! ### A response -/

variable {a a' : TwtAdapter} {o : Outcomes} {fr : TwtSetupFrame}

/-- Only the setup frame that answers a proposal touches power save. -/
def SuspendsForProposal (a : TwtAdapter) (o : Outcomes) (rsp : RspProc) : Prop :=
  rsp.adapter.psPart = if rsp.triggerSetupAgain then a.psPart.suspend o else a.psPart

theorem suspendsForProposal_respToRequest :
    a.SuspendsForProposal o (a.respToRequest o fr) := by
  unfold respToRequest
  split_ifs
  · exact psPart_sendSetupDetails _ o fr
  · exact psPart_sendTwtSetupFrame _ o .proposal true (some fr)

theorem suspendsForProposal_respToDemand :
    a.SuspendsForProposal o (a.respToDemand o fr) := by
  unfold respToDemand
  split_ifs
  · rfl
  · exact psPart_sendSetupDetails _ o fr
  · exact psPart_sendTwtSetupFrame _ o .proposal true (some fr)
  · rfl

theorem suspendsForProposal_respByReqType {rsp : RspProc}
    (hrsp : a.respByReqType o fr = some rsp) : a.SuspendsForProposal o rsp := by
  simp only [respByReqType] at hrsp
  split_ifs at hrsp
  · cases hrsp
    rfl
  · cases hrsp
    exact suspendsForProposal_respToRequest
  · obtain ⟨outOfTol, -, rfl⟩ := Option.map_eq_some_iff.1 hrsp
    cases outOfTol with
    | true => rfl
    | false => exact suspendsForProposal_respToRequest
  · cases hrsp
    exact suspendsForProposal_respToDemand
  · cases hrsp
    rfl
  · cases hrsp
    rfl

theorem psPart_rspProcDone (rsp : RspProc) (o : Outcomes) (fr : TwtSetupFrame) :
    (rspProcDone rsp o fr).psPart = rsp.adapter.psPart := by
  simp only [rspProcDone]
  split_ifs
  · exact rsp.adapter.psPart_teardownGranted o fr
  · rfl
  · exact rsp.adapter.psPart_teardownGranted o fr
  · rfl

theorem psPart_mgmtProcessTwtSetupResp (hinv : a.retryView.Inv)
    (hproc : a.mgmtProcessTwtSetupResp o fr = some a') :
    a'.psPart = if a.takesProposal fr then a.psPart.suspend o else a.psPart := by
  have hidle : a.stopRetries.retryView.stop = a.stopRetries.retryView := by
    rw [retryView_stopRetries hinv]
    rfl
  rw [← takesProposal_stopRetries, ← a.psPart_stopRetries]
  simp only [mgmtProcessTwtSetupResp] at hproc
  split_ifs at hproc with hvalid
  · cases hproc
    rw [takesProposal, hvalid, psPart_rspProcDone]
    rfl
  · obtain ⟨rsp, hrsp, rfl⟩ := Option.map_eq_some_iff.1 hproc
    have hsuspends : a.stopRetries.SuspendsForProposal o rsp :=
      suspendsForProposal_respByReqType hrsp
    have hanswers := answers_respByReqType (Bool.eq_false_iff.2 hvalid) hidle hrsp
    -- the setup frame is sent again just for a proposal that is taken up
    have hagain : rsp.triggerSetupAgain = a.stopRetries.takesProposal fr := by
      cases htaken : a.stopRetries.takesProposal fr with
      | true => exact (hanswers.taken htaken).1
      | false => exact (hanswers.other htaken).1
    rw [psPart_rspProcDone, ← hagain]
    exact hsuspends

end TwtAdapter

/-! ### A step -/

namespace TwtAdapter

variable {a a' : TwtAdapter} {o : Outcomes} {fr : TwtSetupFrame}

/-- A setup frame: a proposal that is taken up suspends power save, and the caller resumes it. -/
theorem psPart_rxTwtSetup (hinv : a.retryView.Inv) (hrx : a.rxTwtSetup o fr = some a') :
    a'.psPart =
      if a.twtSessionInProgress then
        let p := if a.takesProposal fr then a.psPart.suspend o else a.psPart
        if p.twtPsDisable then p.call (.enable o.enablePs) else p
      else a.psPart := by
  simp only [rxTwtSetup] at hrx
  split_ifs at hrx with hprogress hsupport hactive henable hvalid hflow
  · obtain ⟨b, hproc, rfl⟩ := Option.map_eq_some_iff.1 hrx
    have hpart := psPart_mgmtProcessTwtSetupResp hinv hproc
    have hflag : b.twtPsDisable = b.psPart.twtPsDisable := rfl
    rw [if_pos hprogress, psPart_resumePs, hflag, hpart]
  all_goals rw [if_neg hprogress]
  · cases hrx
    exact a.psPart_sendTwtTeardownFrame o _ _
  · cases hrx
    exact a.psPart_sendSetupDetails o fr
  · have hother : a.takesProposal fr = false :=
      Bool.eq_false_iff.2 (not_takesProposal_accept hsupport.2)
    rw [psPart_mgmtProcessTwtSetupResp hinv hrx, hother]
    rfl
  · cases hrx
    exact a.psPart_sendTwtTeardownFrame o _ _
  · have hother : a.takesProposal fr = false :=
      Bool.eq_false_iff.2 (not_takesProposal_accept hsupport.2)
    rw [psPart_mgmtProcessTwtSetupResp hinv hrx, hother]
    rfl
  · cases hrx
    rfl

/-- `a'` is left behind by a handler that finds power save as `p`: it has called
`send_twt_setup_frame` with the outcomes `call`, or not at all. -/
def SetupFrom (a : TwtAdapter) (p : PsPart) (call : Option Outcomes) (a' : TwtAdapter) : Prop :=
  ∃ b : TwtAdapter, b.psPart = p ∧ b.negotiation = a.negotiation ∧
    a' = match call with
      | some o => b.sendTwtSetupFrame o .request false none
      | none => b

theorem negotiation_eq_of_view (hview : a'.view = a.view) : a'.negotiation = a.negotiation :=
  congrArg (fun v : SessionView => (v.inProgress, v.timerPending)) hview

theorem negotiation_teardownByCommand (a : TwtAdapter) (o : Outcomes) :
    (a.teardownByCommand o).negotiation = a.negotiation :=
  congrArg (fun v : RetryView => (v.inProgress, v.timerPending))
    ((retryView_sendTeardownDetails _ o _).trans (a.retryView_sendTwtTeardownFrame o _ _))

theorem setupFrom_twtConfigCmd (a : TwtAdapter) (o : Outcomes) (cfg : TwtConfig) :
    a.SetupFrom a.psPart
      (if (a.processTwtSetupCmd cfg).2 ∧ a.axEnabled ∧ cfg.twtEnable ≠ 0 then some o else none)
      (a.twtConfigCmd o cfg) := by
  obtain ⟨hview, -, hstored⟩ := a.processTwtSetupCmd_spec cfg
  have hax : (a.processTwtSetupCmd cfg).1.axEnabled = a.axEnabled :=
    congrArg SessionView.axEnabled hview
  have hpart : (a.processTwtSetupCmd cfg).1.psPart = a.psPart := by
    simp only [processTwtSetupCmd]
    split_ifs <;> rfl
  have hnegotiation := negotiation_eq_of_view hview
  simp only [twtConfigCmd, hax]
  cases haccepted : (a.processTwtSetupCmd cfg).2 with
  | false => exact ⟨_, hpart, hnegotiation, by simp⟩
  | true =>
    rw [hstored haccepted]
    cases a.axEnabled with
    | false => exact ⟨_, hpart, hnegotiation, by simp⟩
    | true =>
      by_cases henable : cfg.twtEnable = 0
      · refine ⟨(a.processTwtSetupCmd cfg).1.teardownByCommand o, ?_, ?_, by simp [henable]⟩
        · exact (psPart_teardownByCommand _ o).trans hpart
        · exact (negotiation_teardownByCommand _ o).trans hnegotiation
      · refine ⟨_, hpart, hnegotiation, ?_⟩
        have hcall : (if true = true ∧ true = true ∧ cfg.twtEnable ≠ 0 then some o else none) =
            some o := if_pos ⟨rfl, rfl, henable⟩
        rw [hcall]
        simp only [Bool.not_true, Bool.false_eq_true, if_false]
        exact if_pos henable

theorem setupFrom_twtAutoConfig {user : TwtSelection} (hauto : a.twtAutoConfig o user = some a') :
    a.SetupFrom a.psPart (if a.axEnabled ∧ user.twtEnable ≠ 0 then some o else none) a' := by
  obtain ⟨cfg, -, rfl⟩ := Option.map_eq_some_iff.1 hauto
  have hview := a.view_storeAutoConfig user cfg
  have hax : (a.storeAutoConfig user cfg).axEnabled = a.axEnabled :=
    congrArg SessionView.axEnabled hview
  have hpart : (a.storeAutoConfig user cfg).psPart = a.psPart := by
    cases cfg <;> rfl
  have hnegotiation := negotiation_eq_of_view hview
  unfold applyAutoConfig
  by_cases hon : a.axEnabled = true
  · have hgoes : ¬ (!(a.storeAutoConfig user cfg).axEnabled) = true := by
      rw [hax, hon]
      exact Bool.false_ne_true
    rw [if_neg hgoes]
    by_cases henable : user.twtEnable = 0
    · refine ⟨(a.storeAutoConfig user cfg).teardownByCommand o, ?_, ?_, ?_⟩
      · exact (psPart_teardownByCommand _ o).trans hpart
      · exact (negotiation_teardownByCommand _ o).trans hnegotiation
      · rw [if_neg fun hcall : a.axEnabled = true ∧ user.twtEnable ≠ 0 => hcall.2 henable]
        exact if_neg fun hcall => hcall henable
    · refine ⟨{ a.storeAutoConfig user cfg with
        twtAutoConfigEnable := true, twtRetryCountLimit := 0 }, hpart, hnegotiation, ?_⟩
      have hcall : (if a.axEnabled = true ∧ user.twtEnable ≠ 0 then some o else none) = some o :=
        if_pos ⟨hon, henable⟩
      rw [hcall]
      exact if_pos henable
  · refine ⟨_, hpart, hnegotiation, ?_⟩
    rw [if_neg fun hcall : a.axEnabled = true ∧ user.twtEnable ≠ 0 => hon hcall.1]
    have hstops : (!(a.storeAutoConfig user cfg).axEnabled) = true := by
      rw [hax, Bool.eq_false_iff.2 hon]
      rfl
    exact if_pos hstops

theorem setupFrom_setupAfterConnection (a : TwtAdapter) (o : Outcomes) :
    a.SetupFrom a.psPart
      (if a.axEnabled ∧ a.apSupportTwt ∧ a.rsiTwtConfig.twtEnable ≠ 0 then some o else none)
      (a.setupAfterConnection o) := by
  unfold setupAfterConnection
  split_ifs <;> exact ⟨a, rfl, rfl, rfl⟩

theorem setupFrom_associate (a : TwtAdapter) (o : Outcomes) (heSupport : Bool)
    (twtRequester : Option Bool) (secured : Bool) :
    a.SetupFrom ⟨{ a.ps with assoc := true }, a.twtPsDisable⟩
      (if secured = false ∧ heSupport ∧ twtRequester.getD a.apSupportTwt ∧
        a.rsiTwtConfig.twtEnable ≠ 0 then some o else none)
      (a.associate o heSupport twtRequester secured) := by
  simp only [associate]
  cases secured with
  | true => exact ⟨a.bssInfoAssoc heSupport twtRequester, rfl, rfl, by simp⟩
  | false =>
    obtain ⟨b, hpart, hnegotiation, hsent⟩ :=
      (a.bssInfoAssoc heSupport twtRequester).setupFrom_setupAfterConnection o
    refine ⟨b, hpart, hnegotiation, ?_⟩
    rw [if_neg Bool.false_ne_true, hsent]
    cases heSupport <;> simp [bssInfoAssoc]

theorem setupFrom_eapol4Confirm (a : TwtAdapter) (o : Outcomes) :
    a.SetupFrom (a.restoreUserPs o).psPart
      (if a.axEnabled ∧ a.apSupportTwt ∧ a.rsiTwtConfig.twtEnable ≠ 0 then some o else none)
      (a.eapol4Confirm o) := by
  obtain ⟨hview, hsupport, hconfig⟩ := a.restoreUserPs_spec o
  have hax : (a.restoreUserPs o).axEnabled = a.axEnabled := congrArg SessionView.axEnabled hview
  have hsetup := (a.restoreUserPs o).setupFrom_setupAfterConnection o
  rw [hax, hsupport, hconfig] at hsetup
  obtain ⟨b, hpart, hnegotiation, hsent⟩ := hsetup
  exact ⟨b, hpart, hnegotiation.trans (negotiation_eq_of_view hview), hsent⟩

theorem setupFrom_rxTwtTeardown (a : TwtAdapter) (o : Outcomes) (fr : TwtTeardownFrame) :
    a.SetupFrom a.psPart none (a.rxTwtTeardown o fr) := by
  have hdetails (flowId : BitVec 8) :
      (a.sendTeardownDetails o flowId).negotiation = a.negotiation :=
    congrArg (fun v : RetryView => (v.inProgress, v.timerPending))
      (a.retryView_sendTeardownDetails o flowId)
  refine ⟨_, ?_, ?_, rfl⟩ <;> unfold rxTwtTeardown <;> split_ifs
  · rfl
  · exact a.psPart_sendTeardownDetails o _
  · exact a.psPart_sendTeardownDetails o _
  · rfl
  · rfl
  · exact hdetails 0xFF
  · exact hdetails (fr.flowId.setWidth 8)
  · rfl

end TwtAdapter

namespace TwtSys

variable {s s' : TwtSys} {act : TwtAct}

/-- A step that only calls `send_twt_setup_frame`. -/
theorem foldl_psCalls_of_not_resumes (hresumes : s.resumes act = false) :
    (s.psCalls act).foldl PsPart.call (s.psBefore act) =
      match s.setupCall act with
      | some o => (s.psBefore act).suspend o
      | none => s.psBefore act := by
  have hcalls : s.psCalls act = match s.setupCall act with
      | some o => if s.suspends act then [.disable o.disablePs] else []
      | none => [] := by
    unfold psCalls
    cases act <;> simp only [hresumes, Bool.false_eq_true, if_false, List.append_nil]
  rw [hcalls]
  cases hcall : s.setupCall act with
  | none => rfl
  | some o =>
    have hsuspends : s.suspends act = o.suspends (s.psBefore act).ps := by
      rw [suspends, hcall]
      rfl
    simp only [hsuspends, PsPart.suspend]
    split_ifs <;> rfl

/-- A response, in the order of its calls. -/
theorem foldl_psCalls_rxSetup {o : Outcomes} {fr : TwtSetupFrame}
    (hprogress : s.adapter.twtSessionInProgress = true) :
    (s.psCalls (.rxSetup o fr)).foldl PsPart.call (s.psBefore (.rxSetup o fr)) =
      let p := if s.adapter.takesProposal fr then s.adapter.psPart.suspend o else s.adapter.psPart
      if p.twtPsDisable then p.call (.enable o.enablePs) else p := by
  have hcall : s.setupCall (.rxSetup o fr) =
      if s.adapter.takesProposal fr then some o else none := by
    simp only [setupCall, hprogress, Bool.true_and]
  simp only [psCalls, resumes, suspends, hcall, hprogress, Bool.true_and]
  show List.foldl PsPart.call s.adapter.psPart _ = _
  have hflag : s.adapter.twtPsDisable = s.adapter.psPart.twtPsDisable := rfl
  have hbefore : s.psBefore (.rxSetup o fr) = s.adapter.psPart := rfl
  rw [hbefore, hflag]
  cases s.adapter.takesProposal fr with
  | false => cases hdisable : s.adapter.psPart.twtPsDisable <;> simp [hdisable]
  | true =>
    cases hsuspends : o.suspends s.adapter.psPart.ps <;>
      cases hdisable : s.adapter.psPart.twtPsDisable <;>
        simp [hdisable, hsuspends, PsPart.suspend, PsPart.call]


/-- Commands, connections and what is none of TWT: one call of `send_twt_setup_frame`, or none. -/
theorem setupFrom_step (hother : act.continues = false) (hstep : s.step act = some s') :
    s.adapter.SetupFrom (s.psBefore act) (s.setupCall act) s'.adapter := by
  cases act with
  | configCmd o cfg =>
    cases hstep
    exact s.adapter.setupFrom_twtConfigCmd o cfg
  | autoConfig o user =>
    obtain ⟨a', hauto, rfl⟩ := Option.map_eq_some_iff.1 hstep
    exact TwtAdapter.setupFrom_twtAutoConfig hauto
  | rxTeardown o fr =>
    cases hstep
    exact s.adapter.setupFrom_rxTwtTeardown o fr
  | rxSetup | setupTimer => cases hother
  | associate o he tr sec =>
    cases hstep
    exact s.adapter.setupFrom_associate o he tr sec
  | eapol4Confirm o =>
    cases hstep
    exact s.adapter.setupFrom_eapol4Confirm o
  | disassociate =>
    cases hstep
    exact ⟨s.adapter.disassociate, rfl, rfl, rfl⟩
  | powerSave act =>
    obtain ⟨p, hp, rfl⟩ := Option.map_eq_some_iff.1 hstep
    refine ⟨{ s.adapter with ps := p.adapter }, ?_, rfl, rfl⟩
    show PsPart.mk p.adapter _ = PsPart.mk (Option.getD (Option.map _ (PsSys.step _ act)) _) _
    rw [hp]
    rfl

/-- An expiry of the timer. -/
theorem psPart_setupTimer {o : Outcomes} :
    (s.adapter.delSetupTimer.twtSetupTimerCallback o).psPart =
      (s.psCalls (.setupTimer o)).foldl PsPart.call (s.psBefore (.setupTimer o)) := by
  cases hused : s.retriesUsed with
  | false =>
    have hresumes : s.resumes (.setupTimer o) = false := by
      simp only [resumes, hused, Bool.false_and]
    have hcall : s.setupCall (.setupTimer o) = some o := by
      simp only [setupCall, hused, Bool.false_eq_true, if_false]
    have hlimit : s.adapter.delSetupTimer.twtRetryCountLimit <
        s.adapter.delSetupTimer.rsiTwtConfig.twtRetryLimit := by
      simpa [retriesUsed, TwtAdapter.delSetupTimer] using hused
    rw [foldl_psCalls_of_not_resumes hresumes, hcall, TwtAdapter.twtSetupTimerCallback,
      if_pos hlimit]
    exact TwtAdapter.psPart_sendTwtSetupFrame _ o .retry false none
  | true =>
    have hlimit : ¬ s.adapter.delSetupTimer.twtRetryCountLimit <
        s.adapter.delSetupTimer.rsiTwtConfig.twtRetryLimit := by
      simpa [retriesUsed, TwtAdapter.delSetupTimer] using hused
    have hcalls : s.psCalls (.setupTimer o) =
        if s.adapter.twtPsDisable then [.enable o.enablePs] else [] := by
      simp only [psCalls, setupCall, resumes, hused, if_true, Bool.true_and]
      rfl
    rw [hcalls, TwtAdapter.twtSetupTimerCallback, if_neg hlimit, TwtAdapter.psPart_resumePs]
    show (if s.adapter.twtPsDisable then _ else _) = _
    split_ifs <;> rfl

/-- **What a step does to power save is what its calls do.** -/
theorem psPart_step (hinv : s.adapter.retryView.Inv) (hstep : s.step act = some s') :
    s'.adapter.psPart = (s.psCalls act).foldl PsPart.call (s.psBefore act) := by
  have hother (hresumes : s.resumes act = false) (hother : act.continues = false) :
      s'.adapter.psPart = (s.psCalls act).foldl PsPart.call (s.psBefore act) := by
    obtain ⟨b, hpart, -, hsent⟩ := setupFrom_step hother hstep
    rw [foldl_psCalls_of_not_resumes hresumes, hsent, ← hpart]
    cases s.setupCall act with
    | none => rfl
    | some o => exact b.psPart_sendTwtSetupFrame o .request false none
  cases act with
  | rxSetup o fr =>
    obtain ⟨a', hrx, rfl⟩ := Option.map_eq_some_iff.1 hstep
    have hpart := TwtAdapter.psPart_rxTwtSetup hinv hrx
    cases hprogress : s.adapter.twtSessionInProgress with
    | true =>
      rw [hprogress, if_pos rfl] at hpart
      rw [foldl_psCalls_rxSetup hprogress]
      exact hpart
    | false =>
      rw [hprogress, if_neg Bool.false_ne_true] at hpart
      simp only [psCalls, setupCall, resumes, hprogress, Bool.false_and, Bool.false_eq_true,
        if_false, List.append_nil]
      exact hpart
  | setupTimer o =>
    simp only [step] at hstep
    split_ifs at hstep
    cases hstep
    exact psPart_setupTimer
  | configCmd | autoConfig | rxTeardown | associate | eapol4Confirm | disassociate | powerSave =>
    exact hother rfl rfl

/-- `twt_ps_disable` after the calls. -/
theorem twtPsDisable_step (hinv : s.adapter.retryView.Inv) (hstep : s.step act = some s') :
    s'.adapter.twtPsDisable = (!s.resumes act && (s.adapter.twtPsDisable || s.suspends act)) := by
  have hpart : s'.adapter.twtPsDisable =
      ((s.psCalls act).foldl PsPart.call (s.psBefore act)).twtPsDisable :=
    congrArg PsPart.twtPsDisable (psPart_step hinv hstep)
  have hbefore : (s.psBefore act).twtPsDisable = s.adapter.twtPsDisable := by
    cases act with
    | eapol4Confirm o =>
      show (s.adapter.restoreUserPs o).twtPsDisable = _
      unfold TwtAdapter.restoreUserPs
      split_ifs <;> rfl
    | _ => rfl
  rw [hpart]
  cases hresumes : s.resumes act with
  | false =>
    rw [foldl_psCalls_of_not_resumes hresumes, ← hbefore]
    cases hcall : s.setupCall act with
    | none => simp [suspends, hcall]
    | some o =>
      cases hsuspends : o.suspends (s.psBefore act).ps <;>
        simp [suspends, hcall, hsuspends, PsPart.suspend, PsPart.call]
  | true =>
    -- the call that enables power save is the last one
    have hlast : ∃ calls alloc, s.psCalls act = calls ++ [.enable alloc] := by
      unfold psCalls
      rw [hresumes]
      cases act with
      | rxSetup o fr => exact ⟨_, _, rfl⟩
      | setupTimer o => exact ⟨_, _, rfl⟩
      | _ => cases hresumes
    obtain ⟨calls, alloc, hcalls⟩ := hlast
    rw [hcalls, List.foldl_append]
    rfl

theorem negotiation_rxSetup {a' : TwtAdapter} {o : Outcomes} {fr : TwtSetupFrame}
    (hinv : s.adapter.retryView.Inv) (hrx : s.adapter.rxTwtSetup o fr = some a') :
    a'.negotiation =
      if s.ends (.rxSetup o fr) then (false, false)
      else (s.adapter.twtSessionInProgress || s.queues (.rxSetup o fr),
        s.queues (.rxSetup o fr)) := by
  have hview := TwtAdapter.retryView_rxTwtSetup hinv hrx
  by_cases htaken : (s.adapter.twtSessionInProgress && s.adapter.takesProposal fr) = true
  · rw [if_pos htaken] at hview
    obtain ⟨cfg, hview, -⟩ := hview
    rw [TwtAdapter.retryView_stopRetries hinv] at hview
    have hprogress : s.adapter.twtSessionInProgress = true := (Bool.and_eq_true_iff.1 htaken).1
    have hends : s.ends (.rxSetup o fr) = false := by
      rw [ends, htaken]
      rfl
    have hqueues : s.queues (.rxSetup o fr) = o.setupQueued := by
      rw [queues, setupCall, if_pos htaken]
      rfl
    have hpropose : (s.adapter.retryView.stop.propose o).inProgress = true ∧
        (s.adapter.retryView.stop.propose o).timerPending = o.setupQueued := by
      unfold RetryView.propose RetryView.trySend
      cases o.setupQueued with
      | false => exact ⟨hprogress, rfl⟩
      | true => exact ⟨rfl, rfl⟩
    have hnegotiation : a'.negotiation = ((s.adapter.retryView.stop.propose o).inProgress,
        (s.adapter.retryView.stop.propose o).timerPending) :=
      congrArg (fun v : RetryView => (v.inProgress, v.timerPending)) hview
    rw [hnegotiation, hends, hqueues, hpropose.1, hpropose.2, hprogress]
    rfl
  · rw [if_neg htaken] at hview
    have hends : s.ends (.rxSetup o fr) = true := by
      rw [ends, Bool.eq_false_iff.2 htaken]
      rfl
    rw [hends]
    exact congrArg (fun v : RetryView => (v.inProgress, v.timerPending)) hview

theorem negotiation_setupTimer {o : Outcomes} (hprogress : s.adapter.twtSessionInProgress = true) :
    (s.adapter.delSetupTimer.twtSetupTimerCallback o).negotiation =
      if s.ends (.setupTimer o) then (false, false)
      else (s.adapter.twtSessionInProgress || s.queues (.setupTimer o),
        s.queues (.setupTimer o)) := by
  obtain ⟨cfg, hview, -⟩ := s.adapter.retryView_twtSetupTimerCallback o
  have hnegotiation : (s.adapter.delSetupTimer.twtSetupTimerCallback o).negotiation =
      ((s.adapter.retryView.expire o).inProgress, (s.adapter.retryView.expire o).timerPending) :=
    congrArg (fun v : RetryView => (v.inProgress, v.timerPending)) hview
  rw [hnegotiation, RetryView.expire, queues, setupCall, ends]
  by_cases hlimit : s.adapter.twtRetryCountLimit < s.adapter.rsiTwtConfig.twtRetryLimit
  · have hview : s.adapter.retryView.retries < s.adapter.retryView.config.twtRetryLimit := hlimit
    have hused : s.retriesUsed = false := by
      rw [retriesUsed, decide_eq_true hlimit]
      rfl
    rw [if_pos hview, hused, hprogress, RetryView.trySend]
    cases hqueued : o.setupQueued with
    | false => simp [TwtAdapter.retryView, hprogress, hqueued]
    | true => simp [RetryView.send, hqueued]
  · have hview : ¬ s.adapter.retryView.retries < s.adapter.retryView.config.twtRetryLimit := hlimit
    have hused : s.retriesUsed = true := by
      rw [retriesUsed, decide_eq_false hlimit]
      rfl
    rw [if_neg hview, hused]
    rfl

/-- The negotiation after the step. -/
theorem negotiation_step (hinv : s.adapter.retryView.Inv) (hstep : s.step act = some s') :
    s'.adapter.negotiation =
      if s.ends act then (false, false)
      else (s.adapter.twtSessionInProgress || s.queues act,
        !act.continues && s.adapter.twtSetupTimer.pending || s.queues act) := by
  have hother (hcontinues : act.continues = false) (hends : s.ends act = false) :
      s'.adapter.negotiation =
        if s.ends act then (false, false)
        else (s.adapter.twtSessionInProgress || s.queues act,
          !act.continues && s.adapter.twtSetupTimer.pending || s.queues act) := by
    obtain ⟨b, -, hnegotiation, hsent⟩ := setupFrom_step hcontinues hstep
    rw [hsent, hends, hcontinues, queues, if_neg Bool.false_ne_true]
    cases s.setupCall act with
    | none => simpa [TwtAdapter.negotiation] using hnegotiation
    | some o =>
      obtain ⟨hprogress, hpending⟩ := Prod.mk.inj hnegotiation
      show (b.sendTwtSetupFrame o .request false none).negotiation = _
      rw [TwtAdapter.negotiation_sendTwtSetupFrame, hprogress, hpending]
      rfl
  cases act with
  | rxSetup o fr =>
    obtain ⟨a', hrx, rfl⟩ := Option.map_eq_some_iff.1 hstep
    exact negotiation_rxSetup hinv hrx
  | setupTimer o =>
    simp only [step] at hstep
    split_ifs at hstep with hpending
    cases hstep
    exact negotiation_setupTimer (hinv.timer hpending)
  | configCmd | autoConfig | rxTeardown | associate | eapol4Confirm | disassociate | powerSave =>
    exact hother rfl rfl

end TwtSys

/-! ## Runs -/

/-- A call, and whether the session is in progress after the step that makes it. -/
structure PsEvent where
  call : PsCall
  inProgress : Bool
deriving DecidableEq

/-- Whether a suspension is open after the next call. It is opened while none is, and closed by the
step that ends the negotiation; any other call is out of turn. -/
def PsEvent.next : Option Bool → PsEvent → Option Bool
  | some false, ⟨.disable _, _⟩ => some true
  | some true, ⟨.enable _, false⟩ => some false
  | _, _ => none

/-- Whether the calls of `log` leave a suspension open; `none` if one is out of turn. -/
def openSuspension (log : List PsEvent) : Option Bool := log.foldl PsEvent.next (some false)

/-- A run and its past. -/
structure PsHistory where
  sys : TwtSys
  /-- Power save was enabled when the negotiation in progress was started. -/
  startedEnabled : Bool
  log : List PsEvent
deriving DecidableEq

namespace PsHistory

/-- One action. -/
def step (h : PsHistory) (act : TwtAct) : Option PsHistory :=
  (h.sys.step act).map fun s' =>
    { sys := s'
      startedEnabled :=
        if h.sys.adapter.twtSessionInProgress then h.startedEnabled
        else decide ((h.sys.psBefore act).ps.psState = .enabled)
      log := h.log ++ (h.sys.psCalls act).map fun call => ⟨call, s'.adapter.twtSessionInProgress⟩ }

/-- Runs of a driver that has just been loaded. -/
def system : TransitionSystem PsHistory TwtAct where
  Init h := freshSystem.Init h.sys ∧ h.sys.adapter.twtPsDisable = false ∧ h.log = []
  step := step

end PsHistory

/-- Power save is suspended exactly for a negotiation. -/
structure PsSuspensionOk (h : PsHistory) : Prop where
  /-- A negotiation that was started with power save enabled keeps it suspended. -/
  kept : h.sys.adapter.twtSessionInProgress = true → h.startedEnabled = true →
    h.sys.adapter.twtPsDisable = true
  /-- It is suspended only for a negotiation whose timer will end it. -/
  negotiates : h.sys.adapter.twtPsDisable = true →
    h.sys.adapter.twtSessionInProgress = true ∧ h.sys.adapter.twtSetupTimer.pending = true
  /-- Each suspension is ended once, by the end of the negotiation. -/
  paired : openSuspension h.log = some h.sys.adapter.twtPsDisable

/-- The condition on each step: power save is not disabled a second time; while it is disabled, or
if the step disables it, a setup frame that is asked for is queued or the timer stays pending, and
no proposal is taken up. -/
def SuspensionDiscipline (s : TwtSys) (act : TwtAct) : Prop :=
  (s.suspends act = true → s.adapter.twtPsDisable = false) ∧
    ((s.adapter.twtPsDisable || s.suspends act) = true →
      ((s.setupCall act).isSome = true → s.queues act = true ∨
        act.continues = false ∧ s.adapter.twtSetupTimer.pending = true) ∧
      s.takesProposal act = false)

instance (s : TwtSys) (act : TwtAct) : Decidable (SuspensionDiscipline s act) :=
  inferInstanceAs (Decidable ((_ = _ → _ = _) ∧ (_ = _ → (_ = _ → _ ∨ _ ∧ _) ∧ _)))

/-- The station is associated with power save enabled, and the setup frame gets no descriptor. -/
def droppedSetupSchedule : List TwtAct :=
  [.associate .good true (some true) true, .powerSave (.enablePs true), .powerSave .confirm,
    .configCmd { Outcomes.good with setupDesc := false } sampleConfig]

/-- The start of a run. -/
def PsHistory.start : PsHistory := ⟨.start, false, []⟩

theorem PsHistory.init_start : PsHistory.system.Init PsHistory.start := ⟨Twt.init_start, rfl, rfl⟩

/-- Power save stays disabled for a negotiation that does not take place. -/
theorem not_psSuspensionOk : ¬ ∀ h, PsHistory.system.Reachable h → PsSuspensionOk h := by
  refine TransitionSystem.not_forall_reachable_of_run droppedSetupSchedule PsHistory.init_start rfl
    fun hok => ?_
  have hprogress := (hok.negotiates rfl).1
  cases hprogress

/-! ## Runs that keep the condition -/

section Runs

variable {s s' : TwtSys} {h h' : PsHistory} {act : TwtAct}

theorem PsHistory.step_eq_some (hstep : h.step act = some h') :
    h.sys.step act = some h'.sys ∧
      h'.startedEnabled = (if h.sys.adapter.twtSessionInProgress then h.startedEnabled
        else decide ((h.sys.psBefore act).ps.psState = .enabled)) ∧
      h'.log = h.log ++
        (h.sys.psCalls act).map fun call => ⟨call, h'.sys.adapter.twtSessionInProgress⟩ := by
  obtain ⟨s', hsys, rfl⟩ := Option.map_eq_some_iff.1 hstep
  exact ⟨hsys, rfl, rfl⟩

namespace TwtSys

/-- The same, one field at a time. -/
theorem progress_step (hinv : s.adapter.retryView.Inv) (hstep : s.step act = some s') :
    s'.adapter.twtSessionInProgress =
        (!s.ends act && (s.adapter.twtSessionInProgress || s.queues act)) ∧
      s'.adapter.twtSetupTimer.pending =
        (!s.ends act && (!act.continues && s.adapter.twtSetupTimer.pending || s.queues act)) := by
  have hnegotiation := negotiation_step hinv hstep
  cases hends : s.ends act with
  | false =>
    rw [hends, if_neg Bool.false_ne_true] at hnegotiation
    exact Prod.mk.inj hnegotiation
  | true =>
    rw [hends, if_pos rfl] at hnegotiation
    exact Prod.mk.inj hnegotiation

/-- A step that asks for a setup frame does not end the negotiation. -/
theorem ends_eq_false_of_setupCall (hcall : (s.setupCall act).isSome = true) :
    s.ends act = false := by
  cases act with
  | rxSetup o fr =>
    simp only [setupCall] at hcall
    split_ifs at hcall with htaken
    · rw [ends, htaken]
      rfl
    · cases hcall
  | setupTimer o =>
    simp only [setupCall] at hcall
    split_ifs at hcall with hused
    · cases hcall
    · exact Bool.eq_false_iff.2 hused
  | _ => rfl

theorem isSome_of_suspends (hsuspends : s.suspends act = true) :
    (s.setupCall act).isSome = true := by
  unfold suspends at hsuspends
  cases hcall : s.setupCall act with
  | none => simp [hcall] at hsuspends
  | some o => rfl

/-- A response or an expiry that does not end the negotiation asks for a setup frame. -/
theorem isSome_of_continues (hcontinues : act.continues = true) (hgoes : s.ends act = false) :
    (s.setupCall act).isSome = true := by
  cases act with
  | rxSetup o fr =>
    have htaken : (s.adapter.twtSessionInProgress && s.adapter.takesProposal fr) = true := by
      simpa only [ends, Bool.not_eq_false'] using hgoes
    rw [setupCall, if_pos htaken]
    rfl
  | setupTimer o =>
    have hleft : s.retriesUsed = false := hgoes
    rw [setupCall, hleft]
    rfl
  | _ => cases hcontinues

/-- Unless a proposal is taken up, power save is enabled by the end of the negotiation. -/
theorem resumes_eq_ends (hproposal : s.takesProposal act = false)
    (hnegotiates : s.adapter.twtPsDisable = true → s.adapter.twtSessionInProgress = true) :
    s.resumes act = (s.ends act && s.adapter.twtPsDisable) := by
  cases act with
  | rxSetup o fr =>
    have hends : s.ends (.rxSetup o fr) = true := by
      rw [ends]
      exact congrArg Bool.not hproposal
    have hsuspends : s.suspends (.rxSetup o fr) = false := by
      refine Bool.eq_false_iff.2 fun hsuspends => ?_
      have hgoes := ends_eq_false_of_setupCall (isSome_of_suspends hsuspends)
      exact Bool.noConfusion (hends.symm.trans hgoes)
    rw [resumes, hsuspends, hends, Bool.or_false, Bool.true_and]
    cases hdisable : s.adapter.twtPsDisable with
    | false => exact Bool.and_false _
    | true => rw [hnegotiates hdisable]; rfl
  | setupTimer o => rfl
  | _ => rfl

/-- A frame that is queued has suspended power save, if that was enabled. -/
theorem suspends_of_queues (hqueues : s.queues act = true)
    (henabled : (s.psBefore act).ps.psState = .enabled) : s.suspends act = true := by
  unfold queues at hqueues
  unfold suspends
  cases hcall : s.setupCall act with
  | none => simp [hcall] at hqueues
  | some o =>
    rw [hcall] at hqueues
    simp only [Option.any_some, Outcomes.setupQueued, Bool.and_eq_true] at hqueues
    simp [Outcomes.suspends, hqueues.1.1, hqueues.1.2, henabled]

/-- A step suspends power save first, and resumes it last. -/
theorem psCalls_eq (s : TwtSys) (act : TwtAct) :
    ∃ alloc₁ alloc₂, s.psCalls act = (if s.suspends act then [.disable alloc₁] else []) ++
      if s.resumes act then [.enable alloc₂] else [] := by
  have hsetup : ∃ alloc, (match s.setupCall act with
      | some o => if s.suspends act then [PsCall.disable o.disablePs] else []
      | none => []) = if s.suspends act then [.disable alloc] else [] := by
    cases hcall : s.setupCall act with
    | none =>
      have hsuspends : s.suspends act = false := by simp [suspends, hcall]
      rw [hsuspends]
      exact ⟨true, rfl⟩
    | some o => exact ⟨o.disablePs, rfl⟩
  obtain ⟨alloc, hsetup⟩ := hsetup
  unfold psCalls
  rw [hsetup]
  cases act with
  | rxSetup o fr => exact ⟨alloc, o.enablePs, rfl⟩
  | setupTimer o => exact ⟨alloc, o.enablePs, rfl⟩
  | _ => exact ⟨alloc, true, rfl⟩

end TwtSys

/-- The suspension that is open after the step. -/
theorem PsHistory.openSuspension_step (hstep : h.step act = some h')
    (hpaired : openSuspension h.log = some h.sys.adapter.twtPsDisable) :
    openSuspension h'.log =
      if h.sys.suspends act then
        if h.sys.adapter.twtPsDisable then none
        else if h.sys.resumes act then
          if h'.sys.adapter.twtSessionInProgress then none else some false
        else some true
      else if h.sys.resumes act then
        if h.sys.adapter.twtPsDisable && !h'.sys.adapter.twtSessionInProgress then some false
        else none
      else some h.sys.adapter.twtPsDisable := by
  obtain ⟨-, -, hlog⟩ := PsHistory.step_eq_some hstep
  obtain ⟨alloc₁, alloc₂, hcalls⟩ := h.sys.psCalls_eq act
  unfold openSuspension at hpaired ⊢
  rw [hlog, List.foldl_append, hpaired, hcalls]
  cases h.sys.suspends act <;> cases h.sys.resumes act <;>
    cases h.sys.adapter.twtPsDisable <;> cases h'.sys.adapter.twtSessionInProgress <;> rfl

/-- Without a suspension nothing resumes. -/
theorem TwtSys.resumes_eq_false (hnone : (s.adapter.twtPsDisable || s.suspends act) = false) :
    s.resumes act = false := by
  cases act with
  | rxSetup o fr => rw [TwtSys.resumes, hnone, Bool.and_false]
  | setupTimer o => rw [TwtSys.resumes, (Bool.or_eq_false_iff.1 hnone).1, Bool.and_false]
  | _ => rfl

theorem PsSuspensionOk.resumes_eq (hok : PsSuspensionOk h)
    (hdisc : SuspensionDiscipline h.sys act) :
    h.sys.resumes act = (h.sys.ends act && h.sys.adapter.twtPsDisable) := by
  cases hsuspended : h.sys.adapter.twtPsDisable || h.sys.suspends act with
  | false =>
    rw [TwtSys.resumes_eq_false hsuspended, (Bool.or_eq_false_iff.1 hsuspended).1, Bool.and_false]
  | true =>
    exact TwtSys.resumes_eq_ends (hdisc.2 hsuspended).2 fun hdisable => (hok.negotiates hdisable).1

/-- One step that keeps the condition. -/
theorem PsSuspensionOk.step (hok : PsSuspensionOk h) (hinv : h.sys.adapter.retryView.Inv)
    (hdisc : SuspensionDiscipline h.sys act) (hstep : h.step act = some h') :
    PsSuspensionOk h' := by
  obtain ⟨hsys, hstarted, -⟩ := PsHistory.step_eq_some hstep
  have hresumes := hok.resumes_eq hdisc
  have hdisable := TwtSys.twtPsDisable_step hinv hsys
  obtain ⟨hprogress, hpending⟩ := TwtSys.progress_step hinv hsys
  have hopen := PsHistory.openSuspension_step hstep hok.paired
  rw [hresumes] at hdisable hopen
  cases hends : h.sys.ends act with
  | true =>
    -- the negotiation is over, and nothing is suspended
    have hnone : h.sys.suspends act = false := by
      refine Bool.eq_false_iff.2 fun hsuspends => ?_
      have hgoes := TwtSys.ends_eq_false_of_setupCall (TwtSys.isSome_of_suspends hsuspends)
      exact absurd (hends.symm.trans hgoes) nofun
    simp only [hends, hnone, Bool.or_false, Bool.true_and, Bool.not_and_self, Bool.not_true,
      Bool.false_and] at hdisable hprogress hopen
    refine ⟨fun hp => absurd (hprogress.symm.trans hp) nofun,
      fun hd => absurd (hdisable.symm.trans hd) nofun, ?_⟩
    rw [hopen, hdisable, hprogress]
    cases h.sys.adapter.twtPsDisable <;> rfl
  | false =>
    simp only [hends, Bool.false_and, Bool.not_false, Bool.true_and] at hdisable hprogress hpending
    rw [hends] at hopen
    refine ⟨fun hp hs => ?_, fun hd => ?_, ?_⟩
    · rw [hdisable]
      rw [hstarted] at hs
      cases hbusy : h.sys.adapter.twtSessionInProgress with
      | true =>
        rw [hbusy, if_pos rfl] at hs
        rw [hok.kept hbusy hs, Bool.true_or]
      | false =>
        rw [hbusy, if_neg Bool.false_ne_true] at hs
        rw [hbusy, Bool.false_or] at hprogress
        -- the frame that starts the negotiation has suspended power save
        rw [TwtSys.suspends_of_queues (hprogress.symm.trans hp) (of_decide_eq_true hs),
          Bool.or_true]
    · have hsuspended := hdisable.symm.trans hd
      cases hcall : (h.sys.setupCall act).isSome with
      | true =>
        rcases (hdisc.2 hsuspended).1 hcall with hqueues | ⟨hother, hruns⟩
        · rw [hprogress, hpending, hqueues, Bool.or_true, Bool.or_true]
          exact ⟨rfl, rfl⟩
        · have hbusy : h.sys.adapter.twtSessionInProgress = true := hinv.timer hruns
          rw [hprogress, hpending, hother, hruns, hbusy]
          exact ⟨rfl, rfl⟩
      | false =>
        -- no frame is asked for, and nothing stops the timer
        have hother : act.continues = false := by
          refine Bool.eq_false_iff.2 fun hcontinues => ?_
          exact absurd (hcall.symm.trans (TwtSys.isSome_of_continues hcontinues hends)) nofun
        have hnone : h.sys.suspends act = false := by
          refine Bool.eq_false_iff.2 fun hsuspends => ?_
          exact absurd (hcall.symm.trans (TwtSys.isSome_of_suspends hsuspends)) nofun
        rw [hnone, Bool.or_false] at hsuspended
        obtain ⟨hbusy, hruns⟩ := hok.negotiates hsuspended
        rw [hprogress, hpending, hother, hruns, hbusy]
        exact ⟨rfl, rfl⟩
    · rw [hopen, hdisable]
      cases hsuspends : h.sys.suspends act with
      | false => cases h.sys.adapter.twtPsDisable <;> rfl
      | true =>
        rw [hdisc.1 hsuspends]
        rfl

/-- **Power save is suspended exactly for a negotiation** in every run whose steps keep the
condition: the suspension lasts as long as the negotiation, whose timer is pending, and each call of
`rsi_disable_ps` is followed by one of `rsi_enable_ps` in the step that ends it. -/
theorem psSuspensionOk_of_discipline
    (hreach : PsHistory.system.ReachableVia (fun h act => SuspensionDiscipline h.sys act) h) :
    PsSuspensionOk h := by
  have hinv : PsSuspensionOk h ∧ h.sys.adapter.retryView.Inv := by
    refine hreach.invariant (fun h => PsSuspensionOk h ∧ h.sys.adapter.retryView.Inv) ?_ ?_
    · rintro h ⟨hinit, hdisable, hlog⟩
      have hretry : h.sys.adapter.retryView.Inv := retryInv_of_reachable (.init hinit)
      have hidle : h.sys.adapter.twtSessionInProgress = false := hinit.1.2.2.1
      refine ⟨⟨fun hp => absurd (hidle.symm.trans hp) nofun,
        fun hd => absurd (hdisable.symm.trans hd) nofun, ?_⟩, hretry⟩
      rw [hlog, hdisable]
      rfl
    · rintro h act h' ⟨hok, hinv⟩ hdisc hstep
      obtain ⟨hsys, -, -⟩ := PsHistory.step_eq_some hstep
      exact ⟨hok.step hinv hdisc hstep, (retryView_step hinv hsys).1⟩
  exact hinv.1

end Runs

/-- A negotiation with one retry, started with power save enabled. -/
def suspendedSchedule : List TwtAct :=
  [.associate .good true (some true) true, .powerSave (.enablePs true), .powerSave .confirm,
    .configCmd .good sampleConfig, .powerSave .confirm, .setupTimer .good,
    .rxSetup .good sampleGrant]

/-- The state at the end of `suspendedSchedule`. -/
def suspendedHistory : PsHistory :=
  (PsHistory.system.runVia (fun h act => SuspensionDiscipline h.sys act) .start
    suspendedSchedule).get rfl

/-- The condition is kept by a run that suspends power save once and resumes it. -/
theorem psSuspensionOk_suspendedHistory :
    suspendedHistory.log = [⟨.disable true, true⟩, ⟨.enable true, false⟩] ∧
      PsSuspensionOk suspendedHistory :=
  ⟨rfl, psSuspensionOk_of_discipline
    (TransitionSystem.reachableVia_get PsHistory.init_start rfl)⟩

/-! ## Runs that break the condition -/

section Damage

variable {h h' : PsHistory} {act : TwtAct}

/-- A proposal that is taken up during a suspension ends that, but not the negotiation. -/
theorem not_paired_of_takesProposal (hok : PsSuspensionOk h) (hinv : h.sys.adapter.retryView.Inv)
    (hsuspended : (h.sys.adapter.twtPsDisable || h.sys.suspends act) = true)
    (htaken : h.sys.takesProposal act = true) (hstep : h.step act = some h') :
    openSuspension h'.log = none := by
  obtain ⟨hsys, -, -⟩ := PsHistory.step_eq_some hstep
  obtain ⟨hprogress, -⟩ := TwtSys.progress_step hinv hsys
  cases act with
  | rxSetup o fr =>
    have htaken : (h.sys.adapter.twtSessionInProgress && h.sys.adapter.takesProposal fr) = true :=
      htaken
    have hbusy : h.sys.adapter.twtSessionInProgress = true := (Bool.and_eq_true_iff.1 htaken).1
    have hresumes : h.sys.resumes (.rxSetup o fr) = true := by
      rw [TwtSys.resumes, hbusy, hsuspended]
      rfl
    rw [TwtSys.ends, htaken, hbusy] at hprogress
    have hgoes : h'.sys.adapter.twtSessionInProgress = true := hprogress
    rw [PsHistory.openSuspension_step hstep hok.paired, hresumes, hgoes]
    cases h.sys.suspends (.rxSetup o fr) <;> cases h.sys.adapter.twtPsDisable <;> rfl
  | configCmd | autoConfig | rxTeardown | setupTimer | associate | eapol4Confirm | disassociate
  | powerSave => cases htaken

/-- A setup frame that is not queued leaves a suspension without a timer. -/
theorem not_negotiates_of_dropped (hok : PsSuspensionOk h) (hinv : h.sys.adapter.retryView.Inv)
    (hsuspended : (h.sys.adapter.twtPsDisable || h.sys.suspends act) = true)
    (hproposal : h.sys.takesProposal act = false)
    (hcall : (h.sys.setupCall act).isSome = true) (hdropped : h.sys.queues act = false)
    (hruns : ¬ (act.continues = false ∧ h.sys.adapter.twtSetupTimer.pending = true))
    (hstep : h.step act = some h') :
    h'.sys.adapter.twtPsDisable = true ∧ h'.sys.adapter.twtSetupTimer.pending = false := by
  obtain ⟨hsys, -, -⟩ := PsHistory.step_eq_some hstep
  obtain ⟨-, hpending⟩ := TwtSys.progress_step hinv hsys
  have hgoes := TwtSys.ends_eq_false_of_setupCall hcall
  have hresumes : h.sys.resumes act = false := by
    rw [TwtSys.resumes_eq_ends hproposal fun hdisable => (hok.negotiates hdisable).1, hgoes,
      Bool.false_and]
  refine ⟨?_, ?_⟩
  · rw [TwtSys.twtPsDisable_step hinv hsys, hresumes, hsuspended]
    rfl
  · rw [hpending, hgoes, hdropped, Bool.or_false]
    cases hcontinues : act.continues with
    | true => rfl
    | false => exact Bool.eq_false_iff.2 fun hpending => hruns ⟨hcontinues, hpending⟩

/-- Each step that breaks the condition leads from a state in order to one that is not. -/
theorem not_psSuspensionOk_of_not_discipline (hok : PsSuspensionOk h)
    (hinv : h.sys.adapter.retryView.Inv) (hdisc : ¬ SuspensionDiscipline h.sys act)
    (hstep : h.step act = some h') : ¬ PsSuspensionOk h' := by
  intro hok'
  by_cases honce : h.sys.suspends act = true → h.sys.adapter.twtPsDisable = false
  · obtain ⟨hsuspended, hrest⟩ := Classical.not_imp.1 fun hrest => hdisc ⟨honce, hrest⟩
    cases htaken : h.sys.takesProposal act with
    | true =>
      have hout := not_paired_of_takesProposal hok hinv hsuspended htaken hstep
      exact absurd (hout.symm.trans hok'.paired) nofun
    | false =>
      obtain ⟨hcall, hrenewed⟩ := Classical.not_imp.1 fun hcall => hrest ⟨hcall, htaken⟩
      obtain ⟨hdropped, hruns⟩ := not_or.1 hrenewed
      obtain ⟨hdisable, hpending⟩ := not_negotiates_of_dropped hok hinv hsuspended htaken hcall
        (Bool.eq_false_iff.2 hdropped) hruns hstep
      exact absurd (hpending.symm.trans (hok'.negotiates hdisable).2) nofun
  · -- power save is disabled twice
    obtain ⟨hsuspends, hdisable⟩ := Classical.not_imp.1 honce
    have hopen := PsHistory.openSuspension_step hstep hok.paired
    rw [hsuspends, if_pos rfl, if_pos (by simpa using hdisable)] at hopen
    exact absurd (hopen.symm.trans hok'.paired) nofun

end Damage

end Twt
