import RsiDriver.Twt.Agreement

/-!
# Target wake time: a negotiation ends, and leaves nothing behind

`twt_retry_count_limit` counts the setup frames since the last response, and bounds the retries of
the timer. A response to a request or a suggestion that proposes other parameters sets it back and
sends the next frame, however often it comes. Only the proposals that answer a demand are counted,
in `twt_demand_resp_retry_limit`, which nothing ever sets back: a later demand has what earlier ones
have left of it.

## Main results

* `sent_add_left_le`: what one step sends is paid from what the two counters leave;
* `negotiation_bounded`: a negotiation that only answers proposals to a demand is bounded by its
  limit, and does not depend on the sessions before it if none of them has answered one;
* `exists_run_of_not_demandsOnly`: any other proposal can be repeated without end;
* `not_negotiation_bounded`: so there is no bound, and a second demand is not worth what the first
  one was.
-/

namespace Twt

open PowerSave

/-! ## A negotiation -/

/-- Runs of a driver that has just been loaded. -/
def freshSystem : TransitionSystem TwtSys TwtAct where
  Init s := TwtSys.system.Init s ∧ s.adapter.twtRetryCountLimit = 0 ∧
    s.adapter.twtDemandRespRetryLimit = 0
  step := TwtSys.step

/-- The session is active, or no longer in progress. -/
def TwtAdapter.negotiationEnded (a : TwtAdapter) : Bool :=
  a.twtSessionActive || !a.twtSessionInProgress && !a.twtSetupTimer.pending

/-- A command of the user, or a connection. -/
def TwtAct.Requests : TwtAct → Prop
  | .configCmd _ _ | .autoConfig _ _ | .associate _ _ _ _ | .eapol4Confirm _ => True
  | _ => False

namespace TwtSys

/-- A response or an expiry of the timer, before the negotiation has ended. -/
def Negotiates (s : TwtSys) : TwtAct → Prop
  | .rxSetup _ _ | .setupTimer _ => s.adapter.negotiationEnded = false
  | _ => False

instance (s : TwtSys) (act : TwtAct) : Decidable (s.Negotiates act) := by
  cases act <;> simp only [Negotiates] <;> infer_instance

/-- The number of setup frames sent so far. -/
def sent (s : TwtSys) : ℕ := s.adapter.setups.length

/-- The request `r` sends a setup frame, and a negotiation begins. -/
structure Starts (s : TwtSys) (r : TwtAct) (s' : TwtSys) : Prop where
  requests : r.Requests
  step : freshSystem.step s r = some s'
  sent : s'.sent = s.sent + 1

/-- The same state after sessions that have used no retry. -/
def forgetRetries (s : TwtSys) : TwtSys :=
  { s with
    adapter := { s.adapter with
      twtRetryCountLimit := 0
      twtDemandRespRetryLimit := 0 } }

/-- **The budget of the request `r` is its own**: whatever follows, as many frames are sent as if
earlier sessions had used no retry. -/
def BudgetIndependent (s : TwtSys) (r : TwtAct) : Prop :=
  ∀ acts, (freshSystem.run s (r :: acts)).map sent =
    (freshSystem.run s.forgetRetries (r :: acts)).map sent

end TwtSys

/-! ## Proposals -/

/-- The response proposes parameters that the driver asks for in turn. -/
def TwtAdapter.takesProposal (a : TwtAdapter) (fr : TwtSetupFrame) : Bool :=
  !validateUnsupportedTwtRespParams a.twtAutoConfigEnable fr &&
  (fr.twtElement.setupCommand == TWT_SETUP_CMD_ALTERNATE ||
    fr.twtElement.setupCommand == TWT_SETUP_CMD_DICTATE) &&
  if a.rsiTwtConfig.reqType = TWT_SETUP_CMD_REQUEST then true
  else if a.rsiTwtConfig.reqType = TWT_SETUP_CMD_SUGGEST then
    suggestOutOfTol a.twtAutoConfigEnable a.userTwtAutoConfig a.rsiTwtConfig fr.twtElement ==
      some false
  else if a.rsiTwtConfig.reqType = TWT_SETUP_CMD_DEMAND then
    !demandNotMatched a.rsiTwtConfig fr.twtElement &&
      decide (a.twtDemandRespRetryLimit < a.rsiTwtConfig.twtRetryLimit)
  else false

/-- The response of the step is such a proposal. -/
def TwtSys.takesProposal (s : TwtSys) : TwtAct → Bool
  | .rxSetup _ fr => s.adapter.twtSessionInProgress && s.adapter.takesProposal fr
  | _ => false

/-- The condition on the steps of the negotiation: only a demand is answered by proposals. -/
def DemandsOnly (s : TwtSys) (act : TwtAct) : Prop :=
  s.takesProposal act = true → s.adapter.rsiTwtConfig.reqType = TWT_SETUP_CMD_DEMAND

instance (s : TwtSys) (act : TwtAct) : Decidable (DemandsOnly s act) :=
  inferInstanceAs (Decidable (_ = _ → _ = _))

/-- The condition on the steps before it: no demand is. -/
def NoDemands (s : TwtSys) (act : TwtAct) : Prop :=
  s.takesProposal act = true → s.adapter.rsiTwtConfig.reqType ≠ TWT_SETUP_CMD_DEMAND

instance (s : TwtSys) (act : TwtAct) : Decidable (NoDemands s act) :=
  inferInstanceAs (Decidable (_ = _ → _ ≠ _))

/-- The condition on the request: a connection finds no session in progress. The commands test for
one, or set the count of the timer back themselves. -/
def TwtSys.RequestsAnew (s : TwtSys) : TwtAct → Prop
  | .associate _ _ _ _ | .eapol4Confirm _ => s.adapter.twtSessionInProgress = false
  | _ => True

/-! ## The view of the retries -/

/-- The fields that a negotiation is bounded by. -/
structure RetryView where
  inProgress : Bool
  timerPending : Bool
  retries : BitVec 8
  demands : BitVec 8
  sent : ℕ
  config : TwtConfig

/-- A configuration that a setup frame leaves as it is. -/
def TwtConfig.Settled (cfg : TwtConfig) : Prop := cfg.twtEnable = 0 → cfg.withDefaults = cfg

namespace RetryView

/-- A setup frame is queued. -/
def send (v : RetryView) : RetryView :=
  { v with inProgress := true, timerPending := true, retries := v.retries + 1, sent := v.sent + 1 }

/-- A setup frame is queued, unless a call fails. -/
def trySend (v : RetryView) (o : Outcomes) : RetryView := if o.setupQueued then v.send else v

/-- A response ends the retries. -/
def stop (v : RetryView) : RetryView := { v with timerPending := false, retries := 0 }

/-- The negotiation is over. -/
def finish (v : RetryView) : RetryView := { v with inProgress := false }

/-- A proposal is answered by a setup frame; those in answer to a demand are counted. -/
def propose (v : RetryView) (o : Outcomes) : RetryView :=
  { v.stop.trySend o with
    demands := if v.config.reqType = TWT_SETUP_CMD_DEMAND then v.demands + 1 else v.demands }

variable (v : RetryView) (o : Outcomes)

theorem propose_of_ne (h : v.config.reqType ≠ TWT_SETUP_CMD_DEMAND) :
    v.propose o = v.stop.trySend o := by
  simp only [propose, trySend, if_neg h]
  split_ifs <;> rfl

theorem propose_of_eq (h : v.config.reqType = TWT_SETUP_CMD_DEMAND) :
    v.propose o = { v.stop.trySend o with demands := (v.stop.trySend o).demands + 1 } := by
  simp only [propose, trySend, if_pos h]
  split_ifs <;> rfl

end RetryView

namespace TwtAdapter

/-- The fields of the adapter. -/
def retryView (a : TwtAdapter) : RetryView where
  inProgress := a.twtSessionInProgress
  timerPending := a.twtSetupTimer.pending
  retries := a.twtRetryCountLimit
  demands := a.twtDemandRespRetryLimit
  sent := a.setups.length
  config := a.rsiTwtConfig

@[simp]
theorem retryView_suspendPs (a : TwtAdapter) (o : Outcomes) :
    (a.suspendPs o).retryView = a.retryView := by
  unfold suspendPs
  split_ifs <;> rfl

@[simp]
theorem retryView_resumePs (a : TwtAdapter) (o : Outcomes) :
    (a.resumePs o).retryView = a.retryView := by
  unfold resumePs
  split_ifs <;> rfl

@[simp]
theorem retryView_restoreUserPs (a : TwtAdapter) (o : Outcomes) :
    (a.restoreUserPs o).retryView = a.retryView := by
  unfold restoreUserPs
  split_ifs <;> rfl

@[simp]
theorem retryView_sendTwtTeardownFrame (a : TwtAdapter) (o : Outcomes) (f n : BitVec 8) :
    (a.sendTwtTeardownFrame o f n).retryView = a.retryView := by
  unfold sendTwtTeardownFrame
  split_ifs <;> rfl

@[simp]
theorem retryView_sendSetupDetails (a : TwtAdapter) (o : Outcomes) (fr : TwtSetupFrame) :
    (a.sendSetupDetails o fr).retryView = a.retryView := by
  unfold sendSetupDetails
  split_ifs <;> rfl

@[simp]
theorem retryView_sendTeardownDetails (a : TwtAdapter) (o : Outcomes) (flowId : BitVec 8) :
    (a.sendTeardownDetails o flowId).retryView = a.retryView := by
  unfold sendTeardownDetails
  split_ifs <;> rfl

theorem retryView_teardownGranted (a : TwtAdapter) (o : Outcomes) (fr : TwtSetupFrame) :
    (a.teardownGranted o fr).retryView = a.retryView := by
  simp only [teardownGranted]
  split_ifs
  · exact (retryView_sendTeardownDetails _ o _).trans (a.retryView_sendTwtTeardownFrame o _ _)
  · exact a.retryView_sendTwtTeardownFrame o _ _

theorem settled_withDefaults (cfg : TwtConfig) : cfg.withDefaults.Settled := fun _ => rfl

/-- `send_twt_setup_frame`: a frame is queued or not. The defaults may become the configuration. -/
theorem retryView_sendTwtSetupFrame (a : TwtAdapter) (o : Outcomes) (cause : SetupCause)
    (update : Bool) (resp : Option TwtSetupFrame) (h : update = true → resp.isSome = true) :
    ∃ cfg, (a.sendTwtSetupFrame o cause update resp).retryView =
        { a.retryView.trySend o with config := cfg } ∧
      (a.rsiTwtConfig.Settled → cfg = a.rsiTwtConfig) ∧ (o.setupQueued = true → cfg.Settled) := by
  obtain ⟨el, hel⟩ := Option.ne_none_iff_exists'.1 (a.rsiTwtConfig.setupElement_ne_none h)
  -- without an interface or a buffer nothing has happened yet
  cases hvif : o.vif
  case false =>
    refine ⟨a.rsiTwtConfig, ?_, fun _ => rfl, ?_⟩
    · simp [sendTwtSetupFrame, RetryView.trySend, Outcomes.setupQueued, hvif, retryView]
    · simp [Outcomes.setupQueued, hvif]
  cases hskb : o.setupSkb
  case false =>
    refine ⟨a.rsiTwtConfig, ?_, fun _ => rfl, ?_⟩
    · simp [sendTwtSetupFrame, RetryView.trySend, Outcomes.setupQueued, hskb, retryView]
    · simp [Outcomes.setupQueued, hskb]
  have hps := a.retryView_suspendPs o
  by_cases henable : a.rsiTwtConfig.twtEnable = 0
  · -- the defaults are stored, also if the frame is dropped
    refine ⟨a.rsiTwtConfig.withDefaults, ?_, fun hsettled => hsettled henable,
      fun _ => settled_withDefaults _⟩
    simp only [sendTwtSetupFrame, hvif, hskb, rsiTwtConfig_suspendPs, hel, henable, if_true,
      Bool.not_true, Bool.or_self, Bool.false_eq_true, if_false, RetryView.trySend,
      Outcomes.setupQueued, Bool.and_self, Bool.true_and, ← hps]
    cases o.setupDesc with
    | false => rfl
    | true => simp [queueSetup, armSetupTimer, retryView, RetryView.send]
  · refine ⟨a.rsiTwtConfig, ?_, fun _ => rfl, fun _ hzero => absurd hzero henable⟩
    simp only [sendTwtSetupFrame, hvif, hskb, rsiTwtConfig_suspendPs, hel, henable, if_false,
      Bool.not_true, Bool.or_self, Bool.false_eq_true, RetryView.trySend,
      Outcomes.setupQueued, Bool.and_self, Bool.true_and, ← hps]
    cases o.setupDesc with
    | false =>
      simp only [Bool.false_eq_true, if_false, hps]
      rfl
    | true => simp [queueSetup, armSetupTimer, retryView, RetryView.send]

/-! ## A response -/

variable {a a' : TwtAdapter} {o : Outcomes} {fr : TwtSetupFrame}

theorem valid_of_takesProposal (htaken : a.takesProposal fr = true) :
    validateUnsupportedTwtRespParams a.twtAutoConfigEnable fr = false := by
  simp only [takesProposal, Bool.and_eq_true, Bool.not_eq_true'] at htaken
  exact htaken.1.1

/-- What is taken up, by the type of the request. -/
theorem takesProposal_iff
    (hvalid : validateUnsupportedTwtRespParams a.twtAutoConfigEnable fr = false) :
    a.takesProposal fr = true ↔
      (fr.twtElement.setupCommand = TWT_SETUP_CMD_ALTERNATE ∨
        fr.twtElement.setupCommand = TWT_SETUP_CMD_DICTATE) ∧
      (a.rsiTwtConfig.reqType = TWT_SETUP_CMD_REQUEST ∨
        a.rsiTwtConfig.reqType = TWT_SETUP_CMD_SUGGEST ∧
          suggestOutOfTol a.twtAutoConfigEnable a.userTwtAutoConfig a.rsiTwtConfig fr.twtElement =
            some false ∨
        a.rsiTwtConfig.reqType = TWT_SETUP_CMD_DEMAND ∧
          demandNotMatched a.rsiTwtConfig fr.twtElement = false ∧
            a.twtDemandRespRetryLimit < a.rsiTwtConfig.twtRetryLimit) := by
  have hne : TWT_SETUP_CMD_SUGGEST ≠ TWT_SETUP_CMD_REQUEST ∧
      TWT_SETUP_CMD_DEMAND ≠ TWT_SETUP_CMD_REQUEST ∧
        TWT_SETUP_CMD_DEMAND ≠ TWT_SETUP_CMD_SUGGEST := by decide
  rw [takesProposal, hvalid]
  simp only [Bool.not_false, Bool.true_and, Bool.and_eq_true, Bool.or_eq_true, beq_iff_eq]
  refine and_congr_right fun _ => ?_
  by_cases hrequest : a.rsiTwtConfig.reqType = TWT_SETUP_CMD_REQUEST
  · simp [hrequest]
  by_cases hsuggest : a.rsiTwtConfig.reqType = TWT_SETUP_CMD_SUGGEST
  · simp [hsuggest, hne.1, hne.2.2.symm]
  by_cases hdemand : a.rsiTwtConfig.reqType = TWT_SETUP_CMD_DEMAND
  · simp [hdemand, hne.2.1, hne.2.2]
  · simp [hrequest, hsuggest, hdemand]

/-- `a'` has answered a proposal in the state `a`. -/
def Proposes (a : TwtAdapter) (o : Outcomes) (a' : TwtAdapter) : Prop :=
  ∃ cfg, a'.retryView = { a.retryView.propose o with config := cfg } ∧
    (a.rsiTwtConfig.Settled → cfg = a.rsiTwtConfig)

/-- Without a retry there is nothing to take back. -/
theorem retryView_resetRetries (hidle : a.retryView.stop = a.retryView) :
    { a with twtRetryCountLimit := 0 }.retryView = a.retryView := by
  have hzero : (0 : BitVec 8) = a.retryView.retries := congrArg RetryView.retries hidle
  show { a.retryView with retries := 0 } = a.retryView
  rw [hzero]

/-- The answer to a proposal, before one to a demand is counted. -/
theorem retryView_respProposed (hidle : a.retryView.stop = a.retryView) :
    ∃ cfg, (a.respProposed o fr).adapter.retryView =
        { a.retryView.stop.trySend o with config := cfg } ∧
      (a.rsiTwtConfig.Settled → cfg = a.rsiTwtConfig) := by
  obtain ⟨cfg, hview, hsettled, -⟩ := { a with twtRetryCountLimit := 0 }.retryView_sendTwtSetupFrame
    o .proposal true (some fr) fun _ => rfl
  rw [retryView_resetRetries hidle, ← hidle] at hview
  exact ⟨cfg, hview, hsettled⟩

/-- What the response `fr` in the state `a` does to the retries: a proposal that is taken up is
answered by a setup frame, everything else by none. -/
structure Answers (a : TwtAdapter) (o : Outcomes) (fr : TwtSetupFrame) (rsp : RspProc) :
    Prop where
  taken : a.takesProposal fr = true →
    rsp.triggerSetupAgain = true ∧ rsp.sendTwtTeardown = false ∧ a.Proposes o rsp.adapter
  other : a.takesProposal fr = false →
    rsp.triggerSetupAgain = false ∧ rsp.adapter.retryView = a.retryView

theorem answers_of_other {rsp : RspProc} (h : ¬ a.takesProposal fr = true)
    (hagain : rsp.triggerSetupAgain = false) (hview : rsp.adapter.retryView = a.retryView) :
    a.Answers o fr rsp :=
  ⟨fun htaken => absurd htaken h, fun _ => ⟨hagain, hview⟩⟩

theorem answers_of_taken {rsp : RspProc} (h : a.takesProposal fr = true)
    (hagain : rsp.triggerSetupAgain = true) (hteardown : rsp.sendTwtTeardown = false)
    (hview : a.Proposes o rsp.adapter) : a.Answers o fr rsp :=
  ⟨fun _ => ⟨hagain, hteardown, hview⟩, fun hother => absurd (h.symm.trans hother) nofun⟩

/-- A proposal to a request or a suggestion that is taken up. -/
theorem answers_respProposed (hidle : a.retryView.stop = a.retryView)
    (htaken : a.takesProposal fr = true)
    (hreq : a.rsiTwtConfig.reqType ≠ TWT_SETUP_CMD_DEMAND) :
    a.Answers o fr (a.respProposed o fr) := by
  apply answers_of_taken htaken rfl rfl
  obtain ⟨cfg, hview, hsettled⟩ := @retryView_respProposed a o fr hidle
  refine ⟨cfg, ?_, hsettled⟩
  rw [hview, a.retryView.propose_of_ne o hreq]

/-- A grant proposes nothing. -/
theorem not_takesProposal_accept (hcmd : fr.twtElement.setupCommand = TWT_SETUP_CMD_ACCEPT) :
    ¬ a.takesProposal fr = true := by
  have hne : (TWT_SETUP_CMD_ACCEPT == TWT_SETUP_CMD_ALTERNATE ||
    TWT_SETUP_CMD_ACCEPT == TWT_SETUP_CMD_DICTATE) = false := by decide
  rw [takesProposal, hcmd, hne, Bool.and_false, Bool.false_and]
  exact Bool.false_ne_true

theorem answers_respAccepted (hcmd : fr.twtElement.setupCommand = TWT_SETUP_CMD_ACCEPT) :
    a.Answers o fr (a.respAccepted o fr) :=
  answers_of_other (not_takesProposal_accept hcmd) rfl
    (retryView_sendSetupDetails { a with twtCurrentStatus := _ } o fr)

/-- For a request, and for a suggestion that is within the tolerances. -/
theorem answers_respToRequest (hidle : a.retryView.stop = a.retryView)
    (hreq : a.rsiTwtConfig.reqType ≠ TWT_SETUP_CMD_DEMAND)
    (htaken : fr.twtElement.setupCommand ≠ TWT_SETUP_CMD_ACCEPT → a.takesProposal fr = true) :
    a.Answers o fr (a.respToRequest o fr) := by
  unfold respToRequest
  split_ifs with haccept
  · exact answers_respAccepted haccept
  · exact answers_respProposed hidle (htaken haccept) hreq

section Switch

variable (hvalid : validateUnsupportedTwtRespParams a.twtAutoConfigEnable fr = false)
include hvalid

theorem answers_respToSuggest {rsp : RspProc} (hidle : a.retryView.stop = a.retryView)
    (hreq : a.rsiTwtConfig.reqType = TWT_SETUP_CMD_SUGGEST)
    (hcmd : fr.twtElement.setupCommand = TWT_SETUP_CMD_ACCEPT ∨
      fr.twtElement.setupCommand = TWT_SETUP_CMD_ALTERNATE ∨
        fr.twtElement.setupCommand = TWT_SETUP_CMD_DICTATE)
    (hrsp : a.respToSuggest o fr = some rsp) : a.Answers o fr rsp := by
  obtain ⟨outOfTol, htol, rfl⟩ := Option.map_eq_some_iff.1 hrsp
  cases outOfTol with
  | true =>
    show a.Answers o fr (a.respMismatched fr .setupRspOutofTol)
    refine answers_of_other ?_ rfl rfl
    rw [takesProposal_iff hvalid, hreq, htol]
    exact fun h => h.2.elim (absurd · (by decide))
      fun h => h.elim (fun h => absurd h.2 (by decide)) fun h => absurd h.1 (by decide)
  | false =>
    show a.Answers o fr (a.respToRequest o fr)
    apply answers_respToRequest hidle
    · rw [hreq]
      decide
    · intro haccept
      exact (takesProposal_iff hvalid).2 ⟨hcmd.resolve_left haccept, Or.inr (Or.inl ⟨hreq, htol⟩)⟩

theorem answers_respToDemand (hidle : a.retryView.stop = a.retryView)
    (hreq : a.rsiTwtConfig.reqType = TWT_SETUP_CMD_DEMAND)
    (hcmd : fr.twtElement.setupCommand = TWT_SETUP_CMD_ACCEPT ∨
      fr.twtElement.setupCommand = TWT_SETUP_CMD_ALTERNATE ∨
        fr.twtElement.setupCommand = TWT_SETUP_CMD_DICTATE) :
    a.Answers o fr (a.respToDemand o fr) := by
  have honly : a.takesProposal fr = true → demandNotMatched a.rsiTwtConfig fr.twtElement = false ∧
      a.twtDemandRespRetryLimit < a.rsiTwtConfig.twtRetryLimit := by
    intro htaken
    rcases ((takesProposal_iff hvalid).1 htaken).2 with h | h | h
    · exact absurd (hreq.symm.trans h) (by decide)
    · exact absurd (hreq.symm.trans h.1) (by decide)
    · exact h.2
  unfold respToDemand
  split_ifs with hmatch haccept hlimit
  · exact answers_of_other (fun htaken => absurd (hmatch.symm.trans (honly htaken).1) nofun) rfl rfl
  · exact answers_respAccepted haccept
  · -- the answer is counted
    have hmatched := Bool.eq_false_iff.2 hmatch
    have htaken := (takesProposal_iff hvalid).2
      ⟨hcmd.resolve_left haccept, Or.inr (Or.inr ⟨hreq, hmatched, hlimit⟩)⟩
    apply answers_of_taken htaken rfl rfl
    obtain ⟨cfg, hview, hsettled⟩ := @retryView_respProposed a o fr hidle
    refine ⟨cfg, ?_, hsettled⟩
    rw [a.retryView.propose_of_eq o hreq]
    exact congrArg (fun v : RetryView => { v with demands := v.demands + 1 }) hview
  · exact answers_of_other (fun htaken => hlimit (honly htaken).2) rfl
      (retryView_resetRetries hidle)

theorem answers_respByReqType {rsp : RspProc} (hidle : a.retryView.stop = a.retryView)
    (hrsp : a.respByReqType o fr = some rsp) : a.Answers o fr rsp := by
  simp only [respByReqType] at hrsp
  split_ifs at hrsp with hother hcmd hrequest hsuggest hreject
  · -- an unknown type of request
    cases hrsp
    refine answers_of_other (fun htaken => ?_) rfl rfl
    rcases ((takesProposal_iff hvalid).1 htaken).2 with h | h | h
    · exact hother.1 h
    · exact hother.2.1 h.1
    · exact hother.2.2 h.1
  · cases hrsp
    apply answers_respToRequest hidle
    · rw [hrequest]
      decide
    · intro haccept
      exact (takesProposal_iff hvalid).2 ⟨hcmd.resolve_left haccept, Or.inl hrequest⟩
  · exact answers_respToSuggest hvalid hidle hsuggest hcmd hrsp
  · cases hrsp
    have hdemand : a.rsiTwtConfig.reqType = TWT_SETUP_CMD_DEMAND := by
      by_contra hdemand
      exact hother ⟨hrequest, hsuggest, hdemand⟩
    exact answers_respToDemand hvalid hidle hdemand hcmd
  -- a response that is neither a grant nor a proposal
  · cases hrsp
    refine answers_of_other (fun htaken => ?_) rfl rfl
    exact hcmd (Or.inr ((takesProposal_iff hvalid).1 htaken).1)
  · cases hrsp
    refine answers_of_other (fun htaken => ?_) rfl rfl
    exact hcmd (Or.inr ((takesProposal_iff hvalid).1 htaken).1)

end Switch

/-- `RSP_PROC_DONE`: the negotiation goes on just when a proposal has been taken up. -/
theorem Answers.rspProcDone {rsp : RspProc} (h : a.Answers o fr rsp) :
    (a.takesProposal fr = true → a.Proposes o (TwtAdapter.rspProcDone rsp o fr)) ∧
      (a.takesProposal fr = false →
        (TwtAdapter.rspProcDone rsp o fr).retryView = a.retryView.finish) := by
  unfold TwtAdapter.rspProcDone
  refine ⟨fun htaken => ?_, fun hother => ?_⟩
  · obtain ⟨hagain, hteardown, hview⟩ := h.taken htaken
    rw [hagain, hteardown]
    exact hview
  · obtain ⟨hagain, hview⟩ := h.other hother
    rw [hagain]
    cases hteardown : rsp.sendTwtTeardown with
    | false => exact congrArg RetryView.finish hview
    | true =>
      exact congrArg RetryView.finish ((rsp.adapter.retryView_teardownGranted o fr).trans hview)

end TwtAdapter

/-! ## What every step keeps -/

namespace RetryView

/-- The timer of a negotiation is pending only while it is in progress, and its retries are
forgotten when it is over. -/
structure Inv (v : RetryView) : Prop where
  timer : v.timerPending = true → v.inProgress = true
  retries : v.inProgress = false → v.retries = 0

/-- The setup timer has expired. -/
def expire (v : RetryView) (o : Outcomes) : RetryView :=
  if v.retries < v.config.twtRetryLimit then { v with timerPending := false }.trySend o
  else v.stop.finish

variable {v v' : RetryView} {o : Outcomes}

theorem Inv.trySend (h : v.Inv) : (v.trySend o).Inv := by
  unfold RetryView.trySend
  split_ifs
  · exact ⟨fun _ => rfl, nofun⟩
  · exact h

theorem inv_stop (v : RetryView) : v.stop.Inv := ⟨nofun, fun _ => rfl⟩

theorem inv_finish (v : RetryView) : v.stop.finish.Inv := ⟨nofun, fun _ => rfl⟩

theorem Inv.expire (h : v.Inv) (hpending : v.timerPending = true) : (v.expire o).Inv := by
  have hprogress : v.inProgress = true := h.timer hpending
  unfold RetryView.expire
  split_ifs
  · apply Inv.trySend
    exact ⟨nofun, fun hover => absurd (hprogress.symm.trans hover) nofun⟩
  · exact inv_finish v

theorem inv_propose (v : RetryView) : (v.propose o).Inv :=
  have h : (v.stop.trySend o).Inv := (inv_stop v).trySend
  ⟨h.timer, h.retries⟩

/-- Without a negotiation there is nothing to stop. -/
theorem Inv.stop_eq (h : v.Inv) (hprogress : v.inProgress = false) : v.stop = v := by
  have htimer : v.timerPending = false := by
    exact Bool.eq_false_iff.2 fun hpending => absurd (hprogress.symm.trans (h.timer hpending)) nofun
  unfold stop
  rw [← htimer, ← h.retries hprogress]

theorem Inv.stop_finish_eq (h : v.Inv) (hprogress : v.inProgress = false) :
    v.stop.finish = v := by
  rw [h.stop_eq hprogress, finish, ← hprogress]

end RetryView

namespace TwtAdapter

variable {a a' : TwtAdapter} {o : Outcomes} {fr : TwtSetupFrame}

theorem takesProposal_stopRetries (a : TwtAdapter) (fr : TwtSetupFrame) :
    a.stopRetries.takesProposal fr = a.takesProposal fr := by
  unfold stopRetries
  split_ifs <;> rfl

theorem retryView_stopRetries (h : a.retryView.Inv) :
    a.stopRetries.retryView = a.retryView.stop := by
  unfold stopRetries
  split_ifs with hprogress
  · rfl
  · exact (h.stop_eq (Bool.eq_false_iff.2 hprogress)).symm

/-- A response, whether or not a session is in progress. -/
theorem retryView_mgmtProcessTwtSetupResp (h : a.retryView.Inv)
    (hproc : a.mgmtProcessTwtSetupResp o fr = some a') :
    (a.takesProposal fr = true → a.stopRetries.Proposes o a') ∧
      (a.takesProposal fr = false → a'.retryView = a.retryView.stop.finish) := by
  have hidle : a.stopRetries.retryView.stop = a.stopRetries.retryView := by
    rw [retryView_stopRetries h]
    rfl
  rw [← takesProposal_stopRetries, ← retryView_stopRetries h]
  simp only [mgmtProcessTwtSetupResp] at hproc
  split_ifs at hproc with hvalid
  · cases hproc
    have hother : ¬ a.stopRetries.takesProposal fr = true := by
      rw [takesProposal, hvalid]
      exact Bool.false_ne_true
    exact (answers_of_other hother rfl rfl).rspProcDone
  · obtain ⟨rsp, hrsp, rfl⟩ := Option.map_eq_some_iff.1 hproc
    exact (answers_respByReqType (Bool.eq_false_iff.2 hvalid) hidle hrsp).rspProcDone

/-- A setup frame: a proposal is taken up only in answer to a request, and everything else ends the
negotiation. -/
theorem retryView_rxTwtSetup (h : a.retryView.Inv) (hrx : a.rxTwtSetup o fr = some a') :
    if a.twtSessionInProgress && a.takesProposal fr then a.stopRetries.Proposes o a'
    else a'.retryView = a.retryView.stop.finish := by
  simp only [rxTwtSetup] at hrx
  split_ifs at hrx with hprogress hsupport hactive henable hvalid hflow
  · obtain ⟨b, hproc, rfl⟩ := Option.map_eq_some_iff.1 hrx
    obtain ⟨htaken, hother⟩ := retryView_mgmtProcessTwtSetupResp h hproc
    rw [hprogress, Bool.true_and]
    split_ifs with hproposal
    · unfold Proposes
      rw [retryView_resumePs]
      exact htaken hproposal
    · rw [retryView_resumePs]
      exact hother (Bool.eq_false_iff.2 hproposal)
  all_goals
    -- without a session in progress there is nothing to end
    have hover : a.twtSessionInProgress = false := Bool.eq_false_iff.2 hprogress
    rw [hover, Bool.false_and, if_neg Bool.false_ne_true]
  · cases hrx
    rw [h.stop_finish_eq hover]
    exact a.retryView_sendTwtTeardownFrame o _ _
  · cases hrx
    rw [h.stop_finish_eq hover]
    exact a.retryView_sendSetupDetails o fr
  · exact (retryView_mgmtProcessTwtSetupResp h hrx).2
      (Bool.eq_false_iff.2 (not_takesProposal_accept hsupport.2))
  · cases hrx
    rw [h.stop_finish_eq hover]
    exact a.retryView_sendTwtTeardownFrame o _ _
  · exact (retryView_mgmtProcessTwtSetupResp h hrx).2
      (Bool.eq_false_iff.2 (not_takesProposal_accept hsupport.2))
  · cases hrx
    exact (h.stop_finish_eq hover).symm

/-- `twt_setup_timer_callback`. -/
theorem retryView_twtSetupTimerCallback (a : TwtAdapter) (o : Outcomes) :
    ∃ cfg, (a.delSetupTimer.twtSetupTimerCallback o).retryView =
        { a.retryView.expire o with config := cfg } ∧
      (a.rsiTwtConfig.Settled → cfg = a.rsiTwtConfig) := by
  unfold twtSetupTimerCallback RetryView.expire
  by_cases hlimit : a.twtRetryCountLimit < a.rsiTwtConfig.twtRetryLimit
  · have hview : a.retryView.retries < a.retryView.config.twtRetryLimit := hlimit
    obtain ⟨cfg, hsent, hsettled, -⟩ := a.delSetupTimer.retryView_sendTwtSetupFrame o .retry false
      none nofun
    rw [if_pos hview, if_pos (by exact hlimit)]
    exact ⟨cfg, hsent, hsettled⟩
  · have hview : ¬ a.retryView.retries < a.retryView.config.twtRetryLimit := hlimit
    rw [if_neg hview, if_neg (by exact hlimit), retryView_resumePs]
    exact ⟨a.rsiTwtConfig, rfl, fun _ => rfl⟩

end TwtAdapter

/-- `v'` comes after `v`, and no proposal has been counted. -/
structure RetryView.Follows (v v' : RetryView) : Prop where
  inv : v.Inv → v'.Inv
  demands : v'.demands = v.demands

namespace RetryView.Follows

variable {a : TwtAdapter} {o : Outcomes} {v v' v'' : RetryView}

theorem trans (h : v.Follows v') (h' : v'.Follows v'') : v.Follows v'' :=
  ⟨fun hinv => h'.inv (h.inv hinv), h'.demands.trans h.demands⟩

theorem of_eq (h : v' = v) : v.Follows v' := h ▸ ⟨id, rfl⟩

theorem sendTwtSetupFrame (a : TwtAdapter) (o : Outcomes) (cause : SetupCause) :
    a.retryView.Follows (a.sendTwtSetupFrame o cause false none).retryView := by
  obtain ⟨cfg, hview, -, -⟩ := a.retryView_sendTwtSetupFrame o cause false none nofun
  rw [hview]
  refine ⟨fun hinv => ?_, ?_⟩
  · have htry : (a.retryView.trySend o).Inv := hinv.trySend
    exact ⟨htry.timer, htry.retries⟩
  · unfold RetryView.trySend
    split_ifs <;> rfl

theorem teardownByCommand (a : TwtAdapter) (o : Outcomes) :
    a.retryView.Follows (a.teardownByCommand o).retryView :=
  of_eq ((TwtAdapter.retryView_sendTeardownDetails _ o _).trans
    (a.retryView_sendTwtTeardownFrame o _ _))

/-- A command stores its configuration and nothing else of the view. -/
theorem processTwtSetupCmd (a : TwtAdapter) (cfg : TwtConfig) :
    a.retryView.Follows (a.processTwtSetupCmd cfg).1.retryView := by
  simp only [TwtAdapter.processTwtSetupCmd]
  split_ifs
  · exact of_eq rfl
  · exact of_eq rfl
  · exact of_eq rfl
  · exact ⟨fun hinv => ⟨hinv.timer, hinv.retries⟩, rfl⟩

theorem twtConfigCmd (a : TwtAdapter) (o : Outcomes) (cfg : TwtConfig) :
    a.retryView.Follows (a.twtConfigCmd o cfg).retryView := by
  refine (processTwtSetupCmd a cfg).trans ?_
  simp only [TwtAdapter.twtConfigCmd]
  split_ifs
  · exact of_eq rfl
  · exact of_eq rfl
  · exact sendTwtSetupFrame _ o .request
  · exact teardownByCommand _ o

theorem applyAutoConfig (a : TwtAdapter) (o : Outcomes) (user : TwtSelection) :
    a.retryView.Follows (a.applyAutoConfig o user).retryView := by
  unfold TwtAdapter.applyAutoConfig
  split_ifs
  · exact of_eq rfl
  · -- the count starts again
    have hreset : a.retryView.Follows
        { a with twtAutoConfigEnable := true, twtRetryCountLimit := 0 }.retryView :=
      ⟨fun hinv => ⟨hinv.timer, fun _ => rfl⟩, rfl⟩
    exact hreset.trans (sendTwtSetupFrame _ o .request)
  · exact teardownByCommand _ o

theorem setupAfterConnection (a : TwtAdapter) (o : Outcomes) :
    a.retryView.Follows (a.setupAfterConnection o).retryView := by
  unfold TwtAdapter.setupAfterConnection
  split_ifs
  · exact sendTwtSetupFrame a o .request
  · exact of_eq rfl

theorem rxTwtTeardown (a : TwtAdapter) (o : Outcomes) (fr : TwtTeardownFrame) :
    a.retryView.Follows (a.rxTwtTeardown o fr).retryView := by
  unfold TwtAdapter.rxTwtTeardown
  split_ifs
  · exact of_eq rfl
  · exact of_eq (a.retryView_sendTeardownDetails o _)
  · exact of_eq (a.retryView_sendTeardownDetails o _)
  · exact of_eq rfl

end RetryView.Follows

section Runs

variable {s s' : TwtSys} {act : TwtAct}

theorem noDemands_rxSetup {o : Outcomes} {fr : TwtSetupFrame}
    (hrx : s.adapter.rxTwtSetup o fr = some s'.adapter) (hinv : s.adapter.retryView.Inv) :
    s'.adapter.retryView.Inv ∧ (NoDemands s (.rxSetup o fr) →
      s'.adapter.retryView.demands = s.adapter.retryView.demands) := by
  have hview := TwtAdapter.retryView_rxTwtSetup hinv hrx
  split_ifs at hview with htaken
  · obtain ⟨cfg, hview, -⟩ := hview
    rw [hview, TwtAdapter.retryView_stopRetries hinv]
    have hpropose : (s.adapter.retryView.stop.propose o).Inv := RetryView.inv_propose _
    refine ⟨⟨hpropose.timer, hpropose.retries⟩, fun hdemands => ?_⟩
    have hne : s.adapter.retryView.stop.config.reqType ≠ TWT_SETUP_CMD_DEMAND := hdemands htaken
    exact if_neg hne
  · rw [hview]
    exact ⟨RetryView.inv_finish _, fun _ => rfl⟩

/-- One step. -/
theorem retryView_step (hinv : s.adapter.retryView.Inv) (hstep : s.step act = some s') :
    s'.adapter.retryView.Inv ∧
      (NoDemands s act → s'.adapter.retryView.demands = s.adapter.retryView.demands) := by
  have hfollows (h : s.adapter.retryView.Follows s'.adapter.retryView) :
      s'.adapter.retryView.Inv ∧
        (NoDemands s act → s'.adapter.retryView.demands = s.adapter.retryView.demands) :=
    ⟨h.inv hinv, fun _ => h.demands⟩
  cases act with
  | configCmd o cfg =>
    cases hstep
    exact hfollows (RetryView.Follows.twtConfigCmd _ o cfg)
  | autoConfig o user =>
    obtain ⟨a', hauto, rfl⟩ := Option.map_eq_some_iff.1 hstep
    obtain ⟨cfg, -, rfl⟩ := Option.map_eq_some_iff.1 hauto
    apply hfollows
    refine RetryView.Follows.trans ?_ (RetryView.Follows.applyAutoConfig _ o user)
    cases cfg <;> exact ⟨fun hinv => ⟨hinv.timer, hinv.retries⟩, rfl⟩
  | rxSetup o fr =>
    obtain ⟨a', hrx, rfl⟩ := Option.map_eq_some_iff.1 hstep
    exact noDemands_rxSetup hrx hinv
  | rxTeardown o fr =>
    cases hstep
    exact hfollows (RetryView.Follows.rxTwtTeardown _ o fr)
  | setupTimer o =>
    simp only [TwtSys.step] at hstep
    split_ifs at hstep with hpending
    cases hstep
    obtain ⟨cfg, hview, -⟩ := s.adapter.retryView_twtSetupTimerCallback o
    rw [hview]
    have hexpire : (s.adapter.retryView.expire o).Inv := hinv.expire hpending
    refine ⟨⟨hexpire.timer, hexpire.retries⟩, fun _ => ?_⟩
    unfold RetryView.expire RetryView.trySend
    split_ifs <;> rfl
  | associate o he tr sec =>
    cases hstep
    apply hfollows
    show s.adapter.retryView.Follows (s.adapter.associate o he tr sec).retryView
    unfold TwtAdapter.associate
    split_ifs
    · exact RetryView.Follows.of_eq rfl
    · exact RetryView.Follows.setupAfterConnection (s.adapter.bssInfoAssoc he tr) o
  | eapol4Confirm o =>
    cases hstep
    apply hfollows
    exact (RetryView.Follows.of_eq (s.adapter.retryView_restoreUserPs o)).trans
      (RetryView.Follows.setupAfterConnection _ o)
  | disassociate =>
    cases hstep
    exact hfollows (RetryView.Follows.of_eq rfl)
  | powerSave act =>
    obtain ⟨p, -, rfl⟩ := Option.map_eq_some_iff.1 hstep
    exact hfollows (RetryView.Follows.of_eq rfl)

theorem retryInv_of_reachable (h : freshSystem.Reachable s) : s.adapter.retryView.Inv := by
  refine h.invariant (·.adapter.retryView.Inv) ?_ fun s act s' hinv _ hstep =>
    (retryView_step hinv hstep).1
  rintro s ⟨⟨-, -, -, htimer, -⟩, hretries, -⟩
  exact ⟨fun hpending => absurd (htimer.symm.trans hpending) nofun, fun _ => hretries⟩

/-- Without a proposal in answer to a demand, nothing is ever counted. -/
theorem demands_eq_zero_of_reachable (h : freshSystem.ReachableVia NoDemands s) :
    s.adapter.twtDemandRespRetryLimit = 0 := by
  have hinv : s.adapter.retryView.Inv ∧ s.adapter.retryView.demands = 0 := by
    refine h.invariant (fun s => s.adapter.retryView.Inv ∧ s.adapter.retryView.demands = 0) ?_ ?_
    · rintro s hs
      exact ⟨retryInv_of_reachable (.init hs), hs.2.2⟩
    · rintro s act s' ⟨hinv, hzero⟩ hdemands hstep
      obtain ⟨hinv', hsame⟩ := retryView_step hinv hstep
      exact ⟨hinv', (hsame hdemands).trans hzero⟩
  exact hinv.2

end Runs

/-! ## What a negotiation may cost -/

namespace RetryView

/-- What the two counters leave: the retries of this frame, and those of each frame that may answer
a proposal. -/
def left (v : RetryView) : ℕ :=
  if v.inProgress then
    (v.config.twtRetryLimit.toNat - v.demands.toNat) * v.config.twtRetryLimit.toNat +
      (v.config.twtRetryLimit.toNat - v.retries.toNat)
  else 0

variable {v : RetryView} {o : Outcomes}

theorem left_of_inProgress (h : v.inProgress = true) :
    v.left = (v.config.twtRetryLimit.toNat - v.demands.toNat) * v.config.twtRetryLimit.toNat +
      (v.config.twtRetryLimit.toNat - v.retries.toNat) := if_pos h

theorem left_finish (v : RetryView) : v.finish.left = 0 := rfl

theorem left_le (v : RetryView) :
    v.left ≤ v.config.twtRetryLimit.toNat * v.config.twtRetryLimit.toNat +
      v.config.twtRetryLimit.toNat := by
  unfold left
  split_ifs
  · exact Nat.add_le_add (Nat.mul_le_mul_right _ (Nat.sub_le _ _)) (Nat.sub_le _ _)
  · exact Nat.zero_le _

/-- A count below a limit has room for one more. -/
theorem toNat_count_add_one {count limit : BitVec 8} (h : count < limit) :
    (count + 1).toNat = count.toNat + 1 := by
  have hlt : count.toNat < limit.toNat := h
  have hlimit := limit.isLt
  rw [BitVec.toNat_add]
  exact Nat.mod_eq_of_lt (show count.toNat + 1 < 2 ^ 8 by omega)

theorem config_propose (v : RetryView) (o : Outcomes) : (v.propose o).config = v.config := by
  unfold propose trySend
  split_ifs <;> rfl

theorem config_expire (v : RetryView) (o : Outcomes) : (v.expire o).config = v.config := by
  unfold expire trySend
  split_ifs <;> rfl

theorem with_config_eq {cfg : TwtConfig} (h : v.config = cfg) : { v with config := cfg } = v := by
  rw [← h]

/-- An expiry pays for its frame with a retry. -/
theorem expire_sent_add_left_le (h : v.inProgress = true) :
    (v.expire o).sent + (v.expire o).left ≤ v.sent + v.left := by
  unfold expire
  split_ifs with hlimit
  · unfold trySend
    split_ifs
    · have hlt : v.retries.toNat < v.config.twtRetryLimit.toNat := hlimit
      have hleft : { v with timerPending := false }.send.left =
          (v.config.twtRetryLimit.toNat - v.demands.toNat) * v.config.twtRetryLimit.toNat +
            (v.config.twtRetryLimit.toNat - (v.retries + 1).toNat) := rfl
      rw [hleft, left_of_inProgress h, toNat_count_add_one hlimit]
      show v.sent + 1 + _ ≤ _
      omega
    · exact Nat.le_refl _
  · rw [left_finish]
    exact Nat.le_add_right _ _

/-- A proposal in answer to a demand pays for its frame, and for the retries of that, with one of
the frames that may answer. -/
theorem propose_sent_add_left_le (h : v.inProgress = true)
    (hreq : v.config.reqType = TWT_SETUP_CMD_DEMAND) (hlimit : v.demands < v.config.twtRetryLimit) :
    (v.propose o).sent + (v.propose o).left ≤ v.sent + v.left := by
  have hcount := toNat_count_add_one hlimit
  have hlt : v.demands.toNat < v.config.twtRetryLimit.toNat := hlimit
  have hprogress : (v.propose o).inProgress = true := by
    unfold propose trySend
    split_ifs
    · rfl
    · exact h
  have hdemands : (v.propose o).demands = v.demands + 1 := if_pos hreq
  -- either a frame goes out and uses the first of its retries, or none does
  have hsent : (v.propose o).sent + (v.config.twtRetryLimit.toNat - (v.propose o).retries.toNat) ≤
      v.sent + v.config.twtRetryLimit.toNat := by
    unfold propose trySend
    split_ifs
    · show v.sent + 1 + (v.config.twtRetryLimit.toNat - 1) ≤ _
      omega
    · exact Nat.add_le_add_left (Nat.sub_le _ _) _
  have hfewer : v.config.twtRetryLimit.toNat - v.demands.toNat =
      v.config.twtRetryLimit.toNat - (v.demands.toNat + 1) + 1 := by omega
  rw [left_of_inProgress h, left_of_inProgress hprogress, v.config_propose, hdemands, hcount,
    hfewer, Nat.succ_mul]
  omega

end RetryView

section Runs

variable {s s' : TwtSys} {act : TwtAct}

/-- A negotiation that goes on is in progress. -/
theorem inProgress_of_not_ended {a : TwtAdapter} (hinv : a.retryView.Inv)
    (h : a.negotiationEnded = false) : a.retryView.inProgress = true := by
  by_contra hprogress
  have hover : a.twtSessionInProgress = false := Bool.eq_false_iff.2 hprogress
  have htimer : a.twtSetupTimer.pending = false :=
    Bool.eq_false_iff.2 fun hpending => hprogress (hinv.timer hpending)
  simp [TwtAdapter.negotiationEnded, hover, htimer] at h

theorem demands_lt_of_takesProposal {a : TwtAdapter} {fr : TwtSetupFrame}
    (htaken : a.takesProposal fr = true) (hreq : a.rsiTwtConfig.reqType = TWT_SETUP_CMD_DEMAND) :
    a.twtDemandRespRetryLimit < a.rsiTwtConfig.twtRetryLimit := by
  have hvalid := TwtAdapter.valid_of_takesProposal htaken
  rcases ((TwtAdapter.takesProposal_iff hvalid).1 htaken).2 with h | h | h
  · exact absurd (hreq.symm.trans h) (by decide)
  · exact absurd (hreq.symm.trans h.1) (by decide)
  · exact h.2.2

/-- A response, if a proposal is taken up only in answer to a demand. -/
theorem rxTwtSetup_sent_add_left_le {a a' : TwtAdapter} {o : Outcomes} {fr : TwtSetupFrame}
    (hinv : a.retryView.Inv) (hsettled : a.rsiTwtConfig.Settled)
    (hprogress : a.retryView.inProgress = true)
    (hdemands : (a.twtSessionInProgress && a.takesProposal fr) = true →
      a.rsiTwtConfig.reqType = TWT_SETUP_CMD_DEMAND)
    (hrx : a.rxTwtSetup o fr = some a') :
    a'.rsiTwtConfig = a.rsiTwtConfig ∧
      a'.retryView.sent + a'.retryView.left ≤ a.retryView.sent + a.retryView.left := by
  have hview := TwtAdapter.retryView_rxTwtSetup hinv hrx
  split_ifs at hview with htaken
  · obtain ⟨cfg, hview, hsame⟩ := hview
    rw [a.stopRetries_spec.2.2.1] at hsame
    rw [TwtAdapter.retryView_stopRetries hinv, hsame hsettled] at hview
    have hreq : a.retryView.config.reqType = TWT_SETUP_CMD_DEMAND := hdemands htaken
    have hlimit : a.retryView.demands < a.retryView.config.twtRetryLimit :=
      demands_lt_of_takesProposal (Bool.and_eq_true_iff.1 htaken).2 hreq
    have hpropose : a'.retryView = a.retryView.propose o := by
      rw [hview]
      exact RetryView.with_config_eq (RetryView.config_propose _ o)
    refine ⟨(congrArg RetryView.config hpropose).trans (RetryView.config_propose _ o), ?_⟩
    rw [hpropose]
    exact RetryView.propose_sent_add_left_le hprogress hreq hlimit
  · -- the negotiation is over
    refine ⟨congrArg RetryView.config hview, ?_⟩
    rw [hview]
    exact Nat.le_add_right _ _

/-- An expiry of the timer. -/
theorem twtSetupTimerCallback_sent_add_left_le {a : TwtAdapter} {o : Outcomes}
    (hsettled : a.rsiTwtConfig.Settled) (hprogress : a.retryView.inProgress = true) :
    (a.delSetupTimer.twtSetupTimerCallback o).rsiTwtConfig = a.rsiTwtConfig ∧
      (a.delSetupTimer.twtSetupTimerCallback o).retryView.sent +
        (a.delSetupTimer.twtSetupTimerCallback o).retryView.left ≤
          a.retryView.sent + a.retryView.left := by
  obtain ⟨cfg, hview, hsame⟩ := a.retryView_twtSetupTimerCallback o
  have hexpire : (a.delSetupTimer.twtSetupTimerCallback o).retryView = a.retryView.expire o := by
    rw [hview, hsame hsettled]
    exact RetryView.with_config_eq (RetryView.config_expire _ o)
  refine ⟨(congrArg RetryView.config hexpire).trans (RetryView.config_expire _ o), ?_⟩
  rw [hexpire]
  exact RetryView.expire_sent_add_left_le hprogress

/-- One step of a negotiation whose proposals answer demands. -/
theorem sent_add_left_le (hinv : s.adapter.retryView.Inv)
    (hsettled : s.adapter.rsiTwtConfig.Settled) (hneg : s.Negotiates act)
    (hdemands : DemandsOnly s act) (hstep : s.step act = some s') :
    s'.adapter.rsiTwtConfig = s.adapter.rsiTwtConfig ∧
      s'.sent + s'.adapter.retryView.left ≤ s.sent + s.adapter.retryView.left := by
  cases act with
  | rxSetup o fr =>
    obtain ⟨a', hrx, rfl⟩ := Option.map_eq_some_iff.1 hstep
    have hprogress := inProgress_of_not_ended hinv hneg
    exact rxTwtSetup_sent_add_left_le hinv hsettled hprogress hdemands hrx
  | setupTimer o =>
    simp only [TwtSys.step] at hstep
    split_ifs at hstep
    cases hstep
    have hprogress := inProgress_of_not_ended hinv hneg
    exact twtSetupTimerCallback_sent_add_left_le hsettled hprogress
  | configCmd | autoConfig | rxTeardown | associate | eapol4Confirm | disassociate | powerSave =>
    exact hneg.elim

end Runs

/-! ## The request -/

namespace TwtAdapter

variable {a : TwtAdapter} {o : Outcomes}

/-- What a setup frame was sent for is settled. -/
theorem settled_sendTwtSetupFrame
    (hsent : (a.sendTwtSetupFrame o .request false none).retryView.sent ≠ a.retryView.sent) :
    (a.sendTwtSetupFrame o .request false none).rsiTwtConfig.Settled := by
  obtain ⟨cfg, hview, -, hsettled⟩ := a.retryView_sendTwtSetupFrame o .request false none nofun
  have hconfig : (a.sendTwtSetupFrame o .request false none).rsiTwtConfig = cfg :=
    congrArg RetryView.config hview
  rw [hconfig]
  apply hsettled
  by_contra hdropped
  apply hsent
  rw [hview]
  show (a.retryView.trySend o).sent = _
  rw [RetryView.trySend, if_neg hdropped]

theorem sent_teardownByCommand (a : TwtAdapter) (o : Outcomes) :
    (a.teardownByCommand o).retryView.sent = a.retryView.sent :=
  congrArg RetryView.sent ((retryView_sendTeardownDetails _ o _).trans
    (a.retryView_sendTwtTeardownFrame o _ _))

theorem sent_processTwtSetupCmd (a : TwtAdapter) (cfg : TwtConfig) :
    (a.processTwtSetupCmd cfg).1.retryView.sent = a.retryView.sent :=
  congrArg (fun v => v.setups.length) (a.processTwtSetupCmd_spec cfg).1

/-- `TWT_CONFIG_CMD` asks for a session only while none is in progress. -/
theorem twtConfigCmd_sends {cfg : TwtConfig}
    (hsent : (a.twtConfigCmd o cfg).retryView.sent ≠ a.retryView.sent) :
    a.twtSessionInProgress = false ∧ (a.twtConfigCmd o cfg).rsiTwtConfig.Settled := by
  obtain ⟨-, hidle, hstored⟩ := a.processTwtSetupCmd_spec cfg
  rw [← a.sent_processTwtSetupCmd cfg] at hsent
  simp only [twtConfigCmd] at hsent ⊢
  split_ifs at hsent ⊢ with haccepted hax henable
  · exact absurd rfl hsent
  · exact absurd rfl hsent
  · have haccepted : (a.processTwtSetupCmd cfg).2 = true := by simpa using haccepted
    have hbusy := hidle haccepted (hstored haccepted ▸ henable)
    simp only [busy, Bool.or_eq_false_iff] at hbusy
    exact ⟨hbusy.2, settled_sendTwtSetupFrame hsent⟩
  · exact absurd (sent_teardownByCommand _ o) hsent

theorem applyAutoConfig_sends {user : TwtSelection}
    (hsent : (a.applyAutoConfig o user).retryView.sent ≠ a.retryView.sent) :
    (a.axEnabled = true ∧ user.twtEnable ≠ 0) ∧
      (a.applyAutoConfig o user).rsiTwtConfig.Settled := by
  unfold applyAutoConfig at hsent ⊢
  split_ifs at hsent ⊢ with hax henable
  · exact absurd rfl hsent
  · exact ⟨⟨by simpa using hax, henable⟩, settled_sendTwtSetupFrame hsent⟩
  · exact absurd (sent_teardownByCommand a o) hsent

theorem setupAfterConnection_sends
    (hsent : (a.setupAfterConnection o).retryView.sent ≠ a.retryView.sent) :
    (a.setupAfterConnection o).rsiTwtConfig.Settled := by
  unfold setupAfterConnection at hsent ⊢
  split_ifs at hsent ⊢
  · exact settled_sendTwtSetupFrame hsent
  · exact absurd rfl hsent

/-- `TWT_AUTO_CONFIG` sets the count of the timer back itself. -/
theorem twtAutoConfig_sends {a' : TwtAdapter} {user : TwtSelection}
    (hauto : a.twtAutoConfig o user = some a') (hsent : a'.retryView.sent ≠ a.retryView.sent) :
    a'.rsiTwtConfig.Settled ∧
      ∀ retries, { a with twtRetryCountLimit := retries }.twtAutoConfig o user = some a' := by
  obtain ⟨cfg, hcfg, rfl⟩ := Option.map_eq_some_iff.1 hauto
  have hstored : (a.storeAutoConfig user cfg).retryView.sent = a.retryView.sent :=
    congrArg (fun v => v.setups.length) (a.view_storeAutoConfig user cfg)
  obtain ⟨⟨hax, henable⟩, hsettled⟩ := applyAutoConfig_sends (hstored.symm ▸ hsent)
  refine ⟨hsettled, fun retries => Option.map_eq_some_iff.2 ⟨cfg, hcfg, ?_⟩⟩
  have hstore : { a with twtRetryCountLimit := retries }.storeAutoConfig user cfg =
      { a.storeAutoConfig user cfg with twtRetryCountLimit := retries } := by
    cases cfg <;> rfl
  rw [hstore]
  unfold applyAutoConfig
  rw [hax, if_pos henable, if_pos henable]
  rfl

end TwtAdapter

section Runs

variable {s s' : TwtSys} {act : TwtAct}

/-- Without a session in progress there is nothing to forget. -/
theorem forgetRetries_eq (hinv : s.adapter.retryView.Inv)
    (hprogress : s.adapter.twtSessionInProgress = false)
    (hzero : s.adapter.twtDemandRespRetryLimit = 0) : s.forgetRetries = s := by
  have hretries : s.adapter.twtRetryCountLimit = 0 := hinv.retries hprogress
  exact congrArg₂ (fun retries demands : BitVec 8 =>
    { s with adapter := { s.adapter with
        twtRetryCountLimit := retries, twtDemandRespRetryLimit := demands } })
    hretries.symm hzero.symm

/-- The configuration that a frame was sent for is settled. If no demand was answered by a proposal
before, the retries of earlier sessions had no part in it. -/
theorem starts_spec (hinv : s.adapter.retryView.Inv) (hstart : s.Starts act s') :
    s'.adapter.rsiTwtConfig.Settled ∧
      (s.adapter.twtDemandRespRetryLimit = 0 → s.RequestsAnew act →
        freshSystem.step s.forgetRetries act = some s') := by
  obtain ⟨hr, hstep, hsent⟩ := hstart
  have hne : s'.adapter.retryView.sent ≠ s.adapter.retryView.sent := by
    show s'.sent ≠ s.sent
    omega
  have hforget (hprogress : s.adapter.twtSessionInProgress = false)
      (hzero : s.adapter.twtDemandRespRetryLimit = 0) :
      freshSystem.step s.forgetRetries act = some s' := by
    rw [forgetRetries_eq hinv hprogress hzero, hstep]
  cases act with
  | configCmd o cfg =>
    cases hstep
    obtain ⟨hprogress, hsettled⟩ := TwtAdapter.twtConfigCmd_sends hne
    exact ⟨hsettled, fun hzero _ => hforget hprogress hzero⟩
  | autoConfig o user =>
    obtain ⟨a', hauto, rfl⟩ := Option.map_eq_some_iff.1 hstep
    obtain ⟨hsettled, hreset⟩ := TwtAdapter.twtAutoConfig_sends hauto hne
    refine ⟨hsettled, fun hzero _ => ?_⟩
    have hforgotten : s.forgetRetries.adapter = { s.adapter with twtRetryCountLimit := 0 } :=
      congrArg (fun demands : BitVec 8 => { s.adapter with
        twtRetryCountLimit := 0, twtDemandRespRetryLimit := demands }) hzero.symm
    show Option.map _ (s.forgetRetries.adapter.twtAutoConfig o user) = _
    rw [hforgotten, hreset 0]
    rfl
  | associate o he tr sec =>
    refine ⟨?_, fun hzero hprogress => hforget hprogress hzero⟩
    cases hstep
    show (s.adapter.associate o he tr sec).rsiTwtConfig.Settled
    have hne : (s.adapter.associate o he tr sec).retryView.sent ≠ s.adapter.retryView.sent := hne
    simp only [TwtAdapter.associate] at hne ⊢
    split_ifs at hne ⊢
    · exact absurd rfl hne
    · exact TwtAdapter.setupAfterConnection_sends hne
  | eapol4Confirm o =>
    refine ⟨?_, fun hzero hprogress => hforget hprogress hzero⟩
    cases hstep
    apply TwtAdapter.setupAfterConnection_sends
    rw [TwtAdapter.retryView_restoreUserPs]
    exact hne
  | rxSetup | rxTeardown | setupTimer | disassociate | powerSave => exact hr.elim

end Runs

/-! ## Negotiations with a bound -/

/-- The frames of a negotiation with this `twt_retry_limit`: the request with its retries, and as
many answers with theirs. -/
def negotiationBound (limit : BitVec 8) : ℕ :=
  1 + limit.toNat * limit.toNat + limit.toNat

/-- A negotiation in which only a demand is answered by proposals sends no more frames than its
limit allows. Its budget is its own if no demand was answered by a proposal before, and a connection
finds no session in progress. -/
theorem negotiation_bounded {s s' : TwtSys} {r : TwtAct} (hs : freshSystem.Reachable s)
    (hstart : s.Starts r s') :
    (∀ acts s'', freshSystem.runVia (fun s act => s.Negotiates act ∧ DemandsOnly s act) s' acts =
        some s'' → s''.sent ≤ s.sent + negotiationBound s'.adapter.rsiTwtConfig.twtRetryLimit) ∧
      (freshSystem.ReachableVia NoDemands s → s.RequestsAnew r → s.BudgetIndependent r) := by
  have hinv : s.adapter.retryView.Inv := retryInv_of_reachable hs
  obtain ⟨hsettled, hforget⟩ := starts_spec hinv hstart
  refine ⟨fun acts s'' hrun => ?_, fun hvia hanew acts => ?_⟩
  · -- the request is paid for, and what the counters leave pays for the rest
    have hpaid := TransitionSystem.runVia_potential
      (fun t : TwtSys => t.adapter.retryView.Inv ∧
        t.adapter.rsiTwtConfig = s'.adapter.rsiTwtConfig)
      TwtSys.sent (fun t => t.adapter.retryView.left) ?_
      ⟨(retryView_step hinv hstart.step).1, rfl⟩ hrun
    · have hleft := s'.adapter.retryView.left_le
      have hsent := hstart.sent
      unfold negotiationBound
      show _ ≤ s.sent + (1 + s'.adapter.retryView.config.twtRetryLimit.toNat *
        s'.adapter.retryView.config.twtRetryLimit.toNat +
          s'.adapter.retryView.config.twtRetryLimit.toNat)
      omega
    · rintro t act t' ⟨hinv, hconfig⟩ ⟨hneg, hdemands⟩ hstep
      obtain ⟨hsame, hle⟩ := sent_add_left_le hinv (hconfig ▸ hsettled) hneg hdemands hstep
      exact ⟨⟨(retryView_step hinv hstep).1, hsame.trans hconfig⟩, hle⟩
  · have hstep := hforget (demands_eq_zero_of_reachable hvia) hanew
    rw [TransitionSystem.run_cons, TransitionSystem.run_cons, hstart.step, hstep]

/-- A station that is associated, and has not asked for a session. -/
def associatedState : TwtSys :=
  (freshSystem.runVia NoDemands .start [.associate .good true (some true) true]).get rfl

/-- `sampleConfig` as a demand that may be retried once. -/
def sampleDemand : TwtConfig :=
  { sampleConfig with
    twtRetryLimit := 1
    reqType := TWT_SETUP_CMD_DEMAND }

/-- The access point proposes what `sampleConfig` asks for. -/
def sampleProposal : TwtSetupFrame :=
  { sampleGrant with
    twtElement := { sampleGrant.twtElement with reqTypeTwtSetupCommand := 5 } }

/-- The station has asked for `sampleDemand`. -/
def demandedState : TwtSys :=
  (freshSystem.step associatedState (.configCmd .good sampleDemand)).get rfl

/-- A proposal has been answered, and the session is granted. -/
def grantedState : TwtSys :=
  (freshSystem.runVia (fun s act => s.Negotiates act ∧ DemandsOnly s act) demandedState
    [.rxSetup .good sampleProposal, .rxSetup .good sampleGrant]).get rfl

theorem init_start : freshSystem.Init .start := ⟨TwtSys.init_start, rfl, rfl⟩

theorem reachableVia_associatedState : freshSystem.ReachableVia NoDemands associatedState :=
  TransitionSystem.reachableVia_get init_start rfl

/-- The conditions are kept by a first demand that is answered by a proposal. -/
theorem negotiation_bounded_grantedState :
    grantedState.adapter.twtSessionActive = true ∧
      grantedState.sent ≤ associatedState.sent + negotiationBound 1 ∧
        associatedState.BudgetIndependent (.configCmd .good sampleDemand) := by
  obtain ⟨hbound, hbudget⟩ := @negotiation_bounded associatedState demandedState
    (.configCmd .good sampleDemand) reachableVia_associatedState.reachable ⟨trivial, rfl, rfl⟩
  exact ⟨rfl, hbound _ _ (Option.some_get (by rfl)).symm,
    hbudget reachableVia_associatedState trivial⟩

/-! ## Negotiations without one -/

namespace TwtAdapter

variable {a a' : TwtAdapter} {o : Outcomes} {fr : TwtSetupFrame}

/-- The fields outside the view that decide on a proposal, and on the end of a negotiation. -/
def checks (a : TwtAdapter) : Bool × TwtSelection × Bool :=
  (a.twtAutoConfigEnable, a.userTwtAutoConfig, a.twtSessionActive)

theorem checks_suspendPs (a : TwtAdapter) (o : Outcomes) : (a.suspendPs o).checks = a.checks := by
  unfold suspendPs
  split_ifs <;> rfl

theorem checks_resumePs (a : TwtAdapter) (o : Outcomes) : (a.resumePs o).checks = a.checks := by
  unfold resumePs
  split_ifs <;> rfl

theorem checks_stopRetries (a : TwtAdapter) : a.stopRetries.checks = a.checks := by
  unfold stopRetries
  split_ifs <;> rfl

theorem checks_sendTwtSetupFrame (a : TwtAdapter) (o : Outcomes) (cause : SetupCause)
    (update : Bool) (resp : Option TwtSetupFrame) :
    (a.sendTwtSetupFrame o cause update resp).checks = a.checks := by
  have hps : (a.suspendPs o).checks = a.checks := a.checks_suspendPs o
  simp only [sendTwtSetupFrame]
  cases (a.suspendPs o).rsiTwtConfig.setupElement update resp with
  | none => split_ifs <;> first | rfl | exact hps
  | some el => split_ifs <;> first | rfl | exact hps

/-- A proposal to a request or a suggestion that is taken up. -/
theorem rxTwtSetup_eq_respProposed (hprogress : a.twtSessionInProgress = true)
    (htaken : a.takesProposal fr = true) (hreq : a.rsiTwtConfig.reqType ≠ TWT_SETUP_CMD_DEMAND) :
    a.rxTwtSetup o fr = some ((a.stopRetries.respProposed o fr).adapter.resumePs o) := by
  obtain ⟨hauto, -, hconfig, -, -⟩ := a.stopRetries_spec
  rw [← takesProposal_stopRetries] at htaken
  rw [← hconfig] at hreq
  have hvalid := valid_of_takesProposal htaken
  obtain ⟨hcmd, htype⟩ := (takesProposal_iff hvalid).1 htaken
  have haccept : fr.twtElement.setupCommand ≠ TWT_SETUP_CMD_ACCEPT := by
    exact fun haccept => not_takesProposal_accept haccept htaken
  have hrsp : a.stopRetries.respByReqType o fr = some (a.stopRetries.respProposed o fr) := by
    rcases htype with hrequest | ⟨hsuggest, htol⟩ | hdemand
    · simp only [respByReqType, respToRequest, hrequest, ne_eq, not_true_eq_false, false_and,
        if_false, if_pos (Or.inr hcmd), if_true, if_neg haccept]
    · have hrequest : a.stopRetries.rsiTwtConfig.reqType ≠ TWT_SETUP_CMD_REQUEST := by
        rw [hsuggest]
        decide
      simp only [respByReqType, respToSuggest, hsuggest, htol, ne_eq, not_true_eq_false, false_and,
        and_false, if_false, if_pos (Or.inr hcmd), if_true, if_neg haccept, Option.map_some,
        Bool.false_eq_true]
      exact if_neg (by decide)
    · exact absurd hdemand.1 hreq
  rw [rxTwtSetup, if_pos hprogress]
  simp only [mgmtProcessTwtSetupResp]
  rw [hvalid, if_neg Bool.false_ne_true, hrsp]
  rfl

/-- It is answered by a frame, and changes nothing that it was checked against. -/
theorem rxTwtSetup_proposed (hinv : a.retryView.Inv) (hsettled : a.rsiTwtConfig.Settled)
    (hprogress : a.twtSessionInProgress = true) (htaken : a.takesProposal fr = true)
    (hreq : a.rsiTwtConfig.reqType ≠ TWT_SETUP_CMD_DEMAND) (hqueued : o.setupQueued = true) :
    ∃ a', a.rxTwtSetup o fr = some a' ∧ a'.retryView = a.retryView.stop.send ∧
      a'.checks = a.checks := by
  have hidle : a.stopRetries.retryView.stop = a.stopRetries.retryView := by
    rw [retryView_stopRetries hinv]
    rfl
  obtain ⟨cfg, hview, hsame⟩ := @retryView_respProposed a.stopRetries o fr hidle
  rw [a.stopRetries_spec.2.2.1] at hsame
  rw [hidle, retryView_stopRetries hinv, hsame hsettled, RetryView.trySend, hqueued,
    if_pos rfl] at hview
  refine ⟨_, rxTwtSetup_eq_respProposed hprogress htaken hreq, ?_, ?_⟩
  · rw [retryView_resumePs, hview]
    rfl
  · rw [checks_resumePs]
    exact (checks_sendTwtSetupFrame _ o .proposal true (some fr)).trans a.checks_stopRetries

theorem takesProposal_congr (hchecks : a'.checks = a.checks)
    (hconfig : a'.rsiTwtConfig = a.rsiTwtConfig)
    (hdemands : a'.twtDemandRespRetryLimit = a.twtDemandRespRetryLimit) :
    a'.takesProposal fr = a.takesProposal fr := by
  simp only [checks, Prod.mk.injEq] at hchecks
  obtain ⟨hauto, huser, -⟩ := hchecks
  rw [takesProposal, takesProposal, hauto, huser, hconfig, hdemands]

end TwtAdapter

section Runs

variable {s : TwtSys} {o : Outcomes} {fr : TwtSetupFrame}

/-- What is taken up for a request or a suggestion is taken up again. -/
theorem proposal_again (hinv : s.adapter.retryView.Inv) (hsettled : s.adapter.rsiTwtConfig.Settled)
    (hneg : s.Negotiates (.rxSetup o fr)) (hdemands : ¬ DemandsOnly s (.rxSetup o fr))
    (hqueued : o.setupQueued = true) :
    ∃ s', s.step (.rxSetup o fr) = some s' ∧ s'.adapter.rsiTwtConfig.Settled ∧
      s'.Negotiates (.rxSetup o fr) ∧ ¬ DemandsOnly s' (.rxSetup o fr) ∧
        s'.sent = s.sent + 1 := by
  obtain ⟨htaken, hreq⟩ := Classical.not_imp.1 hdemands
  obtain ⟨hprogress, htaken⟩ := Bool.and_eq_true_iff.1 htaken
  obtain ⟨a', hrx, hview, hchecks⟩ :=
    TwtAdapter.rxTwtSetup_proposed hinv hsettled hprogress htaken hreq hqueued
  have hactive : a'.twtSessionActive = s.adapter.twtSessionActive := congrArg (·.2.2) hchecks
  have hconfig : a'.rsiTwtConfig = s.adapter.rsiTwtConfig := congrArg RetryView.config hview
  have hprogress' : a'.twtSessionInProgress = true := congrArg RetryView.inProgress hview
  have htaken' : a'.takesProposal fr = true :=
    (TwtAdapter.takesProposal_congr hchecks hconfig (congrArg RetryView.demands hview)).trans htaken
  refine ⟨{ s with adapter := a' }, Option.map_eq_some_iff.2 ⟨a', hrx, rfl⟩, ?_, ?_, ?_, ?_⟩
  · exact hconfig ▸ hsettled
  · have hneg : s.adapter.negotiationEnded = false := hneg
    show a'.negotiationEnded = false
    simp only [TwtAdapter.negotiationEnded, hprogress, hprogress', hactive] at hneg ⊢
    exact hneg
  · refine Classical.not_imp.2 ⟨Bool.and_eq_true_iff.2 ⟨hprogress', htaken'⟩, ?_⟩
    exact hconfig ▸ hreq
  · exact congrArg RetryView.sent hview

/-- The access point can repeat it without end. -/
theorem exists_run_of_not_demandsOnly (hinv : s.adapter.retryView.Inv)
    (hsettled : s.adapter.rsiTwtConfig.Settled) (hneg : s.Negotiates (.rxSetup o fr))
    (hdemands : ¬ DemandsOnly s (.rxSetup o fr)) (hqueued : o.setupQueued = true) (n : ℕ) :
    ∃ s', freshSystem.runVia TwtSys.Negotiates s (List.replicate n (.rxSetup o fr)) = some s' ∧
      s'.sent = s.sent + n := by
  induction n generalizing s with
  | zero => exact ⟨s, rfl, rfl⟩
  | succ n ih =>
    obtain ⟨t, hstep, hsettled', hneg', hdemands', hsent⟩ :=
      proposal_again hinv hsettled hneg hdemands hqueued
    obtain ⟨s', hrun, hlast⟩ := ih (retryView_step hinv hstep).1 hsettled' hneg' hdemands'
    refine ⟨s', ?_, ?_⟩
    · have hstep : freshSystem.step s (.rxSetup o fr) = some t := hstep
      rw [List.replicate_succ, TransitionSystem.runVia, if_pos hneg, hstep]
      exact hrun
    · rw [hlast, hsent, Nat.add_assoc, Nat.add_comm 1 n]

end Runs

/-- The station has suggested `sampleConfig`. -/
def suggestedState : TwtSys :=
  (freshSystem.step associatedState (.configCmd .good sampleConfig)).get rfl

/-- A demand was answered by a proposal and then granted, and the session has been torn down. -/
def retriedSchedule : List TwtAct :=
  [.associate .good true (some true) true, .configCmd .good sampleDemand,
    .rxSetup .good sampleProposal, .rxSetup .good sampleGrant, .rxTeardown .good ⟨1, 0, 0⟩]

/-- The state at the end of `retriedSchedule`. -/
def retriedState : TwtSys := (freshSystem.run .start retriedSchedule).get rfl

theorem starts_suggestedState :
    associatedState.Starts (.configCmd .good sampleConfig) suggestedState :=
  ⟨trivial, rfl, rfl⟩

/-- An access point that keeps proposing is answered for ever, and a demand has only what earlier
ones have left. -/
theorem not_negotiation_bounded :
    (¬ ∃ bound : BitVec 8 → ℕ, ∀ s r s', freshSystem.Reachable s → s.Starts r s' →
        ∀ acts s'', freshSystem.runVia TwtSys.Negotiates s' acts = some s'' →
          s''.sent ≤ s.sent + bound s'.adapter.rsiTwtConfig.twtRetryLimit) ∧
      ¬ ∀ s r s', freshSystem.Reachable s → s.Starts r s' → s.BudgetIndependent r := by
  refine ⟨?_, fun hall => ?_⟩
  · rintro ⟨bound, hall⟩
    have hreachable : freshSystem.Reachable suggestedState :=
      .step reachableVia_associatedState.reachable trivial starts_suggestedState.step
    have hsettled : suggestedState.adapter.rsiTwtConfig.Settled :=
      fun henable => absurd henable (by decide)
    -- one frame more than the bound allows
    obtain ⟨s'', hrun, hsent⟩ := @exists_run_of_not_demandsOnly suggestedState .good sampleProposal
      (retryInv_of_reachable hreachable) hsettled rfl (by decide) rfl
      (bound sampleConfig.twtRetryLimit)
    have hle := hall _ _ _ reachableVia_associatedState.reachable starts_suggestedState _ s'' hrun
    have hfirst : suggestedState.sent = associatedState.sent + 1 := starts_suggestedState.sent
    rw [hsent, hfirst] at hle
    have hlimit : suggestedState.adapter.rsiTwtConfig.twtRetryLimit = sampleConfig.twtRetryLimit :=
      rfl
    rw [hlimit] at hle
    omega
  · -- the second demand would be answered once more
    have hindep := hall retriedState (.configCmd .good sampleDemand) _
      (TransitionSystem.reachable_get init_start rfl)
      ⟨trivial, (Option.some_get (by rfl)).symm, rfl⟩ [.rxSetup .good sampleProposal]
    exact absurd hindep (by decide)

end Twt
