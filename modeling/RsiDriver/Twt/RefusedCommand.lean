import RsiDriver.Twt.PsSuspension
import RsiDriver.Twt.SelfConsistency

/-!
# Target wake time: a refused command

`process_twt_setup_cmd` works on a copy of the message, and returns without freeing it when it
refuses. `use_case_based_twt_params_configuration` refuses before it has written anything, but the
netlink handler stores the message of the user all the same and goes on: it sends a setup frame for
the configuration that was there, or tears the session down. An automatic configuration that is
accepted enables TWT, also when the user asks to disable it.

## Main results

* `not_commandInOrder`: an automatic configuration that cannot be met asks for a session;
* `commandInOrder_iff`: a command is in order if and only if it is `Quiet`.
-/

namespace Twt

open PowerSave

/-- The netlink messages that configure TWT. -/
inductive TwtMessage
  | config (cfg : TwtConfig)
  | auto (user : TwtSelection)
deriving DecidableEq

namespace TwtAdapter

/-- The handler of the message; `none` is a division by zero. -/
def twtMessage (a : TwtAdapter) (o : Outcomes) : TwtMessage → Option TwtAdapter
  | .config cfg => some (a.twtConfigCmd o cfg)
  | .auto user => a.twtAutoConfig o user

/-- The message is refused: the function that processes it returns -1. -/
def Refuses (a : TwtAdapter) : TwtMessage → Prop
  | .config cfg => (a.processTwtSetupCmd cfg).2 = false
  | .auto user => user.useCaseBasedTwtParamsConfiguration a.rsiTwtConfig = some none

/-- `a'` is `a`, apart from `twt_current_status`. -/
def SameAs (a' a : TwtAdapter) : Prop := { a' with twtCurrentStatus := a.twtCurrentStatus } = a

/-- What a command leaves behind: a refused one nothing, and an automatic configuration that is
accepted to disable TWT does not enable it. -/
structure CommandInOrder (a : TwtAdapter) (msg : TwtMessage) (a' : TwtAdapter) : Prop where
  refused : a.Refuses msg → a'.SameAs a
  disabled : ∀ user, msg = .auto user → ¬ a.Refuses msg → user.twtEnable = 0 →
    a'.rsiTwtConfig.twtEnable = 0

/-! ## The condition -/

/-- `send_twt_setup_frame` changes nothing: there is no interface or buffer, or there is no
descriptor, and neither the defaults nor power save make a difference. -/
def SilentSetup (a : TwtAdapter) (o : Outcomes) : Prop :=
  o.vif = false ∨ o.setupSkb = false ∨
    o.setupDesc = false ∧ a.rsiTwtConfig.Settled ∧
      (a.ps.psState = .enabled → o.disablePs = false ∧ a.twtPsDisable = true)

/-- The teardown changes nothing: neither of its frames gets a buffer. -/
def SilentTeardown (o : Outcomes) : Prop :=
  ¬ (o.vif = true ∧ o.teardownSkb = true ∧ o.teardownDesc = true) ∧ o.configSkb = false

/-- A refused automatic configuration is the one that is stored already, and what it goes on to do
changes nothing. -/
def SilentAutoConfig (a : TwtAdapter) (o : Outcomes) (user : TwtSelection) : Prop :=
  user = a.userTwtAutoConfig ∧
    (a.axEnabled = true →
      if user.twtEnable ≠ 0 then
        a.twtAutoConfigEnable = true ∧ a.twtRetryCountLimit = 0 ∧ a.SilentSetup o
      else SilentTeardown o)

end TwtAdapter

/-- The wake duration that the user needs is longer than half the wake interval. -/
def TwtSelection.TooLong (user : TwtSelection) : Prop :=
  ∃ dur, user.calculateMinRequiredWakeDur user.maxAllowedWakeInterval = some dur ∧
    dur > (user.maxAllowedWakeInterval >>> 1).setWidth 64

/-- The commands that are in order. A `TWT_CONFIG_CMD` asks for a session while there is none, or
tears the active one down. An automatic configuration that cannot be met is silent, and one that can
enables TWT. -/
def TwtAdapter.Quiet (a : TwtAdapter) (o : Outcomes) : TwtMessage → Prop
  | .config cfg =>
    (cfg.twtEnable ≠ 0 → a.busy = false) ∧
      (cfg.twtEnable = 0 → a.twtSessionActive = true ∧
        (a.twtActiveSessionFlowId = cfg.twtFlowId ∨ cfg.twtFlowId = 0xff))
  | .auto user =>
    (user.TooLong → a.SilentAutoConfig o user) ∧ (¬ user.TooLong → user.twtEnable ≠ 0)

/-! ## An automatic configuration that cannot be met -/

/-- The wake interval is 100 ms, and the user needs 400 ms of it. -/
def sampleTooLong : TwtSelection where
  twtEnable := 1
  deviceAvgThroughput := 1
  expectedTxThroughput := 4
  estimatedExtraWakeDurationPercent := 0
  twtTolerableDeviation := 10
  defaultWakeIntervalMs := 100
  defaultMinWakeDurationMs := 8
  txLatency := 0
  rxLatency := 1000
  beaconWakeUpCountAfterSp := 2

/-- It is refused, and a setup frame is sent. -/
theorem not_commandInOrder : ¬ ∀ (a : TwtAdapter) (o : Outcomes) (msg : TwtMessage)
    (a' : TwtAdapter), a.twtMessage o msg = some a' → a.CommandInOrder msg a' := by
  intro hall
  have hinorder := hall associatedState.adapter .good (.auto sampleTooLong) _
    (Option.some_get (by rfl)).symm
  have hsame := hinorder.refused rfl
  have hsetups := congrArg (fun a : TwtAdapter => a.setups.length) hsame
  cases hsetups

/-- A request always gets its element. -/
theorem TwtConfig.exists_requestElement (cfg : TwtConfig) :
    ∃ el, cfg.setupElement false none = some el := by
  apply Option.ne_none_iff_exists'.1
  apply cfg.setupElement_ne_none
  exact fun hupdate => absurd hupdate Bool.false_ne_true

theorem TwtSelection.twtEnable_of_stored {user : TwtSelection} {cfg cfg' : TwtConfig}
    (hcfg : user.useCaseBasedTwtParamsConfiguration cfg = some (some cfg')) :
    cfg'.twtEnable = 1 := by
  obtain ⟨perSp, mantissa, hfields⟩ := (TwtSelection.storedConfig_spec hcfg).fields
  rw [hfields]
  rfl

/-! ## `TWT_CONFIG_CMD` -/

namespace TwtAdapter

variable {a a' b : TwtAdapter} {o : Outcomes}

/-- What is refused, by the tests of `process_twt_setup_cmd`. -/
theorem refuses_config_iff (a : TwtAdapter) (o : Outcomes) (cfg : TwtConfig) :
    a.Refuses (.config cfg) ↔ ¬ a.Quiet o (.config cfg) := by
  unfold Refuses Quiet
  simp only [processTwtSetupCmd]
  split_ifs with hbusy hflow hnone
  · refine ⟨fun _ hquiet => ?_, fun _ => rfl⟩
    exact Bool.noConfusion (hbusy.2.symm.trans (hquiet.1 hbusy.1))
  · exact ⟨fun _ hquiet => (hquiet.2 hflow.1).2.elim hflow.2.2.1 hflow.2.2.2, fun _ => rfl⟩
  · have hinactive : a.twtSessionActive = false := by simpa using hnone.2
    refine ⟨fun _ hquiet => ?_, fun _ => rfl⟩
    exact Bool.noConfusion (hinactive.symm.trans (hquiet.2 hnone.1).1)
  · refine ⟨fun hrefuses => hrefuses.elim,
      fun hloud => absurd ⟨fun henable => ?_, fun henable => ?_⟩ hloud⟩
    · exact Bool.eq_false_iff.2 fun h => hbusy ⟨henable, h⟩
    · have hactive : a.twtSessionActive = true := by simpa [henable] using hnone
      refine ⟨hactive, ?_⟩
      by_contra hdiffers
      exact hflow ⟨henable, hactive, not_or.1 hdiffers⟩

/-- The copy of a refused message stays allocated. -/
theorem cmdCopies_of_refuses {cfg : TwtConfig} (hrefuses : a.Refuses (.config cfg)) :
    (a.twtConfigCmd o cfg).cmdCopies = a.cmdCopies + 1 := by
  have hrefused : (a.processTwtSetupCmd cfg).2 = false := hrefuses
  have hcopies : (a.processTwtSetupCmd cfg).1.cmdCopies = a.cmdCopies + 1 := by
    simp only [processTwtSetupCmd] at hrefused ⊢
    split_ifs at hrefused ⊢ <;> rfl
  simp only [twtConfigCmd, hrefused, Bool.not_false, if_true]
  exact hcopies

theorem commandInOrder_config_iff (a : TwtAdapter) (o : Outcomes) (cfg : TwtConfig) :
    a.CommandInOrder (.config cfg) (a.twtConfigCmd o cfg) ↔ a.Quiet o (.config cfg) := by
  refine ⟨fun hinorder => ?_, fun hquiet => ⟨fun hrefuses => ?_, nofun⟩⟩
  · by_contra hloud
    have hrefuses := (a.refuses_config_iff o cfg).2 hloud
    have hcopies : (a.twtConfigCmd o cfg).cmdCopies = a.cmdCopies :=
      congrArg (·.cmdCopies) (hinorder.refused hrefuses)
    rw [cmdCopies_of_refuses hrefuses] at hcopies
    omega
  · exact absurd hquiet ((a.refuses_config_iff o cfg).1 hrefuses)

/-! ## `TWT_AUTO_CONFIG` -/

theorem refuses_auto_iff (a : TwtAdapter) (user : TwtSelection) :
    a.Refuses (.auto user) ↔ user.TooLong := by
  unfold Refuses TwtSelection.TooLong TwtSelection.useCaseBasedTwtParamsConfiguration
  simp only [Option.bind_eq_bind, Option.pure_def]
  cases hdur : user.calculateMinRequiredWakeDur user.maxAllowedWakeInterval with
  | none => simp
  | some dur =>
    rw [Option.bind_some]
    split_ifs with hlong
    · exact ⟨fun _ => ⟨dur, rfl, hlong⟩, fun _ => rfl⟩
    · refine ⟨fun hnone => ?_, fun ⟨dur', hdur', hlong'⟩ => ?_⟩
      · obtain ⟨periods, -, hsome⟩ := Option.bind_eq_some_iff.1 hnone
        obtain ⟨perSp, -, hsome⟩ := Option.bind_eq_some_iff.1 hsome
        cases hsome
      · exact absurd (Option.some.inj hdur' ▸ hlong') hlong

/-- The defaults become the configuration as soon as there is a buffer. -/
theorem rsiTwtConfig_sendTwtSetupFrame (a : TwtAdapter) (o : Outcomes) (hvif : o.vif = true)
    (hskb : o.setupSkb = true) :
    (a.sendTwtSetupFrame o .request false none).rsiTwtConfig.Settled := by
  obtain ⟨el, hel⟩ := a.rsiTwtConfig.exists_requestElement
  simp only [sendTwtSetupFrame, hvif, hskb, rsiTwtConfig_suspendPs, hel, Bool.not_true,
    Bool.or_self, Bool.false_eq_true, if_false]
  by_cases henable : a.rsiTwtConfig.twtEnable = 0
  · simp only [henable, if_true]
    split_ifs <;> exact settled_withDefaults _
  · have hsame : (a.suspendPs o).rsiTwtConfig.Settled := by
      rw [rsiTwtConfig_suspendPs]
      exact fun hzero => absurd hzero henable
    simp only [henable, if_false]
    split_ifs <;> exact hsame

theorem sendTwtSetupFrame_of_silent (hsilent : a.SilentSetup o) :
    a.sendTwtSetupFrame o .request false none = a := by
  rcases hsilent with hvif | hskb | ⟨hdesc, hsettled, hps⟩
  · simp [sendTwtSetupFrame, hvif]
  · simp [sendTwtSetupFrame, hskb]
  · -- power save stays as it is, and so do the defaults
    obtain ⟨el, hel⟩ := a.rsiTwtConfig.exists_requestElement
    have hsuspend : a.suspendPs o = a := by
      unfold suspendPs
      split_ifs with henabled
      · obtain ⟨halloc, hdisable⟩ := hps henabled
        have hsame : a.ps.disablePs o.disablePs = a.ps := by
          rw [halloc]
          rfl
        rw [hsame, ← hdisable]
      · rfl
    have hdefaults : a.rsiTwtConfig.twtEnable = 0 →
        { a with rsiTwtConfig := a.rsiTwtConfig.withDefaults } = a := by
      intro henable
      rw [hsettled henable]
    simp only [sendTwtSetupFrame, hsuspend, hel, hdesc, Bool.false_eq_true, if_false]
    split_ifs with hnone henable
    · rfl
    · exact hdefaults henable
    · rfl

/-- What does not read the status is the same. -/
theorem SameAs.congr {α : Type} (hsame : a'.SameAs a) (f : TwtAdapter → α)
    (hstatus : ∀ (a : TwtAdapter) (status : TwtStatus),
      f { a with twtCurrentStatus := status } = f a) :
    f a' = f a :=
  (hstatus a' _).symm.trans (congrArg f hsame)

theorem SameAs.trans {c : TwtAdapter} (h : c.SameAs b) (hsame : b.SameAs a) : c.SameAs a := by
  have hstatus : { c with twtCurrentStatus := a.twtCurrentStatus } =
      { b with twtCurrentStatus := a.twtCurrentStatus } :=
    congrArg (fun b : TwtAdapter => { b with twtCurrentStatus := a.twtCurrentStatus }) h
  exact hstatus.trans hsame

/-- What a setup frame changes: the frames sent, power save, or the configuration. -/
theorem silent_of_sendTwtSetupFrame (hps : b.psPart = a.psPart) (hsent : b.setups = a.setups)
    (hsame : (b.sendTwtSetupFrame o .request false none).SameAs a) :
    a.SilentSetup o ∧ a.twtRetryCountLimit = b.twtRetryCountLimit := by
  obtain ⟨cfg, hview, -, -⟩ := b.retryView_sendTwtSetupFrame o .request false none nofun
  have hviews : (b.sendTwtSetupFrame o .request false none).retryView = a.retryView :=
    hsame.congr retryView fun _ _ => rfl
  rw [hview] at hviews
  -- a frame that is queued is one more
  have hdropped : o.setupQueued = false := by
    refine Bool.eq_false_iff.2 fun hqueued => ?_
    have hmore : (b.retryView.trySend o).sent = a.retryView.sent := by
      rw [← hviews]
    rw [RetryView.trySend, if_pos hqueued] at hmore
    have hlength : b.setups.length + 1 = a.setups.length := hmore
    rw [hsent] at hlength
    omega
  have hretries : (b.retryView.trySend o).retries = a.retryView.retries := by
    rw [← hviews]
  rw [RetryView.trySend, hdropped, if_neg Bool.false_ne_true] at hretries
  refine ⟨?_, hretries.symm⟩
  unfold SilentSetup
  cases hvif : o.vif with
  | false => exact Or.inl rfl
  | true =>
    cases hskb : o.setupSkb with
    | false => exact Or.inr (Or.inl rfl)
    | true =>
      refine Or.inr (Or.inr ⟨?_, ?_, fun henabled => ?_⟩)
      · simpa [Outcomes.setupQueued, hvif, hskb] using hdropped
      · have hstored : (b.sendTwtSetupFrame o .request false none).rsiTwtConfig = a.rsiTwtConfig :=
          hsame.congr TwtAdapter.rsiTwtConfig fun _ _ => rfl
        exact hstored ▸ b.rsiTwtConfig_sendTwtSetupFrame o hvif hskb
      · have hpart : (b.sendTwtSetupFrame o .request false none).psPart = a.psPart :=
          hsame.congr psPart fun _ _ => rfl
        have hsuspends : o.suspends a.psPart.ps = true := by
          rw [Outcomes.suspends, hvif, hskb]
          exact decide_eq_true henabled
        rw [psPart_sendTwtSetupFrame, hps, PsPart.suspend, if_pos hsuspends] at hpart
        refine ⟨Bool.eq_false_iff.2 fun halloc => ?_, (congrArg PsPart.twtPsDisable hpart).symm⟩
        have hstate : (a.ps.disablePs o.disablePs).psState = a.ps.psState :=
          congrArg (fun p : PsPart => p.ps.psState) hpart
        rw [halloc, PsAdapter.disablePs_true, henabled] at hstate
        cases hstate

theorem teardownByCommand_frames (a : TwtAdapter) (o : Outcomes) :
    (a.teardownByCommand o).teardowns.length = a.teardowns.length +
        (if o.vif && o.teardownSkb && o.teardownDesc then 1 else 0) ∧
      (a.teardownByCommand o).configs.length = a.configs.length +
        (if o.configSkb then 1 else 0) ∧
      (a.teardownByCommand o).userTwtAutoConfig = a.userTwtAutoConfig := by
  unfold teardownByCommand sendTeardownDetails sendTwtTeardownFrame
  cases o.vif && o.teardownSkb && o.teardownDesc <;> cases o.configSkb <;> simp

/-- A teardown is noticed unless neither frame gets a buffer. -/
theorem silent_of_teardownByCommand (hteardowns : b.teardowns = a.teardowns)
    (hconfigs : b.configs = a.configs) (hsame : (b.teardownByCommand o).SameAs a) :
    SilentTeardown o ∧ b.userTwtAutoConfig = a.userTwtAutoConfig := by
  obtain ⟨hsent, htold, huser⟩ := b.teardownByCommand_frames o
  rw [hsame.congr (·.teardowns.length) fun _ _ => rfl, hteardowns] at hsent
  rw [hsame.congr (·.configs.length) fun _ _ => rfl, hconfigs] at htold
  rw [hsame.congr (·.userTwtAutoConfig) fun _ _ => rfl] at huser
  refine ⟨⟨fun hframe => ?_, Bool.eq_false_iff.2 fun hskb => ?_⟩, huser.symm⟩
  · rw [hframe.1, hframe.2.1, hframe.2.2] at hsent
    exact absurd hsent (Nat.ne_of_lt (Nat.lt_succ_self _))
  · rw [hskb] at htold
    exact absurd htold (Nat.ne_of_lt (Nat.lt_succ_self _))

theorem teardownByCommand_of_silent (hsilent : SilentTeardown o) :
    (a.teardownByCommand o).SameAs a := by
  have hframe : (o.vif && o.teardownSkb && o.teardownDesc) = false := by
    refine Bool.eq_false_iff.2 fun hframe => hsilent.1 ?_
    rw [Bool.and_eq_true, Bool.and_eq_true] at hframe
    exact ⟨hframe.1.1, hframe.1.2, hframe.2⟩
  unfold SameAs teardownByCommand sendTeardownDetails sendTwtTeardownFrame
  simp only [hframe, hsilent.2, Bool.false_eq_true, if_false]

/-- What is done for a refused automatic configuration is noticed, unless it is silent. -/
theorem applyAutoConfig_sameAs_iff (a : TwtAdapter) (o : Outcomes) (user : TwtSelection) :
    ((a.storeAutoConfig user none).applyAutoConfig o user).SameAs a ↔
      a.SilentAutoConfig o user := by
  unfold applyAutoConfig SilentAutoConfig
  cases hax : a.axEnabled with
  | false =>
    have hoff : (!(a.storeAutoConfig user none).axEnabled) = true := congrArg Bool.not hax
    rw [if_pos hoff]
    refine ⟨fun hsame => ⟨?_, fun h => absurd h Bool.false_ne_true⟩, fun ⟨huser, _⟩ => ?_⟩
    · exact hsame.congr (·.userTwtAutoConfig) fun _ _ => rfl
    · unfold SameAs storeAutoConfig
      rw [huser]
  | true =>
    have hon : ¬ (!(a.storeAutoConfig user none).axEnabled) = true :=
      fun hoff => absurd ((congrArg Bool.not hax).symm.trans hoff) Bool.false_ne_true
    rw [if_neg hon]
    simp only [forall_const]
    by_cases henable : user.twtEnable ≠ 0
    · rw [if_pos henable, if_pos henable]
      refine ⟨fun hsame => ?_, fun ⟨huser, hauto, hretries, hsilent⟩ => ?_⟩
      · obtain ⟨hsilent, hretries⟩ := @silent_of_sendTwtSetupFrame a
          { a.storeAutoConfig user none with twtAutoConfigEnable := true, twtRetryCountLimit := 0 }
          o rfl rfl hsame
        have hchecks := checks_sendTwtSetupFrame
          { a.storeAutoConfig user none with twtAutoConfigEnable := true, twtRetryCountLimit := 0 }
          o .request false none
        rw [hsame.congr checks fun _ _ => rfl] at hchecks
        exact ⟨(congrArg (·.2.1) hchecks).symm, congrArg (·.1) hchecks, hretries, hsilent⟩
      · have hsent : ({ a.storeAutoConfig user none with
            twtAutoConfigEnable := true
            twtRetryCountLimit := 0 } : TwtAdapter).sendTwtSetupFrame o .request false none =
              { a.storeAutoConfig user none with
                twtAutoConfigEnable := true
                twtRetryCountLimit := 0 } := sendTwtSetupFrame_of_silent hsilent
        rw [hsent]
        cases a
        cases huser
        cases hauto
        cases hretries
        rfl
    · rw [if_neg henable, if_neg henable]
      refine ⟨fun hsame => ?_, fun ⟨huser, hsilent⟩ => ?_⟩
      · obtain ⟨hsilent, huser⟩ :=
          @silent_of_teardownByCommand a (a.storeAutoConfig user none) o rfl rfl hsame
        exact ⟨huser, hsilent⟩
      · have hsame := @teardownByCommand_of_silent (a.storeAutoConfig user none) o hsilent
        have hstored : (a.storeAutoConfig user none).SameAs a := by
          unfold SameAs storeAutoConfig
          rw [huser]
        exact hsame.trans hstored

theorem rsiTwtConfig_teardownByCommand (a : TwtAdapter) (o : Outcomes) :
    (a.teardownByCommand o).rsiTwtConfig = a.rsiTwtConfig := by
  unfold teardownByCommand sendTeardownDetails sendTwtTeardownFrame
  simp only
  split_ifs <;> rfl

/-- An automatic configuration that is accepted enables TWT. -/
theorem twtEnable_of_accepted {user : TwtSelection} (hauto : a.twtAutoConfig o user = some a')
    (haccepted : ¬ a.Refuses (.auto user)) (hdisable : user.twtEnable = 0) :
    a'.rsiTwtConfig.twtEnable = 1 := by
  obtain ⟨cfg, hcfg, rfl⟩ := Option.map_eq_some_iff.1 hauto
  cases cfg with
  | none => exact absurd hcfg haccepted
  | some cfg =>
    have hstored : cfg.twtEnable = 1 := TwtSelection.twtEnable_of_stored hcfg
    show ((a.storeAutoConfig user (some cfg)).applyAutoConfig o user).rsiTwtConfig.twtEnable = 1
    unfold applyAutoConfig
    rw [if_neg (not_not.2 hdisable)]
    split_ifs
    · exact hstored
    · rw [rsiTwtConfig_teardownByCommand]
      exact hstored

end TwtAdapter

/-- **A command is in order if and only if it is `Quiet`**: a refused `TWT_CONFIG_CMD` loses its
copy, a refused automatic configuration is stored and acted on, and an accepted one enables TWT. -/
theorem commandInOrder_iff {a a' : TwtAdapter} {o : Outcomes} {msg : TwtMessage}
    (hhandled : a.twtMessage o msg = some a') : a.CommandInOrder msg a' ↔ a.Quiet o msg := by
  cases msg with
  | config cfg =>
    cases hhandled
    exact a.commandInOrder_config_iff o cfg
  | auto user =>
    have hrefuses := a.refuses_auto_iff user
    by_cases hlong : user.TooLong
    · have hnone : user.useCaseBasedTwtParamsConfiguration a.rsiTwtConfig = some none :=
        hrefuses.2 hlong
      have hauto : a.twtAutoConfig o user =
          some ((a.storeAutoConfig user none).applyAutoConfig o user) := by
        rw [TwtAdapter.twtAutoConfig, hnone]
        rfl
      obtain rfl : (a.storeAutoConfig user none).applyAutoConfig o user = a' :=
        Option.some.inj (hauto.symm.trans hhandled)
      have hsame := a.applyAutoConfig_sameAs_iff o user
      refine ⟨fun hinorder => ⟨fun _ => hsame.1 (hinorder.refused hnone), absurd hlong⟩,
        fun hquiet => ⟨fun _ => hsame.2 (hquiet.1 hlong), fun user' hmsg haccepted => ?_⟩⟩
      cases hmsg
      exact absurd hnone haccepted
    · have haccepted : ¬ a.Refuses (.auto user) := fun h => hlong (hrefuses.1 h)
      refine ⟨fun hinorder => ⟨fun h => absurd h hlong, fun _ hdisable => ?_⟩,
        fun hquiet => ⟨fun h => absurd h haccepted, fun user' hmsg _ hdisable => ?_⟩⟩
      · have henable := TwtAdapter.twtEnable_of_accepted hhandled haccepted hdisable
        exact absurd (henable.symm.trans (hinorder.disabled user rfl haccepted hdisable))
          (by decide)
      · cases hmsg
        exact absurd hdisable (hquiet.2 hlong)

/-- A station that is not connected, and has stored the same automatic configuration before. -/
def storedState : TwtAdapter := { TwtSys.start.adapter with userTwtAutoConfig := sampleTooLong }

/-- There a refused automatic configuration changes nothing. -/
theorem commandInOrder_storedState :
    storedState.CommandInOrder (.auto sampleTooLong)
      { storedState with twtCurrentStatus := .autoConfigFail } := by
  refine (@commandInOrder_iff storedState _ .good (.auto sampleTooLong) rfl).2 ⟨fun _ => ?_, ?_⟩
  · exact ⟨rfl, fun hax => absurd hax Bool.false_ne_true⟩
  · exact fun hshort => absurd ⟨400, rfl, by decide⟩ hshort

end Twt
