import Mathlib.Data.Int.Notation
import Mathlib.Data.Nat.Notation
import Mathlib.Tactic.ByContra
import Mathlib.Tactic.SplitIfs
import RsiDriver.ToMathlib.TransitionSystem

/-!
# The power-save state of the driver

`rsi_enable_ps` and `rsi_disable_ps` queue a request and move `ps_state` to a `*_REQ_SENT` value;
the confirm of the device moves it on to `PS_ENABLED` or `PS_NONE`. Confirms carry nothing but
their type, so a confirm of an older request can be taken for that of a newer one of the same type.
The last confirm still settles the state, because it belongs to the last request.

The exception is `rsi_conf_uapsd`, which queues a pair of requests without touching `ps_state`: when
the second request of the pair fails, the device has been told to stay awake and `ps_state` goes on
saying `PS_ENABLED`.

## Main results

* `not_psStateAgrees`: the second request of `rsi_conf_uapsd` cannot be allocated;
* `psStateAgrees_of_discipline`: in the runs in which no pair is left half queued, `ps_state` agrees
  with the last request whenever no request is outstanding.
-/

namespace PowerSave

/-- `enum ps_state`. -/
inductive PsState
  | none
  | enableReqSent
  | disableReqSent
  | enabled
deriving DecidableEq

/-- Type of a request to the device and of the confirm that answers it. -/
def SLEEP_REQUEST : BitVec 16 := 1

def WAKEUP_REQUEST : BitVec 16 := 2

/-- The parameters of `struct rsi_ps_info` that are sent with a request, and the monitor
interval. -/
structure PsInfo where
  sleepType : BitVec 8
  monitorInterval : BitVec 16
  listenIntervalDuration : BitVec 32
  numBcnsPerLisInt : BitVec 16
  dtimIntervalDuration : BitVec 32
  numDtimsPerSleep : BitVec 16
  deepSleepWakeupPeriod : BitVec 32
  uapsdWakeupPeriod : BitVec 8
deriving DecidableEq

/-- `struct rsi_request_ps`: the words of the descriptor that are set, `struct ps_sleep_params`
and the listen parameters. -/
structure RequestPs where
  descWord0 : BitVec 16
  descWord1 : BitVec 16
  descWord6 : BitVec 16
  enable : BitVec 8
  sleepType : BitVec 8
  connectedSleep : BitVec 8
  numBcnsPerLisInt : BitVec 16
  sleepDuration : BitVec 32
  psUapsdAcs : BitVec 8
  psUapsdWakeupPeriod : BitVec 8
  psListenIntervalDuration : BitVec 32
  psDtimIntervalDuration : BitVec 32
  psNumDtimIntervals : BitVec 16
deriving DecidableEq

/-- What the power-save functions read and write of `struct rsi_hw` and `struct rsi_common`. -/
structure PsAdapter where
  /-- The build: `LINUX_VERSION_CODE >= KERNEL_VERSION(6, 0, 0)`. -/
  kernel6 : Bool
  psState : PsState
  psInfo : PsInfo
  userPsEn : Bool
  disablePsFromLmac : Bool
  uapsdBitmap : BitVec 8
  uapsdMaxSpLen : BitVec 8
  /-- `sc_nvifs` is not zero and `vifs[0]` is associated. -/
  assoc : Bool
  /-- Every request queued so far, the oldest first. -/
  sent : List RequestPs
deriving DecidableEq

namespace PsAdapter

/-- `rsi_modify_ps_state`. -/
def modifyPsState (a : PsAdapter) (nstate : PsState) : PsAdapter := { a with psState := nstate }

/-- The request that `rsi_send_ps_request` fills in. -/
def requestPs (a : PsAdapter) (enable : Bool) : RequestPs where
  -- a frame of 42 bytes with its descriptor; bit 15 is also set by `rsi_send_internal_mgmt_frame`
  descWord0 := 26 ||| 0x4 <<< 12 ||| 0x8000
  descWord1 := 0x5
  descWord6 := if enable then SLEEP_REQUEST else WAKEUP_REQUEST
  enable := if enable then 1 else 0
  sleepType := a.psInfo.sleepType
  connectedSleep := if a.assoc then 2 else 1
  numBcnsPerLisInt := a.psInfo.numBcnsPerLisInt
  sleepDuration := a.psInfo.deepSleepWakeupPeriod
  psUapsdAcs := if a.uapsdBitmap = 0 then 0 else a.uapsdBitmap &&& 0x0f ||| a.uapsdMaxSpLen <<< 5
  psUapsdWakeupPeriod := if a.uapsdBitmap = 0 then 0 else a.psInfo.uapsdWakeupPeriod
  psListenIntervalDuration := a.psInfo.listenIntervalDuration
  psDtimIntervalDuration := a.psInfo.dtimIntervalDuration
  psNumDtimIntervals := a.psInfo.numDtimsPerSleep

/-- `rsi_send_ps_request`: queue a request; `none` is `-ENOMEM`. `alloc` is the outcome of
`dev_alloc_skb`. -/
def sendPsRequest (a : PsAdapter) (alloc enable : Bool) : Option PsAdapter :=
  if alloc then some { a with sent := a.sent ++ [a.requestPs enable] } else none

/-- `rsi_enable_ps`. -/
def enablePs (a : PsAdapter) (alloc : Bool) : PsAdapter :=
  match a.sendPsRequest alloc true with
  | none => a
  | some a =>
    let a := if a.kernel6 then { a with userPsEn := true } else a
    a.modifyPsState .enableReqSent

/-- The test of `rsi_disable_ps` before it clears `user_ps_en`: from kernel 6 on, and unless the
driver itself will enable power save again. -/
def clearsUserPsEn (a : PsAdapter) : Bool :=
  a.kernel6 && a.psInfo.monitorInterval == 0 && !a.disablePsFromLmac

/-- `rsi_disable_ps`. -/
def disablePs (a : PsAdapter) (alloc : Bool) : PsAdapter :=
  match a.sendPsRequest alloc false with
  | none => a
  | some a =>
    let a := if a.clearsUserPsEn then { a with userPsEn := false } else a
    a.modifyPsState .disableReqSent

/-- `rsi_conf_uapsd`: a wake-up and a sleep request, which renew the U-APSD parameters. -/
def confUapsd (a : PsAdapter) (alloc₁ alloc₂ : Bool) : PsAdapter :=
  if a.psState ≠ .enabled then a
  else match a.sendPsRequest alloc₁ false with
    | none => a
    | some a => (a.sendPsRequest alloc₂ true).getD a

/-- `rsi_handle_ps_confirm` and its return code. -/
def handlePsConfirm (a : PsAdapter) (cfmType : BitVec 16) : PsAdapter × ℤ :=
  if cfmType = SLEEP_REQUEST then
    (if a.psState = .enableReqSent then a.modifyPsState .enabled else a, 0)
  else if cfmType = WAKEUP_REQUEST then
    (if a.psState = .disableReqSent then a.modifyPsState .none else a, 0)
  else (a, -1)

/-- `rsi_enable_ps` when its request is queued. -/
theorem enablePs_true (a : PsAdapter) :
    a.enablePs true =
      { a with
        userPsEn := a.userPsEn || a.kernel6
        psState := .enableReqSent
        sent := a.sent ++ [a.requestPs true] } := by
  cases hk : a.kernel6 <;> simp [enablePs, sendPsRequest, modifyPsState, hk]

/-- `rsi_disable_ps` when its request is queued. -/
theorem disablePs_true (a : PsAdapter) :
    a.disablePs true =
      { a with
        userPsEn := a.userPsEn && !a.clearsUserPsEn
        psState := .disableReqSent
        sent := a.sent ++ [a.requestPs false] } := by
  have hclears (sent : List RequestPs) :
      { a with sent := sent }.clearsUserPsEn = a.clearsUserPsEn := rfl
  cases hc : a.clearsUserPsEn <;> simp [disablePs, sendPsRequest, modifyPsState, hclears, hc]

end PsAdapter

/-! ## Runs -/

/-- The driver and the number of requests that the device has confirmed. -/
structure PsSys where
  adapter : PsAdapter
  confirmed : ℕ
deriving DecidableEq

/-- Calls of the driver, with the outcome of their allocations, and confirms of the device. -/
inductive PsAct
  | enablePs (alloc : Bool)
  | disablePs (alloc : Bool)
  | confUapsd (alloc₁ alloc₂ : Bool)
  | confirm
deriving DecidableEq

namespace PsSys

/-- The oldest request without a confirm. -/
def unconfirmed (s : PsSys) : Option RequestPs := s.adapter.sent[s.confirmed]?

/-- One call, or one confirm: the device answers the requests in their order. -/
def step (s : PsSys) : PsAct → Option PsSys
  | .enablePs alloc => some { s with adapter := s.adapter.enablePs alloc }
  | .disablePs alloc => some { s with adapter := s.adapter.disablePs alloc }
  | .confUapsd alloc₁ alloc₂ => some { s with adapter := s.adapter.confUapsd alloc₁ alloc₂ }
  | .confirm => s.unconfirmed.map fun req =>
      ⟨(s.adapter.handlePsConfirm req.descWord6).1, s.confirmed + 1⟩

/-- Runs start in `PS_NONE` before any request, with any other settings. -/
def system : TransitionSystem PsSys PsAct where
  Init s := s.adapter.psState = .none ∧ s.adapter.sent = [] ∧ s.confirmed = 0
  step := step

end PsSys

/-- The state that the device is in after the requests `sent`. -/
def requestedState (sent : List RequestPs) : PsState :=
  match sent.getLast? with
  | none => .none
  | some req => if req.descWord6 = SLEEP_REQUEST then .enabled else .none

/-- Whenever no request is outstanding, `ps_state` is what the last request asked for. -/
def PsStateAgrees (s : PsSys) : Prop :=
  s.unconfirmed = none → s.adapter.psState = requestedState s.adapter.sent

/-- The condition on each step: a call of `rsi_conf_uapsd` in `PS_ENABLED` that queues its first
request queues the second one too. -/
def PsDiscipline (s : PsSys) : PsAct → Prop
  | .confUapsd alloc₁ alloc₂ => s.adapter.psState = .enabled → alloc₁ = true → alloc₂ = true
  | _ => True

instance (s : PsSys) (a : PsAct) : Decidable (PsDiscipline s a) :=
  match a with
  | .enablePs _ | .disablePs _ | .confirm => inferInstanceAs (Decidable True)
  | .confUapsd _ _ => inferInstanceAs (Decidable (_ = _ → _ = _ → _ = _))

/-! ## The pair left half queued -/

/-- A driver that has just been loaded, with the default parameters. -/
def PsSys.start : PsSys where
  adapter :=
    { kernel6 := true, psState := .none, psInfo := ⟨1, 0, 0, 0, 0, 1, 100, 100⟩
      userPsEn := false, disablePsFromLmac := false, uapsdBitmap := 0x0f, uapsdMaxSpLen := 0
      assoc := true, sent := [] }
  confirmed := 0

theorem PsSys.init_start : PsSys.system.Init PsSys.start := ⟨rfl, rfl, rfl⟩

/-- Power save is enabled. `rsi_conf_uapsd` sends its wake-up request and fails to allocate the
sleep request. -/
def halfPairSchedule : List PsAct :=
  [.enablePs true, .confirm, .confUapsd true false, .confirm]

/-- The driver takes the device to be in power save after it has asked it to wake up. -/
theorem not_psStateAgrees : ¬ ∀ s, PsSys.system.Reachable s → PsStateAgrees s := by
  refine TransitionSystem.not_forall_reachable_of_run halfPairSchedule
    PsSys.init_start rfl fun hagrees => ?_
  have hstate := hagrees rfl
  cases hstate

/-! ## The invariant of disciplined runs -/

/-- The state that the driver waits for, or is in. -/
def PsState.target : PsState → PsState
  | .none | .disableReqSent => .none
  | .enableReqSent | .enabled => .enabled

/-- The state is not one of the two `*_REQ_SENT` values. -/
def PsState.settled (st : PsState) : Prop := st.target = st

@[simp]
theorem requestedState_nil : requestedState [] = .none := rfl

@[simp]
theorem requestedState_append (sent : List RequestPs) (a : PsAdapter) (enable : Bool) :
    requestedState (sent ++ [a.requestPs enable]) = if enable then .enabled else .none := by
  cases enable <;> simp [requestedState, PsAdapter.requestPs, SLEEP_REQUEST, WAKEUP_REQUEST]

/-- The driver heads for the state that the last request asked for, and an unsettled state waits
for a confirm that is still to come. -/
structure PsInv (s : PsSys) : Prop where
  target : s.adapter.psState.target = requestedState s.adapter.sent
  confirmed : s.confirmed ≤ s.adapter.sent.length
  waiting : ¬ s.adapter.psState.settled → s.confirmed < s.adapter.sent.length
  typed : ∀ req ∈ s.adapter.sent,
    req.descWord6 = SLEEP_REQUEST ∨ req.descWord6 = WAKEUP_REQUEST

theorem PsAdapter.requestPs_typed (a : PsAdapter) (enable : Bool) :
    (a.requestPs enable).descWord6 = SLEEP_REQUEST ∨
      (a.requestPs enable).descWord6 = WAKEUP_REQUEST := by
  cases enable
  · exact .inr rfl
  · exact .inl rfl

/-- The last request asks for the state that the driver heads for. -/
theorem PsInv.of_sent {s : PsSys} {sent : List RequestPs} (a : PsAdapter) (enable : Bool)
    (hsent : s.adapter.sent = sent ++ [a.requestPs enable]) (hconfirmed : s.confirmed ≤ sent.length)
    (htyped : ∀ req ∈ sent, req.descWord6 = SLEEP_REQUEST ∨ req.descWord6 = WAKEUP_REQUEST)
    (htarget : s.adapter.psState.target = if enable then .enabled else .none) : PsInv s := by
  have hlen : s.adapter.sent.length = sent.length + 1 := by rw [hsent]; simp
  refine ⟨?_, by omega, fun _ => by omega, fun req hreq => ?_⟩
  · rw [hsent, requestedState_append, htarget]
  · rcases List.mem_append.1 (hsent ▸ hreq) with hold | hnew
    · exact htyped req hold
    · rw [List.mem_singleton.1 hnew]
      exact a.requestPs_typed enable

theorem PsInv.enablePs {s : PsSys} (hinv : PsInv s) (alloc : Bool) :
    PsInv { s with adapter := s.adapter.enablePs alloc } := by
  cases alloc with
  | false => exact hinv
  | true =>
    rw [PsAdapter.enablePs_true]
    exact .of_sent s.adapter true rfl hinv.confirmed hinv.typed rfl

theorem PsInv.disablePs {s : PsSys} (hinv : PsInv s) (alloc : Bool) :
    PsInv { s with adapter := s.adapter.disablePs alloc } := by
  cases alloc with
  | false => exact hinv
  | true =>
    rw [PsAdapter.disablePs_true]
    exact .of_sent s.adapter false rfl hinv.confirmed hinv.typed rfl

theorem PsInv.confUapsd {s : PsSys} (hinv : PsInv s) {alloc₁ alloc₂ : Bool}
    (hdisc : PsDiscipline s (.confUapsd alloc₁ alloc₂)) :
    PsInv { s with adapter := s.adapter.confUapsd alloc₁ alloc₂ } := by
  by_cases hen : s.adapter.psState = .enabled
  · cases alloc₁ with
    | false => simpa [PsAdapter.confUapsd, PsAdapter.sendPsRequest, hen] using hinv
    | true =>
      obtain rfl : alloc₂ = true := hdisc hen rfl
      -- the pair ends with a request for the state that the driver is in
      have hpair : s.adapter.confUapsd true true =
          { s.adapter with
            sent :=
              s.adapter.sent ++ [s.adapter.requestPs false] ++ [s.adapter.requestPs true] } := by
        simp [PsAdapter.confUapsd, PsAdapter.sendPsRequest, PsAdapter.requestPs, hen]
      rw [hpair]
      refine .of_sent s.adapter true rfl ?_ (fun req hreq => ?_) (by rw [hen]; rfl)
      · have := hinv.confirmed
        simp only [List.length_append]
        omega
      · rcases List.mem_append.1 hreq with hold | hnew
        · exact hinv.typed req hold
        · rw [List.mem_singleton.1 hnew]
          exact s.adapter.requestPs_typed false
  · simpa [PsAdapter.confUapsd, hen] using hinv

/-! ### The confirm -/

@[simp]
theorem PsAdapter.sent_handlePsConfirm (a : PsAdapter) (cfmType : BitVec 16) :
    (a.handlePsConfirm cfmType).1.sent = a.sent := by
  unfold handlePsConfirm modifyPsState
  split_ifs <;> rfl

/-- A confirm takes the driver nowhere but where it heads for. -/
theorem PsAdapter.target_handlePsConfirm (a : PsAdapter) (cfmType : BitVec 16) :
    (a.handlePsConfirm cfmType).1.psState.target = a.psState.target := by
  unfold handlePsConfirm modifyPsState
  split_ifs with hsleep hen hwake hdis
  · rw [hen]; rfl
  · rfl
  · rw [hdis]; rfl
  · rfl
  · rfl

/-- The confirm of a request for the state that the driver heads for settles the state. -/
theorem PsAdapter.settled_handlePsConfirm {a : PsAdapter} {req : RequestPs}
    (htyped : req.descWord6 = SLEEP_REQUEST ∨ req.descWord6 = WAKEUP_REQUEST)
    (htarget : a.psState.target = if req.descWord6 = SLEEP_REQUEST then .enabled else .none) :
    (a.handlePsConfirm req.descWord6).1.psState.settled := by
  unfold PsState.settled
  rw [target_handlePsConfirm]
  -- the test of the type succeeds, and the state that it waits for is the target
  rcases htyped with hreq | hreq
  · rw [hreq, if_pos rfl] at htarget
    cases hst : a.psState with
    | none | disableReqSent => rw [hst] at htarget; cases htarget
    | enableReqSent | enabled => simp [handlePsConfirm, modifyPsState, hreq, hst, PsState.target]
  · have hne : WAKEUP_REQUEST ≠ SLEEP_REQUEST := by decide
    rw [hreq, if_neg hne] at htarget
    cases hst : a.psState with
    | none | disableReqSent =>
      simp [handlePsConfirm, modifyPsState, hreq, hne, hst, PsState.target]
    | enableReqSent | enabled => rw [hst] at htarget; cases htarget

theorem PsInv.confirm {s s' : PsSys} (hinv : PsInv s) (h : s.step .confirm = some s') :
    PsInv s' := by
  obtain ⟨req, hreq, rfl⟩ := Option.map_eq_some_iff.1 h
  obtain ⟨hlt, hget⟩ := List.getElem?_eq_some_iff.1 hreq
  refine ⟨?_, ?_, fun hunsettled => ?_, ?_⟩
  · simpa [PsAdapter.target_handlePsConfirm] using hinv.target
  · rw [PsAdapter.sent_handlePsConfirm]
    exact hlt
  · -- an unsettled state was not confirmed by the last request
    have hle : s.confirmed + 1 ≤ s.adapter.sent.length := hlt
    rcases Nat.lt_or_eq_of_le hle with hmore | hlast
    · simpa using hmore
    · refine absurd (PsAdapter.settled_handlePsConfirm (hinv.typed req ?_) ?_) hunsettled
      · exact hget ▸ List.getElem_mem hlt
      · have hreqLast : s.adapter.sent.getLast? = some req := by
          rw [List.getLast?_eq_getElem?, ← hlast]
          exact hreq
        rw [hinv.target, requestedState, hreqLast]
  · simpa using hinv.typed

/-- In every run in which no pair of requests is left half queued, `ps_state` agrees with the
device whenever no request is outstanding. -/
theorem psStateAgrees_of_discipline {s : PsSys} (h : PsSys.system.ReachableVia PsDiscipline s) :
    PsStateAgrees s := by
  have hinv : PsInv s := by
    refine h.invariant PsInv ?_ fun s a s' hinv hdisc hstep => ?_
    · rintro s ⟨hstate, hsent, hconfirmed⟩
      exact ⟨by rw [hstate, hsent]; rfl, by simp [hconfirmed],
        fun hunsettled => absurd (by rw [hstate]; rfl) hunsettled, by simp [hsent]⟩
    · cases a with
      | enablePs alloc => exact Option.some.inj hstep ▸ hinv.enablePs alloc
      | disablePs alloc => exact Option.some.inj hstep ▸ hinv.disablePs alloc
      | confUapsd alloc₁ alloc₂ => exact Option.some.inj hstep ▸ hinv.confUapsd hdisc
      | confirm => exact hinv.confirm hstep
  intro hnone
  have hall : s.adapter.sent.length ≤ s.confirmed := List.getElem?_eq_none_iff.1 hnone
  -- an unsettled state would wait for one more confirm
  have hsettled : s.adapter.psState.settled := by
    by_contra hunsettled
    exact absurd (hinv.waiting hunsettled) (by omega)
  exact hsettled.symm.trans hinv.target

/-- Power save is enabled, disabled and enabled again before the first confirm, and the U-APSD
parameters are renewed before the last one. -/
def staleConfirmSchedule : List PsAct :=
  [.enablePs true, .disablePs true, .enablePs true, .confirm, .confUapsd true true, .confirm,
    .confirm, .confirm, .confirm]

/-- The state at the end of `staleConfirmSchedule`. -/
def staleConfirmState : PsSys :=
  (PsSys.system.runVia PsDiscipline .start staleConfirmSchedule).get rfl

/-- The discipline is kept by a run in which a stale confirm is taken for a newer one. -/
theorem psStateAgrees_staleConfirmState :
    staleConfirmState.unconfirmed = none ∧ PsStateAgrees staleConfirmState :=
  ⟨rfl, psStateAgrees_of_discipline
    (TransitionSystem.reachableVia_get PsSys.init_start rfl)⟩

end PowerSave
