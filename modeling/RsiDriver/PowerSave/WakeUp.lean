import Mathlib.Data.Fintype.Basic
import RsiDriver.PowerSave.Senders

/-!
# No wake-up is lost

A thread that finds the access withdrawn sets `wait_for_tx_access` and waits until
`sleep_exit_recvd`, which grants the access and then examines the flag of every protocol, clears
it. The test of the access, the setting of the flag and the wait are outside `tx_access_lock`.

The defect is the window between the test and the setting of the flag: when the grant and the
examination of the flag both fall into it, the flag is set after nobody will look at it again,
and the thread waits its six seconds with the access granted. A denied sleep entry, which also
grants the access and clears the flags, has the same window.

## Main results

* `not_noLostWakeUp`: a direct caller sets its flag after the sleep exit examined it;
* `noLostWakeUp_of_discipline`: no wake-up is lost in the runs in which no flag is examined inside
  that window.
-/

namespace PowerSave

variable {ι : Type*} [DecidableEq ι]

/-- While the access is granted and no sleep exit is being processed, no thread waits with its
flag set, so no call can run into the `-ETIME` branch. -/
structure NoLostWakeUp (s : Sys ι) : Prop where
  woken : s.shared.rx = .idle → s.shared.common.commonHalTxAccess = true →
    ∀ t c, (s.task t).pc = .waiting c → (s.shared.common.techs c.id).waitForTxAccess = false
  noTimeout : s.shared.rx = .idle → s.shared.common.commonHalTxAccess = true →
    ∀ t, s.timeout t = none

/-- The protocol id of a call between the failed test of the access and the setting of its
flag. -/
def Pc.aboutToWait : Pc → Option TechId
  | .setWait c => some c.id
  | _ => none

/-- The condition on each step. When `sleep_exit_recvd` examines the flag of `id`, no thread is
about to set it; and when a sleep entry is denied, no thread is about to set any flag. -/
def WakeDiscipline (s : Sys ι) : Act ι → Prop
  | .exitStep => ∀ t, ∀ id ∈ (s.task t).pc.aboutToWait, s.shared.rx ≠ .exitScan id
  | .notify word _ => isUlpSleepEntry word = true → s.shared.common.protocolTxAccess = true →
      ∀ t, (s.task t).pc.aboutToWait = none
  | _ => True

/-! ## The lost wake-up -/

/-- The device sleeps. The direct caller finds the access withdrawn; a sleep exit is processed from
beginning to end; the direct caller sets its flag and waits. -/
def lostSchedule : List (Act Thread) :=
  [.notify 0x51 true, .sendPkt .direct, .advance .direct true, .advance .direct true,
    .notify 0 true, .exitStep, .exitStep, .exitStep, .exitStep, .advance .direct true]

/-- The driver leaves a thread waiting although the access is granted. -/
theorem not_noLostWakeUp :
    ¬ ∀ s, (Sys.system wlanAndDirect).Reachable s → NoLostWakeUp s := by
  refine TransitionSystem.not_forall_reachable_of_run lostSchedule
    (Sys.init_start wlanAndDirect true) rfl fun hwake => ?_
  have hflag := hwake.woken rfl rfl .direct .sendPkt rfl
  cases hflag

/-! ## The invariant of disciplined runs -/

/-- The flags that `sleep_exit_recvd` has still to examine. -/
def RxPc.unscanned : RxPc → List TechId
  | .idle | .exitGrant => []
  | .exitScan .wlan => [.wlan, .btZb, .common]
  | .exitScan .btZb => [.btZb, .common]
  | .exitScan .common => [.common]

@[simp]
theorem RxPc.mem_unscanned_exitScan_wlan (id : TechId) :
    id ∈ (RxPc.exitScan .wlan).unscanned := by
  cases id <;> simp [unscanned]

/-- Examining one flag leaves the others to examine. -/
theorem RxPc.mem_unscanned_afterScan {id i : TechId} (h : i ∈ (RxPc.exitScan id).unscanned)
    (hne : i ≠ id) : i ∈ (RxPc.afterScan id).unscanned := by
  cases id <;> cases i <;> simp_all [unscanned, afterScan, TechId.next]

/-- While the access is granted, every set flag, and every flag about to be set, is still to be
examined. -/
structure WakeInv (s : Sys ι) : Prop where
  flag : s.shared.common.commonHalTxAccess = true →
    ∀ id, (s.shared.common.techs id).waitForTxAccess = true → id ∈ s.shared.rx.unscanned
  pc : s.shared.common.commonHalTxAccess = true →
    ∀ t, ∀ id ∈ (s.task t).pc.aboutToWait, id ∈ s.shared.rx.unscanned

omit [DecidableEq ι] in
theorem WakeInv.start (txAccess : Bool) : WakeInv (Sys.start txAccess : Sys ι) where
  flag _ id h := by simp [Sys.start, Shared.start, Common.start] at h
  pc _ t id h := by simp [Sys.start, Pc.aboutToWait] at h

omit [DecidableEq ι] in
/-- Without the access there is nothing to show. -/
theorem WakeInv.of_withdrawn {s : Sys ι} (h : s.shared.common.commonHalTxAccess = false) :
    WakeInv s :=
  ⟨fun hacc => absurd (h.symm.trans hacc) (by simp),
    fun hacc => absurd (h.symm.trans hacc) (by simp)⟩

/-- A thread that is not about to set a flag afterwards keeps the invariant. -/
theorem WakeInv.setTask {s : Sys ι} (hinv : WakeInv s) {t : ι} {task' : Task}
    (h : task'.pc.aboutToWait = none) : WakeInv (s.setTask t task') where
  flag := hinv.flag
  pc hacc u id hid := by
    by_cases hut : u = t
    · rw [hut, Sys.setTask_task_self, h] at hid
      cases hid
    · rw [Sys.setTask_task_of_ne hut] at hid
      exact hinv.pc hacc u id hid

/-- A move of one thread keeps the invariant. -/
theorem WakeInv.move {s : Sys ι} (hinv : WakeInv s) {t : ι} {alloc : Bool} {task' : Task}
    {shared' : Shared} (lock' : Option ι) (hmove : Move alloc s.shared (s.task t) task' shared') :
    WakeInv ⟨shared', Function.update s.task t task', lock'⟩ := by
  generalize htask : s.task t = task at hmove
  cases hmove with
  | noAccess c round hacc => exact .of_withdrawn hacc
  | setWait c round =>
    -- the flag was about to be set, so it is still to be examined
    have hpending : s.shared.common.commonHalTxAccess = true → c.id ∈ s.shared.rx.unscanned :=
      fun hacc => hinv.pc hacc t c.id (by rw [htask]; rfl)
    refine WakeInv.setTask (s := ⟨s.shared.setWait c.id, s.task, lock'⟩) ⟨?_, hinv.pc⟩ rfl
    intro hacc id hflag
    by_cases hid : id = c.id
    · exact hid ▸ hpending hacc
    · exact hinv.flag hacc id (by simpa [Shared.setWait, hid] using hflag)
  | clear c round =>
    -- an acknowledgement withdraws the access, and a clear without one moves no flag
    refine WakeInv.setTask (s := ⟨s.shared.clrIntention c.id alloc, s.task, lock'⟩) ?_ rfl
    rcases s.shared.clrIntention_cases c.id alloc with ⟨heq, -⟩ | ⟨heq, -⟩
    · rw [heq]
      exact ⟨fun hacc id hflag => hinv.flag hacc id (by simpa using hflag), hinv.pc⟩
    · exact .of_withdrawn (by rw [heq])
  | setIntention c round =>
    refine WakeInv.setTask (s := ⟨s.shared.setIntention c.id, s.task, lock'⟩) ⟨?_, hinv.pc⟩ rfl
    intro hacc id hflag
    exact hinv.flag hacc id (by simpa [Shared.setIntention, Common.setTxIntention] using hflag)
  | granted c pc round | failed c round | timedOut c round =>
    refine WakeInv.setTask (s := ⟨s.shared, s.task, lock'⟩) ⟨hinv.flag, hinv.pc⟩ ?_
    cases c <;> rfl
  | writing took round =>
    refine WakeInv.setTask (s := ⟨s.shared, s.task, lock'⟩) ⟨hinv.flag, hinv.pc⟩ ?_
    cases took <;> rfl
  | woken | lockBus =>
    exact WakeInv.setTask (s := ⟨s.shared, s.task, lock'⟩) ⟨hinv.flag, hinv.pc⟩ rfl

/-- A step of the schedule that keeps the discipline keeps the invariant. -/
theorem WakeInv.step {role : ι → Role} {s s' : Sys ι} {a : Act ι} (hinv : WakeInv s)
    (hdisc : WakeDiscipline s a) (h : (Sys.system role).step s a = some s') : WakeInv s' := by
  cases a with
  | startRound t =>
    obtain ⟨l, -, rfl⟩ := Sys.startRound_cases h
    exact hinv.setTask rfl
  | endRound t =>
    obtain ⟨l, -, rfl⟩ := Sys.endRound_cases h
    exact hinv.setTask rfl
  | sendPkt t =>
    obtain ⟨-, ⟨-, rfl⟩ | ⟨-, rfl⟩⟩ := Sys.sendPkt_cases h <;> exact hinv.setTask rfl
  | advance t alloc =>
    obtain ⟨task', shared', lock', hmove, rfl⟩ := Sys.advance_cases h
    exact hinv.move lock' hmove
  | timeout t =>
    obtain ⟨_, task', -, hmove, rfl⟩ := Sys.timeout_cases true h
    exact hinv.move s.txBusLock hmove
  | notify word alloc =>
    obtain ⟨shared', hs, rfl⟩ := Option.map_eq_some_iff.1 h
    obtain ⟨hrx, ⟨-, -, rfl⟩ | ⟨hentry, hprot, rfl⟩ | ⟨-, rfl⟩⟩ := Shared.notify_cases hs
    · exact .of_withdrawn rfl
    · -- all flags are cleared, and nobody is about to set one
      refine ⟨fun _ id hflag => by simp [Common.wakeWaiters] at hflag, fun _ t id hid => ?_⟩
      have hnone := hdisc hentry hprot t
      rw [hnone] at hid
      cases hid
    · -- with the receive thread idle no flag is pending, so none is set
      have hnil : s.shared.rx.unscanned = [] := by rw [hrx]; rfl
      refine ⟨fun hacc id hflag => ?_, fun hacc t id hid => ?_⟩
      · exact absurd (hinv.flag hacc id hflag) (by simp [hnil])
      · exact absurd (hinv.pc hacc t id hid) (by simp [hnil])
  | exitStep =>
    obtain ⟨shared', hs, rfl⟩ := Option.map_eq_some_iff.1 h
    rcases Shared.exitStep_cases hs with ⟨-, rfl⟩ | ⟨id, hrx, rfl⟩
    · -- the access is granted with all flags still to be examined
      exact ⟨fun _ id _ => by simp, fun _ t id _ => by simp⟩
    · -- the flag of `id` is cleared, and by the discipline nobody is about to set it
      refine ⟨fun hacc i hflag => ?_, fun hacc t i hi => ?_⟩
      · have hne : i ≠ id := by
          rintro rfl
          simp at hflag
        refine RxPc.mem_unscanned_afterScan ?_ hne
        rw [← hrx]
        exact hinv.flag hacc i (by simpa [hne] using hflag)
      · have hne : i ≠ id := by
          rintro rfl
          exact hdisc t i hi hrx
        refine RxPc.mem_unscanned_afterScan ?_ hne
        rw [← hrx]
        exact hinv.pc hacc t i hi

/-- In every run that keeps the discipline, a thread is left waiting with its flag set only while
the access is withdrawn or a sleep exit is still being processed. -/
theorem noLostWakeUp_of_discipline (role : ι → Role) {s : Sys ι}
    (h : (Sys.system role).ReachableVia WakeDiscipline s) : NoLostWakeUp s := by
  have hinv : WakeInv s := by
    refine h.invariant WakeInv ?_ fun s a s' hinv hdisc hstep => hinv.step hdisc hstep
    rintro s ⟨txAccess, rfl⟩
    exact WakeInv.start txAccess
  have hflag : s.shared.rx = .idle → s.shared.common.commonHalTxAccess = true →
      ∀ id, (s.shared.common.techs id).waitForTxAccess = false := by
    intro hrx hacc id
    by_contra hset
    have hmem := hinv.flag hacc id (by simpa using hset)
    rw [hrx] at hmem
    cases hmem
  refine ⟨fun hrx hacc t c _ => hflag hrx hacc c.id, fun hrx hacc t => ?_⟩
  -- a wait times out only with the flag still set
  unfold Sys.timeout
  split
  · simp [hflag hrx hacc]
  · rfl

instance [Fintype ι] (s : Sys ι) (a : Act ι) : Decidable (WakeDiscipline s a) :=
  match a with
  | .startRound _ => inferInstanceAs (Decidable True)
  | .endRound _ => inferInstanceAs (Decidable True)
  | .sendPkt _ => inferInstanceAs (Decidable True)
  | .advance _ _ => inferInstanceAs (Decidable True)
  | .timeout _ => inferInstanceAs (Decidable True)
  | .notify _ _ =>
    inferInstanceAs (Decidable (_ = _ → _ = _ → ∀ t, (s.task t).pc.aboutToWait = none))
  | .exitStep => inferInstanceAs
      (Decidable (∀ t, ∀ id ∈ (s.task t).pc.aboutToWait, s.shared.rx ≠ .exitScan id))

/-- The direct caller finds the access withdrawn and waits; the sleep exit comes then. -/
def wokenSchedule : List (Act Thread) :=
  [.notify 0x51 true, .sendPkt .direct, .advance .direct true, .advance .direct true,
    .advance .direct true, .notify 0 true, .exitStep, .exitStep, .exitStep, .exitStep]

/-- The state at the end of `wokenSchedule`. -/
def wokenState : Sys Thread :=
  ((Sys.system wlanAndDirect).runVia WakeDiscipline (.start true) wokenSchedule).get rfl

/-- The discipline is kept by a run in which a waiting thread is woken. -/
theorem noLostWakeUp_wokenState :
    (wokenState.task .direct).pc = .waiting .sendPkt ∧ NoLostWakeUp wokenState :=
  ⟨rfl, noLostWakeUp_of_discipline wlanAndDirect
    (TransitionSystem.reachableVia_get (Sys.init_start wlanAndDirect true) rfl)⟩

end PowerSave
