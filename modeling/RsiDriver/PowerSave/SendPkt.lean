import Mathlib.Data.Int.Notation
import RsiDriver.PowerSave.Senders

/-!
# One call of `rsi_send_pkt`

`rsi_send_pkt` (`rsi_91x_hal.c`) takes the intention of `COMMON_ID` through `set_clr_tx_intention`
(`rsi_91x_ps.c`) and gives it back after `write_pkt`. When `set_clr_tx_intention` fails, it has set
the intention already, and neither of the two clears it.

No other thread transmits here, so the call is one function. While it waits for the access, the
receive thread may handle notifications of the device.

## Main results

* `Shared.restores_iff`: which calls leave the intention and the waiting flag as they were;
* `Sys.exists_run_sendPkt`: a call is a run of the threads of `PowerSave.Senders`.
-/

namespace PowerSave

/-- `-EPERM` -/
def EPERM : ℤ := -1

/-- `-EINVAL` -/
def EINVAL : ℤ := -22

/-- `-ETIME` -/
def ETIME : ℤ := -62

/-- What the receive thread does next. -/
inductive RxAct
  /-- It handles a notification whose word at offset 12 is `word`. -/
  | notify (word : BitVec 16) (alloc : Bool)
  /-- It goes on inside `sleep_exit_recvd`. -/
  | exitStep
  deriving DecidableEq, Repr

namespace Shared

/-- The receive thread goes on, if it can. -/
def receive (s : Shared) : RxAct → Shared
  | .notify word alloc => (s.notify word alloc).getD s
  | .exitStep => s.exitStep.getD s

/-- `set_clr_tx_intention(common, id, 1)`; `acts` is what the receive thread does before the wait
is over. -/
def takeTxIntention (s : Shared) (id : TechId) (acts : List RxAct) : Shared × ℤ :=
  let s := s.setIntention id
  if s.common.commonHalTxAccess then (s, 0)
  else
    let s := acts.foldl receive (s.setWait id)
    if (s.common.techs id).waitForTxAccess then (s, ETIME)
    else if s.common.commonHalTxAccess then (s, 0)
    else (s, EPERM)

/-- The condition of `rsi_send_pkt` under which it takes no intention of its own. -/
def fastPath (s : Shared) : Bool :=
  ((s.common.techs .wlan).txIntention || (s.common.techs .btZb).txIntention) &&
    s.common.commonHalTxAccess

/-- `rsi_send_pkt`; `write_pkt` returns `written`, and `alloc` says whether the acknowledgement that
`set_clr_tx_intention(common, COMMON_ID, 0)` may have to send can be allocated. -/
def sendPkt (s : Shared) (acts : List RxAct) (written : ℤ) (alloc : Bool) : Shared × ℤ :=
  if s.fastPath then (s, written)
  else
    match s.takeTxIntention .common acts with
    | (s, status) => if status ≠ 0 then (s, EINVAL) else (s.clrIntention .common alloc, written)

end Shared

/-! ## What the receive thread does for the waiting thread -/

namespace RxPc

/-- Where the receive thread stands after it went on. -/
def after : RxPc → RxAct → RxPc
  | .idle, .notify word _ => if isUlpSleepEntry word then .idle else .exitGrant
  | .exitGrant, .exitStep => .exitScan .wlan
  | .exitScan id, .exitStep => .afterScan id
  | rx, _ => rx

/-- It clears the waiting flag of `COMMON_ID`: a sleep entry does so at once while an intention is
held, a sleep exit when its loop gets there. -/
def wakes : RxPc → RxAct → Bool
  | .idle, .notify word _ => isUlpSleepEntry word
  | .exitScan .common, .exitStep => true
  | _, _ => false

/-- It gives the access back. -/
def grants : RxPc → RxAct → Bool
  | .idle, .notify word _ => isUlpSleepEntry word
  | .exitGrant, .exitStep => true
  | _, _ => false

/-- One of the `acts`, started at `rx`, does what `p` says. -/
def during (p : RxPc → RxAct → Bool) : RxPc → List RxAct → Bool
  | _, [] => false
  | rx, act :: acts => p rx act || during p (rx.after act) acts

end RxPc

namespace Shared

/-- The receive thread went from `s` to `s'`, woke or granted or not, and left the intentions
alone. -/
structure Received (s s' : Shared) (wakes grants : Bool) : Prop where
  txIntention : ∀ id, (s'.common.techs id).txIntention = (s.common.techs id).txIntention
  waitForTxAccess : (s'.common.techs .common).waitForTxAccess =
    ((s.common.techs .common).waitForTxAccess && !wakes)
  commonHalTxAccess : s'.common.commonHalTxAccess = (s.common.commonHalTxAccess || grants)

theorem Received.refl (s : Shared) : Received s s false false where
  txIntention _ := rfl
  waitForTxAccess := (Bool.and_true _).symm
  commonHalTxAccess := (Bool.or_false _).symm

/-- While the intention of `COMMON_ID` is held, a sleep entry is denied, and the access is not
withdrawn. -/
theorem received_receive {s : Shared} (h : (s.common.techs .common).txIntention = true)
    (act : RxAct) :
    Received s (s.receive act) (s.rx.wakes act) (s.rx.grants act) ∧
      (s.receive act).rx = s.rx.after act := by
  obtain ⟨common, rx, log⟩ := s
  cases act with
  | notify word alloc =>
    cases rx with
    | idle =>
      have hprot : common.protocolTxAccess = true := Common.protocolTxAccess_of_intention h
      show Received _ _ (isUlpSleepEntry word) (isUlpSleepEntry word) ∧
        _ = if isUlpSleepEntry word = true then RxPc.idle else RxPc.exitGrant
      rw [receive, notify]
      by_cases hentry : isUlpSleepEntry word = true
      · obtain ⟨hno, -⟩ | ⟨-, heq⟩ := common.ulpSleepEntry_cases word alloc
        · rw [hno] at hprot
          cases hprot
        · rw [if_pos hentry, if_pos hentry, heq, hentry]
          exact ⟨⟨fun _ => rfl, (Bool.and_false _).symm, (Bool.or_true _).symm⟩, rfl⟩
      · rw [if_neg hentry, if_neg hentry, Bool.eq_false_iff.2 hentry]
        exact ⟨⟨fun _ => rfl, (Bool.and_true _).symm, (Bool.or_false _).symm⟩, rfl⟩
    | exitGrant => exact ⟨Received.refl _, rfl⟩
    | exitScan id => exact ⟨by cases id <;> exact Received.refl _, rfl⟩
  | exitStep =>
    cases rx with
    | idle => exact ⟨Received.refl _, rfl⟩
    | exitGrant =>
      exact ⟨⟨fun _ => rfl, (Bool.and_true _).symm, (Bool.or_true _).symm⟩, rfl⟩
    | exitScan id =>
      refine ⟨⟨fun i => ?_, ?_, (Bool.or_false _).symm⟩, rfl⟩
      · exact common.setWaitFlag_txIntention id i false
      · show ((common.setWaitFlag id false).techs .common).waitForTxAccess = _
        cases id with
        | common => exact (Bool.and_false _).symm
        | wlan | btZb => exact (Bool.and_true _).symm

/-- What the receive thread does during the wait. -/
theorem received_foldl {s : Shared} (h : (s.common.techs .common).txIntention = true)
    (acts : List RxAct) :
    Received s (acts.foldl receive s) (RxPc.during RxPc.wakes s.rx acts)
      (RxPc.during RxPc.grants s.rx acts) := by
  induction acts generalizing s with
  | nil => exact .refl s
  | cons act acts ih =>
    obtain ⟨hstep, hrx⟩ := received_receive h act
    have hrest := ih ((hstep.txIntention .common).trans h)
    rw [hrx] at hrest
    exact {
      txIntention := fun id => (hrest.txIntention id).trans (hstep.txIntention id)
      waitForTxAccess := by
        rw [RxPc.during, Bool.not_or, ← Bool.and_assoc, ← hstep.waitForTxAccess]
        exact hrest.waitForTxAccess
      commonHalTxAccess := by
        rw [RxPc.during, ← Bool.or_assoc, ← hstep.commonHalTxAccess]
        exact hrest.commonHalTxAccess }

/-! ## What a call leaves behind -/

/-- `COMMON_ID` has the intention and the waiting flag that it had, and `protocol_tx_access` gives
the answer that it gave. -/
structure Restores (s s' : Shared) : Prop where
  txIntention : (s'.common.techs .common).txIntention = (s.common.techs .common).txIntention
  waitForTxAccess :
    (s'.common.techs .common).waitForTxAccess = (s.common.techs .common).waitForTxAccess
  protocolTxAccess : s'.common.protocolTxAccess = s.common.protocolTxAccess

/-- When a call restores what it took: it took nothing; or it found the access, and the intention
was not set; or it was given the access while it waited, and neither was set. If it was not, it
restores only what an earlier call has left behind. -/
def RestoresWhen (s : Shared) (acts : List RxAct) : Prop :=
  let tech := s.common.techs .common
  s.fastPath = true ∨
    if s.common.commonHalTxAccess = true then tech.txIntention = false
    else if RxPc.during RxPc.wakes s.rx acts = true then
      tech.waitForTxAccess = false ∧ tech.txIntention = !RxPc.during RxPc.grants s.rx acts
    else tech.waitForTxAccess = true ∧ tech.txIntention = true

instance (s : Shared) (acts : List RxAct) : Decidable (s.RestoresWhen acts) := by
  unfold RestoresWhen
  infer_instance

/-- What `set_clr_tx_intention(common, COMMON_ID, 1)` does when it has to wait. -/
theorem takeTxIntention_of_noAccess {s : Shared} (h : s.common.commonHalTxAccess = false)
    (acts : List RxAct) :
    ∃ s', s.takeTxIntention .common acts = (s',
        if RxPc.during RxPc.wakes s.rx acts then
          if RxPc.during RxPc.grants s.rx acts then 0 else EPERM
        else ETIME) ∧
      Received ((s.setIntention .common).setWait .common) s' (RxPc.during RxPc.wakes s.rx acts)
        (RxPc.during RxPc.grants s.rx acts) := by
  have hheld : (((s.setIntention .common).setWait .common).common.techs .common).txIntention =
      true := rfl
  have hrecv := received_foldl hheld acts
  generalize hs' : acts.foldl receive ((s.setIntention .common).setWait .common) = s' at hrecv
  -- the flag was set before the wait, and there was no access
  have hflag : (s'.common.techs .common).waitForTxAccess = !RxPc.during RxPc.wakes s.rx acts :=
    hrecv.waitForTxAccess
  have haccess : s'.common.commonHalTxAccess = RxPc.during RxPc.grants s.rx acts := by
    rw [hrecv.commonHalTxAccess]
    show (s.common.commonHalTxAccess || _) = _
    rw [h, Bool.false_or]
    rfl
  refine ⟨s', ?_, hrecv⟩
  have hno : ¬ (s.setIntention .common).common.commonHalTxAccess = true := by
    rw [Bool.not_eq_true]
    exact h
  rw [takeTxIntention, if_neg hno, hs']
  dsimp only
  rw [hflag, haccess]
  cases RxPc.during RxPc.wakes s.rx acts
  · rfl
  · cases RxPc.during RxPc.grants s.rx acts <;> rfl

/-- Giving an intention back leaves the waiting flags alone. -/
theorem clrIntention_waitForTxAccess (s : Shared) (id i : TechId) (alloc : Bool) :
    ((s.clrIntention id alloc).common.techs i).waitForTxAccess =
      (s.common.techs i).waitForTxAccess := by
  rcases s.clrIntention_cases id alloc with ⟨heq, -⟩ | ⟨heq, -⟩ <;> simp [heq]

/-- The answer of `protocol_tx_access` depends on the intentions alone. -/
theorem protocolTxAccess_congr {c c' : Common}
    (h : ∀ id, (c'.techs id).txIntention = (c.techs id).txIntention) :
    c'.protocolTxAccess = c.protocolTxAccess := by
  simp only [Common.protocolTxAccess, h]

theorem restores_iff_of_frame {s s' : Shared}
    (h : ∀ id ≠ .common, (s'.common.techs id).txIntention = (s.common.techs id).txIntention) :
    Restores s s' ↔
      (s'.common.techs .common).txIntention = (s.common.techs .common).txIntention ∧
        (s'.common.techs .common).waitForTxAccess =
          (s.common.techs .common).waitForTxAccess := by
  refine ⟨fun hr => ⟨hr.txIntention, hr.waitForTxAccess⟩, fun ⟨hint, hwait⟩ => ⟨hint, hwait, ?_⟩⟩
  apply protocolTxAccess_congr
  intro id
  by_cases hid : id = .common
  · rw [hid, hint]
  · exact h id hid

/-- A call that got the access gives the intention back. -/
theorem restores_clrIntention_iff {s s' : Shared} (alloc : Bool)
    (h : ∀ id ≠ .common, (s'.common.techs id).txIntention = (s.common.techs id).txIntention) :
    Restores s (s'.clrIntention .common alloc) ↔
      (s.common.techs .common).txIntention = false ∧
        (s'.common.techs .common).waitForTxAccess =
          (s.common.techs .common).waitForTxAccess := by
  rw [restores_iff_of_frame fun id hid => ?_]
  · rw [clrIntention_txIntention, if_pos rfl, clrIntention_waitForTxAccess]
    exact and_congr_left' eq_comm
  · rw [clrIntention_txIntention, if_neg hid]
    exact h id hid

/-- The access is there, and the call does not wait. -/
theorem restores_iff_of_access {s : Shared} (hfast : ¬ s.fastPath = true)
    (haccess : s.common.commonHalTxAccess = true) (acts : List RxAct) (written : ℤ)
    (alloc : Bool) :
    Restores s (s.sendPkt acts written alloc).1 ↔ (s.common.techs .common).txIntention = false := by
  have htake : s.takeTxIntention .common acts = (s.setIntention .common, 0) := if_pos haccess
  rw [sendPkt, if_neg hfast, htake]
  show Restores s ((s.setIntention .common).clrIntention .common alloc) ↔ _
  rw [restores_clrIntention_iff alloc fun id hid => ?_]
  · exact and_iff_left rfl
  · show ((s.common.setIntentionBit .common true).techs id).txIntention = _
    rw [Common.setIntentionBit_txIntention, if_neg hid]

/-- The call waits: what it restores depends on whether it is woken and granted the access. -/
theorem restores_iff_of_noAccess {s : Shared} (hfast : ¬ s.fastPath = true)
    (haccess : s.common.commonHalTxAccess = false) (acts : List RxAct) (written : ℤ)
    (alloc : Bool) :
    Restores s (s.sendPkt acts written alloc).1 ↔
      if RxPc.during RxPc.wakes s.rx acts = true then
        (s.common.techs .common).waitForTxAccess = false ∧
          (s.common.techs .common).txIntention = !RxPc.during RxPc.grants s.rx acts
      else (s.common.techs .common).waitForTxAccess = true ∧
        (s.common.techs .common).txIntention = true := by
  obtain ⟨s', htake, hrecv⟩ := takeTxIntention_of_noAccess haccess acts
  have hframe : ∀ id ≠ .common,
      (s'.common.techs id).txIntention = (s.common.techs id).txIntention := by
    intro id hid
    rw [hrecv.txIntention]
    show (((s.common.setIntentionBit .common true).setWaitFlag .common true).techs id).txIntention
      = _
    rw [Common.setWaitFlag_txIntention, Common.setIntentionBit_txIntention, if_neg hid]
  have hint : (s'.common.techs .common).txIntention = true := hrecv.txIntention .common
  have hwait : (s'.common.techs .common).waitForTxAccess = !RxPc.during RxPc.wakes s.rx acts :=
    hrecv.waitForTxAccess
  rw [sendPkt, if_neg hfast, htake]
  cases hwakes : RxPc.during RxPc.wakes s.rx acts with
  | false =>
    -- the wait ran out
    show Restores s s' ↔ _
    rw [restores_iff_of_frame hframe, hint, hwait, hwakes, if_neg Bool.false_ne_true]
    exact ⟨fun ⟨h1, h2⟩ => ⟨h2.symm, h1.symm⟩, fun ⟨h1, h2⟩ => ⟨h2.symm, h1.symm⟩⟩
  | true =>
    rw [hwakes] at hwait
    cases hgrants : RxPc.during RxPc.grants s.rx acts with
    | false =>
      -- woken without access
      show Restores s s' ↔ _
      rw [restores_iff_of_frame hframe, hint, hwait]
      exact ⟨fun ⟨h1, h2⟩ => ⟨h2.symm, h1.symm⟩, fun ⟨h1, h2⟩ => ⟨h2.symm, h1.symm⟩⟩
    | true =>
      show Restores s (s'.clrIntention .common alloc) ↔ _
      rw [restores_clrIntention_iff alloc hframe, hwait]
      exact ⟨fun ⟨h1, h2⟩ => ⟨h2.symm, h1⟩, fun ⟨h1, h2⟩ => ⟨h2, h1.symm⟩⟩

/-- **Which calls restore the intention**, whatever they return. -/
theorem restores_iff (s : Shared) (acts : List RxAct) (written : ℤ) (alloc : Bool) :
    Restores s (s.sendPkt acts written alloc).1 ↔ s.RestoresWhen acts := by
  by_cases hfast : s.fastPath = true
  · rw [sendPkt, if_pos hfast]
    exact ⟨fun _ => .inl hfast, fun _ => ⟨rfl, rfl, rfl⟩⟩
  · rw [RestoresWhen, or_iff_right hfast]
    by_cases haccess : s.common.commonHalTxAccess = true
    · rw [if_pos haccess]
      exact restores_iff_of_access hfast haccess acts written alloc
    · rw [if_neg haccess]
      exact restores_iff_of_noAccess hfast (Bool.eq_false_iff.2 haccess) acts written alloc

/-- Nobody gives the access back, and the call returns with the intention and the flag still set. -/
theorem not_restores : ¬ ∀ (s : Shared) (acts : List RxAct) (written : ℤ) (alloc : Bool),
    Restores s (s.sendPkt acts written alloc).1 := by
  intro hall
  exact absurd (hall (.start false) [] 0 true).txIntention (by decide)

end Shared

/-! ## A call is a run of the threads -/

namespace Sys

variable {ι : Type*} [DecidableEq ι]

/-- The steps of a call that thread `t` makes: its own, and those of the receive thread. -/
def OfCall (t : ι) : Act ι → Prop
  | .sendPkt u | .advance u _ | .timeout u => u = t
  | .notify _ _ | .exitStep => True
  | .startRound _ | .endRound _ => False

/-- Steps of a call lead from `s` to `s'`. -/
def Leads (role : ι → Role) (t : ι) (s s' : Sys ι) : Prop :=
  ∃ sched, (∀ act ∈ sched, OfCall t act) ∧ (system role).run s sched = some s'

variable {role : ι → Role} {t : ι}

theorem Leads.refl (s : Sys ι) : Leads role t s s := ⟨[], by simp, rfl⟩

theorem Leads.head {s s' s'' : Sys ι} (act : Act ι) (hact : OfCall t act)
    (hstep : (system role).step s act = some s') (h : Leads role t s' s'') :
    Leads role t s s'' := by
  obtain ⟨sched, hsched, hrun⟩ := h
  refine ⟨act :: sched, ?_, ?_⟩
  · rintro a (_ | ⟨_, ha⟩)
    · exact hact
    · exact hsched a ha
  · rw [TransitionSystem.run_cons, hstep, Option.bind_some, hrun]

/-- Thread `t` stands at `pc` inside a call; the other threads stand where they do in `s`. -/
def inCall (s : Sys ι) (t : ι) (shared : Shared) (pc : Pc) (txBusLock : Option ι) : Sys ι :=
  ⟨shared, Function.update s.task t ⟨pc, (s.task t).round⟩, txBusLock⟩

/-- The receive thread goes on while `t` waits. -/
theorem Leads.receive (s : Sys ι) {s' : Sys ι} (pc : Pc) (lock : Option ι) (acts : List RxAct)
    (sh : Shared) (h : Leads role t (s.inCall t (acts.foldl Shared.receive sh) pc lock) s') :
    Leads role t (s.inCall t sh pc lock) s' := by
  induction acts generalizing sh with
  | nil => exact h
  | cons act acts ih =>
    have hrest := ih (sh.receive act) h
    cases act with
    | notify word alloc =>
      cases hn : sh.notify word alloc with
      | none => rwa [Shared.receive, hn] at hrest
      | some sh' =>
        rw [Shared.receive, hn] at hrest
        refine .head (.notify word alloc) trivial ?_ hrest
        show ((sh.notify word alloc).map fun shared => _) = _
        rw [hn]
        rfl
    | exitStep =>
      cases hn : sh.exitStep with
      | none => rwa [Shared.receive, hn] at hrest
      | some sh' =>
        rw [Shared.receive, hn] at hrest
        refine .head .exitStep trivial ?_ hrest
        show (sh.exitStep.map fun shared => _) = _
        rw [hn]
        rfl

section Steps

variable (s : Sys ι) (t : ι) (sh : Shared) (lock : Option ι)

@[simp]
theorem inCall_task (pc : Pc) : (s.inCall t sh pc lock).task t = ⟨pc, (s.task t).round⟩ := by
  simp [inCall]

@[simp]
theorem inCall_setTask (pc pc' : Pc) :
    (s.inCall t sh pc lock).setTask t ⟨pc', (s.task t).round⟩ = s.inCall t sh pc' lock := by
  simp [inCall, setTask]

theorem advance_setIntention (alloc : Bool) :
    (s.inCall t sh (.setIntention .sendPkt) lock).advance t alloc =
      some (s.inCall t (sh.setIntention .common) (.testAccess .sendPkt) lock) := by
  simp only [advance, inCall_task]
  exact congrArg some (inCall_setTask s t (sh.setIntention .common) lock _ _)

theorem advance_granted {pc : Pc} (hpc : pc = .testAccess .sendPkt ∨ pc = .retest .sendPkt)
    (h : sh.common.commonHalTxAccess = true) (alloc : Bool) :
    (s.inCall t sh pc lock).advance t alloc = some (s.inCall t sh (.lockBus true) lock) := by
  have hshared : (s.inCall t sh pc lock).shared.common.commonHalTxAccess = true := h
  rcases hpc with rfl | rfl <;> simp only [advance, inCall_task, hshared, if_true] <;>
    exact congrArg some (inCall_setTask s t sh lock _ _)

theorem advance_noAccess (h : sh.common.commonHalTxAccess = false) (alloc : Bool) :
    (s.inCall t sh (.testAccess .sendPkt) lock).advance t alloc =
      some (s.inCall t sh (.setWait .sendPkt) lock) := by
  have hshared : (s.inCall t sh (.testAccess .sendPkt) lock).shared.common.commonHalTxAccess =
      false := h
  simp only [advance, inCall_task, hshared, Bool.false_eq_true, if_false]
  exact congrArg some (inCall_setTask s t sh lock _ _)

theorem advance_setWait (alloc : Bool) :
    (s.inCall t sh (.setWait .sendPkt) lock).advance t alloc =
      some (s.inCall t (sh.setWait .common) (.waiting .sendPkt) lock) := by
  simp only [advance, inCall_task]
  exact congrArg some (inCall_setTask s t (sh.setWait .common) lock _ _)

theorem advance_woken (h : (sh.common.techs .common).waitForTxAccess = false) (alloc : Bool) :
    (s.inCall t sh (.waiting .sendPkt) lock).advance t alloc =
      some (s.inCall t sh (.retest .sendPkt) lock) := by
  have hshared : ((s.inCall t sh (.waiting .sendPkt) lock).shared.common.techs
      (Caller.id .sendPkt)).waitForTxAccess = false := h
  simp only [advance, inCall_task, hshared, Bool.false_eq_true, if_false]
  exact congrArg some (inCall_setTask s t sh lock _ _)

theorem timeout_waiting (h : (sh.common.techs .common).waitForTxAccess = true) :
    (s.inCall t sh (.waiting .sendPkt) lock).timeout t = some (s.inCall t sh .idle lock) := by
  have hshared : ((s.inCall t sh (.waiting .sendPkt) lock).shared.common.techs
      (Caller.id .sendPkt)).waitForTxAccess = true := h
  simp only [timeout, inCall_task, hshared, if_true]
  exact congrArg some (inCall_setTask s t sh lock _ _)

theorem advance_denied (h : sh.common.commonHalTxAccess = false) (alloc : Bool) :
    (s.inCall t sh (.retest .sendPkt) lock).advance t alloc = some (s.inCall t sh .idle lock) := by
  have hshared : (s.inCall t sh (.retest .sendPkt) lock).shared.common.commonHalTxAccess =
      false := h
  simp only [advance, inCall_task, hshared, Bool.false_eq_true, if_false]
  exact congrArg some (inCall_setTask s t sh lock _ _)

theorem advance_lockBus (took alloc : Bool) :
    (s.inCall t sh (.lockBus took) none).advance t alloc =
      some (s.inCall t sh (.writing took) (some t)) := by
  simp only [advance, inCall_task]
  exact congrArg some (inCall_setTask s t sh (some t) _ _)

theorem advance_writing (took alloc : Bool) :
    (s.inCall t sh (.writing took) lock).advance t alloc =
      some (s.inCall t sh (if took then .clear .sendPkt else .idle) none) := by
  simp only [advance, inCall_task]
  exact congrArg some (inCall_setTask s t sh none _ _)

theorem advance_clear (alloc : Bool) :
    (s.inCall t sh (.clear .sendPkt) lock).advance t alloc =
      some (s.inCall t (sh.clrIntention .common alloc) .idle lock) := by
  simp only [advance, inCall_task]
  exact congrArg some (inCall_setTask s t (sh.clrIntention .common alloc) lock _ _)

/-- The packet is written, and the intention given back. -/
theorem leads_of_lockBus (role : ι → Role) (alloc : Bool) :
    Leads role t (s.inCall t sh (.lockBus true) none)
      (s.inCall t (sh.clrIntention .common alloc) .idle none) :=
  .head (.advance t alloc) rfl (advance_lockBus s t sh true alloc) <|
    .head (.advance t alloc) rfl (advance_writing s t sh (some t) true alloc) <|
      .head (.advance t alloc) rfl (advance_clear s t sh none alloc) <| .refl _

end Steps

/-- The wait and what comes behind it. -/
theorem leads_of_waiting (role : ι → Role) (s : Sys ι) (t : ι) (sh : Shared) (written : ℤ)
    (alloc : Bool) :
    Leads role t (s.inCall t sh (.waiting .sendPkt) none)
      (s.inCall t
        (match (if (sh.common.techs .common).waitForTxAccess then (sh, ETIME)
            else if sh.common.commonHalTxAccess then (sh, 0) else (sh, EPERM) : Shared × ℤ) with
        | (sh, status) =>
          if status ≠ 0 then (sh, EINVAL) else (sh.clrIntention .common alloc, written)).1
        .idle none) := by
  cases hflag : (sh.common.techs .common).waitForTxAccess with
  | true => exact .head (.timeout t) rfl (timeout_waiting s t sh none hflag) <| .refl _
  | false =>
    refine .head (.advance t alloc) rfl (advance_woken s t sh none hflag alloc) ?_
    cases haccess : sh.common.commonHalTxAccess with
    | true =>
      exact .head (.advance t alloc) rfl (advance_granted s t sh none (.inr rfl) haccess alloc) <|
        leads_of_lockBus s t sh role alloc
    | false =>
      exact .head (.advance t alloc) rfl (advance_denied s t sh none haccess alloc) <| .refl _

/-- **A call of `rsi_send_pkt`** is a run of the threads in which only the receive thread takes part
besides. -/
theorem exists_run_sendPkt {role : ι → Role} {s : Sys ι} {t : ι} (hidle : (s.task t).pc = .idle)
    (hcaller : (role t).roundId = none ∨ (s.task t).round ≠ none) (hbus : s.txBusLock = none)
    (acts : List RxAct) (written : ℤ) (alloc : Bool) :
    Leads role t s { s with shared := (s.shared.sendPkt acts written alloc).1 } := by
  -- the thread is in no call before and after
  have hend : ∀ sh, s.inCall t sh .idle none = { s with shared := sh } := by
    intro sh
    have htask : (⟨.idle, (s.task t).round⟩ : Task) = s.task t := by rw [← hidle]
    rw [inCall, htask, Function.update_eq_self, ← hbus]
  rw [← hend]
  have hcall : ∀ pc, s.setTask t ⟨pc, (s.task t).round⟩ = s.inCall t s.shared pc none := by
    intro pc
    rw [inCall, ← hbus]
    rfl
  have hstart : (system role).step s (.sendPkt t) = some (s.inCall t s.shared
      (if s.shared.fastPath then .lockBus false else .setIntention .sendPkt) none) := by
    show s.sendPkt role t = _
    rw [sendPkt, if_pos ⟨hidle, hcaller⟩]
    by_cases hfast : s.shared.fastPath = true
    · rw [if_pos hfast]
      exact (if_pos hfast).trans (congrArg some (hcall _))
    · rw [if_neg hfast]
      exact (if_neg hfast).trans (congrArg some (hcall _))
  refine .head (.sendPkt t) rfl hstart ?_
  unfold Shared.sendPkt
  by_cases hfast : s.shared.fastPath = true
  · rw [if_pos hfast, if_pos hfast]
    exact .head (.advance t alloc) rfl (advance_lockBus s t _ false alloc) <|
      .head (.advance t alloc) rfl (advance_writing s t _ (some t) false alloc) <| .refl _
  rw [if_neg hfast, if_neg hfast]
  refine .head (.advance t alloc) rfl (advance_setIntention s t _ none alloc) ?_
  unfold Shared.takeTxIntention
  by_cases haccess : (s.shared.setIntention .common).common.commonHalTxAccess = true
  · rw [if_pos haccess]
    exact .head (.advance t alloc) rfl (advance_granted s t _ none (.inl rfl) haccess alloc) <|
      leads_of_lockBus s t _ role alloc
  · rw [if_neg haccess]
    rw [Bool.not_eq_true] at haccess
    refine .head (.advance t alloc) rfl (advance_noAccess s t _ none haccess alloc) ?_
    refine .head (.advance t alloc) rfl (advance_setWait s t _ none alloc) ?_
    exact .receive s _ none acts _ (leads_of_waiting role s t _ written alloc)

end Sys

end PowerSave
