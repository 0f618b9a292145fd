import RsiDriver.PowerSave.Handshake
import Mathlib.Data.Fintype.Basic

/-!
# The threads that transmit

Every packet reaches the device through `rsi_send_pkt` (`rsi_91x_hal.c`). Its callers are the
WLAN transmit thread, the BT/ZigBee coex thread, and any number of direct callers. The two
threads take their own intention around a round of sends (`rsi_tx_scheduler_thread`,
`rsi_coex_scheduler_thread`); `rsi_send_pkt` takes `COMMON_ID` unless it finds the access
granted and one of the two thread intentions set.

A thread advances from one point where it may be preempted to the next: a critical section of
`tx_access_lock`, a read or write of the shared state outside the lock, a wait, and the lock
and unlock of `tx_bus_lock`. The waits have two outcomes, so the schedule chooses between
`advance` (the condition holds) and `timeout`.

## Main definitions

* `Sys`: the shared state, the threads and the bus lock;
* `Sys.system`: all interleavings of the threads with the device's notifications;
* `sharedSimulation`: the threads only do what `Shared.system` allows.
-/

namespace PowerSave

/-- Who a thread is. Only the two scheduler threads hold an intention around their sends. -/
inductive Role
  | wlanTx
  | coexTx
  | direct
  deriving DecidableEq, Repr

/-- The two protocol ids that a thread holds around a round of sends. -/
inductive RoundId
  | wlan
  | btZb
  deriving DecidableEq, Repr

/-- The protocol id as an index of `techs`. -/
def RoundId.tech : RoundId → TechId
  | .wlan => .wlan
  | .btZb => .btZb

theorem RoundId.tech_ne_common (l : RoundId) : l.tech ≠ .common := by
  cases l <;> simp [tech]

/-- The protocol id a scheduler thread takes around a round of sends. -/
def Role.roundId : Role → Option RoundId
  | .wlanTx => some .wlan
  | .coexTx => some .btZb
  | .direct => none

/-- Which call of `set_clr_tx_intention` a thread is in: the one around its round, or the one
in `rsi_send_pkt`. -/
inductive Caller
  | round (l : RoundId)
  | sendPkt
  deriving DecidableEq, Repr

/-- The protocol id the call is made with. -/
def Caller.id : Caller → TechId
  | .round l => l.tech
  | .sendPkt => .common

/-- Where a thread stands. -/
inductive Pc
  /-- Between calls: outside a round, or inside it with the intention held. -/
  | idle
  /-- Before the critical section of `set_clr_tx_intention(common, id, 1)`. -/
  | setIntention (c : Caller)
  /-- Before `if (!common->common_hal_tx_access)`. -/
  | testAccess (c : Caller)
  /-- Before `tech->wait_for_tx_access = true`. -/
  | setWait (c : Caller)
  /-- In `wait_event_timeout`. -/
  | waiting (c : Caller)
  /-- After the wait, before the second test of `common_hal_tx_access`. -/
  | retest (c : Caller)
  /-- In `rsi_send_pkt`, before `down(&common->tx_bus_lock)`. `took` says whether this call
  took `COMMON_ID` (`status_tx_access == 0`). -/
  | lockBus (took : Bool)
  /-- In `write_pkt`, holding `tx_bus_lock`. -/
  | writing (took : Bool)
  /-- Before `set_clr_tx_intention(common, id, 0)`. -/
  | clear (c : Caller)
  deriving DecidableEq, Repr

/-- A thread: its position, and the protocol id of the round it is in. -/
structure Task where
  pc : Pc
  round : Option RoundId
  deriving DecidableEq, Repr

/-- The thread got the access: `rsi_send_pkt` goes on to the bus, a scheduler thread starts its
round. -/
def Caller.granted : Caller → Option RoundId → Task
  | .round l, _ => ⟨.idle, some l⟩
  | .sendPkt, held => ⟨.lockBus true, held⟩

/-- `set_clr_tx_intention` returned an error: `rsi_send_pkt` gives up and leaves the intention
bit as it is, a scheduler thread skips the round and clears its bit. -/
def Caller.failed : Caller → Option RoundId → Task
  | .round l, _ => ⟨.clear (.round l), none⟩
  | .sendPkt, held => ⟨.idle, held⟩

variable {ι : Type*} [DecidableEq ι]

/-- The shared state, the threads `ι` and the holder of `tx_bus_lock`. -/
structure Sys (ι : Type*) where
  shared : Shared
  task : ι → Task
  txBusLock : Option ι

namespace Sys

/-- All threads between calls and the bus free. -/
def start (txAccess : Bool) : Sys ι := ⟨.start txAccess, fun _ => ⟨.idle, none⟩, none⟩

/-- Move thread `t` to `task`. -/
def setTask (s : Sys ι) (t : ι) (task : Task) : Sys ι :=
  { s with task := Function.update s.task t task }

/-- The condition of `rsi_send_pkt` under which it takes no intention of its own. -/
def fastPath (s : Sys ι) : Bool :=
  ((s.shared.common.techs .wlan).txIntention || (s.shared.common.techs .btZb).txIntention) &&
    s.shared.common.commonHalTxAccess

/-- A scheduler thread is woken and starts a round. -/
def startRound (role : ι → Role) (s : Sys ι) (t : ι) : Option (Sys ι) :=
  -- a direct caller has no rounds
  match (s.task t).pc, (s.task t).round, (role t).roundId with
  | .idle, none, some l => some (s.setTask t ⟨.setIntention (.round l), none⟩)
  | _, _, _ => none

/-- A scheduler thread has sent what it wanted and ends its round. -/
def endRound (s : Sys ι) (t : ι) : Option (Sys ι) :=
  match (s.task t).pc, (s.task t).round with
  | .idle, some l => some (s.setTask t ⟨.clear (.round l), none⟩)
  | _, _ => none

/-- `rsi_send_pkt` up to the first `down`: called by a direct caller, or by a scheduler thread
inside its round. -/
def sendPkt (role : ι → Role) (s : Sys ι) (t : ι) : Option (Sys ι) :=
  if (s.task t).pc = .idle ∧ ((role t).roundId = none ∨ (s.task t).round ≠ none) then
    if s.fastPath then
      some (s.setTask t ⟨.lockBus false, (s.task t).round⟩)
    else
      some (s.setTask t ⟨.setIntention .sendPkt, (s.task t).round⟩)
  else
    none

/-- The next step of thread `t` inside a call. A wait advances when its condition holds. -/
def advance (s : Sys ι) (t : ι) (alloc : Bool) : Option (Sys ι) :=
  let round := (s.task t).round
  match (s.task t).pc with
  | .idle => none
  | .setIntention c =>
    some ({ s with shared := s.shared.setIntention c.id }.setTask t ⟨.testAccess c, round⟩)
  | .testAccess c =>
    if s.shared.common.commonHalTxAccess then some (s.setTask t (c.granted round))
    else some (s.setTask t ⟨.setWait c, round⟩)
  | .setWait c => some ({ s with shared := s.shared.setWait c.id }.setTask t ⟨.waiting c, round⟩)
  | .waiting c =>
    -- the condition of `wait_event_timeout`
    if (s.shared.common.techs c.id).waitForTxAccess then none
    else some (s.setTask t ⟨.retest c, round⟩)
  | .retest c =>
    if s.shared.common.commonHalTxAccess then some (s.setTask t (c.granted round))
    else some (s.setTask t (c.failed round)) -- `-EPERM`
  | .lockBus took =>
    if s.txBusLock = none then
      some ({ s with txBusLock := some t }.setTask t ⟨.writing took, round⟩)
    else none
  | .writing took =>
    -- only a call that took `COMMON_ID` gives it back
    some ({ s with txBusLock := none }.setTask t
      ⟨if took then .clear .sendPkt else .idle, round⟩)
  | .clear c =>
    some ({ s with shared := s.shared.clrIntention c.id alloc }.setTask t ⟨.idle, round⟩)

/-- `wait_event_timeout` gives up (`-ETIME`): the flag is still set after six seconds. -/
def timeout (s : Sys ι) (t : ι) : Option (Sys ι) :=
  match (s.task t).pc with
  | .waiting c =>
    if (s.shared.common.techs c.id).waitForTxAccess then
      some (s.setTask t (c.failed (s.task t).round))
    else
      none
  | _ => none

end Sys

/-- The choices of a schedule. -/
inductive Act (ι : Type*)
  | startRound (t : ι)
  | endRound (t : ι)
  | sendPkt (t : ι)
  | advance (t : ι) (alloc : Bool)
  | timeout (t : ι)
  | notify (word : BitVec 16) (alloc : Bool)
  | exitStep

/-- All interleavings of the threads, in the given roles, with the device's notifications. -/
def Sys.system (role : ι → Role) : TransitionSystem (Sys ι) (Act ι) where
  Init s := ∃ txAccess, s = .start txAccess
  step s
    | .startRound t => s.startRound role t
    | .endRound t => s.endRound t
    | .sendPkt t => s.sendPkt role t
    | .advance t alloc => s.advance t alloc
    | .timeout t => s.timeout t
    | .notify word alloc => (s.shared.notify word alloc).map fun shared => { s with shared }
    | .exitStep => s.shared.exitStep.map fun shared => { s with shared }

theorem Sys.init_start (role : ι → Role) (txAccess : Bool) :
    (Sys.system role).Init (.start txAccess) :=
  ⟨txAccess, rfl⟩

/-- Two threads, the WLAN thread and a direct caller. -/
inductive Thread
  | wlan
  | direct
  deriving DecidableEq, Repr

instance : Fintype Thread where
  elems := {.wlan, .direct}
  complete t := by cases t <;> decide

/-- The roles of the two threads. -/
def wlanAndDirect : Thread → Role
  | .wlan => .wlanTx
  | .direct => .direct

/-! ## What a thread's step does -/

@[simp]
theorem Sys.setTask_task_self (s : Sys ι) (t : ι) (task : Task) :
    (s.setTask t task).task t = task := by
  simp [setTask]

theorem Sys.setTask_task_of_ne {s : Sys ι} {t u : ι} {task : Task} (h : u ≠ t) :
    (s.setTask t task).task u = s.task u := by
  simp [setTask, Function.update_of_ne h]

/-- The moves of `Sys.advance` and `Sys.timeout`: from the thread's position and the shared state
to the next ones. -/
inductive Move (alloc : Bool) (sh : Shared) : Task → Task → Shared → Prop
  | setIntention (c : Caller) (round : Option RoundId) :
      Move alloc sh ⟨.setIntention c, round⟩ ⟨.testAccess c, round⟩ (sh.setIntention c.id)
  | noAccess (c : Caller) (round : Option RoundId) (h : sh.common.commonHalTxAccess = false) :
      Move alloc sh ⟨.testAccess c, round⟩ ⟨.setWait c, round⟩ sh
  | setWait (c : Caller) (round : Option RoundId) :
      Move alloc sh ⟨.setWait c, round⟩ ⟨.waiting c, round⟩ (sh.setWait c.id)
  | woken (c : Caller) (round : Option RoundId)
      (h : (sh.common.techs c.id).waitForTxAccess = false) :
      Move alloc sh ⟨.waiting c, round⟩ ⟨.retest c, round⟩ sh
  | granted (c : Caller) (pc : Pc) (round : Option RoundId)
      (hpc : pc = .testAccess c ∨ pc = .retest c) (h : sh.common.commonHalTxAccess = true) :
      Move alloc sh ⟨pc, round⟩ (c.granted round) sh
  | failed (c : Caller) (round : Option RoundId) (h : sh.common.commonHalTxAccess = false) :
      Move alloc sh ⟨.retest c, round⟩ (c.failed round) sh
  | timedOut (c : Caller) (round : Option RoundId)
      (h : (sh.common.techs c.id).waitForTxAccess = true) :
      Move alloc sh ⟨.waiting c, round⟩ (c.failed round) sh
  | lockBus (took : Bool) (round : Option RoundId) :
      Move alloc sh ⟨.lockBus took, round⟩ ⟨.writing took, round⟩ sh
  | writing (took : Bool) (round : Option RoundId) :
      Move alloc sh ⟨.writing took, round⟩ ⟨if took then .clear .sendPkt else .idle, round⟩ sh
  | clear (c : Caller) (round : Option RoundId) :
      Move alloc sh ⟨.clear c, round⟩ ⟨.idle, round⟩ (sh.clrIntention c.id alloc)

/-- A thread that advances makes a move; the other threads stay where they are. -/
theorem Sys.advance_cases {s s' : Sys ι} {t : ι} {alloc : Bool}
    (h : s.advance t alloc = some s') :
    ∃ task' shared' lock', Move alloc s.shared (s.task t) task' shared' ∧
      s' = ⟨shared', Function.update s.task t task', lock'⟩ := by
  rcases htask : s.task t with ⟨pc, round⟩
  -- one move for each branch of each position
  cases pc with
  | idle => simp [advance, htask] at h
  | setIntention c =>
    simp only [advance, htask, Option.some.injEq] at h
    exact ⟨_, _, _, .setIntention c round, h.symm⟩
  | testAccess c =>
    simp only [advance, htask] at h
    split at h
    next hacc =>
      exact ⟨_, _, _, .granted c _ round (.inl rfl) hacc, (Option.some.inj h).symm⟩
    next hacc =>
      exact ⟨_, _, _, .noAccess c round (by simpa using hacc), (Option.some.inj h).symm⟩
  | setWait c =>
    simp only [advance, htask, Option.some.injEq] at h
    exact ⟨_, _, _, .setWait c round, h.symm⟩
  | waiting c =>
    simp only [advance, htask] at h
    split at h
    next => cases h
    next hflag =>
      exact ⟨_, _, _, .woken c round (by simpa using hflag), (Option.some.inj h).symm⟩
  | retest c =>
    simp only [advance, htask] at h
    split at h
    next hacc =>
      exact ⟨_, _, _, .granted c _ round (.inr rfl) hacc, (Option.some.inj h).symm⟩
    next hacc =>
      exact ⟨_, _, _, .failed c round (by simpa using hacc), (Option.some.inj h).symm⟩
  | lockBus took =>
    simp only [advance, htask] at h
    split at h
    next => exact ⟨_, _, _, .lockBus took round, (Option.some.inj h).symm⟩
    next => cases h
  | writing took =>
    simp only [advance, htask, Option.some.injEq] at h
    exact ⟨_, _, _, .writing took round, h.symm⟩
  | clear c =>
    simp only [advance, htask, Option.some.injEq] at h
    exact ⟨_, _, _, .clear c round, h.symm⟩

theorem Sys.startRound_cases {role : ι → Role} {s s' : Sys ι} {t : ι}
    (h : s.startRound role t = some s') :
    ∃ l, s.task t = ⟨.idle, none⟩ ∧ s' = s.setTask t ⟨.setIntention (.round l), none⟩ := by
  unfold startRound at h
  split at h
  next l hpc hround _ =>
    refine ⟨l, ?_, (Option.some.inj h).symm⟩
    rw [← hpc, ← hround]
  next => cases h

theorem Sys.endRound_cases {s s' : Sys ι} {t : ι} (h : s.endRound t = some s') :
    ∃ l, s.task t = ⟨.idle, some l⟩ ∧ s' = s.setTask t ⟨.clear (.round l), none⟩ := by
  unfold endRound at h
  split at h
  next l hpc hround =>
    refine ⟨l, ?_, (Option.some.inj h).symm⟩
    rw [← hpc, ← hround]
  next => cases h

theorem Sys.sendPkt_cases {role : ι → Role} {s s' : Sys ι} {t : ι}
    (h : s.sendPkt role t = some s') :
    (s.task t).pc = .idle ∧
      ((s.fastPath = true ∧ s' = s.setTask t ⟨.lockBus false, (s.task t).round⟩) ∨
        (s.fastPath = false ∧ s' = s.setTask t ⟨.setIntention .sendPkt, (s.task t).round⟩)) := by
  unfold sendPkt at h
  split at h
  next hidle =>
    refine ⟨hidle.1, ?_⟩
    split at h
    next hfast => exact .inl ⟨hfast, (Option.some.inj h).symm⟩
    next hslow => exact .inr ⟨by simpa using hslow, (Option.some.inj h).symm⟩
  next => cases h

theorem Sys.timeout_cases {s s' : Sys ι} {t : ι} (alloc : Bool) (h : s.timeout t = some s') :
    ∃ c task', (s.task t).pc = .waiting c ∧ Move alloc s.shared (s.task t) task' s.shared ∧
      s' = s.setTask t task' := by
  rcases htask : s.task t with ⟨pc, round⟩
  unfold timeout at h
  split at h
  next c hpc =>
    obtain rfl : pc = .waiting c := by simpa [htask] using hpc
    split at h
    next hflag =>
      rw [htask] at h
      exact ⟨c, _, rfl, .timedOut c round hflag, (Option.some.inj h).symm⟩
    next => cases h
  next => cases h

/-! ## The threads only do what the shared system allows -/

/-- A move makes at most one access to the shared state. -/
theorem Move.run_shared {alloc : Bool} {sh sh' : Shared} {task task' : Task}
    (h : Move alloc sh task task' sh') : ∃ as, Shared.system.run sh as = some sh' := by
  cases h with
  | setIntention c => exact ⟨[.setIntention c.id], rfl⟩
  | setWait c => exact ⟨[.setWait c.id], rfl⟩
  | clear c => exact ⟨[.clrIntention c.id alloc], rfl⟩
  | noAccess | woken | granted | failed | timedOut | lockBus | writing => exact ⟨[], rfl⟩

/-- Every run of the threads maps to a run of the shared system. -/
theorem sharedSimulation (role : ι → Role) :
    TransitionSystem.Simulation (Sys.system role) (fun _ _ => True) Shared.system Sys.shared where
  init := by
    rintro s ⟨txAccess, rfl⟩
    exact ⟨txAccess, rfl⟩
  step s a s' _ h := by
    cases a with
    | startRound t =>
      obtain ⟨l, -, rfl⟩ := Sys.startRound_cases h
      exact ⟨[], rfl⟩
    | endRound t =>
      obtain ⟨l, -, rfl⟩ := Sys.endRound_cases h
      exact ⟨[], rfl⟩
    | sendPkt t =>
      obtain ⟨-, ⟨-, rfl⟩ | ⟨-, rfl⟩⟩ := Sys.sendPkt_cases h <;> exact ⟨[], rfl⟩
    | advance t alloc =>
      obtain ⟨task', shared', lock', hmove, rfl⟩ := Sys.advance_cases h
      exact hmove.run_shared
    | timeout t =>
      obtain ⟨_, task', -, hmove, rfl⟩ := Sys.timeout_cases true h
      exact hmove.run_shared
    | notify word alloc =>
      obtain ⟨shared', hs, rfl⟩ := Option.map_eq_some_iff.1 h
      exact ⟨[.notify word alloc], by simp [Shared.system, hs]⟩
    | exitStep =>
      obtain ⟨shared', hs, rfl⟩ := Option.map_eq_some_iff.1 h
      exact ⟨[.exitStep], by simp [Shared.system, hs]⟩

end PowerSave
