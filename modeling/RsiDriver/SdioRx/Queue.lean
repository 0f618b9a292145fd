import Mathlib.Data.Nat.Notation
import Mathlib.Tactic.SplitIfs
import RsiDriver.ToMathlib.TransitionSystem

/-!
# The SDIO receive queue

Two threads share `rx_q`: the interrupt handler runs `rsi_process_pkt`, which reads a packet
from the card and appends it, and `rsi_sdio_rx_thread` removes packets and delivers them
(`rsi_91x_sdio_ops.c`). The queue comes with a `u8` count of its own and an event that the
producer sets and the consumer resets. Every access to the queue, the count and the event is a
step of its own.

The `protocol` and `unaggr_pkt` variables of `rsi_process_pkt`, which nothing reads, and the
extra interrupt acknowledgement after a failed write are left out.

## Main definitions

* `SdioRx.Dev.processPkt`: `rsi_process_pkt` up to the first access to the queue;
* `SdioRx.Sys.system`: all interleavings of the producer, the consumer and `rsi_kill_thread`.
-/

namespace SdioRx

/-- `RSI_SDIO_MAX_RX_PKTS`. -/
def RSI_SDIO_MAX_RX_PKTS : BitVec 8 := 100

/-- A packet of the queue. `signalled` is no field of the source: it records that the producer
has executed `rsi_set_event` after it appended the packet. -/
structure Skb where
  rcvPktLen : ℕ
  signalled : Bool
  deriving DecidableEq, Repr

/-- The fields of `struct rsi_91x_sdiodev` that the two threads share. `drops` is no field of the
source: it records the length of the queue whenever the `RSI_SDIO_MAX_RX_PKTS` test drops a
packet. -/
structure Dev where
  /-- `rx_q.head` -/
  head : List Skb
  numRxPkts : BitVec 8
  /-- `rx_thread.event.event_condition`: the consumer may pass its wait while this is `false`. -/
  eventCondition : Bool
  /-- `rx_thread.thread_done` -/
  threadDone : ℕ
  writeFail : ℕ
  drops : List ℕ

/-- Where the producer stands in `rsi_process_pkt`. -/
inductive IsrPc
  | idle
  /-- Before `skb_queue_tail`. -/
  | queueTail (skb : Skb)
  /-- Before `num_rx_pkts++`. -/
  | count
  /-- Before `rsi_set_event`. -/
  | setEvent
  deriving DecidableEq, Repr

/-- Where the consumer stands in `rsi_sdio_rx_thread`. -/
inductive RxPc
  /-- In `rsi_wait_event`. -/
  | waitEvent
  /-- Before the test of `thread_done` after the wait. -/
  | checkDone
  /-- Before `skb_dequeue`. -/
  | dequeue
  /-- In `rsi_read_pkt`. -/
  | readPkt (skb : Skb)
  /-- Before `if (num_rx_pkts > 0) num_rx_pkts--`. -/
  | uncount
  /-- Before the test of `thread_done` inside the loop. -/
  | checkDoneInLoop
  /-- Before `rsi_reset_event`, with the local variable `done`. -/
  | resetEvent (done : Bool)
  /-- Before `skb_queue_purge`. -/
  | purge
  | completed
  /-- `rsi_read_pkt` failed and the thread function returned. -/
  | returned
  deriving DecidableEq, Repr

/-- Where another thread stands in `rsi_kill_thread`. -/
inductive KillPc
  | idle
  /-- Between `atomic_inc` and `rsi_set_event`. -/
  | setEvent
  /-- In `kthread_stop`. -/
  | stopping
  deriving DecidableEq, Repr

/-- The block count of a packet that the interrupt status announces. -/
def statusBlocks (interruptStatus : BitVec 32) : BitVec 8 :=
  ((interruptStatus &&& 1) ||| ((interruptStatus >>> 4) <<< 1)).setWidth 8

namespace Dev

/-- The queue as `rsi_init_sdio_interface` sets it up. -/
def start : Dev := ⟨[], 0, true, 0, 0, []⟩

/-- `rsi_process_pkt` up to the first access to the queue. `register` is the value of
`SDIO_RX_NUM_BLOCKS_REG`, `none` when the read fails; `alloc` and `read` say whether
`dev_alloc_skb` and `rsi_sdio_host_intf_read_pkt` succeed. -/
def processPkt (dev : Dev) (interruptStatus : BitVec 32) (register : Option (BitVec 8))
    (alloc read : Bool) : Dev × IsrPc :=
  let announced := statusBlocks interruptStatus
  -- the register is read only when the interrupt status announces nothing
  match if announced = 0 then register.map (· &&& 0x1f) else some announced with
  | none => (dev, .idle)
  | some numBlks =>
    if numBlks = 0 then
      ({ dev with writeFail := 2 }, .idle)
    -- two failures set the event all the same, the last one returns without it
    else if RSI_SDIO_MAX_RX_PKTS ≤ dev.numRxPkts then
      ({ dev with drops := dev.drops ++ [dev.head.length] }, .setEvent)
    else if !alloc then
      (dev, .setEvent)
    else if !read then
      (dev, .idle)
    else
      (dev, .queueTail ⟨numBlks.toNat * 256, false⟩)

/-- `rsi_set_event` by the producer. -/
def setEvent (dev : Dev) : Dev :=
  { dev with
    head := dev.head.map fun skb => { skb with signalled := true }, eventCondition := false }

end Dev

/-- The device, the two threads and the thread that kills the consumer. -/
structure Sys where
  dev : Dev
  isr : IsrPc
  rx : RxPc
  kill : KillPc

namespace Sys

/-- The consumer waits for the first packet. -/
def start : Sys := ⟨.start, .idle, .waitEvent, .idle⟩

/-- The interrupt handler calls `rsi_process_pkt`. -/
def arrive (s : Sys) (interruptStatus : BitVec 32) (register : Option (BitVec 8))
    (alloc read : Bool) : Option Sys :=
  match s.isr with
  | .idle =>
    let (dev, isr) := s.dev.processPkt interruptStatus register alloc read
    some { s with dev, isr }
  | _ => none

/-- The next step of the producer inside `rsi_process_pkt`. -/
def isrStep (s : Sys) : Option Sys :=
  match s.isr with
  | .idle => none
  | .queueTail skb => some { s with dev.head := s.dev.head ++ [skb], isr := .count }
  | .count => some { s with dev.numRxPkts := s.dev.numRxPkts + 1, isr := .setEvent }
  | .setEvent => some { s with dev := s.dev.setEvent, isr := .idle }

/-- The next step of the consumer. `ok` is the outcome of the step where it has two: the wait
ends by the event and not by a signal, `rsi_read_pkt` returns 0. -/
def rxStep (s : Sys) (ok : Bool) : Option Sys :=
  match s.rx with
  | .waitEvent =>
    -- interrupted by a signal
    if !ok then some { s with rx := .purge }
    else if s.dev.eventCondition then none
    else some { s with rx := .checkDone }
  | .checkDone => some { s with rx := if s.dev.threadDone ≠ 0 then .purge else .dequeue }
  | .dequeue =>
    match s.dev.head with
    | [] => some { s with rx := .resetEvent false }
    | skb :: head => some { s with dev.head := head, rx := .readPkt skb }
  | .readPkt _ => some { s with rx := if ok then .uncount else .returned }
  | .uncount =>
    some { s with
      dev.numRxPkts := if 0 < s.dev.numRxPkts then s.dev.numRxPkts - 1 else s.dev.numRxPkts
      rx := .checkDoneInLoop }
  | .checkDoneInLoop =>
    some { s with rx := if s.dev.threadDone ≠ 0 then .resetEvent true else .dequeue }
  | .resetEvent done =>
    some { s with dev.eventCondition := true, rx := if done then .purge else .waitEvent }
  | .purge =>
    some { s with
      dev.head := [], dev.threadDone := s.dev.threadDone + 1, rx := .completed }
  | .completed | .returned => none

/-- The next step of `rsi_kill_thread`. -/
def killStep (s : Sys) : Option Sys :=
  match s.kill with
  | .idle =>
    if s.dev.threadDone ≠ 0 then none
    else some { s with dev.threadDone := s.dev.threadDone + 1, kill := .setEvent }
  | .setEvent => some { s with dev.eventCondition := false, kill := .stopping }
  | .stopping => none

end Sys

/-- The choices of a schedule. -/
inductive Act
  | arrive (interruptStatus : BitVec 32) (register : Option (BitVec 8)) (alloc read : Bool)
  | isrStep
  | rxStep (ok : Bool)
  | killStep

/-- All interleavings of the producer, the consumer and the killing thread. -/
def Sys.system : TransitionSystem Sys Act where
  Init s := s = .start
  step s
    | .arrive interruptStatus register alloc read => s.arrive interruptStatus register alloc read
    | .isrStep => s.isrStep
    | .rxStep ok => s.rxStep ok
    | .killStep => s.killStep

/-! ## What each step does -/

/-- What a call of `rsi_process_pkt` can do before it touches the queue: give up, drop the packet
because of the count, drop it because of the allocation, or go on to append it. -/
theorem Dev.processPkt_cases (dev : Dev) (interruptStatus : BitVec 32)
    (register : Option (BitVec 8)) (alloc read : Bool) :
    (∃ writeFail, dev.processPkt interruptStatus register alloc read =
        ({ dev with writeFail }, .idle)) ∨
      (RSI_SDIO_MAX_RX_PKTS ≤ dev.numRxPkts ∧
        dev.processPkt interruptStatus register alloc read =
          ({ dev with drops := dev.drops ++ [dev.head.length] }, .setEvent)) ∨
      dev.processPkt interruptStatus register alloc read = (dev, .setEvent) ∨
      (dev.numRxPkts < RSI_SDIO_MAX_RX_PKTS ∧
        ∃ len, dev.processPkt interruptStatus register alloc read =
          (dev, .queueTail ⟨len, false⟩)) := by
  unfold processPkt
  dsimp only
  split
  · exact .inl ⟨dev.writeFail, rfl⟩
  · split_ifs with hblks hmax halloc hread
    · exact .inl ⟨2, rfl⟩
    · exact .inr (.inl ⟨hmax, rfl⟩)
    · exact .inr (.inr (.inl rfl))
    · exact .inl ⟨dev.writeFail, rfl⟩
    · exact .inr (.inr (.inr ⟨BitVec.not_le.1 hmax, _, rfl⟩))

/-- A call of `rsi_process_pkt` starts between two others. -/
theorem Sys.arrive_cases {s s' : Sys} {interruptStatus : BitVec 32}
    {register : Option (BitVec 8)} {alloc read : Bool}
    (h : s.arrive interruptStatus register alloc read = some s') :
    s.isr = .idle ∧
      ((∃ writeFail, s' = { s with dev.writeFail := writeFail }) ∨
        (RSI_SDIO_MAX_RX_PKTS ≤ s.dev.numRxPkts ∧
          s' = { s with dev.drops := s.dev.drops ++ [s.dev.head.length], isr := .setEvent }) ∨
        s' = { s with isr := .setEvent } ∨
        (s.dev.numRxPkts < RSI_SDIO_MAX_RX_PKTS ∧
          ∃ len, s' = { s with isr := .queueTail ⟨len, false⟩ })) := by
  obtain ⟨dev, isr, rx, kill⟩ := s
  cases isr with
  | idle =>
    refine ⟨rfl, ?_⟩
    simp only [arrive, Option.some.injEq] at h
    subst h
    rcases dev.processPkt_cases interruptStatus register alloc read with
      ⟨writeFail, heq⟩ | ⟨hmax, heq⟩ | heq | ⟨hmax, len, heq⟩
    · exact .inl ⟨writeFail, by rw [heq]⟩
    · exact .inr (.inl ⟨hmax, by rw [heq]⟩)
    · exact .inr (.inr (.inl (by rw [heq])))
    · exact .inr (.inr (.inr ⟨hmax, len, by rw [heq]⟩))
  | queueTail | count | setEvent => cases h

/-- What the producer does inside `rsi_process_pkt`. -/
theorem Sys.isrStep_cases {s s' : Sys} (h : s.isrStep = some s') :
    (∃ skb, s.isr = .queueTail skb ∧
        s' = { s with dev.head := s.dev.head ++ [skb], isr := .count }) ∨
      (s.isr = .count ∧ s' = { s with dev.numRxPkts := s.dev.numRxPkts + 1, isr := .setEvent }) ∨
      (s.isr = .setEvent ∧ s' = { s with dev := s.dev.setEvent, isr := .idle }) := by
  obtain ⟨dev, isr, rx, kill⟩ := s
  cases isr with
  | idle => cases h
  | queueTail skb => exact .inl ⟨skb, rfl, (Option.some.inj h).symm⟩
  | count => exact .inr (.inl ⟨rfl, (Option.some.inj h).symm⟩)
  | setEvent => exact .inr (.inr ⟨rfl, (Option.some.inj h).symm⟩)

/-- The moves of the consumer: from the shared state and its position to the next ones. -/
inductive RxMove (ok : Bool) (dev : Dev) : RxPc → Dev → RxPc → Prop
  | interrupted (h : ok = false) : RxMove ok dev .waitEvent dev .purge
  | woken (h : dev.eventCondition = false) : RxMove ok dev .waitEvent dev .checkDone
  | stopped (h : dev.threadDone ≠ 0) : RxMove ok dev .checkDone dev .purge
  | drain (h : dev.threadDone = 0) : RxMove ok dev .checkDone dev .dequeue
  | empty (h : dev.head = []) : RxMove ok dev .dequeue dev (.resetEvent false)
  | dequeue (skb : Skb) (head : List Skb) (h : dev.head = skb :: head) :
      RxMove ok dev .dequeue { dev with head } (.readPkt skb)
  | delivered (skb : Skb) (h : ok = true) : RxMove ok dev (.readPkt skb) dev .uncount
  | failed (skb : Skb) (h : ok = false) : RxMove ok dev (.readPkt skb) dev .returned
  | uncount : RxMove ok dev .uncount { dev with
      numRxPkts := if 0 < dev.numRxPkts then dev.numRxPkts - 1 else dev.numRxPkts }
      .checkDoneInLoop
  | stoppedInLoop (h : dev.threadDone ≠ 0) :
      RxMove ok dev .checkDoneInLoop dev (.resetEvent true)
  | next (h : dev.threadDone = 0) : RxMove ok dev .checkDoneInLoop dev .dequeue
  | resetEvent (done : Bool) : RxMove ok dev (.resetEvent done) { dev with eventCondition := true }
      (if done then .purge else .waitEvent)
  | purge : RxMove ok dev .purge { dev with head := [], threadDone := dev.threadDone + 1 }
      .completed

/-- The consumer makes a move and leaves the other threads where they are. -/
theorem Sys.rxStep_cases {s s' : Sys} {ok : Bool} (h : s.rxStep ok = some s') :
    ∃ dev' rx', RxMove ok s.dev s.rx dev' rx' ∧ s' = { s with dev := dev', rx := rx' } := by
  obtain ⟨dev, isr, rx, kill⟩ := s
  -- one move for each outcome at each position
  cases rx with
  | waitEvent =>
    simp only [rxStep] at h
    split_ifs at h with hok hcond
    · exact ⟨_, _, .interrupted (by simpa using hok), (Option.some.inj h).symm⟩
    · exact ⟨_, _, .woken (by simpa using hcond), (Option.some.inj h).symm⟩
  | checkDone =>
    by_cases hdone : dev.threadDone = 0
    · exact ⟨_, _, .drain hdone, by simpa [rxStep, hdone] using h.symm⟩
    · exact ⟨_, _, .stopped hdone, by simpa [rxStep, hdone] using h.symm⟩
  | dequeue =>
    cases hhead : dev.head with
    | nil => exact ⟨_, _, .empty hhead, by simpa [rxStep, hhead] using h.symm⟩
    | cons skb head =>
      exact ⟨_, _, .dequeue skb head hhead, by simpa [rxStep, hhead] using h.symm⟩
  | readPkt skb =>
    cases ok with
    | true => exact ⟨_, _, .delivered skb rfl, (Option.some.inj h).symm⟩
    | false => exact ⟨_, _, .failed skb rfl, (Option.some.inj h).symm⟩
  | uncount => exact ⟨_, _, .uncount, (Option.some.inj h).symm⟩
  | checkDoneInLoop =>
    by_cases hdone : dev.threadDone = 0
    · exact ⟨_, _, .next hdone, by simpa [rxStep, hdone] using h.symm⟩
    · exact ⟨_, _, .stoppedInLoop hdone, by simpa [rxStep, hdone] using h.symm⟩
  | resetEvent done => exact ⟨_, _, .resetEvent done, (Option.some.inj h).symm⟩
  | purge => exact ⟨_, _, .purge, (Option.some.inj h).symm⟩
  | completed | returned => cases h

/-- What the killing thread does: it leaves the queue and both threads alone. -/
theorem Sys.killStep_cases {s s' : Sys} (h : s.killStep = some s') :
    ∃ threadDone eventCondition kill, (eventCondition = true → s.dev.eventCondition = true) ∧
      s' = { s with
        dev.threadDone := threadDone, dev.eventCondition := eventCondition, kill := kill } := by
  obtain ⟨dev, isr, rx, kill⟩ := s
  cases kill with
  | idle =>
    -- `thread_done` was clear, and the event is not touched
    unfold killStep at h
    dsimp only at h
    split_ifs at h
    exact ⟨_, _, _, id, (Option.some.inj h).symm⟩
  | setEvent => exact ⟨_, _, _, by simp, (Option.some.inj h).symm⟩
  | stopping => cases h

end SdioRx
