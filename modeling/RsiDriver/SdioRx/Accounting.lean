import RsiDriver.SdioRx.Event

/-!
# The packet count of the SDIO receive queue

`num_rx_pkts` is meant to be the length of `rx_q.head`. The producer appends a packet and counts
it in two steps, and the consumer skips its decrement when the count is zero. A packet that is
removed and finished before it is counted is therefore never uncounted: the count is one too high
from then on, and a hundred such packets block the queue for good.

## Main results

* `not_rxQAccounted`: a packet is finished before it is counted;
* `rxQAccounted_of_discipline`: the count is exact, and a packet is dropped only on a full queue,
  in the runs in which every packet is counted before it is finished.
-/

namespace SdioRx

/-- The producer has read a packet and is still in `rsi_process_pkt`. -/
def IsrPc.handling : IsrPc → Bool
  | .idle => false
  | .queueTail _ | .count | .setEvent => true

/-- The consumer has a packet in its hands: removed and not uncounted yet. -/
def RxPc.handling : RxPc → Bool
  | .readPkt _ | .uncount | .returned => true
  | _ => false

/-- The count of the queue is right:

* while neither side is in the middle of handling a packet, it is the length of the queue;
* whenever the `RSI_SDIO_MAX_RX_PKTS` test dropped a packet, the queue held that many. -/
structure RxQAccounted (s : Sys) : Prop where
  counted : s.isr.handling = false → s.rx.handling = false →
    s.dev.numRxPkts.toNat = s.dev.head.length
  dropped : ∀ n ∈ s.dev.drops, RSI_SDIO_MAX_RX_PKTS.toNat ≤ n

/-- The condition on each step. The consumer finishes a packet only when the count is not zero,
its deliveries succeed, and it purges an empty queue; no packet arrives on a full count while the
consumer has one in its hands. -/
def CountDiscipline (s : Sys) : Act → Prop
  | .rxStep ok =>
    (s.rx.handling = true → ok = true ∧ (s.rx = .uncount → 0 < s.dev.numRxPkts)) ∧
      (s.rx = .purge → s.dev.head = [])
  | .arrive _ _ _ _ => RSI_SDIO_MAX_RX_PKTS ≤ s.dev.numRxPkts → s.rx.handling = false
  | _ => True

instance (s : Sys) (a : Act) : Decidable (CountDiscipline s a) :=
  match a with
  | .arrive _ _ _ _ => inferInstanceAs (Decidable (_ ≤ _ → _ = _))
  | .isrStep => inferInstanceAs (Decidable True)
  | .rxStep _ =>
    inferInstanceAs (Decidable ((_ = _ → _ = _ ∧ (_ = _ → _ < _)) ∧ (_ = _ → s.dev.head = [])))
  | .killStep => inferInstanceAs (Decidable True)

/-! ## The packet that is never uncounted -/

/-- The consumer finishes the second packet between `skb_queue_tail` and `num_rx_pkts++`. -/
def uncountedSchedule : List Act :=
  onePkt ++ [.rxStep true, .rxStep true, .rxStep true, .rxStep true, .rxStep true] ++
    [.arrive 1 none true true, .isrStep, .rxStep true, .rxStep true, .rxStep true, .rxStep true,
      .isrStep, .isrStep]

/-- The driver counts one packet in an empty queue. -/
theorem not_rxQAccounted : ¬ ∀ s, Sys.system.Reachable s → RxQAccounted s := by
  refine TransitionSystem.not_forall_reachable_of_run uncountedSchedule rfl rfl fun haccounted => ?_
  have hcount := haccounted.counted rfl rfl
  cases hcount

/-! ## The invariant of disciplined runs -/

/-- Packets in the queue that the count does not contain yet. -/
def IsrPc.uncounted : IsrPc → ℕ
  | .count => 1
  | _ => 0

/-- Packets that the count contains although they have left the queue. -/
def RxPc.inHand : RxPc → ℕ
  | .readPkt _ | .uncount => 1
  | _ => 0

/-- The count and the queue differ by the packets that the two threads are working on, and there
is room for the packet that the producer is working on. -/
structure CountInv (s : Sys) : Prop where
  count : s.dev.numRxPkts.toNat + s.isr.uncounted = s.dev.head.length + s.rx.inHand
  room : (∃ skb, s.isr = .queueTail skb) ∨ s.isr = .count → s.dev.numRxPkts.toNat < 100
  alive : s.rx ≠ .returned
  dropped : ∀ n ∈ s.dev.drops, RSI_SDIO_MAX_RX_PKTS.toNat ≤ n

theorem CountInv.start : CountInv .start where
  count := rfl
  room h := by rcases h with ⟨_, h⟩ | h <;> cases h
  alive := by simp [Sys.start]
  dropped n hn := by cases hn

theorem CountInv.arrive {s s' : Sys} (hinv : CountInv s) {interruptStatus : BitVec 32}
    {register : Option (BitVec 8)} {alloc read : Bool}
    (hdisc : CountDiscipline s (.arrive interruptStatus register alloc read))
    (h : s.arrive interruptStatus register alloc read = some s') : CountInv s' := by
  obtain ⟨hisr, ⟨_, rfl⟩ | ⟨hmax, rfl⟩ | rfl | ⟨hmax, len, rfl⟩⟩ := Sys.arrive_cases h
  · exact ⟨hinv.count, hinv.room, hinv.alive, hinv.dropped⟩
  · have hcount := hinv.count
    rw [hisr] at hcount
    refine ⟨hcount, by simp, hinv.alive, fun n hn => ?_⟩
    rcases List.mem_append.1 hn with hold | hnew
    · exact hinv.dropped n hold
    · -- nobody is working on a packet, so the count is the length of the queue
      have hhand : s.rx.inHand = 0 := by
        have := hdisc hmax
        generalize s.rx = rx at this
        cases rx <;> simp_all [RxPc.handling, RxPc.inHand]
      rw [List.mem_singleton.1 hnew]
      simp only [hhand, IsrPc.uncounted] at hcount
      have : RSI_SDIO_MAX_RX_PKTS.toNat ≤ s.dev.numRxPkts.toNat := hmax
      omega
  · have hcount := hinv.count
    rw [hisr] at hcount
    exact ⟨hcount, by simp, hinv.alive, hinv.dropped⟩
  · have hcount := hinv.count
    rw [hisr] at hcount
    exact ⟨hcount, fun _ => hmax, hinv.alive, hinv.dropped⟩

theorem CountInv.isrStep {s s' : Sys} (hinv : CountInv s) (h : s.isrStep = some s') :
    CountInv s' := by
  have hcount := hinv.count
  rcases Sys.isrStep_cases h with ⟨skb, hisr, rfl⟩ | ⟨hisr, rfl⟩ | ⟨hisr, rfl⟩
  · -- the packet is in the queue and not in the count
    rw [hisr] at hcount
    refine ⟨?_, fun _ => hinv.room (.inl ⟨skb, hisr⟩), hinv.alive, hinv.dropped⟩
    simp only [IsrPc.uncounted, List.length_append, List.length_singleton] at hcount ⊢
    omega
  · -- there is room, so the count does not wrap around
    have hroom := hinv.room (.inr hisr)
    rw [hisr] at hcount
    have hsucc : (s.dev.numRxPkts + 1).toNat = s.dev.numRxPkts.toNat + 1 := by bv_omega
    refine ⟨?_, by simp, hinv.alive, hinv.dropped⟩
    simp only [IsrPc.uncounted, hsucc] at hcount ⊢
    omega
  · rw [hisr] at hcount
    refine ⟨?_, by simp, hinv.alive, hinv.dropped⟩
    simpa [Dev.setEvent, IsrPc.uncounted] using hcount

theorem CountInv.rxStep {s s' : Sys} (hinv : CountInv s) {ok : Bool}
    (hdisc : CountDiscipline s (.rxStep ok)) (h : s.rxStep ok = some s') : CountInv s' := by
  obtain ⟨dev', rx', hmove, rfl⟩ := Sys.rxStep_cases h
  obtain ⟨hhand, hpurge⟩ := hdisc
  have hcount := hinv.count
  have hroom := hinv.room
  generalize s.rx = rx at hmove hhand hpurge hcount
  cases hmove with
  | dequeue skb head hhead =>
    refine ⟨?_, hroom, by simp, hinv.dropped⟩
    rw [hhead] at hcount
    simp only [RxPc.inHand, List.length_cons] at hcount ⊢
    omega
  | failed skb hok =>
    have := (hhand rfl).1
    simp [hok] at this
  | uncount =>
    -- by the discipline the decrement is not skipped
    have hpos : 0 < s.dev.numRxPkts := (hhand rfl).2 rfl
    have hpred : (s.dev.numRxPkts - 1).toNat = s.dev.numRxPkts.toNat - 1 := by bv_omega
    have hpos' : 0 < s.dev.numRxPkts.toNat := hpos
    refine ⟨?_, fun hisr => ?_, by simp, hinv.dropped⟩
    · simp only [RxPc.inHand, hpos, if_true, hpred] at hcount ⊢
      omega
    · have := hroom hisr
      simp only [hpos, if_true, hpred]
      omega
  | resetEvent done =>
    cases done <;> exact ⟨hcount, hroom, by simp, hinv.dropped⟩
  | purge =>
    -- by the discipline the queue is empty already
    refine ⟨?_, hroom, by simp, hinv.dropped⟩
    rw [hpurge rfl] at hcount
    exact hcount
  | interrupted | woken | stopped | drain | empty | delivered | stoppedInLoop | next =>
    exact ⟨hcount, hroom, by simp, hinv.dropped⟩

theorem CountInv.killStep {s s' : Sys} (hinv : CountInv s) (h : s.killStep = some s') :
    CountInv s' := by
  obtain ⟨_, _, _, -, rfl⟩ := Sys.killStep_cases h
  exact ⟨hinv.count, hinv.room, hinv.alive, hinv.dropped⟩

/-- In every run that keeps the discipline, the count is the length of the queue whenever nobody
is working on a packet, and packets are dropped only when the queue is full. -/
theorem rxQAccounted_of_discipline {s : Sys} (h : Sys.system.ReachableVia CountDiscipline s) :
    RxQAccounted s := by
  have hinv : CountInv s := by
    refine h.invariant CountInv (fun s hs => hs ▸ .start) fun s a s' hinv hdisc hstep => ?_
    cases a with
    | arrive interruptStatus register alloc read => exact hinv.arrive hdisc hstep
    | isrStep => exact hinv.isrStep hstep
    | rxStep ok => exact hinv.rxStep hdisc hstep
    | killStep => exact hinv.killStep hstep
  refine ⟨fun hisr hrx => ?_, hinv.dropped⟩
  have hcount := hinv.count
  have hisr' : s.isr.uncounted = 0 := by
    cases h : s.isr <;> simp_all [IsrPc.handling, IsrPc.uncounted]
  have hrx' : s.rx.inHand = 0 := by
    cases h : s.rx <;> simp_all [RxPc.handling, RxPc.inHand]
  rwa [hisr', hrx'] at hcount

/-- Two packets are queued and one of them is delivered. -/
def countedSchedule : List Act :=
  onePkt ++ onePkt ++ [.rxStep true, .rxStep true, .rxStep true, .rxStep true, .rxStep true]

/-- The state at the end of `countedSchedule`. -/
def countedState : Sys := (Sys.system.runVia CountDiscipline .start countedSchedule).get rfl

/-- The discipline is kept by a run in which both threads work on the queue. -/
theorem rxQAccounted_countedState :
    countedState.dev.head.length = 1 ∧ RxQAccounted countedState :=
  ⟨rfl, rxQAccounted_of_discipline (TransitionSystem.reachableVia_get rfl rfl)⟩

end SdioRx
