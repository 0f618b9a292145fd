import RsiDriver.SdioRx.Queue

/-!
# The SDIO receive thread and its event

`rsi_sdio_rx_thread` should not sleep while a packet is queued that it was told about. It resets
its event after the drain loop, so an event that is set between the last `skb_dequeue` and the
reset is lost. `rsi_usb_rx_thread` resets first and drains then, and has no such window.

## Main results

* `not_neverSleepsOnPacket`: a packet is queued and signalled inside the window, and the thread
  sleeps on it;
* `neverSleepsOnPacket_of_discipline`: the thread never does in the runs in which no producer
  signals a queued packet inside the window.
-/

namespace SdioRx

/-- The consumer is not blocked in its wait while a packet is queued whose producer has executed
`rsi_set_event`. -/
def NeverSleepsOnPacket (s : Sys) : Prop :=
  s.rx = .waitEvent → s.dev.eventCondition = true → ∀ skb ∈ s.dev.head, skb.signalled = false

/-- The condition on each step. The producer does not execute `rsi_set_event` for a packet that
is still queued while the consumer has found the queue empty and not reset the event yet. -/
def EventDiscipline (s : Sys) : Act → Prop
  | .isrStep => s.isr = .setEvent → s.rx = .resetEvent false → s.dev.head = []
  | _ => True

instance (s : Sys) (a : Act) : Decidable (EventDiscipline s a) :=
  match a with
  | .arrive _ _ _ _ => inferInstanceAs (Decidable True)
  | .isrStep => inferInstanceAs (Decidable (_ = _ → _ = _ → s.dev.head = []))
  | .rxStep _ => inferInstanceAs (Decidable True)
  | .killStep => inferInstanceAs (Decidable True)

/-! ## The lost event -/

/-- A call of `rsi_process_pkt` that queues a packet of one block, from beginning to end. -/
def onePkt : List Act := [.arrive 1 none true true, .isrStep, .isrStep, .isrStep]

/-- The consumer takes one packet and finds the queue empty. A second packet is queued and
signalled before the consumer resets the event. -/
def lostEventSchedule : List Act :=
  onePkt ++ [.rxStep true, .rxStep true, .rxStep true, .rxStep true, .rxStep true, .rxStep true,
    .rxStep true] ++ onePkt ++ [.rxStep true]

/-- The driver sleeps on a packet it was told about. -/
theorem not_neverSleepsOnPacket : ¬ ∀ s, Sys.system.Reachable s → NeverSleepsOnPacket s := by
  refine TransitionSystem.not_forall_reachable_of_run lostEventSchedule rfl rfl fun hawake => ?_
  have hsignalled := hawake rfl rfl ⟨256, true⟩ (List.mem_singleton.2 rfl)
  cases hsignalled

/-! ## The invariant of disciplined runs -/

/-- The consumer is about to reset the event and go back to its wait, or waits already. -/
def GoesToSleep (s : Sys) : Prop :=
  s.rx = .resetEvent false ∨ s.rx = .waitEvent ∧ s.dev.eventCondition = true

/-- Whoever goes to sleep leaves no packet behind that was signalled. -/
structure EventInv (s : Sys) : Prop where
  asleep : GoesToSleep s → ∀ skb ∈ s.dev.head, skb.signalled = false
  /-- The packet that the producer is about to append is not signalled yet. -/
  fresh : ∀ skb, s.isr = .queueTail skb → skb.signalled = false

theorem EventInv.start : EventInv .start where
  asleep _ skb hmem := by simp [Sys.start, Dev.start] at hmem
  fresh skb h := by cases h

theorem EventInv.arrive {s s' : Sys} (hinv : EventInv s) {interruptStatus : BitVec 32}
    {register : Option (BitVec 8)} {alloc read : Bool}
    (h : s.arrive interruptStatus register alloc read = some s') : EventInv s' := by
  obtain ⟨hisr, ⟨_, rfl⟩ | ⟨-, rfl⟩ | rfl | ⟨-, len, rfl⟩⟩ := Sys.arrive_cases h
  · exact ⟨hinv.asleep, hinv.fresh⟩
  · exact ⟨hinv.asleep, by simp⟩
  · exact ⟨hinv.asleep, by simp⟩
  · -- a packet that was just read is not signalled
    refine ⟨hinv.asleep, fun skb hskb => ?_⟩
    obtain rfl : (⟨len, false⟩ : Skb) = skb := by simpa using hskb
    rfl

theorem EventInv.isrStep {s s' : Sys} (hinv : EventInv s) (hdisc : EventDiscipline s .isrStep)
    (h : s.isrStep = some s') : EventInv s' := by
  rcases Sys.isrStep_cases h with ⟨skb, hisr, rfl⟩ | ⟨-, rfl⟩ | ⟨hisr, rfl⟩
  · -- the appended packet is signalled two steps later
    refine ⟨fun hsleep skb' hmem => ?_, by simp⟩
    rcases List.mem_append.1 hmem with hold | hnew
    · exact hinv.asleep hsleep skb' hold
    · rw [List.mem_singleton.1 hnew]
      exact hinv.fresh skb hisr
  · exact ⟨hinv.asleep, by simp⟩
  · refine ⟨?_, by simp⟩
    rintro (hrx | ⟨-, hcond⟩) skb hmem
    · -- inside the window the queue is empty
      have hnil : s.dev.head = [] := hdisc hisr hrx
      simp [Dev.setEvent, hnil] at hmem
    · -- in the wait the event is set now
      cases hcond

theorem EventInv.rxStep {s s' : Sys} (hinv : EventInv s) {ok : Bool}
    (h : s.rxStep ok = some s') : EventInv s' := by
  obtain ⟨dev', rx', hmove, rfl⟩ := Sys.rxStep_cases h
  refine ⟨?_, hinv.fresh⟩
  have hasleep := hinv.asleep
  unfold GoesToSleep at hasleep ⊢
  generalize s.rx = rx at hmove hasleep
  cases hmove with
  -- the consumer goes to sleep on an empty queue
  | empty hnil =>
    intro _ skb hmem
    simp [hnil] at hmem
  | resetEvent done =>
    cases done with
    | true => rintro (h | ⟨h, -⟩) <;> cases h
    | false => exact fun _ => hasleep (.inl rfl)
  | interrupted | woken | stopped | drain | dequeue | delivered | failed | uncount
  | stoppedInLoop | next | purge => rintro (h | ⟨h, -⟩) <;> cases h

theorem EventInv.killStep {s s' : Sys} (hinv : EventInv s) (h : s.killStep = some s') :
    EventInv s' := by
  obtain ⟨_, _, _, hcond, rfl⟩ := Sys.killStep_cases h
  refine ⟨?_, hinv.fresh⟩
  rintro (hrx | ⟨hrx, hset⟩)
  · exact hinv.asleep (.inl hrx)
  · exact hinv.asleep (.inr ⟨hrx, hcond hset⟩)

/-- In every run that keeps the discipline, the receive thread never sleeps on a packet it was
told about. -/
theorem neverSleepsOnPacket_of_discipline {s : Sys}
    (h : Sys.system.ReachableVia EventDiscipline s) : NeverSleepsOnPacket s := by
  have hinv : EventInv s := by
    refine h.invariant EventInv (fun s hs => hs ▸ .start) fun s a s' hinv hdisc hstep => ?_
    cases a with
    | arrive interruptStatus register alloc read => exact hinv.arrive hstep
    | isrStep => exact hinv.isrStep hdisc hstep
    | rxStep ok => exact hinv.rxStep hstep
    | killStep => exact hinv.killStep hstep
  exact fun hrx hcond => hinv.asleep (.inr ⟨hrx, hcond⟩)

/-- The consumer drains one packet and sleeps; the next one wakes it. -/
def wokenSchedule : List Act :=
  onePkt ++ [.rxStep true, .rxStep true, .rxStep true, .rxStep true, .rxStep true, .rxStep true,
    .rxStep true, .rxStep true] ++ onePkt

/-- The state at the end of `wokenSchedule`. -/
def wokenState : Sys := (Sys.system.runVia EventDiscipline .start wokenSchedule).get rfl

/-- The discipline is kept by a run that ends with a signalled packet in front of a waiting
consumer. -/
theorem neverSleepsOnPacket_wokenState :
    wokenState.rx = .waitEvent ∧ wokenState.dev.head = [⟨256, true⟩] ∧
      NeverSleepsOnPacket wokenState :=
  ⟨rfl, rfl, neverSleepsOnPacket_of_discipline (TransitionSystem.reachableVia_get rfl rfl)⟩

end SdioRx
