import Mathlib.Logic.Relation
import RsiDriver.Rx.Bounds
import RsiDriver.SdioRx.Event

/-!
# What becomes of a received buffer

`rsi_sdio_rx_thread` takes the buffers off its queue, hands each to `rsi_read_pkt` and frees it.
When `rsi_read_pkt` fails, the thread function returns: the buffers behind stay queued for ever,
`thread_done` is not counted, and nobody is told that the thread has ended. `rsi_usb_rx_thread`
reports the failure and goes on.

`DeliverySys` has the buffers with their contents beside the threads of `SdioRx.Sys`. Whether
`rsi_read_pkt` fails is decided by the contents.

## Main results

* `delivers_of_goesOn`: each buffer is handed on in its turn and freed once, and the thread ends
  only through its completion, in the runs in which `rsi_read_pkt` accepts every buffer that is
  queued;
* `not_delivers`: a packet from an invalid queue ends reception.
-/

namespace SdioRx

/-- The contents of a buffer, and how the rest of the kernel behaves while it is taken apart. -/
structure Buffer where
  m : ByteMemory
  env : Rx.Env
  len : ℕ

/-- `rsi_read_pkt` returns 0 on the buffer. -/
def Buffer.Accepted (b : Rx.Build) (buf : Buffer) : Prop :=
  ∃ fuel o, Rx.readPkt b buf.env buf.m buf.len fuel = some o ∧ o.status = 0

/-- The threads, the buffers they work on, and what has happened to the buffers. -/
structure DeliverySys where
  sys : Sys
  /-- The buffer that `rsi_process_pkt` has read from the card. -/
  incoming : Option Buffer
  /-- The contents of the packets in `rx_q.head`. -/
  queue : List Buffer
  /-- The buffer in `rsi_read_pkt`. -/
  current : Option Buffer
  appended : List Buffer
  handed : List Buffer
  freed : List Buffer

/-- The choices of a schedule; `fuel` is for the loop of `rsi_read_pkt`. -/
inductive DeliveryAct
  | arrive (interruptStatus : BitVec 32) (register : Option (BitVec 8)) (alloc read : Bool)
      (m : ByteMemory) (env : Rx.Env)
  | isrStep
  | rxStep (ok : Bool) (fuel : ℕ)
  | killStep

namespace DeliverySys

/-- Nothing has arrived yet. -/
def start : DeliverySys := ⟨.start, none, [], none, [], [], []⟩

/-- The interrupt handler calls `rsi_process_pkt`. -/
def arrive (s : DeliverySys) (interruptStatus : BitVec 32) (register : Option (BitVec 8))
    (alloc read : Bool) (m : ByteMemory) (env : Rx.Env) : Option DeliverySys :=
  (s.sys.arrive interruptStatus register alloc read).map fun sys =>
    { s with
      sys
      incoming := match sys.isr with
        | .queueTail skb => some ⟨m, env, skb.rcvPktLen⟩
        | _ => none }

/-- The next step of the producer. -/
def isrStep (s : DeliverySys) : Option DeliverySys :=
  s.sys.isrStep.map fun sys =>
    match s.sys.isr with
    | .queueTail _ =>
      { s with
        sys
        incoming := none
        -- `skb_queue_tail`
        queue := s.queue ++ s.incoming.toList
        appended := s.appended ++ s.incoming.toList }
    | _ => { s with sys }

/-- The next step of the consumer. -/
def rxStep (b : Rx.Build) (s : DeliverySys) (ok : Bool) (fuel : ℕ) : Option DeliverySys :=
  match s.sys.rx with
  | .dequeue =>
    (s.sys.rxStep ok).map fun sys =>
      { s with
        sys
        queue := s.queue.tail
        current := s.queue.head?
        handed := s.handed ++ s.queue.head?.toList }
  | .readPkt _ =>
    s.current.bind fun buf =>
      (Rx.readPkt b buf.env buf.m buf.len fuel).bind fun o =>
        -- the buffer is freed whatever the result is
        (s.sys.rxStep (decide (o.status = 0))).map fun sys =>
          { s with sys, current := none, freed := s.freed ++ [buf] }
  | .purge =>
    (s.sys.rxStep ok).map fun sys => { s with sys, queue := [], freed := s.freed ++ s.queue }
  | _ => (s.sys.rxStep ok).map fun sys => { s with sys }

/-- The next step of `rsi_kill_thread`. -/
def killStep (s : DeliverySys) : Option DeliverySys :=
  s.sys.killStep.map fun sys => { s with sys }

/-- The system. -/
def system (b : Rx.Build) : TransitionSystem DeliverySys DeliveryAct where
  Init s := s = start
  step s
    | .arrive interruptStatus register alloc read m env =>
      s.arrive interruptStatus register alloc read m env
    | .isrStep => s.isrStep
    | .rxStep ok fuel => s.rxStep b ok fuel
    | .killStep => s.killStep

/-- A step of the consumer that is not interrupted by a signal. -/
def ConsumerStep (b : Rx.Build) (s t : DeliverySys) : Prop := ∃ fuel, s.rxStep b true fuel = some t

/-- Reception goes on: -/
structure Delivers (b : Rx.Build) (s : DeliverySys) : Prop where
  /-- the thread function does not return but through its completion; -/
  alive : s.sys.rx ≠ .returned
  /-- each buffer is freed once, unless it is still in hand or queued; -/
  freedOnce : s.freed ++ s.current.toList ++ s.queue = s.appended
  /-- at the end none is; -/
  completed : s.sys.rx = .completed → s.current = none ∧ s.queue = []
  /-- until the queue is purged, the buffers are handed to `rsi_read_pkt` in their order, and none
  is left out; -/
  inOrder : s.sys.rx ≠ .completed → s.handed ++ s.queue = s.appended
  /-- and as long as `thread_done` is not set, the thread gets to the end of the queue without
  another event when it was told of a packet in it. -/
  progress : s.sys.dev.threadDone = 0 → (∃ skb ∈ s.sys.dev.head, skb.signalled = true) →
    ∃ t, Relation.ReflTransGen (ConsumerStep b) s t ∧ t.handed = s.appended

/-- The condition on each step: a buffer is queued only if `rsi_read_pkt` accepts it and while the
thread has not ended, no event gets lost, and the wait of the thread is not interrupted. -/
def GoesOn (b : Rx.Build) (s : DeliverySys) : DeliveryAct → Prop
  | .isrStep => EventDiscipline s.sys .isrStep ∧
      (∀ skb, s.sys.isr = .queueTail skb → s.sys.rx ≠ .completed ∧
        ∀ buf ∈ s.incoming, buf.Accepted b)
  | .rxStep ok _ => s.sys.rx = .waitEvent → ok = true
  | _ => True

/-! ## Getting to the end of the queue -/

section Progress

variable {b : Rx.Build} {s : DeliverySys}

/-- What the thread needs to go through its queue: nobody has told it to stop, and it knows the
contents of its packets, which are all accepted. -/
structure Ready (b : Rx.Build) (s : DeliverySys) : Prop where
  threadDone : s.sys.dev.threadDone = 0
  parallel : s.queue.length = s.sys.dev.head.length
  accepted : ∀ buf ∈ s.queue, buf.Accepted b

/-- From `s` the thread comes by itself to its next `skb_dequeue`, with the queue as it is. -/
def ComesToDequeue (b : Rx.Build) (s : DeliverySys) : Prop :=
  ∃ t, Relation.ReflTransGen (ConsumerStep b) s t ∧ Ready b t ∧ t.sys.rx = .dequeue ∧
    t.queue = s.queue ∧ t.handed = s.handed

/-- One step nearer. -/
theorem ComesToDequeue.head {t : DeliverySys} (hstep : s.rxStep b true 0 = some t)
    (hqueue : t.queue = s.queue) (hhanded : t.handed = s.handed) (h : ComesToDequeue b t) :
    ComesToDequeue b s := by
  obtain ⟨u, hrun, hready, hrx, hqueue', hhanded'⟩ := h
  exact ⟨u, .head ⟨0, hstep⟩ hrun, hready, hrx, hqueue'.trans hqueue, hhanded'.trans hhanded⟩

theorem comesToDequeue_of_checkDoneInLoop (hready : Ready b s)
    (hrx : s.sys.rx = .checkDoneInLoop) : ComesToDequeue b s := by
  have hstep : s.rxStep b true 0 = some { s with sys.rx := .dequeue } := by
    simp [rxStep, Sys.rxStep, hrx, hready.threadDone]
  exact .head hstep rfl rfl ⟨_, .refl, ⟨hready.threadDone, hready.parallel, hready.accepted⟩,
    rfl, rfl, rfl⟩

theorem comesToDequeue_of_uncount (hready : Ready b s) (hrx : s.sys.rx = .uncount) :
    ComesToDequeue b s := by
  let t : DeliverySys := { s with
    sys.dev.numRxPkts :=
      if 0 < s.sys.dev.numRxPkts then s.sys.dev.numRxPkts - 1 else s.sys.dev.numRxPkts
    sys.rx := .checkDoneInLoop }
  have hstep : s.rxStep b true 0 = some t := by
    simp [rxStep, Sys.rxStep, hrx, t]
  have ht : Ready b t := ⟨hready.threadDone, hready.parallel, hready.accepted⟩
  exact .head hstep rfl rfl (comesToDequeue_of_checkDoneInLoop ht rfl)

/-- The buffer in hand is accepted, so that the thread comes back for the next one. -/
theorem comesToDequeue_of_readPkt (hready : Ready b s) {skb : Skb} (hrx : s.sys.rx = .readPkt skb)
    {buf : Buffer} (hcurrent : s.current = some buf) (haccepted : buf.Accepted b) :
    ComesToDequeue b s := by
  -- with enough turns `rsi_read_pkt` returns 0
  obtain ⟨fuel, o, hread, hstatus⟩ := haccepted
  have hstep : s.rxStep b true fuel =
      some { s with sys.rx := .uncount, current := none, freed := s.freed ++ [buf] } := by
    simp [rxStep, Sys.rxStep, hrx, hcurrent, hread, hstatus]
  have hready' : Ready b
      { s with sys.rx := .uncount, current := none, freed := s.freed ++ [buf] } :=
    ⟨hready.threadDone, hready.parallel, hready.accepted⟩
  obtain ⟨t, hrun, hend⟩ := comesToDequeue_of_uncount hready' rfl
  exact ⟨t, .head ⟨fuel, hstep⟩ hrun, hend⟩

theorem comesToDequeue_of_checkDone (hready : Ready b s) (hrx : s.sys.rx = .checkDone) :
    ComesToDequeue b s := by
  have hstep : s.rxStep b true 0 = some { s with sys.rx := .dequeue } := by
    simp [rxStep, Sys.rxStep, hrx, hready.threadDone]
  exact .head hstep rfl rfl ⟨_, .refl, ⟨hready.threadDone, hready.parallel, hready.accepted⟩,
    rfl, rfl, rfl⟩

theorem comesToDequeue_of_waitEvent (hready : Ready b s) (hrx : s.sys.rx = .waitEvent)
    (hevent : s.sys.dev.eventCondition = false) : ComesToDequeue b s := by
  have hstep : s.rxStep b true 0 = some { s with sys.rx := .checkDone } := by
    simp [rxStep, Sys.rxStep, hrx, hevent]
  exact .head hstep rfl rfl (comesToDequeue_of_checkDone
    ⟨hready.threadDone, hready.parallel, hready.accepted⟩ rfl)

/-- At `skb_dequeue` the thread goes on to the end of the queue. -/
theorem drain (n : ℕ) (hn : s.queue.length = n) (hready : Ready b s)
    (hrx : s.sys.rx = .dequeue) :
    ∃ t, Relation.ReflTransGen (ConsumerStep b) s t ∧ t.handed = s.handed ++ s.queue := by
  induction n generalizing s with
  | zero =>
    -- there is nothing left to take
    rw [List.length_eq_zero_iff.1 hn]
    exact ⟨s, .refl, (List.append_nil _).symm⟩
  | succ n ih =>
    -- the first packet, and its contents
    obtain ⟨buf, queue, hqueue⟩ := List.exists_cons_of_length_eq_add_one hn
    obtain ⟨skb, head, hhead⟩ := List.exists_cons_of_length_eq_add_one (hready.parallel ▸ hn)
    let t : DeliverySys := { s with
      sys.dev.head := head
      sys.rx := .readPkt skb
      queue := queue
      current := some buf
      handed := s.handed ++ [buf] }
    have hstep : s.rxStep b true 0 = some t := by
      simp [rxStep, Sys.rxStep, hrx, hhead, hqueue, t]
    have hparallel := hready.parallel
    have haccepted := hready.accepted
    rw [hqueue, hhead, List.length_cons, List.length_cons] at hparallel
    rw [hqueue] at haccepted hn
    have hready' : Ready b t :=
      ⟨hready.threadDone, Nat.succ.inj hparallel, (List.forall_mem_cons.1 haccepted).2⟩
    -- the thread comes back to `skb_dequeue` with a shorter queue
    obtain ⟨u, hrun, hready'', hrx', hqueue', hhanded'⟩ :=
      comesToDequeue_of_readPkt hready' (show t.sys.rx = .readPkt skb from rfl) rfl
        (List.forall_mem_cons.1 haccepted).1
    obtain ⟨v, hrun', hhanded⟩ := ih (by rw [hqueue']; exact Nat.succ.inj hn) hready'' hrx'
    refine ⟨v, (Relation.ReflTransGen.head ⟨0, hstep⟩ hrun).trans hrun', ?_⟩
    rw [hhanded, hhanded', hqueue', hqueue, List.append_assoc]
    rfl

end Progress

/-! ## Invariant -/

section Invariant

variable {b : Rx.Build} {s s' : DeliverySys}

/-- What holds in a run that keeps the condition. -/
structure DeliveryInv (b : Rx.Build) (s : DeliverySys) : Prop where
  event : EventInv s.sys
  alive : s.sys.rx ≠ .returned
  parallel : s.queue.length = s.sys.dev.head.length
  /-- The packet that the producer is about to append has contents. -/
  incoming : ∀ skb, s.sys.isr = .queueTail skb → s.incoming.isSome = true
  /-- So has the packet in `rsi_read_pkt`, and no other position of the consumer has a packet. -/
  current : (∃ skb, s.sys.rx = .readPkt skb) ↔ s.current.isSome = true
  freedOnce : s.freed ++ s.current.toList ++ s.queue = s.appended
  completed : s.sys.rx = .completed → s.queue = []
  inOrder : s.sys.rx ≠ .completed → s.handed ++ s.queue = s.appended
  /-- Only `thread_done` takes the consumer to its end. -/
  stopping : s.sys.rx = .resetEvent true ∨ s.sys.rx = .purge ∨ s.sys.rx = .completed →
    s.sys.dev.threadDone ≠ 0
  accepted : ∀ buf, buf ∈ s.current ∨ buf ∈ s.queue → buf.Accepted b

theorem DeliveryInv.start : DeliveryInv b start where
  event := .start
  alive := by decide
  parallel := rfl
  incoming _ h := by cases h
  current := by
    constructor
    · rintro ⟨_, h⟩
      cases h
    · intro h
      cases h
  freedOnce := rfl
  completed h := by cases h
  inOrder _ := rfl
  stopping h := by rcases h with h | h | h <;> cases h
  accepted buf h := by rcases h with h | h <;> cases h

/-- Outside `rsi_read_pkt` the consumer has no buffer. -/
theorem DeliveryInv.current_eq_none (hinv : DeliveryInv b s)
    (hrx : ∀ skb, s.sys.rx ≠ .readPkt skb) : s.current = none := by
  have hnone : ¬ s.current.isSome = true := by
    intro hsome
    obtain ⟨skb, hread⟩ := hinv.current.2 hsome
    exact hrx skb hread
  simpa using hnone

/-- The interrupt handler leaves the consumer and the queue alone until it appends. -/
theorem arrive_frame {s s' : Sys} {interruptStatus : BitVec 32} {register : Option (BitVec 8)}
    {alloc read : Bool} (h : s.arrive interruptStatus register alloc read = some s') :
    s'.rx = s.rx ∧ s'.dev.head = s.dev.head ∧ s'.dev.threadDone = s.dev.threadDone := by
  obtain ⟨-, ⟨_, rfl⟩ | ⟨-, rfl⟩ | rfl | ⟨-, len, rfl⟩⟩ := Sys.arrive_cases h <;>
    exact ⟨rfl, rfl, rfl⟩

theorem DeliveryInv.arrive (hinv : DeliveryInv b s) {interruptStatus : BitVec 32}
    {register : Option (BitVec 8)} {alloc read : Bool} {m : ByteMemory} {env : Rx.Env}
    (h : s.arrive interruptStatus register alloc read m env = some s') : DeliveryInv b s' := by
  obtain ⟨sys, hsys, rfl⟩ := Option.map_eq_some_iff.1 h
  obtain ⟨hrx, hhead, hdone⟩ := arrive_frame hsys
  constructor
  · exact hinv.event.arrive hsys
  · exact hrx ▸ hinv.alive
  · exact hhead ▸ hinv.parallel
  · intro skb hskb
    have hisr : sys.isr = .queueTail skb := hskb
    simp only [hisr, Option.isSome_some]
  · exact hrx ▸ hinv.current
  · exact hinv.freedOnce
  · exact hrx ▸ hinv.completed
  · exact hrx ▸ hinv.inOrder
  · exact hrx ▸ hdone ▸ hinv.stopping
  · exact hinv.accepted

theorem DeliveryInv.isrStep (hinv : DeliveryInv b s) (hgoes : GoesOn b s .isrStep)
    (h : s.isrStep = some s') : DeliveryInv b s' := by
  obtain ⟨sys, hsys, rfl⟩ := Option.map_eq_some_iff.1 h
  have hevent := hinv.event.isrStep hgoes.1 hsys
  rcases Sys.isrStep_cases hsys with ⟨skb, hisr, rfl⟩ | ⟨hisr, rfl⟩ | ⟨hisr, rfl⟩
  · obtain ⟨buf, hbuf⟩ := Option.isSome_iff_exists.1 (hinv.incoming skb hisr)
    obtain ⟨hopen, haccepted⟩ := hgoes.2 skb hisr
    rw [hisr, hbuf]
    refine ⟨hevent, hinv.alive, ?_, ?_, hinv.current, ?_, fun h => absurd h hopen, ?_,
      hinv.stopping, ?_⟩
    · simp [hinv.parallel]
    · intro _ h
      cases h
    · simp [← hinv.freedOnce]
    · intro h
      simp [← hinv.inOrder h]
    · rintro buf' (hcurrent | hqueue)
      · exact hinv.accepted buf' (.inl hcurrent)
      · rcases List.mem_append.1 hqueue with hold | hnew
        · exact hinv.accepted buf' (.inr hold)
        · -- the packet that was appended
          obtain rfl : buf' = buf := by simpa using hnew
          exact haccepted buf' hbuf
  · rw [hisr]
    refine ⟨hevent, hinv.alive, hinv.parallel, ?_, hinv.current, hinv.freedOnce,
      hinv.completed, hinv.inOrder, hinv.stopping, hinv.accepted⟩
    intro _ h
    cases h
  · rw [hisr]
    refine ⟨hevent, hinv.alive, ?_, ?_, hinv.current, hinv.freedOnce, hinv.completed,
      hinv.inOrder, hinv.stopping, hinv.accepted⟩
    · simpa [Dev.setEvent] using hinv.parallel
    · intro _ h
      cases h

/-- Where the consumer has no packet and has not come to its end. -/
def RxPc.between : RxPc → Bool
  | .readPkt _ | .completed | .returned => false
  | _ => true

/-- A move of the consumer between two packets. -/
theorem DeliveryInv.between (hinv : DeliveryInv b s) {sys : Sys} (hevent : EventInv sys)
    (hisr : sys.isr = s.sys.isr) (hhead : sys.dev.head = s.sys.dev.head)
    (hfrom : RxPc.between s.sys.rx = true) (hto : RxPc.between sys.rx = true)
    (hstopping : sys.rx = .resetEvent true ∨ sys.rx = .purge → sys.dev.threadDone ≠ 0) :
    DeliveryInv b { s with sys } := by
  have hcurrent : s.current = none := hinv.current_eq_none fun skb hrx => by
    rw [hrx] at hfrom
    cases hfrom
  have hopen : s.sys.rx ≠ .completed := by
    intro hrx
    rw [hrx] at hfrom
    cases hfrom
  constructor
  · exact hevent
  · intro hrx
    rw [hrx] at hto
    cases hto
  · exact hhead ▸ hinv.parallel
  · exact hisr ▸ hinv.incoming
  · constructor
    · rintro ⟨skb, hrx⟩
      rw [hrx] at hto
      cases hto
    · intro hsome
      rw [hcurrent] at hsome
      cases hsome
  · exact hinv.freedOnce
  · intro hrx
    rw [hrx] at hto
    cases hto
  · exact fun _ => hinv.inOrder hopen
  · rintro (hrx | hrx | hrx)
    · exact hstopping (.inl hrx)
    · exact hstopping (.inr hrx)
    · rw [hrx] at hto
      cases hto
  · exact hinv.accepted

/-- The moves of the consumer that take no packet and do not purge the queue. -/
theorem rxStep_between {s s' : Sys} {ok : Bool} (h : s.rxStep ok = some s')
    (hfrom : RxPc.between s.rx = true) (hdequeue : s.rx ≠ .dequeue) (hpurge : s.rx ≠ .purge)
    (hwait : s.rx = .waitEvent → ok = true)
    (hstopping : s.rx = .resetEvent true → s.dev.threadDone ≠ 0) :
    s'.isr = s.isr ∧ s'.dev.head = s.dev.head ∧ RxPc.between s'.rx = true ∧
      (s'.rx = .resetEvent true ∨ s'.rx = .purge → s'.dev.threadDone ≠ 0) := by
  obtain ⟨dev', rx', hmove, rfl⟩ := Sys.rxStep_cases h
  generalize s.rx = rx at hmove hfrom hdequeue hpurge hwait hstopping
  cases hmove with
  | interrupted hok =>
    rw [hwait rfl] at hok
    cases hok
  | stopped hdone => exact ⟨rfl, rfl, rfl, fun _ => hdone⟩
  | stoppedInLoop hdone => exact ⟨rfl, rfl, rfl, fun _ => hdone⟩
  | resetEvent done =>
    cases done with
    | true => exact ⟨rfl, rfl, rfl, fun _ => hstopping rfl⟩
    | false => exact ⟨rfl, rfl, rfl, fun h => by rcases h with h | h <;> cases h⟩
  | woken | drain | uncount | next =>
    exact ⟨rfl, rfl, rfl, fun h => by rcases h with h | h <;> cases h⟩
  | empty => exact absurd rfl hdequeue
  | dequeue => exact absurd rfl hdequeue
  | delivered | failed => cases hfrom
  | purge => exact absurd rfl hpurge

/-- The consumer takes the next packet, or finds that there is none. -/
theorem DeliveryInv.dequeue (hinv : DeliveryInv b s) (hrx : s.sys.rx = .dequeue) {sys : Sys}
    {ok : Bool} (h : s.sys.rxStep ok = some sys) :
    DeliveryInv b { s with
      sys
      queue := s.queue.tail
      current := s.queue.head?
      handed := s.handed ++ s.queue.head?.toList } := by
  have hevent := hinv.event.rxStep h
  have hparallel := hinv.parallel
  have hcurrent : s.current = none := hinv.current_eq_none fun skb hread => by
    rw [hrx] at hread
    cases hread
  cases hqueue : s.queue with
  | nil =>
    rw [hqueue] at hparallel
    have hhead : s.sys.dev.head = [] := List.length_eq_zero_iff.1 hparallel.symm
    have hsys : sys = { s.sys with rx := .resetEvent false } := by
      simpa [Sys.rxStep, hrx, hhead] using h.symm
    subst hsys
    -- the consumer moves and takes nothing
    have hmoved := hinv.between hevent rfl rfl (by rw [hrx]; rfl) rfl
      (by rintro (hne | hne) <;> cases hne)
    simpa [hqueue, hcurrent] using hmoved
  | cons buf queue =>
    have hinOrder := hinv.inOrder (by rw [hrx]; decide)
    have hfreed := hinv.freedOnce
    have haccepted := hinv.accepted
    rw [hcurrent] at hfreed
    rw [hqueue] at hparallel hinOrder hfreed haccepted
    obtain ⟨skb, head, hhead⟩ := List.exists_cons_of_length_eq_add_one hparallel.symm
    rw [hhead, List.length_cons, List.length_cons] at hparallel
    have hsys : sys = { s.sys with dev.head := head, rx := .readPkt skb } := by
      simpa [Sys.rxStep, hrx, hhead] using h.symm
    subst hsys
    constructor
    · exact hevent
    · intro hne
      cases hne
    · exact Nat.succ.inj hparallel
    · exact hinv.incoming
    · simp
    · simpa using hfreed
    · intro hne
      cases hne
    · intro
      simpa using hinOrder
    · rintro (hne | hne | hne) <;> cases hne
    · rintro buf' (hfirst | hrest)
      · exact haccepted buf' (.inr (List.mem_cons.2 (.inl (Option.some.inj hfirst).symm)))
      · exact haccepted buf' (.inr (List.mem_cons_of_mem _ hrest))

/-- The call of `rsi_read_pkt` comes back with 0, and the packet is freed. -/
theorem DeliveryInv.readPkt (hinv : DeliveryInv b s) {skb : Skb} (hrx : s.sys.rx = .readPkt skb)
    {buf : Buffer} (hcurrent : s.current = some buf) {fuel : ℕ} {o : Rx.Outcome}
    (hread : Rx.readPkt b buf.env buf.m buf.len fuel = some o) {sys : Sys}
    (h : s.sys.rxStep (decide (o.status = 0)) = some sys) :
    DeliveryInv b { s with sys, current := none, freed := s.freed ++ [buf] } := by
  have hevent := hinv.event.rxStep h
  have hinOrder := hinv.inOrder (by rw [hrx]; exact fun h => by cases h)
  have hfreed := hinv.freedOnce
  have haccepted := hinv.accepted
  rw [hcurrent] at hfreed
  -- an accepted buffer does not make the call fail
  have hstatus : o.status = 0 := by
    obtain ⟨fuel', o', hread', hstatus'⟩ := hinv.accepted buf (.inl hcurrent)
    rwa [Rx.readPkt_unique hread hread']
  have hsys : sys = { s.sys with rx := .uncount } := by
    simpa [Sys.rxStep, hrx, hstatus] using h.symm
  subst hsys
  constructor
  · exact hevent
  · intro hne
    cases hne
  · exact hinv.parallel
  · exact hinv.incoming
  · constructor
    · rintro ⟨skb', hread'⟩
      cases hread'
    · intro hsome
      cases hsome
  · simpa using hfreed
  · intro hne
    cases hne
  · exact fun _ => hinOrder
  · rintro (hne | hne | hne) <;> cases hne
  · rintro buf' (hnone | hqueue)
    · cases hnone
    · exact haccepted buf' (.inr hqueue)

/-- The queue is purged at the end. -/
theorem DeliveryInv.purge (hinv : DeliveryInv b s) (hrx : s.sys.rx = .purge) {sys : Sys}
    {ok : Bool} (h : s.sys.rxStep ok = some sys) :
    DeliveryInv b { s with sys, queue := [], freed := s.freed ++ s.queue } := by
  have hevent := hinv.event.rxStep h
  have hfreed := hinv.freedOnce
  have hcurrent : s.current = none := hinv.current_eq_none fun skb hread => by
    rw [hrx] at hread
    cases hread
  -- nothing is in hand, so the queue is all that is left
  rw [hcurrent] at hfreed
  have hsys : sys = { s.sys with
      dev.head := [], dev.threadDone := s.sys.dev.threadDone + 1, rx := .completed } := by
    simpa [Sys.rxStep, hrx] using h.symm
  subst hsys
  constructor
  · exact hevent
  · intro hne
    cases hne
  · rfl
  · exact hinv.incoming
  · rw [hcurrent]
    constructor
    · rintro ⟨skb', hread'⟩
      cases hread'
    · intro hsome
      cases hsome
  · simpa [hcurrent] using hfreed
  · exact fun _ => rfl
  · exact fun hne => absurd rfl hne
  · exact fun _ => Nat.succ_ne_zero _
  · rintro buf (hin | hnil)
    · exact hinv.accepted buf (.inl hin)
    · cases hnil

theorem DeliveryInv.rxStep (hinv : DeliveryInv b s) {ok : Bool} {fuel : ℕ}
    (hwait : s.sys.rx = .waitEvent → ok = true) (h : s.rxStep b ok fuel = some s') :
    DeliveryInv b s' := by
  unfold DeliverySys.rxStep at h
  split at h
  · rename_i hrx
    obtain ⟨sys, hsys, rfl⟩ := Option.map_eq_some_iff.1 h
    exact hinv.dequeue hrx hsys
  · rename_i skb hrx
    obtain ⟨buf, hcurrent, h⟩ := Option.bind_eq_some_iff.1 h
    obtain ⟨o, hread, h⟩ := Option.bind_eq_some_iff.1 h
    obtain ⟨sys, hsys, rfl⟩ := Option.map_eq_some_iff.1 h
    exact hinv.readPkt hrx hcurrent hread hsys
  · rename_i hrx
    obtain ⟨sys, hsys, rfl⟩ := Option.map_eq_some_iff.1 h
    exact hinv.purge hrx hsys
  · rename_i hdequeue hread hpurge
    obtain ⟨sys, hsys, rfl⟩ := Option.map_eq_some_iff.1 h
    have hfrom : RxPc.between s.sys.rx = true := by
      cases hrx : s.sys.rx with
      | readPkt skb => exact absurd hrx (hread skb)
      | completed | returned =>
        rw [Sys.rxStep, hrx] at hsys
        cases hsys
      | _ => rfl
    obtain ⟨hisr, hhead, hto, hstopping⟩ := rxStep_between hsys hfrom hdequeue hpurge hwait
      fun hstop => hinv.stopping (.inl hstop)
    exact hinv.between (hinv.event.rxStep hsys) hisr hhead hfrom hto hstopping

theorem DeliveryInv.killStep (hinv : DeliveryInv b s) (h : s.killStep = some s') :
    DeliveryInv b s' := by
  obtain ⟨sys, hsys, rfl⟩ := Option.map_eq_some_iff.1 h
  have hevent := hinv.event.killStep hsys
  have hdone : s.sys.dev.threadDone ≠ 0 → sys.dev.threadDone ≠ 0 := by
    intro hne
    -- `rsi_kill_thread` only ever sets it
    unfold Sys.killStep at hsys
    split at hsys
    · rw [if_pos hne] at hsys
      cases hsys
    · cases hsys
      exact hne
    · cases hsys
  obtain ⟨threadDone, _, _, -, rfl⟩ := Sys.killStep_cases hsys
  exact ⟨hevent, hinv.alive, hinv.parallel, hinv.incoming, hinv.current, hinv.freedOnce,
    hinv.completed, hinv.inOrder, fun hstop => hdone (hinv.stopping hstop), hinv.accepted⟩

/-- What holds in every run that keeps the condition. -/
theorem deliveryInv_of_goesOn (h : (system b).ReachableVia (GoesOn b) s) : DeliveryInv b s := by
  refine h.invariant (DeliveryInv b) (fun s hs => hs ▸ .start) fun s a s' hinv hgoes hstep => ?_
  cases a with
  | arrive interruptStatus register alloc read m env => exact hinv.arrive hstep
  | isrStep => exact hinv.isrStep hgoes hstep
  | rxStep ok fuel => exact hinv.rxStep hgoes hstep
  | killStep => exact hinv.killStep hstep

/-- The thread comes to its next packet from wherever it is, if it was told of one. -/
theorem DeliveryInv.comesToDequeue (hinv : DeliveryInv b s) (hdone : s.sys.dev.threadDone = 0)
    (htold : ∃ skb ∈ s.sys.dev.head, skb.signalled = true) : ComesToDequeue b s := by
  -- a thread that was told of a packet is not about to sleep
  have hready : Ready b s := ⟨hdone, hinv.parallel, fun buf hbuf => hinv.accepted buf (.inr hbuf)⟩
  obtain ⟨skb, hskb, hsignalled⟩ := htold
  have hawake : ¬ GoesToSleep s.sys := by
    intro hsleep
    rw [hinv.event.asleep hsleep skb hskb] at hsignalled
    cases hsignalled
  cases hrx : s.sys.rx with
  | waitEvent =>
    apply comesToDequeue_of_waitEvent hready hrx
    -- the event is set, or the thread would sleep on the packet
    cases hcond : s.sys.dev.eventCondition with
    | false => rfl
    | true => exact absurd (.inr ⟨hrx, hcond⟩) hawake
  | checkDone => exact comesToDequeue_of_checkDone hready hrx
  | dequeue => exact ⟨s, .refl, hready, hrx, rfl, rfl⟩
  | readPkt skb' =>
    obtain ⟨buf, hbuf⟩ := Option.isSome_iff_exists.1 (hinv.current.1 ⟨skb', hrx⟩)
    exact comesToDequeue_of_readPkt hready hrx hbuf (hinv.accepted buf (.inl hbuf))
  | uncount => exact comesToDequeue_of_uncount hready hrx
  | checkDoneInLoop => exact comesToDequeue_of_checkDoneInLoop hready hrx
  | resetEvent done =>
    cases done with
    | false => exact absurd (.inl hrx) hawake
    | true => exact absurd hdone (hinv.stopping (.inl hrx))
  | purge => exact absurd hdone (hinv.stopping (.inr (.inl hrx)))
  | completed => exact absurd hdone (hinv.stopping (.inr (.inr hrx)))
  | returned => exact absurd hrx hinv.alive

end Invariant

/-- **A bad packet does not stop reception**: in the runs in which `rsi_read_pkt` accepts every
buffer that is queued, no event gets lost, nothing is queued behind the end of the thread and no
signal interrupts it. -/
theorem delivers_of_goesOn (b : Rx.Build) (s : DeliverySys)
    (h : (system b).ReachableVia (GoesOn b) s) : Delivers b s := by
  have hinv := deliveryInv_of_goesOn h
  refine ⟨hinv.alive, hinv.freedOnce, fun hend => ⟨?_, hinv.completed hend⟩, hinv.inOrder, ?_⟩
  · refine hinv.current_eq_none fun skb hrx => ?_
    rw [hend] at hrx
    cases hrx
  · intro hdone htold
    -- to the next `skb_dequeue`, and from there to the end of the queue
    obtain ⟨t, hrun, hready, hrx, hqueue, hhanded⟩ := hinv.comesToDequeue hdone htold
    obtain ⟨u, hrun', hend⟩ := drain _ rfl hready hrx
    refine ⟨u, hrun.trans hrun', ?_⟩
    -- the queue has not been purged
    rw [hend, hhanded, hqueue]
    refine hinv.inOrder fun hcompleted => ?_
    exact hinv.stopping (.inr (.inr hcompleted)) hdone

section Examples

/-- A block with an empty management packet is accepted. -/
theorem accepted_emptyMgmtPacket :
    Buffer.Accepted Rx.defaultBuild ⟨Rx.emptyMgmtPacket, Rx.allocating, 256⟩ := by
  refine ⟨2, ⟨0, [.handOn .mgmtPktRecv ([0, 0x40] ++ List.replicate 14 0)],
    [⟨0, 4⟩, ⟨4, 2⟩, ⟨8, 2⟩, ⟨4, 16⟩, ⟨20, 4⟩, ⟨20, 2⟩]⟩, ?_, rfl⟩
  decide

/-- One block is received and freed, and the thread waits for the next one. -/
theorem delivers_oneBlock :
    ∃ s, s.handed.length = 1 ∧ s.freed.length = 1 ∧ Delivers Rx.defaultBuild s := by
  have harrived := (TransitionSystem.ReachableVia.init rfl :
    (system Rx.defaultBuild).ReachableVia (GoesOn Rx.defaultBuild) start).step
      (a := DeliveryAct.arrive 1 none true true Rx.emptyMgmtPacket Rx.allocating) trivial rfl
  have happended := harrived.step (a := DeliveryAct.isrStep)
    ⟨fun h => (by cases h), fun _ _ => ⟨fun h => (by cases h), fun buf hbuf => by
      obtain rfl := Option.some.inj hbuf
      exact accepted_emptyMgmtPacket⟩⟩ rfl
  have hcounted := happended.step (a := DeliveryAct.isrStep)
    ⟨fun h => (by cases h), fun _ h => (by cases h)⟩ rfl
  have hsignalled := hcounted.step (a := DeliveryAct.isrStep)
    ⟨fun _ h => (by cases h), fun _ h => (by cases h)⟩ rfl
  have hwoken := hsignalled.step (a := DeliveryAct.rxStep true 0) (fun _ => rfl) rfl
  have hdrain := hwoken.step (a := DeliveryAct.rxStep true 0) (fun _ => rfl) rfl
  have hread := hdrain.step (a := DeliveryAct.rxStep true 0) (fun _ => rfl) rfl
  have hfreed := hread.step (a := DeliveryAct.rxStep true 2) (fun _ => rfl) rfl
  exact ⟨_, rfl, rfl, delivers_of_goesOn Rx.defaultBuild _ hfreed⟩

/-- A packet from the invalid queue 2. -/
def invalidQueue : ByteMemory := ByteMemory.ofList [20, 0, 4, 0, 0, 0x20]

/-- The thread function returns on the first packet from an invalid queue. -/
theorem not_delivers :
    ¬ ∀ s, (system Rx.defaultBuild).Reachable s → Delivers Rx.defaultBuild s := by
  let schedule : List DeliveryAct :=
    [.arrive 1 none true true invalidQueue Rx.allocating, .isrStep, .isrStep, .isrStep,
      .rxStep true 0, .rxStep true 0, .rxStep true 0, .rxStep true 1]
  refine TransitionSystem.not_forall_reachable_of_run schedule rfl rfl fun hdelivers => ?_
  exact hdelivers.alive rfl

end Examples

end DeliverySys

end SdioRx
