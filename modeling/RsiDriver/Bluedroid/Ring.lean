import RsiDriver.ToMathlib.RingBuffer
import RsiDriver.ToMathlib.TransitionSystem

/-!
# The Bluedroid character device

In a build for the Bluedroid stack, `rsi_send_to_stack` puts a copy of each Bluetooth packet, with
its type in front, into a ring of pointers, and `rsi_btchr_read` hands the bytes to the stack
(`rsi_91x_bluedroid.c`). A read of fewer bytes than the packet at the front has leaves the rest of
it in the ring, but frees the buffer.

A read that waits for a packet is one that comes when the packet is there; here a read of an empty
ring fails. The buffer that a read has taken off is never freed; that is left out. The copy of a
packet has room for the type.

## Main results

* `streamOk_of_wholePackets`: the stack reads what has arrived, if each read takes a whole packet;
* `not_streamOk`: a read of one byte, and another read.
-/

namespace Bluedroid

/-- `QUEUE_SIZE` -/
def QUEUE_SIZE : ℕ := 500

/-- `-ENOMEM` -/
def ENOMEM : ℤ := -12

/-- `-EINVAL` -/
def EINVAL : ℤ := -22

/-- A packet from `skb->data` on, and whether its buffer was freed. -/
structure Skb where
  data : List (BitVec 8)
  freed : Bool
  deriving DecidableEq, Repr, Inhabited

/-- The ring of `struct rsi_common`. The other fields are histories: the bytes that have arrived and
those that were returned, the packets put into the ring and taken off, and whether a freed buffer
was read. -/
structure Common where
  /-- `rsi_skb_queue_front` -/
  front : ℤ
  /-- `rsi_skb_queue_rear` -/
  rear : ℤ
  /-- `rsi_skb_queue` -/
  queue : ℕ → Skb
  arrived : List (BitVec 8)
  returned : List (BitVec 8)
  enqueued : ℕ
  dequeued : ℕ
  usedFreed : Bool

namespace Common

/-- The ring after `rsi_bdroid_init`. -/
def start : Common := ⟨-1, -1, fun _ => default, [], [], 0, 0, false⟩

/-- The slot behind the rear is the front. -/
def isFull (s : Common) : Bool := s.front == (s.rear + 1) % QUEUE_SIZE

/-- `rsi_enqueue` -/
def enqueue (s : Common) (skb : Skb) : Common :=
  -- the packet is dropped
  if s.isFull then s
  else
    let front := if s.front = -1 then 0 else s.front
    let rear := if s.front = -1 then 0 else (s.rear + 1) % QUEUE_SIZE
    { s with
      front := front, rear := rear
      queue := Function.update s.queue rear.toNat skb
      enqueued := s.enqueued + 1 }

/-- `rsi_send_to_stack`. The stack is `running` if there is an adapter and a device with
`HCI_RUNNING`; `copyOk` is the outcome of `pskb_copy`. -/
def sendToStack (s : Common) (pktType : BitVec 8) (pkt : List (BitVec 8))
    (running copyOk : Bool) : Common :=
  let s := { s with arrived := s.arrived ++ pktType :: pkt }
  if running && copyOk then s.enqueue ⟨pktType :: pkt, false⟩ else s

/-- `rsi_dequeue` -/
def dequeue (s : Common) (deqLen : ℕ) (copyOk : Bool) : Common × Option Skb :=
  if s.front = -1 then (s, none)
  else
    let skb := s.queue s.front.toNat
    let s := { s with usedFreed := s.usedFreed || skb.freed }
    if skb.data.length ≤ deqLen then
      let s := { s with dequeued := s.dequeued + 1 }
      if s.front = s.rear then ({ s with front := -1, rear := -1 }, some skb)
      else ({ s with front := (s.front + 1) % QUEUE_SIZE }, some skb)
    else
      -- `skb_pull` and `dev_kfree_skb` of the packet that stays in the ring
      ({ s with queue := Function.update s.queue s.front.toNat ⟨skb.data.drop deqLen, true⟩ },
        if copyOk then some ⟨skb.data, false⟩ else none)

/-- `is_queue_empty` -/
def isQueueEmpty (s : Common) : Bool := s.front == -1

/-- `rsi_btchr_read` of `count` bytes. The wait for a packet may be `signaled`; `copyOk` and
`userOk` are the outcomes of `pskb_copy` and of `copy_to_user`. -/
def btchrRead (s : Common) (count : BitVec 64) (signaled copyOk userOk : Bool) : Common × ℤ :=
  if count = 0 then (s, 0)
  else if s.isQueueEmpty && signaled then (s, EINVAL)
  else
    -- `deq_len` is an `unsigned int`
    let deqLen := (count.setWidth 32).toNat
    match s.dequeue deqLen copyOk with
    | (s, none) => (s, ENOMEM)
    | (s, some skb) =>
      let len := min skb.data.length deqLen
      if userOk then ({ s with returned := s.returned ++ skb.data.take len }, len)
      else (s, EINVAL)

end Common

/-- What happens to the ring. -/
inductive Act
  | sendToStack (pktType : BitVec 8) (pkt : List (BitVec 8)) (running copyOk : Bool)
  | btchrRead (count : BitVec 64) (signaled copyOk userOk : Bool)

/-- Packets and reads in any order. -/
def system : TransitionSystem Common Act where
  Init s := s = .start
  step s
    | .sendToStack pktType pkt running copyOk => some (s.sendToStack pktType pkt running copyOk)
    | .btchrRead count signaled copyOk userOk =>
      some (s.btchrRead count signaled copyOk userOk).1

/-- The bytes in the ring. -/
def Common.queuedBytes (s : Common) : List (BitVec 8) :=
  (List.range (s.enqueued - s.dequeued)).flatMap fun i =>
    (s.queue ((s.front.toNat + i) % QUEUE_SIZE)).data

/-- **The byte stream**: what was returned is the beginning of what has arrived, the rest is in the
ring, no byte comes from a freed buffer, and the indices are those of slots, or both are -1 while
the ring is empty. -/
structure StreamOk (s : Common) : Prop where
  isPrefix : s.returned <+: s.arrived
  rest : s.returned ++ s.queuedBytes = s.arrived
  notFreed : s.usedFreed = false
  front : s.front = -1 ∨ (0 ≤ s.front ∧ s.front < QUEUE_SIZE)
  rear : s.rear = -1 ∨ (0 ≤ s.rear ∧ s.rear < QUEUE_SIZE)
  frontEmpty : s.front = -1 ↔ s.enqueued = s.dequeued
  rearEmpty : s.rear = -1 ↔ s.enqueued = s.dequeued

/-- No packet arrives at a full ring, and each read is for a byte at least. -/
def NeverFull (s : Common) : Act → Prop
  | .sendToStack _ _ _ _ => s.isFull = false
  | .btchrRead count _ _ _ => count ≠ 0

/-- Each packet is copied into the ring, and each read takes a whole packet and hands it over. -/
def WholePackets (s : Common) : Act → Prop
  | .sendToStack _ _ running copyOk => s.isFull = false ∧ running = true ∧ copyOk = true
  | .btchrRead count _ _ userOk =>
    count ≠ 0 ∧ (s.front ≠ -1 →
      (s.queue s.front.toNat).data.length ≤ (count.setWidth 32).toNat ∧ userOk = true)

instance (s : Common) (act : Act) : Decidable (NeverFull s act) := by
  cases act <;> unfold NeverFull <;> infer_instance

instance (s : Common) (act : Act) : Decidable (WholePackets s act) := by
  cases act <;> unfold WholePackets <;> infer_instance

/-! ## The ring as a queue -/

/-- The ring holds the packets `l`, which begin where the stack has read to. -/
structure Represents (s : Common) (l : List Skb) : Prop where
  ring : RingQueue QUEUE_SIZE s.queue s.front s.rear l
  stream : s.arrived = s.returned ++ l.flatMap Skb.data
  alive : ∀ skb ∈ l, skb.freed = false
  notFreed : s.usedFreed = false
  count : s.enqueued = s.dequeued + l.length

theorem Represents.streamOk {s : Common} {l : List Skb} (h : Represents s l) : StreamOk s := by
  have hbytes : s.queuedBytes = l.flatMap Skb.data := by
    have hslots := congrArg (List.flatMap Skb.data) h.ring.map_slots
    rw [List.flatMap_map] at hslots
    rw [Common.queuedBytes, h.count, Nat.add_sub_cancel_left]
    exact hslots
  have hempty : l = [] ↔ s.enqueued = s.dequeued := by
    rw [h.count, ← List.length_eq_zero_iff]
    omega
  rcases h.ring.range with ⟨hfront, hrear, hl⟩ | ⟨hf0, hf, hr0, hr, hl⟩
  · exact {
      isPrefix := ⟨_, h.stream.symm⟩
      rest := hbytes ▸ h.stream.symm
      notFreed := h.notFreed
      front := .inl hfront
      rear := .inl hrear
      frontEmpty := iff_of_true hfront (hempty.1 hl)
      rearEmpty := iff_of_true hrear (hempty.1 hl) }
  · have hne : ¬ s.enqueued = s.dequeued := fun heq => hl (hempty.2 heq)
    exact {
      isPrefix := ⟨_, h.stream.symm⟩
      rest := hbytes ▸ h.stream.symm
      notFreed := h.notFreed
      front := .inr ⟨hf0, hf⟩
      rear := .inr ⟨hr0, hr⟩
      frontEmpty := iff_of_false (by omega) hne
      rearEmpty := iff_of_false (by omega) hne }

theorem represents_start : Represents .start [] where
  ring := .nil
  stream := rfl
  alive := by simp
  notFreed := rfl
  count := rfl

theorem queue_size_pos : 0 < QUEUE_SIZE := by decide

/-- A packet is put behind the others. -/
theorem ringQueue_enqueue {s : Common} {l : List Skb}
    (h : RingQueue QUEUE_SIZE s.queue s.front s.rear l) (hroom : s.isFull = false)
    (skb : Skb) :
    RingQueue QUEUE_SIZE (s.enqueue skb).queue (s.enqueue skb).front (s.enqueue skb).rear
      (l ++ [skb]) := by
  have hlt : l.length < QUEUE_SIZE := by
    rcases h.range with ⟨-, -, rfl⟩ | ⟨hf0, hf, hr0, hr, hl⟩
    · exact queue_size_pos
    · refine Nat.lt_of_le_of_ne h.length_le fun hlen => ?_
      have hfull := (h.full_iff queue_size_pos).2 hlen
      rw [Common.isFull, hfull] at hroom
      simp at hroom
  rw [Common.enqueue, hroom]
  by_cases hfront : s.front = -1
  · rcases h.range with ⟨-, -, rfl⟩ | ⟨hf0, -⟩
    · simp only [hfront, if_true]
      exact RingQueue.singleton s.queue queue_size_pos skb
    · omega
  · have hne : l ≠ [] := by
      rintro rfl
      rcases h.range with ⟨hf, -, -⟩ | ⟨-, -, -, -, hl⟩
      · exact hfront hf
      · exact hl rfl
    simp only [hfront, if_false]
    exact h.concat hne hlt skb

theorem enqueue_of_room {s : Common} (hroom : s.isFull = false) (skb : Skb) :
    (s.enqueue skb).arrived = s.arrived ∧ (s.enqueue skb).returned = s.returned ∧
      (s.enqueue skb).enqueued = s.enqueued + 1 ∧ (s.enqueue skb).dequeued = s.dequeued ∧
      (s.enqueue skb).usedFreed = s.usedFreed := by
  rw [Common.enqueue, hroom]
  exact ⟨rfl, rfl, rfl, rfl, rfl⟩

theorem Represents.sendToStack {s : Common} {l : List Skb} (h : Represents s l)
    (hroom : s.isFull = false) (pktType : BitVec 8) (pkt : List (BitVec 8)) :
    Represents (s.sendToStack pktType pkt true true) (l ++ [⟨pktType :: pkt, false⟩]) := by
  show Represents (Common.enqueue { s with arrived := s.arrived ++ pktType :: pkt } _) _
  obtain ⟨harrived, hreturned, henq, hdeq, hfreed⟩ :=
    enqueue_of_room (s := { s with arrived := s.arrived ++ pktType :: pkt }) hroom
      ⟨pktType :: pkt, false⟩
  have hring := ringQueue_enqueue (s := { s with arrived := s.arrived ++ pktType :: pkt })
    h.ring hroom ⟨pktType :: pkt, false⟩
  refine ⟨hring, ?_, ?_, ?_, ?_⟩
  · rw [harrived, hreturned, h.stream, List.flatMap_append, ← List.append_assoc]
    simp
  · intro skb hskb
    rcases List.mem_append.1 hskb with hold | hnew
    · exact h.alive skb hold
    · rw [List.mem_singleton.1 hnew]
  · rw [hfreed, h.notFreed]
  · rw [henq, hdeq, h.count, List.length_append]
    rfl

/-- A whole packet is taken off. -/
theorem Represents.dequeue {s : Common} {skb : Skb} {l : List Skb} (h : Represents s (skb :: l))
    {deqLen : ℕ} (hlen : skb.data.length ≤ deqLen) (copyOk : Bool) :
    ∃ s', s.dequeue deqLen copyOk = (s', some skb) ∧
      Represents { s' with returned := s'.returned ++ skb.data } l := by
  have hhead : s.queue s.front.toNat = skb := h.ring.head
  have hfront : s.front ≠ -1 := h.ring.front_ne
  have halive : skb.freed = false := h.alive skb List.mem_cons_self
  have hfreed : (s.usedFreed || skb.freed) = false := by rw [h.notFreed, halive]; rfl
  have hstream : s.arrived = s.returned ++ skb.data ++ l.flatMap Skb.data := by
    rw [h.stream, List.flatMap_cons, List.append_assoc]
  have hcount : s.enqueued = s.dequeued + 1 + l.length := by
    rw [h.count, List.length_cons]
    omega
  have hrest : ∀ x ∈ l, x.freed = false := fun x hx => h.alive x (List.mem_cons_of_mem _ hx)
  rw [Common.dequeue, if_neg hfront, hhead]
  dsimp only
  rw [if_pos hlen]
  by_cases hlast : s.front = s.rear
  · -- it was the last one
    obtain rfl := h.ring.eq_iff.1 hlast
    rw [if_pos hlast]
    exact ⟨_, rfl, .nil, hstream, hrest, hfreed, hcount⟩
  · rw [if_neg hlast]
    cases l with
    | nil => exact absurd (h.ring.eq_iff.2 rfl) hlast
    | cons next l => exact ⟨_, rfl, h.ring.tail, hstream, hrest, hfreed, hcount⟩

/-- A read of an empty ring fails and leaves it as it is. -/
theorem btchrRead_of_empty {s : Common} (h : s.front = -1) (count : BitVec 64)
    (signaled copyOk userOk : Bool) : (s.btchrRead count signaled copyOk userOk).1 = s := by
  unfold Common.btchrRead
  split
  · rfl
  · split
    · rfl
    · have hdeq : s.dequeue (count.setWidth 32).toNat copyOk = (s, none) := if_pos h
      dsimp only
      rw [hdeq]

/-- A read that takes the whole packet at the front. -/
theorem Represents.btchrRead {s : Common} {skb : Skb} {l : List Skb} (h : Represents s (skb :: l))
    {count : BitVec 64} (hcount : count ≠ 0)
    (hlen : skb.data.length ≤ (count.setWidth 32).toNat) (signaled copyOk : Bool) :
    Represents (s.btchrRead count signaled copyOk true).1 l := by
  have hempty : s.isQueueEmpty = false := beq_eq_false_iff_ne.2 h.ring.front_ne
  obtain ⟨s', hdeq, hrest⟩ := h.dequeue hlen copyOk
  rw [Common.btchrRead, if_neg hcount, hempty, Bool.false_and, if_neg Bool.false_ne_true]
  dsimp only
  rw [hdeq]
  dsimp only
  rw [Nat.min_eq_left hlen, List.take_length]
  exact hrest

/-- One packet or one read. -/
theorem Represents.step {s s' : Common} {act : Act} {l : List Skb} (h : Represents s l)
    (hwhole : WholePackets s act) (hstep : system.step s act = some s') :
    ∃ l', Represents s' l' := by
  cases act with
  | sendToStack pktType pkt running copyOk =>
    obtain rfl := Option.some.inj hstep
    obtain ⟨hroom, rfl, rfl⟩ := hwhole
    exact ⟨_, h.sendToStack hroom pktType pkt⟩
  | btchrRead count signaled copyOk userOk =>
    obtain rfl := Option.some.inj hstep
    obtain ⟨hcount, htake⟩ := hwhole
    cases l with
    | nil =>
      rcases h.ring.range with ⟨hfront, -, -⟩ | ⟨-, -, -, -, hl⟩
      · rw [btchrRead_of_empty hfront]
        exact ⟨[], h⟩
      · exact absurd rfl hl
    | cons skb l =>
      obtain ⟨hlen, rfl⟩ := htake h.ring.front_ne
      rw [h.ring.head] at hlen
      exact ⟨l, h.btchrRead hcount hlen signaled copyOk⟩

theorem represents_of_reachableVia {s : Common} (h : system.ReachableVia WholePackets s) :
    ∃ l, Represents s l :=
  h.invariant (fun s => ∃ l, Represents s l) (fun _ hinit => hinit ▸ ⟨[], represents_start⟩)
    fun _ _ _ ⟨_, hrep⟩ hwhole hstep => hrep.step hwhole hstep

/-- If each packet is copied into the ring and each read takes a whole packet, the stack reads the
stream of what has arrived. -/
theorem streamOk_of_wholePackets {s : Common} (h : system.ReachableVia WholePackets s) :
    StreamOk s :=
  let ⟨_, hrep⟩ := represents_of_reachableVia h
  hrep.streamOk

/-- Two packets, of which one is read. -/
def wholeSchedule : List Act :=
  [.sendToStack 4 [0x0e, 1, 0] true true, .sendToStack 4 [0x13, 0] true true,
    .btchrRead 260 false true true]

theorem streamOk_wholeSchedule :
    StreamOk ((system.runVia WholePackets .start wholeSchedule).get rfl) :=
  streamOk_of_wholePackets (TransitionSystem.reachableVia_get rfl rfl)

/-- A stack that reads the type of the packet first, and then the rest -/
def typeFirst : List Act :=
  [.sendToStack 4 [0x0e, 1, 0] true true, .btchrRead 1 false true true,
    .btchrRead 3 false true true]

/-- The second read is from a freed buffer. -/
theorem not_streamOk : ¬ ∀ s, system.ReachableVia NeverFull s → StreamOk s := by
  intro hall
  have hread := hall ((system.runVia NeverFull .start typeFirst).get rfl)
    (TransitionSystem.reachableVia_get rfl rfl)
  exact absurd hread.notFreed (by decide)

end Bluedroid
