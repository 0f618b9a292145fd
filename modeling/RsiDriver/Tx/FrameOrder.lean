import RsiDriver.Tx.FlowControl

/-!
# The order of the frames

mac80211 relies on the driver to send the frames of an access category in the order in which it has
handed them over. `rsi_core_xmit` appends a frame to the queue of its priority, an iteration of
`rsi_core_qos_processor` takes the first one off, and the senders write it or let go of it. The
frames of the driver itself, one kind of which goes to the head of its queue, share `MGMT_SOFT_Q`
and no data queue.

The runs are those of `Tx.FlowControl`; two histories say what mac80211 has handed over, and what
was written from which queue.

## Main results

* `ordered_of_reachable`: of each data queue the device gets the frames in the order in which
  mac80211 has handed them over.
-/

namespace Tx

open TransitionSystem Adapter

namespace Adapter

/-- The buffers in a queue -/
def tags (a : Adapter) (q : QNum) : List ℕ := (a.txQueue q).map SkBuff.tag

/-- The buffers that were written -/
def writtenTags (a : Adapter) : List ℕ := a.written.map SkBuff.tag

end Adapter

/-- The driver, with what mac80211 has handed over and what was written from each queue. -/
structure OrderSys where
  a : Adapter
  submitted : List ℕ
  sent : QNum → List ℕ

namespace OrderSys

/-- One step. What is new among the written buffers was taken from the queue of the iteration. -/
def step (s : OrderSys) : FlowAct → Option OrderSys
  | .xmit skb internal =>
    some { s with a := (s.a.coreXmit skb internal).1, submitted := s.submitted ++ [skb.tag] }
  | .iterate q hwFree ok =>
    let a := s.a.iterate q hwFree ok
    some { s with
      a := a
      sent := Function.update s.sent q (s.sent q ++ a.writtenTags.drop s.a.written.length) }
  | .reconfigure b => some { s with a := { s.a.reconfigure b with written := s.a.written } }

/-- The data queues are empty, and nothing has happened. -/
structure Init (s : OrderSys) : Prop where
  idle : s.a.DataIdle
  submitted : s.submitted = []
  sent : ∀ q, s.sent q = []

/-- Transmissions, iterations and changes of parameters. -/
def system : TransitionSystem OrderSys FlowAct := ⟨Init, step⟩

/-- What was written from a data queue, and what is in it, in the order of the transmissions. -/
def Ordered (s : OrderSys) : Prop :=
  ∀ q < MGMT_SOFT_Q, List.Sublist (s.sent q ++ s.a.tags q) s.submitted

end OrderSys

/-! ## What the calls do to the queues -/

/-- At most the buffer `tag` has joined the end of each data queue, and nothing was written. -/
structure Joins (a b : Adapter) (tag : ℕ) : Prop where
  queue : ∀ q < MGMT_SOFT_Q, ∃ l, List.Sublist l [tag] ∧ b.tags q = a.tags q ++ l
  written : b.written = a.written

/-- The data queues are as they were, and nothing was written. -/
structure Still (a b : Adapter) : Prop where
  queue : ∀ q < MGMT_SOFT_Q, b.txQueue q = a.txQueue q
  written : b.written = a.written

namespace Still

variable {a b c : Adapter} {tag : ℕ}

theorem refl (a : Adapter) : Still a a := ⟨fun _ _ => rfl, rfl⟩

theorem trans (hab : Still a b) (hbc : Still b c) : Still a c :=
  ⟨fun q hq => (hbc.queue q hq).trans (hab.queue q hq), hbc.written.trans hab.written⟩

theorem joins (h : Still a b) : Joins a b tag :=
  ⟨fun q hq => ⟨[], List.nil_sublist _, by rw [tags, h.queue q hq, List.append_nil, tags]⟩,
    h.written⟩

theorem then_joins (hab : Still a b) (hbc : Joins b c tag) : Joins a c tag := by
  refine ⟨fun q hq => ?_, hbc.written.trans hab.written⟩
  obtain ⟨l, hl, heq⟩ := hbc.queue q hq
  exact ⟨l, hl, by rw [heq, tags, hab.queue q hq, tags]⟩

/-- Frames of the driver itself join `MGMT_SOFT_Q`. -/
theorem sendInternalMgmtFrame (a : Adapter) (skb : SkBuff) :
    Still a (a.sendInternalMgmtFrame skb) :=
  ⟨fun _ hq => Function.update_of_ne (ne_of_lt hq) _ _, rfl⟩

theorem sendStaNotify (a : Adapter) (internal : Option (List SkBuff)) :
    Still a (a.sendStaNotify internal) := by
  cases internal with
  | none => exact refl a
  | some frames =>
    have hframes (b : Adapter) (l : List SkBuff) :
        Still b (l.foldl Adapter.sendInternalMgmtFrame b) := by
      induction l generalizing b with
      | nil => exact refl b
      | cons skb l ih => exact (sendInternalMgmtFrame b skb).trans (ih _)
    exact trans (b := { a with peerNotify := true }) ⟨fun _ _ => rfl, rfl⟩ (hframes _ frames)

end Still

namespace Joins

variable {a b : Adapter} {skb : SkBuff} {tag : ℕ}

/-- A frame joins the queue of its priority, or no queue. -/
theorem coreQueuePkt (a : Adapter) (skb : SkBuff) : Joins a (a.coreQueuePkt skb) skb.tag := by
  unfold Adapter.coreQueuePkt
  split
  · rename_i h
    refine ⟨fun q _ => ?_, rfl⟩
    by_cases hq : q = ⟨_, h⟩
    · subst hq
      exact ⟨[skb.tag], List.Sublist.refl _, by simp [tags]⟩
    · refine ⟨[], List.nil_sublist _, ?_⟩
      rw [List.append_nil]
      exact congrArg (List.map SkBuff.tag) (Function.update_of_ne hq _ _)
  · exact (Still.joins ⟨fun _ _ => rfl, rfl⟩)

theorem flowControl (h : Joins a b tag) (q : Fin NUM_EDCA_QUEUES) :
    Joins a (b.flowControl q).1 tag := by
  have hstop : ∀ (l : List (Fin NUM_EDCA_QUEUES)) (b : Adapter),
      (l.foldl stopQueue b).written = b.written := by
    intro l
    induction l with
    | nil => exact fun _ => rfl
    | cons ac l ih => exact fun b => ih (b.stopQueue ac)
  refine ⟨fun p hp => ?_, ?_⟩
  · rw [tags, (b.flowControl_frame q).1]
    exact h.queue p hp
  · rw [← h.written]
    unfold Adapter.flowControl
    split_ifs
    · rfl
    · rfl
    · exact hstop _ b

/-- The end of `rsi_core_xmit` -/
theorem queueOrFree {q : BitVec 32} {r : DescResult} (hab : Still a b)
    (hready : ∀ c skb, r = .ready c skb → Still a c ∧ skb.tag = tag)
    (hrejected : ∀ c skb status, r = .rejected c skb status → Still a c) :
    Joins a (b.queueOrFree q r).1 tag := by
  cases r with
  | oops fault => exact hab.joins
  | rejected c skb status =>
    have hfree : Still c (c.freeTxskb skb) := ⟨fun _ _ => rfl, rfl⟩
    exact ((hrejected c skb status rfl).trans hfree).joins
  | ready c skb =>
    obtain ⟨hstill, rfl⟩ := hready c skb rfl
    have hqueue := hstill.then_joins (coreQueuePkt c skb)
    unfold Adapter.queueOrFree
    split_ifs
    · exact hqueue.flowControl _
    · exact hqueue

theorem prepareMgmtDesc (hab : Still a b) (skb : SkBuff) (q : BitVec 32) :
    Joins a (b.queueOrFree q (Tx.prepareMgmtDesc b skb)).1 skb.tag := by
  refine queueOrFree hab (fun c skb' heq => ?_) (fun c skb' status heq => ?_) <;>
    rcases prepareMgmtDesc_cases b skb with ⟨_, htag, -, hres⟩ | ⟨_, _, htag, hres⟩ <;>
    rw [hres] at heq <;> cases heq
  · exact ⟨hab, htag⟩
  · exact hab

theorem prepareDataDesc (hab : Still a b) (skb : SkBuff) (q : BitVec 32) :
    Joins a (b.queueOrFree q (Tx.prepareDataDesc b skb)).1 skb.tag := by
  refine queueOrFree hab (fun c skb' heq => ?_) (fun c skb' status heq => ?_) <;>
    rcases prepareDataDesc_cases b skb with
      ⟨-, _, _, htag, -, hres⟩ | ⟨-, _, _, htag, hres⟩ | ⟨-, _, hres⟩ <;>
    rw [hres] at heq <;> cases heq
  · exact ⟨hab.trans ⟨fun _ _ => rfl, rfl⟩, htag⟩
  · exact hab.trans ⟨fun _ _ => rfl, rfl⟩

/-- **A transmission** appends its frame to a queue, or lets go of it. -/
theorem coreXmit (a : Adapter) (skb : SkBuff) (internal : Option (List SkBuff)) :
    Joins a (a.coreXmit skb internal).1 skb.tag := by
  have hfree : Joins a (a.freeTxskb skb) skb.tag := Still.joins ⟨fun _ _ => rfl, rfl⟩
  unfold Adapter.coreXmit
  split_ifs
  · exact hfree
  · have hassoc : Still a { a with eapol4Confirm := false, startBgscan := false } :=
      ⟨fun _ _ => rfl, rfl⟩
    unfold xmitMgmt
    dsimp only
    split_ifs
    · exact hassoc.joins
    · exact prepareMgmtDesc (hassoc.trans (.sendStaNotify _ internal)) { skb with priority := 4 } 4
    · exact prepareMgmtDesc (.refl a) { skb with priority := 4 } 4
  · unfold xmitData
    split
    · exact (Still.refl a).joins
    · dsimp only
      split_ifs
      · exact Still.joins ⟨fun _ _ => rfl, rfl⟩
      · split
        · exact hfree
        · rename_i i unicast _
          obtain ⟨stations, baSessions, heq, -⟩ := a.startSession_cases skb i unicast
          refine prepareDataDesc ?_ (xmitSkb a _ skb i) _
          rw [heq]
          exact ⟨fun _ _ => rfl, rfl⟩

end Joins

/-! ## What an iteration does to its queue -/

/-- At most the buffer `tag` was written, and the queues are as they were. -/
structure Writes (a b : Adapter) (tag : ℕ) : Prop where
  txQueue : b.txQueue = a.txQueue
  written : ∃ l, List.Sublist l [tag] ∧ b.writtenTags = a.writtenTags ++ l

namespace Writes

variable {a b c : Adapter} {skb : SkBuff} {tag : ℕ}

/-- Nothing is written. -/
theorem of_frame (hq : b.txQueue = a.txQueue) (hw : b.written = a.written) : Writes a b tag :=
  ⟨hq, [], List.nil_sublist _, by rw [writtenTags, hw, List.append_nil, writtenTags]⟩

/-- What follows does not write. -/
theorem trans (h : Writes a b tag) (hq : c.txQueue = b.txQueue) (hw : c.written = b.written) :
    Writes a c tag := by
  obtain ⟨hqueue, l, hl, heq⟩ := h
  exact ⟨hq.trans hqueue, l, hl, by rw [writtenTags, hw]; exact heq⟩

/-- What came before did not write. -/
theorem trans' (h : Writes b c tag) (hq : b.txQueue = a.txQueue) (hw : b.written = a.written) :
    Writes a c tag := by
  obtain ⟨hqueue, l, hl, heq⟩ := h
  exact ⟨hqueue.trans hq, l, hl, by rw [heq, writtenTags, hw, writtenTags]⟩

theorem sendPkt (a : Adapter) (skb : SkBuff) (ok : Bool) :
    Writes a (a.sendPkt skb ok) skb.tag := by
  cases ok with
  | false => exact of_frame rfl rfl
  | true => exact ⟨rfl, [skb.tag], List.Sublist.refl _, List.map_append⟩

theorem sendStatus (a : Adapter) (skb : SkBuff) (ok : Bool) :
    Writes a (a.sendStatus skb ok).adapter skb.tag :=
  (sendPkt a skb ok).trans rfl rfl

/-- A sender writes its packet, or lets go of it. -/
theorem send (a : Adapter) (q : QNum) (skb : SkBuff) (ok : Bool) :
    Writes a (a.send q skb ok).adapter skb.tag := by
  have hstatus : Writes a (a.indicateTxStatus skb) skb.tag := of_frame rfl rfl
  unfold Adapter.send
  split_ifs
  · unfold sendMgmtPkt
    dsimp only
    split_ifs
    · exact (sendPkt a (skb.setByte 1 (skb.byte 1 ||| 0x80)) ok).trans rfl rfl
    · exact hstatus
    · exact sendStatus a skb ok
    · split
      · exact hstatus
      -- a null-data frame is written with a request for its confirm in the descriptor
      · split
        · exact of_frame rfl rfl
        · exact hstatus
        · rename_i slot staId _
          exact (sendPkt (a.park slot _) (skb.requireNullDataConfirm staId) ok).trans' rfl rfl
        · split_ifs
          · exact hstatus
          · exact sendStatus a (skb.requireConfirm 2) ok
          · exact sendStatus a skb ok
  · exact (sendPkt a skb ok).trans rfl rfl
  · unfold sendDataPkt
    dsimp only
    split
    · split_ifs
      · exact hstatus
      · exact sendStatus a skb ok
    · exact hstatus

/-- The rest of an iteration, after the packet was removed. -/
theorem drain (a : Adapter) (q : QNum) (skb : SkBuff) (ok : Bool) :
    Writes a (a.drain q skb ok).adapter skb.tag := by
  obtain ⟨hw, hwake⟩ : ∃ hw, (if q < MGMT_SOFT_Q then a.wakeList.foldl wakeQueue a else a) =
      { a with hw := hw } := by
    split_ifs
    · obtain ⟨hw, heq, -⟩ := wakeQueues_frame a.wakeList a
      exact ⟨hw, heq⟩
    · exact ⟨a.hw, rfl⟩
  -- waking and the end of a notification come before the sender
  have hsend (peerNotify : Bool) (skb' : SkBuff) (halign : skb.aligned = some skb') :
      Writes a ({ a with hw := hw, peerNotify := peerNotify }.send q skb' ok).adapter skb.tag := by
    obtain ⟨data, headroom, rfl⟩ := SkBuff.aligned_cases halign
    exact (send _ q _ ok).trans' rfl rfl
  unfold Adapter.drain
  simp only [hwake]
  split_ifs
  · exact of_frame rfl rfl
  all_goals
    split
    · exact of_frame rfl rfl
    · exact hsend _ _ ‹_›

end Writes

/-! ## The invariant -/

namespace OrderSys

variable {s s' : OrderSys}

/-- A frame that joined the end of its queue is the last of those handed over. -/
theorem Ordered.joins {a : Adapter} {tag : ℕ} (h : s.Ordered) (hjoin : Joins s.a a tag) :
    Ordered { s with a := a, submitted := s.submitted ++ [tag] } := by
  intro q hq
  obtain ⟨l, hl, heq⟩ := hjoin.queue q hq
  show List.Sublist (s.sent q ++ a.tags q) (s.submitted ++ [tag])
  rw [heq, ← List.append_assoc]
  exact (h q hq).append hl

/-- An iteration moves the head of its queue to the written buffers, or drops it. -/
theorem Ordered.iterate (h : s.Ordered) (q : QNum) (hwFree ok : Bool) :
    Ordered { s with
      a := s.a.iterate q hwFree ok
      sent := Function.update s.sent q
        (s.sent q ++ (s.a.iterate q hwFree ok).writtenTags.drop s.a.written.length) } := by
  unfold Adapter.iterate
  cases hdequeue : s.a.dequeue q hwFree with
  | none =>
    intro p hp
    -- nothing was removed, and nothing is new
    have hnone : s.a.writtenTags.drop s.a.written.length = [] :=
      List.drop_eq_nil_of_le (List.length_map _).le
    show List.Sublist (Function.update s.sent q (s.sent q ++ _) p ++ s.a.tags p) s.submitted
    rw [hnone, List.append_nil, Function.update_eq_self]
    exact h p hp
  | some r =>
    obtain ⟨skb, b⟩ := r
    obtain ⟨rest, hhead, rfl⟩ := dequeue_cases hdequeue
    obtain ⟨hqueue, l, hl, hwritten⟩ := Writes.drain
      { s.a with txQueue := Function.update s.a.txQueue q rest } q skb ok
    intro p hp
    show List.Sublist (Function.update s.sent q (s.sent q ++ List.drop s.a.written.length
      (Adapter.drain _ q skb ok).adapter.writtenTags) p ++ Adapter.tags _ p) s.submitted
    have hnew : List.drop s.a.written.length (s.a.writtenTags ++ l) = l :=
      List.drop_left' (List.length_map _)
    rw [hwritten, tags, hqueue]
    by_cases hpq : p = q
    · subst hpq
      rw [Function.update_self]
      show List.Sublist (s.sent p ++ List.drop s.a.written.length (s.a.writtenTags ++ l) ++
        List.map SkBuff.tag (Function.update s.a.txQueue p rest p)) s.submitted
      rw [hnew, Function.update_self]
      -- the tag of the head is there, or not
      have hhead' : s.a.tags p = [skb.tag] ++ rest.map SkBuff.tag := by rw [tags, hhead]; rfl
      have hkept := h p hp
      rw [hhead'] at hkept
      rw [List.append_assoc]
      exact ((hl.append_right _).append_left _).trans hkept
    · rw [Function.update_of_ne hpq]
      show List.Sublist (s.sent p ++ List.map SkBuff.tag (Function.update s.a.txQueue q rest p))
        s.submitted
      rw [Function.update_of_ne hpq]
      exact h p hp

/-- Every step keeps the order. -/
theorem Ordered.step (h : s.Ordered) {act : FlowAct} (hstep : system.step s act = some s') :
    s'.Ordered := by
  cases act with
  | xmit skb internal =>
    obtain rfl := Option.some.inj hstep
    exact h.joins (Joins.coreXmit s.a skb internal)
  | iterate q hwFree ok =>
    obtain rfl := Option.some.inj hstep
    exact h.iterate q hwFree ok
  | reconfigure b =>
    obtain rfl := Option.some.inj hstep
    intro q hq
    have hqueue : Adapter.tags { s.a.reconfigure b with written := s.a.written } q = s.a.tags q :=
      congrArg (List.map SkBuff.tag) (if_pos hq)
    show List.Sublist (s.sent q ++ Adapter.tags _ q) s.submitted
    rw [hqueue]
    exact h q hq

/-- **The order of the frames.** In every run of transmissions, iterations on any queue, with any
outcome, and changes of parameters, what was written from a data queue, followed by what is in it,
is in the order of the transmissions: no frame overtakes another of its access category, and none
is written twice. -/
theorem ordered_of_reachable (h : system.Reachable s) : s.Ordered :=
  h.invariant Ordered
    (fun s hinit q hq => by
      have hempty : s.a.tags q = [] :=
        congrArg (List.map SkBuff.tag) (hinit.idle ⟨q.val, Fin.lt_def.1 hq⟩)
      rw [hinit.sent q, hempty]
      exact List.nil_sublist _)
    fun _ _ _ hinv _ hstep => hinv.step hstep

/-- Nothing has happened to a station. -/
def start : OrderSys := ⟨flowStart, [], fun _ => []⟩

theorem init_start : system.Init start := ⟨fun _ => rfl, rfl, fun _ => rfl⟩

/-- A best-effort packet of the station -/
def orderPacket (tag : ℕ) : SkBuff :=
  { qosData (localAddr 1) with
    tag := tag
    info := ⟨false, false, false, false, some ⟨.station, localAddr 1, 0, true, localAddr 9⟩⟩ }

/-- Three best-effort packets; the device takes the first and fails on the second. -/
def orderSchedule : List FlowAct :=
  [7, 8, 9].map (fun tag => .xmit (orderPacket tag) none) ++
    [.iterate BE_Q true true, .iterate BE_Q true false]

/-- Where the schedule ends. -/
def orderEnd : OrderSys := (system.run start orderSchedule).get rfl

/-- The first packet was written, the third waits, and the order stands. -/
theorem ordered_orderEnd :
    orderEnd.sent BE_Q = [7] ∧ orderEnd.a.tags BE_Q = [9] ∧ orderEnd.Ordered :=
  ⟨by decide +kernel, by decide +kernel, ordered_of_reachable (reachable_get init_start rfl)⟩

end OrderSys

end Tx
