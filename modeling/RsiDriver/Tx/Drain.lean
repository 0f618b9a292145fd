import RsiDriver.ToMathlib.TransitionSystem
import RsiDriver.Tx.Ownership
import RsiDriver.Tx.QosProcessor

/-!
# What becomes of a dequeued packet

A packet that `rsi_core_qos_processor` removed from its queue should be released once, or be parked
in a free slot until the device confirms it, and a confirm should release what is parked. The
driver does neither in general: a second null-data frame for the same slot replaces a packet that
is still waiting, a packet whose write failed stays parked although no confirm will come,
`rsi_indicate_tx_status` releases nothing while the interface is down, and a confirm leaves its
slot as it is.

Runs interleave iterations with frames that enter the queues, with confirms, and with anything that
reconfigures the driver without touching queues and slots.

## Main results

* `not_conserved`: a run that loses a packet;
* `drained_of_mayDrain`: what one iteration does with its packet;
* `conserved_of_discipline`: no packet is lost or released twice in runs whose iterations find a
  free slot, a working device and an interface that is up, and whose confirms were asked for.
-/

namespace Tx

/-- The call hands the buffer to the kernel. -/
def Release.handed : Release → Bool
  | .freeTxskb | .kfreeSkb => true
  | .txStatus handed => handed

namespace Adapter

/-- How often the buffer `tag` was handed to the kernel. -/
def handed (a : Adapter) (tag : ℕ) : ℕ := a.released.countP fun r => r.1 == tag && r.2.handed

/-- `rsi_indicate_tx_status` reaches mac80211. -/
def canReport (a : Adapter) : Bool := a.hw.isSome && !a.ifaceDown

/-- `skb_queue_tail` on a transmit queue. -/
def enqueue (a : Adapter) (q : QNum) (skb : SkBuff) : Adapter :=
  { a with txQueue := Function.update a.txQueue q (a.txQueue q ++ [skb]) }

/-- Everything except the queues, the parked packets and the histories is replaced by that of
`b`. -/
def configure (a b : Adapter) : Adapter :=
  { b with
    txQueue := a.txQueue
    stations := fun i => { b.stations i with staSkb := (a.stations i).staSkb }
    released := a.released
    written := a.written }

/-- What `rsi_send_mgmt_pkt` does about the confirm of a packet, on the whole path. -/
def mgmtNullData (a : Adapter) (skb : SkBuff) : NullData :=
  let headerSize := skb.txParams.internalHdrSize.toNat
  if skb.txParams.internalMgmtPkt || a.ifaceDown || skb.txParams.encapOffload then .plain
  else
    match a.getVif (skb.addr2 headerSize) with
    | none => .plain
    | some vif => nullData a vif skb headerSize

end Adapter

/-! ## Runs -/

/-- The transmit state in a run, with three histories. -/
structure DrainState where
  a : Adapter
  /-- The buffers that entered a queue. -/
  entered : List ℕ
  /-- For each slot, the packet that was parked there and whose confirm is outstanding. -/
  awaiting : Fin 33 → Option ℕ
  /-- For each confirm, the packet that was outstanding in its slot and the packet it handed to
  mac80211. -/
  confirms : List (Option ℕ × Option ℕ)
  fault : Option Fault

/-- What happens in a run. -/
inductive DrainAct
  /-- A buffer enters the queue `q`. -/
  | enqueue (q : QNum) (skb : SkBuff)
  | configure (b : Adapter)
  /-- An iteration of `rsi_core_qos_processor` on the queue `q`. -/
  | iterate (q : QNum) (hwFree ok : Bool)
  /-- A `NULLDATA_CONFIRM` from the device. -/
  | confirm (staId : BitVec 8)

namespace DrainState

/-- The state after an iteration that removed `skb`. -/
def afterDrain (s : DrainState) (skb : SkBuff) (r : Sent) : DrainState :=
  { s with
    a := r.adapter
    fault := r.fault
    awaiting :=
      match r.parkedAt with
      | none => s.awaiting
      | some slot => Function.update s.awaiting slot (some skb.tag) }

/-- The state after a confirm for the slot `slot`. -/
def afterConfirm (s : DrainState) (slot : Fin 33) : DrainState :=
  { s with
    a := (s.a.confirm slot).1
    fault := (s.a.confirm slot).2
    awaiting := Function.update s.awaiting slot none
    confirms := s.confirms ++ [(s.awaiting slot,
      if s.a.canReport then (s.a.stations slot).staSkb.map (·.tag) else none)] }

/-- One step of a run; nothing happens after a crash. A buffer is in one place when it enters a
queue. -/
def step (s : DrainState) (act : DrainAct) : Option DrainState :=
  if s.fault.isSome then none
  else
    match act with
    | .enqueue q skb =>
      if skb.tag ∈ s.entered then none
      else
        some { s with a := s.a.enqueue q skb, entered := skb.tag :: s.entered }
    | .configure b => some { s with a := s.a.configure b }
    | .iterate q hwFree ok =>
      match s.a.dequeue q hwFree with
      | none => some s
      | some (skb, a) => some (s.afterDrain skb (a.drain q skb ok))
    | .confirm staId =>
      match s.a.confirmSlot staId with
      | .error fault => some { s with fault := some fault }
      | .ok slot => some (s.afterConfirm slot)

/-- Nothing is queued or parked, and nothing has happened. -/
structure Init (s : DrainState) : Prop where
  txQueue : s.a.txQueue = fun _ => []
  released : s.a.released = []
  entered : s.entered = []
  awaiting : s.awaiting = fun _ => none
  confirms : s.confirms = []
  fault : s.fault = none

/-- The runs of the transmit queues. -/
def system : TransitionSystem DrainState DrainAct := ⟨Init, step⟩

/-- How often the buffer `tag` waits for a confirm. -/
def parked (s : DrainState) (tag : ℕ) : ℕ :=
  ((List.finRange 33).map fun i => if s.awaiting i = some tag then 1 else 0).sum

/-- No packet is lost, duplicated or released twice: a buffer that entered is queued, released or
parked, exactly once; a parked packet went to the device, which is going to confirm it; and each
confirm handed the packet that waited for it to mac80211. -/
structure Conserved (s : DrainState) : Prop where
  once : ∀ tag, s.a.queued tag + s.a.handed tag + s.parked tag = if tag ∈ s.entered then 1 else 0
  sent : ∀ i tag, s.awaiting i = some tag → ∃ skb ∈ s.a.written, skb.tag = tag
  confirmed : ∀ c ∈ s.confirms, ∃ tag, c = (some tag, some tag)
  sound : s.fault = none

/-! ## The lost packet -/

/-- The driver of a station interface that is up, with empty queues. -/
def start : DrainState := ⟨Adapter.stationUp, [], fun _ => none, [], none⟩

theorem init_start : Init start := ⟨rfl, rfl, rfl, rfl, rfl, rfl⟩

/-- A QoS null-data frame behind its descriptor, whose status mac80211 asked for. -/
def nullFrame (tag : ℕ) : SkBuff where
  tag := tag
  data := 0x1000
  headroom := 64
  len := 46
  byte := fun i =>
    if i = 20 then 0xc8 else if i = 21 then 0x01
    else if 30 ≤ i ∧ i < 36 then (Adapter.localAddr 1 >>> (8 * (35 - i))).setWidth 8
    else 0
  priority := 4
  protocol := 0
  info := ⟨false, true, false, false, none⟩
  txParams := ⟨false, false, 0, 0, 20⟩

/-- Two null-data frames are sent before the first confirm comes. -/
def lostSchedule : List DrainAct :=
  [.enqueue MGMT_SOFT_Q (nullFrame 0), .iterate MGMT_SOFT_Q true true,
    .enqueue MGMT_SOFT_Q (nullFrame 1), .iterate MGMT_SOFT_Q true true]

/-- The driver overwrites a packet that is still parked. -/
theorem not_conserved : ¬ ∀ s, system.Reachable s → Conserved s := by
  refine TransitionSystem.not_forall_reachable_of_run lostSchedule init_start rfl
    fun hconserved => ?_
  exact absurd (hconserved.once 0) (by decide)

end DrainState

/-! ## One iteration -/

/-- `b` is `a` after the buffer `tag` was handed to the kernel, once. -/
structure ReleasedIn (a b : Adapter) (tag : ℕ) : Prop where
  txQueue : b.txQueue = a.txQueue
  stations : b.stations = a.stations
  released : ∃ r : Release, r.handed = true ∧ b.released = a.released ++ [(tag, r)]
  written : a.written ⊆ b.written

/-- What may become of the packet `skb`: it is released, or it is sent and parked in a slot that is
`free`. -/
inductive Drained (a : Adapter) (free : Fin 33 → Bool) (skb : SkBuff) : Sent → Prop
  | released {b : Adapter} (failed : Bool) :
      ReleasedIn a b skb.tag → Drained a free skb ⟨b, failed, none, none⟩
  | parked {b : Adapter} (slot : Fin 33) (skb' : SkBuff) :
      free slot = true → skb'.tag = skb.tag → b.txQueue = a.txQueue → b.released = a.released →
      b.stations =
        Function.update a.stations slot { a.stations slot with staSkb := some skb' } →
      b.written = a.written ++ [skb'] → Drained a free skb ⟨b, false, some slot, none⟩

namespace Adapter

/-- A sender disposes of the packet `skb` of the queue `q`: it can report the status, or it parks
the packet in a free slot and the device takes it. Frames of the driver's own need neither. -/
def mayDrain (a : Adapter) (free : Fin 33 → Bool) (q : QNum) (skb : SkBuff) (ok : Bool) : Bool :=
  if q = MGMT_BEACON_Q then true
  else if q = MGMT_SOFT_Q then
    skb.txParams.internalMgmtPkt ||
      match a.mgmtNullData skb with
      | .oops _ => false
      | .park slot _ => free slot && ok
      | .plain | .refuse => a.canReport
  else a.canReport

variable {a : Adapter} {free : Fin 33 → Bool} {skb : SkBuff}

theorem written_sendPkt (a : Adapter) (skb : SkBuff) (ok : Bool) :
    a.written ⊆ (a.sendPkt skb ok).written := by
  cases ok with
  | false => exact List.Subset.refl _
  | true => exact List.subset_append_left _ _

/-- `rsi_indicate_tx_status` releases a packet if it reaches mac80211. -/
theorem releasedIn_indicateTxStatus (h : a.canReport = true) (skb : SkBuff) :
    ReleasedIn a (a.indicateTxStatus skb) skb.tag :=
  ⟨rfl, rfl, ⟨.txStatus a.canReport, h, rfl⟩, List.Subset.refl _⟩

theorem drained_sendStatus (h : a.canReport = true) {skb' : SkBuff} (htag : skb'.tag = skb.tag)
    (ok : Bool) : Drained a free skb (a.sendStatus skb' ok) := by
  have hframe : (a.sendPkt skb' ok).txQueue = a.txQueue ∧
      (a.sendPkt skb' ok).stations = a.stations ∧
      (a.sendPkt skb' ok).released = a.released ∧
      (a.sendPkt skb' ok).canReport = a.canReport := by
    cases ok <;> exact ⟨rfl, rfl, rfl, rfl⟩
  obtain ⟨hqueue, hstations, hreleased, hreport⟩ := hframe
  refine .released _ ⟨hqueue, hstations, ⟨.txStatus (a.sendPkt skb' ok).canReport, ?_, ?_⟩,
    a.written_sendPkt skb' ok⟩
  · rw [hreport]
    exact h
  · rw [← htag, ← hreleased]
    rfl

/-- Frames of the driver's own are freed by their sender. -/
theorem drained_kfreeSkb (a : Adapter) {skb' : SkBuff} (htag : skb'.tag = skb.tag) (ok : Bool) :
    Drained a free skb ⟨(a.sendPkt skb' ok).kfreeSkb skb', !ok, none, none⟩ := by
  refine .released _ ⟨?_, ?_, ⟨.kfreeSkb, rfl, ?_⟩, a.written_sendPkt skb' ok⟩
  · cases ok <;> rfl
  · cases ok <;> rfl
  · rw [← htag]
    cases ok <;> rfl

theorem drained_sendDataPkt (h : a.canReport = true) (ok : Bool) :
    Drained a free skb (a.sendDataPkt skb ok) := by
  unfold sendDataPkt
  dsimp only
  split
  · split_ifs
    · exact .released _ (releasedIn_indicateTxStatus h skb)
    · exact drained_sendStatus h rfl ok
  · exact .released _ (releasedIn_indicateTxStatus h skb)

/-- A management packet is released or parked. -/
theorem drained_sendMgmtPkt {ok : Bool} (h : a.mayDrain free MGMT_SOFT_Q skb ok = true) :
    Drained a free skb (a.sendMgmtPkt skb ok) := by
  unfold sendMgmtPkt
  dsimp only
  by_cases hinternal : skb.txParams.internalMgmtPkt = true
  · rw [if_pos hinternal]
    refine a.drained_kfreeSkb ?_ ok
    rfl
  -- `mayDrain` goes through the same tests as the sender
  rw [mayDrain, if_neg (by decide), if_pos rfl] at h
  simp only [mgmtNullData, hinternal, Bool.false_or, Bool.or_eq_true] at h
  rw [if_neg hinternal]
  by_cases hdown : a.ifaceDown = true
  · -- the status would not reach mac80211
    simp [hdown, canReport] at h
  rw [if_neg hdown]
  by_cases hencap : skb.txParams.encapOffload = true
  · rw [if_pos (.inr hencap)] at h
    rw [if_pos hencap]
    exact drained_sendStatus h rfl ok
  rw [if_neg (by simp [hdown, hencap])] at h
  rw [if_neg hencap]
  cases hvif : a.getVif (skb.addr2 skb.txParams.internalHdrSize.toNat) with
  | none =>
    rw [hvif] at h
    exact .released _ (releasedIn_indicateTxStatus h skb)
  | some vif =>
    rw [hvif] at h
    dsimp only at h ⊢
    cases hnull : nullData a vif skb skb.txParams.internalHdrSize.toNat with
    | oops fault => simp [hnull] at h
    | refuse =>
      rw [hnull] at h
      exact .released _ (releasedIn_indicateTxStatus h skb)
    | park slot staId =>
      -- nothing waits in the slot, and the device takes the packet
      rw [hnull] at h
      obtain ⟨hfree, rfl⟩ : free slot = true ∧ ok = true := by simpa using h
      exact .parked slot (skb.requireNullDataConfirm staId) hfree rfl rfl rfl rfl rfl
    | plain =>
      rw [hnull] at h
      dsimp only at h ⊢
      split_ifs
      · exact .released _ (releasedIn_indicateTxStatus h skb)
      · refine drained_sendStatus h ?_ ok
        rfl
      · exact drained_sendStatus h rfl ok

theorem drained_send {q : QNum} {ok : Bool} (h : a.mayDrain free q skb ok = true) :
    Drained a free skb (a.send q skb ok) := by
  unfold send
  split_ifs with hmgmt hbeacon
  · subst hmgmt
    exact drained_sendMgmtPkt h
  · exact a.drained_kfreeSkb rfl ok
  · rw [mayDrain, if_neg hbeacon, if_neg hmgmt] at h
    exact drained_sendDataPkt h ok

/-- Waking queues moves no packet. -/
theorem wakeQueues_frame (l : List (Fin NUM_EDCA_QUEUES)) (a : Adapter) :
    ∃ hw, l.foldl wakeQueue a = { a with hw := hw } ∧ hw.isSome = a.hw.isSome := by
  induction l generalizing a with
  | nil => exact ⟨a.hw, rfl, rfl⟩
  | cons ac l ih =>
    obtain ⟨hw, heq, hsome⟩ := ih (a.wakeQueue ac)
    refine ⟨hw, heq, ?_⟩
    rw [hsome]
    exact Option.isSome_map

/-- The state in which a sender is called. -/
theorem drain_cases {q : QNum} (ok : Bool) (hhw : q < MGMT_SOFT_Q → a.hw.isSome = true)
    {skb' : SkBuff} (halign : skb.aligned = some skb') :
    ∃ hw peerNotify, hw.isSome = a.hw.isSome ∧
      a.drain q skb ok = { a with hw := hw, peerNotify := peerNotify }.send q skb' ok := by
  have hpresent : ¬ (q < MGMT_SOFT_Q ∧ a.hw.isNone = true) := by
    rintro ⟨hq, hnone⟩
    have hsome := hhw hq
    simp [Option.isNone_iff_eq_none.1 hnone] at hsome
  obtain ⟨hw, hwake, hsome⟩ : ∃ hw,
      (if q < MGMT_SOFT_Q then a.wakeList.foldl wakeQueue a else a) = { a with hw := hw } ∧
        hw.isSome = a.hw.isSome := by
    by_cases hq : q < MGMT_SOFT_Q
    · rw [if_pos hq]
      exact wakeQueues_frame _ a
    · rw [if_neg hq]
      exact ⟨a.hw, rfl, rfl⟩
  unfold drain
  simp only [if_neg hpresent, hwake, halign]
  split_ifs
  · exact ⟨hw, false, hsome, rfl⟩
  · exact ⟨hw, a.peerNotify, hsome, rfl⟩

/-- An iteration releases its packet once or parks it in a free slot. -/
theorem drained_of_mayDrain {q : QNum} {ok : Bool} (halign : skb.aligned.isSome = true)
    (h : a.mayDrain free q skb ok = true) : Drained a free skb (a.drain q skb ok) := by
  obtain ⟨skb', hskb'⟩ := Option.isSome_iff_exists.1 halign
  -- the status of a data packet needs the hardware, so the iteration does not stop before
  have hhw : q < MGMT_SOFT_Q → a.hw.isSome = true := by
    intro hq
    have hmgmt : q ≠ MGMT_SOFT_Q := Fin.ne_of_lt hq
    have hbeacon : q ≠ MGMT_BEACON_Q := by
      rintro rfl
      exact absurd hq (by decide)
    rw [mayDrain, if_neg hbeacon, if_neg hmgmt, canReport] at h
    exact (Bool.and_eq_true_iff.1 h).1
  obtain ⟨hw, peerNotify, hsome, heq⟩ := drain_cases ok hhw hskb'
  obtain ⟨data, headroom, rfl⟩ := SkBuff.aligned_cases hskb'
  rw [heq]
  -- neither the alignment nor the woken queues matter to the sender's decision
  have hmay : Adapter.mayDrain { a with hw := hw, peerNotify := peerNotify } free q
      { skb with data := data, headroom := headroom } ok = true := by
    rw [← h]
    have hreport :
        Adapter.canReport { a with hw := hw, peerNotify := peerNotify } = a.canReport := by
      rw [canReport, hsome, canReport]
    rw [mayDrain, hreport, mayDrain]
    rfl
  have hdrained := drained_send hmay
  generalize Adapter.send _ _ _ _ = r at hdrained
  cases hdrained with
  | released failed hreleased =>
    exact .released failed ⟨hreleased.txQueue, hreleased.stations, hreleased.released,
      hreleased.written⟩
  | parked slot skb' hfree htag hqueue hreleased hstations hwritten =>
    exact .parked slot skb' hfree htag hqueue hreleased hstations hwritten

end Adapter

namespace DrainState

/-! ## Disciplined runs -/

/-- The slots that hold no packet whose confirm is outstanding. -/
def free (s : DrainState) (slot : Fin 33) : Bool := (s.awaiting slot).isNone

/-- A step under which no packet gets lost: the packet an iteration removes can be aligned and
disposed of, and a confirm comes for an outstanding packet while the interface is up. -/
def stepOk (s : DrainState) : DrainAct → Bool
  | .enqueue _ _ | .configure _ => true
  | .iterate q hwFree ok =>
    match s.a.dequeue q hwFree with
    | none => true
    | some (skb, _) => skb.aligned.isSome && s.a.mayDrain s.free q skb ok
  | .confirm staId =>
    match s.a.confirmSlot staId with
    | .error _ => false
    | .ok slot => !s.free slot && s.a.canReport

/-- The discipline of the runs that lose nothing. -/
def DrainDiscipline (s : DrainState) (act : DrainAct) : Prop := s.stepOk act = true

instance (s : DrainState) (act : DrainAct) : Decidable (DrainDiscipline s act) :=
  inferInstanceAs (Decidable (s.stepOk act = true))

/-- `Conserved`, and the slot of an outstanding packet holds that packet. -/
structure DrainInv (s : DrainState) : Prop extends Conserved s where
  slots : ∀ i tag, s.awaiting i = some tag →
    ∃ skb, (s.a.stations i).staSkb = some skb ∧ skb.tag = tag

/-- Replacing the outstanding packet of a slot. -/
theorem parked_update (s s' : DrainState) {slot : Fin 33} {o : Option ℕ}
    (h : s'.awaiting = Function.update s.awaiting slot o) (tag : ℕ) :
    s'.parked tag + (if s.awaiting slot = some tag then 1 else 0) =
      s.parked tag + if o = some tag then 1 else 0 := by
  rw [parked, h, parked]
  exact sum_finRange_comp_update slot s.awaiting o fun o => if o = some tag then 1 else 0

theorem handed_append {a b : Adapter} {tag : ℕ} {r : Release} (hr : r.handed = true)
    (h : b.released = a.released ++ [(tag, r)]) (tag' : ℕ) :
    b.handed tag' = a.handed tag' + if tag = tag' then 1 else 0 := by
  rw [Adapter.handed, h, List.countP_append, List.countP_singleton, Adapter.handed]
  simp [hr]

theorem queued_enqueue (a : Adapter) (q : QNum) (skb : SkBuff) (tag : ℕ) :
    (a.enqueue q skb).queued tag = a.queued tag + if skb.tag = tag then 1 else 0 := by
  have hqueue :
      (a.enqueue q skb).txQueue = Function.update a.txQueue q (a.txQueue q ++ [skb]) := rfl
  have hqueued := Adapter.queued_of_update hqueue tag
  rw [List.countP_append, List.countP_singleton] at hqueued
  simp only [beq_iff_eq] at hqueued
  omega

theorem DrainInv.init {s : DrainState} (h : Init s) : DrainInv s where
  once tag := by simp [Adapter.queued, parked, Adapter.handed, h.txQueue, h.awaiting, h.released,
    h.entered, List.map_const']
  sent i tag hi := by simp [h.awaiting] at hi
  confirmed c hc := by simp [h.confirms] at hc
  sound := h.fault
  slots i tag hi := by simp [h.awaiting] at hi

theorem DrainInv.enqueue {s : DrainState} (hinv : DrainInv s) (q : QNum) {skb : SkBuff}
    (hfresh : skb.tag ∉ s.entered) :
    DrainInv { s with a := s.a.enqueue q skb, entered := skb.tag :: s.entered } where
  once tag := by
    have hold := hinv.once tag
    show (s.a.enqueue q skb).queued tag + s.a.handed tag + s.parked tag = _
    rw [queued_enqueue]
    by_cases htag : skb.tag = tag
    · subst htag
      rw [if_neg hfresh] at hold
      rw [if_pos rfl, if_pos (List.mem_cons_self ..)]
      omega
    · simp only [List.mem_cons, Ne.symm htag, false_or, if_neg htag]
      exact hold
  sent := hinv.sent
  confirmed := hinv.confirmed
  sound := hinv.sound
  slots := hinv.slots

theorem DrainInv.configure {s : DrainState} (hinv : DrainInv s) (b : Adapter) :
    DrainInv { s with a := s.a.configure b } where
  once := hinv.once
  sent := hinv.sent
  confirmed := hinv.confirmed
  sound := hinv.sound
  slots := hinv.slots

/-- Removing a packet from its queue takes it out of the count. -/
theorem queued_dequeue {a b : Adapter} {q : QNum} {hwFree : Bool} {skb : SkBuff}
    (h : a.dequeue q hwFree = some (skb, b)) (tag : ℕ) :
    b.queued tag + (if skb.tag = tag then 1 else 0) = a.queued tag ∧
      b = { a with txQueue := b.txQueue } := by
  unfold Adapter.dequeue at h
  split_ifs at h
  cases hqueue : a.txQueue q with
  | nil => simp [hqueue] at h
  | cons head rest =>
    simp only [hqueue, Option.some.injEq, Prod.mk.injEq] at h
    obtain ⟨rfl, hb⟩ := h
    have hrest : b.txQueue = Function.update a.txQueue q rest := by rw [← hb]
    refine ⟨?_, by rw [← hb]⟩
    have hupdate := Adapter.queued_of_update hrest tag
    rw [hqueue, List.countP_cons] at hupdate
    simp only [beq_iff_eq] at hupdate
    omega

/-- A packet that is released moves from its queue to the released ones. -/
theorem DrainInv.afterReleased {s : DrainState} (hinv : DrainInv s) {q : QNum} {hwFree : Bool}
    {skb : SkBuff} {a b : Adapter} (hdequeue : s.a.dequeue q hwFree = some (skb, a))
    (hb : ReleasedIn a b skb.tag) (failed : Bool) :
    DrainInv (s.afterDrain skb ⟨b, failed, none, none⟩) := by
  have hframe := (queued_dequeue hdequeue 0).2
  have hstations : a.stations = s.a.stations := by rw [hframe]
  have hwritten : a.written = s.a.written := by rw [hframe]
  refine { once := fun tag => ?_, sent := fun i tag hi => ?_, confirmed := hinv.confirmed,
           sound := rfl, slots := fun i tag hi => ?_ }
  · obtain ⟨release, hhanded, hrel⟩ := hb.released
    have hreleased : a.released = s.a.released := by rw [hframe]
    rw [hreleased] at hrel
    have hold := hinv.once tag
    have hqueued := (queued_dequeue hdequeue tag).1
    have hbqueued : b.queued tag = a.queued tag := by
      rw [Adapter.queued, hb.txQueue, Adapter.queued]
    show b.queued tag + b.handed tag + s.parked tag = _
    rw [handed_append hhanded hrel, hbqueued]
    show _ = if tag ∈ s.entered then 1 else 0
    omega
  · obtain ⟨skb', hmem, htag⟩ := hinv.sent i tag hi
    exact ⟨skb', hb.written (hwritten ▸ hmem), htag⟩
  · show ∃ skb', (b.stations i).staSkb = some skb' ∧ skb'.tag = tag
    rw [hb.stations, hstations]
    exact hinv.slots i tag hi

/-- What is outstanding after a packet was parked. -/
theorem awaiting_afterDrain_parked {s : DrainState} {skb : SkBuff} {b : Adapter} {slot i : Fin 33}
    {tag : ℕ} (hi : (s.afterDrain skb ⟨b, false, some slot, none⟩).awaiting i = some tag) :
    i = slot ∧ skb.tag = tag ∨ i ≠ slot ∧ s.awaiting i = some tag := by
  by_cases hslot : i = slot
  · subst hslot
    exact .inl ⟨rfl, by simpa [DrainState.afterDrain] using hi⟩
  · exact .inr ⟨hslot, by simpa [DrainState.afterDrain, Function.update_of_ne hslot] using hi⟩

/-- A packet that is parked moves from its queue to a slot where nothing waited. -/
theorem DrainInv.afterParked {s : DrainState} (hinv : DrainInv s) {q : QNum} {hwFree : Bool}
    {skb skb' : SkBuff} {a b : Adapter} (hdequeue : s.a.dequeue q hwFree = some (skb, a))
    {slot : Fin 33} (hfree : s.free slot = true) (htag : skb'.tag = skb.tag)
    (hqueue : b.txQueue = a.txQueue) (hreleased : b.released = a.released)
    (hstations : b.stations =
      Function.update a.stations slot { a.stations slot with staSkb := some skb' })
    (hwritten : b.written = a.written ++ [skb']) :
    DrainInv (s.afterDrain skb ⟨b, false, some slot, none⟩) := by
  have hframe := (queued_dequeue hdequeue 0).2
  refine { once := fun tag => ?_, sent := fun i tag hi => ?_, confirmed := hinv.confirmed,
           sound := rfl, slots := fun i tag hi => ?_ }
  · have hold := hinv.once tag
    have hqueued := (queued_dequeue hdequeue tag).1
    have hbqueued : b.queued tag = a.queued tag := by
      rw [Adapter.queued, hqueue, Adapter.queued]
    have hbhanded : b.handed tag = s.a.handed tag := by
      rw [Adapter.handed, hreleased, Adapter.handed, hframe]
    have hparked := parked_update s (s.afterDrain skb ⟨b, false, some slot, none⟩) rfl tag
    rw [Option.isNone_iff_eq_none.1 hfree] at hparked
    simp only [reduceCtorEq, if_false, Option.some.injEq] at hparked
    show b.queued tag + b.handed tag + _ = _
    rw [hbqueued, hbhanded, ← Nat.add_zero (parked _ tag), hparked]
    show _ = if tag ∈ s.entered then 1 else 0
    omega
  · show ∃ sent ∈ b.written, sent.tag = tag
    have hawritten : a.written = s.a.written := by rw [hframe]
    rw [hwritten, hawritten]
    rcases awaiting_afterDrain_parked hi with ⟨rfl, rfl⟩ | ⟨-, hi'⟩
    · exact ⟨skb', by simp, htag⟩
    · obtain ⟨sent, hmem, hsent⟩ := hinv.sent i tag hi'
      exact ⟨sent, List.mem_append_left _ hmem, hsent⟩
  · show ∃ held, (b.stations i).staSkb = some held ∧ held.tag = tag
    have hastations : a.stations = s.a.stations := by rw [hframe]
    rw [hstations]
    rcases awaiting_afterDrain_parked hi with ⟨rfl, rfl⟩ | ⟨hslot, hi'⟩
    · exact ⟨skb', by simp, htag⟩
    · rw [Function.update_of_ne hslot, hastations]
      exact hinv.slots i tag hi'

/-- The invariant carries over an iteration that removes a packet and disposes of it. -/
theorem DrainInv.afterDrain {s : DrainState} (hinv : DrainInv s) {q : QNum} {hwFree : Bool}
    {skb : SkBuff} {a : Adapter} {r : Sent} (hdequeue : s.a.dequeue q hwFree = some (skb, a))
    (hdrained : Drained a s.free skb r) : DrainInv (s.afterDrain skb r) := by
  cases hdrained with
  | released failed hb => exact hinv.afterReleased hdequeue hb failed
  | parked slot skb' hfree htag hqueue hreleased hstations hwritten =>
    exact hinv.afterParked hdequeue hfree htag hqueue hreleased hstations hwritten

/-- A confirm for an outstanding packet releases that packet. -/
theorem DrainInv.afterConfirm {s : DrainState} (hinv : DrainInv s) {slot : Fin 33}
    (hslot : s.free slot = false) (hreport : s.a.canReport = true) :
    DrainInv (s.afterConfirm slot) := by
  obtain ⟨tag, htag⟩ : ∃ tag, s.awaiting slot = some tag := by
    rw [free, Option.isNone_eq_false_iff] at hslot
    exact Option.isSome_iff_exists.1 hslot
  obtain ⟨skb, hskb, rfl⟩ := hinv.slots slot tag htag
  have hconfirm : s.a.confirm slot = (s.a.indicateTxStatus skb, none) := by
    rw [Adapter.confirm, hskb]
  -- the confirm frees its slot and no other
  have hother : ∀ i tag',
      (s.afterConfirm slot).awaiting i = some tag' → s.awaiting i = some tag' := by
    intro i tag' hi
    by_cases hi' : i = slot
    · subst hi'
      simp [DrainState.afterConfirm] at hi
    · simpa [DrainState.afterConfirm, Function.update_of_ne hi'] using hi
  have ha : (s.afterConfirm slot).a = s.a.indicateTxStatus skb := by
    rw [DrainState.afterConfirm, hconfirm]
  refine { once := fun tag' => ?_, sent := fun i tag' hi => ?_, confirmed := fun c hc => ?_,
           sound := ?_, slots := fun i tag' hi => ?_ }
  · have hold := hinv.once tag'
    have hparked := parked_update s (s.afterConfirm slot) rfl tag'
    rw [htag] at hparked
    simp only [reduceCtorEq, if_false, Option.some.injEq] at hparked
    rw [ha, Adapter.queued_indicateTxStatus,
      handed_append (r := .txStatus s.a.canReport) hreport rfl]
    show _ = if tag' ∈ s.entered then 1 else 0
    omega
  · rw [ha]
    exact hinv.sent i tag' (hother i tag' hi)
  · rcases List.mem_append.1 hc with hold | hnew
    · exact hinv.confirmed c hold
    · refine ⟨skb.tag, ?_⟩
      rw [List.mem_singleton.1 hnew, htag, if_pos hreport, hskb]
      rfl
  · rw [DrainState.afterConfirm, hconfirm]
  · rw [ha]
    exact hinv.slots i tag' (hother i tag' hi)

theorem DrainInv.step {s s' : DrainState} {act : DrainAct} (hinv : DrainInv s)
    (hdisc : DrainDiscipline s act) (h : s.step act = some s') : DrainInv s' := by
  have hsound : ¬ s.fault.isSome = true := by simp [hinv.sound]
  unfold DrainState.step at h
  rw [if_neg hsound] at h
  cases act with
  | enqueue q skb =>
    -- a buffer enters once
    dsimp only at h
    split_ifs at h with hfresh
    obtain rfl := Option.some.inj h
    exact hinv.enqueue q hfresh
  | configure b =>
    obtain rfl := Option.some.inj h
    exact hinv.configure b
  | iterate q hwFree ok =>
    rw [DrainDiscipline, stepOk] at hdisc
    dsimp only at h
    cases hdequeue : s.a.dequeue q hwFree with
    | none =>
      rw [hdequeue] at h
      obtain rfl := Option.some.inj h
      exact hinv
    | some removed =>
      obtain ⟨skb, a⟩ := removed
      rw [hdequeue] at h hdisc
      obtain rfl := Option.some.inj h
      obtain ⟨halign, hmay⟩ := Bool.and_eq_true_iff.1 hdisc
      refine hinv.afterDrain hdequeue (Adapter.drained_of_mayDrain halign ?_)
      -- the queues play no role in the sender's decision
      rw [(queued_dequeue hdequeue 0).2]
      exact hmay
  | confirm staId =>
    rw [DrainDiscipline, stepOk] at hdisc
    dsimp only at h
    cases hslot : s.a.confirmSlot staId with
    | error fault => simp [hslot] at hdisc
    | ok slot =>
      rw [hslot] at h hdisc
      obtain rfl := Option.some.inj h
      obtain ⟨hfree, hreport⟩ := Bool.and_eq_true_iff.1 hdisc
      exact hinv.afterConfirm (by simpa using hfree) hreport

/-- In every run that keeps the discipline, each packet is queued, released or parked, once. -/
theorem conserved_of_discipline {s : DrainState} (h : system.ReachableVia DrainDiscipline s) :
    Conserved s :=
  (h.invariant DrainInv (fun _ => .init) fun _ _ _ => DrainInv.step).toConserved

/-- A null-data frame is sent and confirmed, and another one is sent. -/
def confirmedSchedule : List DrainAct :=
  [.enqueue MGMT_SOFT_Q (nullFrame 0), .enqueue MGMT_SOFT_Q (nullFrame 1),
    .iterate MGMT_SOFT_Q true true, .confirm 0, .iterate MGMT_SOFT_Q true true]

/-- The state at the end of `confirmedSchedule`. -/
def confirmedState : DrainState := (system.runVia DrainDiscipline start confirmedSchedule).get rfl

/-- A null-data frame may be parked where one was confirmed. -/
theorem conserved_confirmedState :
    confirmedState.confirms = [(some 0, some 0)] ∧ confirmedState.parked 1 = 1 ∧
      Conserved confirmedState :=
  ⟨by decide, by decide,
    conserved_of_discipline (TransitionSystem.reachableVia_get init_start rfl)⟩

end DrainState

end Tx
