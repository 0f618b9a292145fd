import RsiDriver.Tx.Drain

/-!
# The order of peer notifications

`rsi_send_sta_notify_frame` tells the device about a peer. Its frame goes to the head of
`MGMT_SOFT_Q`, in front of every other frame, and `peer_notify` asks `rsi_core_qos_processor` to
send it even when the device reports no free buffer.

The head of the queue is also in front of an earlier notification, and one flag stands for any
number of them: two notifications that wait together are sent in the wrong order, and the first one
that leaves clears the flag of the other.

A run interleaves any number of calls of `rsi_send_sta_notify_frame`, each of which sets the flag
first and queues its frame later, with the other senders of internal frames and with the processor,
which removes a frame first and clears the flag later.

## Main results

* `not_peerNotifyOrdered`: the deletion of a peer overtakes its addition;
* `peerNotifyOrdered_of_discipline`: order and flag are right in the runs in which no notification
  meets another one.
-/

namespace Tx

/-- `enum sta_notify_events`, as far as the function tells its values apart. -/
inductive NotifyEvent
  | connected
  | disconnected
  | other
  deriving DecidableEq, Repr

/-- The arguments of `rsi_send_sta_notify_frame` and what it reads besides. -/
structure StaNotify where
  /-- `opmode == STA_OPMODE` and `opmode == AP_OPMODE` -/
  staOpmode : Bool
  apOpmode : Bool
  event : NotifyEvent
  bssid : MacAddr
  qosEnable : Bool
  aid : BitVec 16
  staId : BitVec 16
  vapId : BitVec 8
  /-- `ampdu_density` and `ampdu_factor` of the HT capabilities of the station, if there is one. -/
  ampdu : Option (BitVec 8 × BitVec 8)
  /-- `_11ax_enabled` and the words of the 11ax parameters. -/
  ax11Enabled : Bool
  ntProfile : BitVec 16
  mbssid : BitVec 16
  deriving DecidableEq, Repr

/-- `struct rsi_peer_notify`, without the words that stay zero. -/
structure RsiPeerNotify where
  descWord0 : BitVec 16
  descWord1 : BitVec 16
  descWord2 : BitVec 16
  descWord4 : BitVec 16
  descWord5 : BitVec 16
  descWord7 : BitVec 16
  macAddr : MacAddr
  command : BitVec 16
  mpduDensity : BitVec 16
  staFlags : BitVec 32
  deriving DecidableEq, Repr

/-- `mpdu_density_map` -/
def mpduDensityMap (density : BitVec 8) : BitVec 16 :=
  [0, 1, 1, 1, 2, 4, 8, 16].getD density.toNat 0

/-- The frame that `rsi_send_sta_notify_frame` fills in. -/
def StaNotify.frame (c : StaNotify) : RsiPeerNotify where
  descWord0 := 18 ||| 0x4 <<< 12
  descWord1 := 8 -- `PEER_NOTIFY`
  descWord2 := if c.event = .connected ∧ c.staOpmode ∧ c.ax11Enabled then 1 <<< 8 else 0
  descWord4 := c.ntProfile
  descWord5 := c.mbssid
  descWord7 := c.staId ||| c.vapId.setWidth 16 <<< 8
  macAddr := c.bssid
  command := (if c.staOpmode then 0 else if c.apOpmode then 2 else 0) |||
    (if c.event = .connected then 1 else 0) ||| (c.aid &&& 0xfff) <<< 4
  mpduDensity :=
    match c.event, c.ampdu with
    | .connected, some (density, _) => mpduDensityMap density
    | _, _ => 0
  staFlags :=
    match c.event, c.ampdu with
    | .connected, some (_, factor) => factor.setWidth 32 <<< 2 ||| if c.qosEnable then 1 else 0
    | _, _ => 0

/-- The bytes of a little-endian word. -/
def le16 (w : BitVec 16) : List (BitVec 8) := [w.setWidth 8, (w >>> 8).setWidth 8]

/-- The bytes of an address. -/
def MacAddr.bytes (mac : MacAddr) : List (BitVec 8) :=
  (List.range 6).map fun i => (mac >>> (8 * (5 - i))).setWidth 8

/-- The bytes of the frame. -/
def RsiPeerNotify.bytes (f : RsiPeerNotify) : List (BitVec 8) :=
  le16 f.descWord0 ++ le16 f.descWord1 ++ le16 f.descWord2 ++ le16 0 ++ le16 f.descWord4 ++
    le16 f.descWord5 ++ le16 0 ++ le16 f.descWord7 ++ f.macAddr.bytes ++ le16 f.command ++
    le16 f.mpduDensity ++ le16 0 ++ le16 (f.staFlags.setWidth 16) ++
    le16 ((f.staFlags >>> 16).setWidth 16)

/-- The buffer that `dev_alloc_skb` returned, with the frame put into it. -/
def StaNotify.skb (c : StaNotify) (skb : SkBuff) : SkBuff :=
  { skb with len := 34, byte := fun i => c.frame.bytes.getD i 0 }

/-- `skb->data[2] == PEER_NOTIFY` -/
def SkBuff.isPeerNotify (skb : SkBuff) : Bool := skb.byte 2 == 8

theorem StaNotify.isPeerNotify_skb (c : StaNotify) (skb : SkBuff) :
    (c.skb skb).isPeerNotify = true := rfl

/-! ## Runs -/

/-- The driver, with the frames in the hands of its threads and the history of the queue. -/
structure NotifySys where
  adapter : Adapter
  /-- The calls of `rsi_send_sta_notify_frame` that have set the flag and not queued their frame. -/
  issuing : List SkBuff
  /-- The frame that the processor has removed and not looked at. -/
  removed : Option SkBuff
  /-- The frames in the order in which they were queued. -/
  issued : List SkBuff
  /-- The frames in the order in which they were passed to their sender. -/
  sent : List SkBuff

/-- One step of a thread. `skb` is the buffer that the frame is put into; `hwFree` and `ok` are
the answers of `check_hw_queue_status` and of `rsi_send_pkt`. -/
inductive NotifyAct
  /-- `rsi_send_sta_notify_frame` until it has set the flag. -/
  | notify (call : StaNotify) (skb : SkBuff)
  /-- One of these calls goes on to `rsi_send_internal_mgmt_frame`. -/
  | queueNotify (i : ℕ)
  /-- Another caller of `rsi_send_internal_mgmt_frame`; none of them sends a `PEER_NOTIFY`. -/
  | queueOther (skb : SkBuff)
  /-- The first half of an iteration of `rsi_core_qos_processor`, for `MGMT_SOFT_Q`. -/
  | dequeue (hwFree : Bool)
  /-- The second half. -/
  | drain (ok : Bool)

namespace NotifySys

/-- `MGMT_SOFT_Q` -/
def queue (s : NotifySys) : List SkBuff := s.adapter.txQueue MGMT_SOFT_Q

/-- `rsi_send_internal_mgmt_frame` -/
def send (s : NotifySys) (skb : SkBuff) : NotifySys :=
  { s with
    adapter := s.adapter.sendInternalMgmtFrame skb
    issued := s.issued ++ [skb.internal] }

/-- One step; the run ends when an iteration crashes. -/
def step (s : NotifySys) : NotifyAct → Option NotifySys
  | .notify call skb =>
    some { s with
      adapter := { s.adapter with peerNotify := true }
      issuing := s.issuing ++ [call.skb skb] }
  | .queueNotify i =>
    s.issuing[i]?.map fun skb => { s with issuing := s.issuing.eraseIdx i }.send skb
  | .queueOther skb => if skb.isPeerNotify then none else some (s.send skb)
  | .dequeue hwFree =>
    if s.removed.isSome then none
    else (s.adapter.dequeue MGMT_SOFT_Q hwFree).map fun (skb, adapter) =>
      { s with adapter := adapter, removed := some skb }
  | .drain ok =>
    s.removed.bind fun skb =>
      let done := s.adapter.drain MGMT_SOFT_Q skb ok
      if done.fault.isSome then none
      else some { s with
        adapter := done.adapter
        removed := none
        sent := s.sent ++ [skb] }

/-- Runs start with an empty queue and idle threads. -/
def system : TransitionSystem NotifySys NotifyAct where
  Init s := s.queue = [] ∧ s.adapter.peerNotify = false ∧ s.issuing = [] ∧ s.removed = none ∧
    s.issued = [] ∧ s.sent = []
  step := step

end NotifySys

/-- Notifications, and the other internal frames, are sent in their order; and while no thread is
in the middle of its work, the flag is set exactly if a notification is queued. -/
structure PeerNotifyOrdered (s : NotifySys) : Prop where
  notifies : s.sent.filter SkBuff.isPeerNotify <+: s.issued.filter SkBuff.isPeerNotify
  others : s.sent.filter (fun skb => !skb.isPeerNotify) <+:
    s.issued.filter fun skb => !skb.isPeerNotify
  flag : s.issuing = [] → s.removed = none →
    (s.adapter.peerNotify = true ↔ ∃ skb ∈ s.queue, skb.isPeerNotify = true)

/-- The condition on each step: a notification is queued only when none is in the queue, and the
processor passes one on only when no other one is queued or about to be. -/
def NotifyDiscipline (s : NotifySys) : NotifyAct → Prop
  | .queueNotify _ => s.queue.all (!·.isPeerNotify) = true
  | .drain _ => s.removed.any (·.isPeerNotify) = true →
      s.queue.all (!·.isPeerNotify) = true ∧ s.issuing.isEmpty = true
  | _ => True

instance (s : NotifySys) (a : NotifyAct) : Decidable (NotifyDiscipline s a) :=
  match a with
  | .notify _ _ | .queueOther _ | .dequeue _ => inferInstanceAs (Decidable True)
  | .queueNotify _ => inferInstanceAs (Decidable (_ = _))
  | .drain _ => inferInstanceAs (Decidable (_ = _ → _ = _ ∧ _ = _))

/-! ## The deletion that overtakes -/

/-- An access point reports that the station `n` has joined or left. -/
def peerCall (n : BitVec 8) (event : NotifyEvent) : StaNotify where
  staOpmode := false
  apOpmode := true
  event := event
  bssid := Adapter.localAddr n
  qosEnable := true
  aid := 1
  staId := 0
  vapId := 0
  ampdu := none
  ax11Enabled := false
  ntProfile := 0
  mbssid := 0

/-- An empty buffer, aligned for the device. -/
def emptySkb (tag : ℕ) : SkBuff :=
  ⟨tag, 0x1000, 64, 0, fun _ => 0, 0, 0, ⟨false, false, false, false, none⟩,
    ⟨false, false, 0, 0, 0⟩⟩

namespace NotifySys

/-- An idle driver. -/
def start : NotifySys := ⟨Adapter.stationUp, [], none, [], []⟩

theorem init_start : system.Init start := ⟨rfl, rfl, rfl, rfl, rfl, rfl⟩

end NotifySys

/-- A station joins and leaves again before the processor runs. -/
def overtakenSchedule : List NotifyAct :=
  [.notify (peerCall 2 .connected) (emptySkb 1), .queueNotify 0,
    .notify (peerCall 2 .disconnected) (emptySkb 2), .queueNotify 0, .dequeue true, .drain true]

/-- The driver sends the deletion of the peer first. -/
theorem not_peerNotifyOrdered :
    ¬ ∀ s, NotifySys.system.Reachable s → PeerNotifyOrdered s := by
  refine TransitionSystem.not_forall_reachable_of_run overtakenSchedule NotifySys.init_start rfl
    fun hordered => ?_
  have htags := hordered.notifies.map SkBuff.tag
  exact absurd htags (by decide)

/-! ## The processor leaves queue and flag alone, but for a notification -/

namespace Adapter

theorem sendStatus_frame (a : Adapter) (skb : SkBuff) (ok : Bool) :
    (a.sendStatus skb ok).adapter.txQueue = a.txQueue ∧
      (a.sendStatus skb ok).adapter.peerNotify = a.peerNotify := by
  cases ok <;> exact ⟨rfl, rfl⟩

/-- `rsi_send_mgmt_pkt` reads neither. -/
theorem sendMgmtPkt_frame (a : Adapter) (skb : SkBuff) (ok : Bool) :
    (a.sendMgmtPkt skb ok).adapter.txQueue = a.txQueue ∧
      (a.sendMgmtPkt skb ok).adapter.peerNotify = a.peerNotify := by
  unfold sendMgmtPkt
  dsimp only
  split_ifs with hinternal hdown hencap
  · cases ok <;> exact ⟨rfl, rfl⟩
  · exact ⟨rfl, rfl⟩
  · exact a.sendStatus_frame skb ok
  · split
    · exact ⟨rfl, rfl⟩
    · split
      · exact ⟨rfl, rfl⟩
      · exact ⟨rfl, rfl⟩
      · cases ok <;> exact ⟨rfl, rfl⟩
      · split_ifs
        · exact ⟨rfl, rfl⟩
        · exact a.sendStatus_frame _ ok
        · exact a.sendStatus_frame skb ok

/-- An iteration that does not crash clears the flag for a notification. -/
theorem drain_frame {a : Adapter} {skb : SkBuff} {ok : Bool}
    (h : (a.drain MGMT_SOFT_Q skb ok).fault.isSome = false) :
    (a.drain MGMT_SOFT_Q skb ok).adapter.txQueue = a.txQueue ∧
      (a.drain MGMT_SOFT_Q skb ok).adapter.peerNotify =
        (a.peerNotify && !skb.isPeerNotify) := by
  have hlt : ¬ MGMT_SOFT_Q < MGMT_SOFT_Q := by decide
  unfold drain at h ⊢
  simp only [hlt, false_and, if_false] at h ⊢
  cases halign : skb.aligned with
  | none => simp [halign] at h
  | some skb' =>
    by_cases hnotify : a.peerNotify = true ∧ skb.byte 2 = 8
    · have hskb : skb.isPeerNotify = true := beq_iff_eq.2 hnotify.2
      rw [if_pos hnotify, hskb, Bool.not_true, Bool.and_false]
      exact sendMgmtPkt_frame { a with peerNotify := false } skb' ok
    · have hflag : (a.peerNotify && !skb.isPeerNotify) = a.peerNotify := by
        cases hp : a.peerNotify with
        | false => rfl
        | true =>
          have hskb : skb.isPeerNotify = false := beq_eq_false_iff_ne.2 fun h => hnotify ⟨hp, h⟩
          rw [hskb]; rfl
      rw [if_neg hnotify, hflag]
      exact sendMgmtPkt_frame a skb' ok

end Adapter

/-! ## The invariant of disciplined runs -/

namespace NotifySys

/-- The frames that are still to be passed on, the next one first. -/
def waiting (s : NotifySys) : List SkBuff := s.removed.toList ++ s.queue

end NotifySys

/-- For notifications as for the other frames, what was issued is what was sent, then what waits;
and the flag stands for the notifications that are about to be queued or wait. -/
structure NotifyInv (s : NotifySys) : Prop where
  notifies : s.issued.filter SkBuff.isPeerNotify = (s.sent ++ s.waiting).filter SkBuff.isPeerNotify
  others : s.issued.filter (fun skb => !skb.isPeerNotify) =
    (s.sent ++ s.waiting).filter fun skb => !skb.isPeerNotify
  issuing : ∀ skb ∈ s.issuing, skb.isPeerNotify = true
  flag : s.adapter.peerNotify = true ↔
    s.issuing ≠ [] ∨ ∃ skb ∈ s.waiting, skb.isPeerNotify = true

theorem NotifyInv.peerNotifyOrdered {s : NotifySys} (hinv : NotifyInv s) :
    PeerNotifyOrdered s where
  notifies := by
    rw [hinv.notifies, List.filter_append]
    exact List.prefix_append _ _
  others := by
    rw [hinv.others, List.filter_append]
    exact List.prefix_append _ _
  flag hissuing hremoved := by
    rw [hinv.flag, hissuing, NotifySys.waiting, hremoved]
    simp

theorem NotifyInv.init {s : NotifySys} (h : NotifySys.system.Init s) : NotifyInv s := by
  obtain ⟨hqueue, hflag, hissuing, hremoved, hissued, hsent⟩ := h
  have hwaiting : s.waiting = [] := by rw [NotifySys.waiting, hremoved, hqueue]; rfl
  refine ⟨?_, ?_, ?_, ?_⟩ <;> simp [hwaiting, hflag, hissuing, hissued, hsent]

/-- A step that only passes frames on. -/
theorem NotifyInv.of_line {s s' : NotifySys} (hinv : NotifyInv s) (hissued : s'.issued = s.issued)
    (hline : s'.sent ++ s'.waiting = s.sent ++ s.waiting) (hissuing : s'.issuing = s.issuing)
    (hflag : s'.adapter.peerNotify = true ↔
      s'.issuing ≠ [] ∨ ∃ skb ∈ s'.waiting, skb.isPeerNotify = true) : NotifyInv s' where
  notifies := by rw [hissued, hline, hinv.notifies]
  others := by rw [hissued, hline, hinv.others]
  issuing := hissuing ▸ hinv.issuing
  flag := hflag

theorem NotifySys.queue_send (s : NotifySys) (skb : SkBuff) :
    (s.send skb).queue =
      if skb.isPeerNotify then skb.internal :: s.queue else s.queue ++ [skb.internal] := by
  simp only [queue, send, Adapter.sendInternalMgmtFrame, Function.update_self, SkBuff.isPeerNotify,
    beq_iff_eq]
  rfl

/-- No notification is queued, as the discipline reads it. -/
theorem NotifySys.filter_queue_eq_nil {s : NotifySys}
    (h : s.queue.all (!·.isPeerNotify) = true) : s.queue.filter SkBuff.isPeerNotify = [] := by
  rw [List.filter_eq_nil_iff]
  intro skb hskb
  simpa using List.all_eq_true.1 h skb hskb

/-- A call that has set the flag queues its notification while no other one is queued. -/
theorem NotifyInv.queueNotify {s s' : NotifySys} (hinv : NotifyInv s) {i : ℕ}
    (hdisc : NotifyDiscipline s (.queueNotify i)) (h : s.step (.queueNotify i) = some s') :
    NotifyInv s' := by
  obtain ⟨skb, hskb, rfl⟩ := Option.map_eq_some_iff.1 h
  have hmem := List.mem_of_getElem? hskb
  have hnotify : skb.internal.isPeerNotify = true := hinv.issuing skb hmem
  have hnil := NotifySys.filter_queue_eq_nil hdisc
  -- a notification goes to the head of the queue, before the other frames
  have hqueue := NotifySys.queue_send { s with issuing := s.issuing.eraseIdx i } skb
  rw [if_pos (hinv.issuing skb hmem)] at hqueue
  have hwaiting : (NotifySys.send { s with issuing := s.issuing.eraseIdx i } skb).waiting =
      s.removed.toList ++ skb.internal :: s.queue := congrArg (s.removed.toList ++ ·) hqueue
  refine ⟨?_, ?_, fun t ht => hinv.issuing t (List.mem_of_mem_eraseIdx ht), ?_⟩
  · -- behind the frame in the hands of the processor nothing else of its kind is left
    calc (s.issued ++ [skb.internal]).filter SkBuff.isPeerNotify
        = s.issued.filter SkBuff.isPeerNotify ++ [skb.internal] := by simp [hnotify]
      _ = (s.sent ++ (s.removed.toList ++ skb.internal :: s.queue)).filter
            SkBuff.isPeerNotify := by
          rw [hinv.notifies, NotifySys.waiting]
          simp only [List.filter_append, List.filter_cons, hnotify, if_true, hnil,
            List.append_nil, List.append_assoc]
      _ = _ := by rw [hwaiting]; rfl
  · -- the other frames do not see it
    calc (s.issued ++ [skb.internal]).filter (fun skb => !skb.isPeerNotify)
        = s.issued.filter fun skb => !skb.isPeerNotify := by simp [hnotify]
      _ = (s.sent ++ (s.removed.toList ++ skb.internal :: s.queue)).filter
            fun skb => !skb.isPeerNotify := by
          rw [hinv.others, NotifySys.waiting]
          simp [hnotify]
      _ = _ := by rw [hwaiting]; rfl
  · have hflag := hinv.flag.2 (.inl (List.ne_nil_of_mem hmem))
    refine iff_of_true hflag (.inr ⟨skb.internal, ?_, hnotify⟩)
    rw [hwaiting]
    simp

theorem filter_concat {l m : List SkBuff} {p : SkBuff → Bool} (h : l.filter p = m.filter p)
    (skb : SkBuff) : (l ++ [skb]).filter p = (m ++ [skb]).filter p := by
  rw [List.filter_append, h, ← List.filter_append]

/-- Another frame goes to the end of the queue. -/
theorem NotifyInv.queueOther {s s' : NotifySys} (hinv : NotifyInv s) {skb : SkBuff}
    (h : s.step (.queueOther skb) = some s') : NotifyInv s' := by
  obtain ⟨hother, h⟩ := Option.ite_none_left_eq_some.1 h
  obtain rfl := Option.some.inj h
  have hqueue := s.queue_send skb
  rw [if_neg hother] at hqueue
  have hfalse : skb.internal.isPeerNotify = false := Bool.eq_false_iff.2 hother
  have hwaiting : (s.send skb).waiting = s.waiting ++ [skb.internal] := by
    rw [NotifySys.waiting, hqueue, NotifySys.waiting, List.append_assoc]
    rfl
  refine ⟨?_, ?_, hinv.issuing, ?_⟩
  · rw [hwaiting, ← List.append_assoc]
    exact filter_concat hinv.notifies skb.internal
  · rw [hwaiting, ← List.append_assoc]
    exact filter_concat hinv.others skb.internal
  · rw [hwaiting]
    refine hinv.flag.trans (or_congr Iff.rfl ?_)
    simp [hfalse]

theorem Adapter.dequeue_cases {a a' : Adapter} {q : QNum} {hwFree : Bool} {skb : SkBuff}
    (h : a.dequeue q hwFree = some (skb, a')) :
    ∃ rest, a.txQueue q = skb :: rest ∧
      a' = { a with txQueue := Function.update a.txQueue q rest } := by
  unfold dequeue at h
  split_ifs at h
  split at h
  · cases h
  · next hq =>
    cases h
    exact ⟨_, hq, rfl⟩

/-- The head of the queue goes into the hands of the processor. -/
theorem NotifyInv.dequeue {s s' : NotifySys} (hinv : NotifyInv s) {hwFree : Bool}
    (h : s.step (.dequeue hwFree) = some s') : NotifyInv s' := by
  obtain ⟨hremoved, h⟩ := Option.ite_none_left_eq_some.1 h
  obtain ⟨⟨skb, a'⟩, hdequeue, rfl⟩ := Option.map_eq_some_iff.1 h
  obtain ⟨rest, hq, rfl⟩ := Adapter.dequeue_cases hdequeue
  have hnone : s.removed = none := by simpa using hremoved
  have hwaiting : s.waiting = skb :: rest := by
    rw [NotifySys.waiting, hnone, NotifySys.queue, hq]
    rfl
  have hqueue : Function.update s.adapter.txQueue MGMT_SOFT_Q rest MGMT_SOFT_Q = rest :=
    Function.update_self ..
  -- the line of frames is the same, whoever holds its head
  refine hinv.of_line rfl ?_ rfl ?_
  · rw [hwaiting]
    exact congrArg (fun q => s.sent ++ (skb :: q)) hqueue
  · apply hinv.flag.trans
    rw [hwaiting]
    exact iff_of_eq (congrArg
      (fun q => s.issuing ≠ [] ∨ ∃ t ∈ skb :: q, t.isPeerNotify = true) hqueue.symm)

/-- The processor passes a notification on while no other one is queued or about to be. -/
theorem NotifyInv.drain {s s' : NotifySys} (hinv : NotifyInv s) {ok : Bool}
    (hdisc : NotifyDiscipline s (.drain ok)) (h : s.step (.drain ok) = some s') :
    NotifyInv s' := by
  obtain ⟨skb, hremoved, h⟩ := Option.bind_eq_some_iff.1 h
  obtain ⟨hfault, h⟩ := Option.ite_none_left_eq_some.1 h
  obtain rfl := Option.some.inj h
  obtain ⟨htxQueue, hflag⟩ := Adapter.drain_frame (Bool.eq_false_iff.2 hfault)
  have hwaiting : s.waiting = skb :: s.queue := by rw [NotifySys.waiting, hremoved]; rfl
  have hqueue : (s.adapter.drain MGMT_SOFT_Q skb ok).adapter.txQueue MGMT_SOFT_Q = s.queue :=
    congrFun htxQueue _
  refine hinv.of_line rfl ?_ rfl ?_
  · rw [hwaiting]
    exact (List.append_assoc ..).trans (congrArg (fun q => s.sent ++ (skb :: q)) hqueue)
  · have hrest : (∃ t ∈ s.queue, t.isPeerNotify = true) ↔
        ∃ t ∈ (s.adapter.drain MGMT_SOFT_Q skb ok).adapter.txQueue MGMT_SOFT_Q,
          t.isPeerNotify = true := by rw [hqueue]
    rw [hflag]
    refine Iff.trans ?_ (or_congr Iff.rfl hrest)
    cases hnotify : skb.isPeerNotify with
    | true =>
      -- it was the only one
      obtain ⟨hqueued, hissuing⟩ := hdisc (by rw [hremoved]; exact hnotify)
      have hnone : ¬ ∃ t ∈ s.queue, t.isPeerNotify = true := by
        rintro ⟨t, ht, htn⟩
        simpa [htn] using List.all_eq_true.1 hqueued t ht
      simp [hnone, List.isEmpty_iff.1 hissuing]
    | false =>
      -- another frame leaves the flag, and the notifications behind it, as they are
      rw [Bool.not_false, Bool.and_true, hinv.flag, hwaiting]
      simp [hnotify]

theorem NotifyInv.notify {s s' : NotifySys} (hinv : NotifyInv s) {call : StaNotify}
    {skb : SkBuff} (h : s.step (.notify call skb) = some s') : NotifyInv s' := by
  obtain rfl := Option.some.inj h
  refine ⟨hinv.notifies, hinv.others, fun t ht => ?_, iff_of_true rfl (.inl (by simp))⟩
  rcases List.mem_append.1 ht with hold | hnew
  · exact hinv.issuing t hold
  · rw [List.mem_singleton.1 hnew]
    exact call.isPeerNotify_skb skb

/-- In every run in which no notification meets another one, notifications and the other internal
frames keep their order, and the flag says whether a notification is queued. -/
theorem peerNotifyOrdered_of_discipline {s : NotifySys}
    (h : NotifySys.system.ReachableVia NotifyDiscipline s) : PeerNotifyOrdered s := by
  have hinv : NotifyInv s := by
    refine h.invariant NotifyInv (fun _ => .init) fun s a s' hinv hdisc hstep => ?_
    cases a with
    | notify call skb => exact hinv.notify hstep
    | queueNotify i => exact hinv.queueNotify hdisc hstep
    | queueOther skb => exact hinv.queueOther hstep
    | dequeue hwFree => exact hinv.dequeue hstep
    | drain ok => exact hinv.drain hdisc hstep
  exact hinv.peerNotifyOrdered

/-- A station joins while another frame waits, and leaves after the device was told. -/
def joinedSchedule : List NotifyAct :=
  [.queueOther (emptySkb 1), .notify (peerCall 2 .connected) (emptySkb 2), .queueNotify 0,
    .dequeue false, .drain true, .notify (peerCall 2 .disconnected) (emptySkb 3), .queueNotify 0]

/-- The state at the end of `joinedSchedule`. -/
def joinedState : NotifySys :=
  (NotifySys.system.runVia NotifyDiscipline NotifySys.start joinedSchedule).get rfl

/-- The discipline is kept by a run in which both notifications pass another frame. -/
theorem peerNotifyOrdered_joinedState :
    joinedState.sent.map SkBuff.tag = [2] ∧ joinedState.queue.map SkBuff.tag = [3, 1] ∧
      PeerNotifyOrdered joinedState :=
  ⟨rfl, rfl, peerNotifyOrdered_of_discipline
    (TransitionSystem.reachableVia_get NotifySys.init_start rfl)⟩

end Tx
