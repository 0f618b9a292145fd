import Mathlib.Order.Fin.Basic
import RsiDriver.Tx.PeerNotify

/-!
# Flow control towards mac80211

`rsi_core_xmit` stops mac80211 queues when the transmit queues of the driver run full, and an
iteration of `rsi_core_qos_processor` wakes them when it has removed a packet. The two go by
different rules: `stopList` asks for the length of the queue against `host_txq_maxlen`, for
admission control and for two ladders of thresholds between the queues, and `wakeList` is a cascade
of its own.

A deadlock would be a stopped queue while nothing is left to be removed. Runs interleave
transmissions of any frames, iterations on any queue, and anything that reconfigures the driver
otherwise: the EDCA parameters may change at any time. A transmission and an iteration are one step
each.

## Main results

* `not_dataIdle_of_stopList`: nothing is stopped while the data queues are empty;
* `wakeList_of_idle`: the iteration that empties the data queues wakes all of them;
* `awake_of_dataIdle`: no queue is stopped in a reachable state in which the data queues are empty.
-/

namespace Tx

open TransitionSystem Adapter

/-- A data queue among the transmit queues. -/
abbrev dataQ (q : Fin NUM_EDCA_QUEUES) : QNum := q.castLE edca_le

theorem dataQ_lt (q : Fin NUM_EDCA_QUEUES) : dataQ q < MGMT_SOFT_Q := by
  revert q
  decide

/-- `host_txq_maxlen` as `rsi_91x_init` sets it: the water marks of `BK_Q`, `BE_Q`, `VI_Q` and
`VO_Q`. Nothing else writes it. -/
def hostTxqMaxlenInit : Fin NUM_EDCA_QUEUES → BitVec 16
  | 0 => 20
  | 1 => 140
  | 2 => 300
  | 3 => 600

namespace Adapter

/-- All data queues are empty. -/
def DataIdle (a : Adapter) : Prop := ∀ q : Fin NUM_EDCA_QUEUES, a.txQueue (dataQ q) = []

instance (a : Adapter) : Decidable a.DataIdle :=
  inferInstanceAs (Decidable (∀ q : Fin NUM_EDCA_QUEUES, a.txQueue (dataQ q) = []))

/-- No mac80211 queue is stopped. -/
def Awake (a : Adapter) : Prop := ∀ hw ∈ a.hw, ∀ ac, hw.queueStopped ac = false

/-- Anything else that happens to the driver: all state is replaced by that of `b`, except for the
data queues, the state of the mac80211 queues and `host_txq_maxlen`. -/
def reconfigure (a b : Adapter) : Adapter :=
  { b with
    hw := a.hw.map fun hw => { hw with ht40 := (b.hw.map Hw.ht40).getD hw.ht40 }
    txQueue := fun q => if q < MGMT_SOFT_Q then a.txQueue q else b.txQueue q
    hostTxqMaxlen := a.hostTxqMaxlen }

/-- One iteration of `rsi_core_qos_processor` on the queue `q`, to the end of the sender. -/
def iterate (a : Adapter) (q : QNum) (hwFree ok : Bool) : Adapter :=
  match a.dequeue q hwFree with
  | none => a
  | some (skb, b) => (b.drain q skb ok).adapter

end Adapter

/-- What happens to the driver. -/
inductive FlowAct
  /-- `rsi_core_xmit` -/
  | xmit (skb : SkBuff) (internal : Option (List SkBuff))
  | iterate (q : QNum) (hwFree ok : Bool)
  | reconfigure (b : Adapter)

/-- Transmissions, iterations and changes of parameters, from empty queues on. A crash does not end
a run: what is shown of all states holds of those before it. -/
def flowSystem : TransitionSystem Adapter FlowAct where
  Init a := a.hw.isSome = true ∧ a.hostTxqMaxlen = hostTxqMaxlenInit ∧ a.DataIdle ∧ a.Awake
  step a
    | .xmit skb internal => some (a.coreXmit skb internal).1
    | .iterate q hwFree ok => some (a.iterate q hwFree ok)
    | .reconfigure b => some (a.reconfigure b)

/-! ## Stopping -/

namespace Adapter

/-- With the water marks of `rsi_91x_init`, a queue over its mark is not empty. -/
theorem length_pos_of_overWaterMark {a : Adapter} (hmax : a.hostTxqMaxlen = hostTxqMaxlenInit)
    {q : Fin NUM_EDCA_QUEUES} (h : a.overWaterMark q = true) :
    a.txQueue (dataQ q) ≠ [] := by
  intro hnil
  -- the subtraction does not wrap around, since every mark is above the offset
  have hmark : ∀ q, ¬ ((hostTxqMaxlenInit q).setWidth 32 - 3 < BitVec.ofNat 32 0) := by decide
  have hover : (a.hostTxqMaxlen q).setWidth 32 - 3 <
      BitVec.ofNat 32 (a.txQueue (dataQ q)).length := of_decide_eq_true h
  rw [hnil, hmax] at hover
  exact hmark q hover

/-- Whatever is stopped, some data queue holds a packet. -/
theorem not_dataIdle_of_stopList {a : Adapter} (hmax : a.hostTxqMaxlen = hostTxqMaxlenInit)
    {q : Fin NUM_EDCA_QUEUES} (h : a.stopList q ≠ []) : ¬ a.DataIdle := by
  intro hidle
  apply h
  have hmark : ¬ a.overWaterMark q = true := fun hover =>
    length_pos_of_overWaterMark hmax hover (hidle q)
  -- each rung of the two ladders asks for more than five packets
  have hBK : (a.txQueue BK_Q).length = 0 := List.length_eq_zero_iff.2 (hidle 0)
  have hBE : (a.txQueue BE_Q).length = 0 := List.length_eq_zero_iff.2 (hidle 1)
  have hVI : (a.txQueue VI_Q).length = 0 := List.length_eq_zero_iff.2 (hidle 2)
  have hVO : (a.txQueue VO_Q).length = 0 := List.length_eq_zero_iff.2 (hidle 3)
  simp [stopList, hmark, hBK, hBE, hVI, hVO]

/-! ## Waking -/

/-- Waking writes nothing but the flags of the queues woken. -/
theorem hw_wakeQueues (l : List (Fin NUM_EDCA_QUEUES)) (a : Adapter) :
    (l.foldl wakeQueue a).hw = a.hw.map fun hw =>
      { hw with queueStopped := fun ac => if ac ∈ l then false else hw.queueStopped ac } := by
  induction l generalizing a with
  | nil => simp
  | cons q l ih =>
    rw [List.foldl_cons, ih, wakeQueue, Option.map_map]
    congr 1
    funext hw
    show (⟨hw.ht40, _⟩ : Hw) = ⟨hw.ht40, _⟩
    congr 1
    funext ac
    -- the queue woken first, or one of the others
    by_cases hq : ac = q
    · simp [hq]
    · simp [hq, Function.update_of_ne]

/-- With empty data queues the cascade runs to its end, whatever the EDCA parameters. -/
theorem wakeList_of_idle {a : Adapter} (h : a.DataIdle) : a.wakeList = [3, 2, 1, 0] := by
  have hBK : a.txQueue BK_Q = [] := h 0
  have hBE : a.txQueue BE_Q = [] := h 1
  have hVI : a.txQueue VI_Q = [] := h 2
  have hVO : a.txQueue VO_Q = [] := h 3
  simp [wakeList, hBK, hBE, hVI, hVO]

theorem awake_wakeQueues_of_idle {a : Adapter} (h : a.DataIdle) :
    (a.wakeList.foldl wakeQueue a).Awake := by
  intro hw hmem ac
  rw [hw_wakeQueues, wakeList_of_idle h] at hmem
  obtain ⟨hw', -, rfl⟩ := Option.map_eq_some_iff.1 hmem
  have hall : ∀ ac : Fin NUM_EDCA_QUEUES, ac ∈ [3, 2, 1, 0] := by decide
  exact if_pos (hall ac)

end Adapter

/-! ## The invariant -/

/-- The water marks stand, and a queue is stopped only while a data packet waits. -/
structure FlowInv (a : Adapter) : Prop where
  registered : a.hw.isSome = true
  maxlen : a.hostTxqMaxlen = hostTxqMaxlenInit
  awake : a.DataIdle → a.Awake

/-- `b` is `a` with packets added to the data queues and nothing stopped or woken. -/
structure Grows (a b : Adapter) : Prop where
  hw : b.hw = a.hw
  maxlen : b.hostTxqMaxlen = a.hostTxqMaxlen
  idle : b.DataIdle → a.DataIdle

namespace Grows

theorem refl (a : Adapter) : Grows a a := ⟨rfl, rfl, id⟩

theorem trans {a b c : Adapter} (hab : Grows a b) (hbc : Grows b c) : Grows a c :=
  ⟨hbc.hw.trans hab.hw, hbc.maxlen.trans hab.maxlen, fun h => hab.idle (hbc.idle h)⟩

/-- Replacing one queue by a longer one. -/
theorem update {a : Adapter} {q : QNum} {l : List SkBuff} (hl : l = [] → a.txQueue q = []) :
    Grows a { a with txQueue := Function.update a.txQueue q l } where
  hw := rfl
  maxlen := rfl
  idle h p := by
    have hp : Function.update a.txQueue q l (dataQ p) = [] := h p
    by_cases hq : dataQ p = q
    · rw [hq, Function.update_self] at hp
      rw [hq]
      exact hl hp
    · rwa [Function.update_of_ne hq] at hp

theorem coreQueuePkt (a : Adapter) (skb : SkBuff) : Grows a (a.coreQueuePkt skb) := by
  unfold Adapter.coreQueuePkt
  split
  · exact update fun h => absurd h (by simp)
  · exact ⟨rfl, rfl, id⟩

theorem sendInternalMgmtFrame (a : Adapter) (skb : SkBuff) :
    Grows a (a.sendInternalMgmtFrame skb) := by
  refine update fun h => ?_
  -- neither a frame in front nor one at the end leaves the queue empty
  split_ifs at h
  exact absurd (List.append_eq_nil_iff.1 h).2 (List.cons_ne_nil _ _)

theorem sendStaNotify (a : Adapter) (internal : Option (List SkBuff)) :
    Grows a (a.sendStaNotify internal) := by
  cases internal with
  | none => exact refl a
  | some frames =>
    have hframes (b : Adapter) (l : List SkBuff) :
        Grows b (l.foldl Adapter.sendInternalMgmtFrame b) := by
      induction l generalizing b with
      | nil => exact refl b
      | cons skb l ih => exact (sendInternalMgmtFrame b skb).trans (ih _)
    exact trans (b := { a with peerNotify := true }) ⟨rfl, rfl, id⟩ (hframes _ frames)

theorem sendPkt (a : Adapter) (skb : SkBuff) (ok : Bool) : Grows a (a.sendPkt skb ok) := by
  cases ok <;> exact ⟨rfl, rfl, id⟩

theorem sendStatus (a : Adapter) (skb : SkBuff) (ok : Bool) :
    Grows a (a.sendStatus skb ok).adapter :=
  (sendPkt a skb ok).trans ⟨rfl, rfl, id⟩

/-- The senders neither queue nor wake. -/
theorem send (a : Adapter) (q : QNum) (skb : SkBuff) (ok : Bool) :
    Grows a (a.send q skb ok).adapter := by
  have hstatus : Grows a (a.indicateTxStatus skb) := ⟨rfl, rfl, id⟩
  have hkfree (skb : SkBuff) : Grows a ((a.sendPkt skb ok).kfreeSkb skb) :=
    (sendPkt a skb ok).trans ⟨rfl, rfl, id⟩
  unfold Adapter.send
  split_ifs
  · unfold sendMgmtPkt
    dsimp only
    split_ifs
    · exact hkfree _
    · exact hstatus
    · exact sendStatus a skb ok
    · split
      · exact hstatus
      -- the four outcomes for a null-data frame
      · split
        · exact refl a
        · exact hstatus
        · exact trans (b := a.park _ _) ⟨rfl, rfl, id⟩ (sendPkt _ _ ok)
        · split_ifs
          · exact hstatus
          · exact sendStatus a _ ok
          · exact sendStatus a skb ok
  · exact hkfree skb
  · unfold sendDataPkt
    dsimp only
    split
    · split_ifs
      · exact hstatus
      · exact sendStatus a skb ok
    · exact hstatus

end Grows

namespace FlowInv

theorem grows {a b : Adapter} (h : FlowInv a) (hab : Grows a b) : FlowInv b where
  registered := by rw [hab.hw]; exact h.registered
  maxlen := by rw [hab.maxlen]; exact h.maxlen
  awake hidle := by
    unfold Awake
    rw [hab.hw]
    exact h.awake (hab.idle hidle)

/-- What `rsi_core_xmit` stops is stopped for a packet that waits. -/
theorem flowControl {a : Adapter} (h : FlowInv a) (q : Fin NUM_EDCA_QUEUES) :
    FlowInv (a.flowControl q).1 := by
  obtain ⟨hqueue, -⟩ := a.flowControl_frame q
  have hidle : (a.flowControl q).1.DataIdle ↔ a.DataIdle := by rw [DataIdle, DataIdle, hqueue]
  unfold Adapter.flowControl at hidle ⊢
  split_ifs at hidle ⊢ with hnil
  · exact h
  · exact h
  · have hstop : ∀ (l : List (Fin NUM_EDCA_QUEUES)) (b : Adapter),
        (l.foldl stopQueue b).hw.isSome = b.hw.isSome ∧
          (l.foldl stopQueue b).hostTxqMaxlen = b.hostTxqMaxlen := by
      intro l
      -- stopping writes only the flags of the queues
      induction l with
      | nil => exact fun b => ⟨rfl, rfl⟩
      | cons q l ih => exact fun b => ⟨(ih _).1.trans Option.isSome_map, (ih _).2⟩
    obtain ⟨hsome, hmax⟩ := hstop (a.stopList q) a
    exact ⟨hsome.trans h.registered, hmax.trans h.maxlen,
      fun hd => absurd (hidle.1 hd) (not_dataIdle_of_stopList h.maxlen hnil)⟩

theorem queueOrFree {a b : Adapter} {q : BitVec 32} {r : DescResult} (h : FlowInv a)
    (hab : Grows a b) (hready : ∀ c skb, r = .ready c skb → Grows a c)
    (hrejected : ∀ c skb status, r = .rejected c skb status → Grows a c) :
    FlowInv (b.queueOrFree q r).1 := by
  cases r with
  | oops fault => exact h.grows hab
  -- a packet without a descriptor is freed, and nothing is queued
  | rejected c skb status =>
    exact (h.grows (hrejected c skb status rfl)).grows (b := c.freeTxskb skb) ⟨rfl, rfl, id⟩
  | ready c skb =>
    have hqueue := h.grows ((hready c skb rfl).trans (.coreQueuePkt c skb))
    unfold Adapter.queueOrFree
    split_ifs
    · exact hqueue.flowControl _
    · exact hqueue

theorem prepareMgmtDesc {a : Adapter} (h : FlowInv a) (skb : SkBuff) (q : BitVec 32) :
    FlowInv (a.queueOrFree q (Tx.prepareMgmtDesc a skb)).1 := by
  refine h.queueOrFree (.refl a) (fun c skb' heq => ?_) (fun c skb' status heq => ?_) <;>
    rcases prepareMgmtDesc_cases a skb with ⟨_, -, -, hres⟩ | ⟨_, _, -, hres⟩ <;>
    rw [hres] at heq <;> cases heq <;> exact .refl a

theorem prepareDataDesc {a : Adapter} (h : FlowInv a) (skb : SkBuff) (q : BitVec 32) :
    FlowInv (a.queueOrFree q (Tx.prepareDataDesc a skb)).1 := by
  refine h.queueOrFree (.refl a) (fun c skb' heq => ?_) (fun c skb' status heq => ?_) <;>
    rcases prepareDataDesc_cases a skb with
      ⟨-, _, _, -, -, hres⟩ | ⟨-, _, _, -, hres⟩ | ⟨-, _, hres⟩ <;>
    rw [hres] at heq <;> cases heq <;> exact ⟨rfl, rfl, id⟩

/-- A transmission keeps the invariant. -/
theorem coreXmit {a : Adapter} (h : FlowInv a) (skb : SkBuff) (internal : Option (List SkBuff)) :
    FlowInv (a.coreXmit skb internal).1 := by
  have hfree : FlowInv (a.freeTxskb skb) := h.grows ⟨rfl, rfl, id⟩
  unfold Adapter.coreXmit
  split_ifs
  · exact hfree
  · -- a management frame stops nothing itself
    have hassoc : FlowInv { a with eapol4Confirm := false, startBgscan := false } :=
      h.grows ⟨rfl, rfl, id⟩
    unfold xmitMgmt
    dsimp only
    split_ifs
    · exact hassoc
    · exact (hassoc.grows (.sendStaNotify _ internal)).prepareMgmtDesc _ _
    · exact h.prepareMgmtDesc _ _
  · unfold xmitData
    split
    · exact h
    · dsimp only
      split_ifs
      · exact h.grows (b := a.indicateTxStatus skb) ⟨rfl, rfl, id⟩
      · split
        · exact hfree
        · rename_i i unicast _
          obtain ⟨stations, baSessions, heq, -⟩ := a.startSession_cases skb i unicast
          refine prepareDataDesc (h.grows ?_) _ _
          rw [heq]
          exact ⟨rfl, rfl, id⟩

/-- After a packet is removed and queues are woken, a queue that is still stopped has a packet to
wait for. -/
theorem wake {a : Adapter} (h : FlowInv a) {q : QNum} {skb : SkBuff} {rest : List SkBuff}
    {b : Adapter} (hb : b = { a with txQueue := Function.update a.txQueue q rest })
    (hq : a.txQueue q = skb :: rest) :
    FlowInv (if q < MGMT_SOFT_Q then b.wakeList.foldl wakeQueue b else b) := by
  have hsome : b.hw.isSome = true := by rw [hb]; exact h.registered
  have hmax : b.hostTxqMaxlen = hostTxqMaxlenInit := by rw [hb]; exact h.maxlen
  by_cases hdata : q < MGMT_SOFT_Q
  · rw [if_pos hdata]
    refine ⟨?_, ?_, fun hidle => ?_⟩
    · rw [hw_wakeQueues, Option.isSome_map]
      exact hsome
    · obtain ⟨hw, heq, -⟩ := wakeQueues_frame b.wakeList b
      rw [heq]
      exact hmax
    · -- the last data packet is gone, so all queues are woken
      obtain ⟨hw, heq, -⟩ := wakeQueues_frame b.wakeList b
      refine awake_wakeQueues_of_idle (fun p => ?_)
      rw [heq] at hidle
      exact hidle p
  · rw [if_neg hdata]
    -- a management packet is gone, which changes nothing for the data queues
    refine ⟨hsome, hmax, fun hidle => ?_⟩
    have hidle' : a.DataIdle := by
      intro p
      have hp : dataQ p ≠ q := by
        rintro rfl
        exact hdata (dataQ_lt p)
      have hempty := hidle p
      rw [hb] at hempty
      exact (Function.update_of_ne hp _ _).symm.trans hempty
    rw [hb]
    exact h.awake hidle'

/-- An iteration keeps the invariant. -/
theorem iterate {a : Adapter} (h : FlowInv a) (q : QNum) (hwFree ok : Bool) :
    FlowInv (a.iterate q hwFree ok) := by
  unfold Adapter.iterate
  cases hdequeue : a.dequeue q hwFree with
  | none => exact h
  | some r =>
    obtain ⟨skb, b⟩ := r
    obtain ⟨rest, hq, hb⟩ := dequeue_cases hdequeue
    have hwake := h.wake hb hq
    have hsome : b.hw.isNone = false := by
      rw [hb]
      exact Option.isNone_eq_false_iff.2 h.registered
    show FlowInv (b.drain q skb ok).adapter
    unfold drain
    simp only [hsome, Bool.false_eq_true, and_false, if_false]
    -- what follows needs only the invariant of the state behind the waking
    generalize (if q < MGMT_SOFT_Q then b.wakeList.foldl wakeQueue b else b) = c at hwake ⊢
    have hclear : FlowInv (if c.peerNotify = true ∧ skb.byte 2 = 8 then
        { c with peerNotify := false } else c) := by
      split_ifs
      · exact hwake.grows ⟨rfl, rfl, id⟩
      · exact hwake
    split
    · exact hclear
    · exact hclear.grows (.send _ q _ ok)

theorem reconfigure {a : Adapter} (h : FlowInv a) (b : Adapter) : FlowInv (a.reconfigure b) where
  registered := Option.isSome_map.trans h.registered
  maxlen := h.maxlen
  awake hidle hw hmem := by
    have hidle' : a.DataIdle := by
      intro p
      exact (if_pos (dataQ_lt p)).symm.trans (hidle p)
    obtain ⟨hw', hmem', rfl⟩ := Option.map_eq_some_iff.1 hmem
    exact h.awake hidle' hw' hmem'

/-- Every step keeps the invariant. -/
theorem step {a a' : Adapter} {act : FlowAct} (h : FlowInv a)
    (hstep : flowSystem.step a act = some a') : FlowInv a' := by
  cases act with
  | xmit skb internal =>
    obtain rfl := Option.some.inj hstep
    exact h.coreXmit skb internal
  | iterate q hwFree ok =>
    obtain rfl := Option.some.inj hstep
    exact h.iterate q hwFree ok
  | reconfigure b =>
    obtain rfl := Option.some.inj hstep
    exact h.reconfigure b

end FlowInv

/-- **Flow control does not deadlock**: while all four data queues are empty, the driver is
registered and none of the four mac80211 queues is stopped. -/
theorem awake_of_dataIdle {a : Adapter} (h : flowSystem.Reachable a) (hidle : a.DataIdle) :
    ∃ hw, a.hw = some hw ∧ ∀ ac, hw.queueStopped ac = false := by
  have hinv : FlowInv a := h.invariant FlowInv
    (fun _ ⟨hsome, hmax, _, hawake⟩ => ⟨hsome, hmax, fun _ => hawake⟩)
    fun _ _ _ hinv _ hstep => hinv.step hstep
  obtain ⟨hw, hhw⟩ := Option.isSome_iff_exists.1 hinv.registered
  exact ⟨hw, hhw, hinv.awake hidle hw hhw⟩

/-- A station with the water marks of `rsi_91x_init`, in a network whose video queue waits longer
than its best-effort queue. -/
def flowStart : Adapter :=
  { Adapter.stationUp with
    hostTxqMaxlen := hostTxqMaxlenInit
    edcaParams := fun q => ⟨false, if q = 2 then 3 else 2⟩ }

theorem init_flowStart : flowSystem.Init flowStart := by
  refine ⟨rfl, rfl, fun _ => rfl, ?_⟩
  rintro _ ⟨⟩ ac
  rfl

/-- Six best-effort packets, which stop three queues. -/
def crowdSchedule : List FlowAct := List.replicate 6 (.xmit (qosData (localAddr 1)) none)

/-- The six packets leave again. -/
def calmSchedule : List FlowAct := crowdSchedule ++ List.replicate 6 (.iterate BE_Q true true)

/-- Where the schedule ends. -/
def calmState : Adapter := (flowSystem.run flowStart calmSchedule).get rfl

/-- The packets stop the voice queue among others, and no queue is stopped when they have left. -/
theorem awake_calmState :
    ((flowSystem.run flowStart crowdSchedule).bind Adapter.hw).map (·.queueStopped 3) = some true ∧
      ∃ hw, calmState.hw = some hw ∧ ∀ ac, hw.queueStopped ac = false :=
  ⟨by decide +kernel,
    awake_of_dataIdle (reachable_get init_flowStart rfl) (by decide +kernel)⟩

end Tx
