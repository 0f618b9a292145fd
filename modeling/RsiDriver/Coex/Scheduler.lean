import Mathlib.Data.Int.Notation
import Mathlib.Data.Nat.Notation
import Mathlib.Logic.Function.Basic
import RsiDriver.ToMathlib.TransitionSystem

/-!
# The coex scheduler

In a build with several protocols, `rsi_coex_send_pkt` takes the packets of all of them: a WLAN
packet is sent at once, and the others wait in the queue that the caller names for
`rsi_coex_sched_tx_pkts`, which runs in a thread of its own (`rsi_91x_coex.c`).

The queues are numbered in two ways. The callers of the ZigBee module name `RSI_ZIGB_Q`, which is
the number of `BT_Q`, so that the packets of both protocols wait in one queue, and
`rsi_coex_sched_tx_pkts` chooses the sender by the state of the ZigBee module. Only `BT_Q` is ever
dequeued; a packet in any other queue would make the loop spin, but no caller puts one there.

What the senders do with a packet is left out; each frees it. So is the wait of the thread for its
event and for the access to the bus.

## Main results

* `drains_of_rightState`: each queued packet is sent once, in its turn and by its own sender, and a
  call ends with all queues empty, if the packets meet the ZigBee module in the state they need and
  the WLAN senders return 0;
* `not_drains`: a Bluetooth packet that is sent by `rsi_send_zb_pkt`.
-/

namespace Coex

/-- The queues of `coex_tx_qs`. -/
def COEX_Q : Fin 5 := 0
/-- `BT_Q` -/
def BT_Q : Fin 5 := 1
/-- `WLAN_Q` -/
def WLAN_Q : Fin 5 := 2
/-- `VIP_Q` -/
def VIP_Q : Fin 5 := 3
/-- `ZIGB_Q` -/
def ZIGB_Q : Fin 5 := 4

/-- The queues as the callers number them. -/
def RSI_ZIGB_Q : Fin 5 := 1
/-- `RSI_WLAN_Q` -/
def RSI_WLAN_Q : Fin 5 := 3

/-- The protocol that a packet belongs to. -/
inductive Proto
  | wlan
  | bt
  | zigb
  deriving DecidableEq, Repr

/-- A packet. -/
structure Packet where
  proto : Proto
  data : List (BitVec 8)
  deriving DecidableEq, Repr

/-- The senders of the scheduler. -/
inductive Sender
  | sendBtPkt
  | sendZbPkt
  deriving DecidableEq, Repr

/-- The callers of `rsi_coex_send_pkt`. -/
inductive Caller
  /-- `rsi_core_qos_processor` -/
  | coreQosProcessor
  /-- The senders of `rsi_91x_hci.c`. -/
  | hci
  /-- `rsi_send_bt_reg_params` -/
  | sendBtRegParams
  /-- `zigb_genl_recv` -/
  | zigbGenlRecv
  /-- `zigb_deregister_fw` -/
  | zigbDeregisterFw
  deriving DecidableEq, Repr

/-- The queue that the caller names. -/
def Caller.halQueue : Caller → Fin 5
  | .coreQosProcessor => RSI_WLAN_Q
  | .hci | .sendBtRegParams => BT_Q
  -- 1, which `coex_tx_qs` has for Bluetooth
  | .zigbGenlRecv => RSI_ZIGB_Q
  -- named as a WLAN packet, although it is not one
  | .zigbDeregisterFw => RSI_WLAN_Q

/-- The protocol of the caller's packets. -/
def Caller.proto : Caller → Proto
  | .coreQosProcessor => .wlan
  | .hci | .sendBtRegParams => .bt
  | .zigbGenlRecv | .zigbDeregisterFw => .zigb

/-- `rsi_coex_determine_coex_q`; `none` is `INVALID_QUEUE`. -/
def determineCoexQ (qs : Fin 5 → List Packet) : Option (Fin 5) :=
  let q := none
  -- each test overwrites what the ones before it chose
  let q := if 0 < (qs VIP_Q).length then some VIP_Q else q
  let q := if 0 < (qs COEX_Q).length then some COEX_Q else q
  let q := if 0 < (qs BT_Q).length then some BT_Q else q
  let q := if 0 < (qs ZIGB_Q).length then some ZIGB_Q else q
  if 0 < (qs WLAN_Q).length then some WLAN_Q else q

/-- Where the thread stands in `rsi_coex_sched_tx_pkts`. -/
inductive Pc
  /-- Between two calls. -/
  | idle
  | determine
  /-- Before `skb_dequeue`. -/
  | dequeue
  /-- Before the sender is chosen. -/
  | send (skb : Option Packet)
  deriving DecidableEq, Repr

/-- The packet that the thread has dequeued. -/
def Pc.inHand : Pc → List (Option Packet)
  | .send skb => [skb]
  | _ => []

/-- A WLAN packet that was sent: the sender's status and what the caller was returned. -/
structure Direct where
  skb : Packet
  status : ℤ
  returned : ℤ
  deriving DecidableEq, Repr

/-- The queues, the thread, and what has become of the packets. -/
structure Sys where
  qs : Fin 5 → List Packet
  /-- `zb_fsm_state` is `ZB_DEVICE_READY`. -/
  zbReady : Bool
  pc : Pc
  queued : List Packet
  sent : List (Sender × Option Packet)
  direct : List Direct

/-- The choices of a schedule. -/
inductive Act
  | sendPkt (caller : Caller) (data : List (BitVec 8)) (ifaceDown internalMgmt : Bool) (status : ℤ)
  | schedStep
  | zbState (ready : Bool)
  deriving DecidableEq, Repr

namespace Sys

/-- Nothing has been sent yet. -/
def start : Sys := ⟨fun _ => [], false, .idle, [], [], []⟩

/-- `rsi_coex_send_pkt`; `status` is what the sender of a WLAN packet returns. -/
def sendPkt (s : Sys) (skb : Packet) (halQueue : Fin 5) (ifaceDown internalMgmt : Bool)
    (status : ℤ) : Sys :=
  if halQueue ≠ RSI_WLAN_Q then
    { s with
      qs := Function.update s.qs halQueue (s.qs halQueue ++ [skb])
      queued := s.queued ++ [skb] }
  -- the packet is given back to the network stack
  else if ifaceDown = true ∧ internalMgmt = false then s
  -- the status is dropped, and 0 is returned
  else { s with direct := ⟨skb, status, 0⟩ :: s.direct }

/-- The next step of the thread in `rsi_coex_sched_tx_pkts`; `zigb` is `CONFIG_RSI_ZIGB`. -/
def schedStep (zigb : Bool) (s : Sys) : Sys :=
  match s.pc with
  | .idle => { s with pc := .determine }
  | .determine =>
    match determineCoexQ s.qs with
    | none => { s with pc := .idle }
    -- `case BT_Q` and `case ZIGB_Q` share a body; for another queue the loop goes round
    | some q => if q = BT_Q ∨ q = ZIGB_Q then { s with pc := .dequeue } else s
  | .dequeue =>
    { s with
      -- `skb_dequeue` of `BT_Q`, whichever of the two was chosen
      qs := Function.update s.qs BT_Q (s.qs BT_Q).tail
      pc := .send (s.qs BT_Q).head? }
  | .send skb =>
    let sender := if zigb = true ∧ s.zbReady = true then .sendZbPkt else .sendBtPkt
    { s with sent := s.sent ++ [(sender, skb)], pc := .determine }

/-- The system; the callers of the ZigBee module exist only in a build with it. -/
def system (zigb : Bool) : TransitionSystem Sys Act where
  Init s := s = start
  step s
    | .sendPkt caller data ifaceDown internalMgmt status =>
      if caller.proto = .zigb ∧ zigb = false then none
      else some (s.sendPkt ⟨caller.proto, data⟩ caller.halQueue ifaceDown internalMgmt status)
    | .schedStep => some (s.schedStep zigb)
    | .zbState ready => if zigb = true then some { s with zbReady := ready } else none

/-- The scheduler drains and routes correctly: -/
structure Drains (zigb : Bool) (s : Sys) : Prop where
  /-- each queued packet is sent once, in hand or still queued, in the order of the queue, and no
  sender is called without a packet; -/
  inOrder : s.sent.map Prod.snd ++ s.pc.inHand ++ (s.qs BT_Q).map some = s.queued.map some
  /-- by the sender of its own protocol; -/
  ownSender : ∀ sender skb, (sender, some skb) ∈ s.sent →
    sender = .sendBtPkt ∧ skb.proto = .bt ∨ sender = .sendZbPkt ∧ skb.proto = .zigb
  /-- the WLAN senders get WLAN packets, and their status is returned; -/
  reported : ∀ d ∈ s.direct, d.skb.proto = .wlan ∧ d.returned = d.status
  /-- and when nothing more is queued, a call ends with all queues empty. -/
  terminates : s.pc ≠ .idle →
    ∃ t, (system zigb).RunsTo .schedStep s t ∧ t.pc = .idle ∧ ∀ q, t.qs q = []

/-- The condition on each step: a packet meets its sender's state of the ZigBee module, and a WLAN
packet is one and its sender returns 0. -/
def RightState (zigb : Bool) (s : Sys) : Act → Prop
  | .sendPkt caller _ ifaceDown internalMgmt status => caller.halQueue = RSI_WLAN_Q →
      ifaceDown = true ∧ internalMgmt = false ∨ caller.proto = .wlan ∧ status = 0
  | .schedStep => match s.pc with
    | .send (some skb) => skb.proto = .zigb ↔ zigb = true ∧ s.zbReady = true
    | _ => True
  | .zbState _ => True

instance (zigb : Bool) (s : Sys) (a : Act) : Decidable (RightState zigb s a) := by
  cases a with
  | sendPkt | zbState => unfold RightState; infer_instance
  | schedStep =>
    unfold RightState
    dsimp only
    split <;> infer_instance

/-! ## The queues that are used -/

section Queues

variable {qs : Fin 5 → List Packet}

/-- Only `BT_Q` holds packets. -/
def OnlyBt (qs : Fin 5 → List Packet) : Prop := ∀ q, q ≠ BT_Q → qs q = []

/-- With packets in `BT_Q` only, this queue is chosen as long as there is a packet. -/
theorem determineCoexQ_eq (h : OnlyBt qs) :
    determineCoexQ qs = if qs BT_Q = [] then none else some BT_Q := by
  have hvip : qs VIP_Q = [] := h _ (by decide)
  have hcoex : qs COEX_Q = [] := h _ (by decide)
  have hzigb : qs ZIGB_Q = [] := h _ (by decide)
  have hwlan : qs WLAN_Q = [] := h _ (by decide)
  unfold determineCoexQ
  cases hbt : qs BT_Q <;> simp [hvip, hcoex, hzigb, hwlan]

theorem OnlyBt.update (h : OnlyBt qs) (l : List Packet) :
    OnlyBt (Function.update qs BT_Q l) := by
  intro q hq
  rw [Function.update_of_ne hq]
  exact h q hq

/-- A caller that queues a packet at all names `BT_Q`. -/
theorem halQueue_eq {caller : Caller} (h : caller.halQueue ≠ RSI_WLAN_Q) :
    caller.halQueue = BT_Q := by
  cases caller <;> first | rfl | exact absurd rfl h

end Queues

/-! ## The end of a call -/

section Terminates

variable {zigb : Bool} {s : Sys}

/-- The thread comes from `s` to the end of its call, with all queues empty. -/
def Ends (zigb : Bool) (s : Sys) : Prop :=
  ∃ t, (system zigb).RunsTo .schedStep s t ∧ t.pc = .idle ∧ ∀ q, t.qs q = []

theorem Ends.head (h : Ends zigb (s.schedStep zigb)) : Ends zigb s := by
  obtain ⟨t, hrun, hend⟩ := h
  exact ⟨t, .head rfl hrun, hend⟩

/-- Each round of the loop takes a packet off `BT_Q`. -/
theorem ends_of_determine (n : ℕ) (hn : (s.qs BT_Q).length = n) (hbt : OnlyBt s.qs)
    (hpc : s.pc = .determine) : Ends zigb s := by
  -- on the number of packets that wait
  induction n generalizing s with
  | zero =>
    have hnil : s.qs BT_Q = [] := List.length_eq_zero_iff.1 hn
    have hstep : s.schedStep zigb = { s with pc := .idle } := by
      rw [schedStep, hpc]
      dsimp only
      rw [determineCoexQ_eq hbt, if_pos hnil]
    refine .head ⟨_, .refl _ _, ?_, fun q => ?_⟩
    · rw [hstep]
    · rw [hstep]
      by_cases hq : q = BT_Q
      · rw [hq]
        exact hnil
      · exact hbt q hq
  | succ n ih =>
    have hne : s.qs BT_Q ≠ [] := by
      intro hnil
      rw [hnil] at hn
      cases hn
    have hstep : s.schedStep zigb = { s with pc := .dequeue } := by
      rw [schedStep, hpc]
      dsimp only
      rw [determineCoexQ_eq hbt, if_neg hne]
      exact if_pos (.inl rfl)
    -- determine, dequeue and send
    refine .head (.head (.head (ih ?_ ?_ ?_)))
    · rw [hstep]
      simp [schedStep, hn]
    · rw [hstep]
      exact hbt.update _
    · rw [hstep]
      rfl

/-- A call ends from wherever the thread stands. -/
theorem ends_of_onlyBt (hbt : OnlyBt s.qs) (hpc : s.pc ≠ .idle) : Ends zigb s := by
  cases hcase : s.pc with
  | idle => exact absurd hcase hpc
  | determine => exact ends_of_determine _ rfl hbt hcase
  -- the packet is taken and sent, and the loop goes on from there
  | dequeue =>
    refine .head (.head (ends_of_determine _ rfl ?_ ?_))
    · simp only [schedStep, hcase]
      exact hbt.update _
    · simp only [schedStep, hcase]
  | send skb =>
    refine .head (ends_of_determine _ rfl ?_ ?_)
    · simpa only [schedStep, hcase] using hbt
    · simp only [schedStep, hcase]

end Terminates

/-! ## Invariant -/

section Invariant

variable {zigb : Bool} {s s' : Sys}

/-- What holds in every run. -/
structure Inv (s : Sys) : Prop where
  onlyBt : OnlyBt s.qs
  /-- The thread is about to dequeue only if there is a packet. -/
  nonempty : s.pc = .dequeue → s.qs BT_Q ≠ []
  inOrder : s.sent.map Prod.snd ++ s.pc.inHand ++ (s.qs BT_Q).map some = s.queued.map some
  /-- No WLAN packet is queued. -/
  proto : ∀ skb ∈ s.queued, skb.proto = .bt ∨ skb.proto = .zigb

theorem inv_start : Inv start where
  onlyBt _ _ := rfl
  nonempty h := by cases h
  inOrder := rfl
  proto _ h := absurd h List.not_mem_nil

theorem Inv.sendPkt (hs : Inv s) (caller : Caller) (data : List (BitVec 8))
    (ifaceDown internalMgmt : Bool) (status : ℤ) :
    Inv (s.sendPkt ⟨caller.proto, data⟩ caller.halQueue ifaceDown internalMgmt status) := by
  unfold Sys.sendPkt
  split
  · rename_i hqueue
    rw [halQueue_eq hqueue]
    -- the only WLAN caller names `RSI_WLAN_Q`
    have hproto : caller.proto = .bt ∨ caller.proto = .zigb := by
      cases caller <;> first | exact .inl rfl | exact .inr rfl | exact absurd rfl hqueue
    constructor
    · exact hs.onlyBt.update _
    · intro _
      simp
    · simp [← hs.inOrder]
    · intro skb hskb
      rcases List.mem_append.1 hskb with hold | hnew
      · exact hs.proto skb hold
      · rw [List.mem_singleton.1 hnew]
        exact hproto
  · split
    · exact hs
    · exact ⟨hs.onlyBt, hs.nonempty, hs.inOrder, hs.proto⟩

theorem Inv.schedStep (hs : Inv s) : Inv (s.schedStep zigb) := by
  have hinOrder := hs.inOrder
  unfold Sys.schedStep
  split
  · rename_i hpc
    rw [hpc] at hinOrder
    exact ⟨hs.onlyBt, fun h => (by cases h), hinOrder, hs.proto⟩
  · rename_i hpc
    rw [hpc] at hinOrder
    rw [determineCoexQ_eq hs.onlyBt]
    by_cases hnil : s.qs BT_Q = []
    · rw [if_pos hnil]
      exact ⟨hs.onlyBt, fun h => (by cases h), hinOrder, hs.proto⟩
    · rw [if_neg hnil]
      exact ⟨hs.onlyBt, fun _ => hnil, hinOrder, hs.proto⟩
  · rename_i hpc
    rw [hpc] at hinOrder
    -- the queue is not empty, so that there is a packet to send
    obtain ⟨skb, qs, hqs⟩ := List.exists_cons_of_ne_nil (hs.nonempty hpc)
    refine ⟨hs.onlyBt.update _, fun h => (by cases h), ?_, hs.proto⟩
    simpa [hqs, Pc.inHand] using hinOrder
  · rename_i skb hpc
    rw [hpc] at hinOrder
    refine ⟨hs.onlyBt, fun h => (by cases h), ?_, hs.proto⟩
    simpa [Pc.inHand] using hinOrder

theorem inv_of_step {a : Act} (hs : Inv s) (h : (system zigb).step s a = some s') : Inv s' := by
  cases a with
  | sendPkt caller data ifaceDown internalMgmt status =>
    simp only [system] at h
    split at h
    · cases h
    · cases h
      exact hs.sendPkt caller data ifaceDown internalMgmt status
  | schedStep =>
    cases h
    exact hs.schedStep
  | zbState ready =>
    simp only [system] at h
    split at h
    · cases h
      exact ⟨hs.onlyBt, hs.nonempty, hs.inOrder, hs.proto⟩
    · cases h

/-- What holds in a run that keeps the condition. -/
structure RouteInv (s : Sys) : Prop extends Inv s where
  ownSender : ∀ sender skb, (sender, some skb) ∈ s.sent →
    sender = .sendBtPkt ∧ skb.proto = .bt ∨ sender = .sendZbPkt ∧ skb.proto = .zigb
  reported : ∀ d ∈ s.direct, d.skb.proto = .wlan ∧ d.returned = d.status

theorem routeInv_start : RouteInv start where
  toInv := inv_start
  ownSender _ _ h := absurd h List.not_mem_nil
  reported _ h := absurd h List.not_mem_nil

/-- The packet in hand is one that was queued. -/
theorem Inv.proto_of_send (hs : Inv s) {skb : Packet} (hpc : s.pc = .send (some skb)) :
    skb.proto = .bt ∨ skb.proto = .zigb := by
  apply hs.proto skb
  have hmem : some skb ∈ s.queued.map some := by
    rw [← hs.inOrder, hpc]
    simp [Pc.inHand]
  obtain ⟨skb', hskb', heq⟩ := List.mem_map.1 hmem
  rwa [← Option.some.inj heq]

theorem RouteInv.schedStep (hs : RouteInv s) (hright : RightState zigb s .schedStep) :
    RouteInv (s.schedStep zigb) := by
  have hinv : Inv (s.schedStep zigb) := hs.toInv.schedStep
  cases hpc : s.pc with
  | idle =>
    refine ⟨hinv, ?_, ?_⟩ <;> simp only [Sys.schedStep, hpc]
    · exact hs.ownSender
    · exact hs.reported
  | determine =>
    have hsame : (s.schedStep zigb).sent = s.sent ∧ (s.schedStep zigb).direct = s.direct := by
      simp only [Sys.schedStep, hpc]
      split
      · exact ⟨rfl, rfl⟩
      · split <;> exact ⟨rfl, rfl⟩
    refine ⟨hinv, ?_, ?_⟩
    · rw [hsame.1]
      exact hs.ownSender
    · rw [hsame.2]
      exact hs.reported
  | dequeue =>
    refine ⟨hinv, ?_, ?_⟩ <;> simp only [Sys.schedStep, hpc]
    · exact hs.ownSender
    · exact hs.reported
  | send skb =>
    refine ⟨hinv, ?_, ?_⟩ <;> simp only [Sys.schedStep, hpc]
    · intro sender skb' hmem
      rcases List.mem_append.1 hmem with hold | hnew
      · exact hs.ownSender sender skb' hold
      · obtain ⟨rfl, rfl⟩ := Prod.mk.inj (List.mem_singleton.1 hnew)
        -- the state of the ZigBee module goes with the packet
        have hiff : skb'.proto = .zigb ↔ zigb = true ∧ s.zbReady = true := by
          simpa only [RightState, hpc] using hright
        by_cases hready : zigb = true ∧ s.zbReady = true
        · rw [if_pos hready]
          exact .inr ⟨rfl, hiff.2 hready⟩
        · rw [if_neg hready]
          exact .inl ⟨rfl, (hs.proto_of_send hpc).resolve_right (mt hiff.1 hready)⟩
    · exact hs.reported

theorem RouteInv.sendPkt (hs : RouteInv s) {caller : Caller} {data : List (BitVec 8)}
    {ifaceDown internalMgmt : Bool} {status : ℤ}
    (hright : RightState zigb s (.sendPkt caller data ifaceDown internalMgmt status)) :
    RouteInv (s.sendPkt ⟨caller.proto, data⟩ caller.halQueue ifaceDown internalMgmt status) := by
  refine ⟨hs.toInv.sendPkt caller data ifaceDown internalMgmt status, ?_, ?_⟩
  · unfold Sys.sendPkt
    split
    · exact hs.ownSender
    · split <;> exact hs.ownSender
  · unfold Sys.sendPkt
    split
    · exact hs.reported
    · rename_i hqueue
      split
      · exact hs.reported
      · rename_i hdown
        -- the sender returns what the caller gets anyway
        obtain ⟨hproto, hstatus⟩ := (hright (not_not.1 hqueue)).resolve_left hdown
        intro d hd
        rcases List.mem_cons.1 hd with rfl | hold
        · exact ⟨hproto, hstatus.symm⟩
        · exact hs.reported d hold

theorem routeInv_of_rightState (h : (system zigb).ReachableVia (RightState zigb) s) :
    RouteInv s := by
  refine h.invariant RouteInv (fun s hs => hs ▸ routeInv_start) fun s a s' hs hright hstep => ?_
  cases a with
  | sendPkt caller data ifaceDown internalMgmt status =>
    simp only [system] at hstep
    split at hstep
    · cases hstep
    · cases hstep
      exact hs.sendPkt hright
  | schedStep =>
    cases hstep
    exact hs.schedStep hright
  | zbState ready =>
    simp only [system] at hstep
    split at hstep
    · cases hstep
      exact ⟨⟨hs.onlyBt, hs.nonempty, hs.inOrder, hs.proto⟩, hs.ownSender, hs.reported⟩
    · cases hstep

end Invariant

/-- **The coex scheduler drains and routes correctly** in the runs in which each packet meets the
ZigBee module in the state that its sender is chosen by, and the WLAN senders return 0. -/
theorem drains_of_rightState (zigb : Bool) (s : Sys)
    (h : (system zigb).ReachableVia (RightState zigb) s) : Drains zigb s := by
  have hs := routeInv_of_rightState h
  exact ⟨hs.inOrder, hs.ownSender, hs.reported, ends_of_onlyBt hs.onlyBt⟩

section Examples

/-- A Bluetooth packet is queued and sent, and a WLAN packet is sent in between. -/
theorem drains_btPacket :
    Drains true (((system true).runVia (RightState true) start
      [.sendPkt .hci [1] false false 0, .schedStep, .schedStep,
        .sendPkt .coreQosProcessor [2] false false 0, .schedStep, .schedStep]).get
        (by decide)) :=
  drains_of_rightState true _ (TransitionSystem.reachableVia_get rfl (by decide))

/-- A Bluetooth packet that is sent while the ZigBee module is ready goes to `rsi_send_zb_pkt`. -/
theorem not_drains : ¬ ∀ s, (system true).Reachable s → Drains true s := by
  let schedule : List Act :=
    [.zbState true, .sendPkt .hci [1] false false 0, .schedStep, .schedStep, .schedStep, .schedStep]
  refine TransitionSystem.not_forall_reachable_of_run schedule rfl rfl fun hdrains => ?_
  have hsender := hdrains.ownSender .sendZbPkt ⟨.bt, [1]⟩ (List.mem_singleton.2 rfl)
  rcases hsender with ⟨hbt, -⟩ | ⟨-, hzigb⟩
  · cases hbt
  · cases hzigb

end Examples

end Sys

end Coex
