import Mathlib.Data.Int.Notation
import RsiDriver.Tx.BlockAck

/-!
# The TID of a data frame

`start_tx_aggr` has a flag for each of the 16 TIDs. The TID of a data frame comes from its QoS
control field, or, if the device encapsulates the frame, from the precedence of the IP header; a
frame without QoS has the TID 16, which is one past the last flag. A station interface sends to the
slot of its peer whether there is one or not.

## Main results

* `dataTidOk_iff`: which frames use a flag of their own and a station that is there;
* `not_dataTidsOk`: a unicast frame without QoS does not;
* `dataTidsOk_of_discipline`: with such frames one session is started between two resets of a flag.
-/

namespace Tx

/-- A data frame without QoS. Frames that the device encapsulates have a TID of their own. -/
def SkBuff.nonQos (skb : SkBuff) : Bool :=
  !skb.txParams.encapOffload && !FrameControl.isDataQos (skb.frameControl 0)

/-- The sessions that a frame starts. -/
def Adapter.newSessions (a : Adapter) (skb : SkBuff) (internal : Option (List SkBuff)) :
    List (Fin 33 × BitVec 8) :=
  (a.coreXmit skb internal).1.baSessions.drop a.baSessions.length

/-- A frame uses a flag of its own, its TID and station id fit the 8 bits of `tx_params`, and it
starts a session only with QoS and for a station that is there. -/
structure DataTidOk (a : Adapter) (skb : SkBuff) (internal : Option (List SkBuff)) : Prop where
  index : ∀ i, a.xmitTarget skb = some (i, true) → (xmitTid skb).toNat < 16
  tid : (xmitTid skb).toNat ≤ 127
  staId : ∀ i unicast, a.xmitTarget skb = some (i, unicast) →
    -128 ≤ (a.stations i).staId.toInt ∧ (a.stations i).staId.toInt ≤ 127
  sessions : ∀ e ∈ a.newSessions skb internal, skb.nonQos = false ∧ (a.stations e.1).sta.isSome

/-- A unicast frame has QoS, and its station is there unless it starts no session. -/
def DataTidFits (a : Adapter) (skb : SkBuff) : Prop :=
  ∀ i, a.xmitTarget skb = some (i, true) → skb.nonQos = false ∧
    (skb.info.portCtrlProto = false → (a.stations i).aggrFlag (xmitTid skb) = false →
      (a.stations i).sta.isSome)

/-- A station id is that of a slot, or -1 if the slot is empty. -/
def StaIds (a : Adapter) : Prop :=
  ∀ i, -1 ≤ (a.stations i).staId.toInt ∧ (a.stations i).staId.toInt ≤ 32

/-! ## One frame -/

theorem encapTid_lt (skb : SkBuff) : (encapTid skb).toNat < 8 := by
  have hshift : ∀ x : BitVec 8, (x >>> 5).toNat < 8 := by decide
  unfold encapTid
  split_ifs <;> exact hshift _

theorem qosTid_lt (skb : SkBuff) (h : ℕ) : (skb.qosTid h).toNat < 16 := by
  unfold SkBuff.qosTid
  rw [BitVec.toNat_and]
  exact Nat.lt_of_le_of_lt Nat.and_le_right (by decide)

/-- Only a frame without QoS has a TID without a flag. -/
theorem xmitTid_lt_iff (skb : SkBuff) : (xmitTid skb).toNat < 16 ↔ skb.nonQos = false := by
  unfold xmitTid SkBuff.nonQos
  cases hencap : skb.txParams.encapOffload with
  | true => exact iff_of_true (Nat.lt_trans (encapTid_lt skb) (by decide)) rfl
  | false =>
    cases hqos : FrameControl.isDataQos (skb.frameControl 0) with
    | true => exact iff_of_true (qosTid_lt skb 0) rfl
    | false => exact iff_of_false (by simp) (by decide)

theorem xmitTid_le (skb : SkBuff) : (xmitTid skb).toNat ≤ 127 := by
  unfold xmitTid
  split_ifs
  · have hlt := encapTid_lt skb
    omega
  · have hlt := qosTid_lt skb 0
    omega
  · decide

/-- The session of a unicast frame whose flag is clear. -/
theorem newSessions_eq (a : Adapter) (skb : SkBuff) (internal : Option (List SkBuff)) :
    a.newSessions skb internal =
      match a.xmitTarget skb with
      | some (i, true) =>
        if (a.stations i).aggrFlag (xmitTid skb) = false ∧ skb.info.portCtrlProto = false then
          [(i, xmitTid skb)]
        else []
      | _ => [] := by
  unfold Adapter.newSessions
  rw [(a.sameSessions_coreXmit skb internal).baSessions]
  cases htarget : a.xmitTarget skb with
  | none => exact List.drop_length ..
  | some target =>
    obtain ⟨i, unicast⟩ := target
    cases unicast with
    | false => exact List.drop_length ..
    | true =>
      dsimp only
      unfold Adapter.startSession
      cases hflag : (a.stations i).aggrFlag (xmitTid skb) <;> cases hport : skb.info.portCtrlProto
      · exact List.drop_left ..
      all_goals exact List.drop_length ..

/-- The frames that do what they should. -/
theorem dataTidOk_iff {a : Adapter} (hids : StaIds a) (skb : SkBuff)
    (internal : Option (List SkBuff)) : DataTidOk a skb internal ↔ DataTidFits a skb := by
  constructor
  · intro hok i htarget
    refine ⟨(xmitTid_lt_iff skb).1 (hok.index i htarget), fun hport hflag => ?_⟩
    have hsession := hok.sessions (i, xmitTid skb)
    rw [newSessions_eq, htarget] at hsession
    dsimp only at hsession
    rw [if_pos ⟨hflag, hport⟩] at hsession
    exact (hsession (List.mem_singleton_self _)).2
  · intro hfits
    refine ⟨fun i htarget => (xmitTid_lt_iff skb).2 (hfits i htarget).1, xmitTid_le skb,
      fun i unicast _ => ?_, fun e he => ?_⟩
    · have hid := hids i
      omega
    · rw [newSessions_eq] at he
      split at he
      · rename_i i htarget
        obtain ⟨hqos, hpresent⟩ := hfits i htarget
        split_ifs at he with hstart
        · rw [List.mem_singleton.1 he]
          exact ⟨hqos, hpresent hstart.2 hstart.1⟩
        · cases he
      · cases he

/-! ## Runs -/

/-- The driver, with the number of sessions that it has started for each station and TID since the
flag was reset. -/
structure TidSys where
  adapter : Adapter
  started : Fin 33 → BitVec 8 → ℕ

/-- What happens in a run. -/
inductive TidAct
  | xmit (skb : SkBuff) (internal : Option (List SkBuff))
  /-- `start_tx_aggr[tid] = false`, at the end of a session and when a station comes or goes -/
  | reset (i : Fin 33) (tid : Fin 16)
  /-- Everything else, which leaves the flags and starts no session -/
  | other (adapter : Adapter)

/-- `start_tx_aggr[tid] = false` -/
def Adapter.resetFlag (a : Adapter) (i : Fin 33) (tid : Fin 16) : Adapter :=
  let sta := a.stations i
  let cleared := { sta with startTxAggr := Function.update sta.startTxAggr tid false }
  { a with stations := Function.update a.stations i cleared }

instance (a : Adapter) : Decidable (StaIds a) := by
  unfold StaIds
  infer_instance

namespace TidSys

/-- One step of a run. -/
def step (s : TidSys) : TidAct → Option TidSys
  | .xmit skb internal =>
    some ⟨(s.adapter.coreXmit skb internal).1,
      fun i tid => s.started i tid + (s.adapter.newSessions skb internal).count (i, tid)⟩
  | .reset i tid =>
    some ⟨s.adapter.resetFlag i tid,
      fun j t => if j = i ∧ t = BitVec.ofNat 8 tid then 0 else s.started j t⟩
  | .other a =>
    if StaIds a ∧ ∀ i tid, a.aggr i tid = s.adapter.aggr i tid then some ⟨a, s.started⟩ else none

/-- Runs start before the first session. -/
def system : TransitionSystem TidSys TidAct where
  Init s := StaIds s.adapter ∧ (∀ i tid, s.adapter.aggr i tid = false) ∧
    ∀ i tid, s.started i tid = 0
  step := step

end TidSys

/-- Every frame uses a flag of its own, and starts a session at most once until a reset. -/
structure DataTidsOk (s : TidSys) : Prop where
  frames : ∀ skb internal, DataTidOk s.adapter skb internal
  once : ∀ i tid, s.started i tid ≤ 1

/-- The condition on each step. -/
def TidDiscipline (s : TidSys) : TidAct → Prop
  | .xmit skb _ => DataTidFits s.adapter skb
  | _ => True

/-- What holds in every state: a session that has been started has set its flag. -/
structure TidInv (s : TidSys) : Prop where
  ids : StaIds s.adapter
  once : ∀ i tid, s.started i tid ≤ 1
  flag : ∀ i tid, s.started i tid ≠ 0 →
    tid.toNat < 16 ∧ (s.adapter.stations i).aggrFlag tid = true

section Step

variable {s : TidSys}

theorem staIds_of_staId {a b : Adapter} (h : StaIds a)
    (heq : ∀ i, (b.stations i).staId = (a.stations i).staId) : StaIds b := by
  intro i
  rw [heq i]
  exact h i

theorem staId_coreXmit (a : Adapter) (skb : SkBuff) (internal : Option (List SkBuff)) (i : Fin 33) :
    ((a.coreXmit skb internal).1.stations i).staId = (a.stations i).staId := by
  rw [(a.sameSessions_coreXmit skb internal).stations]
  cases a.xmitTarget skb with
  | none => rfl
  | some target =>
    obtain ⟨j, unicast⟩ := target
    dsimp only
    unfold Adapter.startSession
    split_ifs
    · unfold Adapter.startTxAggr RsiSta.setAggrFlag
      by_cases hi : i = j
      · subst hi
        dsimp only
        rw [Function.update_self]
        split_ifs <;> rfl
      · dsimp only
        rw [Function.update_of_ne hi]
    · rfl

theorem aggrFlag_setAggrFlag (sta : RsiSta) {tid t : BitVec 8} (htid : tid.toNat < 16)
    (ht : t.toNat < 16) :
    (sta.setAggrFlag tid).aggrFlag t = (decide (t = tid) || sta.aggrFlag t) := by
  unfold RsiSta.setAggrFlag RsiSta.aggrFlag
  rw [dif_pos htid, dif_pos ht, dif_pos ht]
  have hiff : (⟨t.toNat, ht⟩ : Fin 16) = ⟨tid.toNat, htid⟩ ↔ t = tid := by
    rw [Fin.mk.injEq, BitVec.toNat_inj]
  by_cases heq : t = tid
  · simp [heq]
  · simp [heq, hiff]

/-- A frame with a flag of its own sets no other one. -/
theorem aggrFlag_coreXmit {a : Adapter} {skb : SkBuff} (hfits : DataTidFits a skb)
    (internal : Option (List SkBuff)) (i : Fin 33) {tid : BitVec 8} (htid : tid.toNat < 16) :
    ((a.coreXmit skb internal).1.stations i).aggrFlag tid = true ↔
      (i, tid) ∈ a.newSessions skb internal ∨ (a.stations i).aggrFlag tid = true := by
  rw [newSessions_eq, (a.sameSessions_coreXmit skb internal).stations]
  cases htarget : a.xmitTarget skb with
  | none => simp
  | some target =>
    obtain ⟨j, unicast⟩ := target
    cases unicast with
    | false => simp [Adapter.startSession]
    | true =>
      have hlt := (xmitTid_lt_iff skb).2 (hfits j htarget).1
      by_cases hstart : (a.stations j).aggrFlag (xmitTid skb) = false ∧
          skb.info.portCtrlProto = false
      · have hsession : a.startSession skb j true = a.startTxAggr j (xmitTid skb) := by
          unfold Adapter.startSession
          rw [hstart.1, hstart.2]
          rfl
        dsimp only
        rw [if_pos hstart, hsession, List.mem_singleton, Prod.mk.injEq]
        unfold Adapter.startTxAggr
        by_cases hi : i = j
        · subst hi
          dsimp only
          rw [Function.update_self, aggrFlag_setAggrFlag _ hlt htid, Bool.or_eq_true,
            decide_eq_true_eq, and_iff_right rfl]
        · dsimp only
          rw [Function.update_of_ne hi, or_iff_right fun heq => hi heq.1]
      · have hsession : a.startSession skb j true = a := by
          unfold Adapter.startSession
          refine if_neg fun hall => hstart ?_
          simp only [Bool.true_and, Bool.and_eq_true, Bool.not_eq_true'] at hall
          exact hall
        dsimp only
        rw [if_neg hstart, hsession, or_iff_right List.not_mem_nil]

/-- A frame starts no session whose flag is set, and each at most once. -/
theorem count_newSessions (a : Adapter) (skb : SkBuff) (internal : Option (List SkBuff))
    (i : Fin 33) (tid : BitVec 8) :
    (a.newSessions skb internal).count (i, tid) ≤
      if (a.stations i).aggrFlag tid then 0 else 1 := by
  rw [newSessions_eq]
  split
  · rename_i j htarget
    split_ifs with hstart hflag
    · refine Nat.le_of_eq (List.count_eq_zero.2 fun hmem => ?_)
      obtain ⟨rfl, rfl⟩ := Prod.mk.inj (List.mem_singleton.1 hmem)
      rw [hflag] at hstart
      exact Bool.noConfusion hstart.1
    · exact List.count_le_length
    · exact Nat.le_refl _
    · exact Nat.zero_le _
  · exact Nat.zero_le _

theorem TidInv.xmit (h : TidInv s) {skb : SkBuff} (hfits : DataTidFits s.adapter skb)
    (internal : Option (List SkBuff)) :
    TidInv ⟨(s.adapter.coreXmit skb internal).1,
      fun i tid => s.started i tid + (s.adapter.newSessions skb internal).count (i, tid)⟩ := by
  refine ⟨staIds_of_staId h.ids (staId_coreXmit s.adapter skb internal), fun i tid => ?_,
    fun i tid hne => ?_⟩
  · have hcount := count_newSessions s.adapter skb internal i tid
    by_cases hzero : s.started i tid = 0
    · dsimp only
      rw [hzero]
      split_ifs at hcount <;> omega
    · have honce := h.once i tid
      rw [if_pos (h.flag i tid hzero).2] at hcount
      dsimp only
      omega
  · by_cases hzero : s.started i tid = 0
    · have hmem : (i, tid) ∈ s.adapter.newSessions skb internal := by
        refine List.count_pos_iff.1 (Nat.pos_of_ne_zero fun hnone => hne ?_)
        show s.started i tid + _ = 0
        rw [hzero, hnone]
      have htid : tid.toNat < 16 := by
        rw [newSessions_eq] at hmem
        split at hmem
        · rename_i j htarget
          split_ifs at hmem
          · obtain ⟨-, rfl⟩ := Prod.mk.inj (List.mem_singleton.1 hmem)
            exact (xmitTid_lt_iff skb).2 (hfits j htarget).1
          · cases hmem
        · cases hmem
      exact ⟨htid, (aggrFlag_coreXmit hfits internal i htid).2 (Or.inl hmem)⟩
    · obtain ⟨htid, hflag⟩ := h.flag i tid hzero
      exact ⟨htid, (aggrFlag_coreXmit hfits internal i htid).2 (Or.inr hflag)⟩

theorem aggrFlag_eq_aggr (a : Adapter) (i : Fin 33) {tid : BitVec 8} (htid : tid.toNat < 16) :
    (a.stations i).aggrFlag tid = a.aggr i ⟨tid.toNat, htid⟩ :=
  dif_pos htid

theorem TidInv.reset (h : TidInv s) (i : Fin 33) (tid : Fin 16) :
    TidInv ⟨s.adapter.resetFlag i tid,
      fun j t => if j = i ∧ t = BitVec.ofNat 8 tid then 0 else s.started j t⟩ := by
  have hstations (j : Fin 33) : (s.adapter.resetFlag i tid).stations j =
      if j = i then { s.adapter.stations i with
        startTxAggr := Function.update (s.adapter.stations i).startTxAggr tid false }
      else s.adapter.stations j := by
    unfold Adapter.resetFlag
    by_cases hj : j = i
    · subst hj
      rw [if_pos rfl]
      exact Function.update_self ..
    · rw [if_neg hj]
      exact Function.update_of_ne hj ..
  refine ⟨staIds_of_staId h.ids fun j => ?_, fun j t => ?_, fun j t hne => ?_⟩
  · rw [hstations]
    split_ifs with hj
    · rw [hj]
    · rfl
  · dsimp only
    split_ifs
    · exact Nat.zero_le _
    · exact h.once j t
  · dsimp only at hne
    split_ifs at hne with hsame
    · exact absurd rfl hne
    · obtain ⟨ht, hflag⟩ := h.flag j t hne
      refine ⟨ht, ?_⟩
      rw [hstations]
      split_ifs with hj
      · -- another TID of the same station
        subst hj
        have hother : (⟨t.toNat, ht⟩ : Fin 16) ≠ tid := by
          rintro rfl
          exact hsame ⟨rfl, by simp⟩
        rw [RsiSta.aggrFlag, dif_pos ht] at hflag ⊢
        exact (Function.update_of_ne hother ..).trans hflag
      · exact hflag

theorem TidInv.step {s' : TidSys} {act : TidAct} (h : TidInv s) (hG : TidDiscipline s act)
    (hstep : s.step act = some s') : TidInv s' := by
  cases act with
  | xmit skb internal =>
    obtain rfl := Option.some.inj hstep
    exact h.xmit hG internal
  | reset i tid =>
    obtain rfl := Option.some.inj hstep
    exact h.reset i tid
  | other a =>
    unfold TidSys.step at hstep
    dsimp only at hstep
    split_ifs at hstep with hother
    obtain rfl := Option.some.inj hstep
    refine ⟨hother.1, h.once, fun i tid hne => ?_⟩
    obtain ⟨htid, hflag⟩ := h.flag i tid hne
    refine ⟨htid, ?_⟩
    rw [aggrFlag_eq_aggr _ _ htid, hother.2, ← aggrFlag_eq_aggr _ _ htid]
    exact hflag

end Step

/-- In every run whose unicast frames have QoS and a station that is there, one session is started
between two resets of a flag, and these are exactly the frames that do what they should. -/
theorem dataTidsOk_of_discipline (s : TidSys) (h : TidSys.system.ReachableVia TidDiscipline s) :
    (∀ i tid, s.started i tid ≤ 1) ∧
      ∀ skb internal, DataTidOk s.adapter skb internal ↔ DataTidFits s.adapter skb := by
  have hinv : TidInv s := by
    refine h.invariant TidInv (fun s hinit => ?_) fun _ _ _ hinv hG hstep => hinv.step hG hstep
    obtain ⟨hids, -, hzero⟩ := hinit
    refine ⟨hids, fun i tid => ?_, fun i tid hne => absurd (hzero i tid) hne⟩
    rw [hzero]
    exact Nat.zero_le _
  exact ⟨hinv.once, dataTidOk_iff hinv.ids⟩

/-! ## A frame without QoS -/

/-- A station that is associated. -/
def TidSys.start : TidSys := ⟨Adapter.stationUp, fun _ _ => 0⟩

theorem TidSys.init_start : TidSys.system.Init .start := by
  refine ⟨?_, fun _ _ => rfl, fun _ _ => rfl⟩
  show StaIds Adapter.stationUp
  decide

/-- A unicast data frame without a QoS control field. -/
def nonQosData : SkBuff :=
  { Adapter.qosData (Adapter.localAddr 1) with
    byte := fun i => if i = 0 then 0x08 else (Adapter.qosData (Adapter.localAddr 1)).byte i }

theorem not_dataTidsOk : ¬ ∀ s, TidSys.system.Reachable s → DataTidsOk s := by
  intro hall
  have hok := (hall .start (.init TidSys.init_start)).frames nonQosData none
  exact absurd (hok.index RSI_MAX_ASSOC_STAS (by decide)) (by decide)

/-- The first frame with QoS starts a session, and the next one does not. -/
theorem dataTidsOk_qosData : ∃ s : TidSys, s.started RSI_MAX_ASSOC_STAS 0 = 1 ∧
    DataTidOk s.adapter (Adapter.qosData (Adapter.localAddr 1)) none := by
  have hfits : DataTidFits Adapter.stationUp (Adapter.qosData (Adapter.localAddr 1)) := by
    unfold DataTidFits
    decide
  have hrun : TidSys.system.ReachableVia TidDiscipline _ :=
    .step (a := TidAct.xmit (Adapter.qosData (Adapter.localAddr 1)) none)
      (.init TidSys.init_start) hfits rfl
  obtain ⟨-, hframes⟩ := dataTidsOk_of_discipline _ hrun
  refine ⟨_, ?_, (hframes (Adapter.qosData (Adapter.localAddr 1)) none).2 ?_⟩
  · decide
  · unfold DataTidFits
    decide

end Tx
