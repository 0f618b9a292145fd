import Mathlib.Data.Int.Notation
import Mathlib.Data.Nat.Notation
import Mathlib.Logic.Function.Basic
import RsiDriver.ToMathlib.TransitionSystem

/-!
# Reception over USB

Each endpoint that receives has one URB, which carries a buffer to the device and back.
`rsi_rx_done_handler` (`rsi_91x_usb.c`) is called when it comes back; a packet goes to `rx_q`, and
`rsi_rx_urb_submit` hands the URB with a new buffer to the device again. A URB that has come back
with an error or with a length that makes no sense is not handed over again, and in the second case
its buffer is not freed either.

The thread that takes the packets off `rx_q`, and the event that wakes it, are left out. The numbers
of the buffers that were queued and freed, and the completions, are histories.

## Main results

* `rxDoneHandler_eq`: what a completion does to the endpoint and to the buffer;
* `listening_iff`: the driver keeps listening exactly as long as every completion carries a packet.
-/

namespace UsbRx

/-- The endpoints for WLAN and for Bluetooth, `ep_num` 1 and 2 -/
inductive RxEp
  | wlan
  | bt
  deriving DecidableEq, Repr

/-- A buffer, with its number and `skb->len` -/
structure RxSkb where
  id : ℕ
  len : ℕ
  deriving DecidableEq, Repr

/-- `struct rx_usb_ctrl_block`, and whether its URB is with the device -/
structure RxCb where
  rxSkb : Option RxSkb
  submitted : Bool
  deriving DecidableEq, Repr

/-- A URB that comes back -/
structure Completion where
  ep : RxEp
  /-- The buffer that it carries -/
  skb : RxSkb
  /-- `urb->status` -/
  status : ℤ
  /-- `urb->actual_length` -/
  actualLength : ℕ
  deriving DecidableEq, Repr

/-- The URB carries a packet that fits its buffer. -/
def Completion.Good (c : Completion) : Prop :=
  c.status = 0 ∧ 0 < c.actualLength ∧ c.actualLength ≤ c.skb.len

instance (c : Completion) : Decidable c.Good := inferInstanceAs (Decidable (_ ∧ _))

/-- The endpoints and the buffers of the driver -/
structure RxState where
  rxCb : RxEp → RxCb
  /-- The number of the next buffer -/
  nextId : ℕ
  /-- What was put on `rx_q`, with the endpoint -/
  queued : List (RxEp × RxSkb)
  freed : List ℕ
  completions : List Completion

namespace RxState

variable (s : RxState)

def queuedIds : List ℕ := s.queued.map fun entry => entry.2.id

def completedIds : List ℕ := s.completions.map fun c => c.skb.id

end RxState

/-- `-ENOMEM` -/
def ENOMEM : ℤ := -12

def RSI_RECV_BUFFER_LEN : ℕ := 2000

/-- What a submission finds: the mode of the driver, whether there is a buffer and how far from a
multiple of 64 it starts, and what `usb_submit_urb` returns. -/
structure SubmitEnv where
  sniffer : Bool
  alloc : Bool
  dwordAlignBytes : BitVec 6
  status : ℤ

/-- The submission succeeds. -/
def SubmitEnv.Succeeds (env : SubmitEnv) : Prop := env.alloc = true ∧ env.status = 0

instance (env : SubmitEnv) : Decidable env.Succeeds := inferInstanceAs (Decidable (_ ∧ _))

namespace SubmitEnv

variable (env : SubmitEnv)

/-- The buffer that `rsi_rx_urb_submit` makes -/
def newSkb (id : ℕ) : RxSkb where
  id := id
  len :=
    let totalLen := if env.sniffer then RSI_RECV_BUFFER_LEN * 4 else RSI_RECV_BUFFER_LEN
    totalLen - 64 + env.dwordAlignBytes.toNat

/-- `rsi_rx_urb_submit` -/
def rxUrbSubmit (ep : RxEp) (s : RxState) : ℤ × RxState :=
  if ¬ env.alloc then (ENOMEM, s)
  else
    let skb := env.newSkb s.nextId
    (env.status, { s with
      rxCb := Function.update s.rxCb ep ⟨some skb, decide (env.status = 0)⟩
      nextId := s.nextId + 1 })

/-- `rsi_rx_done_handler` -/
def rxDoneHandler (c : Completion) (s : RxState) : RxState :=
  let s := { s with
    rxCb := Function.update s.rxCb c.ep { s.rxCb c.ep with submitted := false }
    completions := s.completions ++ [c] }
  if c.status ≠ 0 then { s with freed := s.freed ++ [c.skb.id] }
  else if c.actualLength = 0 ∨ c.skb.len < c.actualLength then s
  else
    -- `skb_trim`, `skb_queue_tail`
    let s := { s with queued := s.queued ++ [(c.ep, { c.skb with len := c.actualLength })] }
    (env.rxUrbSubmit c.ep s).2

end SubmitEnv

/-- A URB comes back, and what the submission behind it finds. -/
structure Act where
  ep : RxEp
  status : ℤ
  actualLength : ℕ
  env : SubmitEnv

/-- Every endpoint in use has its URB with the device, each with a buffer of its own. -/
structure Started (inUse : RxEp → Bool) (s : RxState) : Prop where
  submitted : ∀ ep, (s.rxCb ep).submitted = inUse ep
  buffer : ∀ ep, inUse ep = true → ∃ skb, (s.rxCb ep).rxSkb = some skb ∧ skb.id < s.nextId
  distinct : ∀ ep ep' skb skb', (s.rxCb ep).rxSkb = some skb → (s.rxCb ep').rxSkb = some skb' →
    skb.id = skb'.id → ep = ep'
  queued : s.queued = []
  freed : s.freed = []
  completions : s.completions = []

/-- The device gives the URBs back in any order. -/
def system (inUse : RxEp → Bool) : TransitionSystem RxState Act where
  Init := Started inUse
  step s a :=
    match s.rxCb a.ep with
    | ⟨some skb, true⟩ => some (a.env.rxDoneHandler ⟨a.ep, skb, a.status, a.actualLength⟩ s)
    | _ => none

/-- **The driver listens**: each endpoint in use has its URB with the device, with a buffer that is
nowhere else, and each buffer that has come back was put on `rx_q` or freed, once. -/
structure Listening (inUse : RxEp → Bool) (s : RxState) : Prop where
  submitted : ∀ ep, inUse ep = true → ∃ skb, s.rxCb ep = ⟨some skb, true⟩ ∧
    skb.id ∉ s.queuedIds ∧ skb.id ∉ s.freed ∧ skb.id ∉ s.completedIds
  distinct : ∀ ep ep' skb, s.rxCb ep = ⟨some skb, true⟩ → s.rxCb ep' = ⟨some skb, true⟩ → ep = ep'
  disposed : ∀ c ∈ s.completions, (s.queuedIds ++ s.freed).count c.skb.id = 1

/-! ## One completion -/

/-- **What a completion does.** -/
theorem rxDoneHandler_eq {env : SubmitEnv} (henv : env.Succeeds) (c : Completion) (s : RxState) :
    env.rxDoneHandler c s =
      { rxCb := Function.update s.rxCb c.ep
          (if c.Good then ⟨some (env.newSkb s.nextId), true⟩ else ⟨(s.rxCb c.ep).rxSkb, false⟩)
        nextId := s.nextId + if c.Good then 1 else 0
        queued := s.queued ++
          if c.Good then [(c.ep, { c.skb with len := c.actualLength })] else []
        freed := s.freed ++ if c.status = 0 then [] else [c.skb.id]
        completions := s.completions ++ [c] } := by
  obtain ⟨halloc, hstatus⟩ := henv
  by_cases hok : c.status = 0
  · by_cases hlength : c.actualLength = 0 ∨ c.skb.len < c.actualLength
    · -- the handler returns in front of the submission, with the buffer in hand
      have hbad : ¬ c.Good := fun hgood => by
        obtain ⟨-, hpos, hle⟩ := hgood
        omega
      simp [SubmitEnv.rxDoneHandler, hok, hlength, hbad]
    · have hgood : c.Good := ⟨hok, by omega, by omega⟩
      simp [SubmitEnv.rxDoneHandler, SubmitEnv.rxUrbSubmit, hok, hlength, hgood, halloc, hstatus]
  · -- the buffer is freed
    have hbad : ¬ c.Good := fun hgood => hok hgood.1
    simp [SubmitEnv.rxDoneHandler, hok, hbad]

/-! ## The runs -/

/-- **What holds of the endpoints in every run**: an endpoint has its URB with the device exactly if
no bad one has come back to it, with a buffer that has not come back. -/
structure EpInv (inUse : RxEp → Bool) (s : RxState) : Prop where
  submitted : ∀ ep, (s.rxCb ep).submitted = true ↔
    inUse ep = true ∧ ∀ c ∈ s.completions, c.ep = ep → c.Good
  buffer : ∀ ep, (s.rxCb ep).submitted = true → ∃ skb, s.rxCb ep = ⟨some skb, true⟩ ∧
    skb.id < s.nextId ∧ skb.id ∉ s.completedIds
  distinct : ∀ ep ep' skb skb', s.rxCb ep = ⟨some skb, true⟩ → s.rxCb ep' = ⟨some skb', true⟩ →
    skb.id = skb'.id → ep = ep'
  completed : ∀ id ∈ s.completedIds, id < s.nextId
  inUse : ∀ c ∈ s.completions, inUse c.ep = true

/-- **Where the buffers are that have come back.** -/
structure BufferInv (s : RxState) : Prop where
  queued : ∀ id ∈ s.queuedIds, id ∈ s.completedIds
  freed : ∀ id ∈ s.freed, id ∈ s.completedIds
  queuedCount : ∀ c ∈ s.completions, s.queuedIds.count c.skb.id = if c.Good then 1 else 0
  freedCount : ∀ c ∈ s.completions, s.freed.count c.skb.id = if c.status = 0 then 0 else 1

variable {inUse : RxEp → Bool} {s s' : RxState} {env : SubmitEnv} {c : Completion}

theorem Started.epInv (h : Started inUse s) : EpInv inUse s where
  submitted ep := by simp [h.submitted, h.completions]
  buffer ep hep := by
    obtain ⟨skb, hskb, hlt⟩ := h.buffer ep (by rw [← h.submitted]; exact hep)
    have hcb : s.rxCb ep = ⟨some skb, true⟩ := by rw [← hskb, ← hep]
    exact ⟨skb, hcb, hlt, by simp [RxState.completedIds, h.completions]⟩
  distinct ep ep' skb skb' hep hep' hid :=
    h.distinct ep ep' skb skb' (by rw [hep]) (by rw [hep']) hid
  completed id hid := by simp [RxState.completedIds, h.completions] at hid
  inUse c hc := by simp [h.completions] at hc

theorem Started.bufferInv (h : Started inUse s) : BufferInv s where
  queued id hid := by simp [RxState.queuedIds, h.queued] at hid
  freed id hid := by simp [h.freed] at hid
  queuedCount c hc := by simp [h.completions] at hc
  freedCount c hc := by simp [h.completions] at hc

/-- A URB that comes back was with the device. -/
theorem step_eq_some {a : Act} (h : (system inUse).step s a = some s') :
    ∃ skb, s.rxCb a.ep = ⟨some skb, true⟩ ∧
      s' = a.env.rxDoneHandler ⟨a.ep, skb, a.status, a.actualLength⟩ s := by
  simp only [system] at h
  split at h
  · rename_i skb hcb
    exact ⟨skb, hcb, (Option.some.inj h).symm⟩
  · exact absurd h (by simp)

/-- A buffer in use has not come back before. -/
theorem EpInv.of_submitted (h : EpInv inUse s) {ep : RxEp} {skb : RxSkb}
    (hcb : s.rxCb ep = ⟨some skb, true⟩) :
    inUse ep = true ∧ (∀ c' ∈ s.completions, c'.ep = ep → c'.Good) ∧ skb.id < s.nextId ∧
      skb.id ∉ s.completedIds := by
  have hsubmitted : (s.rxCb ep).submitted = true := by rw [hcb]
  obtain ⟨huse, hgoods⟩ := (h.submitted ep).1 hsubmitted
  obtain ⟨skb', hskb, hlt, hfresh⟩ := h.buffer ep hsubmitted
  rw [hcb, RxCb.mk.injEq, Option.some.injEq] at hskb
  obtain rfl : skb = skb' := hskb.1
  exact ⟨huse, hgoods, hlt, hfresh⟩

/-- The endpoint of a completion, and the others. -/
theorem rxCb_rxDoneHandler (henv : env.Succeeds) (ep : RxEp) :
    (env.rxDoneHandler c s).rxCb ep =
      if ep = c.ep then
        if c.Good then ⟨some (env.newSkb s.nextId), true⟩ else ⟨(s.rxCb c.ep).rxSkb, false⟩
      else s.rxCb ep := by
  rw [rxDoneHandler_eq henv]
  exact Function.update_apply _ _ _ _

theorem completedIds_rxDoneHandler (henv : env.Succeeds) :
    (env.rxDoneHandler c s).completedIds = s.completedIds ++ [c.skb.id] := by
  rw [rxDoneHandler_eq henv, RxState.completedIds, List.map_append]
  rfl

/-- An endpoint that is with the device has a new buffer, or has kept its own. -/
theorem rxCb_rxDoneHandler_cases (henv : env.Succeeds) {ep : RxEp} {skb : RxSkb}
    (h : (env.rxDoneHandler c s).rxCb ep = ⟨some skb, true⟩) :
    ep = c.ep ∧ c.Good ∧ skb = env.newSkb s.nextId ∨ ep ≠ c.ep ∧ s.rxCb ep = ⟨some skb, true⟩ := by
  rw [rxCb_rxDoneHandler henv] at h
  by_cases hep : ep = c.ep
  · by_cases hgood : c.Good
    · rw [if_pos hep, if_pos hgood, RxCb.mk.injEq, Option.some.injEq] at h
      exact Or.inl ⟨hep, hgood, h.1.symm⟩
    · rw [if_pos hep, if_neg hgood, RxCb.mk.injEq] at h
      exact absurd h.2 (by decide)
  · rw [if_neg hep] at h
    exact Or.inr ⟨hep, h⟩

theorem completions_rxDoneHandler (henv : env.Succeeds) :
    (env.rxDoneHandler c s).completions = s.completions ++ [c] := by
  rw [rxDoneHandler_eq henv]

theorem nextId_rxDoneHandler (henv : env.Succeeds) :
    (env.rxDoneHandler c s).nextId = s.nextId + if c.Good then 1 else 0 := by
  rw [rxDoneHandler_eq henv]

/-- An endpoint is with the device again if its completion was good too. -/
theorem EpInv.submitted_done (h : EpInv inUse s) (henv : env.Succeeds)
    (hcb : s.rxCb c.ep = ⟨some c.skb, true⟩) (ep : RxEp) :
    ((env.rxDoneHandler c s).rxCb ep).submitted = true ↔
      inUse ep = true ∧ ∀ c' ∈ (env.rxDoneHandler c s).completions, c'.ep = ep → c'.Good := by
  obtain ⟨huse, hgoods, -, -⟩ := h.of_submitted hcb
  rw [rxCb_rxDoneHandler henv, completions_rxDoneHandler henv, List.forall_mem_append,
    List.forall_mem_singleton]
  by_cases hep : ep = c.ep
  · subst hep
    by_cases hgood : c.Good
    · simp only [hgood, if_true, huse, true_and, forall_true_left, and_true, true_iff]
      exact hgoods
    · simp [hgood]
  · have hne : ¬ c.ep = ep := fun heq => hep heq.symm
    simp only [hep, hne, if_false, false_implies, and_true]
    exact h.submitted ep

/-- A buffer in use is not the one that has come back: that belonged to another endpoint, or to this
one before it got a new buffer. -/
theorem EpInv.buffer_done (h : EpInv inUse s) (henv : env.Succeeds)
    (hcb : s.rxCb c.ep = ⟨some c.skb, true⟩) (ep : RxEp)
    (hep : ((env.rxDoneHandler c s).rxCb ep).submitted = true) :
    ∃ skb, (env.rxDoneHandler c s).rxCb ep = ⟨some skb, true⟩ ∧
      skb.id < (env.rxDoneHandler c s).nextId ∧ skb.id ∉ (env.rxDoneHandler c s).completedIds := by
  obtain ⟨-, -, hlt, -⟩ := h.of_submitted hcb
  rw [nextId_rxDoneHandler henv, completedIds_rxDoneHandler henv]
  by_cases hsame : ep = c.ep
  · rw [rxCb_rxDoneHandler henv, if_pos hsame] at hep ⊢
    by_cases hgood : c.Good
    · rw [if_pos hgood, if_pos hgood]
      refine ⟨_, rfl, Nat.lt_succ_self _, fun hid => ?_⟩
      rcases List.mem_append.1 hid with hold | hnew
      · exact Nat.lt_irrefl _ (h.completed _ hold)
      · exact Nat.lt_irrefl _ (List.mem_singleton.1 hnew ▸ hlt)
    · rw [if_neg hgood] at hep
      exact absurd hep Bool.false_ne_true
  · rw [rxCb_rxDoneHandler henv, if_neg hsame] at hep ⊢
    obtain ⟨skb, hskb, hskblt, hskbfresh⟩ := h.buffer ep hep
    refine ⟨skb, hskb, Nat.lt_add_right _ hskblt, fun hid => ?_⟩
    rcases List.mem_append.1 hid with hold | hnew
    · exact hskbfresh hold
    · exact hsame (h.distinct _ _ _ _ hskb hcb (List.mem_singleton.1 hnew))

/-- A buffer in use has a smaller number than a new one. -/
theorem EpInv.id_ne_newSkb (h : EpInv inUse s) {ep : RxEp} {skb : RxSkb}
    (hcb : s.rxCb ep = ⟨some skb, true⟩) : skb.id ≠ (env.newSkb s.nextId).id := by
  obtain ⟨-, -, hlt, -⟩ := h.of_submitted hcb
  exact Nat.ne_of_lt hlt

theorem EpInv.done (h : EpInv inUse s) (henv : env.Succeeds)
    (hcb : s.rxCb c.ep = ⟨some c.skb, true⟩) : EpInv inUse (env.rxDoneHandler c s) where
  submitted := h.submitted_done henv hcb
  buffer := h.buffer_done henv hcb
  distinct ep ep' skb skb' hep hep' hid := by
    rcases rxCb_rxDoneHandler_cases henv hep with ⟨rfl, -, rfl⟩ | ⟨-, hold⟩
    · rcases rxCb_rxDoneHandler_cases henv hep' with ⟨rfl, -, -⟩ | ⟨-, hold'⟩
      · rfl
      · exact absurd hid.symm (h.id_ne_newSkb hold')
    · rcases rxCb_rxDoneHandler_cases henv hep' with ⟨rfl, -, rfl⟩ | ⟨-, hold'⟩
      · exact absurd hid (h.id_ne_newSkb hold)
      · exact h.distinct ep ep' skb skb' hold hold' hid
  completed id hid := by
    obtain ⟨-, -, hlt, -⟩ := h.of_submitted hcb
    rw [completedIds_rxDoneHandler henv] at hid
    rw [nextId_rxDoneHandler henv]
    rcases List.mem_append.1 hid with hold | hnew
    · exact Nat.lt_add_right _ (h.completed id hold)
    · exact Nat.lt_add_right _ (List.mem_singleton.1 hnew ▸ hlt)
  inUse := by
    rw [completions_rxDoneHandler henv, List.forall_mem_append, List.forall_mem_singleton]
    exact ⟨h.inUse, (h.of_submitted hcb).1⟩

/-- What is put onto a list on a condition has come back before, or comes back now. -/
theorem mem_completedIds_rxDoneHandler (henv : env.Succeeds) {ids : List ℕ} {p : Prop} [Decidable p]
    (hids : ∀ id ∈ ids, id ∈ s.completedIds) :
    ∀ id ∈ ids ++ (if p then [c.skb.id] else []), id ∈ (env.rxDoneHandler c s).completedIds := by
  intro id hid
  rw [completedIds_rxDoneHandler henv]
  rcases List.mem_append.1 hid with hold | hnew
  · exact List.mem_append_left _ (hids id hold)
  · split at hnew
    · exact List.mem_append_right _ hnew
    · exact absurd hnew List.not_mem_nil

/-- It is on the list as often as the conditions of the completions say. -/
theorem count_rxDoneHandler (henv : env.Succeeds) (hfresh : c.skb.id ∉ s.completedIds)
    {ids : List ℕ} {p : Completion → Prop} [DecidablePred p]
    (hids : ∀ id ∈ ids, id ∈ s.completedIds)
    (hcount : ∀ c' ∈ s.completions, ids.count c'.skb.id = if p c' then 1 else 0) :
    ∀ c' ∈ (env.rxDoneHandler c s).completions,
      (ids ++ (if p c then [c.skb.id] else [])).count c'.skb.id = if p c' then 1 else 0 := by
  rw [completions_rxDoneHandler henv, List.forall_mem_append, List.forall_mem_singleton]
  refine ⟨fun c' hc' => ?_, ?_⟩
  · -- the new number is another one
    have hother : c'.skb.id ≠ c.skb.id := fun heq => hfresh (heq ▸ List.mem_map_of_mem hc')
    have hzero : (if p c then [c.skb.id] else []).count c'.skb.id = 0 := by
      apply List.count_eq_zero.2
      split
      · exact fun hmem => hother (List.mem_singleton.1 hmem)
      · exact List.not_mem_nil
    rw [List.count_append, hcount c' hc', hzero, Nat.add_zero]
  · rw [List.count_append, List.count_eq_zero.2 fun hid => hfresh (hids _ hid), Nat.zero_add]
    split
    · exact List.count_singleton_self
    · rfl

theorem BufferInv.done (h : BufferInv s) (henv : env.Succeeds)
    (hfresh : c.skb.id ∉ s.completedIds) : BufferInv (env.rxDoneHandler c s) := by
  have hqueuedIds : (env.rxDoneHandler c s).queuedIds =
      s.queuedIds ++ if c.Good then [c.skb.id] else [] := by
    rw [rxDoneHandler_eq henv, RxState.queuedIds, List.map_append]
    by_cases hgood : c.Good
    · simp [hgood, RxState.queuedIds]
    · simp [hgood, RxState.queuedIds]
  have hfreed : (env.rxDoneHandler c s).freed =
      s.freed ++ if ¬ c.status = 0 then [c.skb.id] else [] := by
    rw [rxDoneHandler_eq henv, ite_not]
  have hfreedCount : ∀ c' ∈ s.completions,
      s.freed.count c'.skb.id = if ¬ c'.status = 0 then 1 else 0 := by
    intro c' hc'
    rw [h.freedCount c' hc', ite_not]
  have hcount := count_rxDoneHandler henv hfresh h.freed hfreedCount
  refine ⟨?_, ?_, ?_, fun c' hc' => ?_⟩
  · rw [hqueuedIds]
    exact mem_completedIds_rxDoneHandler henv h.queued
  · rw [hfreed]
    exact mem_completedIds_rxDoneHandler henv h.freed
  · rw [hqueuedIds]
    exact count_rxDoneHandler henv hfresh h.queued h.queuedCount
  · rw [hfreed, hcount c' hc', ite_not]

/-- Every submission of the run succeeds. -/
def SubmissionsSucceed (_ : RxState) (a : Act) : Prop := a.env.Succeeds

/-- The invariants along a run. -/
theorem rxInv_of_reachable (h : (system inUse).ReachableVia SubmissionsSucceed s) :
    EpInv inUse s ∧ BufferInv s := by
  apply h.invariant (fun s => EpInv inUse s ∧ BufferInv s)
  · exact fun s hs => ⟨hs.epInv, hs.bufferInv⟩
  · rintro s a s' ⟨hep, hbuffer⟩ henv hstep
    obtain ⟨skb, hcb, rfl⟩ := step_eq_some hstep
    have hfresh := (hep.of_submitted hcb).2.2.2
    exact ⟨hep.done henv hcb, hbuffer.done henv hfresh⟩

/-- **The driver keeps listening exactly as long as every completion carries a packet.** -/
theorem listening_iff (h : (system inUse).ReachableVia SubmissionsSucceed s) :
    Listening inUse s ↔ ∀ c ∈ s.completions, c.Good := by
  obtain ⟨hep, hbuffer⟩ := rxInv_of_reachable h
  constructor
  · -- a bad completion has left its endpoint without a URB
    intro hlistening c hc
    obtain ⟨skb, hskb, -⟩ := hlistening.submitted c.ep (hep.inUse c hc)
    have hsubmitted : (s.rxCb c.ep).submitted = true := by rw [hskb]
    exact ((hep.submitted c.ep).1 hsubmitted).2 c hc rfl
  · intro hgood
    refine ⟨fun ep huse => ?_, fun ep ep' skb hcb hcb' => hep.distinct _ _ _ _ hcb hcb' rfl,
      fun c hc => ?_⟩
    · obtain ⟨skb, hskb, -, hfresh⟩ :=
        hep.buffer ep ((hep.submitted ep).2 ⟨huse, fun c hc _ => hgood c hc⟩)
      exact ⟨skb, hskb, fun hid => hfresh (hbuffer.queued _ hid),
        fun hid => hfresh (hbuffer.freed _ hid), hfresh⟩
    · rw [List.count_append, hbuffer.queuedCount c hc, hbuffer.freedCount c hc,
        if_pos (hgood c hc), if_pos (hgood c hc).1]

/-! ### Runs -/

instance (s : RxState) (a : Act) : Decidable (SubmissionsSucceed s a) :=
  inferInstanceAs (Decidable (SubmitEnv.Succeeds _))

/-- A build for WLAN alone -/
def wlanOnly (ep : RxEp) : Bool := ep == .wlan

/-- The driver behind its probe -/
def wlanStart : RxState where
  rxCb ep := if ep = .wlan then ⟨some ⟨0, 1936⟩, true⟩ else ⟨none, false⟩
  nextId := 1
  queued := []
  freed := []
  completions := []

theorem started_wlanStart : Started wlanOnly wlanStart where
  submitted ep := by cases ep <;> rfl
  buffer ep hep := by
    cases ep with
    | wlan => exact ⟨⟨0, 1936⟩, rfl, by decide⟩
    | bt => exact absurd hep Bool.false_ne_true
  distinct ep ep' skb skb' hep hep' _ := by
    cases ep <;> cases ep' <;> simp [wlanStart] at hep hep' ⊢
  queued := rfl
  freed := rfl
  completions := rfl

/-- A submission that succeeds -/
def submitOk : SubmitEnv := ⟨false, true, 0, 0⟩

/-- A packet of 100 bytes. -/
theorem listening_packet :
    let s := ((system wlanOnly).runVia SubmissionsSucceed wlanStart [⟨.wlan, 0, 100, submitOk⟩]).get
      rfl
    Listening wlanOnly s ↔ ∀ c ∈ s.completions, c.Good :=
  listening_iff (TransitionSystem.reachableVia_get started_wlanStart rfl)

/-- A transfer that ends with `-EPROTO`: the driver is deaf from then on. -/
theorem not_listening :
    ¬ ∀ s, (system wlanOnly).ReachableVia SubmissionsSucceed s → Listening wlanOnly s := by
  intro hall
  have hlistening := hall (((system wlanOnly).runVia SubmissionsSucceed wlanStart
    [⟨.wlan, -71, 0, submitOk⟩]).get rfl) (TransitionSystem.reachableVia_get started_wlanStart rfl)
  obtain ⟨skb, hskb, -⟩ := hlistening.submitted .wlan rfl
  exact Bool.false_ne_true (congrArg RxCb.submitted hskb)

end UsbRx
