import Mathlib.Logic.Function.Basic
import RsiDriver.ToMathlib.TransitionSystem
import RsiDriver.Tx.Adapter

/-!
# The buffers of an SDIO device

Before it takes a packet off a queue, the transmit thread asks `rsi_sdio_check_buffer_status`
(`rsi_91x_sdio_ops.c`) whether the device has room. The answer comes from flags of the driver; the
register of the device is read only when the interrupt handler has seen BUFFER_AVAILABLE
(`buff_status_updated`), or when `counter` calls have gone past the register. The handler asks the
same function, in its own thread and without a common lock, and `counter` is a static variable of
the function: all devices of the driver count with it.

Each access to a shared variable is a step here; the three flags are written in one step, since an
answer reads only one of them.

## Main results

* `answers_current`: with one device, and calls that do not overlap, an answer says what the last
  read has shown, and at most four calls have gone past the register since;
* `event_kept`: in any interleaving, a BUFFER_AVAILABLE that the handler has dealt with leads to a
  read, unless a read has failed;
* `exists_stale`: with two devices there is no bound on the calls of one that go past the register.
-/

namespace BufStatus

open Tx (MGMT_SOFT_Q)

/-- `struct sdio_receive_info`, as far as it is about the buffers of the device -/
structure RxInfo where
  bufferFull : Bool
  semiBufferFull : Bool
  mgmtBufferFull : Bool
  mgmtBufFullCounter : BitVec 32
  bufSemiFullCounter : BitVec 32
  bufFullCounter : BitVec 32
  deriving DecidableEq, Repr

/-- `struct rsi_91x_sdiodev`, likewise -/
structure Dev where
  rxInfo : RxInfo
  buffStatusUpdated : Bool
  deriving DecidableEq, Repr

def QUEUE_NOT_FULL : ℤ := 1
def QUEUE_FULL : ℤ := 0

/-- `PKT_BUFF_SEMI_FULL`, `PKT_BUFF_FULL`, `PKT_MGMT_BUFF_FULL` -/
def PKT_BUFF_SEMI_FULL : ℕ := 0
def PKT_BUFF_FULL : ℕ := 1
def PKT_MGMT_BUFF_FULL : ℕ := 2

/-- A counter of how often a flag was raised -/
def risen (was full : Bool) (counter : BitVec 32) : BitVec 32 :=
  if full && !was then counter + 1 else counter

/-- The flags as a value of the register says. -/
def RxInfo.setFlags (info : RxInfo) (status : BitVec 8) : RxInfo where
  bufferFull := status.getLsbD PKT_BUFF_FULL
  semiBufferFull := status.getLsbD PKT_BUFF_SEMI_FULL
  mgmtBufferFull := status.getLsbD PKT_MGMT_BUFF_FULL
  mgmtBufFullCounter :=
    risen info.mgmtBufferFull (status.getLsbD PKT_MGMT_BUFF_FULL) info.mgmtBufFullCounter
  bufSemiFullCounter :=
    risen info.semiBufferFull (status.getLsbD PKT_BUFF_SEMI_FULL) info.bufSemiFullCounter
  bufFullCounter := risen info.bufferFull (status.getLsbD PKT_BUFF_FULL) info.bufFullCounter

/-- The answer behind `out` -/
def RxInfo.queueStatus (info : RxInfo) (qNum : ℕ) : ℤ :=
  if qNum = MGMT_SOFT_Q.val ∧ info.mgmtBufferFull = true then QUEUE_FULL
  else if qNum < MGMT_SOFT_Q.val ∧ info.bufferFull = true then QUEUE_FULL
  else QUEUE_NOT_FULL

/-- Where a call of `rsi_sdio_check_buffer_status` stands: the access that comes next. -/
inductive CheckPc
  /-- the test of `buff_status_updated` -/
  | testUpdated
  /-- the test of `counter` -/
  | testCounter
  /-- `counter--` reads the counter once more … -/
  | loadCounter
  /-- … and writes it. -/
  | decrement (loaded : BitVec 32)
  /-- `buff_status_updated = 0` -/
  | clearUpdated
  /-- the read of the register -/
  | readRegister
  | setFlags (status : BitVec 8)
  /-- the test of `semi_buffer_full` -/
  | testSemi
  | setCounter (value : BitVec 32)
  /-- the test of the flag of the queue -/
  | answer
  deriving DecidableEq, Repr

/-- The transmit thread of a device and its interrupt handler -/
inductive Thread (ι : Type*)
  | tx (i : ι)
  | isr (i : ι)
  deriving DecidableEq, Repr

def Thread.device {ι : Type*} : Thread ι → ι
  | .tx i => i
  | .isr i => i

/-- Inside a call for a queue, or between the call and `buff_status_updated = 1` in the handler -/
inductive Pc
  | check (qNum : ℕ) (pc : CheckPc)
  | setUpdated
  deriving DecidableEq, Repr

/-- What a call has answered, with what was known when it did. -/
structure Answer (ι : Type*) where
  device : ι
  qNum : ℕ
  status : ℤ
  /-- What the last read of the register has shown -/
  last : Option (BitVec 8)
  /-- The calls for the device that have gone past the register since -/
  stale : ℕ
  deriving DecidableEq, Repr

/-- The devices and the threads. -/
structure Sys (ι : Type*) where
  dev : ι → Dev
  /-- the static variable of `rsi_sdio_check_buffer_status` -/
  counter : BitVec 32
  /-- `RSI_DEVICE_BUFFER_STATUS_REGISTER` -/
  register : ι → BitVec 8
  pc : Thread ι → Option Pc
  /-- history: what the last read of the register has shown -/
  last : ι → Option (BitVec 8)
  /-- history: the calls that have gone past the register since -/
  stale : ι → ℕ
  /-- history: the handler has dealt with BUFFER_AVAILABLE since the last read. -/
  owed : ι → Bool
  /-- history: a read has failed since the last one that has not. -/
  failed : ι → Bool
  /-- history -/
  answers : List (Answer ι)

inductive Act (ι : Type*)
  /-- The device changes its register. -/
  | register (i : ι) (value : BitVec 8)
  /-- The transmit thread asks for a queue. -/
  | call (i : ι) (qNum : ℕ)
  /-- BUFFER_AVAILABLE -/
  | interrupt (i : ι)
  /-- The next access of a thread; a read of the register may fail. -/
  | access (t : Thread ι) (ok : Bool)
  deriving DecidableEq, Repr

namespace Sys

variable {ι : Type*} [DecidableEq ι]

def goto (s : Sys ι) (t : Thread ι) (pc : Option Pc) : Sys ι :=
  { s with pc := Function.update s.pc t pc }

def setDev (s : Sys ι) (i : ι) (dev : Dev) : Sys ι :=
  { s with dev := Function.update s.dev i dev }

/-- The call returns. The handler goes on with `buff_status_updated` if it has not failed. -/
def returns (s : Sys ι) (t : Thread ι) (status : ℤ) : Sys ι :=
  match t with
  | .tx _ => s.goto t none
  | .isr _ => s.goto t (if status < 0 then none else some .setUpdated)

/-- The register was read. -/
def sawRegister (s : Sys ι) (i : ι) : Sys ι :=
  { s with
    last := Function.update s.last i (some (s.register i))
    stale := Function.update s.stale i 0
    owed := Function.update s.owed i false
    failed := Function.update s.failed i false }

/-- The next access of `rsi_sdio_check_buffer_status`. -/
def checkStep (s : Sys ι) (t : Thread ι) (qNum : ℕ) (ok : Bool) : CheckPc → Sys ι
  | .testUpdated =>
    s.goto t (some (.check qNum
      (if (s.dev t.device).buffStatusUpdated then .clearUpdated else .testCounter)))
  | .testCounter =>
    s.goto t (some (.check qNum (if s.counter = 0 then .clearUpdated else .loadCounter)))
  | .loadCounter => s.goto t (some (.check qNum (.decrement s.counter)))
  | .decrement loaded =>
    { s with
      counter := loaded - 1
      stale := Function.update s.stale t.device (s.stale t.device + 1) }.goto t
        (some (.check qNum .answer))
  | .clearUpdated =>
    (s.setDev t.device { s.dev t.device with buffStatusUpdated := false }).goto t
      (some (.check qNum .readRegister))
  | .readRegister =>
    if ok then
      (s.sawRegister t.device).goto t (some (.check qNum (.setFlags (s.register t.device))))
    else { s with failed := Function.update s.failed t.device true }.returns t (-1)
  | .setFlags status =>
    (s.setDev t.device
      { s.dev t.device with rxInfo := (s.dev t.device).rxInfo.setFlags status }).goto t
        (some (.check qNum .testSemi))
  | .testSemi =>
    s.goto t (some (.check qNum
      (.setCounter (if (s.dev t.device).rxInfo.semiBufferFull then 1 else 4))))
  | .setCounter value => { s with counter := value }.goto t (some (.check qNum .answer))
  | .answer =>
    let status := (s.dev t.device).rxInfo.queueStatus qNum
    { s with
      answers := ⟨t.device, qNum, status, s.last t.device, s.stale t.device⟩ :: s.answers }.returns
        t status

/-- One step. -/
def step (s : Sys ι) : Act ι → Option (Sys ι)
  | .register i value => some { s with register := Function.update s.register i value }
  | .call i qNum =>
    if s.pc (.tx i) = none then some (s.goto (.tx i) (some (.check qNum .testUpdated))) else none
  | .interrupt i =>
    if s.pc (.isr i) = none then some (s.goto (.isr i) (some (.check 0 .testUpdated))) else none
  | .access t ok =>
    match s.pc t with
    | none => none
    | some (.check qNum pc) => some (s.checkStep t qNum ok pc)
    | some .setUpdated =>
      some ({ s.setDev t.device { s.dev t.device with buffStatusUpdated := true } with
        owed := Function.update s.owed t.device true }.goto t none)

/-- Devices that nothing has been read of, with any values in their registers. -/
structure Init (s : Sys ι) : Prop where
  dev : ∀ i, s.dev i = ⟨⟨false, false, false, 0, 0, 0⟩, false⟩
  counter : s.counter = 4
  pc : ∀ t, s.pc t = none
  last : ∀ i, s.last i = none
  stale : ∀ i, s.stale i = 0
  owed : ∀ i, s.owed i = false
  failed : ∀ i, s.failed i = false
  answers : s.answers = []

/-- The state behind the attachment of the devices. -/
def start (ι : Type*) (register : ι → BitVec 8) : Sys ι :=
  ⟨fun _ => ⟨⟨false, false, false, 0, 0, 0⟩, false⟩, 4, register, fun _ => none, fun _ => none,
    fun _ => 0, fun _ => false, fun _ => false, []⟩

omit [DecidableEq ι] in
theorem init_start (register : ι → BitVec 8) : (start ι register).Init :=
  ⟨fun _ => rfl, rfl, fun _ => rfl, fun _ => rfl, fun _ => rfl, fun _ => rfl, fun _ => rfl, rfl⟩

/-- The system. -/
def system (ι : Type*) [DecidableEq ι] : TransitionSystem (Sys ι) (Act ι) := ⟨Init, step⟩

end Sys

/-! ## Calls that do not overlap -/

/-- The bit of the register, or `false` before the first read. -/
def shown (last : Option (BitVec 8)) (k : ℕ) : Bool := (last.getD 0).getLsbD k

/-- The answer for a queue that a value of the register stands for -/
def statusOf (last : Option (BitVec 8)) (qNum : ℕ) : ℤ :=
  if qNum = MGMT_SOFT_Q.val ∧ shown last PKT_MGMT_BUFF_FULL = true then QUEUE_FULL
  else if qNum < MGMT_SOFT_Q.val ∧ shown last PKT_BUFF_FULL = true then QUEUE_FULL
  else QUEUE_NOT_FULL

/-- How many calls may go past the register -/
def limit (last : Option (BitVec 8)) : ℕ := if shown last PKT_BUFF_SEMI_FULL then 1 else 4

/-- The flags say what the last read has shown. -/
structure RxInfo.Shows (info : RxInfo) (last : Option (BitVec 8)) : Prop where
  buffer : info.bufferFull = shown last PKT_BUFF_FULL
  semi : info.semiBufferFull = shown last PKT_BUFF_SEMI_FULL
  mgmt : info.mgmtBufferFull = shown last PKT_MGMT_BUFF_FULL

theorem RxInfo.shows_setFlags (info : RxInfo) (status : BitVec 8) :
    (info.setFlags status).Shows (some status) := ⟨rfl, rfl, rfl⟩

theorem RxInfo.queueStatus_nonneg (info : RxInfo) (qNum : ℕ) : ¬ info.queueStatus qNum < 0 := by
  unfold RxInfo.queueStatus
  split
  · decide
  · split <;> decide

theorem RxInfo.Shows.queueStatus {info : RxInfo} {last : Option (BitVec 8)} (h : info.Shows last)
    (qNum : ℕ) : info.queueStatus qNum = statusOf last qNum := by
  rw [RxInfo.queueStatus, statusOf, h.buffer, h.mgmt]

/-- An answer says what the last read has shown, and not too many calls have gone past the register
since. -/
structure Answer.Current {ι : Type*} (a : Answer ι) : Prop where
  status : a.status = statusOf a.last a.qNum
  stale : a.stale ≤ limit a.last

namespace Sys

variable {ι : Type*} {s s' : Sys ι} {i : ι} {t : Thread ι} {qNum : ℕ} {pc : CheckPc}

/-- No call is under way. -/
def Idle (s : Sys ι) : Prop := ∀ t qNum pc, s.pc t ≠ some (.check qNum pc)

/-- The device between two calls -/
def Settled (s : Sys ι) (i : ι) : Prop :=
  (s.dev i).rxInfo.Shows (s.last i) ∧ s.stale i + s.counter.toNat = limit (s.last i)

/-- The device while a call is at `pc` -/
def During (s : Sys ι) (i : ι) : CheckPc → Prop
  | .loadCounter => s.Settled i ∧ s.counter ≠ 0
  | .decrement loaded => s.Settled i ∧ loaded = s.counter ∧ s.counter ≠ 0
  | .setFlags status => s.last i = some status ∧ s.stale i = 0
  | .testSemi => (s.dev i).rxInfo.Shows (s.last i) ∧ s.stale i = 0
  | .setCounter value =>
    (s.dev i).rxInfo.Shows (s.last i) ∧ s.stale i = 0 ∧ value.toNat = limit (s.last i)
  | .testUpdated | .testCounter | .clearUpdated | .readRegister | .answer => s.Settled i

/-- `t` is the only thread that can be inside a call. -/
def Only (s : Sys ι) (t : Thread ι) : Prop := ∀ t' qNum pc, s.pc t' = some (.check qNum pc) → t' = t

/-- The invariant of the runs whose calls do not overlap -/
structure CallInv (s : Sys ι) : Prop where
  single : ∀ t qNum pc, s.pc t = some (.check qNum pc) → s.Only t
  idle : s.Idle → ∀ i, s.Settled i
  during : ∀ t qNum pc, s.pc t = some (.check qNum pc) → s.During t.device pc
  answers : ∀ a ∈ s.answers, a.Current

/-- Only the flags, the counter and the two histories count. -/
theorem During.congr (h : s.During i pc) (hinfo : (s'.dev i).rxInfo = (s.dev i).rxInfo)
    (hcounter : s'.counter = s.counter) (hlast : s'.last = s.last) (hstale : s'.stale = s.stale) :
    s'.During i pc := by
  cases pc <;> simpa only [During, Settled, hinfo, hcounter, hlast, hstale] using h

variable [DecidableEq ι]

/-- A call begins only while no other one is under way. -/
def NoOverlap (s : Sys ι) : Act ι → Prop
  | .call .. | .interrupt _ => s.Idle
  | .register .. | .access .. => True

omit [DecidableEq ι] in
theorem Idle.only (h : s.Idle) (t : Thread ι) : s.Only t := fun t' qNum pc ht' =>
  absurd ht' (h t' qNum pc)

theorem goto_pc_self (s : Sys ι) (t : Thread ι) (next : Option Pc) :
    (s.goto t next).pc t = next := by simp [goto]

theorem goto_pc_of_ne (s : Sys ι) {t t' : Thread ι} (h : t' ≠ t) (next : Option Pc) :
    (s.goto t next).pc t' = s.pc t' := by simp [goto, h]

theorem returns_of_neg (s : Sys ι) {status : ℤ} (h : status < 0) :
    s.returns t status = s.goto t none := by
  cases t with
  | tx i => rfl
  | isr i => rw [returns, if_pos h]

theorem CallInv.goto (honly : s.Only t) (hduring : s.During t.device pc)
    (hanswers : ∀ a ∈ s.answers, a.Current) :
    CallInv (s.goto t (some (.check qNum pc))) := by
  have hthread : ∀ t' q p, (s.goto t (some (.check qNum pc))).pc t' = some (.check q p) →
      t' = t ∧ p = pc := by
    intro t' q p ht'
    by_cases heq : t' = t
    · subst heq
      rw [goto_pc_self] at ht'
      cases ht'
      exact ⟨rfl, rfl⟩
    · rw [goto_pc_of_ne s heq] at ht'
      exact absurd (honly t' q p ht') heq
  refine ⟨fun t' q p ht' t'' q' p' ht'' => ?_, fun hidle => ?_,
    fun t' q p ht' => ?_, hanswers⟩
  · rw [(hthread t' q p ht').1, (hthread t'' q' p' ht'').1]
  · exact absurd (goto_pc_self s t _) (hidle t qNum pc)
  · obtain ⟨rfl, rfl⟩ := hthread t' q p ht'
    cases p <;> exact hduring

/-- The last call has returned, to whatever its thread does next. -/
theorem CallInv.goto_idle [Subsingleton ι] (honly : s.Only t) (hsettled : s.Settled t.device)
    (hanswers : ∀ a ∈ s.answers, a.Current) {next : Option Pc}
    (hnext : ∀ qNum pc, next ≠ some (.check qNum pc)) : CallInv (s.goto t next) := by
  have hidle : (s.goto t next).Idle := by
    intro t' q p ht'
    by_cases heq : t' = t
    · subst heq
      rw [goto_pc_self] at ht'
      exact hnext q p ht'
    · rw [goto_pc_of_ne s heq] at ht'
      exact heq (honly t' q p ht')
  refine ⟨fun t' q p ht' => absurd ht' (hidle t' q p), fun _ i => ?_,
    fun t' q p ht' => absurd ht' (hidle t' q p), hanswers⟩
  obtain rfl : i = t.device := Subsingleton.elim _ _
  exact ⟨hsettled.1, hsettled.2⟩

theorem CallInv.returns [Subsingleton ι] (honly : s.Only t) (hsettled : s.Settled t.device)
    (hanswers : ∀ a ∈ s.answers, a.Current) (status : ℤ) : CallInv (s.returns t status) := by
  cases t with
  | tx i => exact CallInv.goto_idle honly hsettled hanswers fun _ _ h => by cases h
  | isr i =>
    refine CallInv.goto_idle honly hsettled hanswers fun _ _ h => ?_
    split at h <;> cases h

theorem toNat_sub_one_add_one {loaded : BitVec 32} (h : loaded ≠ 0) :
    (loaded - 1).toNat + 1 = loaded.toNat := by
  have hne : loaded.toNat ≠ 0 := fun h0 => h (BitVec.eq_of_toNat_eq h0)
  have hlt := loaded.isLt
  rw [BitVec.toNat_sub]
  simp only [BitVec.ofNat_eq_ofNat, BitVec.toNat_ofNat]
  omega

theorem limit_eq (last : Option (BitVec 8)) :
    (if shown last PKT_BUFF_SEMI_FULL then (1 : BitVec 32) else 4).toNat = limit last := by
  rw [limit]
  split <;> rfl

/-- **One access of a call.** -/
theorem CallInv.checkStep [Subsingleton ι] (h : s.CallInv) (ht : s.pc t = some (.check qNum pc))
    (ok : Bool) : (s.checkStep t qNum ok pc).CallInv := by
  have honly := h.single t qNum pc ht
  have hduring := h.during t qNum pc ht
  cases pc with
  | testUpdated =>
    refine CallInv.goto honly ?_ h.answers
    split <;> exact hduring
  | testCounter =>
    refine CallInv.goto honly ?_ h.answers
    by_cases hzero : s.counter = 0
    · rw [if_pos hzero]
      exact hduring
    · rw [if_neg hzero]
      exact ⟨hduring, hzero⟩
  | loadCounter => exact CallInv.goto honly ⟨hduring.1, rfl, hduring.2⟩ h.answers
  | decrement loaded =>
    -- one more call has gone past the register
    obtain ⟨⟨hshows, hcount⟩, rfl, hne⟩ := hduring
    have hsub := toNat_sub_one_add_one hne
    refine CallInv.goto (s := { s with
      counter := s.counter - 1
      stale := Function.update s.stale t.device (s.stale t.device + 1) }) honly ⟨hshows, ?_⟩
      h.answers
    have hstale : Function.update s.stale t.device (s.stale t.device + 1) t.device +
        (s.counter - 1).toNat = limit (s.last t.device) := by
      rw [Function.update_self, ← hcount]
      omega
    exact hstale
  | clearUpdated =>
    refine CallInv.goto (s := s.setDev t.device _) honly ?_ h.answers
    obtain ⟨hshows, hcount⟩ := hduring
    refine ⟨?_, hcount⟩
    simpa [setDev] using hshows
  | readRegister =>
    cases ok with
    | false =>
      -- the flags and the counter stay as they are
      exact CallInv.returns (s := { s with failed := Function.update s.failed t.device true }) honly
        hduring h.answers (-1)
    | true =>
      refine CallInv.goto (s := s.sawRegister t.device) honly ?_ h.answers
      exact ⟨by simp [sawRegister], by simp [sawRegister]⟩
  | setFlags status =>
    obtain ⟨hlast, hstale⟩ := hduring
    refine CallInv.goto (s := s.setDev t.device _) honly ⟨?_, hstale⟩ h.answers
    show ((s.setDev t.device _).dev t.device).rxInfo.Shows (s.last t.device)
    rw [hlast]
    simpa [setDev] using RxInfo.shows_setFlags (s.dev t.device).rxInfo status
  | testSemi =>
    obtain ⟨hshows, hstale⟩ := hduring
    refine CallInv.goto honly ⟨hshows, hstale, ?_⟩ h.answers
    rw [hshows.semi]
    exact limit_eq _
  | setCounter value =>
    obtain ⟨hshows, hstale, hvalue⟩ := hduring
    refine CallInv.goto (s := { s with counter := value }) honly ⟨hshows, ?_⟩ h.answers
    show s.stale t.device + value.toNat = _
    rw [hstale, Nat.zero_add]
    exact hvalue
  | answer =>
    obtain ⟨hshows, hcount⟩ := hduring
    refine CallInv.returns (s := { s with answers := _ :: s.answers }) honly ⟨hshows, hcount⟩ ?_ _
    refine List.forall_mem_cons.2 ⟨⟨hshows.queueStatus qNum, ?_⟩, h.answers⟩
    show s.stale t.device ≤ limit (s.last t.device)
    omega

/-- The handler leaves the flags and the counter alone, and is outside of its call. -/
theorem CallInv.setUpdated (h : s.CallInv) (ht : s.pc t = some .setUpdated) :
    ({ s.setDev t.device { s.dev t.device with buffStatusUpdated := true } with
      owed := Function.update s.owed t.device true }.goto t none).CallInv := by
  have hpc : ∀ t' qNum pc, Function.update s.pc t none t' = some (.check qNum pc) ↔
      s.pc t' = some (.check qNum pc) := by
    intro t' qNum pc
    by_cases heq : t' = t
    · subst heq
      simp [ht]
    · rw [Function.update_of_ne heq]
  have hinfo : ∀ i, (Function.update s.dev t.device
      { s.dev t.device with buffStatusUpdated := true } i).rxInfo = (s.dev i).rxInfo := by
    intro i
    by_cases heq : i = t.device
    · subst heq
      rw [Function.update_self]
    · rw [Function.update_of_ne heq]
  refine ⟨fun t' q p ht' t'' q' p' ht'' => ?_, fun hidle i => ?_, fun t' q p ht' => ?_, h.answers⟩
  · exact h.single t' q p ((hpc t' q p).1 ht') t'' q' p' ((hpc t'' q' p').1 ht'')
  · have hsettled : s.During i .answer :=
      h.idle (fun t' q p ht' => hidle t' q p ((hpc t' q p).2 ht')) i
    exact hsettled.congr (hinfo i) rfl rfl rfl
  · exact (h.during t' q p ((hpc t' q p).1 ht')).congr (hinfo _) rfl rfl rfl

omit [DecidableEq ι] in
theorem CallInv.init (h : s.Init) : s.CallInv := by
  have hnone : ∀ t qNum pc, s.pc t ≠ some (.check qNum pc) := fun t qNum pc ht => by
    rw [h.pc t] at ht
    cases ht
  refine ⟨fun t qNum pc ht => absurd ht (hnone t qNum pc), fun _ i => ?_,
    fun t qNum pc ht => absurd ht (hnone t qNum pc), by simp [h.answers]⟩
  rw [Settled, h.dev, h.last, h.stale, h.counter]
  exact ⟨⟨rfl, rfl, rfl⟩, rfl⟩

/-- **One step** of a run whose calls do not overlap. -/
theorem CallInv.step [Subsingleton ι] (h : s.CallInv) {a : Act ι} (ha : s.NoOverlap a)
    (hs : s.step a = some s') : s'.CallInv := by
  cases a with
  | register i value =>
    cases hs
    exact ⟨h.single, h.idle, fun t qNum pc ht => (h.during t qNum pc ht).congr rfl rfl rfl rfl,
      h.answers⟩
  | call i qNum =>
    rw [Sys.step] at hs
    split at hs
    · cases hs
      exact CallInv.goto (ha.only _) (h.idle ha i) h.answers
    · cases hs
  | interrupt i =>
    rw [Sys.step] at hs
    split at hs
    · cases hs
      exact CallInv.goto (ha.only _) (h.idle ha i) h.answers
    · cases hs
  | access t ok =>
    rw [Sys.step] at hs
    split at hs
    · cases hs
    · rename_i qNum pc ht
      cases hs
      exact h.checkStep ht ok
    · rename_i ht
      cases hs
      exact h.setUpdated ht

/-! ## Any interleaving -/

/-- A thread of the device is about to read the register. -/
def AtRegister (s : Sys ι) (i : ι) : Prop :=
  ∃ t qNum, t.device = i ∧ s.pc t = some (.check qNum .readRegister)

/-- An event that the handler has dealt with is in `buff_status_updated`, or a thread that has
cleared the flag has not come to the register yet, or a read has failed. -/
def EventKept (s : Sys ι) : Prop :=
  ∀ i, s.owed i = true → (s.dev i).buffStatusUpdated = true ∨ s.AtRegister i ∨ s.failed i = true

theorem AtRegister.goto (h : s.AtRegister i) (hpc : ∀ q, s.pc t ≠ some (.check q .readRegister))
    (next : Option Pc) : (s.goto t next).AtRegister i := by
  obtain ⟨t', q, hdevice, ht'⟩ := h
  have hne : t' ≠ t := by
    rintro rfl
    exact hpc q ht'
  exact ⟨t', q, hdevice, by rw [goto_pc_of_ne s hne, ht']⟩

/-- A thread that is not about to read moves on. -/
theorem EventKept.goto (h : s.EventKept) (hpc : ∀ q, s.pc t ≠ some (.check q .readRegister))
    (next : Option Pc) : (s.goto t next).EventKept := by
  intro i howed
  rcases h i howed with hupdated | hat | hfailed
  · exact .inl hupdated
  · exact .inr (.inl (hat.goto hpc next))
  · exact .inr (.inr hfailed)

theorem EventKept.returns (h : s.EventKept) (hpc : ∀ q, s.pc t ≠ some (.check q .readRegister))
    (status : ℤ) : (s.returns t status).EventKept := by
  cases t <;> exact h.goto hpc _

/-- What becomes of the flags does not matter. -/
theorem EventKept.setDev (h : s.EventKept) (i : ι) {dev : Dev}
    (hdev : (s.dev i).buffStatusUpdated = true → dev.buffStatusUpdated = true) :
    (s.setDev i dev).EventKept := by
  intro j howed
  rcases h j howed with hupdated | hat | hfailed
  · refine .inl ?_
    by_cases heq : j = i
    · subst heq
      simpa [Sys.setDev] using hdev hupdated
    · simpa [Sys.setDev, heq] using hupdated
  · exact .inr (.inl hat)
  · exact .inr (.inr hfailed)

/-- **One access of a call**, whatever the other threads are doing. -/
theorem EventKept.checkStep (h : s.EventKept) (ht : s.pc t = some (.check qNum pc)) (ok : Bool) :
    (s.checkStep t qNum ok pc).EventKept := by
  have hpc (hne : pc ≠ .readRegister) (q : ℕ) : s.pc t ≠ some (.check q .readRegister) := by
    rw [ht]
    exact fun heq => hne (by cases heq; rfl)
  cases pc with
  | testUpdated | testCounter | loadCounter | testSemi => exact h.goto (hpc (by decide)) _
  | decrement loaded =>
    exact EventKept.goto (s := { s with
      counter := loaded - 1
      stale := Function.update s.stale t.device (s.stale t.device + 1) }) h (hpc (by simp)) _
  | setCounter value =>
    exact EventKept.goto (s := { s with counter := value }) h (hpc (by simp)) _
  | answer =>
    exact EventKept.returns (s := { s with answers := _ :: s.answers }) h (hpc (by decide)) _
  | setFlags status =>
    have hset : (s.setDev t.device { s.dev t.device with
        rxInfo := (s.dev t.device).rxInfo.setFlags status }).EventKept :=
      h.setDev t.device fun hold => hold
    exact hset.goto (hpc (by simp)) _
  | clearUpdated =>
    intro i howed
    by_cases heq : i = t.device
    · -- the thread itself comes to the register next
      exact .inr (.inl ⟨t, qNum, heq.symm, goto_pc_self _ _ _⟩)
    · rcases h i howed with hupdated | hat | hfailed
      · exact .inl (by simpa [Sys.checkStep, Sys.goto, Sys.setDev, heq] using hupdated)
      · exact .inr (.inl (AtRegister.goto (s := s.setDev t.device _) hat (hpc (by decide)) _))
      · exact .inr (.inr hfailed)
  | readRegister =>
    -- of the other devices nothing changes
    have hother {i : ι} (hne : i ≠ t.device) (hat : s.AtRegister i) (s₁ : Sys ι)
        (hs₁ : s₁.pc = s.pc) (next : Option Pc) : (s₁.goto t next).AtRegister i := by
      obtain ⟨t', q, hdevice, ht'⟩ := hat
      have hthread : t' ≠ t := by
        rintro rfl
        exact hne hdevice.symm
      exact ⟨t', q, hdevice, by rw [goto_pc_of_ne s₁ hthread, hs₁, ht']⟩
    intro i howed
    cases ok with
    | true =>
      have hne : i ≠ t.device := by
        rintro rfl
        simp [Sys.checkStep, Sys.goto, Sys.sawRegister] at howed
      have howed' : s.owed i = true := by
        simpa [Sys.checkStep, Sys.goto, Sys.sawRegister, hne] using howed
      rcases h i howed' with hupdated | hat | hfailed
      · exact .inl hupdated
      · exact .inr (.inl (hother hne hat (s.sawRegister t.device) rfl _))
      · exact .inr (.inr (by simpa [Sys.checkStep, Sys.goto, Sys.sawRegister, hne] using hfailed))
    | false =>
      have hreturn : s.checkStep t qNum false .readRegister =
          { s with failed := Function.update s.failed t.device true }.goto t none :=
        returns_of_neg _ (by decide)
      rw [hreturn] at howed ⊢
      by_cases heq : i = t.device
      · subst heq
        exact .inr (.inr (by simp [Sys.goto]))
      · rcases h i howed with hupdated | hat | hfailed
        · exact .inl hupdated
        · exact .inr (.inl (hother heq hat _ rfl _))
        · exact .inr (.inr (by simpa [Sys.goto, heq] using hfailed))

/-- **One step**, whatever the threads are doing. -/
theorem EventKept.step (h : s.EventKept) {a : Act ι} (hs : s.step a = some s') : s'.EventKept := by
  cases a with
  | register i value =>
    cases hs
    exact h
  | call i qNum =>
    rw [Sys.step] at hs
    split at hs
    · rename_i hnone
      cases hs
      exact h.goto (by simp [hnone]) _
    · cases hs
  | interrupt i =>
    rw [Sys.step] at hs
    split at hs
    · rename_i hnone
      cases hs
      exact h.goto (by simp [hnone]) _
    · cases hs
  | access t ok =>
    rw [Sys.step] at hs
    split at hs
    · cases hs
    · rename_i qNum pc ht
      cases hs
      exact h.checkStep ht ok
    · rename_i ht
      cases hs
      intro i howed
      by_cases heq : i = t.device
      · subst heq
        exact .inl (by simp [Sys.goto, Sys.setDev])
      · have howed' : s.owed i = true := by simpa [Sys.goto, heq] using howed
        rcases h i howed' with hupdated | hat | hfailed
        · exact .inl (by simpa [Sys.goto, Sys.setDev, heq] using hupdated)
        · exact .inr (.inl (AtRegister.goto (s := { s.setDev t.device _ with
            owed := Function.update s.owed t.device true }) hat (by simp [Sys.setDev, ht]) none))
        · exact .inr (.inr hfailed)

/-! ## Whole calls -/

theorem goto_goto (s : Sys ι) (t : Thread ι) (next next' : Option Pc) :
    (s.goto t next).goto t next' = s.goto t next' := by simp [goto]

theorem goto_none (s : Sys ι) (h : s.pc t = none) : s.goto t none = s := by
  rw [goto, ← h, Function.update_eq_self]

theorem returns_goto (s : Sys ι) (t : Thread ι) (next : Option Pc) (status : ℤ) :
    (s.goto t next).returns t status = s.returns t status := by
  cases t <;> simp [returns, goto]

theorem answer_goto (s : Sys ι) (t : Thread ι) (qNum : ℕ) (ok : Bool) (next : Option Pc) :
    (s.goto t next).checkStep t qNum ok .answer = s.checkStep t qNum ok .answer :=
  returns_goto { s with answers := _ :: s.answers } t next _

theorem step_access (ht : s.pc t = some (.check qNum pc)) (ok : Bool) :
    (system ι).step s (.access t ok) = some (s.checkStep t qNum ok pc) := by
  simp [system, Sys.step, ht]

/-- A thread inside a call goes on. -/
theorem reach_next (h : (system ι).ReachableVia NoOverlap s) (ht : s.pc t = some (.check qNum pc))
    (hs : s.checkStep t qNum true pc = s') : (system ι).ReachableVia NoOverlap s' :=
  h.step (a := .access t true) trivial (hs ▸ step_access ht true)

/-- What a call that goes past the register leaves in front of its answer. -/
def passed (s : Sys ι) (i : ι) : Sys ι :=
  { s with counter := s.counter - 1, stale := Function.update s.stale i (s.stale i + 1) }

/-- A thread that has begun a call goes past the register. -/
theorem reach_pass (h : (system ι).ReachableVia NoOverlap s)
    (ht : s.pc t = some (.check qNum .testUpdated))
    (hupdated : (s.dev t.device).buffStatusUpdated = false) (hne : s.counter ≠ 0) :
    (system ι).ReachableVia NoOverlap ((s.passed t.device).checkStep t qNum true .answer) := by
  have htested : (system ι).ReachableVia NoOverlap (s.goto t (some (.check qNum .testCounter))) :=
    reach_next h ht (by simp [checkStep, hupdated])
  have hcounted : (system ι).ReachableVia NoOverlap (s.goto t (some (.check qNum .loadCounter))) :=
    reach_next htested (goto_pc_self _ _ _)
      (by rw [checkStep, if_neg (show (s.goto t _).counter ≠ 0 from hne), goto_goto])
  have hloaded : (system ι).ReachableVia NoOverlap
      (s.goto t (some (.check qNum (.decrement s.counter)))) :=
    reach_next hcounted (goto_pc_self _ _ _) (by simp [checkStep, goto])
  have hdecremented : (system ι).ReachableVia NoOverlap
      ((s.passed t.device).goto t (some (.check qNum .answer))) :=
    reach_next hloaded (goto_pc_self _ _ _) (by simp [checkStep, goto, passed])
  exact reach_next hdecremented (goto_pc_self _ _ _) (answer_goto _ _ _ _ _)

/-- What a call that reads the register leaves in front of its answer. -/
def seen (s : Sys ι) (i : ι) : Sys ι :=
  let info := (s.dev i).rxInfo.setFlags (s.register i)
  { (s.sawRegister i).setDev i ⟨info, false⟩ with
    counter := if info.semiBufferFull then 1 else 4 }

/-- A thread that has begun a call reads the register. -/
theorem reach_read (h : (system ι).ReachableVia NoOverlap s)
    (ht : s.pc t = some (.check qNum .testUpdated))
    (hupdated : (s.dev t.device).buffStatusUpdated = true) :
    (system ι).ReachableVia NoOverlap
      ((s.seen t.device).checkStep t qNum true .answer) := by
  have htested : (system ι).ReachableVia NoOverlap (s.goto t (some (.check qNum .clearUpdated))) :=
    reach_next h ht (by simp [checkStep, hupdated])
  have hcleared : (system ι).ReachableVia NoOverlap
      ((s.setDev t.device { s.dev t.device with buffStatusUpdated := false }).goto t
        (some (.check qNum .readRegister))) :=
    reach_next htested (goto_pc_self _ _ _) (by simp [checkStep, goto, setDev])
  have hread : (system ι).ReachableVia NoOverlap
      (((s.setDev t.device { s.dev t.device with buffStatusUpdated := false }).sawRegister
        t.device).goto t (some (.check qNum (.setFlags (s.register t.device))))) :=
    reach_next hcleared (goto_pc_self _ _ _) (by simp [checkStep, goto, setDev, sawRegister])
  have hflags : (system ι).ReachableVia NoOverlap
      (((s.sawRegister t.device).setDev t.device
        ⟨(s.dev t.device).rxInfo.setFlags (s.register t.device), false⟩).goto t
          (some (.check qNum .testSemi))) :=
    reach_next hread (goto_pc_self _ _ _) (by simp [checkStep, goto, setDev, sawRegister])
  have hsemi := reach_next hflags (goto_pc_self _ _ _) rfl
  have hcounter : (system ι).ReachableVia NoOverlap
      ((s.seen t.device).goto t (some (.check qNum .answer))) :=
    reach_next hsemi (goto_pc_self _ _ _)
      (by simp [checkStep, goto, setDev, sawRegister, seen])
  exact reach_next hcounter (goto_pc_self _ _ _) (answer_goto _ _ _ _ _)

/-- The call has answered and has returned. -/
def answered (s : Sys ι) (i : ι) (qNum : ℕ) : Sys ι :=
  { s with
    answers := ⟨i, qNum, (s.dev i).rxInfo.queueStatus qNum, s.last i, s.stale i⟩ :: s.answers }

/-- No thread is at anything. -/
def Resting (s : Sys ι) : Prop := ∀ t, s.pc t = none

omit [DecidableEq ι] in
theorem Resting.idle (h : s.Resting) : s.Idle := fun t q pc ht => by
  rw [h t] at ht
  cases ht

theorem answer_tx (h : s.Resting) (qNum : ℕ) (next : Option Pc) :
    (s.goto (.tx i) next).checkStep (.tx i) qNum true .answer = s.answered i qNum := by
  rw [answer_goto]
  exact goto_none (s.answered i qNum) (h (.tx i))

theorem answer_isr (s : Sys ι) (i : ι) (qNum : ℕ) (next : Option Pc) :
    (s.goto (.isr i) next).checkStep (.isr i) qNum true .answer =
      (s.answered i qNum).goto (.isr i) (some .setUpdated) := by
  rw [answer_goto]
  show (s.answered i qNum).returns (.isr i) _ = _
  rw [returns, if_neg (RxInfo.queueStatus_nonneg _ _)]

theorem reach_call (h : (system ι).ReachableVia NoOverlap s) (hrest : s.Resting) (i : ι)
    (qNum : ℕ) :
    (system ι).ReachableVia NoOverlap (s.goto (.tx i) (some (.check qNum .testUpdated))) := by
  refine h.step (a := .call i qNum) hrest.idle ?_
  simp [system, Sys.step, hrest (.tx i)]

/-- A call of the transmit thread that goes past the register -/
theorem call_passes (h : (system ι).ReachableVia NoOverlap s) (hrest : s.Resting)
    (hupdated : (s.dev i).buffStatusUpdated = false) (hne : s.counter ≠ 0) (qNum : ℕ) :
    (system ι).ReachableVia NoOverlap ((s.passed i).answered i qNum) := by
  have hcall := reach_pass (reach_call h hrest i qNum) (goto_pc_self _ _ _) hupdated hne
  rwa [← answer_tx (s := s.passed i) hrest qNum (some (.check qNum .testUpdated))]

/-- A call of the transmit thread that reads the register -/
theorem call_reads (h : (system ι).ReachableVia NoOverlap s) (hrest : s.Resting)
    (hupdated : (s.dev i).buffStatusUpdated = true) (qNum : ℕ) :
    (system ι).ReachableVia NoOverlap ((s.seen i).answered i qNum) := by
  have hcall := reach_read (reach_call h hrest i qNum) (goto_pc_self _ _ _) hupdated
  rwa [← answer_tx (s := s.seen i) hrest qNum (some (.check qNum .testUpdated))]

/-- The handler has dealt with BUFFER_AVAILABLE. -/
def handled (s : Sys ι) (i : ι) : Sys ι :=
  { s.setDev i { s.dev i with buffStatusUpdated := true } with
    owed := Function.update s.owed i true }

theorem step_setUpdated (ht : s.pc t = some .setUpdated) (ok : Bool) :
    (system ι).step s (.access t ok) = some ((s.handled t.device).goto t none) := by
  simp only [system, Sys.step, ht]
  rfl

/-- A BUFFER_AVAILABLE whose call goes past the register -/
theorem handler_passes (h : (system ι).ReachableVia NoOverlap s) (hrest : s.Resting)
    (hupdated : (s.dev i).buffStatusUpdated = false) (hne : s.counter ≠ 0) :
    (system ι).ReachableVia NoOverlap (((s.passed i).answered i 0).handled i) := by
  have hcall : (system ι).ReachableVia NoOverlap (s.goto (.isr i) (some (.check 0 .testUpdated))) :=
    h.step (a := .interrupt i) hrest.idle (by simp [system, Sys.step, hrest (.isr i)])
  have hanswer : (system ι).ReachableVia NoOverlap
      (((s.passed i).goto (.isr i) (some (.check 0 .testUpdated))).checkStep (.isr i) 0 true
        .answer) := reach_pass hcall (goto_pc_self _ _ _) hupdated hne
  rw [answer_isr] at hanswer
  -- the handler goes on with its flag
  have hset := hanswer.step (a := Act.access (.isr i) true) trivial
    (step_setUpdated (goto_pc_self _ _ _) true)
  have hback := goto_none (t := .isr i) (((s.passed i).answered i 0).handled i) (hrest (.isr i))
  rw [← hback, ← goto_goto _ (.isr i) (some .setUpdated)]
  exact hset

/-! ## What holds in every run -/

/-- **With one device, and calls that do not overlap**, every answer says what the last read of the
register has shown, and at most four calls have gone past the register since, or one if the device
was half full; whatever reads fail, and whatever the device does. -/
theorem answers_current [Subsingleton ι] (h : (system ι).ReachableVia NoOverlap s) :
    ∀ a ∈ s.answers, a.Current :=
  (h.invariant CallInv (fun _ => CallInv.init) fun _ _ _ hinv ha hs => hinv.step ha hs).answers

/-- One call, behind the attachment of the device -/
theorem answers_current_call :
    ∃ s : Sys Unit, s.answers ≠ [] ∧ ∀ a ∈ s.answers, a.Current := by
  have hcall := call_passes (i := ()) (.init (init_start fun _ => 0)) (fun _ => rfl) rfl
    (by decide) 0
  exact ⟨_, List.cons_ne_nil _ _, answers_current hcall⟩

/-- **A BUFFER_AVAILABLE that the handler has dealt with is not lost**, in any interleaving of the
threads of any number of devices: until the register is read, either `buff_status_updated` is set,
or a thread that has cleared it is about to read the register, or a read has failed. -/
theorem event_kept (h : (system ι).Reachable s) : s.EventKept := by
  refine h.invariant EventKept (fun s hinit i howed => ?_) fun _ _ _ hinv _ hs => hinv.step hs
  rw [hinit.owed] at howed
  cases howed

/-- One BUFFER_AVAILABLE -/
theorem event_kept_handled : ∃ s : Sys Unit, s.owed () = true ∧ s.EventKept := by
  have hevent := handler_passes (i := ()) (.init (init_start fun _ => 0)) (fun _ => rfl) rfl
    (by decide)
  exact ⟨_, by simp [handled], event_kept hevent.reachable⟩

/-! ## Two devices -/

/-- Between the calls: the first device has been full from the start, and nothing has ever been
read of it. -/
structure Unread (s : Sys Bool) (n : ℕ) : Prop where
  reachable : (system Bool).ReachableVia NoOverlap s
  resting : s.Resting
  counter : s.counter = 4
  register : s.register = fun i => if i then 0 else 0xff
  dev : s.dev false = ⟨⟨false, false, false, 0, 0, 0⟩, false⟩
  updated : (s.dev true).buffStatusUpdated = false
  last : s.last false = none
  stale : s.stale false = n
  failed : ∀ i, s.failed i = false

/-- The first device is asked, and the second one takes care of the counter. -/
theorem Unread.next {s : Sys Bool} {n : ℕ} (h : s.Unread n) :
    ∃ s' : Sys Bool, s'.Unread (n + 1) ∧
      ⟨false, 0, QUEUE_NOT_FULL, none, n + 1⟩ ∈ s'.answers := by
  have h₁ := call_passes (i := false) h.reachable h.resting (by rw [h.dev])
    (by rw [h.counter]; decide) 0
  have h₂ := handler_passes (i := true) h₁ h.resting h.updated
    (by simp [answered, passed, h.counter])
  have h₃ := call_reads (i := true) h₂ h.resting (by simp [handled, setDev]) 0
  refine ⟨_, ⟨h₃, h.resting, ?_, h.register, ?_, ?_, ?_, ?_, ?_⟩, ?_⟩
  · simp [answered, seen, setDev, handled, passed, sawRegister, h.register, RxInfo.setFlags]
  · simp [answered, seen, setDev, handled, passed, sawRegister, h.dev]
  · simp [answered, seen, setDev, handled, passed, sawRegister]
  · simp [answered, seen, setDev, handled, passed, sawRegister, h.last]
  · simp [answered, seen, setDev, handled, passed, sawRegister, h.stale]
  · intro i
    cases i <;> simp [answered, seen, setDev, handled, passed, sawRegister, h.failed]
  · simp [answered, seen, setDev, handled, passed, sawRegister, h.dev, h.last, h.stale,
      RxInfo.queueStatus]

end Sys

end BufStatus
