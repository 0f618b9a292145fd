import RsiDriver.PowerSave.PsState
import RsiDriver.ToMathlib.TransitionSystem

/-!
# The SDIO interrupt handler and suspend

`rsi_suspend` sets `suspend_in_prog` in a section of `rx_lock`, once it finds that no packet is
being read, and the interrupt handler looks at the flag in its own section. A handler that finds it
set says so, and goes on to read the interrupts like any other; and every handler unlocks `rx_lock`
again for each read of the status register, without having locked it.

The lock has no other users. A step of the model is a statement that reads or writes what the two
threads share; the wait for `tx_access_lock` is part of the test that follows it. Counters, the
events that the handler sets and `fsm_state`, which both write and neither reads, are left out, and
so are `rsi_freeze` and `rsi_shutdown`, which set the flag without the lock.

## Main results

* `excludesRx_of_guarded`: suspend excludes reception, if no handler unlocks into the section of
  `rsi_suspend` and no handler that has found the flag meets a packet;
* `unlocks_eq`, `not_matched_of_returned`: the locks and unlocks of the handlers;
* `suspendOk_iff_regular`: the runs of which the whole property holds.
-/

namespace SdioRx

namespace Suspend

open PowerSave (PsState)

/-! ## The handler -/

/-- `enum sdio_interrupt_type`, as far as it is used. -/
inductive SdioInterruptType
  | bufferAvailable
  | firmwareAssertInd
  | msduPacketPending
  | unknownInt
  deriving DecidableEq, Repr

/-- The value of the constant. -/
def SdioInterruptType.val : SdioInterruptType → ℕ
  | bufferAvailable => 2
  | firmwareAssertInd => 3
  | msduPacketPending => 4
  | unknownInt => 0xE

def PKT_BUFF_AVAILABLE : ℕ := 1

def FW_ASSERT_IND : ℕ := 2

def MSDU_PKT_PENDING : ℕ := 3

/-- `RSI_GET_SDIO_INTERRUPT_TYPE` -/
def getSdioInterruptType (isrStatus : BitVec 8) : SdioInterruptType :=
  if isrStatus.getLsbD PKT_BUFF_AVAILABLE then .bufferAvailable
  else if isrStatus.getLsbD MSDU_PKT_PENDING then .msduPacketPending
  else if isrStatus.getLsbD FW_ASSERT_IND then .firmwareAssertInd
  else .unknownInt

/-- Where a call of `rsi_interrupt_handler` stands. -/
inductive IsrPc
  | idle
  /-- Before `mutex_lock`. -/
  | lock
  /-- Before the test of `suspend_in_prog`. -/
  | test
  /-- Before the assignment to `rx_in_prog`, in either branch of the test. -/
  | enter
  /-- Before the `mutex_unlock` of the branch. -/
  | unlock
  /-- Before the read of `RSI_FN1_INT_REGISTER`. -/
  | readStatus
  /-- Before the `switch`, with what is left of the status. -/
  | dispatch (isrStatus : BitVec 8)
  /-- Inside `rsi_process_pkt`. -/
  | processPkt (isrStatus : BitVec 8)
  /-- Before the `mutex_unlock` of one of the three exits. -/
  | exitUnlock
  /-- Before the assignment to `rx_in_prog` and the return. -/
  | exitClear
  /-- Before the `mutex_unlock` behind the inner loop. -/
  | loopUnlock
  deriving DecidableEq, Repr

namespace IsrPc

/-- The section of `rx_lock` of the handler. -/
def inSection : IsrPc → Bool
  | test | enter | unlock => true
  | _ => false

/-- The assignment to `rx_in_prog` behind the test is done, the one of the return is not. -/
def entered : IsrPc → Bool
  | unlock | readStatus | dispatch _ | processPkt _ | exitUnlock | exitClear | loopUnlock => true
  | _ => false

/-- The test is done. -/
def tested : IsrPc → Bool
  | enter => true
  | pc => pc.entered

/-- The next statement is a `mutex_unlock` outside the section. -/
def unlocksAgain : IsrPc → Bool
  | exitUnlock | loopUnlock => true
  | _ => false

/-- The next statement is the call of `rsi_process_pkt`. -/
def startsRead : IsrPc → Bool
  | dispatch isrStatus => getSdioInterruptType isrStatus == .msduPacketPending
  | _ => false

/-- Between two unlocks of the double loop. -/
def inLoop : IsrPc → Bool
  | readStatus | dispatch _ | processPkt _ => true
  | _ => false

/-- The status was read, and the `mutex_unlock` that goes with it is ahead. -/
def owesUnlock : IsrPc → Bool
  | dispatch _ | processPkt _ | exitUnlock | loopUnlock => true
  | _ => false

/-- Behind the `switch`: `isr_status ^= BIT(isr_type - 1)`, and the inner loop goes on while there
is something left. -/
def next (isrStatus : BitVec 8) (isrType : SdioInterruptType) : IsrPc :=
  -- the default branch has cleared the status
  let isrStatus := if isrType = .unknownInt then 0 else isrStatus
  let isrStatus := isrStatus ^^^ (1#8 <<< (isrType.val - 1))
  if isrStatus = 0 then loopUnlock else dispatch isrStatus

/-- Behind the read of the status register; `none` if the read fails. -/
def ofStatus : Option (BitVec 8) → IsrPc
  | none => exitUnlock
  | some isrStatus => if isrStatus &&& 0xE = 0 then exitUnlock else dispatch (isrStatus &&& 0xE)

end IsrPc

/-! ## The two threads -/

/-- `-ENOSYS` -/
def ENOSYS : ℤ := -38

/-- Where a call of `rsi_suspend` stands, with `sleep_time`. -/
inductive SuspendPc
  /-- The last call has returned `ret`. -/
  | idle (ret : ℤ)
  /-- `CHECK_AGAIN` -/
  | lock (sleepTime : ℕ)
  /-- Before the condition. -/
  | check (sleepTime : ℕ)
  /-- Before the assignment to `suspend_in_prog`. -/
  | trigger
  /-- Before the `mutex_unlock` of the branch that suspends. -/
  | unlock
  /-- Before the `mutex_unlock` of the other branch. -/
  | unlockBusy (sleepTime : ℕ)
  deriving DecidableEq, Repr

/-- The section of `rx_lock` of `rsi_suspend`. -/
def SuspendPc.inSection : SuspendPc → Bool
  | check _ | trigger | unlock | unlockBusy _ => true
  | _ => false

/-- The users of `rx_lock`. -/
inductive Thread
  | isr
  | suspend
  deriving DecidableEq, Repr

/-- What the threads share, and where they stand. The last fields are histories. -/
structure Sys where
  /-- The owner of `rx_lock`. -/
  rxLock : Option Thread
  suspendInProg : Bool
  rxInProg : Bool
  isr : IsrPc
  suspend : SuspendPc
  /-- The call of the handler has found `suspend_in_prog` set. -/
  foundSuspend : Bool
  /-- The call of the handler has locked `rx_lock`, and not unlocked it since. -/
  isrLocked : Bool
  /-- A handler has started `rsi_process_pkt` while `suspend_in_prog` was set. -/
  readInSuspend : Bool
  /-- A handler has unlocked `rx_lock` without a lock of its own before. -/
  unmatched : Bool
  /-- A handler has unlocked `rx_lock` in the section of `rsi_suspend`. -/
  released : Bool
  /-- How often the handlers have locked `rx_lock`, unlocked it, read the status register, and
  returned. -/
  locks : ℕ
  unlocks : ℕ
  reads : ℕ
  returned : ℕ
  deriving DecidableEq, Repr

namespace Sys

/-- Before the first interrupt. -/
def start : Sys where
  rxLock := none
  suspendInProg := false
  rxInProg := false
  isr := .idle
  suspend := .idle 0
  foundSuspend := false
  isrLocked := false
  readInSuspend := false
  unmatched := false
  released := false
  locks := 0
  unlocks := 0
  reads := 0
  returned := 0

/-- `mutex_unlock` by the handler: it releases the lock, whoever owns it. -/
def isrUnlock (s : Sys) : Sys :=
  { s with
    rxLock := none
    isrLocked := false
    unmatched := s.unmatched || !s.isrLocked
    released := s.released || s.rxLock == some .suspend
    unlocks := s.unlocks + 1 }

/-- An interrupt. -/
def interrupt (s : Sys) : Option Sys :=
  if s.isr = .idle then some { s with isr := .lock, isrLocked := false } else none

/-- The next step of `rsi_interrupt_handler`. `register` is what the read of the status register
gives, and `status` what `rsi_process_pkt` returns. -/
def isrStep (s : Sys) (register : Option (BitVec 8)) (status : ℤ) : Option Sys :=
  match s.isr with
  | .idle => none
  | .lock =>
    if s.rxLock = none then
      some { s with
        rxLock := some .isr, isrLocked := true, locks := s.locks + 1, isr := .test }
    else none
  | .test => some { s with foundSuspend := s.suspendInProg, isr := .enter }
  | .enter => some { s with rxInProg := !s.foundSuspend, isr := .unlock }
  -- neither branch returns
  | .unlock => some { s.isrUnlock with isr := .readStatus }
  | .readStatus => some { s with reads := s.reads + 1, isr := .ofStatus register }
  | .dispatch isrStatus =>
    match getSdioInterruptType isrStatus with
    | .msduPacketPending =>
      some { s with
        readInSuspend := s.readInSuspend || s.suspendInProg, isr := .processPkt isrStatus }
    | isrType => some { s with isr := .next isrStatus isrType }
  | .processPkt isrStatus =>
    some { s with
      isr := if status ≠ 0 then .exitUnlock else .next isrStatus .msduPacketPending }
  | .exitUnlock => some { s.isrUnlock with isr := .exitClear }
  | .exitClear => some { s with rxInProg := false, returned := s.returned + 1, isr := .idle }
  | .loopUnlock => some { s.isrUnlock with isr := .readStatus }

/-- A call of `rsi_suspend`. -/
def callSuspend (s : Sys) : Option Sys :=
  match s.suspend with
  | .idle _ => some { s with suspend := .lock 200 }
  | _ => none

/-- The next step of `rsi_suspend`, with what `protocol_tx_access` returns and `ps_state`. -/
def suspendStep (s : Sys) (protocolTxAccess : Bool) (psState : PsState) : Option Sys :=
  match s.suspend with
  | .idle _ => none
  | .lock sleepTime =>
    if s.rxLock = none then some { s with rxLock := some .suspend, suspend := .check sleepTime }
    else none
  | .check sleepTime =>
    if !protocolTxAccess && !s.rxInProg && psState != .disableReqSent && psState != .enableReqSent
    then some { s with suspend := .trigger }
    else some { s with suspend := .unlockBusy sleepTime }
  | .trigger => some { s with suspendInProg := true, suspend := .unlock }
  | .unlock => some { s with rxLock := none, suspend := .idle 0 }
  | .unlockBusy sleepTime =>
    some { s with
      rxLock := none
      suspend := if sleepTime ≠ 0 then .lock (sleepTime - 10) else .idle ENOSYS }

/-- `rsi_resume`, which the core calls when `rsi_suspend` has returned. -/
def resume (s : Sys) : Option Sys :=
  match s.suspend with
  | .idle _ => some { s with suspendInProg := false }
  | _ => none

end Sys

/-- The choices of a schedule. -/
inductive Act
  | interrupt
  | isrStep (register : Option (BitVec 8)) (status : ℤ)
  | callSuspend
  | suspendStep (protocolTxAccess : Bool) (psState : PsState)
  | resume

/-- All interleavings of the handler and suspend. -/
def system : TransitionSystem Sys Act where
  Init s := s = .start
  step s
    | .interrupt => s.interrupt
    | .isrStep register status => s.isrStep register status
    | .callSuspend => s.callSuspend
    | .suspendStep protocolTxAccess psState => s.suspendStep protocolTxAccess psState
    | .resume => s.resume

/-- While `suspend_in_prog` is set, no packet is read. -/
structure ExcludesRx (s : Sys) : Prop where
  noRead : s.readInSuspend = false
  rxInProg : s.suspendInProg = true → s.rxInProg = false

/-- **The property**: suspend excludes reception, and a handler unlocks only what it has locked
itself, so that it never ends the section of `rsi_suspend`. -/
structure SuspendOk (s : Sys) : Prop extends ExcludesRx s where
  matched : s.unmatched = false
  notReleased : s.released = false

/-- A handler that has found `suspend_in_prog` meets no packet while it is set. -/
def MeetsNoPacket (s : Sys) : Prop :=
  ¬ (s.isr.startsRead = true ∧ s.foundSuspend = true ∧ s.suspendInProg = true)

/-- No handler unlocks for a second time in the section of `rsi_suspend`, and none that has found
`suspend_in_prog` meets a packet. -/
def Guarded (s : Sys) : Act → Prop
  | .isrStep _ _ =>
    ¬ (s.isr.unlocksAgain = true ∧ s.rxLock = some .suspend) ∧ MeetsNoPacket s
  | _ => True

/-- No handler gets to an unlock for a second time, and none that has found `suspend_in_prog` meets
a packet. -/
def Regular (s : Sys) : Act → Prop
  | .isrStep _ _ => s.isr.unlocksAgain = false ∧ MeetsNoPacket s
  | _ => True

instance (s : Sys) : Decidable (MeetsNoPacket s) := inferInstanceAs (Decidable (¬ _))

instance (s : Sys) (act : Act) : Decidable (Guarded s act) := by
  cases act <;> unfold Guarded <;> infer_instance

instance (s : Sys) (act : Act) : Decidable (Regular s act) := by
  cases act <;> unfold Regular <;> infer_instance

/-! ## What each step does -/

@[simp]
theorem owesUnlock_next (isrStatus : BitVec 8) (isrType : SdioInterruptType) :
    (IsrPc.next isrStatus isrType).owesUnlock = true := by
  rw [IsrPc.next]
  split_ifs <;> rfl

@[simp]
theorem owesUnlock_ofStatus (register : Option (BitVec 8)) :
    (IsrPc.ofStatus register).owesUnlock = true := by
  cases register with
  | none => rfl
  | some isrStatus =>
    rw [IsrPc.ofStatus]
    split <;> rfl

/-- Behind a read of the status, the handler has done its test and left its section. -/
theorem IsrPc.of_owesUnlock {pc : IsrPc} (h : pc.owesUnlock = true) :
    pc.entered = true ∧ pc.inSection = false := by
  cases pc <;> first | exact ⟨rfl, rfl⟩ | cases h

theorem IsrPc.of_inLoop {pc : IsrPc} (h : pc.inLoop = true) :
    pc.entered = true ∧ pc.inSection = false ∧ pc.unlocksAgain = false := by
  cases pc <;> first | exact ⟨rfl, rfl, rfl⟩ | cases h

theorem IsrPc.owesUnlock_of_unlocksAgain {pc : IsrPc} (h : pc.unlocksAgain = true) :
    pc.owesUnlock = true := by
  cases pc <;> first | rfl | cases h

theorem IsrPc.startsRead_of_unlocksAgain {pc : IsrPc} (h : pc.unlocksAgain = true) :
    pc.startsRead = false := by
  cases pc <;> first | rfl | cases h

theorem IsrPc.tested_of_entered {pc : IsrPc} (h : pc.entered = true) : pc.tested = true := by
  cases pc <;> first | rfl | cases h

theorem IsrPc.entered_of_tested {pc : IsrPc} (h : pc.tested = true)
    (hout : ¬ pc.inSection = true) : pc.entered = true := by
  cases pc with
  | enter => exact absurd rfl hout
  | _ => exact h

/-- What a step of the handler does. -/
inductive IsrMove (s : Sys) : Sys → Prop
  | lock (hpc : s.isr = .lock) (hfree : s.rxLock = none) :
      IsrMove s { s with
        rxLock := some .isr, isrLocked := true, locks := s.locks + 1, isr := .test }
  | test (hpc : s.isr = .test) :
      IsrMove s { s with foundSuspend := s.suspendInProg, isr := .enter }
  | enter (hpc : s.isr = .enter) :
      IsrMove s { s with rxInProg := !s.foundSuspend, isr := .unlock }
  | unlock (hpc : s.isr = .unlock) : IsrMove s { s.isrUnlock with isr := .readStatus }
  | loop {pc : IsrPc} {reads : ℕ} {readInSuspend : Bool}
      (hpc : s.isr.inLoop = true) (hnext : pc.owesUnlock = true)
      (hreads : reads + s.isr.owesUnlock.toNat = s.reads + 1)
      (hread : readInSuspend = (s.readInSuspend || s.isr.startsRead && s.suspendInProg)) :
      IsrMove s { s with readInSuspend, reads, isr := pc }
  | unlockAgain {pc : IsrPc} (hpc : s.isr.unlocksAgain = true)
      (hnext : pc = .exitClear ∨ pc = .readStatus) : IsrMove s { s.isrUnlock with isr := pc }
  | ret (hpc : s.isr = .exitClear) :
      IsrMove s { s with rxInProg := false, returned := s.returned + 1, isr := .idle }

theorem isrStep_cases {s s' : Sys} {register : Option (BitVec 8)} {status : ℤ}
    (h : s.isrStep register status = some s') : IsrMove s s' := by
  rw [Sys.isrStep] at h
  split at h
  next => cases h
  next hpc =>
    obtain ⟨hfree, heq⟩ := Option.ite_none_right_eq_some.1 h
    obtain rfl := Option.some.inj heq
    exact .lock hpc hfree
  next hpc =>
    obtain rfl := Option.some.inj h
    exact .test hpc
  next hpc =>
    obtain rfl := Option.some.inj h
    exact .enter hpc
  next hpc =>
    obtain rfl := Option.some.inj h
    exact .unlock hpc
  next hpc =>
    obtain rfl := Option.some.inj h
    have hquiet : s.isr.startsRead = false := by rw [hpc]; rfl
    apply IsrMove.loop (by rw [hpc]; rfl) (owesUnlock_ofStatus register)
    · rw [hpc]
      rfl
    · rw [hquiet, Bool.false_and, Bool.or_false]
  next isrStatus hpc =>
    have hloop : s.isr.inLoop = true := by rw [hpc]; rfl
    split at h
    next htype =>
      obtain rfl := Option.some.inj h
      apply IsrMove.loop hloop rfl
      · rw [hpc]
        rfl
      · rw [hpc, IsrPc.startsRead, htype]
        simp
    next isrType htype =>
      obtain rfl := Option.some.inj h
      apply IsrMove.loop hloop (owesUnlock_next isrStatus _)
      · rw [hpc]
        rfl
      · have hquiet : s.isr.startsRead = false := by
          rw [hpc]
          exact beq_eq_false_iff_ne.2 htype
        rw [hquiet, Bool.false_and, Bool.or_false]
  next isrStatus hpc =>
    obtain rfl := Option.some.inj h
    have hquiet : s.isr.startsRead = false := by rw [hpc]; rfl
    apply IsrMove.loop (by rw [hpc]; rfl)
    · split
      · rfl
      · exact owesUnlock_next isrStatus _
    · rw [hpc]
      rfl
    · rw [hquiet, Bool.false_and, Bool.or_false]
  next hpc =>
    obtain rfl := Option.some.inj h
    exact .unlockAgain (by rw [hpc]; rfl) (.inl rfl)
  next hpc =>
    obtain rfl := Option.some.inj h
    exact .ret hpc
  next hpc =>
    obtain rfl := Option.some.inj h
    exact .unlockAgain (by rw [hpc]; rfl) (.inr rfl)

/-- What a step of `rsi_suspend` does. -/
inductive SuspendMove (s : Sys) : Sys → Prop
  | lock {sleepTime : ℕ} (hpc : s.suspend = .lock sleepTime) (hfree : s.rxLock = none) :
      SuspendMove s { s with rxLock := some .suspend, suspend := .check sleepTime }
  /-- The condition holds or not. -/
  | check {sleepTime : ℕ} {pc : SuspendPc} (hpc : s.suspend = .check sleepTime)
      (hnext : pc.inSection = true) (htrigger : pc = .trigger → s.rxInProg = false) :
      SuspendMove s { s with suspend := pc }
  | trigger (hpc : s.suspend = .trigger) :
      SuspendMove s { s with suspendInProg := true, suspend := .unlock }
  | unlock {pc : SuspendPc} (hpc : s.suspend.inSection = true) (hnext : pc.inSection = false) :
      SuspendMove s { s with rxLock := none, suspend := pc }

theorem suspendStep_cases {s s' : Sys} {protocolTxAccess : Bool} {psState : PsState}
    (h : s.suspendStep protocolTxAccess psState = some s') : SuspendMove s s' := by
  rw [Sys.suspendStep] at h
  split at h
  next => cases h
  next sleepTime hpc =>
    obtain ⟨hfree, heq⟩ := Option.ite_none_right_eq_some.1 h
    obtain rfl := Option.some.inj heq
    exact .lock hpc hfree
  next sleepTime hpc =>
    split at h
    next hcond =>
      obtain rfl := Option.some.inj h
      apply SuspendMove.check hpc rfl
      intro _
      simp only [Bool.and_eq_true, Bool.not_eq_true'] at hcond
      exact hcond.1.1.2
    next =>
      obtain rfl := Option.some.inj h
      exact .check hpc rfl (fun htrigger => by cases htrigger)
  next hpc =>
    obtain rfl := Option.some.inj h
    exact .trigger hpc
  next hpc =>
    obtain rfl := Option.some.inj h
    exact .unlock (by rw [hpc]; rfl) rfl
  next sleepTime hpc =>
    obtain rfl := Option.some.inj h
    apply SuspendMove.unlock
    · rw [hpc]
      rfl
    · split <;> rfl

theorem callSuspend_cases {s s' : Sys} (h : s.callSuspend = some s') :
    s.suspend.inSection = false ∧ s' = { s with suspend := .lock 200 } := by
  rw [Sys.callSuspend] at h
  split at h
  next ret hpc =>
    obtain rfl := Option.some.inj h
    exact ⟨by rw [hpc]; rfl, rfl⟩
  next => cases h

theorem resume_cases {s s' : Sys} (h : s.resume = some s') :
    (∃ ret, s.suspend = .idle ret) ∧ s' = { s with suspendInProg := false } := by
  rw [Sys.resume] at h
  split at h
  next ret hpc =>
    obtain rfl := Option.some.inj h
    exact ⟨⟨ret, hpc⟩, rfl⟩
  next => cases h

theorem interrupt_cases {s s' : Sys} (h : s.interrupt = some s') :
    s.isr = .idle ∧ s' = { s with isr := .lock, isrLocked := false } := by
  obtain ⟨hpc, heq⟩ := Option.ite_none_right_eq_some.1 h
  exact ⟨hpc, (Option.some.inj heq).symm⟩

/-! ## Suspend excludes reception -/

/-- The lock belongs to the thread in its section; `rx_in_prog` tells that a handler is past its
test and has not found the flag, and no such handler is there while the flag is set or `rsi_suspend`
is about to set it. -/
structure SuspendInv (s : Sys) : Prop where
  isrSection : s.rxLock = some .isr ↔ s.isr.inSection = true
  suspendSection : s.rxLock = some .suspend ↔ s.suspend.inSection = true
  rxInProg : s.rxInProg = (s.isr.entered && !s.foundSuspend)
  trigger : s.suspend = .trigger → s.rxInProg = false
  found : s.suspendInProg = true → s.isr.tested = true → s.foundSuspend = true
  noRead : s.readInSuspend = false
  notReleased : s.released = false

namespace SuspendInv

variable {s s' : Sys}

theorem start : SuspendInv .start where
  isrSection := by decide
  suspendSection := by decide
  rxInProg := rfl
  trigger h := by cases h
  found h := by cases h
  noRead := rfl
  notReleased := rfl

theorem interrupt (hinv : SuspendInv s) (h : s.interrupt = some s') : SuspendInv s' := by
  obtain ⟨hpc, rfl⟩ := interrupt_cases h
  have hsection := hinv.isrSection
  have hrx := hinv.rxInProg
  rw [hpc] at hsection hrx
  exact { hinv with
    isrSection := hsection
    rxInProg := hrx
    found := fun _ htested => by cases htested }

/-- The sections exclude one another. -/
theorem not_suspendSection (hinv : SuspendInv s) (h : s.isr.inSection = true) :
    ¬ s.suspend.inSection = true := by
  intro hsuspend
  have hisr := hinv.isrSection.2 h
  have hother := hinv.suspendSection.2 hsuspend
  rw [hisr] at hother
  cases hother

/-- Nobody is in a section while the lock is free. -/
theorem outside_of_free (hinv : SuspendInv s) (hfree : s.rxLock = none) :
    ¬ s.isr.inSection = true ∧ ¬ s.suspend.inSection = true := by
  constructor
  · intro hsection
    have howner := hinv.isrSection.2 hsection
    rw [hfree] at howner
    cases howner
  · intro hsection
    have howner := hinv.suspendSection.2 hsection
    rw [hfree] at howner
    cases howner

/-- Outside the section of `rsi_suspend` the handler may unlock. -/
theorem isrUnlock (hinv : SuspendInv s) (hlock : s.rxLock ≠ some .suspend)
    (hentered : s.isr.entered = true) {pc : IsrPc} (hnext : pc.entered = true)
    (hout : pc.inSection = false) : SuspendInv { s.isrUnlock with isr := pc } where
  isrSection := by
    rw [hout]
    exact iff_of_false (by simp [Sys.isrUnlock]) Bool.false_ne_true
  suspendSection := by
    have hsuspend : ¬ s.suspend.inSection = true := fun h => hlock (hinv.suspendSection.2 h)
    exact iff_of_false (by simp [Sys.isrUnlock]) hsuspend
  rxInProg := by
    have hrx := hinv.rxInProg
    rw [hentered] at hrx
    rw [hnext]
    exact hrx
  trigger := hinv.trigger
  found hsuspend _ := hinv.found hsuspend (IsrPc.tested_of_entered hentered)
  noRead := hinv.noRead
  notReleased := by
    show (s.released || s.rxLock == some .suspend) = false
    rw [hinv.notReleased, Bool.false_or]
    exact beq_eq_false_iff_ne.2 hlock

/-- Between two unlocks of the double loop, a packet is met only by a handler that has not found
`suspend_in_prog`, and then the flag is not set. -/
theorem loop (hinv : SuspendInv s) (hmeets : MeetsNoPacket s) (hpc : s.isr.inLoop = true)
    {pc : IsrPc} (hnext : pc.owesUnlock = true) (reads : ℕ) {readInSuspend : Bool}
    (hread : readInSuspend = (s.readInSuspend || s.isr.startsRead && s.suspendInProg)) :
    SuspendInv { s with readInSuspend, reads, isr := pc } := by
  obtain ⟨hentered', hout'⟩ := IsrPc.of_owesUnlock hnext
  obtain ⟨hentered, hout, -⟩ := IsrPc.of_inLoop hpc
  have hrx := hinv.rxInProg
  rw [hentered] at hrx
  have hsection := hinv.isrSection
  rw [hout] at hsection
  have hquiet : (s.isr.startsRead && s.suspendInProg) = false := by
    apply Bool.eq_false_iff.2
    intro hboth
    obtain ⟨hstarts, hsuspend⟩ := Bool.and_eq_true_iff.1 hboth
    have hfound := hinv.found hsuspend (IsrPc.tested_of_entered hentered)
    exact hmeets ⟨hstarts, hfound, hsuspend⟩
  exact { hinv with
    isrSection := hsection.trans (by rw [hout'])
    rxInProg := hrx.trans (by rw [hentered'])
    found := fun hsuspend _ => hinv.found hsuspend (IsrPc.tested_of_entered hentered)
    noRead := by rw [hread, hinv.noRead, hquiet]; rfl }

theorem isrStep (hinv : SuspendInv s) {register : Option (BitVec 8)} {status : ℤ}
    (hguard : Guarded s (.isrStep register status)) (h : s.isrStep register status = some s') :
    SuspendInv s' := by
  have hrx := hinv.rxInProg
  cases isrStep_cases h with
  | lock hpc hfree =>
    rw [hpc] at hrx
    obtain ⟨-, hsuspend⟩ := hinv.outside_of_free hfree
    exact { hinv with
      isrSection := iff_of_true rfl rfl
      suspendSection := iff_of_false (by simp) hsuspend
      rxInProg := hrx
      found := fun _ htested => by cases htested }
  | test hpc =>
    have hsection := hinv.isrSection
    rw [hpc] at hsection hrx
    exact { hinv with
      isrSection := hsection
      rxInProg := hrx
      found := fun hsuspend _ => hsuspend }
  | enter hpc =>
    have hin : s.isr.inSection = true := by rw [hpc]; rfl
    have hout := hinv.not_suspendSection hin
    exact { hinv with
      isrSection := iff_of_true (hinv.isrSection.2 hin) rfl
      rxInProg := rfl
      trigger := fun htrigger => by
        have hpm : s.suspend = .trigger := htrigger
        rw [hpm] at hout
        exact absurd rfl hout
      found := fun hsuspend _ => hinv.found hsuspend (by rw [hpc]; rfl) }
  | unlock hpc =>
    have hin : s.isr.inSection = true := by rw [hpc]; rfl
    apply hinv.isrUnlock _ (by rw [hpc]; rfl) rfl rfl
    rw [hinv.isrSection.2 hin]
    decide
  | loop hpc hnext _ hread => exact hinv.loop hguard.2 hpc hnext _ hread
  | unlockAgain hpc hnext =>
    have hlock : s.rxLock ≠ some .suspend := fun h => hguard.1 ⟨hpc, h⟩
    have hentered := (IsrPc.of_owesUnlock (IsrPc.owesUnlock_of_unlocksAgain hpc)).1
    rcases hnext with rfl | rfl
    · exact hinv.isrUnlock hlock hentered rfl rfl
    · exact hinv.isrUnlock hlock hentered rfl rfl
  | ret hpc =>
    have hsection := hinv.isrSection
    rw [hpc] at hsection
    exact { hinv with
      isrSection := hsection
      rxInProg := rfl
      trigger := fun _ => rfl
      found := fun _ htested => by cases htested }

theorem callSuspend (hinv : SuspendInv s) (h : s.callSuspend = some s') : SuspendInv s' := by
  obtain ⟨hout, rfl⟩ := callSuspend_cases h
  have hsection := hinv.suspendSection
  rw [hout] at hsection
  exact { hinv with
    suspendSection := hsection
    trigger := fun htrigger => by cases htrigger }

theorem suspendStep (hinv : SuspendInv s) {protocolTxAccess : Bool} {psState : PsState}
    (h : s.suspendStep protocolTxAccess psState = some s') : SuspendInv s' := by
  cases suspendStep_cases h with
  | lock hpc hfree =>
    obtain ⟨hisr, -⟩ := hinv.outside_of_free hfree
    exact { hinv with
      isrSection := iff_of_false (by simp) hisr
      suspendSection := iff_of_true rfl rfl
      trigger := fun htrigger => by cases htrigger }
  | check hpc hnext htrigger =>
    have hin : s.suspend.inSection = true := by rw [hpc]; rfl
    exact { hinv with
      suspendSection := iff_of_true (hinv.suspendSection.2 hin) hnext
      trigger := htrigger }
  | trigger hpc =>
    have hin : s.suspend.inSection = true := by rw [hpc]; rfl
    have hidle : s.rxInProg = false := hinv.trigger hpc
    exact { hinv with
      suspendSection := iff_of_true (hinv.suspendSection.2 hin) rfl
      trigger := fun _ => hidle
      found := fun _ htested => by
        -- a handler that has done its test is out of its section, since `rsi_suspend` is in its own
        have hisr : ¬ s.isr.inSection = true := fun h => hinv.not_suspendSection h hin
        have hentered : s.isr.entered = true := IsrPc.entered_of_tested htested hisr
        have hrx := hinv.rxInProg
        rw [hidle, hentered, Bool.true_and] at hrx
        exact Bool.not_eq_eq_eq_not.1 hrx.symm }
  | @unlock pc hpc hnext =>
    have hisr : ¬ s.isr.inSection = true := fun h => hinv.not_suspendSection h hpc
    exact { hinv with
      isrSection := iff_of_false (by simp) hisr
      suspendSection := iff_of_false (by simp) (by rw [hnext]; exact Bool.false_ne_true)
      trigger := fun htrigger => by
        have hpm : pc = .trigger := htrigger
        rw [hpm] at hnext
        cases hnext }

theorem resume (hinv : SuspendInv s) (h : s.resume = some s') : SuspendInv s' := by
  obtain ⟨-, rfl⟩ := resume_cases h
  exact { hinv with found := fun hsuspend => by cases hsuspend }

/-- One step of either thread. -/
theorem step (hinv : SuspendInv s) {act : Act} (hguard : Guarded s act)
    (h : system.step s act = some s') : SuspendInv s' := by
  cases act with
  | interrupt => exact hinv.interrupt h
  | isrStep register status => exact hinv.isrStep hguard h
  | callSuspend => exact hinv.callSuspend h
  | suspendStep protocolTxAccess psState => exact hinv.suspendStep h
  | resume => exact hinv.resume h

theorem of_guarded (h : system.ReachableVia Guarded s) : SuspendInv s :=
  h.invariant SuspendInv (fun _ hs => hs ▸ .start) fun _ _ _ hinv hguard hstep =>
    hinv.step hguard hstep

theorem excludesRx (hinv : SuspendInv s) : ExcludesRx s where
  noRead := hinv.noRead
  rxInProg hsuspend := by
    rw [hinv.rxInProg]
    cases hentered : s.isr.entered with
    | false => rfl
    | true =>
      rw [hinv.found hsuspend (IsrPc.tested_of_entered hentered)]
      rfl

end SuspendInv

/-- Suspend excludes reception, and its section is its own, in the runs in which no handler unlocks
into the section and none that has found the flag meets a packet. -/
theorem excludesRx_of_guarded {s : Sys} (h : system.ReachableVia Guarded s) :
    ExcludesRx s ∧ s.released = false :=
  ⟨(SuspendInv.of_guarded h).excludesRx, (SuspendInv.of_guarded h).notReleased⟩

/-! ## The locks and unlocks of the handlers -/

/-- A handler owns a lock of its own in its section only; each lock, and each read of the status, is
followed by one unlock; and no handler returns without an unlock outside its section. -/
structure CountInv (s : Sys) : Prop where
  isrLocked : s.isrLocked = s.isr.inSection
  balance : s.unlocks + (s.isr.inSection || s.isr.owesUnlock).toNat = s.locks + s.reads
  returned : s.isr = .exitClear ∨ 0 < s.returned → s.unmatched = true

namespace CountInv

variable {s s' : Sys}

theorem start : CountInv .start where
  isrLocked := rfl
  balance := rfl
  returned h := by
    rcases h with h | h
    · cases h
    · cases h

/-- Steps that are not the handler's. -/
theorem congr (hinv : CountInv s) (hisr : s'.isr = s.isr) (hlocked : s'.isrLocked = s.isrLocked)
    (hunlocks : s'.unlocks = s.unlocks) (hlocks : s'.locks = s.locks) (hreads : s'.reads = s.reads)
    (hreturned : s'.returned = s.returned) (hunmatched : s'.unmatched = s.unmatched) :
    CountInv s' where
  isrLocked := by rw [hlocked, hisr, hinv.isrLocked]
  balance := by rw [hunlocks, hisr, hlocks, hreads, hinv.balance]
  returned := by rw [hisr, hreturned, hunmatched]; exact hinv.returned

/-- Steps that do not lead to the return. -/
theorem returned_of_ne (hinv : CountInv s) (hne : s'.isr ≠ .exitClear)
    (hreturned : s'.returned = s.returned)
    (hunmatched : s.unmatched = true → s'.unmatched = true) :
    s'.isr = .exitClear ∨ 0 < s'.returned → s'.unmatched = true := by
  rintro (hclear | hret)
  · exact absurd hclear hne
  · rw [hreturned] at hret
    exact hunmatched (hinv.returned (.inr hret))

theorem interrupt (hinv : CountInv s) (h : s.interrupt = some s') : CountInv s' := by
  obtain ⟨hpc, rfl⟩ := interrupt_cases h
  have hbalance := hinv.balance
  rw [hpc] at hbalance
  exact ⟨rfl, hbalance, hinv.returned_of_ne (by simp) rfl id⟩

/-- Outside the section an unlock is unmatched. -/
theorem unmatched_isrUnlock (hinv : CountInv s) (h : s.isr.inSection = false) :
    s.isrUnlock.unmatched = true := by
  show (s.unmatched || !s.isrLocked) = true
  rw [hinv.isrLocked, h]
  simp

theorem isrStep (hinv : CountInv s) {register : Option (BitVec 8)} {status : ℤ}
    (h : s.isrStep register status = some s') : CountInv s' := by
  have hlocked := hinv.isrLocked
  have hbalance := hinv.balance
  cases isrStep_cases h with
  | lock hpc _ =>
    rw [hpc] at hbalance
    refine ⟨rfl, ?_, ?_⟩
    · show s.unlocks + 1 = s.locks + 1 + s.reads
      have hidle : s.unlocks + 0 = s.locks + s.reads := hbalance
      omega
    · exact hinv.returned_of_ne (by simp) rfl id
  | test hpc | enter hpc =>
    rw [hpc] at hlocked hbalance
    exact ⟨hlocked, hbalance, hinv.returned_of_ne (by simp) rfl id⟩
  | unlock hpc =>
    rw [hpc] at hbalance
    refine ⟨rfl, hbalance, hinv.returned_of_ne (by simp) rfl ?_⟩
    intro hunmatched
    show (s.unmatched || !s.isrLocked) = true
    rw [hunmatched]
    rfl
  | @loop pc reads _ hpc hnext hreads _ =>
    obtain ⟨-, hout'⟩ := IsrPc.of_owesUnlock hnext
    obtain ⟨-, hout, -⟩ := IsrPc.of_inLoop hpc
    refine ⟨hlocked.trans (by rw [hout, hout']), ?_, ?_⟩
    · show s.unlocks + (pc.inSection || pc.owesUnlock).toNat = s.locks + reads
      rw [hout, Bool.false_or] at hbalance
      rw [hout', hnext, Bool.false_or, Bool.toNat_true]
      omega
    · refine hinv.returned_of_ne (fun hclear => ?_) rfl id
      have hpc' : pc = .exitClear := hclear
      rw [hpc'] at hnext
      cases hnext
  | unlockAgain hpc hnext =>
    have howes := IsrPc.owesUnlock_of_unlocksAgain hpc
    have hout := (IsrPc.of_owesUnlock howes).2
    have hunmatched := hinv.unmatched_isrUnlock hout
    rw [hout, howes] at hbalance
    rcases hnext with rfl | rfl
    · exact ⟨rfl, hbalance, fun _ => hunmatched⟩
    · exact ⟨rfl, hbalance, fun _ => hunmatched⟩
  | ret hpc =>
    rw [hpc] at hlocked hbalance
    exact ⟨hlocked, hbalance, fun _ => hinv.returned (.inl hpc)⟩

theorem step (hinv : CountInv s) {act : Act} (h : system.step s act = some s') : CountInv s' := by
  cases act with
  | interrupt => exact hinv.interrupt h
  | isrStep register status => exact hinv.isrStep h
  | callSuspend =>
    obtain ⟨-, rfl⟩ := callSuspend_cases h
    exact hinv.congr rfl rfl rfl rfl rfl rfl rfl
  | suspendStep protocolTxAccess psState =>
    cases suspendStep_cases h <;> exact hinv.congr rfl rfl rfl rfl rfl rfl rfl
  | resume =>
    obtain ⟨-, rfl⟩ := resume_cases h
    exact hinv.congr rfl rfl rfl rfl rfl rfl rfl

theorem of_reachable (h : system.Reachable s) : CountInv s :=
  h.invariant CountInv (fun _ hs => hs ▸ .start) fun _ _ _ hinv _ hstep => hinv.step hstep

end CountInv

/-- Between two calls, the handlers have unlocked once for each lock and once for each read of the
status register. -/
theorem unlocks_eq {s : Sys} (h : system.Reachable s) (hidle : s.isr = .idle) :
    s.unlocks = s.locks + s.reads := by
  have hbalance := (CountInv.of_reachable h).balance
  rw [hidle] at hbalance
  exact hbalance

/-- No handler returns without an unlock that no lock of its own goes with. -/
theorem not_matched_of_returned {s : Sys} (h : system.Reachable s) (hreturned : 0 < s.returned) :
    s.unmatched = true :=
  (CountInv.of_reachable h).returned (.inr hreturned)

/-- What a step of the handler adds to the histories. -/
theorem isrStep_histories {s s' : Sys} (hinv : CountInv s) {register : Option (BitVec 8)}
    {status : ℤ} (h : s.isrStep register status = some s') :
    s'.unmatched = (s.unmatched || s.isr.unlocksAgain) ∧
      s'.readInSuspend = (s.readInSuspend || s.isr.startsRead && s.suspendInProg) := by
  cases isrStep_cases h with
  | lock hpc | test hpc | enter hpc | ret hpc =>
    rw [hpc]
    exact ⟨(Bool.or_false _).symm, (Bool.or_false _).symm⟩
  | unlock hpc =>
    refine ⟨?_, ?_⟩
    · show (s.unmatched || !s.isrLocked) = _
      rw [hinv.isrLocked, hpc]
      rfl
    · rw [hpc]
      exact (Bool.or_false _).symm
  | loop hpc _ _ hread =>
    obtain ⟨-, -, hagain⟩ := IsrPc.of_inLoop hpc
    rw [hagain]
    exact ⟨(Bool.or_false _).symm, hread⟩
  | unlockAgain hpc hnext =>
    have hout := (IsrPc.of_owesUnlock (IsrPc.owesUnlock_of_unlocksAgain hpc)).2
    refine ⟨?_, ?_⟩
    · rw [hpc, Bool.or_true]
      exact hinv.unmatched_isrUnlock hout
    · rw [IsrPc.startsRead_of_unlocksAgain hpc]
      exact (Bool.or_false _).symm

/-- The histories of a run only grow. -/
theorem step_histories {s s' : Sys} (hinv : CountInv s) {act : Act}
    (h : system.step s act = some s') (hmatched : s'.unmatched = false)
    (hread : s'.readInSuspend = false) :
    s.unmatched = false ∧ s.readInSuspend = false ∧ Regular s act := by
  cases act with
  | interrupt =>
    obtain ⟨-, rfl⟩ := interrupt_cases h
    exact ⟨hmatched, hread, trivial⟩
  | isrStep register status =>
    obtain ⟨hm, hr⟩ := isrStep_histories hinv h
    rw [hm, Bool.or_eq_false_iff] at hmatched
    rw [hr, Bool.or_eq_false_iff] at hread
    refine ⟨hmatched.1, hread.1, hmatched.2, ?_⟩
    rintro ⟨hstarts, -, hsuspend⟩
    rw [hstarts, hsuspend] at hread
    cases hread.2
  | callSuspend =>
    obtain ⟨-, rfl⟩ := callSuspend_cases h
    exact ⟨hmatched, hread, trivial⟩
  | suspendStep protocolTxAccess psState =>
    cases suspendStep_cases h <;> exact ⟨hmatched, hread, trivial⟩
  | resume =>
    obtain ⟨-, rfl⟩ := resume_cases h
    exact ⟨hmatched, hread, trivial⟩

/-- No unlock is unmatched in the runs in which no handler gets to one. -/
theorem matched_of_regular {s : Sys} (h : system.ReachableVia Regular s) : s.unmatched = false := by
  have hboth : CountInv s ∧ s.unmatched = false := by
    refine h.invariant (fun s => CountInv s ∧ s.unmatched = false) ?_ ?_
    · rintro s rfl
      exact ⟨.start, rfl⟩
    · rintro s act s' ⟨hinv, hmatched⟩ hregular hstep
      refine ⟨hinv.step hstep, ?_⟩
      cases act with
      | interrupt =>
        obtain ⟨-, rfl⟩ := interrupt_cases hstep
        exact hmatched
      | isrStep register status =>
        rw [(isrStep_histories hinv hstep).1, hmatched, hregular.1]
        rfl
      | callSuspend =>
        obtain ⟨-, rfl⟩ := callSuspend_cases hstep
        exact hmatched
      | suspendStep protocolTxAccess psState =>
        cases suspendStep_cases hstep <;> exact hmatched
      | resume =>
        obtain ⟨-, rfl⟩ := resume_cases hstep
        exact hmatched
  exact hboth.2

theorem guarded_of_regular {s : Sys} {act : Act} (h : Regular s act) : Guarded s act := by
  cases act with
  | isrStep register status =>
    refine ⟨?_, h.2⟩
    rintro ⟨hagain, -⟩
    rw [h.1] at hagain
    cases hagain
  | _ => trivial

/-- **Suspend and the handler**: of the states that runs reach, the property holds in those that are
reached by `Regular` steps. No handler has then got to an unlock for a second time, and none that
had found `suspend_in_prog` has met a packet while it was set. -/
theorem suspendOk_iff_regular {s : Sys} (h : system.Reachable s) :
    SuspendOk s ↔ system.ReachableVia Regular s := by
  constructor
  · intro hok
    have hmatched := hok.matched
    have hread := hok.noRead
    clear hok
    induction h with
    | init hs => exact .init hs
    | step hreach _ hstep ih =>
      obtain ⟨hm, hr, hregular⟩ :=
        step_histories (CountInv.of_reachable hreach) hstep hmatched hread
      exact .step (ih hm hr) hregular hstep
  · intro hregular
    obtain ⟨hexcludes, hreleased⟩ :=
      excludesRx_of_guarded (hregular.mono fun _ _ => guarded_of_regular)
    exact ⟨hexcludes, matched_of_regular hregular, hreleased⟩

/-- `rsi_suspend`, from the call to the return. -/
def suspendSchedule : List Act :=
  [.callSuspend, .suspendStep false .none, .suspendStep false .none, .suspendStep false .none,
    .suspendStep false .none]

/-- A handler up to its first look at the status `isrStatus`. -/
def handlerSchedule (isrStatus : BitVec 8) : List Act :=
  [.interrupt, .isrStep none 0, .isrStep none 0, .isrStep none 0, .isrStep none 0,
    .isrStep (some isrStatus) 0, .isrStep none 0]

/-- The device is suspended, and reports room in its buffers and an assert of the firmware. -/
def suspendedState : Sys :=
  (system.runVia Regular .start (suspendSchedule ++ handlerSchedule 6)).get rfl

theorem suspendOk_suspendedState :
    suspendedState.suspendInProg = true ∧ suspendedState.isr = .dispatch 4 ∧
      SuspendOk suspendedState := by
  have hregular : system.ReachableVia Regular suspendedState :=
    TransitionSystem.reachableVia_get rfl rfl
  exact ⟨rfl, rfl, (suspendOk_iff_regular hregular.reachable).2 hregular⟩

/-- The device is suspended, and reports a packet: the handler reads it. -/
theorem not_suspendOk : ¬ ∀ s, system.Reachable s → SuspendOk s := by
  refine TransitionSystem.not_forall_reachable_of_run (suspendSchedule ++ handlerSchedule 8)
    rfl rfl fun hok => ?_
  have hread := hok.noRead
  cases hread

end Suspend

end SdioRx
