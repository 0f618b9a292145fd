import Mathlib.Data.Nat.Notation
import Mathlib.Tactic.SplitIfs
import RsiDriver.PowerSave.TxAccess
import RsiDriver.ToMathlib.LockTrace
import RsiDriver.Usb.RxUrb

/-!
# Suspend, resume and the pending writes over USB

`rsi_suspend` and `rsi_resume` (`rsi_91x_usb.c`) do their work with `tx_access_lock` down.
`rsi_suspend` refuses while a write is pending, which `tx_pending_urbs` tells: `rsi_usb_card_write`
counts it up in front of the transfer and down behind it. A transfer that fails is not counted down,
and a resume that cannot submit a URB returns with the semaphore down.

The other users of `tx_access_lock` are in `PowerSave`; here they, and the URBs that come back, are
one action that leaves any state behind. The delays, the buffer for the answer of the device and the
bytes that are written are left out.

## Main results

* `rsiSuspend_balanced`, `rsiResume_balanced_iff`: the returns that have the semaphore up again;
* `pending_eq`: in every run the counter is the number of writes in progress and of failed writes;
* `accounted_of_usbSucceeds`: the semaphore and the counter as long as nothing fails.
-/

namespace UsbPm

open PowerSave (Common)
open UsbRx (RxEp RxState RxCb SubmitEnv Completion)
open MutexOp

/-- `-ENODEV` -/
def ENODEV : ℤ := -19

/-- `-ENOMEM` -/
def ENOMEM : ℤ := -12

/-- `-EBUSY` -/
def EBUSY : ℤ := -16

/-- `-ENOENT`, the status of a URB that is killed -/
def ENOENT : ℤ := -2

/-- What suspend, resume and writes share: fields of `struct rsi_hw`, `struct rsi_common` and
`struct rsi_91x_usbdev` -/
structure UsbHw where
  common : Common
  rx : RxState
  txPendingUrbs : BitVec 32
  usbIntfInSuspend : Bool
  usbInDeepPs : Bool
  /-- The milliseconds that `suspend_timer` was set to last -/
  suspendTimer : Option ℕ
  writeFail : Bool

/-- What `USB_VENDOR_PS_STATUS_READ` returns, with the first byte of the answer and the 32-bit
number at its offset 2 -/
structure PsStatus where
  status : ℤ
  lmacPs : BitVec 8
  sleepDuration : BitVec 32

/-- What a call of `rsi_suspend` finds. -/
structure SuspendEnv where
  adapter : Bool
  alloc : Bool
  ps : PsStatus

/-- What a call of `rsi_resume` finds. -/
structure ResumeEnv where
  adapter : Bool
  alloc : Bool
  ps : PsStatus
  wlan : SubmitEnv
  bt : SubmitEnv

/-- `usb_kill_urb`: a URB that is with the device comes back. -/
def killUrb (ep : RxEp) (rx : RxState) : RxState :=
  match rx.rxCb ep with
  | ⟨some skb, true⟩ =>
    { rx with
      rxCb := Function.update rx.rxCb ep ⟨some skb, false⟩
      freed := rx.freed ++ [skb.id]
      completions := rx.completions ++ [⟨ep, skb, ENOENT, 0⟩] }
  | _ => rx

/-- The handler of a URB that is killed, whatever it finds. -/
theorem rxDoneHandler_killed (env : SubmitEnv) {ep : RxEp} {rx : RxState} {skb : UsbRx.RxSkb}
    (h : rx.rxCb ep = ⟨some skb, true⟩) :
    env.rxDoneHandler ⟨ep, skb, ENOENT, 0⟩ rx = killUrb ep rx := by
  have hstatus : ENOENT ≠ 0 := by decide
  rw [killUrb, h, SubmitEnv.rxDoneHandler, if_pos hstatus, h]

/-- `rsi_suspend`; `btEp` is `CONFIG_RSI_BT_ALONE` or `CONFIG_RSI_COEX_MODE`. -/
def rsiSuspend (btEp : Bool) (env : SuspendEnv) (hw : UsbHw) : LockM (ℤ × UsbHw) := do
  if env.adapter = false then return (ENODEV, hw)
  if env.alloc = false then return (ENOMEM, hw)
  LockM.lock
  if hw.common.protocolTxAccess = false ∧ hw.txPendingUrbs = 0 then
    if env.ps.status < 0 then
      LockM.unlock
      return (env.ps.status, hw)
    if env.ps.lmacPs = 0 then
      LockM.unlock
      return (EBUSY, hw)
    -- without a duration the card is in deep sleep
    let deep := decide (env.ps.sleepDuration = 0)
    let suspendDuration := if deep then 1000 else env.ps.sleepDuration.toNat / 1000
    let hw := { hw with usbInDeepPs := deep }
    if suspendDuration < 5 then
      LockM.unlock
      return (EBUSY, hw)
    let rx := killUrb .wlan hw.rx
    let rx := if btEp then killUrb .bt rx else rx
    LockM.unlock
    return (0, { hw with
      rx := rx
      common := { hw.common with commonHalTxAccess := false }
      usbIntfInSuspend := true
      suspendTimer := some suspendDuration })
  LockM.unlock
  return (EBUSY, hw)

/-- `sleep_exit_recvd` -/
def sleepExitRecvd (common : Common) : LockM Common := do
  LockM.lock
  let common := common.grantTxAccess
  LockM.unlock
  return common.wakeWaiters

/-- `rsi_resume` -/
def rsiResume (btEp : Bool) (env : ResumeEnv) (hw : UsbHw) : LockM (ℤ × UsbHw) := do
  if env.adapter = false then return (ENODEV, hw)
  if hw.usbIntfInSuspend = false then return (0, hw)
  if env.alloc = false then return (ENOMEM, hw)
  LockM.lock
  if env.ps.status < 0 then
    LockM.unlock
    return (env.ps.status, hw)
  let wlan := env.wlan.rxUrbSubmit .wlan hw.rx
  if wlan.1 ≠ 0 then return (wlan.1, { hw with rx := wlan.2 })
  let bt := if btEp then env.bt.rxUrbSubmit .bt wlan.2 else (0, wlan.2)
  if bt.1 ≠ 0 then return (bt.1, { hw with rx := bt.2 })
  LockM.unlock
  let common ← sleepExitRecvd hw.common
  return (0, { hw with rx := bt.2, usbIntfInSuspend := false, common := common })

/-- `rsi_usb_card_write` up to the transfer -/
def cardWriteStart (hw : UsbHw) : UsbHw := { hw with txPendingUrbs := hw.txPendingUrbs + 1 }

/-- `rsi_usb_card_write` behind the transfer, with what `usb_bulk_msg_rsi` has returned. -/
def cardWriteDone (status : ℤ) (hw : UsbHw) : UsbHw :=
  if status < 0 then { hw with writeFail := true }
  else { hw with txPendingUrbs := hw.txPendingUrbs - 1 }

/-! ## The semaphore -/

/-- The submissions of a resume succeed. -/
def ResumeEnv.Submits (btEp : Bool) (env : ResumeEnv) : Prop :=
  env.wlan.Succeeds ∧ (btEp = true → env.bt.Succeeds)

instance (btEp : Bool) (env : ResumeEnv) : Decidable (env.Submits btEp) :=
  inferInstanceAs (Decidable (_ ∧ _))

/-- The call gets as far as the submissions. -/
def ResumeEnv.ReachesSubmit (env : ResumeEnv) (hw : UsbHw) : Prop :=
  env.adapter = true ∧ hw.usbIntfInSuspend = true ∧ env.alloc = true ∧ 0 ≤ env.ps.status

instance (env : ResumeEnv) (hw : UsbHw) : Decidable (env.ReachesSubmit hw) :=
  inferInstanceAs (Decidable (_ ∧ _ ∧ _ ∧ _))

variable {btEp : Bool}

theorem rxUrbSubmit_eq_zero_iff (env : SubmitEnv) (ep : RxEp) (rx : RxState) :
    (env.rxUrbSubmit ep rx).1 = 0 ↔ env.Succeeds := by
  cases halloc : env.alloc with
  | true => simp [SubmitEnv.rxUrbSubmit, SubmitEnv.Succeeds, halloc]
  | false => simp [SubmitEnv.rxUrbSubmit, SubmitEnv.Succeeds, halloc, UsbRx.ENOMEM]

/-- **Every return of `rsi_suspend` has the semaphore up again.** -/
theorem rsiSuspend_balanced (env : SuspendEnv) (hw : UsbHw) :
    LockBalanced (rsiSuspend btEp env hw).ops := by
  rw [LockM.balanced_ops, rsiSuspend]
  simp only [LockM.exec_bind, LockM.exec_ite, LockM.exec_pure, LockM.exec_lock, LockM.exec_unlock,
    Bool.false_eq_true, if_false, if_true, Option.bind_some, ite_self]

theorem sleepExitRecvd_exec (common : Common) :
    (sleepExitRecvd common).exec false = some false := by
  rw [sleepExitRecvd]
  simp

/-- A resume that returns in front of the submissions. -/
theorem rsiResume_balanced_of_not {env : ResumeEnv} {hw : UsbHw} (h : ¬ env.ReachesSubmit hw) :
    LockBalanced (rsiResume btEp env hw).ops := by
  rw [LockM.balanced_ops, rsiResume]
  by_cases hadapter : env.adapter = false
  · simp [hadapter]
  by_cases hsuspended : hw.usbIntfInSuspend = false
  · simp [hadapter, hsuspended]
  by_cases halloc : env.alloc = false
  · simp [hadapter, hsuspended, halloc]
  have hstatus : env.ps.status < 0 := by
    apply Int.not_le.1
    intro hstatus
    exact h ⟨by simpa using hadapter, by simpa using hsuspended, by simpa using halloc, hstatus⟩
  simp [hadapter, hsuspended, halloc, hstatus]

/-- **Which returns of `rsi_resume` have the semaphore up again**: all but those behind a submission
that has failed. -/
theorem rsiResume_balanced_iff (env : ResumeEnv) (hw : UsbHw) :
    LockBalanced (rsiResume btEp env hw).ops ↔ (env.ReachesSubmit hw → env.Submits btEp) := by
  -- the returns in front of the submissions give the semaphore back
  by_cases hearly : ¬ env.ReachesSubmit hw
  · exact iff_of_true (rsiResume_balanced_of_not hearly) fun hreach => absurd hreach hearly
  have hreach := Classical.not_not.1 hearly
  obtain ⟨hadapter, hsuspended, halloc, hstatus⟩ := id hreach
  have hnonneg : ¬ env.ps.status < 0 := Int.not_lt.2 hstatus
  rw [LockM.balanced_ops, rsiResume]
  simp only [hadapter, hsuspended, halloc, hnonneg, hreach, forall_true_left, ResumeEnv.Submits]
  -- the URB of Bluetooth is submitted only behind that of WLAN
  by_cases hwlan : env.wlan.Succeeds
  · have hwlan' := (rxUrbSubmit_eq_zero_iff env.wlan .wlan hw.rx).2 hwlan
    by_cases hbtEp : btEp = true
    · by_cases hbt : env.bt.Succeeds
      · have hbt' := (rxUrbSubmit_eq_zero_iff env.bt .bt (env.wlan.rxUrbSubmit .wlan hw.rx).2).2 hbt
        simp [hwlan, hwlan', hbt, hbt', hbtEp, sleepExitRecvd_exec]
      · have hbt' := mt (rxUrbSubmit_eq_zero_iff env.bt .bt
          (env.wlan.rxUrbSubmit .wlan hw.rx).2).1 hbt
        simp [hwlan, hwlan', hbt, hbt', hbtEp]
    · simp [hwlan, hwlan', hbtEp, sleepExitRecvd_exec]
  · have hwlan' := mt (rxUrbSubmit_eq_zero_iff env.wlan .wlan hw.rx).1 hwlan
    simp [hwlan, hwlan']

/-- A write that is pending keeps the device from being suspended. -/
theorem rsiSuspend_busy {env : SuspendEnv} {hw : UsbHw} (hadapter : env.adapter = true)
    (halloc : env.alloc = true) (hpending : hw.txPendingUrbs ≠ 0) :
    (rsiSuspend btEp env hw).val = (EBUSY, hw) := by
  have hbusy : ¬ (hw.common.protocolTxAccess = false ∧ hw.txPendingUrbs = 0) := by
    exact fun h => hpending h.2
  rw [rsiSuspend]
  simp only [LockM.val_bind, LockM.val_pure, hadapter, halloc, hbusy, Bool.true_eq_false, if_false]

/-- Suspend and resume leave the counter alone. -/
theorem rsiSuspend_pending (env : SuspendEnv) (hw : UsbHw) :
    (rsiSuspend btEp env hw).val.2.txPendingUrbs = hw.txPendingUrbs := by
  rw [rsiSuspend]
  simp only [LockM.val_bind, LockM.val_ite, LockM.val_pure]
  split_ifs <;> rfl

theorem rsiResume_pending (env : ResumeEnv) (hw : UsbHw) :
    (rsiResume btEp env hw).val.2.txPendingUrbs = hw.txPendingUrbs := by
  rw [rsiResume]
  simp only [LockM.val_bind, LockM.val_ite, LockM.val_pure]
  split_ifs <;> rfl

/-! ## The runs -/

/-- The state of the driver. The last three fields are histories. -/
structure Sys where
  hw : UsbHw
  /-- `tx_access_lock` is down. -/
  semDown : Bool
  /-- The writes between their start and their return -/
  inProgress : ℕ
  failedWrites : ℕ
  /-- What the calls of `rsi_suspend` and `rsi_resume` that have returned did with the semaphore -/
  calls : List (List MutexOp)

inductive Act
  | writeStart
  /-- A write returns, with what its transfer has returned. -/
  | writeDone (status : ℤ)
  | suspend (env : SuspendEnv)
  | resume (env : ResumeEnv)
  /-- The other threads, and the URBs that come back -/
  | others (common : Common) (rx : RxState)

/-- A call; it waits for the semaphore if it has to take it down. -/
def Sys.call (s : Sys) (proc : LockM (ℤ × UsbHw)) : Option Sys :=
  (proc.exec s.semDown).map fun down =>
    { s with hw := proc.val.2, semDown := down, calls := s.calls ++ [proc.ops] }

/-- Nothing is pending in the beginning. -/
structure Sys.Start (s : Sys) : Prop where
  pending : s.hw.txPendingUrbs = 0
  semDown : s.semDown = false
  inProgress : s.inProgress = 0
  failedWrites : s.failedWrites = 0
  calls : s.calls = []

/-- The driver, and what goes on around it. -/
def system (btEp : Bool) : TransitionSystem Sys Act where
  Init := Sys.Start
  step s
    | .writeStart => some { s with hw := cardWriteStart s.hw, inProgress := s.inProgress + 1 }
    | .writeDone status =>
      if s.inProgress = 0 then none
      else some { s with
        hw := cardWriteDone status s.hw
        inProgress := s.inProgress - 1
        failedWrites := s.failedWrites + if status < 0 then 1 else 0 }
    | .suspend env => s.call (rsiSuspend btEp env s.hw)
    | .resume env => s.call (rsiResume btEp env s.hw)
    | .others common rx => some { s with hw := { s.hw with common := common, rx := rx } }

/-- **The counter in every run**: the writes in progress, and those that have failed. -/
def PendingInv (s : Sys) : Prop :=
  s.hw.txPendingUrbs = BitVec.ofNat 32 (s.inProgress + s.failedWrites)

theorem ofNat_add_sub_one (n k : ℕ) (h : n ≠ 0) :
    BitVec.ofNat 32 (n + k) - 1 = BitVec.ofNat 32 (n - 1 + k) := by
  have hsucc : n + k = n - 1 + k + 1 := by omega
  rw [hsucc, BitVec.ofNat_add]
  exact BitVec.add_sub_cancel _ _

variable {s s' : Sys}

theorem call_eq_some {proc : LockM (ℤ × UsbHw)} (h : s.call proc = some s') :
    ∃ down, proc.exec s.semDown = some down ∧
      s' = { s with hw := proc.val.2, semDown := down, calls := s.calls ++ [proc.ops] } := by
  rw [Sys.call, Option.map_eq_some_iff] at h
  obtain ⟨down, hdown, heq⟩ := h
  exact ⟨down, hdown, heq.symm⟩

theorem pendingInv_step {a : Act} (h : PendingInv s) (hstep : (system btEp).step s a = some s') :
    PendingInv s' := by
  cases a with
  | writeStart =>
    obtain rfl := Option.some.inj hstep
    show s.hw.txPendingUrbs + 1 = BitVec.ofNat 32 (s.inProgress + 1 + s.failedWrites)
    rw [h, Nat.add_right_comm, BitVec.ofNat_add (s.inProgress + s.failedWrites) 1]
    rfl
  | writeDone status =>
    simp only [system] at hstep
    split at hstep
    · exact absurd hstep (by simp)
    · rename_i hbusy
      obtain rfl := Option.some.inj hstep
      rw [PendingInv] at h ⊢
      by_cases hfail : status < 0
      · -- one write less in progress, and one more has failed
        simp only [cardWriteDone, hfail, if_true, h]
        congr 1
        omega
      · simp only [cardWriteDone, hfail, if_false, h, Nat.add_zero]
        exact ofNat_add_sub_one _ _ hbusy
  | suspend env =>
    obtain ⟨down, -, rfl⟩ := call_eq_some hstep
    exact (rsiSuspend_pending env s.hw).trans h
  | resume env =>
    obtain ⟨down, -, rfl⟩ := call_eq_some hstep
    exact (rsiResume_pending env s.hw).trans h
  | others common rx =>
    obtain rfl := Option.some.inj hstep
    exact h

/-- **The counter in every run.** -/
theorem pending_eq (h : (system btEp).Reachable s) : PendingInv s := by
  apply h.invariant PendingInv
  · intro s hs
    rw [PendingInv, hs.pending, hs.inProgress, hs.failedWrites]
    rfl
  · exact fun s a s' hinv _ hstep => pendingInv_step hinv hstep

/-- **The accounts are in order**: every call that has returned has the semaphore up again, and the
counter is the number of writes in progress. -/
structure Accounted (s : Sys) : Prop where
  balanced : ∀ ops ∈ s.calls, LockBalanced ops
  pending : s.hw.txPendingUrbs = BitVec.ofNat 32 s.inProgress
  idle : s.inProgress = 0 → s.hw.txPendingUrbs = 0

/-- No transfer of a write fails, and no submission of a resume that gets as far. -/
def UsbSucceeds (btEp : Bool) (s : Sys) : Act → Prop
  | .writeDone status => 0 ≤ status
  | .resume env => env.ReachesSubmit s.hw → env.Submits btEp
  | .writeStart | .suspend _ | .others _ _ => True

instance (s : Sys) (a : Act) : Decidable (UsbSucceeds btEp s a) := by
  cases a <;> simp only [UsbSucceeds] <;> infer_instance

/-- What a run keeps in which nothing fails. -/
structure SuccessInv (s : Sys) : Prop where
  balanced : ∀ ops ∈ s.calls, LockBalanced ops
  failedWrites : s.failedWrites = 0

theorem successInv_call {proc : LockM (ℤ × UsbHw)} (h : SuccessInv s)
    (hproc : LockBalanced proc.ops) (hstep : s.call proc = some s') : SuccessInv s' := by
  obtain ⟨down, -, rfl⟩ := call_eq_some hstep
  exact ⟨List.forall_mem_append.2 ⟨h.balanced, List.forall_mem_singleton.2 hproc⟩, h.failedWrites⟩

theorem successInv_step {a : Act} (h : SuccessInv s) (hok : UsbSucceeds btEp s a)
    (hstep : (system btEp).step s a = some s') : SuccessInv s' := by
  cases a with
  | writeStart =>
    obtain rfl := Option.some.inj hstep
    exact ⟨h.balanced, h.failedWrites⟩
  | writeDone status =>
    simp only [system] at hstep
    split at hstep
    · exact absurd hstep (by simp)
    · -- a transfer that has not failed is counted down
      obtain rfl := Option.some.inj hstep
      refine ⟨h.balanced, ?_⟩
      rw [h.failedWrites, if_neg (Int.not_lt.2 hok)]
  | suspend env => exact successInv_call h (rsiSuspend_balanced env s.hw) hstep
  | resume env => exact successInv_call h ((rsiResume_balanced_iff env s.hw).2 hok) hstep
  | others common rx =>
    obtain rfl := Option.some.inj hstep
    exact ⟨h.balanced, h.failedWrites⟩

/-- **The accounts are in order as long as nothing fails.** -/
theorem accounted_of_usbSucceeds (h : (system btEp).ReachableVia (UsbSucceeds btEp) s) :
    Accounted s := by
  have hinv : SuccessInv s := by
    apply h.invariant SuccessInv
    · intro s hs
      refine ⟨fun ops hops => ?_, hs.failedWrites⟩
      rw [hs.calls] at hops
      exact absurd hops List.not_mem_nil
    · exact fun s a s' hinv hok hstep => successInv_step hinv hok hstep
  have hpending : s.hw.txPendingUrbs = BitVec.ofNat 32 s.inProgress := by
    rw [pending_eq h.reachable, hinv.failedWrites, Nat.add_zero]
  refine ⟨hinv.balanced, hpending, fun hidle => ?_⟩
  rw [hpending, hidle]
  rfl

/-- A driver that is running, with nothing pending -/
def runningHw : UsbHw where
  common := Common.start true
  rx := UsbRx.wlanStart
  txPendingUrbs := 0
  usbIntfInSuspend := false
  usbInDeepPs := false
  suspendTimer := none
  writeFail := false

def runningSys : Sys := ⟨runningHw, false, 0, 0, []⟩

theorem start_runningSys : Sys.Start runningSys := ⟨rfl, rfl, rfl, rfl, rfl⟩

/-- A write of 64 bytes. -/
theorem accounted_write :
    Accounted (((system false).runVia (UsbSucceeds false) runningSys
      [.writeStart, .writeDone 64]).get rfl) :=
  accounted_of_usbSucceeds (TransitionSystem.reachableVia_get start_runningSys rfl)

/-- A suspended driver whose URB is submitted without success -/
def resumeFails : ResumeEnv := ⟨true, true, ⟨6, 0, 0⟩, ⟨false, true, 0, -19⟩, ⟨false, true, 0, 0⟩⟩

/-- A write that times out stays pending, and a resume that cannot submit its URB keeps the
semaphore. -/
theorem not_accounted :
    (¬ ∀ s, (system false).Reachable s → Accounted s) ∧
    ¬ ∀ env hw, LockBalanced (rsiResume false env hw).ops := by
  constructor
  · intro hall
    have haccounted := hall
      (((system false).run runningSys [.writeStart, .writeDone (-110)]).get rfl)
      (TransitionSystem.reachable_get start_runningSys rfl)
    exact absurd (haccounted.idle rfl) (by decide)
  · intro hall
    have hbalanced := hall resumeFails { runningHw with usbIntfInSuspend := true }
    rw [rsiResume_balanced_iff] at hbalanced
    exact absurd (hbalanced (by decide)) (by decide)

end UsbPm
