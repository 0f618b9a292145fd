import Mathlib.Data.Finset.Lattice.Lemmas
import RsiDriver.Lifecycle.Adapter

/-!
# Probing and disconnecting an SDIO device

`rsi_probe` (`rsi_91x_sdio.c`) makes an adapter, sets up the SDIO function, starts a thread for
what is received, requests the interrupt and loads the firmware; what it has done is undone along
the chain of its labels if a step fails. `rsi_disconnect` undoes all of it. The claims of the host
and the communication with the device are left out where no resource depends on them.

## Main results

* `sdioProbe_ends`: what a probe leaves held, and when it makes a mistake;
* `sdioLife_ends`: a device that was probed, attached or not, and disconnected leaves nothing,
  except for the debugfs entry of an RS9117.
-/

namespace Lifecycle

open Interaction Program
open Boot (DeviceModel)

/-- The model of an SDIO device -/
def sdioDeviceModel (device : BitVec 16) : Option DeviceModel :=
  if device = 0x9330 then some .dev9113
  else if device = 0x9116 then some .dev9116
  else if device = 0x9117 then some .dev9117
  else if device = 0x917 then some .dev917
  else none

/-- `rsi_init_sdio_interface` behind `sdio_enable_func` -/
def setupSdio : Kernel Bool := do
  if ← ask .setupcard then
    if ← ask .sdioSlaveRegs then pure true
    else do
      release .functionEnabled
      pure false
  else do
    release .functionEnabled
    pure false

/-- `rsi_init_sdio_interface` -/
def rsiInitSdioInterface (h : Hw) : Kernel (Bool × Hw) := do
  if ← acquire .rsiDev then
    let ok ← (do if ← acquire .functionEnabled then setupSdio else pure false)
    pure (ok, { h with rsiDev := true })
  else pure (false, h)

/-- `fail_free_adapter` -/
def failFreeAdapter (b : Build) (h : Hw) : Kernel (ℤ × Option Hw) := do
  -- the polling thread is stopped with `CONFIG_SDIO_INTR_POLL` only
  rsiKillThread (!b.intrPoll) .intrPollThread
  rsi91xDeinit b.coex h
  pure (1, none)

/-- `fail_kill_thread` -/
def failKillThread (b : Build) (h : Hw) : Kernel (ℤ × Option Hw) := do
  release .functionEnabled
  failFreeAdapter b h

/-- `fail_claim_irq` -/
def failClaimIrq (b : Build) (h : Hw) : Kernel (ℤ × Option Hw) := do
  rsiKillThread false .rxThread
  kfree h.tempRcvBuf .tempRcvBuf
  failKillThread b h

/-- `fail_dev_init` -/
def failDevInit (b : Build) (h : Hw) : Kernel (ℤ × Option Hw) := do
  release .irq
  failClaimIrq b h

/-- `rsi_probe` from the interrupt on -/
def startDevice (b : Build) (h : Hw) : Kernel (ℤ × Option Hw) := do
  if ← acquire .irq then
    if ← ask .halDeviceInit then
      if ← ask .masterAccessMsword then pure (0, some h) else failDevInit b h
    else failDevInit b h
  else failClaimIrq b h

/-- `rsi_probe` from the receive thread on. Neither the buffer nor the polling thread is checked. -/
def startReceive (b : Build) (h : Hw) : Kernel (ℤ × Option Hw) := do
  if ← acquire .rxThread then
    let tempRcvBuf ← acquire .tempRcvBuf
    let _ ← (if b.intrPoll then acquire .intrPollThread else pure false)
    startDevice b { h with tempRcvBuf := tempRcvBuf }
  else failKillThread b h

/-- `rsi_probe`, which returns 0, with the adapter behind the driver data of the function, or 1. -/
def sdioProbe (b : Build) (p : Params) (device : BitVec 16) : Kernel (ℤ × Option Hw) := do
  match ← rsi91xInit b p with
  | none => pure (1, none)
  | some h =>
    if b.validateOperMode p.devOperMode ≠ 0 then failFreeAdapter b h
    else
      let (ok, h) ← rsiInitSdioInterface h
      if ok then
        if (sdioDeviceModel device).isSome then startReceive b h else failFreeAdapter b h
      else failFreeAdapter b h

/-- `rsi_disconnect` -/
def sdioDisconnect (b : Build) (model : DeviceModel) (h : Hw) : Kernel Unit := do
  rsiKillThread (!b.intrPoll) .intrPollThread
  rsiKillThread false .rxThread
  release .irq
  kfree h.tempRcvBuf .tempRcvBuf
  rsiMac80211Detach model h
  release .functionEnabled
  rsi91xDeinit b.coex h

/-! ## A failed probe -/

/-- The SDIO function was set up. -/
def SetUp (validMode : Bool) (refused : List (Call Res Query)) : Prop :=
  validMode = true ∧ .acquire .rsiDev ∉ refused ∧ .acquire .functionEnabled ∉ refused ∧
    .ask .setupcard ∉ refused ∧ .ask .sdioSlaveRegs ∉ refused

/-- The polling thread was started. -/
def PollStarted (validMode known : Bool) (refused : List (Call Res Query)) : Prop :=
  SetUp validMode refused ∧ known = true ∧ .acquire .rxThread ∉ refused ∧
    .acquire .intrPollThread ∉ refused

instance (validMode : Bool) (refused : List (Call Res Query)) :
    Decidable (SetUp validMode refused) :=
  inferInstanceAs (Decidable (_ ∧ _))

instance (validMode known : Bool) (refused : List (Call Res Query)) :
    Decidable (PollStarted validMode known refused) :=
  inferInstanceAs (Decidable (_ ∧ _))

/-- What a failed probe leaves behind, and when it makes no mistake -/
structure ProbeFailed (gpioMissing validMode known intrPoll : Bool) (s : Books) : Prop where
  mistakes : s.mistakes = [] ↔
    if InitFailed gpioMissing s.refused then ¬ CoexRefused s.refused
    else .acquire .scanWorkqueue ∉ s.refused ∧
      (intrPoll = true → PollStarted validMode known s.refused)
  held : s.mistakes = [] → s.held =
    if InitFailed gpioMissing s.refused then leftByInit s.refused
    else if SetUp validMode s.refused ∧ known = false then {.functionEnabled}
    else ∅

instance (gpioMissing validMode known intrPoll : Bool) (s : Books) :
    Decidable (ProbeFailed gpioMissing validMode known intrPoll s) :=
  decidable_of_iff ((s.mistakes = [] ↔
      if InitFailed gpioMissing s.refused then ¬ CoexRefused s.refused
      else .acquire .scanWorkqueue ∉ s.refused ∧
        (intrPoll = true → PollStarted validMode known s.refused)) ∧
    (s.mistakes = [] → s.held =
      if InitFailed gpioMissing s.refused then leftByInit s.refused
      else if SetUp validMode s.refused ∧ known = false then {.functionEnabled}
      else ∅))
    ⟨fun h => ⟨h.1, h.2⟩, fun h => ⟨h.mistakes, h.held⟩⟩

/-- The ledger behind the labels -/
def afterFail (coex intrPoll : Bool) (h : Hw) (l : List Res) (s : Books) : Books :=
  let s := (l ++ (if intrPoll then [Res.intrPollThread] else [])).foldl (Ledger.drop Res.needs) s
  (releasedByDeinit coex h).foldl (Ledger.drop Res.needs) ((s.use .adapter).use .scanWorkqueue)

theorem failFreeAdapter_yields {b : Build} {h : Hw} {s : Books}
    {post : ℤ × Option Hw → Books → Prop} :
    Yields Res.needs s (failFreeAdapter b h) post ↔
      post (1, none) (afterFail b.coex b.intrPoll h [] s) := by
  rw [failFreeAdapter, yields_bind, rsiKillThread_yields, yields_bind, deinit_yields_foldl,
    yields_pure, afterFail]
  cases b.intrPoll <;> rfl

theorem failKillThread_yields {b : Build} {h : Hw} {s : Books}
    {post : ℤ × Option Hw → Books → Prop} :
    Yields Res.needs s (failKillThread b h) post ↔
      post (1, none) (afterFail b.coex b.intrPoll h [.functionEnabled] s) := by
  rw [failKillThread, yields_bind, yields_release, failFreeAdapter_yields]
  rfl

theorem failClaimIrq_yields {b : Build} {h : Hw} {s : Books}
    {post : ℤ × Option Hw → Books → Prop} :
    Yields Res.needs s (failClaimIrq b h) post ↔
      post (1, none) (afterFail b.coex b.intrPoll h ([.rxThread] ++
        (if h.tempRcvBuf then [.tempRcvBuf] else []) ++ [.functionEnabled]) s) := by
  rw [failClaimIrq, yields_bind, rsiKillThread_yields, yields_bind, kfree_yields,
    failKillThread_yields]
  simp only [afterFail, List.foldl_append]
  rfl

theorem failDevInit_yields {b : Build} {h : Hw} {s : Books}
    {post : ℤ × Option Hw → Books → Prop} :
    Yields Res.needs s (failDevInit b h) post ↔
      post (1, none) (afterFail b.coex b.intrPoll h ([.irq, .rxThread] ++
        (if h.tempRcvBuf then [.tempRcvBuf] else []) ++ [.functionEnabled]) s) := by
  rw [failDevInit, yields_bind, yields_release, failClaimIrq_yields]
  rfl

/-- The ledger behind `rsi_init_sdio_interface` -/
def interfaceUp (coex workqueue nlSk : Bool) : Books :=
  ((initialised coex workqueue nlSk).add .rsiDev).add .functionEnabled

/-- The ledger before the interrupt is requested -/
def receiving (coex intrPoll workqueue nlSk tempRcvBuf poll : Bool) : Books :=
  let s := Books.attempt ((interfaceUp coex workqueue nlSk).add .rxThread) tempRcvBuf .tempRcvBuf
  if intrPoll then s.attempt poll .intrPollThread else s

/-- The adapter behind a probe that has succeeded -/
def Hw.probed (nlSk tempRcvBuf : Bool) : Hw :=
  { Hw.initial nlSk with rsiDev := true, tempRcvBuf := tempRcvBuf }

/-- How a probe ends -/
def ProbeEnd (b : Build) (p : Params) (device : BitVec 16) : ℤ × Option Hw → Books → Prop
  | (status, some h), s => status = 0 ∧ s.mistakes = [] ∧ ∃ workqueue nlSk tempRcvBuf poll,
      s = (receiving b.coex b.intrPoll workqueue nlSk tempRcvBuf poll).add .irq ∧
        h = .probed nlSk tempRcvBuf
  | (status, none), s => status = 1 ∧
      ProbeFailed (p.gpioMissing b) (b.validateOperMode p.devOperMode = 0)
        (sdioDeviceModel device).isSome b.intrPoll s

theorem mistakes_receiving (coex intrPoll workqueue nlSk tempRcvBuf poll : Bool) :
    ((receiving coex intrPoll workqueue nlSk tempRcvBuf poll).add .irq).mistakes = [] := by
  cases coex <;> cases intrPoll <;> cases workqueue <;> cases nlSk <;> cases tempRcvBuf <;>
    cases poll <;> decide

section Ends

variable (coex intrPoll workqueue nlSk tempRcvBuf poll valid known : Bool)

theorem probeFailed_irq : ProbeFailed false true true intrPoll
    (afterFail coex intrPoll (.probed nlSk tempRcvBuf)
      ([.rxThread] ++ (if tempRcvBuf then [.tempRcvBuf] else []) ++ [.functionEnabled])
      ((receiving coex intrPoll workqueue nlSk tempRcvBuf poll).refuse (.acquire .irq))) := by
  cases coex <;> cases intrPoll <;> cases workqueue <;> cases nlSk <;> cases tempRcvBuf <;>
    cases poll <;> decide

theorem probeFailed_init (query : Query)
    (hquery : query = .halDeviceInit ∨ query = .masterAccessMsword) :
    ProbeFailed false true true intrPoll
    (afterFail coex intrPoll (.probed nlSk tempRcvBuf)
      ([.irq, .rxThread] ++ (if tempRcvBuf then [.tempRcvBuf] else []) ++ [.functionEnabled])
      (((receiving coex intrPoll workqueue nlSk tempRcvBuf poll).add .irq).refuse
        (.ask query))) := by
  rcases hquery with rfl | rfl <;> cases coex <;> cases intrPoll <;> cases workqueue <;>
    cases nlSk <;> cases tempRcvBuf <;> cases poll <;> decide

theorem probeFailed_rxThread : ProbeFailed false true true intrPoll
    (afterFail coex intrPoll { Hw.initial nlSk with rsiDev := true } [.functionEnabled]
      ((interfaceUp coex workqueue nlSk).refuse (.acquire .rxThread))) := by
  cases coex <;> cases intrPoll <;> cases workqueue <;> cases nlSk <;> decide

theorem probeFailed_device : ProbeFailed false true false intrPoll
    (afterFail coex intrPoll { Hw.initial nlSk with rsiDev := true } []
      (interfaceUp coex workqueue nlSk)) := by
  cases coex <;> cases intrPoll <;> cases workqueue <;> cases nlSk <;> decide

theorem probeFailed_setup (query : Query) (hquery : query = .setupcard ∨ query = .sdioSlaveRegs) :
    ProbeFailed false true known intrPoll
      (afterFail coex intrPoll { Hw.initial nlSk with rsiDev := true } []
        (((interfaceUp coex workqueue nlSk).refuse (.ask query)).drop Res.needs
          .functionEnabled)) := by
  rcases hquery with rfl | rfl <;> cases coex <;> cases intrPoll <;> cases workqueue <;>
    cases nlSk <;> cases known <;> decide

theorem probeFailed_functionEnabled : ProbeFailed false true known intrPoll
    (afterFail coex intrPoll { Hw.initial nlSk with rsiDev := true } []
      (((initialised coex workqueue nlSk).add .rsiDev).refuse (.acquire .functionEnabled))) := by
  cases coex <;> cases intrPoll <;> cases workqueue <;> cases nlSk <;> cases known <;> decide

theorem probeFailed_rsiDev : ProbeFailed false true known intrPoll
    (afterFail coex intrPoll (.initial nlSk) []
      ((initialised coex workqueue nlSk).refuse (.acquire .rsiDev))) := by
  cases coex <;> cases intrPoll <;> cases workqueue <;> cases nlSk <;> cases known <;> decide

theorem probeFailed_operMode : ProbeFailed false false known intrPoll
    (afterFail coex intrPoll (.initial nlSk) [] (initialised coex workqueue nlSk)) := by
  cases coex <;> cases intrPoll <;> cases workqueue <;> cases nlSk <;> cases known <;> decide

end Ends

theorem startDevice_yields {b : Build} {p : Params} {device : BitVec 16}
    (hgpio : p.gpioMissing b = false) (hvalid : b.validateOperMode p.devOperMode = 0)
    (hknown : (sdioDeviceModel device).isSome = true) (workqueue nlSk tempRcvBuf poll : Bool) :
    Yields Res.needs (receiving b.coex b.intrPoll workqueue nlSk tempRcvBuf poll)
      (startDevice b (.probed nlSk tempRcvBuf)) (ProbeEnd b p device) := by
  have hfailed {s : Books} (h : ProbeFailed false true true b.intrPoll s) :
      ProbeEnd b p device (1, none) s := by
    refine ⟨rfl, ?_⟩
    rw [hgpio, hknown, decide_eq_true hvalid]
    exact h
  rw [startDevice, yields_bind, yields_acquire]
  constructor
  · rw [if_neg Bool.false_ne_true, failClaimIrq_yields]
    exact hfailed (probeFailed_irq ..)
  rw [if_pos rfl, yields_bind, yields_ask]
  constructor
  · rw [if_neg Bool.false_ne_true, failDevInit_yields]
    exact hfailed (probeFailed_init _ _ _ _ _ _ _ (.inl rfl))
  rw [if_pos rfl, yields_bind, yields_ask]
  constructor
  · rw [if_neg Bool.false_ne_true, failDevInit_yields]
    exact hfailed (probeFailed_init _ _ _ _ _ _ _ (.inr rfl))
  · rw [if_pos rfl, yields_pure]
    exact ⟨rfl, mistakes_receiving .., workqueue, nlSk, tempRcvBuf, poll, rfl, rfl⟩

theorem startReceive_yields {b : Build} {p : Params} {device : BitVec 16}
    (hgpio : p.gpioMissing b = false) (hvalid : b.validateOperMode p.devOperMode = 0)
    (hknown : (sdioDeviceModel device).isSome = true) (workqueue nlSk : Bool) :
    Yields Res.needs (interfaceUp b.coex workqueue nlSk)
      (startReceive b { Hw.initial nlSk with rsiDev := true }) (ProbeEnd b p device) := by
  rw [startReceive, yields_bind, yields_acquire]
  constructor
  · rw [if_neg Bool.false_ne_true, failKillThread_yields]
    refine ⟨rfl, ?_⟩
    rw [hgpio, hknown, decide_eq_true hvalid]
    exact probeFailed_rxThread ..
  rw [if_pos rfl, yields_bind]
  -- the buffer is there or not, and so is the polling thread
  have hpoll (tempRcvBuf : Bool) : Yields Res.needs
      (Books.attempt ((interfaceUp b.coex workqueue nlSk).add .rxThread) tempRcvBuf .tempRcvBuf)
      ((if b.intrPoll then acquire .intrPollThread else pure false) >>= fun _ =>
        startDevice b (.probed nlSk tempRcvBuf)) (ProbeEnd b p device) := by
    have hstart := startDevice_yields hgpio hvalid hknown workqueue nlSk tempRcvBuf
    rw [yields_bind]
    cases hintr : b.intrPoll with
    | false =>
      rw [hintr] at hstart
      exact hstart false
    | true =>
      rw [hintr] at hstart
      rw [if_pos rfl, yields_acquire]
      exact ⟨hstart false, hstart true⟩
  exact yields_acquire.2 ⟨hpoll false, hpoll true⟩

theorem sdioProbe_yields (b : Build) (p : Params) (device : BitVec 16) :
    Yields Res.needs .empty (sdioProbe b p device) (ProbeEnd b p device) := by
  rw [sdioProbe, yields_bind]
  refine (init_yields b p).mono fun r s hend => ?_
  cases r with
  | none =>
    obtain ⟨hinit, hheld, hmistakes⟩ := hend
    refine ⟨rfl, ?_, fun _ => ?_⟩
    · rw [if_pos hinit]
      exact hmistakes
    · rw [if_pos hinit]
      exact hheld
  | some h =>
    obtain ⟨hgpio, workqueue, nlSk, rfl, rfl⟩ := hend
    dsimp only
    by_cases hvalid : b.validateOperMode p.devOperMode = 0
    swap
    · rw [if_pos hvalid, failFreeAdapter_yields]
      refine ⟨rfl, ?_⟩
      rw [hgpio, decide_eq_false hvalid]
      exact probeFailed_operMode ..
    have hfailed {s : Books} (h : ProbeFailed false true (sdioDeviceModel device).isSome
        b.intrPoll s) : ProbeEnd b p device (1, none) s := by
      refine ⟨rfl, ?_⟩
      rw [hgpio, decide_eq_true hvalid]
      exact h
    rw [if_neg (not_not.2 hvalid), yields_bind, rsiInitSdioInterface, yields_bind, yields_acquire]
    constructor
    · simp only [Bool.false_eq_true, if_false, yields_pure, failFreeAdapter_yields]
      exact hfailed (probeFailed_rsiDev ..)
    rw [if_pos rfl, yields_bind, yields_bind, yields_acquire]
    constructor
    · simp only [Bool.false_eq_true, if_false, yields_pure, failFreeAdapter_yields]
      exact hfailed (probeFailed_functionEnabled ..)
    rw [if_pos rfl, setupSdio, yields_bind, yields_ask]
    constructor
    · simp only [Bool.false_eq_true, if_false, yields_bind, yields_release, yields_pure,
        failFreeAdapter_yields]
      exact hfailed (probeFailed_setup _ _ _ _ _ _ (.inl rfl))
    rw [if_pos rfl, yields_bind, yields_ask]
    constructor
    · simp only [Bool.false_eq_true, if_false, yields_bind, yields_release, yields_pure,
        failFreeAdapter_yields]
      exact hfailed (probeFailed_setup _ _ _ _ _ _ (.inr rfl))
    rw [if_pos rfl, yields_pure, yields_pure]
    dsimp only
    rw [if_pos rfl]
    by_cases hknown : (sdioDeviceModel device).isSome = true
    · rw [if_pos hknown]
      exact startReceive_yields hgpio hvalid hknown workqueue nlSk
    · rw [if_neg hknown, failFreeAdapter_yields]
      refine hfailed ?_
      rw [eq_false_of_ne_true hknown]
      exact probeFailed_device ..

/-! ## A device that is attached and disconnected -/

/-- The device becomes ready or not, and is disconnected. -/
def sdioLife (b : Build) (model : DeviceModel) (ready fiveGHz : Bool) (h : Hw) : Kernel Unit := do
  let h ← (if ready then rsiMac80211Attach model fiveGHz h else pure h)
  sdioDisconnect b model h

/-- What `rsi_disconnect` releases before it detaches the device -/
def releasedFirstSdio (intrPoll tempRcvBuf : Bool) : List Res :=
  (if intrPoll then [.intrPollThread] else []) ++ [.rxThread, .irq] ++
    if tempRcvBuf then [.tempRcvBuf] else []

/-- What is acquired for the receive path only -/
def Res.ofReceive : Res → Bool
  | rxThread | irq | tempRcvBuf | intrPollThread => true
  | _ => false

theorem ofReceive_of_mem_needs {r user : Res} (hr : r.ofReceive = true) (h : r ∈ user.needs) :
    user.ofReceive = true := by
  cases user <;> first | rfl | (cases r <;> simp_all [Res.needs, Res.ofReceive])

theorem sdioDisconnect_yields {b : Build} {model : DeviceModel} {h : Hw} {s : Books}
    {post : Unit → Books → Prop} :
    Yields Res.needs s (sdioDisconnect b model h) post ↔
      Yields Res.needs ((releasedFirstSdio b.intrPoll h.tempRcvBuf).foldl
        (Ledger.drop Res.needs) s) (rsiMac80211Detach model h) fun _ s' =>
          Yields Res.needs (s'.drop Res.needs .functionEnabled) (rsi91xDeinit b.coex h) post := by
  simp only [sdioDisconnect, yields_bind, rsiKillThread_yields, yields_release, kfree_yields,
    releasedFirstSdio, List.foldl_append]
  cases b.intrPoll <;> rfl

/-- A disconnection makes a mistake if one was made before, if the detachment does, or if something
is not there. -/
theorem sdioDisconnect_yields_of_broken {b : Build} {model : DeviceModel} {h : Hw} {s : Books}
    (hbroken : s.mistakes ≠ [] ∨ DetachBreaks model h s.held ∨
      (b.intrPoll = true ∧ Res.intrPollThread ∉ s.held) ∨ Res.scanWorkqueue ∉ s.held) :
    Yields Res.needs s (sdioDisconnect b model h) fun _ s' => s'.mistakes ≠ [] := by
  have hrest (hdetach : Yields Res.needs
      ((releasedFirstSdio b.intrPoll h.tempRcvBuf).foldl (Ledger.drop Res.needs) s)
      (rsiMac80211Detach model h) fun _ s' => s'.mistakes ≠ []) :
      Yields Res.needs s (sdioDisconnect b model h) fun _ s' => s'.mistakes ≠ [] :=
    sdioDisconnect_yields.2 (hdetach.mono fun _ s' hs =>
      yields_mistakes_ne_nil _ (Ledger.mistakes_step_ne_nil hs ⟨.release .functionEnabled, ()⟩))
  have hnotMem {r : Res} (hnot : r ∉ s.held) :
      r ∉ ((releasedFirstSdio b.intrPoll h.tempRcvBuf).foldl (Ledger.drop Res.needs) s).held := by
    rw [Ledger.held_foldl_drop]
    exact fun hmem => hnot (Finset.mem_sdiff.1 hmem).1
  rcases hbroken with hmistakes | hbreaks | ⟨hintr, hnot⟩ | hnot
  · exact yields_mistakes_ne_nil _ hmistakes
  · exact hrest (detach_yields_of_breaks
      (hbreaks.imp (And.imp_right hnotMem) (And.imp_right hnotMem)))
  · refine hrest (yields_mistakes_ne_nil _ ?_)
    exact Ledger.mistakes_foldl_drop_of_notMem (r := .intrPollThread)
      (by simp [releasedFirstSdio, hintr]) hnot
  · exact hrest (detach_yields_of_notMem _ _ (hnotMem hnot))

section Held

variable (coex intrPoll nlSk tempRcvBuf : Bool)

theorem held_receiving : ((receiving coex intrPoll true nlSk tempRcvBuf true).add .irq).held =
    (interfaceUp coex true nlSk).held ∪ (releasedFirstSdio intrPoll tempRcvBuf).toFinset := by
  cases coex <;> cases intrPoll <;> cases nlSk <;> cases tempRcvBuf <;> decide

theorem usersFirst_releasedFirstSdio :
    Ledger.UsersFirst Res.needs (releasedFirstSdio intrPoll tempRcvBuf).toFinset
      (releasedFirstSdio intrPoll tempRcvBuf) := by
  cases intrPoll <;> cases tempRcvBuf <;> decide

theorem ofReceive_releasedFirstSdio :
    ∀ r ∈ releasedFirstSdio intrPoll tempRcvBuf, r.ofReceive = true := by
  cases intrPoll <;> cases tempRcvBuf <;> decide

theorem held_interfaceUp : ∀ r ∈ (interfaceUp coex true nlSk).held,
    r.ofAttach = false ∧ r.ofReceive = false := by
  cases coex <;> cases nlSk <;> decide

theorem usersFirst_interfaceUp : Ledger.UsersFirst Res.needs (interfaceUp coex true nlSk).held
    ([.functionEnabled] ++ releasedByDeinit coex (.probed nlSk tempRcvBuf)) := by
  cases coex <;> cases nlSk <;> cases tempRcvBuf <;> decide

theorem held_interfaceUp_eq : (interfaceUp coex true nlSk).held =
    ([Res.functionEnabled] ++ releasedByDeinit coex (.probed nlSk tempRcvBuf)).toFinset := by
  cases coex <;> cases nlSk <;> cases tempRcvBuf <;> decide

end Held

/-- A device that is all there is disconnected without a mistake. -/
theorem sdioDisconnect_yields_of_held {b : Build} {model : DeviceModel} {h : Hw} {s : Books}
    {nlSk tempRcvBuf : Bool} {attached left : Finset Res}
    (hdeinit : releasedByDeinit b.coex h = releasedByDeinit b.coex (.probed nlSk tempRcvBuf))
    (htemp : h.tempRcvBuf = tempRcvBuf)
    (hs : s.held =
      ((receiving b.coex b.intrPoll true nlSk tempRcvBuf true).add .irq).held ∪ attached)
    (hattached : ∀ r ∈ attached, r.ofAttach = true) (hleft : left ⊆ {.dfsentry917})
    (hdetach : ∀ (s : Books) (base : Finset Res) (post : Unit → Books → Prop),
      s.held = base ∪ attached → (∀ r ∈ base, r.ofAttach = false) → Res.scanWorkqueue ∈ base →
      (Yields Res.needs s (rsiMac80211Detach model h) post ↔
        post () { s with held := base ∪ left }))
    {post : Unit → Books → Prop} :
    Yields Res.needs s (sdioDisconnect b model h) post ↔ post () { s with held := left } := by
  set base := (interfaceUp b.coex true nlSk).held with hbaseEq
  set first := releasedFirstSdio b.intrPoll tempRcvBuf with hfirstEq
  have hinterface := held_interfaceUp b.coex nlSk
  -- the receive path goes first
  have hs₁ : s.held = (base ∪ attached) ∪ first.toFinset := by
    rw [hs, held_receiving, Finset.union_right_comm]
  have hplain : ∀ r ∈ base ∪ attached, r.ofReceive = false := by
    intro r hr
    rcases Finset.mem_union.1 hr with hr | hr
    · exact (hinterface r hr).2
    · have hattach := hattached r hr
      cases r <;> first | rfl | exact absurd hattach Bool.false_ne_true
  have hfirst : first.foldl (Ledger.drop Res.needs) s = { s with held := base ∪ attached } := by
    rw [Ledger.foldl_drop_frame hs₁ (usersFirst_releasedFirstSdio _ _), Finset.sdiff_self,
      Finset.union_empty]
    intro r hr
    have hreceive := ofReceive_releasedFirstSdio _ _ r hr
    refine ⟨fun hmem => ?_, fun user hmem hneeds => ?_⟩
    · exact Bool.false_ne_true ((hplain r hmem).symm.trans hreceive)
    · have huser := ofReceive_of_mem_needs hreceive hneeds
      exact Bool.false_ne_true ((hplain user hmem).symm.trans huser)
  have hworkqueue : Res.scanWorkqueue ∈ base := by
    rw [hbaseEq]
    cases b.coex <;> cases nlSk <;> decide
  rw [sdioDisconnect_yields, htemp, hfirst,
    hdetach _ base _ rfl (fun r hr => (hinterface r hr).1) hworkqueue]
  -- then the function and the adapter
  have hrest : ∀ r ∈ [Res.functionEnabled] ++ releasedByDeinit b.coex h,
      r ∉ left ∧ ∀ user ∈ left, r ∉ user.needs := by
    intro r hr
    rw [hdeinit, ← List.mem_toFinset, ← held_interfaceUp_eq] at hr
    refine ⟨fun hmem => ?_, fun user hmem => ?_⟩
    · obtain rfl := Finset.mem_singleton.1 (hleft hmem)
      exact Bool.false_ne_true (hinterface _ hr).1.symm
    · obtain rfl := Finset.mem_singleton.1 (hleft hmem)
      exact Finset.notMem_empty r
  have hlast : Yields Res.needs ([Res.functionEnabled].foldl (Ledger.drop Res.needs)
      { s with held := base ∪ left }) (rsi91xDeinit b.coex h) post ↔
        post () { s with held := left ∪ (base \
          ([Res.functionEnabled] ++ releasedByDeinit b.coex h).toFinset) } :=
    deinit_yields b.coex h [.functionEnabled] (Finset.union_comm base left)
      (by rw [hdeinit]; exact usersFirst_interfaceUp ..) hrest
  have hnone : base \ ([Res.functionEnabled] ++ releasedByDeinit b.coex h).toFinset = ∅ := by
    rw [hdeinit, hbaseEq, held_interfaceUp_eq b.coex nlSk tempRcvBuf, Finset.sdiff_self]
  rw [hnone, Finset.union_empty] at hlast
  exact hlast

/-- How the life of a device ends that was probed with the ledger `s₀`. A mistake is made unless the
workqueue and, where it is stopped, the polling thread are there, and the attachment is not refused
what it depends on. Without a mistake nothing is left but the debugfs entry of an RS9117. -/
structure LifeEnd (b : Build) (model : DeviceModel) (ready : Bool) (s₀ s : Books) : Prop where
  mistakes : s.mistakes = [] ↔ .acquire .scanWorkqueue ∉ s₀.refused ∧
    (b.intrPoll = true → .acquire .intrPollThread ∉ s₀.refused) ∧ ¬ AttachRefused s.refused
  held : s.mistakes = [] → s.held =
    if ready = true ∧ .acquire .hw ∉ s.refused ∧ .acquire (dbgfsEntry model) ∉ s.refused
    then leftByDetach model true else ∅

theorem scanWorkqueue_refused_receiving (coex intrPoll workqueue nlSk tempRcvBuf poll : Bool) :
    .acquire .scanWorkqueue ∉
        ((receiving coex intrPoll workqueue nlSk tempRcvBuf poll).add .irq).refused ↔
      workqueue = true := by
  cases coex <;> cases intrPoll <;> cases workqueue <;> cases nlSk <;> cases tempRcvBuf <;>
    cases poll <;> decide

theorem intrPollThread_refused_receiving (coex intrPoll workqueue nlSk tempRcvBuf poll : Bool) :
    (intrPoll = true → .acquire .intrPollThread ∉
        ((receiving coex intrPoll workqueue nlSk tempRcvBuf poll).add .irq).refused) ↔
      (intrPoll = true → poll = true) := by
  cases coex <;> cases intrPoll <;> cases workqueue <;> cases nlSk <;> cases tempRcvBuf <;>
    cases poll <;> decide

/-- The disconnection of a device, attached or not -/
theorem sdioDisconnect_end {b : Build} {model : DeviceModel} {ready workqueue poll : Bool}
    {h : Hw} {s : Books} {nlSk tempRcvBuf : Bool} (attached left : Finset Res)
    (hdeinit : releasedByDeinit b.coex h = releasedByDeinit b.coex (.probed nlSk tempRcvBuf))
    (htemp : h.tempRcvBuf = tempRcvBuf)
    (hs : s.held =
      ((receiving b.coex b.intrPoll workqueue nlSk tempRcvBuf poll).add .irq).held ∪ attached)
    (hmistakes : s.mistakes = []) (hrefused : ¬ AttachRefused s.refused)
    (hattached : ∀ r ∈ attached, r.ofAttach = true) (hleft : left ⊆ {.dfsentry917})
    (hleftEq : left = if ready = true ∧ .acquire .hw ∉ s.refused ∧
      .acquire (dbgfsEntry model) ∉ s.refused then leftByDetach model true else ∅)
    (hdetach : ∀ (s : Books) (base : Finset Res) (post : Unit → Books → Prop),
      s.held = base ∪ attached → (∀ r ∈ base, r.ofAttach = false) → Res.scanWorkqueue ∈ base →
      (Yields Res.needs s (rsiMac80211Detach model h) post ↔
        post () { s with held := base ∪ left })) :
    Yields Res.needs s (sdioDisconnect b model h) fun _ s' => LifeEnd b model ready
      ((receiving b.coex b.intrPoll workqueue nlSk tempRcvBuf poll).add .irq) s' := by
  have hrefusals := scanWorkqueue_refused_receiving b.coex b.intrPoll workqueue nlSk tempRcvBuf poll
  have hpolls := intrPollThread_refused_receiving b.coex b.intrPoll workqueue nlSk tempRcvBuf poll
  by_cases hgood : workqueue = true ∧ (b.intrPoll = true → poll = true)
  · obtain ⟨rfl, hpoll⟩ := hgood
    have hheld : s.held =
        ((receiving b.coex b.intrPoll true nlSk tempRcvBuf true).add .irq).held ∪ attached := by
      rw [hs]
      cases hintr : b.intrPoll with
      | false => rfl
      | true => rw [hpoll hintr]
    rw [sdioDisconnect_yields_of_held hdeinit htemp hheld hattached hleft hdetach]
    exact ⟨⟨fun _ => ⟨hrefusals.2 rfl, hpolls.2 hpoll, hrefused⟩, fun _ => hmistakes⟩,
      fun _ => hleftEq⟩
  · have hnot (r : Res) (hr : r.ofAttach = false) (hr' : r ∉ ((receiving b.coex b.intrPoll
        workqueue nlSk tempRcvBuf poll).add .irq).held) : r ∉ s.held := by
      rw [hs]
      intro hmem
      rcases Finset.mem_union.1 hmem with hmem | hmem
      · exact hr' hmem
      · exact Bool.false_ne_true (hr.symm.trans (hattached r hmem))
    refine (sdioDisconnect_yields_of_broken ?_).mono fun _ s' hs' =>
      ⟨⟨fun h => absurd h hs', fun h => absurd ⟨hrefusals.1 h.1, hpolls.1 h.2.1⟩ hgood⟩,
        fun h => absurd h hs'⟩
    cases workqueue with
    | false =>
      refine .inr (.inr (.inr (hnot _ rfl ?_)))
      cases b.coex <;> cases b.intrPoll <;> cases nlSk <;> cases tempRcvBuf <;> cases poll <;>
        decide
    | true =>
      have hpoll : b.intrPoll = true ∧ poll = false := by
        cases hintr : b.intrPoll <;> cases poll <;> simp_all
      obtain ⟨hintr, rfl⟩ := hpoll
      refine .inr (.inr (.inl ⟨hintr, hnot _ rfl ?_⟩))
      rw [hintr]
      cases b.coex <;> cases nlSk <;> cases tempRcvBuf <;> decide

theorem refused_receiving (coex intrPoll workqueue nlSk tempRcvBuf poll : Bool) :
    ∀ call ∈ ((receiving coex intrPoll workqueue nlSk tempRcvBuf poll).add .irq).refused,
      call ∈ [Call.acquire .scanWorkqueue, .acquire .nlSk, .acquire .tempRcvBuf,
        .acquire .intrPollThread] := by
  cases coex <;> cases intrPoll <;> cases workqueue <;> cases nlSk <;> cases tempRcvBuf <;>
    cases poll <;> decide

theorem ofAttach_receiving (coex intrPoll workqueue nlSk tempRcvBuf poll : Bool) :
    ∀ r ∈ ((receiving coex intrPoll workqueue nlSk tempRcvBuf poll).add .irq).held,
      r.ofAttach = false := by
  cases coex <;> cases intrPoll <;> cases workqueue <;> cases nlSk <;> cases tempRcvBuf <;>
    cases poll <;> decide

theorem not_attachRefused_of {refused : List (Call Res Query)} {p : Res → Prop}
    (hrefused : ∀ r, r.ofAttach = true → (.acquire r ∈ refused ↔ p r))
    (hp : ∀ r, p r →
      r ∉ [Res.channels .band2GHz, .channels .band5GHz, .hwRegistered, .debugfsDir]) :
    ¬ AttachRefused refused := by
  rintro (h | h | h | h)
  · exact hp _ ((hrefused _ rfl).1 h) (by decide)
  · exact hp _ ((hrefused _ rfl).1 h) (by decide)
  · exact hp _ ((hrefused _ rfl).1 h) (by decide)
  · exact hp _ ((hrefused _ rfl).1 h) (by decide)

theorem detached_probed (nlSk tempRcvBuf : Bool) : (Hw.probed nlSk tempRcvBuf).Detached :=
  ⟨rfl, rfl, rfl, rfl, rfl⟩

theorem sdioLife_yields (b : Build) (model : DeviceModel)
    (ready fiveGHz workqueue nlSk tempRcvBuf poll : Bool) :
    Yields Res.needs ((receiving b.coex b.intrPoll workqueue nlSk tempRcvBuf poll).add .irq)
      (sdioLife b model ready fiveGHz (.probed nlSk tempRcvBuf))
      fun _ s => LifeEnd b model ready
        ((receiving b.coex b.intrPoll workqueue nlSk tempRcvBuf poll).add .irq) s := by
  set s₀ := (receiving b.coex b.intrPoll workqueue nlSk tempRcvBuf poll).add .irq with hs₀
  have hfresh := ofAttach_receiving b.coex b.intrPoll workqueue nlSk tempRcvBuf poll
  have hclean (r : Res) (hr : r.ofAttach = true) : .acquire r ∉ s₀.refused := by
    intro hmem
    have hcases := refused_receiving _ _ _ _ _ _ _ hmem
    simp only [List.mem_cons, Call.acquire.injEq, List.not_mem_nil, or_false] at hcases
    rcases hcases with rfl | rfl | rfl | rfl <;> exact Bool.false_ne_true hr
  have hmistakes : s₀.mistakes = [] := mistakes_receiving ..
  -- the disconnection of a device that is not attached
  have hnone (s : Books) (hheld : s.held = s₀.held) (hm : s.mistakes = [])
      (hrefused : ¬ AttachRefused s.refused) (hready : ready = true → .acquire .hw ∈ s.refused) :
      Yields Res.needs s (sdioDisconnect b model (.probed nlSk tempRcvBuf))
        fun _ s => LifeEnd b model ready s₀ s := by
    refine sdioDisconnect_end ∅ ∅ rfl rfl ?_ hm hrefused
      (fun _ hr => absurd hr (Finset.notMem_empty _)) (Finset.empty_subset _) ?_
      fun s base post hs _ hworkqueue => ?_
    · rw [hheld, Finset.union_empty]
    · rw [if_neg fun h => h.2.1 (hready h.1)]
    · rw [Finset.union_empty] at hs ⊢
      rw [detach_yields_of_detached (detached_probed nlSk tempRcvBuf) model (hs ▸ hworkqueue), ← hs]
  rw [sdioLife, yields_bind]
  cases ready with
  | false =>
    rw [if_neg Bool.false_ne_true, yields_pure]
    refine hnone s₀ rfl hmistakes ?_ fun h => absurd h Bool.false_ne_true
    exact not_attachRefused_of (p := fun _ => False) (fun r hr => iff_false_intro (hclean r hr))
      fun _ => False.elim
  | true =>
    rw [if_pos rfl]
    refine (attach_yields model fiveGHz hfresh hclean).mono fun h s hend => ?_
    cases hend with
    | none hheld hm hrefused =>
      refine hnone s hheld (hm.trans hmistakes) (not_attachRefused_of hrefused ?_)
        fun _ => (hrefused .hw rfl).2 rfl
      rintro _ rfl
      decide
    | attached dbgfs hheld hm hrefused =>
      refine sdioDisconnect_end (acquiredByAttach model fiveGHz dbgfs) (leftByDetach model dbgfs)
        ?_ ?_ hheld (hm.trans hmistakes) (not_attachRefused_of hrefused ?_) ?_ ?_ ?_
        fun s base post hs hbase hworkqueue =>
          detach_yields_of_attached (detached_probed nlSk tempRcvBuf) model fiveGHz dbgfs hs hbase
            hworkqueue
      · cases model <;> cases dbgfs <;> rfl
      · cases model <;> cases dbgfs <;> rfl
      · rintro _ ⟨-, rfl⟩
        cases model <;> decide
      · cases model <;> cases fiveGHz <;> cases dbgfs <;> decide
      · cases model <;> cases dbgfs <;> decide
      · -- the entry was made if and only if it was not refused
        have hhw : .acquire .hw ∉ s.refused := fun hmem => by
          have hhw := ((hrefused .hw rfl).1 hmem).2
          cases model <;> exact Res.noConfusion hhw
        have hentry := hrefused (dbgfsEntry model) (by cases model <;> rfl)
        cases dbgfs with
        | false =>
          rw [if_neg fun h => h.2.2 (hentry.2 ⟨rfl, rfl⟩)]
          cases model <;> rfl
        | true => rw [if_pos ⟨rfl, hhw, fun hmem => Bool.noConfusion (hentry.1 hmem).1⟩]
    | broken hbroken hrefused =>
      have hstays : Yields Res.needs s (sdioDisconnect b model h)
          fun _ s' => AttachRefused s'.refused :=
        yields_of_step (P := fun s => AttachRefused s.refused) _
          (fun _ event hs => hs.step event) hrefused
      refine ((sdioDisconnect_yields_of_broken
        (hbroken.imp_right .inl)).and hstays).mono fun _ s' hs' => ?_
      exact ⟨⟨fun h => absurd h hs'.1, fun h => absurd hs'.2 h.2.2⟩, fun h => absurd h hs'.1⟩

/-! ## Runs -/

/-- The ledger of a run -/
def booksOf (s : Books) (events : List (Event (calls Res Query))) : Books :=
  events.foldl (Ledger.step Res.needs) s

/-- Surroundings in which nothing is refused -/
def granted (_ : List (Event (calls Res Query))) : (call : Call Res Query) → Call.Ans call
  | .acquire _ | .ask _ => true
  | .release _ | .touch _ => ()

/-- A build without options -/
def plainBuild : Build := ⟨false, false, false, false, false, false⟩

/-- The parameters of a module that drives WLAN alone -/
def wlanParams : Params := ⟨2, 0xff, 0xff, 1⟩

/-- The events of a probe in which nothing is refused, and of what follows -/
def grantedProbe : List (Event (calls Res Query)) :=
  (execute granted [] (sdioProbe plainBuild wlanParams 0x9117)).1

def grantedLife : List (Event (calls Res Query)) :=
  (execute granted [] (sdioLife plainBuild .dev9117 true true (.probed true true))).1

end Lifecycle
