import RsiDriver.Boot.Firmware
import RsiDriver.ToMathlib.Ledger

/-!
# The adapter from the first allocation to the last release

`rsi_91x_init` (`rsi_91x_main.c`) makes an adapter with its threads, `rsi_mac80211_attach`
(`rsi_91x_mac80211.c`) registers it when the device is ready, and `rsi_mac80211_detach` and
`rsi_91x_deinit` take all of it down again. What is acquired and released on the way is a ledger;
which attempts fail, and what the device answers, is left open.

A thread, a handler or a registration refers to the memory that it works on. A thread whose start
has failed, or which was never started, cannot be stopped; a `NULL` pointer can be freed, but a
workqueue that is `NULL` cannot be flushed.

## Main results

* `init_yields`: how `rsi_91x_init` ends;
* `deinit_yields`: `rsi_91x_deinit` releases an adapter that nothing refers to any more;
* `attach_yields`, `detach_yields_of_attached`: what an attachment acquires, and what
  `rsi_mac80211_detach` leaves of it.
-/

namespace Lifecycle

open Interaction Program
open Boot (DeviceModel EINVAL)

/-- The bands with channels -/
inductive Band
  | band2GHz
  | band5GHz
  deriving DecidableEq

/-- The USB endpoints that are received from -/
inductive RxEp
  | wlan
  | bt
  deriving DecidableEq

/-- What is acquired and released -/
inductive Res
  | adapter
  | common
  | scanWorkqueue
  | txThread
  | coexCb
  | coexThread
  | nlSk
  | rsiDev
  | functionEnabled
  | rxThread
  | tempRcvBuf
  | intrPollThread
  | irq
  | txBuffer
  | rxUrb (ep : RxEp)
  | rxSkb (ep : RxEp)
  | submitted (ep : RxEp)
  /-- What stands behind the array `rx_cb` -/
  | behindRxCb
  | hw
  | hwRegistered
  | channels (band : Band)
  | dfsentry
  | dfsentry917
  | debugfsDir
  deriving DecidableEq

/-- What a live resource refers to -/
def Res.needs : Res → Finset Res
  | txThread => {adapter, common}
  | coexThread => {common, coexCb}
  | nlSk => {adapter, common}
  | rxThread | intrPollThread => {adapter, common, rsiDev}
  | irq => {adapter, common, rsiDev, tempRcvBuf}
  | submitted ep => {adapter, common, rsiDev, rxSkb ep}
  | hwRegistered => {hw, adapter, common, scanWorkqueue, channels .band2GHz, channels .band5GHz}
  | debugfsDir => {common}
  | _ => ∅

/-- What the bus and the device are asked -/
inductive Query
  | setupcard
  | sdioSlaveRegs
  | halDeviceInit
  | masterAccessMsword
  | bulkEndpoints
  | endpointReady
  | fwStatusRead
  | fwLoaded
  deriving DecidableEq

/-- A part of the driver -/
abbrev Kernel (α : Type) := Program (calls Res Query) α

abbrev Books := Ledger Res Query

instance lawfulBEqCall : LawfulBEq (Call Res Query) := instLawfulBEq

/-- The options of the build -/
structure Build where
  /-- `CONFIG_RSI_COEX_MODE` -/
  coex : Bool
  /-- `CONFIG_RSI_BT_ALONE` -/
  btAlone : Bool
  /-- `CONFIG_RSI_ZIGB` -/
  zigb : Bool
  /-- `CONFIG_RS9116_PURISM` -/
  purism : Bool
  /-- `CONFIG_ARCH_HAVE_CUSTOM_GPIO_H` -/
  customGpio : Bool
  /-- `CONFIG_SDIO_INTR_POLL` -/
  intrPoll : Bool

/-- The parameters of the module -/
structure Params where
  ulpHandshakeMode : BitVec 8
  ulpGpioRead : BitVec 8
  ulpGpioWrite : BitVec 8
  devOperMode : BitVec 16

def GPIO_HAND_SHAKE : BitVec 8 := 1
def PACKET_HAND_SHAKE : BitVec 8 := 2

/-- `ulp_ps_handshake_mode`; without lines of its own the kernel cannot shake hands over them. -/
def Params.ulpPsHandshakeMode (p : Params) (b : Build) : BitVec 8 :=
  if b.customGpio = false ∧ p.ulpHandshakeMode = GPIO_HAND_SHAKE then PACKET_HAND_SHAKE
  else p.ulpHandshakeMode

/-- The handshake needs lines that were not given. -/
def Params.gpioMissing (p : Params) (b : Build) : Bool :=
  p.ulpPsHandshakeMode b = GPIO_HAND_SHAKE && (p.ulpGpioRead = 0xff || p.ulpGpioWrite = 0xff)

/-- `rsi_validate_oper_mode` without `CONFIG_RSI_MULTI_MODE` -/
def Build.validateOperMode (b : Build) (operMode : BitVec 16) : ℤ :=
  if b.purism then if operMode = 13 ∨ operMode = 14 then 0 else EINVAL
  else if operMode ∈ [1, 2, 3] then if b.btAlone then EINVAL else 0
  else if operMode ∈ [4, 8, 12] then if b.btAlone then 0 else EINVAL
  else if operMode ∈ [5, 6, 9, 10, 13, 14] then if b.coex then 0 else EINVAL
  else if operMode ∈ [16, 17, 32, 48] then if b.coex ∧ b.zigb then 0 else EINVAL
  else EINVAL

/-- The pointers of the adapter and of its device that the releases look at; `true` is a pointer
that is not `NULL`. `thread_done` of the transmit thread is there because the thread is stopped in
two places. -/
structure Hw where
  nlSk : Bool
  rsiDev : Bool
  txThreadDone : Bool
  tempRcvBuf : Bool
  hw : Bool
  channels2GHz : Bool
  channels5GHz : Bool
  dfsentry : Bool
  dfsentry917 : Bool

/-- The adapter that `rsi_91x_init` returns -/
def Hw.initial (nlSk : Bool) : Hw := ⟨nlSk, false, false, false, false, false, false, false, false⟩

def kfree (p : Bool) (r : Res) : Kernel Unit := if p then release r else pure ()

/-- `rsi_kill_thread` -/
def rsiKillThread (threadDone : Bool) (thread : Res) : Kernel Unit :=
  if threadDone then pure () else release thread

/-! ## `rsi_91x_init` and `rsi_91x_deinit` -/

/-- `rsi_coex_init`; a control block whose thread does not start stays. -/
def rsiCoexInit : Kernel Bool := do
  if ← acquire .coexCb then acquire .coexThread else pure false

/-- `rsi_coex_deinit`, in a build with it -/
def rsiCoexDeinit (coex : Bool) : Kernel Unit :=
  if coex then do
    rsiKillThread false .coexThread
    release .coexCb
  else pure ()

/-- `err` -/
def initErr : Kernel (Option Hw) := do
  release .common
  release .adapter
  pure none

/-- `rsi_91x_init`, once its threads are due -/
def initThreads (coex : Bool) : Kernel (Option Hw) := do
  if ← acquire .txThread then
    if ← (if coex then rsiCoexInit else pure true) then
      -- `nl_sk_init` may fail
      let nlSk ← acquire .nlSk
      pure (some (Hw.initial nlSk))
    else initErr
  else initErr

/-- `rsi_91x_init` -/
def rsi91xInit (b : Build) (p : Params) : Kernel (Option Hw) := do
  if ← acquire .adapter then
    if ← acquire .common then
      -- the workqueue may be `NULL`
      let _ ← acquire .scanWorkqueue
      if p.gpioMissing b then initErr else initThreads b.coex
    else do
      release .adapter
      pure none
  else pure none

/-- `rsi_91x_deinit` -/
def rsi91xDeinit (coex : Bool) (h : Hw) : Kernel Unit := do
  touch .adapter
  touch .scanWorkqueue
  release .scanWorkqueue
  rsiKillThread h.txThreadDone .txThread
  rsiCoexDeinit coex
  kfree h.nlSk .nlSk
  release .common
  kfree h.rsiDev .rsiDev
  release .adapter

/-- An attempt with the given outcome -/
def Books.attempt (s : Books) (ok : Bool) (r : Res) : Books :=
  if ok then s.add r else s.refuse (.acquire r)

/-- The ledger behind `rsi_91x_init`, if it gets to its end -/
def initialised (coex workqueue nlSk : Bool) : Books :=
  let s := Books.attempt ((Ledger.empty.add .adapter).add .common) workqueue .scanWorkqueue
  let s := s.add .txThread
  Books.attempt (if coex then (s.add .coexCb).add .coexThread else s) nlSk .nlSk

/-- What a failed `rsi_91x_init` leaves held, from what was refused -/
def leftByInit (refused : List (Call Res Query)) : Finset Res :=
  if .acquire .adapter ∈ refused ∨ .acquire .common ∈ refused then ∅
  else
    (if .acquire .scanWorkqueue ∈ refused then ∅ else {.scanWorkqueue}) ∪
      (if .acquire .coexCb ∈ refused then {.txThread} else ∅) ∪
      (if .acquire .coexThread ∈ refused then {.txThread, .coexCb} else ∅)

/-- The co-existence module could not be initialised. -/
def CoexRefused (refused : List (Call Res Query)) : Prop :=
  .acquire .coexCb ∈ refused ∨ .acquire .coexThread ∈ refused

instance (refused : List (Call Res Query)) : Decidable (CoexRefused refused) :=
  inferInstanceAs (Decidable (_ ∨ _))

/-- `rsi_91x_init` has failed. -/
def InitFailed (gpioMissing : Bool) (refused : List (Call Res Query)) : Prop :=
  .acquire .adapter ∈ refused ∨ .acquire .common ∈ refused ∨ gpioMissing = true ∨
    .acquire .txThread ∈ refused ∨ CoexRefused refused

instance (gpioMissing : Bool) (refused : List (Call Res Query)) :
    Decidable (InitFailed gpioMissing refused) :=
  inferInstanceAs (Decidable (_ ∨ _))

/-- How `rsi_91x_init` ends. A failure behind the workqueue leaves that, and the memory is freed
under the transmit thread if the co-existence module fails. -/
def InitEnd (b : Build) (p : Params) : Option Hw → Books → Prop
  | some h, s => p.gpioMissing b = false ∧
      ∃ workqueue nlSk, s = initialised b.coex workqueue nlSk ∧ h = .initial nlSk
  | none, s => InitFailed (p.gpioMissing b) s.refused ∧ s.held = leftByInit s.refused ∧
      (s.mistakes = [] ↔ ¬ CoexRefused s.refused)

theorem initErr_yields {s : Books} {post : Option Hw → Books → Prop} :
    Yields Res.needs s initErr post ↔
      post none ((s.drop Res.needs .common).drop Res.needs .adapter) := by
  simp only [initErr, yields_bind, yields_release, yields_pure]

theorem initThreads_yields (b : Build) (p : Params) (hgpio : p.gpioMissing b = false)
    (workqueue : Bool) :
    Yields Res.needs
      (Books.attempt ((Ledger.empty.add .adapter).add .common) workqueue .scanWorkqueue)
      (initThreads b.coex) (InitEnd b p) := by
  have hup (nlSk : Bool) {s : Books} (hs : s = initialised b.coex workqueue nlSk) :
      InitEnd b p (some (Hw.initial nlSk)) s :=
    ⟨hgpio, workqueue, nlSk, hs, rfl⟩
  rw [initThreads, yields_bind, yields_acquire]
  constructor
  · rw [if_neg Bool.false_ne_true, initErr_yields, InitEnd, hgpio]
    cases workqueue <;> exact ⟨by decide, by decide, by decide⟩
  rw [if_pos rfl, yields_bind]
  cases hcoex : b.coex with
  | false =>
    rw [hcoex] at hup
    rw [if_neg Bool.false_ne_true, yields_pure, if_pos rfl, yields_bind, yields_acquire]
    exact ⟨hup false rfl, hup true rfl⟩
  | true =>
    rw [hcoex] at hup
    rw [if_pos rfl, rsiCoexInit, yields_bind, yields_acquire]
    constructor
    · rw [if_neg Bool.false_ne_true, yields_pure, if_neg Bool.false_ne_true, initErr_yields,
        InitEnd, hgpio]
      cases workqueue <;> exact ⟨by decide, by decide, by decide⟩
    rw [if_pos rfl, yields_acquire]
    constructor
    · rw [if_neg Bool.false_ne_true, initErr_yields, InitEnd, hgpio]
      cases workqueue <;> exact ⟨by decide, by decide, by decide⟩
    · rw [if_pos rfl, yields_bind, yields_acquire]
      exact ⟨hup false rfl, hup true rfl⟩

theorem init_yields (b : Build) (p : Params) :
    Yields Res.needs .empty (rsi91xInit b p) (InitEnd b p) := by
  rw [rsi91xInit, yields_bind, yields_acquire]
  refine ⟨⟨.inl (by decide), by decide, by decide⟩, ?_⟩
  rw [if_pos rfl, yields_bind, yields_acquire]
  constructor
  · simp only [Bool.false_eq_true, if_false, yields_bind, yields_release, yields_pure]
    exact ⟨.inr (.inl (by decide)), by decide, by decide⟩
  · rw [if_pos rfl, yields_bind]
    have hrest (workqueue : Bool) : Yields Res.needs
        (Books.attempt ((Ledger.empty.add .adapter).add .common) workqueue .scanWorkqueue)
        (if p.gpioMissing b then initErr else initThreads b.coex) (InitEnd b p) := by
      split_ifs with hgpio
      · rw [initErr_yields]
        cases workqueue <;> exact ⟨.inr (.inr (.inl hgpio)), by decide, by decide⟩
      · exact initThreads_yields b p (eq_false_of_ne_true hgpio) workqueue
    exact yields_acquire.2 ⟨hrest false, hrest true⟩

/-- What `rsi_91x_deinit` releases, in this order -/
def releasedByDeinit (coex : Bool) (h : Hw) : List Res :=
  [.scanWorkqueue] ++ (if h.txThreadDone then [] else [.txThread]) ++
    (if coex then [.coexThread, .coexCb] else []) ++ (if h.nlSk then [.nlSk] else []) ++
    [.common] ++ (if h.rsiDev then [.rsiDev] else []) ++ [.adapter]

theorem kfree_yields {s : Books} {p : Bool} {r : Res} {post : Unit → Books → Prop} :
    Yields Res.needs s (kfree p r) post ↔
      post () ((if p then [r] else []).foldl (Ledger.drop Res.needs) s) := by
  rw [kfree]
  cases p with
  | true => exact yields_release
  | false => exact yields_pure

theorem rsiKillThread_yields {s : Books} {done : Bool} {r : Res} {post : Unit → Books → Prop} :
    Yields Res.needs s (rsiKillThread done r) post ↔
      post () ((if done then [] else [r]).foldl (Ledger.drop Res.needs) s) := by
  rw [rsiKillThread]
  cases done with
  | true => exact yields_pure
  | false => exact yields_release

/-- `rsi_91x_deinit` releases one after the other. -/
theorem deinit_yields_foldl (coex : Bool) (h : Hw) {s : Books} {post : Unit → Books → Prop} :
    Yields Res.needs s (rsi91xDeinit coex h) post ↔
      post () ((releasedByDeinit coex h).foldl (Ledger.drop Res.needs)
        ((s.use .adapter).use .scanWorkqueue)) := by
  have hcoex {s : Books} {post : Unit → Books → Prop} :
      Yields Res.needs s (rsiCoexDeinit coex) post ↔
        post () ((if coex then [.coexThread, .coexCb] else []).foldl
          (Ledger.drop Res.needs) s) := by
    rw [rsiCoexDeinit]
    cases coex with
    | true => exact yields_bind.trans (rsiKillThread_yields.trans yields_release)
    | false => exact yields_pure
  simp only [rsi91xDeinit, yields_bind, yields_touch, yields_release, rsiKillThread_yields, hcoex,
    kfree_yields, releasedByDeinit, List.foldl_append, List.foldl_cons, List.foldl_nil]

/-- **`rsi_91x_deinit`**, behind other releases, releases an adapter beside anything that does not
refer to it. -/
theorem deinit_yields (coex : Bool) (h : Hw) (l : List Res) {s : Books} {base own : Finset Res}
    {post : Unit → Books → Prop} (hs : s.held = base ∪ own)
    (hown : Ledger.UsersFirst Res.needs own (l ++ releasedByDeinit coex h))
    (hbase : ∀ r ∈ l ++ releasedByDeinit coex h, r ∉ base ∧ ∀ user ∈ base, r ∉ user.needs) :
    Yields Res.needs (l.foldl (Ledger.drop Res.needs) s) (rsi91xDeinit coex h) post ↔
      post () { s with held := base ∪ (own \ (l ++ releasedByDeinit coex h).toFinset) } := by
  have hmem {r : Res} (hr : r ∈ releasedByDeinit coex h) :
      r ∈ (l.foldl (Ledger.drop Res.needs) s).held := by
    rw [Ledger.held_foldl_drop, hs]
    refine Finset.mem_sdiff.2 ⟨Finset.mem_union_right _ (hown.subset r ?_), fun hl => ?_⟩
    · exact List.mem_append_right _ hr
    · exact List.disjoint_of_nodup_append hown.nodup (List.mem_toFinset.1 hl) hr
  rw [deinit_yields_foldl, Ledger.use_of_mem (hmem (by simp [releasedByDeinit])),
    Ledger.use_of_mem (hmem (by simp [releasedByDeinit])), ← List.foldl_append,
    Ledger.foldl_drop_frame hs hown hbase]

/-! ## `rsi_mac80211_attach` and `rsi_mac80211_detach` -/

/-- The entry of a device in debugfs -/
def dbgfsEntry (model : DeviceModel) : Res :=
  match model with
  | .dev9113 | .dev9116 => .dfsentry
  | .dev9117 | .dev917 => .dfsentry917

/-- The pointer to it -/
def Hw.setDfsentry (h : Hw) (model : DeviceModel) : Hw :=
  match model with
  | .dev9113 | .dev9116 => { h with dfsentry := true }
  | .dev9117 | .dev917 => { h with dfsentry917 := true }

/-- `rsi_init_dbgfs` and `rsi_init_917_dbgfs`; without its directory the entry is freed, but the
pointer to it stays. -/
def rsiInitDbgfs (model : DeviceModel) (h : Hw) : Kernel Hw := do
  if ← acquire (dbgfsEntry model) then
    if ← acquire .debugfsDir then pure (h.setDfsentry model)
    else do
      release (dbgfsEntry model)
      pure (h.setDfsentry model)
  else pure h

/-- `rsi_register_rates_channels`; the channels are written without a look at the pointer. -/
def rsiRegisterRatesChannels (band : Band) : Kernel Bool := do
  let channels ← acquire (.channels band)
  touch (.channels band)
  pure channels

/-- `rsi_mac80211_attach` -/
def rsiMac80211Attach (model : DeviceModel) (fiveGHz : Bool) (h : Hw) : Kernel Hw := do
  if ← acquire .hw then
    let channels2GHz ← rsiRegisterRatesChannels .band2GHz
    let channels5GHz ← (if fiveGHz then rsiRegisterRatesChannels .band5GHz else pure false)
    let h := { h with hw := true, channels2GHz := channels2GHz, channels5GHz := channels5GHz }
    if ← acquire .hwRegistered then rsiInitDbgfs model h else pure h
  else pure h

/-- `dfsentry` or `dfsentry_917` is not `NULL`. -/
def Hw.dfsentryOf (h : Hw) (model : DeviceModel) : Bool :=
  match model with
  | .dev9113 | .dev9116 => h.dfsentry
  | .dev9117 | .dev917 => h.dfsentry917

/-- `rsi_remove_dbgfs`, `rsi_remove_917_dbgfs` -/
def rsiRemoveDbgfs (model : DeviceModel) (h : Hw) : Kernel Unit :=
  if h.dfsentryOf model then do
    touch (dbgfsEntry model)
    release .debugfsDir
  else pure ()

/-- `ieee80211_unregister_hw` and `ieee80211_free_hw`, if there is one -/
def freeHw (h : Hw) : Kernel Unit :=
  if h.hw then do
    release .hwRegistered
    release .hw
  else pure ()

/-- `rsi_mac80211_detach` -/
def rsiMac80211Detach (model : DeviceModel) (h : Hw) : Kernel Unit := do
  touch .scanWorkqueue
  freeHw h
  kfree h.channels2GHz (.channels .band2GHz)
  kfree h.channels5GHz (.channels .band5GHz)
  rsiRemoveDbgfs model h
  kfree h.dfsentry .dfsentry

/-- The adapter behind an attachment without a mistake, with or without its entry in debugfs -/
def Hw.attached (h : Hw) (model : DeviceModel) (fiveGHz dbgfs : Bool) : Hw :=
  let h := { h with hw := true, channels2GHz := true, channels5GHz := fiveGHz }
  if dbgfs then h.setDfsentry model else h

/-- What is acquired by such an attachment -/
def acquiredByAttach (model : DeviceModel) (fiveGHz dbgfs : Bool) : Finset Res :=
  {.hw, .hwRegistered, .channels .band2GHz} ∪ (if fiveGHz then {.channels .band5GHz} else ∅) ∪
    if dbgfs then {dbgfsEntry model, .debugfsDir} else ∅

/-- What `rsi_mac80211_detach` releases before it looks at the entry in debugfs -/
def releasedFirst (h : Hw) : List Res :=
  (if h.hw then [.hwRegistered, .hw] else []) ++
    (if h.channels2GHz then [.channels .band2GHz] else []) ++
    if h.channels5GHz then [.channels .band5GHz] else []

/-- What it releases then -/
def releasedLast (model : DeviceModel) (h : Hw) : List Res :=
  (if h.dfsentryOf model then [.debugfsDir] else []) ++ if h.dfsentry then [.dfsentry] else []

theorem detach_yields_foldl (model : DeviceModel) (h : Hw) {s : Books}
    {post : Unit → Books → Prop} :
    Yields Res.needs s (rsiMac80211Detach model h) post ↔
      post () ((releasedLast model h).foldl (Ledger.drop Res.needs)
        ((if h.dfsentryOf model then [dbgfsEntry model] else []).foldl Ledger.use
          ((releasedFirst h).foldl (Ledger.drop Res.needs) (s.use .scanWorkqueue)))) := by
  have hfree {s : Books} {post : Unit → Books → Prop} :
      Yields Res.needs s (freeHw h) post ↔
        post () ((if h.hw then [.hwRegistered, .hw] else []).foldl (Ledger.drop Res.needs) s) := by
    rw [freeHw]
    cases h.hw with
    | true => exact yields_bind.trans (yields_release.trans yields_release)
    | false => exact yields_pure
  have hdbgfs {s : Books} {post : Unit → Books → Prop} :
      Yields Res.needs s (rsiRemoveDbgfs model h) post ↔
        post () ((if h.dfsentryOf model then [.debugfsDir] else []).foldl (Ledger.drop Res.needs)
          ((if h.dfsentryOf model then [dbgfsEntry model] else []).foldl Ledger.use s)) := by
    rw [rsiRemoveDbgfs]
    cases h.dfsentryOf model with
    | true => exact yields_bind.trans (yields_touch.trans yields_release)
    | false => exact yields_pure
  simp only [rsiMac80211Detach, yields_bind, yields_touch, hfree, kfree_yields, hdbgfs,
    releasedFirst, releasedLast, List.foldl_append]

/-- What is acquired by an attachment only -/
def Res.ofAttach : Res → Bool
  | hw | hwRegistered | channels _ | dfsentry | dfsentry917 | debugfsDir => true
  | _ => false

/-- Nothing else refers to it. -/
theorem ofAttach_of_mem_needs {r user : Res} (hr : r.ofAttach = true) (h : r ∈ user.needs) :
    user.ofAttach = true := by
  cases user <;> first | rfl | (cases r <;> simp_all [Res.needs, Res.ofAttach])

/-- The pointers of an adapter that was not attached -/
structure Hw.Detached (h : Hw) : Prop where
  hw : h.hw = false
  channels2GHz : h.channels2GHz = false
  channels5GHz : h.channels5GHz = false
  dfsentry : h.dfsentry = false
  dfsentry917 : h.dfsentry917 = false

/-- What is released of an attached adapter -/
def releasedOfAttached (model : DeviceModel) (fiveGHz dbgfs : Bool) : List Res :=
  [.hwRegistered, .hw, .channels .band2GHz] ++ (if fiveGHz then [.channels .band5GHz] else []) ++
    if dbgfs then
      match model with
      | .dev9113 | .dev9116 => [.debugfsDir, .dfsentry]
      | .dev9117 | .dev917 => [.debugfsDir]
    else []

theorem releasedFirst_append_releasedLast {h : Hw} (hh : h.Detached) (model : DeviceModel)
    (fiveGHz dbgfs : Bool) :
    releasedFirst (h.attached model fiveGHz dbgfs) ++
      releasedLast model (h.attached model fiveGHz dbgfs) =
        releasedOfAttached model fiveGHz dbgfs := by
  cases model <;> cases dbgfs <;>
    simp [releasedFirst, releasedLast, releasedOfAttached, Hw.attached, Hw.setDfsentry,
      Hw.dfsentryOf, hh.dfsentry, hh.dfsentry917]

theorem usersFirst_releasedOfAttached (model : DeviceModel) (fiveGHz dbgfs : Bool) :
    Ledger.UsersFirst Res.needs (acquiredByAttach model fiveGHz dbgfs)
      (releasedOfAttached model fiveGHz dbgfs) := by
  cases model <;> cases fiveGHz <;> cases dbgfs <;> decide

/-- What a detachment leaves: the entry of an RS9117 is not freed. -/
def leftByDetach (model : DeviceModel) (dbgfs : Bool) : Finset Res :=
  match model with
  | .dev9113 | .dev9116 => ∅
  | .dev9117 | .dev917 => if dbgfs then {.dfsentry917} else ∅

/-- **`rsi_mac80211_detach`** of an attached adapter, beside anything else. -/
theorem detach_yields_of_attached {h : Hw} (hh : h.Detached) (model : DeviceModel)
    (fiveGHz dbgfs : Bool) {s : Books} {base : Finset Res} {post : Unit → Books → Prop}
    (hs : s.held = base ∪ acquiredByAttach model fiveGHz dbgfs)
    (hbase : ∀ r ∈ base, r.ofAttach = false) (hworkqueue : Res.scanWorkqueue ∈ base) :
    Yields Res.needs s (rsiMac80211Detach model (h.attached model fiveGHz dbgfs)) post ↔
      post () { s with held := base ∪ leftByDetach model dbgfs } := by
  have hown : ∀ r ∈ releasedOfAttached model fiveGHz dbgfs, r.ofAttach = true := by
    cases model <;> cases fiveGHz <;> cases dbgfs <;> decide
  -- the entry in debugfs is still there when it is looked at
  have hentry : (if (h.attached model fiveGHz dbgfs).dfsentryOf model
      then [dbgfsEntry model] else []).foldl Ledger.use
        ((releasedFirst (h.attached model fiveGHz dbgfs)).foldl (Ledger.drop Res.needs) s) =
      (releasedFirst (h.attached model fiveGHz dbgfs)).foldl (Ledger.drop Res.needs) s := by
    split_ifs with hpointer
    · have hdbgfs : dbgfs = true := by
        cases dbgfs with
        | true => rfl
        | false => cases model <;>
            simp [Hw.attached, Hw.dfsentryOf, hh.dfsentry, hh.dfsentry917] at hpointer
      subst hdbgfs
      refine Ledger.use_of_mem ?_
      rw [Ledger.held_foldl_drop, hs]
      refine Finset.mem_sdiff.2 ⟨Finset.mem_union_right _ ?_, ?_⟩
      · simp [acquiredByAttach]
      · cases model <;> cases fiveGHz <;>
          simp [releasedFirst, Hw.attached, Hw.setDfsentry, dbgfsEntry]
    · rfl
  have hleft : acquiredByAttach model fiveGHz dbgfs \
      (releasedOfAttached model fiveGHz dbgfs).toFinset = leftByDetach model dbgfs := by
    cases model <;> cases fiveGHz <;> cases dbgfs <;> decide
  rw [detach_yields_foldl, Ledger.use_of_mem (by rw [hs]; exact Finset.mem_union_left _ hworkqueue),
    hentry, ← List.foldl_append, releasedFirst_append_releasedLast hh,
    Ledger.foldl_drop_frame hs (usersFirst_releasedOfAttached model fiveGHz dbgfs), hleft]
  refine fun r hr => ⟨fun hmem => ?_, fun user hmem hneeds => ?_⟩
  · exact Bool.false_ne_true ((hbase r hmem).symm.trans (hown r hr))
  · have huser := ofAttach_of_mem_needs (hown r hr) hneeds
    exact Bool.false_ne_true ((hbase user hmem).symm.trans huser)

theorem detach_yields_of_detached {h : Hw} (hh : h.Detached) (model : DeviceModel) {s : Books}
    {post : Unit → Books → Prop} (hworkqueue : Res.scanWorkqueue ∈ s.held) :
    Yields Res.needs s (rsiMac80211Detach model h) post ↔ post () s := by
  have hfirst : releasedFirst h = [] := by
    simp [releasedFirst, hh.hw, hh.channels2GHz, hh.channels5GHz]
  have hpointer : h.dfsentryOf model = false := by
    cases model <;> simp [Hw.dfsentryOf, hh.dfsentry, hh.dfsentry917]
  have hlast : releasedLast model h = [] := by simp [releasedLast, hpointer, hh.dfsentry]
  rw [detach_yields_foldl, hfirst, hlast, hpointer, Ledger.use_of_mem hworkqueue]
  rfl

/-- An attempt was refused that `rsi_mac80211_attach` depends on although it goes on, or returns
with a pointer that its counterpart follows. -/
def AttachRefused (refused : List (Call Res Query)) : Prop :=
  .acquire (.channels .band2GHz) ∈ refused ∨ .acquire (.channels .band5GHz) ∈ refused ∨
    .acquire .hwRegistered ∈ refused ∨ .acquire .debugfsDir ∈ refused

theorem AttachRefused.step {s : Books} (h : AttachRefused s.refused)
    (event : Event (calls Res Query)) : AttachRefused (s.step Res.needs event).refused :=
  h.imp (Ledger.mem_refused_step · event) (Or.imp (Ledger.mem_refused_step · event)
    (Or.imp (Ledger.mem_refused_step · event) (Ledger.mem_refused_step · event)))

/-- `rsi_mac80211_detach` follows a pointer to what is not there. -/
def DetachBreaks (model : DeviceModel) (h : Hw) (held : Finset Res) : Prop :=
  (h.hw = true ∧ Res.hwRegistered ∉ held) ∨ (h.dfsentryOf model = true ∧ dbgfsEntry model ∉ held)

/-- How an attachment ends -/
inductive AttachEnd (model : DeviceModel) (fiveGHz : Bool) (h : Hw) (s : Books) : Hw → Books → Prop
  | none {s'} (hheld : s'.held = s.held) (hmistakes : s'.mistakes = s.mistakes)
      (hrefused : ∀ r, r.ofAttach = true → (.acquire r ∈ s'.refused ↔ r = .hw)) :
      AttachEnd model fiveGHz h s h s'
  | attached {s'} (dbgfs : Bool)
      (hheld : s'.held = s.held ∪ acquiredByAttach model fiveGHz dbgfs)
      (hmistakes : s'.mistakes = s.mistakes)
      (hrefused : ∀ r, r.ofAttach = true →
        (.acquire r ∈ s'.refused ↔ dbgfs = false ∧ r = dbgfsEntry model)) :
      AttachEnd model fiveGHz h s (h.attached model fiveGHz dbgfs) s'
  | broken {h' s'} (hbroken : s'.mistakes ≠ [] ∨ DetachBreaks model h' s'.held)
      (hrefused : AttachRefused s'.refused) : AttachEnd model fiveGHz h s h' s'

theorem attachEnd_of_mistake {model : DeviceModel} {fiveGHz : Bool} {h : Hw} {s s' : Books}
    (p : Kernel Hw) (hmistakes : s'.mistakes ≠ []) (hrefused : AttachRefused s'.refused) :
    Yields Res.needs s' p (AttachEnd model fiveGHz h s) :=
  (yields_of_step (P := fun s => s.mistakes ≠ [] ∧ AttachRefused s.refused) p
    (fun _ event hs => ⟨Ledger.mistakes_step_ne_nil hs.1 event, hs.2.step event⟩)
    ⟨hmistakes, hrefused⟩).mono fun _ _ hs => .broken (.inl hs.1) hs.2

/-- The registration, and the entry in debugfs -/
theorem registerHw_yields {h : Hw} (model : DeviceModel) (fiveGHz : Bool) {s s' : Books}
    (hfresh : ∀ r ∈ s.held, r.ofAttach = false)
    (hheld : s'.held = s.held ∪ ({.hw, .channels .band2GHz} ∪
      if fiveGHz then {.channels .band5GHz} else ∅))
    (hmistakes : s'.mistakes = s.mistakes)
    (hclean : ∀ r, r.ofAttach = true → .acquire r ∉ s'.refused) :
    Yields Res.needs s'
      (acquire .hwRegistered >>= fun registered => if registered then
        rsiInitDbgfs model { h with hw := true, channels2GHz := true, channels5GHz := fiveGHz }
      else pure { h with hw := true, channels2GHz := true, channels5GHz := fiveGHz })
      (AttachEnd model fiveGHz h s) := by
  have hnot (r : Res) (hr : r.ofAttach = true) : r ∉ s.held := fun hmem =>
    Bool.false_ne_true ((hfresh r hmem).symm.trans hr)
  have hregistered : Res.hwRegistered ∉ s'.held := by
    rw [hheld]
    cases fiveGHz <;> simp [hnot .hwRegistered rfl]
  have hentry : dbgfsEntry model ∉ insert .hwRegistered s'.held := by
    rw [hheld]
    cases model <;> cases fiveGHz <;>
      simp [dbgfsEntry, hnot .dfsentry rfl, hnot .dfsentry917 rfl]
  have hdir : Res.debugfsDir ∉ insert (dbgfsEntry model) (insert .hwRegistered s'.held) := by
    rw [hheld]
    cases model <;> cases fiveGHz <;> simp [dbgfsEntry, hnot .debugfsDir rfl]
  rw [yields_bind, yields_acquire, Ledger.add_of_notMem hregistered]
  constructor
  · -- `adapter->hw` stays, and is not registered
    exact .broken (.inr (.inl ⟨rfl, hregistered⟩)) (.inr (.inr (.inl (.head _))))
  rw [if_pos rfl, rsiInitDbgfs, yields_bind, yields_acquire, Ledger.add_of_notMem hentry]
  constructor
  · refine .attached false ?_ hmistakes fun r hr => ?_
    swap
    · simp [hclean r hr]
    show insert Res.hwRegistered s'.held = _
    rw [hheld]
    ext r
    simp only [acquiredByAttach, Finset.mem_insert, Finset.mem_union, Finset.mem_singleton]
    tauto
  rw [if_pos rfl, yields_bind, yields_acquire, Ledger.add_of_notMem hdir]
  constructor
  · -- the entry is freed, and the pointer to it stays
    rw [if_neg Bool.false_ne_true, yields_bind, yields_release, yields_pure]
    refine .broken (.inr (.inr ⟨?_, ?_⟩)) (.inr (.inr (.inr (.head _))))
    · cases model <;> rfl
    · exact fun hmem => (Finset.mem_erase.1 hmem).1 rfl
  · refine .attached true ?_ hmistakes fun r hr => ?_
    swap
    · simp [hclean r hr]
    show insert Res.debugfsDir (insert (dbgfsEntry model) (insert Res.hwRegistered s'.held)) = _
    rw [hheld]
    ext r
    simp only [acquiredByAttach, Finset.mem_insert, Finset.mem_union, Finset.mem_singleton, if_true]
    tauto

/-- The channels of a band are written without a mistake if there is memory for them. -/
theorem registerRatesChannels_yields {band : Band} {s : Books} {post : Bool → Books → Prop}
    (hfresh : Res.channels band ∉ s.held)
    (hfailed : ∀ s', s'.mistakes ≠ [] → .acquire (.channels band) ∈ s'.refused → post false s')
    (hok : post true { s with held := insert (.channels band) s.held }) :
    Yields Res.needs s (rsiRegisterRatesChannels band) post := by
  rw [rsiRegisterRatesChannels, yields_bind, yields_acquire, Ledger.add_of_notMem hfresh]
  simp only [yields_bind, yields_touch, yields_pure]
  constructor
  · have huse : (s.refuse (.acquire (.channels band))).use (.channels band) =
        { s.refuse (.acquire (.channels band)) with
          mistakes := .notHeld (.channels band) :: s.mistakes } := if_neg hfresh
    rw [huse]
    exact hfailed _ (List.cons_ne_nil _ _) (.head _)
  · rw [Ledger.use_of_mem (Finset.mem_insert_self _ _)]
    exact hok

/-- **How an attachment ends**, from an adapter that is not attached -/
theorem attach_yields {h : Hw} (model : DeviceModel) (fiveGHz : Bool) {s : Books}
    (hfresh : ∀ r ∈ s.held, r.ofAttach = false)
    (hclean : ∀ r, r.ofAttach = true → .acquire r ∉ s.refused) :
    Yields Res.needs s (rsiMac80211Attach model fiveGHz h) (AttachEnd model fiveGHz h s) := by
  have hnot (r : Res) (hr : r.ofAttach = true) : r ∉ s.held := fun hmem =>
    Bool.false_ne_true ((hfresh r hmem).symm.trans hr)
  rw [rsiMac80211Attach, yields_bind, yields_acquire, Ledger.add_of_notMem (hnot .hw rfl)]
  constructor
  · exact .none rfl rfl fun r hr => by simp [hclean r hr]
  rw [if_pos rfl, yields_bind]
  refine registerRatesChannels_yields (by simp [hnot (.channels .band2GHz) rfl])
    (fun s' hmistakes hmem => attachEnd_of_mistake _ hmistakes (.inl hmem)) ?_
  rw [yields_bind]
  cases fiveGHz with
  | false =>
    rw [if_neg Bool.false_ne_true, yields_pure]
    exact registerHw_yields model false hfresh (by ext r; simp; tauto) rfl hclean
  | true =>
    rw [if_pos rfl]
    refine registerRatesChannels_yields (by simp [hnot (.channels .band5GHz) rfl])
      (fun s' hmistakes hmem => attachEnd_of_mistake _ hmistakes (.inr (.inl hmem))) ?_
    exact registerHw_yields model true hfresh (by ext r; simp; tauto) rfl hclean

/-- A detachment that follows a pointer to what is not there makes a mistake. -/
theorem detach_yields_of_breaks {model : DeviceModel} {h : Hw} {s : Books}
    (hbreaks : DetachBreaks model h s.held) :
    Yields Res.needs s (rsiMac80211Detach model h) fun _ s' => s'.mistakes ≠ [] := by
  have hheld : (s.use .scanWorkqueue).held = s.held := by
    unfold Ledger.use
    split_ifs <;> rfl
  refine (detach_yields_foldl model h).2 (Ledger.mistakes_foldl_drop_ne_nil ?_ _)
  rcases hbreaks with ⟨hhw, hnot⟩ | ⟨hpointer, hnot⟩
  · have hfirst : ((releasedFirst h).foldl (Ledger.drop Res.needs)
        (s.use .scanWorkqueue)).mistakes ≠ [] :=
      Ledger.mistakes_foldl_drop_of_notMem (r := .hwRegistered) (by simp [releasedFirst, hhw])
        (by rw [hheld]; exact hnot)
    split_ifs
    · exact Ledger.mistakes_use_ne_nil hfirst _
    · exact hfirst
  · rw [if_pos hpointer]
    show (Ledger.use _ _).mistakes ≠ []
    rw [Ledger.use, if_neg]
    · exact List.cons_ne_nil _ _
    · rw [Ledger.held_foldl_drop, hheld]
      exact fun hmem => hnot (Finset.mem_sdiff.1 hmem).1

/-- A workqueue that is not there cannot be flushed. -/
theorem detach_yields_of_notMem (model : DeviceModel) (h : Hw) {s : Books}
    (hworkqueue : Res.scanWorkqueue ∉ s.held) :
    Yields Res.needs s (rsiMac80211Detach model h) fun _ s' => s'.mistakes ≠ [] := by
  rw [rsiMac80211Detach, yields_bind, yields_touch, Ledger.use, if_neg hworkqueue]
  exact yields_mistakes_ne_nil _ (List.cons_ne_nil _ _)

end Lifecycle
