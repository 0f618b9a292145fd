import Mathlib.Data.Nat.Notation
import Mathlib.Tactic.SplitIfs

/-!
# Hardware scans

A scan request of mac80211 is served in one of two ways. Without a connection a work item visits the
channels one by one (`rsi_scan_start`); with a connection the device scans in the background and
indicates the end (`BG_SCAN_PROBE_REQ`). Either end is reported with `ieee80211_scan_completed`.
`rsi_mac80211_hw_scan_cancel` ends a scan early and waits for `cancel_hw_scan_event`
(`rsi_91x_mac80211.c`, `rsi_91x_mgmt.c`; the build with `OFFLOAD_SCAN_TO_DEVICE` and without
`CONFIG_STA_PLUS_AP` and `CONFIG_RSI_P2P`, background scans from debugfs not used).

The work item, the two calls of mac80211 and the interface going down run concurrently; a step goes
from one wait, lock or look at shared data to the next. What a wait answers, which frames can be
sent and whether the interface is connected are inputs of a step. The wait for a confirm may end
with or without it, both with a status that is not negative; the status is negative when the wait is
interrupted.
-/

namespace Scan

/-- `struct ieee80211_channel`, the flags that `rsi_scan_start` looks at. -/
structure Channel where
  disabled : Bool
  noIr : Bool
  radar : Bool
  deriving DecidableEq, Repr

/-- `struct cfg80211_scan_request` -/
structure ScanRequest where
  nSsids : ℕ
  channels : List Channel
  deriving DecidableEq, Repr

/-- The frames of a background scan: none, queued for the transmit thread, or with the device. -/
inductive BgScan
  | idle
  | queued
  | running
  deriving DecidableEq, Repr

/-- `struct rsi_common`. The last three fields belong to the outside: what became of the frames of
a background scan, whether a request was accepted and not reported, and how often a completion was
reported without one. -/
structure Common where
  scanRequest : Option ScanRequest
  scanInProg : Bool
  bgscanInProg : Bool
  hwScanCancel : Bool
  hwscanEn : Bool
  bgscanEn : Bool
  sendInitialBgscanChan : Bool
  /-- `bgscan_info.num_user_channels` -/
  numUserChannels : ℕ
  ifaceDown : Bool
  /-- `cancel_hw_scan_event` is set. -/
  cancelHwScanEvent : Bool
  /-- `adapter->auto_chan_sel` -/
  autoChanSel : Bool
  /-- The channels of an ACX module, `rsi_2ghz_acx_channels`. -/
  acxChannels : Option (List Channel)
  /-- `common->mutex` is locked. -/
  mutex : Bool
  bgscan : BgScan
  outstanding : Bool
  spurious : ℕ
  deriving DecidableEq, Repr

namespace Common

/-- `ieee80211_scan_completed` -/
def scanCompleted (c : Common) : Common :=
  if c.outstanding then { c with outstanding := false } else { c with spurious := c.spurious + 1 }

/-- `rsi_send_bgscan_params`: `ok` says that there is a valid channel and memory for the frame. With
more than `MAX_BG_CHAN_FROM_USER` channels the first and the second half go out in turn. -/
def sendBgscanParams (c : Common) (enable ok : Bool) : Bool × Common :=
  if ok then
    (true, if enable = true ∧ 24 < c.numUserChannels then
        { c with sendInitialBgscanChan := !c.sendInitialBgscanChan }
      else c)
  else (false, c)

/-- `rsi_send_bgscan_probe_req`, the frame that triggers the scan. -/
def sendBgscanProbeReq (c : Common) (ok : Bool) : Bool × Common :=
  if ok then (true, { c with bgscan := .queued }) else (false, c)

end Common

/-! ## The work item -/

/-- Where `rsi_scan_start` is; `todo` are the channels that follow the present one. -/
inductive LoopPc
  /-- In the wait for the confirm that power save is off. -/
  | powerSaveOff (todo : List Channel)
  /-- At the head of the loop. -/
  | next (todo : List Channel)
  /-- In the wait for `chan_set_event`. -/
  | chanSet (channel : Channel) (todo : List Channel)
  /-- Before the probe request for the SSID `jj`. -/
  | probe (jj : ℕ) (todo : List Channel)
  /-- In the wait for `probe_cfm_event`. -/
  | probeCfm (jj : ℕ) (todo : List Channel)
  /-- At the label `SKIP_PROBE`. -/
  | skipProbe (todo : List Channel)
  /-- In the wait for `chan_change_event`, which the channel timer sets. -/
  | chanChange (todo : List Channel)
  /-- Behind the loop. -/
  | leave
  /-- In the wait for the confirm that power save is on again. -/
  | powerSaveOn
  /-- Before `ieee80211_scan_completed`. -/
  | complete
  /-- Before the test of `hw_scan_cancel`. -/
  | signal
  deriving DecidableEq, Repr

/-- The loop has not been left: `scan_in_prog` may be set. -/
def LoopPc.scanning : LoopPc → Bool
  | .powerSaveOn | .complete | .signal => false
  | _ => true

/-- The state of `scan_work`: the work item runs with `nSsids` of its request. -/
inductive WorkPc
  | idle
  | queued
  | running (nSsids : ℕ) (pc : LoopPc)
  deriving DecidableEq, Repr

/-- The inputs of a step of the work item: the last interface is an access point, power save has to
be changed, the result of `rsi_set_channel`, and whether the wait is interrupted. -/
structure WorkInput where
  vifAp : Bool
  ps : Bool
  channelStatus : Int
  interrupted : Bool
  deriving DecidableEq, Repr

/-- `-EOPNOTSUPP` -/
def EOPNOTSUPP : Int := -95

/-- Probe requests are sent on this channel, at least one. -/
def probes (c : Common) (nSsids : ℕ) (inp : WorkInput) (channel : Channel) : Bool :=
  !(inp.vifAp && c.autoChanSel) && !(channel.noIr || channel.radar) && !c.autoChanSel && 0 < nSsids

/-- `rsi_scan_start` -/
def loopStep (c : Common) (nSsids : ℕ) (inp : WorkInput) : LoopPc → Common × WorkPc
  -- with or without the confirm the work item goes on
  | .powerSaveOff todo => (c, .running nSsids (.next todo))
  | .next [] => (c, .running nSsids .leave)
  | .next (channel :: todo) =>
    if c.ifaceDown = true ∨ c.scanInProg = false then (c, .running nSsids .leave)
    else if channel.disabled then (c, .running nSsids (.next todo))
    else if inp.channelStatus = EOPNOTSUPP then (c, .running nSsids (.skipProbe todo))
    else if inp.channelStatus ≠ 0 then (c, .running nSsids .leave)
    else (c, .running nSsids (.chanSet channel todo))
  | .chanSet channel todo =>
    -- a cancel has cleared `scan_in_prog`
    if inp.interrupted = true ∨ c.scanInProg = false then (c, .running nSsids .leave)
    else if probes c nSsids inp channel then (c, .running nSsids (.probe 0 todo))
    else (c, .running nSsids (.skipProbe todo))
  | .probe jj todo =>
    -- the two returns in the loop report nothing
    if c.ifaceDown then ({ c with scanInProg := false }, .idle)
    else (c, .running nSsids (.probeCfm jj todo))
  | .probeCfm jj todo =>
    if inp.interrupted then ({ c with scanInProg := false }, .idle)
    else if jj + 1 < nSsids then (c, .running nSsids (.probe (jj + 1) todo))
    else (c, .running nSsids (.skipProbe todo))
  | .skipProbe todo =>
    if c.scanInProg = false ∨ c.ifaceDown = true then (c, .running nSsids .leave)
    else (c, .running nSsids (.chanChange todo))
  | .chanChange todo =>
    if inp.interrupted then (c, .running nSsids .leave) else (c, .running nSsids (.next todo))
  | .leave =>
    ({ c with scanInProg := false }, .running nSsids (if inp.ps then .powerSaveOn else .complete))
  | .powerSaveOn => (c, .running nSsids .complete)
  | .complete => (c.scanCompleted, .running nSsids .signal)
  | .signal =>
    if c.hwScanCancel then
      -- `skb_queue_purge` of the management queue
      ({ c with
        bgscan := if c.bgscan = .queued then .idle else c.bgscan
        cancelHwScanEvent := true }, .idle)
    else (c, .idle)

/-- A step of the work item. Without a request it returns at once. -/
def workStep (c : Common) (inp : WorkInput) : WorkPc → Option (Common × WorkPc)
  | .idle => none
  | .queued =>
    match c.scanRequest with
    | none => some (c, .idle)
    | some req =>
      let todo := c.acxChannels.getD req.channels
      some ({ c with scanInProg := true },
        .running req.nSsids (if inp.ps then .powerSaveOff todo else .next todo))
  | .running nSsids pc => some (loopStep c nSsids inp pc)

/-! ## The calls of mac80211 -/

/-- Where `rsi_mac80211_hw_scan_start` is: not in a call, before `cancel_work_sync`, or before
`mutex_lock`. -/
inductive StartPc
  | idle
  | cancelWork
  | lock
  deriving DecidableEq, Repr

/-- What `rsi_mac80211_hw_scan_start` finds. `waitEapol` says that the BSS has privacy and
`start_bgscan` is not set, `numUserChannels` is the number of channels after an ACX module removed
some of them, `paramsOk` and `probeOk` say which of the two frames can be sent. -/
structure StartArgs where
  req : ScanRequest
  fsmMacInitDone : Bool
  assoc : Bool
  vifAp : Bool
  macAddrValid : Bool
  waitEapol : Bool
  numUserChannels : ℕ
  paramsOk : Bool
  probeOk : Bool
  deriving DecidableEq, Repr

namespace Common

/-- The end of `rsi_mac80211_hw_scan_start`: `return 0`. -/
def accept (c : Common) : Common := { c with mutex := false, outstanding := true }

/-- `rsi_mac80211_hw_scan_start` with a connection. It unlocks a mutex that it did not lock, and
returns 0 whatever became of the frames. -/
def startBgscan (c : Common) (args : StartArgs) : Common :=
  let c := { c with numUserChannels := args.numUserChannels, hwscanEn := true }
  let c := (c.sendBgscanParams true args.paramsOk).2
  -- the second frame is sent only after the first one
  let c := if args.paramsOk then { c with bgscanInProg := true } else c
  let c :=
    if args.paramsOk = true ∧ args.probeOk = true then
      { (c.sendBgscanProbeReq true).2 with bgscanEn := true }
    else c
  c.accept

/-- `rsi_mac80211_hw_scan_start` up to its first wait or its return. -/
def hwScanStart (c : Common) (args : StartArgs) : Common × StartPc :=
  let c := { c with scanRequest := some args.req }
  -- the request is stored before any test
  if args.fsmMacInitDone = false then (c, .idle) -- `-ENODEV`
  else if args.assoc = false then
    let c := if args.vifAp then { c with autoChanSel := true } else c
    if args.req.channels = [] then (c, .idle) -- `-EINVAL`
    else if c.scanInProg then (c, .idle) -- `-EBUSY`
    else if args.macAddrValid = false then (c, .idle) -- `-ENODEV`
    else (c, .cancelWork)
  else if args.waitEapol then ({ c with mutex := false }, .idle) -- `-EBUSY`
  else (c.startBgscan args, .idle)

/-- The flags that `rsi_mac80211_hw_scan_start` sets before it queues the work. -/
def startScan (c : Common) : Common :=
  { c with scanInProg := false, bgscanEn := false, hwscanEn := false }.accept

end Common

/-- Where `rsi_mac80211_hw_scan_cancel` is. -/
inductive CancelPc
  | idle
  /-- Before the test of `scan_in_prog`. -/
  | checkScan
  /-- In the wait for the end of the work item. -/
  | waitScan
  /-- Before the test of `bgscan_in_prog`. -/
  | checkBgscan
  /-- In the wait for the end of the background scan. -/
  | waitBgscan
  /-- Before `mutex_unlock`. -/
  | unlock
  deriving DecidableEq, Repr

/-- A step of `rsi_mac80211_hw_scan_cancel`. Both waits go on for ever unless interrupted. -/
def cancelStep (c : Common) (assoc interrupted : Bool) : CancelPc → Option (Common × CancelPc)
  | .idle =>
    if c.mutex then none else some ({ c with mutex := true, hwScanCancel := true }, .checkScan)
  | .checkScan =>
    if c.scanInProg then some ({ c with scanInProg := false }, .waitScan)
    else some (c, .checkBgscan)
  | .waitScan =>
    if c.cancelHwScanEvent || interrupted then
      some ({ c with cancelHwScanEvent := false, scanRequest := none }, .checkBgscan)
    else none
  | .checkBgscan =>
    if c.bgscanInProg then
      -- without a connection the completion is reported and the flags stay
      if assoc then some (c, .waitBgscan) else some (c.scanCompleted, .unlock)
    else some (c, .unlock)
  | .waitBgscan =>
    if c.cancelHwScanEvent || interrupted then
      some ({ c with cancelHwScanEvent := false }, .unlock)
    else none
  | .unlock => some ({ c with hwScanCancel := false, mutex := false }, .idle)

namespace Common

/-- A scan that the device was running is over. -/
def endBgscan (c : Common) : Common :=
  if c.bgscan = .running then { c with bgscan := .idle } else c

/-- `if (common->hw_scan_cancel) rsi_set_event(&common->cancel_hw_scan_event)` -/
def wakeCancel (c : Common) : Common :=
  if c.hwScanCancel then { c with cancelHwScanEvent := true } else c

/-- The second half of the channels. -/
def nextBgscan (c : Common) (paramsOk probeOk : Bool) : Common :=
  { ((c.sendBgscanParams true paramsOk).2.sendBgscanProbeReq probeOk).2 with bgscanEn := true }

/-- The end of a background scan that mac80211 asked for. -/
def finishBgscan (c : Common) (paramsOk : Bool) : Common :=
  let c :=
    if 24 < c.numUserChannels then
      { (c.sendBgscanParams false paramsOk).2 with bgscanEn := false }
    else c
  { c.scanCompleted with bgscanInProg := false, hwscanEn := false }

/-- The `BG_SCAN_PROBE_REQ` branch of `rsi_handle_ta_confirm`; `none` is a `NULL` dereference of the
scan request. -/
def bgScanInd (c : Common) (paramsOk probeOk : Bool) : Option Common :=
  let c := c.endBgscan
  -- a scan that mac80211 did not ask for
  if c.hwscanEn = false then some c.wakeCancel
  else if c.sendInitialBgscanChan = false then some (c.finishBgscan paramsOk).wakeCancel
  else if probeOk = true ∧ c.scanRequest = none then none
  else some (c.nextBgscan paramsOk probeOk).wakeCancel

end Common

/-! ## What a step does -/

/-- The steps of the work item in its loop and behind it. -/
inductive LoopMove (c : Common) (nSsids : ℕ) (inp : WorkInput) : LoopPc → Common × WorkPc → Prop
  | loop {pc pc' : LoopPc} :
      pc.scanning = true → pc'.scanning = true →
      LoopMove c nSsids inp pc (c, .running nSsids pc')
  | ifaceDown {jj : ℕ} {todo : List Channel} :
      c.ifaceDown = true →
      LoopMove c nSsids inp (.probe jj todo) ({ c with scanInProg := false }, .idle)
  | interrupted {jj : ℕ} {todo : List Channel} :
      inp.interrupted = true →
      LoopMove c nSsids inp (.probeCfm jj todo) ({ c with scanInProg := false }, .idle)
  | leave {pc' : LoopPc} :
      pc'.scanning = false → pc' ≠ .signal →
      LoopMove c nSsids inp .leave ({ c with scanInProg := false }, .running nSsids pc')
  | powerSaveOn : LoopMove c nSsids inp .powerSaveOn (c, .running nSsids .complete)
  | complete : LoopMove c nSsids inp .complete (c.scanCompleted, .running nSsids .signal)
  | wake :
      c.hwScanCancel = true →
      LoopMove c nSsids inp .signal
        ({ c with
          bgscan := if c.bgscan = .queued then .idle else c.bgscan
          cancelHwScanEvent := true }, .idle)
  | quiet : c.hwScanCancel = false → LoopMove c nSsids inp .signal (c, .idle)

theorem loopStep_move (c : Common) (nSsids : ℕ) (inp : WorkInput) (pc : LoopPc) :
    LoopMove c nSsids inp pc (loopStep c nSsids inp pc) := by
  -- the tests in the loop only choose where it goes on
  cases pc with
  | powerSaveOff todo => exact .loop rfl rfl
  | next todo =>
    cases todo with
    | nil => exact .loop rfl rfl
    | cons channel todo =>
      simp only [loopStep]
      split_ifs <;> refine .loop ?_ ?_ <;> rfl
  | chanSet channel todo =>
    simp only [loopStep]
    split_ifs <;> refine .loop ?_ ?_ <;> rfl
  | probe jj todo =>
    simp only [loopStep]
    split_ifs with hdown
    · exact .ifaceDown hdown
    · refine .loop ?_ ?_ <;> rfl
  | probeCfm jj todo =>
    simp only [loopStep]
    split_ifs with hinterrupted
    · exact .interrupted hinterrupted
    · refine .loop ?_ ?_ <;> rfl
    · refine .loop ?_ ?_ <;> rfl
  | skipProbe todo =>
    simp only [loopStep]
    split_ifs <;> refine .loop ?_ ?_ <;> rfl
  | chanChange todo =>
    simp only [loopStep]
    split_ifs <;> refine .loop ?_ ?_ <;> rfl
  | leave =>
    simp only [loopStep]
    by_cases hps : inp.ps = true
    · rw [if_pos hps]
      exact .leave rfl (by simp)
    · rw [if_neg hps]
      exact .leave rfl (by simp)
  | powerSaveOn => exact .powerSaveOn
  | complete => exact .complete
  | signal =>
    by_cases hcancel : c.hwScanCancel = true
    · simp only [loopStep, if_pos hcancel]
      exact .wake hcancel
    · simp only [loopStep, if_neg hcancel]
      exact .quiet (by simpa using hcancel)

/-- With its request the work item enters the loop. -/
theorem workStep_queued {c : Common} {req : ScanRequest} (hreq : c.scanRequest = some req)
    (inp : WorkInput) :
    ∃ pc : LoopPc, pc.scanning = true ∧
      workStep c inp .queued = some ({ c with scanInProg := true }, .running req.nSsids pc) := by
  unfold workStep
  rw [hreq]
  cases hps : inp.ps with
  | false => exact ⟨.next (c.acxChannels.getD req.channels), rfl, rfl⟩
  | true => exact ⟨.powerSaveOff (c.acxChannels.getD req.channels), rfl, rfl⟩

namespace Common

variable {c c' : Common}

/-- Reporting an accepted request ends it. -/
theorem scanCompleted_of_outstanding (h : c.outstanding = true) :
    c.scanCompleted = { c with outstanding := false } :=
  if_pos h

/-- A call is rejected or goes on, or it accepts the request for a background scan. -/
theorem hwScanStart_cases (c : Common) (args : StartArgs) :
    (∃ autoChanSel mutex pc, pc ≠ .lock ∧
      c.hwScanStart args =
        ({ c with scanRequest := some args.req, autoChanSel := autoChanSel, mutex := mutex }, pc)) ∨
    (args.fsmMacInitDone = true ∧ args.assoc = true ∧ args.waitEapol = false ∧
      c.hwScanStart args =
        (startBgscan { c with scanRequest := some args.req } args, .idle)) := by
  unfold hwScanStart
  dsimp only
  -- every return before the last one leaves `hwscan_en` and the request's state alone
  by_cases hfsm : args.fsmMacInitDone = false
  · rw [if_pos hfsm]
    exact .inl ⟨c.autoChanSel, c.mutex, .idle, by simp, rfl⟩
  rw [if_neg hfsm]
  by_cases hassoc : args.assoc = false
  · rw [if_pos hassoc]
    obtain ⟨autoChanSel, heq⟩ : ∃ autoChanSel,
        (if args.vifAp = true then
          { c with scanRequest := some args.req, autoChanSel := true }
        else { c with scanRequest := some args.req }) =
        { c with scanRequest := some args.req, autoChanSel := autoChanSel } := by
      split_ifs
      · exact ⟨true, rfl⟩
      · exact ⟨c.autoChanSel, rfl⟩
    left
    rw [heq]
    split_ifs
    · exact ⟨autoChanSel, c.mutex, .idle, by simp, rfl⟩
    · exact ⟨autoChanSel, c.mutex, .idle, by simp, rfl⟩
    · exact ⟨autoChanSel, c.mutex, .idle, by simp, rfl⟩
    · exact ⟨autoChanSel, c.mutex, .cancelWork, by simp, rfl⟩
  rw [if_neg hassoc]
  by_cases hwait : args.waitEapol = true
  · rw [if_pos hwait]
    exact .inl ⟨c.autoChanSel, false, .idle, by simp, rfl⟩
  · rw [if_neg hwait]
    exact .inr ⟨by simpa using hfsm, by simpa using hassoc, by simpa using hwait, rfl⟩

/-- With both frames a background scan is on its way. -/
theorem startBgscan_eq {args : StartArgs} (hparams : args.paramsOk = true)
    (hprobe : args.probeOk = true) (c : Common) :
    ∃ initial, c.startBgscan args =
      { c with
        numUserChannels := args.numUserChannels
        hwscanEn := true
        sendInitialBgscanChan := initial
        bgscanInProg := true
        bgscan := .queued
        bgscanEn := true
        mutex := false
        outstanding := true } := by
  simp only [startBgscan, sendBgscanParams, sendBgscanProbeReq, hparams, hprobe, accept, if_true,
    true_and]
  split_ifs
  · exact ⟨_, rfl⟩
  · exact ⟨_, rfl⟩

theorem endBgscan_eq (c : Common) : ∃ bgscan, c.endBgscan = { c with bgscan := bgscan } := by
  unfold endBgscan
  split_ifs
  · exact ⟨_, rfl⟩
  · exact ⟨c.bgscan, rfl⟩

theorem wakeCancel_eq (c : Common) :
    c.wakeCancel = { c with cancelHwScanEvent := c.cancelHwScanEvent || c.hwScanCancel } := by
  unfold wakeCancel
  split_ifs with hcancel
  · rw [hcancel, Bool.or_true]
  · have hsame : (c.cancelHwScanEvent || c.hwScanCancel) = c.cancelHwScanEvent := by simp [hcancel]
    rw [hsame]

theorem sendBgscanParams_eq (c : Common) (enable ok : Bool) :
    ∃ initial, (c.sendBgscanParams enable ok).2 = { c with sendInitialBgscanChan := initial } := by
  unfold sendBgscanParams
  split_ifs
  · exact ⟨_, rfl⟩
  · exact ⟨c.sendInitialBgscanChan, rfl⟩
  · exact ⟨c.sendInitialBgscanChan, rfl⟩

theorem nextBgscan_eq (c : Common) (paramsOk : Bool) :
    ∃ initial, c.nextBgscan paramsOk true =
      { c with sendInitialBgscanChan := initial, bgscan := .queued, bgscanEn := true } := by
  obtain ⟨initial, heq⟩ := c.sendBgscanParams_eq true paramsOk
  exact ⟨initial, by rw [nextBgscan, heq, sendBgscanProbeReq, if_pos rfl]⟩

theorem finishBgscan_eq (h : c.outstanding = true) (paramsOk : Bool) :
    ∃ initial bgscanEn, c.finishBgscan paramsOk =
      { c with
        sendInitialBgscanChan := initial
        bgscanEn := bgscanEn
        outstanding := false
        bgscanInProg := false
        hwscanEn := false } := by
  obtain ⟨initial, heq⟩ := c.sendBgscanParams_eq false paramsOk
  unfold finishBgscan
  split_ifs
  · exact ⟨initial, false, by simp only [heq, scanCompleted, h, if_true]⟩
  · exact ⟨c.sendInitialBgscanChan, c.bgscanEn, by simp only [scanCompleted, h, if_true]⟩

/-- An indication does not concern mac80211, or reports the end of its scan, or starts the second
half. -/
theorem bgScanInd_cases {paramsOk probeOk : Bool} (h : c.bgScanInd paramsOk probeOk = some c') :
    (c.hwscanEn = false ∧ c' = c.endBgscan.wakeCancel) ∨
    (c.hwscanEn = true ∧ c' = (c.endBgscan.finishBgscan paramsOk).wakeCancel) ∨
    (c.hwscanEn = true ∧ c.sendInitialBgscanChan = true ∧
      c' = (c.endBgscan.nextBgscan paramsOk probeOk).wakeCancel) := by
  obtain ⟨bgscan, heq⟩ := c.endBgscan_eq
  -- the end of the scan changes none of the flags that are tested
  have hen : c.endBgscan.hwscanEn = c.hwscanEn := by rw [heq]
  have hinitial : c.endBgscan.sendInitialBgscanChan = c.sendInitialBgscanChan := by rw [heq]
  unfold bgScanInd at h
  dsimp only at h
  rw [hen, hinitial] at h
  split_ifs at h with hoff hfirst
  · exact .inl ⟨hoff, (Option.some.inj h).symm⟩
  · exact .inr (.inl ⟨by simpa using hoff, (Option.some.inj h).symm⟩)
  · exact .inr (.inr ⟨by simpa using hoff, by simpa using hfirst, (Option.some.inj h).symm⟩)

end Common

/-! ## Runs -/

/-- Where `rsi_mac80211_stop` is: not in a call, or before `mutex_lock`. -/
inductive StopPc
  | idle
  | lock
  deriving DecidableEq, Repr

/-- The driver in a run. -/
structure ScanSys where
  common : Common
  work : WorkPc
  start : StartPc
  cancel : CancelPc
  stop : StopPc
  deriving DecidableEq, Repr

/-- What happens in a run. -/
inductive ScanAct
  /-- mac80211 calls `rsi_mac80211_hw_scan_start`. -/
  | hwScanStart (args : StartArgs)
  /-- `rsi_mac80211_hw_scan_start` goes on. -/
  | startStep
  | workStep (inp : WorkInput)
  /-- `rsi_mac80211_hw_scan_cancel` is called or goes on. -/
  | cancelStep (assoc interrupted : Bool)
  /-- `rsi_mac80211_stop` is called or goes on. -/
  | stopStep
  /-- `rsi_mac80211_start` -/
  | interfaceUp
  /-- The bus code marks the interface as down. -/
  | busDown
  /-- The transmit thread sends the queued frames. -/
  | transmit
  /-- The device indicates the end of a background scan. -/
  | bgScanInd (paramsOk probeOk : Bool)

/-- `cancel_work_sync`: it takes a work item off the queue and waits for a running one. -/
def cancelWorkSync : WorkPc → Option WorkPc
  | .idle | .queued => some .idle
  | .running _ _ => none

/-- Work that is not queued is over when it has been cancelled. -/
theorem cancelWorkSync_eq_some {work work' : WorkPc} (hqueued : work ≠ .queued)
    (h : cancelWorkSync work = some work') : work = .idle ∧ work' = .idle := by
  cases work with
  | idle => exact ⟨rfl, (Option.some.inj h).symm⟩
  | queued => exact absurd rfl hqueued
  | running nSsids pc => cases h

namespace ScanSys

/-- One step of a run. mac80211 has at most one request at a time. -/
def step (s : ScanSys) : ScanAct → Option ScanSys
  | .hwScanStart args =>
    -- a call that is rejected makes no request
    if s.start = .idle ∧ s.common.outstanding = false then
      some { s with
        common := (s.common.hwScanStart args).1
        start := (s.common.hwScanStart args).2 }
    else none
  | .startStep =>
    -- `cancel_work_sync` and `mutex_lock` wait
    match s.start with
    | .idle => none
    | .cancelWork => (cancelWorkSync s.work).map fun work => { s with work, start := .lock }
    | .lock =>
      if s.common.mutex then none
      else some { s with common := s.common.startScan, work := .queued, start := .idle }
  | .workStep inp =>
    (workStep s.common inp s.work).map fun r => { s with common := r.1, work := r.2 }
  | .cancelStep assoc interrupted =>
    (cancelStep s.common assoc interrupted s.cancel).map fun r =>
      { s with common := r.1, cancel := r.2 }
  | .stopStep =>
    match s.stop with
    | .idle => (cancelWorkSync s.work).map fun work => { s with work, stop := .lock }
    | .lock =>
      if s.common.mutex then none
      else
        some { s with
          common := { s.common with ifaceDown := true, scanInProg := false }
          stop := .idle }
  | .interfaceUp =>
    if s.common.mutex then none
    else some { s with common := { s.common with scanInProg := false, ifaceDown := false } }
  | .busDown => some { s with common := { s.common with ifaceDown := true } }
  | .transmit =>
    if s.common.bgscan = .queued then
      some { s with common := { s.common with bgscan := .running } }
    else none
  | .bgScanInd paramsOk probeOk =>
    (s.common.bgScanInd paramsOk probeOk).map fun common => { s with common }

/-- Nothing is queued, running or waiting, and no request was made. -/
structure Init (s : ScanSys) : Prop where
  scanInProg : s.common.scanInProg = false
  bgscanInProg : s.common.bgscanInProg = false
  hwScanCancel : s.common.hwScanCancel = false
  hwscanEn : s.common.hwscanEn = false
  cancelHwScanEvent : s.common.cancelHwScanEvent = false
  mutex : s.common.mutex = false
  bgscan : s.common.bgscan = .idle
  outstanding : s.common.outstanding = false
  spurious : s.common.spurious = 0
  work : s.work = .idle
  start : s.start = .idle
  cancel : s.cancel = .idle
  stop : s.stop = .idle

end ScanSys

end Scan
