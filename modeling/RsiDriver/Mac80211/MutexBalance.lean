import RsiDriver.Interface.VifTable
import RsiDriver.Security.KeyTable
import RsiDriver.Tx.BlockAck
import RsiDriver.ToMathlib.LockTrace

/-!
# The callbacks of mac80211 and the driver's mutex

Every callback of `rsi_91x_mac80211.c` that uses `common->mutex`, with all its exits, as a procedure
over the mutex: what it finds in its arguments and in the driver when it reads them, and what the
functions that it calls return, are its inputs. Statements between the exits that neither leave the
callback nor touch the mutex are left out. The timer of remain-on-channel, the regulatory notifier
and the debugfs write of `rsi_91x_he.c` use the mutex as well.

Several callbacks have a model of what they do in another module; `val_addInterface` and its
neighbours say that they return there what they return here.

## Main results

* `not_mutexSafe`: a scan that is started with a connection unlocks without having locked, and a
  cancelled remain-on-channel that is over returns with the mutex;
* `balanced_iff`, `mutexSafe_of_regular`: all other calls are balanced, and threads that make only
  them exclude one another.
-/

namespace Mac80211

open LockM (lock unlock)
open MutexOp (LockBalanced)
open Interface (Vifs Vif VifType VapMode EINVAL EPERM)
open Station (Build EOPNOTSUPP isApType)
open Tx (IfType AmpduAction)

/-! ## The callbacks -/

/-- `-ENODEV` -/
def ENODEV : ℤ := -19

/-- `-ENETDOWN` -/
def ENETDOWN : ℤ := -100

/-- `-EBUSY` -/
def EBUSY : ℤ := -16

/-- `KERNEL_VERSION` -/
def kernelVersion (a b c : ℕ) : ℕ := a * 65536 + b * 256 + min c 255

/-- The options of the build and the kernel that the exits depend on. -/
structure Config where
  linuxVersionCode : ℕ
  build : Build
  /-- `OFFLOAD_SCAN_TO_DEVICE` -/
  offloadScan : Bool
  /-- `CONFIG_RSI_WOW` -/
  rsiWow : Bool
  deriving DecidableEq, Repr

/-- The driver scans for mac80211 when it is not connected. -/
def Config.scansItself (cfg : Config) : Bool :=
  decide (cfg.linuxVersionCode ≤ kernelVersion 4 20 17) || cfg.offloadScan

/-- The scan request, and what `rsi_mac80211_hw_scan_start` finds in the driver. -/
structure HwScan where
  nChannels : ℕ
  fsmMacInitDone : Bool
  /-- `wow_flags & RSI_WOW_ENABLED` -/
  wowEnabled : Bool
  /-- `BSS_ASSOC` -/
  assoc : Bool
  vapMode : VapMode
  scanInProg : Bool
  /-- `bss->assoc_capability & BIT(4)` -/
  privacy : Bool
  startBgscan : Bool
  /-- The return code of `rsi_validate_mac_addr`. -/
  validateMacAddr : ℤ
  deriving DecidableEq, Repr

namespace HwScan

/-- With `CONFIG_STA_PLUS_AP`, `vap_mode` is `CONCURRENT`. -/
def concurrent (a : HwScan) (cfg : Config) : Bool :=
  cfg.build == .staPlusAp && a.vapMode == ⟨true, true⟩

/-- The branch without a connection. -/
def unconnected (a : HwScan) (cfg : Config) : Bool := !a.assoc && !a.concurrent cfg

/-- `start_bgscan` is waited for. -/
def waitsForEapol (a : HwScan) (cfg : Config) : Bool :=
  a.privacy && !a.startBgscan && !a.concurrent cfg

end HwScan

/-- `rsi_mac80211_hw_scan_start` -/
def hwScanStart (cfg : Config) (a : HwScan) : LockM ℤ := do
  if a.fsmMacInitDone = false then return ENODEV
  if (cfg.rsiWow && a.wowEnabled) = true then return ENETDOWN
  if a.unconnected cfg = true then
    if cfg.scansItself = false then return 1
    if a.nChannels = 0 then return EINVAL
    if a.scanInProg = true then return EBUSY
    if a.validateMacAddr ≠ 0 then return ENODEV
    lock
  else
    -- nothing has locked the mutex on this branch
    if a.waitsForEapol cfg = true then
      unlock
      return EBUSY
  unlock
  return 0

/-- `rsi_mac80211_hw_scan_cancel`. The waits for `cancel_hw_scan_event` are in the section. -/
def hwScanCancel : LockM Unit := do
  lock
  unlock

/-- `rsi_mac80211_start` -/
def start : LockM ℤ := do
  lock
  unlock
  return 0

/-- `rsi_mac80211_stop` -/
def stop : LockM Unit := do
  lock
  unlock

/-- `rsi_mac80211_add_interface`; `setVap` is the return code of `rsi_set_vap_capabilities`, and the
adapter may be missing. -/
def addInterface (adapter : Option Vifs) (vif : Vif) (assoc : Bool) (setVap : ℤ) : LockM ℤ := do
  match adapter with
  | none => return ENODEV
  | some s =>
    if s.build = .staPlusAp ∧ (s.refusal vif assoc).isSome = true then return EOPNOTSUPP
    lock
    match s.refusal vif assoc with
    | some err =>
      unlock
      return err
    | none =>
      match (s.type vif).intfMode with
      | none =>
        unlock
        return EINVAL
      | some mode =>
        match (s.setP2pEnabled (s.p2pEnabled || (s.type vif).isP2p)).enter vif mode with
        | none =>
          unlock
          return EPERM
        | some s =>
          if s.sniffer = true then
            unlock
            return 0
          unlock
          return setVap

/-- `rsi_mac80211_remove_interface` -/
def removeInterface (scNvifs : ℤ) : LockM Unit := do
  if scNvifs ≤ 0 then return
  lock
  unlock

/-- The types that `rsi_mac80211_change_interface` changes to. -/
def changesTo : VifType → Bool
  | .ap | .station | .p2pClient | .p2pGo => true
  | .p2pDevice | .monitor | .other => false

/-- `rsi_mac80211_change_interface`; `setVap` is the return code of `rsi_set_vap_capabilities`. -/
def changeInterface (newtype : VifType) (setVap : ℤ) : LockM ℤ := do
  lock
  if changesTo newtype = false then
    unlock
    return EINVAL
  unlock
  return setVap

/-- The flags of `rsi_mac80211_config` that change a return code, and the return codes of
`rsi_channel_change`, `rsi_config_power` and `rsi_send_vap_dynamic_update`; the last one is sent
for an RTS threshold that is in range. -/
structure ConfigArgs where
  fsmMacInitDone : Bool
  changeChannel : Bool
  changePower : Bool
  sendUpdate : Bool
  channelChange : ℤ
  configPower : ℤ
  vapUpdate : ℤ
  deriving DecidableEq, Repr

/-- `rsi_mac80211_config` -/
def config (a : ConfigArgs) : LockM ℤ := do
  if a.fsmMacInitDone = false then return ENODEV
  lock
  if a.changeChannel = true ∧ a.channelChange ≠ 0 then
    unlock
    return EOPNOTSUPP
  unlock
  return if a.sendUpdate then a.vapUpdate
    else if a.changePower then a.configPower
    else if a.changeChannel then a.channelChange
    else EOPNOTSUPP

/-- `rsi_mac80211_bss_info_changed` -/
def bssInfoChanged (fsmMacInitDone : Bool) : LockM Unit := do
  if fsmMacInitDone = false then return
  lock
  unlock

/-- `rsi_mac80211_conf_tx`. There are `IEEE80211_NUM_ACS` queues. -/
def confTx (queue : BitVec 16) : LockM ℤ := do
  if 4 ≤ queue.toNat then return 0
  lock
  unlock
  return 0

/-- `rsi_mac80211_set_key`; `cmd` is missing for another value of the enumeration, and `keyConfig`
is the return code of `rsi_hal_key_config`. -/
def setKey (keyidx : BitVec 8) (cmd : Option Security.SetKeyCmd) (keyConfig : ℤ) : LockM ℤ := do
  if keyidx = Security.RSI_AES_CMAC then return 0
  lock
  match cmd with
  | some .setKey =>
    if keyConfig ≠ 0 then
      unlock
      return keyConfig
    unlock
    return 0
  | some .disableKey =>
    unlock
    return keyConfig
  | none =>
    unlock
    return EOPNOTSUPP

/-- `rsi_mac80211_ampdu_action`; `mapped` tells that `rsi_find_sta` finds the station, and `aggr` is
the return code of `rsi_send_aggr_params_frame`. -/
def ampduAction (type : IfType) (action : AmpduAction) (mapped : Bool) (aggr : ℤ) : LockM ℤ := do
  lock
  if isApType type = true ∧ mapped = false then
    unlock
    return 0
  unlock
  match action with
  | .rxStart | .rxStop | .txStopCont | .txStopFlush | .txStopFlushCont | .txOperational =>
    return aggr
  | .txStart => return 0
  | .other => return 1

/-- `rsi_mac80211_set_frag_threshold` -/
def setFragThreshold : LockM ℤ := do
  lock
  unlock
  return 0

/-- `rsi_mac80211_set_rts_threshold` -/
def setRtsThreshold : LockM ℤ := do
  lock
  unlock
  return 0

/-- The tables that `rsi_get_rate_code` looks into. -/
inductive RateType
  | legacy
  | mcs
  | heMcs
  deriving DecidableEq, Repr

/-- The rate mask for the band in use, and what `rsi_mac80211_set_rate_mask` finds in the driver. -/
structure RateMask where
  /-- `BSS_ASSOC` -/
  assoc : Bool
  band2ghz : Bool
  htMcs : BitVec 8
  legacy : BitVec 16
  heMcs : BitVec 16
  ax11Enabled : Bool
  /-- The country is `JP`. -/
  japan : Bool
  curChannel : BitVec 8
  /-- The entry of the table for a bitmap of at most one bit. -/
  rates : RateType → BitVec 16 → BitVec 16
  /-- The return code of `rsi_send_vap_dynamic_update`. -/
  vapUpdate : ℤ

namespace RateMask

/-- The mask allows every rate. -/
def enableAutoRate (a : RateMask) (cfg : Config) : Bool :=
  a.htMcs == 0xff && a.legacy == (if a.band2ghz then 0xfff else 0xff) &&
    (decide (cfg.linuxVersionCode < kernelVersion 5 10 0) || a.heMcs == 0xff || a.heMcs == 0)

/-- `rsi_get_rate_code` -/
def getRateCode (a : RateMask) (bitmap : BitVec 16) (type : RateType) : BitVec 16 :=
  if bitmap &&& (bitmap - 1) ≠ 0 then 0xff else a.rates type bitmap

/-- The highest legacy rate of the mask. -/
def highestLegacy (a : RateMask) : BitVec 16 :=
  match (List.range 12).reverse.find? fun i => a.legacy.getLsbD i with
  | some i => 1 <<< i
  | none => a.legacy

/-- The fixed rate; `none` for an HE rate without 11ax. -/
def fixedRate (a : RateMask) (cfg : Config) : Option (BitVec 16) :=
  if a.htMcs ≠ 0xff then some (a.getRateCode (a.htMcs.setWidth 16) .mcs)
  else if cfg.linuxVersionCode < kernelVersion 5 10 0 then
    some (a.getRateCode a.highestLegacy .legacy)
  else if a.ax11Enabled = true ∧ a.heMcs ≠ 0xff then some (a.getRateCode a.heMcs .heMcs)
  else if a.ax11Enabled = false ∧ a.heMcs ≠ 0xff ∧ a.heMcs ≠ 0 then none
  else some (a.getRateCode a.highestLegacy .legacy)

end RateMask

/-- `rsi_mac80211_set_rate_mask` -/
def setRateMask (cfg : Config) (a : RateMask) : LockM ℤ := do
  if a.assoc = false then return EINVAL
  lock
  if cfg.linuxVersionCode < kernelVersion 5 10 0 ∧ a.ax11Enabled = true ∧
      a.enableAutoRate cfg = false then
    unlock
    return EINVAL
  if a.enableAutoRate cfg = false then
    match a.fixedRate cfg with
    | none =>
      unlock
      return EINVAL
    | some rate =>
      if rate = 0xff then
        unlock
        return EINVAL
      -- `RSI_RATE_2`
      if a.japan = true ∧ a.curChannel = 14 ∧ 2 < rate.toNat then
        unlock
        return 0
  unlock
  return a.vapUpdate

/-- `rsi_mac80211_sta_add` -/
def staAdd (type : IfType) (numStations maxStations : ℤ) : LockM ℤ := do
  lock
  if isApType type = true ∧ maxStations ≤ numStations then
    unlock
    return EOPNOTSUPP
  unlock
  return 0

/-- `rsi_mac80211_sta_remove` -/
def staRemove : LockM ℤ := do
  lock
  unlock
  return 0

/-- `rsi_mac80211_set_antenna`; `setAnt` is the return code of `rsi_set_antenna`. -/
def setAntenna (txAnt rxAnt : BitVec 32) (antInUse : BitVec 8) (setAnt : ℤ) : LockM ℤ := do
  if 1 < txAnt.toNat ∨ 1 < rxAnt.toNat then return EINVAL
  lock
  -- `ANTENNA_SEL_UFL` and `ANTENNA_SEL_INT`
  let antenna : BitVec 8 := if txAnt ≠ 0 then 3 else 2
  if antInUse ≠ antenna ∧ setAnt ≠ 0 then
    unlock
    return EINVAL
  unlock
  return 0

/-- `rsi_mac80211_get_antenna` -/
def getAntenna : LockM ℤ := do
  lock
  unlock
  return 0

/-- `rsi_mac80211_suspend`; `configWowlan` is the return code of `rsi_config_wowlan`. -/
def suspend (cfg : Config) (configWowlan : ℤ) : LockM ℤ := do
  if cfg.rsiWow = true then
    lock
    if configWowlan ≠ 0 then
      unlock
      return 1
    unlock
  return 0

/-- `rsi_mac80211_resume` -/
def resume (cfg : Config) (hibernateResume : Bool) : LockM ℤ := do
  if hibernateResume = true then return 0
  if cfg.rsiWow = true then
    lock
    unlock
  return 0

/-- `rsi_mac80211_roc` with the return codes of `rsi_band_check`, `rsi_set_channel` and
`rsi_set_vap_capabilities`. -/
def roc (scNvifs : ℤ) (type : VifType) (bandCheck setChannel setVap : ℤ) : LockM ℤ := do
  if scNvifs ≤ 0 then return EINVAL
  lock
  if bandCheck ≠ 0 then
    unlock
    return EINVAL
  if setChannel ≠ 0 then
    unlock
    return EINVAL
  if type = .p2pDevice ∧ setVap ≠ 0 then
    -- the failure is not reported
    unlock
    return 0
  unlock
  return 0

/-- `rsi_mac80211_cancel_roc` -/
def cancelRoc (rocTimerPending : Bool) : LockM ℤ := do
  lock
  -- the mutex stays locked on this exit
  if rocTimerPending = false then return 0
  unlock
  return 0

/-- `rsi_roc_timeout` -/
def rocTimeout : LockM Unit := do
  lock
  unlock

/-- `rsi_reg_notify` -/
def regNotify : LockM Unit := do
  lock
  unlock

/-- `rsi_set_ax_rate`; `status` is the return code of `kstrtoul_from_user`. -/
def setAxRate (len : ℤ) (status : ℤ) (ax11Enabled : Bool) : LockM ℤ := do
  if len = 0 then return 0
  if status ≠ 0 then return status
  if ax11Enabled = false then return EINVAL
  lock
  unlock
  return len

/-! ## Calls -/

/-- A call with all that it finds. -/
inductive Call
  | hwScanStart (a : HwScan)
  | hwScanCancel
  | start
  | stop
  | addInterface (adapter : Option Vifs) (vif : Vif) (assoc : Bool) (setVap : ℤ)
  | removeInterface (scNvifs : ℤ)
  | changeInterface (newtype : VifType) (setVap : ℤ)
  | config (a : ConfigArgs)
  | bssInfoChanged (fsmMacInitDone : Bool)
  | confTx (queue : BitVec 16)
  | setKey (keyidx : BitVec 8) (cmd : Option Security.SetKeyCmd) (keyConfig : ℤ)
  | ampduAction (type : IfType) (action : AmpduAction) (mapped : Bool) (aggr : ℤ)
  | setFragThreshold
  | setRtsThreshold
  | setRateMask (a : RateMask)
  | staAdd (type : IfType) (numStations maxStations : ℤ)
  | staRemove
  | setAntenna (txAnt rxAnt : BitVec 32) (antInUse : BitVec 8) (setAnt : ℤ)
  | getAntenna
  | suspend (configWowlan : ℤ)
  | resume (hibernateResume : Bool)
  | roc (scNvifs : ℤ) (type : VifType) (bandCheck setChannel setVap : ℤ)
  | cancelRoc (rocTimerPending : Bool)
  | rocTimeout
  | regNotify
  | setAxRate (len status : ℤ) (ax11Enabled : Bool)

namespace Call

/-- The operations on the mutex of a call. -/
def ops (cfg : Config) : Call → List MutexOp
  | hwScanStart a => (Mac80211.hwScanStart cfg a).ops
  | hwScanCancel => Mac80211.hwScanCancel.ops
  | start => Mac80211.start.ops
  | stop => Mac80211.stop.ops
  | addInterface adapter vif assoc setVap => (Mac80211.addInterface adapter vif assoc setVap).ops
  | removeInterface scNvifs => (Mac80211.removeInterface scNvifs).ops
  | changeInterface newtype setVap => (Mac80211.changeInterface newtype setVap).ops
  | config a => (Mac80211.config a).ops
  | bssInfoChanged fsmMacInitDone => (Mac80211.bssInfoChanged fsmMacInitDone).ops
  | confTx queue => (Mac80211.confTx queue).ops
  | setKey keyidx cmd keyConfig => (Mac80211.setKey keyidx cmd keyConfig).ops
  | ampduAction type action mapped aggr => (Mac80211.ampduAction type action mapped aggr).ops
  | setFragThreshold => Mac80211.setFragThreshold.ops
  | setRtsThreshold => Mac80211.setRtsThreshold.ops
  | setRateMask a => (Mac80211.setRateMask cfg a).ops
  | staAdd type numStations maxStations => (Mac80211.staAdd type numStations maxStations).ops
  | staRemove => Mac80211.staRemove.ops
  | setAntenna txAnt rxAnt antInUse setAnt =>
    (Mac80211.setAntenna txAnt rxAnt antInUse setAnt).ops
  | getAntenna => Mac80211.getAntenna.ops
  | suspend configWowlan => (Mac80211.suspend cfg configWowlan).ops
  | resume hibernateResume => (Mac80211.resume cfg hibernateResume).ops
  | roc scNvifs type bandCheck setChannel setVap =>
    (Mac80211.roc scNvifs type bandCheck setChannel setVap).ops
  | cancelRoc rocTimerPending => (Mac80211.cancelRoc rocTimerPending).ops
  | rocTimeout => Mac80211.rocTimeout.ops
  | regNotify => Mac80211.regNotify.ops
  | setAxRate len status ax11Enabled => (Mac80211.setAxRate len status ax11Enabled).ops

/-- A scan is not started past the first tests with a connection, and remain-on-channel is not
cancelled once its timer is off. -/
def regular (cfg : Config) : Call → Bool
  | hwScanStart a => !a.fsmMacInitDone || (cfg.rsiWow && a.wowEnabled) || a.unconnected cfg
  | cancelRoc rocTimerPending => rocTimerPending
  | _ => true

end Call

/-- Threads that make calls. -/
def system (T : Type) [DecidableEq T] (cfg : Config) :
    TransitionSystem (Threads T) (ThreadAct T Call) :=
  Threads.system (Call.ops cfg)

/-- The calls that are made are regular. -/
def MutexDiscipline {T : Type} (cfg : Config) : Threads T → ThreadAct T Call → Prop
  | _, .call _ c => c.regular cfg = true
  | _, .next _ | _, .ret _ => True

/-! ## The unbalanced exits -/

/-- A kernel and a build that scan in the device. -/
def Config.example : Config := ⟨kernelVersion 5 10 0, .standard, true, false⟩

/-- A scan that is requested while the interface is connected. -/
def HwScan.connected : HwScan where
  nChannels := 1
  fsmMacInitDone := true
  wowEnabled := false
  assoc := true
  vapMode := ⟨false, true⟩
  scanInProg := false
  privacy := false
  startBgscan := true
  validateMacAddr := 0

/-- Remain-on-channel is cancelled after its timer went off. -/
def leakSchedule : List (ThreadAct ℕ Call) := [.call 0 (.cancelRoc false), .next 0, .ret 0]

/-- A scan starts while another thread sets a key. -/
def foreignSchedule : List (ThreadAct ℕ Call) :=
  [.call 0 (.setKey 0 (some .setKey) 0), .next 0, .call 1 (.hwScanStart .connected), .next 1]

/-- Some calls are not balanced; one such call returns with the mutex, another one ends the critical
section of the thread that sets a key. -/
theorem not_mutexSafe :
    (¬ ∀ (cfg : Config) (c : Call), LockBalanced (c.ops cfg)) ∧
      (¬ ∀ s, (system ℕ .example).Reachable s → s.leaked = false) ∧
      ¬ ∀ s, (system ℕ .example).Reachable s → s.foreign = false := by
  refine ⟨fun h => ?_, ?_, ?_⟩
  · exact absurd (h .example (.cancelRoc false)) (by decide)
  · exact TransitionSystem.not_forall_reachable_of_run leakSchedule rfl rfl (by decide)
  · exact TransitionSystem.not_forall_reachable_of_run foreignSchedule rfl rfl (by decide)

/-! ## The balanced calls -/

/-- With a connection the mutex is unlocked at both exits, and on no path before it is locked. -/
theorem exec_hwScanStart (cfg : Config) (a : HwScan) :
    (hwScanStart cfg a).exec false = some false ↔ (Call.hwScanStart a).regular cfg = true := by
  by_cases hinit : a.fsmMacInitDone = false
  · -- the two tests before the connection is looked at return without the mutex
    simp [hwScanStart, Call.regular, hinit]
  · by_cases hwow : (cfg.rsiWow && a.wowEnabled) = true
    · simp [hwScanStart, Call.regular, hinit, hwow]
    · simp [hwScanStart, Call.regular, hinit, hwow]

theorem exec_cancelRoc (rocTimerPending : Bool) :
    (cancelRoc rocTimerPending).exec false = some false ↔ rocTimerPending = true := by
  simp [cancelRoc]

theorem exec_addInterface (adapter : Option Vifs) (vif : Vif) (assoc : Bool) (setVap : ℤ) :
    (addInterface adapter vif assoc setVap).exec false = some false := by
  unfold addInterface
  split
  case h_1 => simp
  case h_2 s =>
    split
    case isTrue => simp
    case isFalse =>
      -- the exits behind `mutex_lock`
      split
      case h_1 err _ => simp
      case h_2 =>
        split
        case h_1 => simp
        case h_2 mode _ => split <;> simp

theorem exec_setKey (keyidx : BitVec 8) (cmd : Option Security.SetKeyCmd) (keyConfig : ℤ) :
    (setKey keyidx cmd keyConfig).exec false = some false := by
  unfold setKey
  cases cmd with
  | none => simp
  | some cmd => cases cmd <;> simp

theorem exec_ampduAction (type : IfType) (action : AmpduAction) (mapped : Bool) (aggr : ℤ) :
    (ampduAction type action mapped aggr).exec false = some false := by
  unfold ampduAction
  cases action <;> simp

theorem exec_setRateMask (cfg : Config) (a : RateMask) :
    (setRateMask cfg a).exec false = some false := by
  unfold setRateMask
  cases a.fixedRate cfg with
  | none => simp
  | some rate => simp

/-- A call is balanced if and only if it is regular. -/
theorem balanced_iff (cfg : Config) (c : Call) :
    LockBalanced (c.ops cfg) ↔ c.regular cfg = true := by
  rw [LockBalanced]
  cases c with
  | hwScanStart a => exact exec_hwScanStart cfg a
  | cancelRoc rocTimerPending => exact exec_cancelRoc rocTimerPending
  | addInterface adapter vif assoc setVap =>
    exact iff_of_true (exec_addInterface adapter vif assoc setVap) rfl
  | setKey keyidx cmd keyConfig => exact iff_of_true (exec_setKey keyidx cmd keyConfig) rfl
  | ampduAction type action mapped aggr =>
    exact iff_of_true (exec_ampduAction type action mapped aggr) rfl
  | setRateMask a => exact iff_of_true (exec_setRateMask cfg a) rfl
  | _ =>
    refine iff_of_true (LockM.balanced_ops.2 ?_) rfl
    simp [hwScanCancel, start, stop, removeInterface, changeInterface, config, bssInfoChanged,
      confTx, setFragThreshold, setRtsThreshold, staAdd, staRemove, setAntenna,
      getAntenna, suspend, resume, roc, rocTimeout, regNotify, setAxRate]

/-- A call is balanced if and only if it is regular, and threads that make regular calls do not end
one another's critical sections and return without the mutex. -/
theorem mutexSafe_of_regular (T : Type) [DecidableEq T] (cfg : Config) :
    (∀ c : Call, LockBalanced (c.ops cfg) ↔ c.regular cfg = true) ∧
      ∀ s, (system T cfg).ReachableVia (MutexDiscipline cfg) s → s.Safe := by
  refine ⟨balanced_iff cfg, fun s h => ?_⟩
  refine Threads.safe_of_balanced (h.mono fun s a hregular => ?_)
  cases a with
  | call t c => exact (balanced_iff cfg c).2 hregular
  | next t => trivial
  | ret t => trivial

instance {T : Type} (cfg : Config) (s : Threads T) (a : ThreadAct T Call) :
    Decidable (MutexDiscipline cfg s a) :=
  match a with
  | .call _ c => inferInstanceAs (Decidable (c.regular cfg = true))
  | .next _ | .ret _ => .isTrue trivial

/-- A scan without a connection starts while another thread sets a key, and waits for it. -/
def waitSchedule : List (ThreadAct ℕ Call) :=
  [.call 0 (.setKey 0 (some .setKey) 0), .next 0,
    .call 1 (.hwScanStart { HwScan.connected with assoc := false }), .next 0, .next 1]

/-- The state after it: the second thread is in its critical section, the first about to return. -/
def waitState : Threads ℕ :=
  ((system ℕ .example).runVia (MutexDiscipline .example) .start waitSchedule).get rfl

theorem safe_waitState : waitState.owner = some 1 ∧ waitState.Safe :=
  ⟨rfl, (mutexSafe_of_regular ℕ .example).2 waitState (TransitionSystem.reachableVia_get rfl rfl)⟩

/-! ## The models of the callbacks -/

theorem val_addInterface (s : Vifs) (vif : Vif) (assoc : Bool) (setVap : ℤ) :
    (addInterface (some s) vif assoc setVap).val = (s.addInterface vif assoc setVap).1 := by
  simp only [addInterface, Vifs.addInterface, LockM.val_ite, LockM.val_bind]
  cases hrefusal : s.refusal vif assoc with
  | some err =>
    by_cases hbuild : s.build = .staPlusAp
    · -- with `CONFIG_STA_PLUS_AP` there is one reason to refuse, with this return code
      have herr : err = EOPNOTSUPP := by
        simp only [Vifs.refusal, hbuild] at hrefusal
        split at hrefusal
        · exact (Option.some.inj hrefusal).symm
        · cases hrefusal
      simp [hbuild, herr]
    · simp [hbuild]
  | none =>
    cases (s.type vif).intfMode with
    | none => simp
    | some mode =>
      simp only [Option.isSome_none, Bool.false_eq_true, and_false, if_false]
      cases (s.setP2pEnabled (s.p2pEnabled || (s.type vif).isP2p)).enter vif mode with
      | none => rfl
      | some s' => cases hsniffer : s'.sniffer <;> simp [hsniffer]

theorem val_staAdd (t : Station.Table) (type : IfType) (sta : Station.Sta) :
    (staAdd type t.numStations t.maxStations).val = (t.staAdd type sta).1 := by
  have hap : (t.apAdd sta).1 = if t.maxStations ≤ t.numStations then EOPNOTSUPP else 0 := by
    unfold Station.Table.apAdd
    split
    case isTrue => rfl
    case isFalse => split <;> rfl
  cases type <;> simp [staAdd, Station.Table.staAdd, isApType, hap]

theorem val_setKey (s : Security.KeyHost) (cmd : Security.SetKeyCmd) (k : Security.KeyPtr)
    (sta : Option Tx.MacAddr) (alloc0 alloc : Bool) :
    (setKey (s.conf k).keyidx (some cmd) (s.halKeyConfig k sta alloc0 alloc).1).val =
      (s.setKey cmd k sta alloc0 alloc).1 := by
  unfold setKey Security.KeyHost.setKey
  by_cases hcmac : (s.conf k).keyidx = Security.RSI_AES_CMAC
  · simp [hcmac]
  · cases cmd with
    | setKey => simpa [hcmac] using Eq.symm
    | disableKey => simp [hcmac]

/-- The two return codes of `rsi_send_aggr_params_frame`. -/
theorem fst_sendAggrParamsFrame (h : Tx.BaHost) (tid : Fin 16) (ssn : BitVec 16)
    (bufSize : BitVec 8) (event : Tx.AggrEvent) (staId : BitVec 8) (alloc : Bool) :
    (h.sendAggrParamsFrame tid ssn bufSize event staId alloc).1 =
      if alloc then 0 else Tx.ENOMEM := by
  cases alloc <;> rfl

theorem val_ampduAction (h : Tx.BaHost) (ii : Tx.VifIndex) (vif : Tx.Vif) (action : AmpduAction)
    (addr : Tx.MacAddr) (tid : Fin 16) (ssn : BitVec 16) (bufSize : BitVec 8) (alloc : Bool) :
    (ampduAction vif.type action (h.slot vif addr).isSome (if alloc then 0 else Tx.ENOMEM)).val =
      (h.ampduAction ii vif action addr tid ssn bufSize alloc).1 := by
  unfold ampduAction Tx.BaHost.ampduAction
  cases hslot : h.slot vif addr with
  | none =>
    have hap : isApType vif.type = true := by
      cases htype : vif.type <;> simp_all [isApType, Tx.BaHost.slot]
    simp [hap]
  | some slot => cases action <;> simp [fst_sendAggrParamsFrame]

end Mac80211
