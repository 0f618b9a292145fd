import Mathlib.Data.Nat.Notation
import Mathlib.Data.Int.Notation
import Mathlib.Tactic.SplitIfs
import RsiDriver.ToMathlib.TransitionSystem

/-!
# The initialisation of the device

`common->fsm_state` leads from the card-ready indication of the firmware to the registration with
mac80211. Each state has sent one frame; the confirm of that frame is answered by the frame of the
next state (`rsi_handle_card_ready`, `rsi_handle_ta_confirm` in `rsi_91x_mgmt.c`). The device of
model 9116 and later gives its MAC address with the second card-ready indication, an older one has
it read from the EEPROM.

Indications say which of the queued frames they answer; the driver does not know. A frame is not
sent when there is no memory for it. The efuse map, the USB register and the defaults that
`rsi_set_default_parameters` sets beside the band are left out, and so are the confirms that do not
touch the state.

## Main results

* `not_moveOk`: `AMPDU_IND` ends the initialisation in any state, and a repeated confirm is taken
  for the confirm of the frame that was sent last;
* `moveOk_of_discipline`: the state moves along its chain in the runs that keep to `BootDiscipline`.
-/

namespace Boot

/-- `fsm_state` -/
inductive FsmState
  | fwNotLoaded
  | cardNotReady
  | commonDevParamsSent
  | bootParamsSent
  | eepromReadMacAddr
  | eepromReadRfType
  | resetMacSent
  | radioCapsSent
  | bbRfProgSent
  | macInitDone
  | ampduIndSent
  | scanCfm
  deriving DecidableEq, Repr

/-- `enum cmd_frame_type`, the types of frames and the sub-types of their confirms. -/
inductive CmdFrameType
  | resetMacReq
  | radioCapabilities
  | rfProgValuesRequest
  | bootupParamsRequest
  | eepromRead
  | ampduInd
  | bbpProgInTa
  | commonDevConfig
  | featuresEnable
  | other
  deriving DecidableEq, Repr

/-- `struct rsi_common` and `struct rsi_hw`. The last two fields are the frames that were queued and
the calls of `rsi_mac80211_attach` in the present passage through the states. -/
structure Common where
  /-- `DEV_MODEL_9116` -/
  model9116 : Bool
  /-- `driver_mode` is `RF_EVAL_MODE_ON`. -/
  rfEvalMode : Bool
  fsmState : FsmState
  bbRfProgCount : BitVec 8
  rfReset : Bool
  /-- `band` is `NL80211_BAND_5GHZ`. -/
  band5ghz : Bool
  numSuppBands : ℕ
  macAddr : List (BitVec 8)
  acxModule : Bool
  is915 : Bool
  commonHalTxAccess : Bool
  reinitHw : Bool
  hwDataQsBlocked : Bool
  frames : List CmdFrameType
  attached : ℕ

/-- What a handler finds: the bytes of the message, random bytes, for which frames there is memory,
and the return code of `rsi_mac80211_attach`. -/
structure Inputs where
  msg : ℕ → BitVec 8
  random : ℕ → BitVec 8
  alloc : Bool
  /-- Memory for the frame of `rsi_send_w9116_features`. -/
  allocFeatures : Bool
  attach : ℤ

/-- `-ENOMEM` -/
def ENOMEM : ℤ := -12

/-- `-EINVAL` -/
def EINVAL : ℤ := -22

/-- `MAGIC_WORD` -/
def MAGIC_WORD : BitVec 8 := 0x5a

namespace Inputs

/-- The low 12 bits of the first two bytes. -/
def msgLen (i : Inputs) : ℕ := ((i.msg 0).toNat + 256 * (i.msg 1).toNat) % 4096

/-- An ACx module whose voltage is out of range. -/
def voltageOutOfRange (i : Inputs) : Bool := (i.msg 15).getLsbD 0 && (i.msg 15).getLsbD 1

/-- The card-ready indication of the WLAN HAL has a MAC address. -/
def macAddrValid (i : Inputs) : Bool := i.msg 16 == MAGIC_WORD && i.msg 21 != 0

/-- The address leaves no room for the addresses of further interfaces. -/
def macAddrTooHigh (i : Inputs) : Bool :=
  i.macAddrValid && i.msg 23 == 0xff && i.msg 24 == 0xff && decide (0xfc < (i.msg 25).toNat)

end Inputs

namespace Common

/-- A frame of its own is queued by each of `rsi_send_common_dev_params`, `rsi_load_bootup_params`,
`rsi_eeprom_read`, `rsi_send_reset_mac`, `rsi_load_radio_caps` and `rsi_send_w9116_features`. -/
def send (c : Common) (f : CmdFrameType) (alloc : Bool) : ℤ × Common :=
  if alloc then (0, { c with frames := c.frames ++ [f] }) else (ENOMEM, c)

/-- `rsi_send_common_dev_params` -/
def sendCommonDevParams (c : Common) (alloc : Bool) : ℤ × Common := c.send .commonDevConfig alloc

/-- `rsi_load_bootup_params` -/
def loadBootupParams (c : Common) (alloc : Bool) : ℤ × Common := c.send .bootupParamsRequest alloc

/-- `rsi_eeprom_read` -/
def eepromRead (c : Common) (alloc : Bool) : ℤ × Common := c.send .eepromRead alloc

/-- `rsi_send_reset_mac` -/
def sendResetMac (c : Common) (alloc : Bool) : ℤ × Common := c.send .resetMacReq alloc

/-- `rsi_load_radio_caps` -/
def loadRadioCaps (c : Common) (alloc : Bool) : ℤ × Common := c.send .radioCapabilities alloc

/-- `rsi_send_w9116_features` -/
def sendW9116Features (c : Common) (alloc : Bool) : ℤ × Common := c.send .featuresEnable alloc

/-- `rsi_program_bb_rf` -/
def programBbRf (c : Common) (alloc : Bool) : ℤ × Common :=
  if alloc then
    (0, { c with rfReset := false, bbRfProgCount := 1, frames := c.frames ++ [.bbpProgInTa] })
  else (ENOMEM, c)

/-- Write `fsm_state`. -/
def setFsm (c : Common) (fsmState : FsmState) : Common := { c with fsmState }

/-- The bands of a newer device, from the band that its card-ready indication told. -/
def setNumSuppBands (c : Common) : Common :=
  { c with numSuppBands := if c.band5ghz then 2 else 1 }

/-- The MAC address at an offset of the message. -/
def setMacAddr (c : Common) (i : Inputs) (offset : ℕ) : Common :=
  { c with macAddr := (List.range 6).map fun j => i.msg (offset + j) }

/-- The bands of an older device, from its EEPROM. -/
def setRfType (c : Common) (i : Inputs) : Common :=
  if i.msg 17 &&& 3 = 3 then { c with band5ghz := true, numSuppBands := 2 }
  else if i.msg 17 &&& 3 = 1 then { c with band5ghz := false, numSuppBands := 1 }
  else c

/-- The case `COMMON_DEV_CONFIG` of `rsi_handle_ta_confirm`. -/
def commonDevConfigCfm (c : Common) (i : Inputs) : ℤ × Common :=
  if c.fsmState = .commonDevParamsSent then
    let (status, c) := c.loadBootupParams i.alloc
    if status ≠ 0 then (EINVAL, c.setFsm .cardNotReady) else (0, c.setFsm .bootParamsSent)
  else (0, c)

/-- The case `BOOTUP_PARAMS_REQUEST`. -/
def bootupParamsCfm (c : Common) (i : Inputs) : ℤ × Common :=
  if c.fsmState = .bootParamsSent then
    if c.model9116 then
      let c := c.setNumSuppBands
      let (status, c) := c.sendResetMac i.alloc
      if status ≠ 0 then (EINVAL, c) else (0, c.setFsm .resetMacSent)
    else
      let (status, c) := c.eepromRead i.alloc
      if status ≠ 0 then (EINVAL, c.setFsm .cardNotReady) else (0, c.setFsm .eepromReadMacAddr)
  else (0, c)

/-- The case `EEPROM_READ`. -/
def eepromReadCfm (c : Common) (i : Inputs) : ℤ × Common :=
  if c.fsmState = .eepromReadMacAddr then
    if i.msgLen = 0 then (EINVAL, c)
    else if i.msg 16 = MAGIC_WORD then
      -- the address lies behind the descriptor, the host mode and the magic word
      let c := c.setMacAddr i 21
      let (status, c) := c.eepromRead i.alloc
      -- this failure returns 0
      if status ≠ 0 then (0, c.setFsm .cardNotReady) else (0, c.setFsm .eepromReadRfType)
    else (0, c.setFsm .cardNotReady)
  else if c.fsmState = .eepromReadRfType then
    if i.msgLen = 0 then (EINVAL, c)
    else if i.msg 16 = MAGIC_WORD then
      let c := c.setRfType i
      let (status, c) := c.sendResetMac i.alloc
      if status ≠ 0 then (EINVAL, c) else (0, c.setFsm .resetMacSent)
    else (0, c.setFsm .cardNotReady)
  else (0, c)

/-- The case `RESET_MAC_REQ`. -/
def resetMacCfm (c : Common) (i : Inputs) : ℤ × Common :=
  if c.fsmState = .resetMacSent then
    let (status, c) := c.loadRadioCaps i.alloc
    if status ≠ 0 then (EINVAL, c) else (0, c.setFsm .radioCapsSent)
  else (0, c)

/-- The next BB/RF programming resets the RF chip. -/
def setRfReset (c : Common) : Common := { c with rfReset := true }

/-- The features are sent to a newer device. -/
def sendFeatures (c : Common) (alloc : Bool) : ℤ × Common :=
  if c.model9116 then c.sendW9116Features alloc else (0, c)

/-- The case `RADIO_CAPABILITIES`. -/
def radioCapabilitiesCfm (c : Common) (i : Inputs) : ℤ × Common :=
  if c.fsmState = .radioCapsSent then
    let c := c.setRfReset
    let (status, c) := c.sendFeatures i.allocFeatures
    if status ≠ 0 then (EINVAL, c)
    else
      let (status, c) := c.programBbRf i.alloc
      if status ≠ 0 then (EINVAL, c) else (0, c.setFsm .bbRfProgSent)
  else (0, c)

/-- The cases `RF_PROG_VALUES_REQUEST` and `BBP_PROG_IN_TA`. -/
def bbRfCfm (c : Common) (i : Inputs) : ℤ × Common :=
  if c.fsmState = .bbRfProgSent then
    let c := { c with bbRfProgCount := c.bbRfProgCount - 1 }
    if c.bbRfProgCount = 0 then
      let c := c.setFsm .macInitDone
      if c.reinitHw then (0, { c with hwDataQsBlocked := false, reinitHw := false })
      else if c.rfEvalMode then (0, c)
      else (i.attach, { c with attached := c.attached + 1 })
    else (0, c)
  else (0, c)

/-- The case `AMPDU_IND`, without the burst that it starts. It does not look at `fsm_state`. -/
def ampduIndCfm (c : Common) : ℤ × Common :=
  if c.rfEvalMode then (0, c.setFsm .macInitDone) else (0, c)

/-- `rsi_handle_ta_confirm` -/
def handleTaConfirm (c : Common) (subType : CmdFrameType) (i : Inputs) : ℤ × Common :=
  match subType with
  | .commonDevConfig => c.commonDevConfigCfm i
  | .bootupParamsRequest => c.bootupParamsCfm i
  | .eepromRead => c.eepromReadCfm i
  | .resetMacReq => c.resetMacCfm i
  | .radioCapabilities => c.radioCapabilitiesCfm i
  | .rfProgValuesRequest | .bbpProgInTa => c.bbRfCfm i
  | .ampduInd => c.ampduIndCfm
  | .featuresEnable | .other => (0, c)

/-- What the card-ready indication of the common HAL tells about the module. -/
def setModule (c : Common) (i : Inputs) : Common :=
  { c with
    acxModule := c.acxModule || (i.msg 15).getLsbD 0
    is915 := c.is915 || (!(i.voltageOutOfRange) && (i.msg 15).getLsbD 2)
    commonHalTxAccess := true }

/-- `rsi_handle_card_ready` before the common parameters were sent. -/
def commonCardReady (c : Common) (i : Inputs) : ℤ × Common :=
  let c := c.setModule i
  if i.voltageOutOfRange then (EINVAL, c)
  else
    -- `rsi_set_default_parameters`
    let c := { c with band5ghz := false, fsmState := .cardNotReady }
    let (status, c) := c.sendCommonDevParams i.alloc
    if status < 0 then (EINVAL, c) else (0, c.setFsm .commonDevParamsSent)

/-- The MAC address that the card-ready indication of the WLAN HAL tells, if it is valid; else the
last three bytes are random. -/
def setWlanMacAddr (c : Common) (i : Inputs) : Common :=
  if i.macAddrValid then c.setMacAddr i 20
  else
    { c with
      macAddr := [0x00, 0x23, 0xa7, i.random 0, i.random 1, i.random 2]
      band5ghz := true }

/-- The band that comes with a valid address. -/
def setWlanBand (c : Common) (i : Inputs) : Common :=
  if i.macAddrValid then { c with band5ghz := i.msg 27 == 3 } else c

/-- `rsi_handle_card_ready` after the common parameters were sent. -/
def wlanCardReady (c : Common) (i : Inputs) : ℤ × Common :=
  let c := if c.model9116 then c.setWlanMacAddr i else c
  if c.model9116 && i.macAddrTooHigh then (EINVAL, c)
  else
    let c := if c.model9116 then c.setWlanBand i else c
    let (status, c) := c.loadBootupParams i.alloc
    if status ≠ 0 then (EINVAL, c.setFsm .cardNotReady) else (0, c.setFsm .bootParamsSent)

/-- `rsi_handle_card_ready` -/
def handleCardReady (c : Common) (i : Inputs) : ℤ × Common :=
  match c.fsmState with
  | .cardNotReady => c.commonCardReady i
  | .commonDevParamsSent => c.wlanCardReady i
  | .fwNotLoaded | .bootParamsSent | .eepromReadMacAddr | .eepromReadRfType | .resetMacSent
  | .radioCapsSent | .bbRfProgSent | .macInitDone | .ampduIndSent | .scanCfm => (EINVAL, c)

end Common

/-! ## The chain of states -/

namespace FsmState

/-- The successor of a state. -/
def next (model9116 : Bool) : FsmState → Option FsmState
  | .cardNotReady => some .commonDevParamsSent
  | .commonDevParamsSent => some .bootParamsSent
  | .bootParamsSent => some (if model9116 then .resetMacSent else .eepromReadMacAddr)
  | .eepromReadMacAddr => some .eepromReadRfType
  | .eepromReadRfType => some .resetMacSent
  | .resetMacSent => some .radioCapsSent
  | .radioCapsSent => some .bbRfProgSent
  | .bbRfProgSent => some .macInitDone
  | .macInitDone | .fwNotLoaded | .ampduIndSent | .scanCfm => none

/-- The frame that is sent on the way into a state. -/
def frame : FsmState → Option CmdFrameType
  | .commonDevParamsSent => some .commonDevConfig
  | .bootParamsSent => some .bootupParamsRequest
  | .eepromReadMacAddr | .eepromReadRfType => some .eepromRead
  | .resetMacSent => some .resetMacReq
  | .radioCapsSent => some .radioCapabilities
  | .bbRfProgSent => some .bbpProgInTa
  | .cardNotReady | .macInitDone | .fwNotLoaded | .ampduIndSent | .scanCfm => none

/-- The confirm that a state waits for. -/
def confirmedBy : FsmState → CmdFrameType → Bool
  | .bbRfProgSent, sub => sub == .rfProgValuesRequest || sub == .bbpProgInTa
  | s, sub => s.frame == some sub

end FsmState

/-! ## Runs -/

/-- The driver; `awaited` is the place among the queued frames of the one that was sent on the way
into the present state. -/
structure BootSys where
  common : Common
  awaited : Option ℕ

/-- Indications of the device, with the place of the queued frame that they answer; programming of
BB and RF at run time; and the return to `FSM_CARD_NOT_READY` after an assert of the firmware, or
before the device is initialised again. -/
inductive BootAct
  | cardReady (i : Inputs) (answers : Option ℕ)
  | taConfirm (subType : CmdFrameType) (i : Inputs) (answers : Option ℕ)
  | programBbRf (alloc : Bool)
  | reset (reinit : Bool)

namespace BootSys

/-- `c` is the driver after a step. A passage through the states begins in `FSM_CARD_NOT_READY`. -/
def become (s : BootSys) (c : Common) : BootSys where
  common := if c.fsmState = .cardNotReady then { c with attached := 0 } else c
  awaited :=
    if c.fsmState = s.common.fsmState then s.awaited
    else if c.fsmState.frame.isSome then some (c.frames.length - 1)
    else none

/-- One step. -/
def step (s : BootSys) : BootAct → Option BootSys
  | .cardReady i _ => some (s.become (s.common.handleCardReady i).2)
  | .taConfirm subType i _ => some (s.become (s.common.handleTaConfirm subType i).2)
  | .programBbRf alloc => some (s.become (s.common.programBbRf alloc).2)
  | .reset reinit =>
    some (s.become
      { s.common with fsmState := .cardNotReady, reinitHw := s.common.reinitHw || reinit })

/-- Runs start with the firmware loaded and nothing queued. -/
def system : TransitionSystem BootSys BootAct where
  Init s := s.common.fsmState = .cardNotReady ∧ s.common.frames = [] ∧ s.common.attached = 0 ∧
    s.awaited = none
  step := step

/-- The indication answers the frame of the present state; the first one answers no frame. -/
def Answers (s : BootSys) : BootAct → Prop
  | .cardReady _ answers =>
    s.common.fsmState = .cardNotReady ∨
      s.common.fsmState = .commonDevParamsSent ∧
        ∃ k, answers = some k ∧ s.awaited = some k ∧ s.common.frames[k]? = s.common.fsmState.frame
  | .taConfirm subType _ answers =>
    s.common.fsmState.confirmedBy subType = true ∧
      ∃ k, answers = some k ∧ s.awaited = some k ∧ s.common.frames[k]? = s.common.fsmState.frame
  | .programBbRf _ | .reset _ => False

end BootSys

/-- What a step of the initialisation may do: the state stays; the answer to its frame, or a reset,
takes it back to `FSM_CARD_NOT_READY`; or the answer takes it to its successor, whose frame has been
queued. -/
structure MoveOk (s : BootSys) (a : BootAct) (s' : BootSys) : Prop where
  move : s'.common.fsmState = s.common.fsmState ∨
    (s.Answers a ∨ ∃ reinit, a = .reset reinit) ∧ s'.common.fsmState = .cardNotReady ∨
    s.Answers a ∧ s.common.fsmState.next s.common.model9116 = some s'.common.fsmState ∧
      ∀ f, s'.common.fsmState.frame = some f →
        ∃ fs, s'.common.frames = s.common.frames ++ fs ++ [f]
  initDone : s'.common.fsmState = .macInitDone → s.common.fsmState ≠ .macInitDone →
    ∃ subType i answers, a = .taConfirm subType i answers ∧
      (subType = .rfProgValuesRequest ∨ subType = .bbpProgInTa)
  attached : s'.common.attached ≤ 1
  noWrap : s'.common.bbRfProgCount.toNat ≤ s.common.bbRfProgCount.toNat ∨
    s'.common.bbRfProgCount = 1

/-- No `AMPDU_IND` comes in RF evaluation mode before the initialisation is done, and an indication
that the present state waits for is the answer to the frame of that state. -/
def BootDiscipline (s : BootSys) : BootAct → Prop
  | .cardReady _ answers => s.common.fsmState = .commonDevParamsSent → answers = s.awaited
  | .taConfirm subType _ answers =>
    (subType = .ampduInd → s.common.rfEvalMode = true → s.common.fsmState = .macInitDone) ∧
      (s.common.fsmState.confirmedBy subType = true → answers = s.awaited)
  | .programBbRf _ | .reset _ => True

instance (s : BootSys) (a : BootAct) : Decidable (BootDiscipline s a) :=
  match a with
  | .cardReady _ _ => inferInstanceAs (Decidable (_ → _))
  | .taConfirm _ _ _ => inferInstanceAs (Decidable ((_ → _ → _) ∧ (_ → _)))
  | .programBbRf _ | .reset _ => .isTrue trivial

/-! ## Stray and repeated confirms -/

/-- A device before its first card-ready indication. -/
def BootSys.start (model9116 rfEvalMode : Bool) : BootSys where
  common :=
    { model9116
      rfEvalMode
      fsmState := .cardNotReady
      bbRfProgCount := 0
      rfReset := false
      band5ghz := false
      numSuppBands := 0
      macAddr := []
      acxModule := false
      is915 := false
      commonHalTxAccess := false
      reinitHw := false
      hwDataQsBlocked := false
      frames := []
      attached := 0 }
  awaited := none

theorem BootSys.init_start (model9116 rfEvalMode : Bool) :
    BootSys.system.Init (.start model9116 rfEvalMode) :=
  ⟨rfl, rfl, rfl, rfl⟩

/-- A message of 16 bytes with the magic word, and memory for every frame. -/
def Inputs.good : Inputs where
  msg j := if j = 0 then 16 else if j = 15 then 0 else if j = 16 then MAGIC_WORD else 1
  random _ := 0
  alloc := true
  allocFeatures := true
  attach := 0

/-- An old device up to the read of its MAC address. -/
def macAddrSchedule : List BootAct :=
  [.cardReady .good none, .taConfirm .commonDevConfig .good (some 0),
    .taConfirm .bootupParamsRequest .good (some 1), .taConfirm .eepromRead .good (some 2)]

/-- In RF evaluation mode `AMPDU_IND` ends the initialisation before it has begun; in other modes
the confirm of the first read of the EEPROM, repeated, is taken for the confirm of the second. -/
theorem not_moveOk :
    (¬ ∀ s a s', BootSys.system.Reachable s → BootSys.system.step s a = some s' → MoveOk s a s') ∧
      ¬ ∀ s a s', BootSys.system.Reachable s → s.common.rfEvalMode = false →
        BootSys.system.step s a = some s' → MoveOk s a s' := by
  constructor
  · intro h
    have hmove := h (.start true true) (.taConfirm .ampduInd .good none) _
      (.init (BootSys.init_start true true)) rfl
    obtain ⟨subType, i, answers, heq, hsub⟩ := hmove.initDone rfl (by decide)
    cases heq
    rcases hsub with hsub | hsub <;> cases hsub
  · intro h
    have hmove := h ((BootSys.system.run (.start false false) macAddrSchedule).get rfl)
      (.taConfirm .eepromRead .good (some 2)) _
      (TransitionSystem.reachable_get (BootSys.init_start false false) rfl) rfl rfl
    rcases hmove.move with hstay | ⟨-, hback⟩ | ⟨⟨-, k, hanswers, hawaited, -⟩, -⟩
    · cases hstay
    · cases hback
    · have hk : some 3 = some k := hawaited
      cases hanswers
      cases hk

/-! ## What an indication does -/

/-- The two kinds of indications. -/
inductive Indication
  | cardReady
  | confirm (subType : CmdFrameType)
  deriving DecidableEq, Repr

/-- The present state waits for the indication. -/
def Common.Awaits (c : Common) : Indication → Prop
  | .cardReady => c.fsmState = .cardNotReady ∨ c.fsmState = .commonDevParamsSent
  | .confirm subType => c.fsmState.confirmedBy subType = true

/-- What an indication does to the driver. -/
inductive Common.Effect (c : Common) (ind : Indication) (c' : Common) : Prop
  | stay (hstate : c'.fsmState = c.fsmState) (hcount : c'.bbRfProgCount = c.bbRfProgCount)
      (hattached : c'.attached = c.attached) (hframes : c.frames <+: c'.frames)
  | back (hawaits : c.Awaits ind) (hstate : c'.fsmState = .cardNotReady)
      (hcount : c'.bbRfProgCount = c.bbRfProgCount)
  /-- The frame of the successor is queued. -/
  | advance (f : CmdFrameType) (fs : List CmdFrameType) (hawaits : c.Awaits ind)
      (hnext : c.fsmState.next c.model9116 = some c'.fsmState)
      (hframe : c'.fsmState.frame = some f) (hframes : c'.frames = c.frames ++ fs ++ [f])
      (hcount : if c'.fsmState = .bbRfProgSent then c'.bbRfProgCount = 1
        else c'.bbRfProgCount = c.bbRfProgCount)
      (hattached : c'.attached = c.attached)
  /-- A confirm of BB/RF programming that is not the last one. -/
  | countDown (hstate : c.fsmState = .bbRfProgSent) (hmore : c.bbRfProgCount - 1 ≠ 0)
      (hstate' : c'.fsmState = .bbRfProgSent) (hcount : c'.bbRfProgCount = c.bbRfProgCount - 1)
      (hattached : c'.attached = c.attached) (hframes : c'.frames = c.frames)
  /-- The last confirm of BB/RF programming. -/
  | done (hstate : c.fsmState = .bbRfProgSent) (hawaits : c.Awaits ind)
      (hstate' : c'.fsmState = .macInitDone) (hcount : c'.bbRfProgCount = 0)
      (hattached : c'.attached ≤ c.attached + 1)
  /-- `AMPDU_IND` in RF evaluation mode. -/
  | ampdu (hind : ind = .confirm .ampduInd) (hmode : c.rfEvalMode = true)
      (hstate : c'.fsmState = .macInitDone) (hcount : c'.bbRfProgCount = c.bbRfProgCount)
      (hattached : c'.attached = c.attached)

namespace Common

variable {c : Common} {i : Inputs}

/-- A send fails and changes nothing, or it queues its frame. -/
theorem send_cases (c : Common) (f : CmdFrameType) (alloc : Bool) :
    c.send f alloc = (ENOMEM, c) ∨ c.send f alloc = (0, { c with frames := c.frames ++ [f] }) := by
  cases alloc with
  | false => exact .inl rfl
  | true => exact .inr rfl

theorem stays (c : Common) (ind : Indication) : c.Effect ind c :=
  .stay rfl rfl rfl (List.prefix_refl _)

theorem goesBack {ind : Indication} (hawaits : c.Awaits ind) :
    c.Effect ind (c.setFsm .cardNotReady) :=
  .back hawaits rfl rfl

theorem advances {ind : Indication} {f : CmdFrameType} {next : FsmState}
    (hawaits : c.Awaits ind) (hnext : c.fsmState.next c.model9116 = some next)
    (hframe : next.frame = some f) (hne : next ≠ .bbRfProgSent) :
    c.Effect ind (setFsm { c with frames := c.frames ++ [f] } next) := by
  refine .advance f [] hawaits hnext hframe ?_ ?_ rfl
  · rw [List.append_nil]
    rfl
  · rw [setFsm, if_neg hne]

/-- `b` is the driver that has learnt its band or its address in between. -/
structure Alike (c b : Common) : Prop where
  model9116 : b.model9116 = c.model9116
  rfEvalMode : b.rfEvalMode = c.rfEvalMode
  fsmState : b.fsmState = c.fsmState
  bbRfProgCount : b.bbRfProgCount = c.bbRfProgCount
  frames : b.frames = c.frames
  attached : b.attached = c.attached

theorem Alike.effect {b c' : Common} {ind : Indication} (h : c.Alike b) (he : b.Effect ind c') :
    c.Effect ind c' := by
  have hawaits : b.Awaits ind → c.Awaits ind := by
    cases ind <;> simp [Awaits, h.fsmState]
  cases he with
  | stay hstate hcount hattached hframes =>
    exact .stay (hstate.trans h.fsmState) (hcount.trans h.bbRfProgCount)
      (hattached.trans h.attached) (h.frames ▸ hframes)
  | back ha hstate hcount => exact .back (hawaits ha) hstate (hcount.trans h.bbRfProgCount)
  | advance f fs ha hnext hframe hframes hcount hattached =>
    refine .advance f fs (hawaits ha) ?_ hframe (h.frames ▸ hframes) ?_
      (hattached.trans h.attached)
    · rw [← h.fsmState, ← h.model9116]
      exact hnext
    · rw [← h.bbRfProgCount]
      exact hcount
  | countDown hstate hmore hstate' hcount hattached hframes =>
    refine .countDown (h.fsmState ▸ hstate) ?_ hstate' ?_ (hattached.trans h.attached)
      (hframes.trans h.frames)
    · rw [← h.bbRfProgCount]
      exact hmore
    · rw [← h.bbRfProgCount]
      exact hcount
  | done hstate ha hstate' hcount hattached =>
    exact .done (h.fsmState ▸ hstate) (hawaits ha) hstate' hcount (h.attached ▸ hattached)
  | ampdu hind hmode hstate hcount hattached =>
    exact .ampdu hind (h.rfEvalMode ▸ hmode) hstate (hcount.trans h.bbRfProgCount)
      (hattached.trans h.attached)

theorem alike_setNumSuppBands (c : Common) : c.Alike c.setNumSuppBands :=
  ⟨rfl, rfl, rfl, rfl, rfl, rfl⟩

theorem alike_setMacAddr (c : Common) (i : Inputs) (offset : ℕ) : c.Alike (c.setMacAddr i offset) :=
  ⟨rfl, rfl, rfl, rfl, rfl, rfl⟩

theorem alike_setRfReset (c : Common) : c.Alike c.setRfReset := ⟨rfl, rfl, rfl, rfl, rfl, rfl⟩

theorem alike_setModule (c : Common) (i : Inputs) : c.Alike (c.setModule i) :=
  ⟨rfl, rfl, rfl, rfl, rfl, rfl⟩

theorem alike_setRfType (c : Common) (i : Inputs) : c.Alike (c.setRfType i) := by
  unfold setRfType
  split_ifs
  all_goals exact ⟨rfl, rfl, rfl, rfl, rfl, rfl⟩

theorem alike_setWlanMacAddr (c : Common) (i : Inputs) : c.Alike (c.setWlanMacAddr i) := by
  unfold setWlanMacAddr
  split_ifs
  · exact c.alike_setMacAddr i 20
  · exact ⟨rfl, rfl, rfl, rfl, rfl, rfl⟩

theorem alike_setWlanBand (c : Common) (i : Inputs) : c.Alike (c.setWlanBand i) := by
  unfold setWlanBand
  split_ifs
  all_goals exact ⟨rfl, rfl, rfl, rfl, rfl, rfl⟩

/-- The frame of the next state is sent; when it cannot be sent, `fail` says what happens. -/
theorem sendThen_effect {ind : Indication} {f : CmdFrameType} {alloc : Bool} (next : FsmState)
    (fail : Common → ℤ × Common) (hawaits : c.Awaits ind)
    (hnext : c.fsmState.next c.model9116 = some next) (hframe : next.frame = some f)
    (hne : next ≠ .bbRfProgSent) (hfail : c.Effect ind (fail c).2) :
    c.Effect ind (match c.send f alloc with
      | (status, c) => if status ≠ 0 then fail c else (0, c.setFsm next)).2 := by
  rcases c.send_cases f alloc with hsend | hsend
  · rw [hsend]
    exact hfail
  · rw [hsend]
    exact advances hawaits hnext hframe hne

theorem commonDevConfigCfm_effect (c : Common) (i : Inputs) :
    c.Effect (.confirm .commonDevConfig) (c.commonDevConfigCfm i).2 := by
  unfold commonDevConfigCfm
  split
  case isFalse => exact c.stays _
  case isTrue hstate =>
    have hawaits : c.Awaits (.confirm .commonDevConfig) := by rw [Awaits, hstate]; rfl
    exact sendThen_effect .bootParamsSent (fun c => (EINVAL, c.setFsm .cardNotReady)) hawaits
      (by rw [hstate]; rfl) rfl (by decide) (goesBack hawaits)

theorem bootupParamsCfm_effect (c : Common) (i : Inputs) :
    c.Effect (.confirm .bootupParamsRequest) (c.bootupParamsCfm i).2 := by
  unfold bootupParamsCfm
  split
  case isFalse => exact c.stays _
  case isTrue hstate =>
    split
    case isTrue hmodel =>
      have hb := c.alike_setNumSuppBands
      have hawaits : c.setNumSuppBands.Awaits (.confirm .bootupParamsRequest) := by
        rw [Awaits, hb.fsmState, hstate]
        rfl
      refine hb.effect (sendThen_effect .resetMacSent (fun c => (EINVAL, c)) hawaits ?_ rfl
        (by decide) (stays _ _))
      rw [hb.fsmState, hb.model9116, hstate, hmodel]
      rfl
    case isFalse hmodel =>
      have hawaits : c.Awaits (.confirm .bootupParamsRequest) := by rw [Awaits, hstate]; rfl
      refine sendThen_effect .eepromReadMacAddr (fun c => (EINVAL, c.setFsm .cardNotReady)) hawaits
        ?_ rfl (by decide) (goesBack hawaits)
      rw [hstate, Bool.eq_false_iff.2 hmodel]
      rfl

theorem eepromReadCfm_effect (c : Common) (i : Inputs) :
    c.Effect (.confirm .eepromRead) (c.eepromReadCfm i).2 := by
  unfold eepromReadCfm
  split
  case isTrue hstate =>
    have hawaits : c.Awaits (.confirm .eepromRead) := by rw [Awaits, hstate]; rfl
    split
    case isTrue => exact c.stays _
    case isFalse =>
      split
      case isTrue =>
        -- the magic word is there: the second read follows
        have hb := c.alike_setMacAddr i 21
        have hawaits' : (c.setMacAddr i 21).Awaits (.confirm .eepromRead) := hawaits
        refine hb.effect (sendThen_effect .eepromReadRfType
          (fun c => (0, c.setFsm .cardNotReady)) hawaits' ?_ rfl (by decide) (goesBack hawaits'))
        rw [hb.fsmState, hstate]
        rfl
      case isFalse => exact goesBack hawaits
  case isFalse =>
    split
    case isTrue hstate =>
      have hawaits : c.Awaits (.confirm .eepromRead) := by rw [Awaits, hstate]; rfl
      split
      case isTrue => exact c.stays _
      case isFalse =>
        split
        case isTrue =>
          have hb := c.alike_setRfType i
          have hawaits' : (c.setRfType i).Awaits (.confirm .eepromRead) := by
            rw [Awaits, hb.fsmState]
            exact hawaits
          refine hb.effect (sendThen_effect .resetMacSent (fun c => (EINVAL, c)) hawaits' ?_ rfl
            (by decide) (stays _ _))
          rw [hb.fsmState, hstate]
          rfl
        case isFalse => exact goesBack hawaits
    case isFalse => exact c.stays _

theorem resetMacCfm_effect (c : Common) (i : Inputs) :
    c.Effect (.confirm .resetMacReq) (c.resetMacCfm i).2 := by
  unfold resetMacCfm
  split
  case isFalse => exact c.stays _
  case isTrue hstate =>
    have hawaits : c.Awaits (.confirm .resetMacReq) := by rw [Awaits, hstate]; rfl
    exact sendThen_effect .radioCapsSent (fun c => (EINVAL, c)) hawaits (by rw [hstate]; rfl) rfl
      (by decide) (stays _ _)

theorem sendFeatures_cases (c : Common) (alloc : Bool) :
    ∃ status fs, c.sendFeatures alloc = (status, { c with frames := c.frames ++ fs }) := by
  unfold sendFeatures
  split
  case isTrue =>
    rcases c.send_cases .featuresEnable alloc with hsend | hsend
    · exact ⟨ENOMEM, [], by simp [sendW9116Features, hsend]⟩
    · exact ⟨0, [.featuresEnable], by rw [sendW9116Features, hsend]⟩
  case isFalse => exact ⟨0, [], by simp⟩

theorem radioCapabilitiesCfm_effect (c : Common) (i : Inputs) :
    c.Effect (.confirm .radioCapabilities) (c.radioCapabilitiesCfm i).2 := by
  unfold radioCapabilitiesCfm
  split
  case isFalse => exact c.stays _
  case isTrue hstate =>
    have hb := c.alike_setRfReset
    -- `rf_reset` and the features come before the frame of the next state
    have hawaits : c.setRfReset.Awaits (.confirm .radioCapabilities) := by
      rw [Awaits, hb.fsmState, hstate]
      rfl
    have hnext : c.setRfReset.fsmState.next c.setRfReset.model9116 = some .bbRfProgSent := by
      rw [hb.fsmState, hstate]
      rfl
    obtain ⟨status, fs, hfeatures⟩ := c.setRfReset.sendFeatures_cases i.allocFeatures
    simp only [hfeatures]
    apply hb.effect
    split
    case isTrue => exact .stay rfl rfl rfl (List.prefix_append ..)
    case isFalse =>
      -- without memory for the programming of BB and RF the features are queued all the same
      cases i.alloc with
      | false => exact .stay rfl rfl rfl (List.prefix_append ..)
      | true => exact .advance .bbpProgInTa fs hawaits hnext rfl rfl rfl rfl

theorem bbRfCfm_effect (c : Common) (i : Inputs) {subType : CmdFrameType}
    (hsub : subType = .rfProgValuesRequest ∨ subType = .bbpProgInTa) :
    c.Effect (.confirm subType) (c.bbRfCfm i).2 := by
  unfold bbRfCfm
  split
  case isFalse => exact c.stays _
  case isTrue hstate =>
    have hawaits : c.Awaits (.confirm subType) := by
      rw [Awaits, hstate]
      rcases hsub with rfl | rfl <;> rfl
    dsimp only
    split
    case isTrue hlast =>
      -- initialised again, in RF evaluation mode, or attached to mac80211
      split
      case isTrue => exact .done hstate hawaits rfl hlast (Nat.le_succ _)
      case isFalse =>
        split
        case isTrue => exact .done hstate hawaits rfl hlast (Nat.le_succ _)
        case isFalse => exact .done hstate hawaits rfl hlast (Nat.le_refl _)
    case isFalse hmore => exact .countDown hstate hmore hstate rfl rfl rfl

theorem ampduIndCfm_effect (c : Common) : c.Effect (.confirm .ampduInd) c.ampduIndCfm.2 := by
  unfold ampduIndCfm
  split
  case isTrue hmode => exact .ampdu rfl hmode rfl rfl rfl
  case isFalse => exact c.stays _

theorem alike_setDefaultParameters (hstate : c.fsmState = .cardNotReady) :
    c.Alike { c with band5ghz := false, fsmState := .cardNotReady } :=
  ⟨rfl, rfl, hstate.symm, rfl, rfl, rfl⟩

theorem commonCardReady_effect (i : Inputs) (hstate : c.fsmState = .cardNotReady) :
    c.Effect .cardReady (c.commonCardReady i).2 := by
  have hb := c.alike_setModule i
  apply hb.effect
  unfold commonCardReady
  dsimp only
  split
  case isTrue => exact stays _ _
  case isFalse =>
    refine (alike_setDefaultParameters (hb.fsmState.trans hstate)).effect ?_
    rcases send_cases { c.setModule i with band5ghz := false, fsmState := .cardNotReady }
      .commonDevConfig i.alloc with hsend | hsend
    · rw [sendCommonDevParams, hsend]
      exact stays _ _
    · rw [sendCommonDevParams, hsend]
      exact advances (.inl rfl) rfl rfl (by decide)

theorem wlanCardReady_effect (i : Inputs) (hstate : c.fsmState = .commonDevParamsSent) :
    c.Effect .cardReady (c.wlanCardReady i).2 := by
  have haddr : c.Alike (if c.model9116 then c.setWlanMacAddr i else c) := by
    split
    · exact c.alike_setWlanMacAddr i
    · exact ⟨rfl, rfl, rfl, rfl, rfl, rfl⟩
  unfold wlanCardReady
  apply haddr.effect
  -- from here on only `haddr` is known of the driver that has its address
  generalize (if c.model9116 then c.setWlanMacAddr i else c) = b at haddr ⊢
  replace hstate := haddr.fsmState.trans hstate
  dsimp only
  split
  case isTrue => exact stays _ _
  case isFalse =>
    have hband : b.Alike (if b.model9116 then b.setWlanBand i else b) := by
      split
      · exact b.alike_setWlanBand i
      · exact ⟨rfl, rfl, rfl, rfl, rfl, rfl⟩
    apply hband.effect
    generalize (if b.model9116 then b.setWlanBand i else b) = d at hband ⊢
    replace hstate := hband.fsmState.trans hstate
    exact sendThen_effect .bootParamsSent (fun c => (EINVAL, c.setFsm .cardNotReady))
      (.inr hstate) (by rw [hstate]; rfl) rfl (by decide) (goesBack (.inr hstate))

theorem handleCardReady_effect (c : Common) (i : Inputs) :
    c.Effect .cardReady (c.handleCardReady i).2 := by
  unfold handleCardReady
  split
  case h_1 hstate => exact commonCardReady_effect i hstate
  case h_2 hstate => exact wlanCardReady_effect i hstate
  all_goals exact c.stays _

theorem handleTaConfirm_effect (c : Common) (subType : CmdFrameType) (i : Inputs) :
    c.Effect (.confirm subType) (c.handleTaConfirm subType i).2 := by
  cases subType with
  | commonDevConfig => exact c.commonDevConfigCfm_effect i
  | bootupParamsRequest => exact c.bootupParamsCfm_effect i
  | eepromRead => exact c.eepromReadCfm_effect i
  | resetMacReq => exact c.resetMacCfm_effect i
  | radioCapabilities => exact c.radioCapabilitiesCfm_effect i
  | rfProgValuesRequest => exact c.bbRfCfm_effect i (.inl rfl)
  | bbpProgInTa => exact c.bbRfCfm_effect i (.inr rfl)
  | ampduInd => exact c.ampduIndCfm_effect
  | featuresEnable => exact c.stays _
  | other => exact c.stays _

end Common

/-! ## The invariant -/

namespace FsmState

theorem ne_of_next {model9116 : Bool} {s t : FsmState} (h : s.next model9116 = some t) : t ≠ s := by
  cases s <;> cases model9116 <;> cases h <;> decide

/-- A state that waits for a confirm has sent a frame. -/
theorem exists_frame {s : FsmState} {subType : CmdFrameType} (h : s.confirmedBy subType = true) :
    ∃ f, s.frame = some f := by
  cases s <;> simp_all [confirmedBy, frame]

theorem of_next_macInitDone {model9116 : Bool} {s : FsmState}
    (h : s.next model9116 = some .macInitDone) : s = .bbRfProgSent := by
  cases s <;> cases model9116 <;> first | rfl | cases h

end FsmState

/-- Only a confirm of BB/RF programming answers the frame of the last but one state. -/
theorem BootSys.confirm_of_answers {s : BootSys} {a : BootAct}
    (hstate : s.common.fsmState = .bbRfProgSent) (hanswers : s.Answers a) :
    ∃ subType i answers, a = .taConfirm subType i answers ∧
      (subType = .rfProgValuesRequest ∨ subType = .bbpProgInTa) := by
  cases a with
  | cardReady i answers =>
    rcases hanswers with h | ⟨h, -⟩
    · rw [hstate] at h
      cases h
    · rw [hstate] at h
      cases h
  | taConfirm subType i answers =>
    refine ⟨subType, i, answers, rfl, ?_⟩
    simpa [hstate, FsmState.confirmedBy] using hanswers.1
  | programBbRf alloc => exact hanswers.elim
  | reset reinit => exact hanswers.elim

theorem MoveOk.of_move {s s' : BootSys} {a : BootAct}
    (hmove : s'.common.fsmState = s.common.fsmState ∨
      (s.Answers a ∨ ∃ reinit, a = .reset reinit) ∧ s'.common.fsmState = .cardNotReady ∨
      s.Answers a ∧ s.common.fsmState.next s.common.model9116 = some s'.common.fsmState ∧
        ∀ f, s'.common.fsmState.frame = some f →
          ∃ fs, s'.common.frames = s.common.frames ++ fs ++ [f])
    (hattached : s'.common.attached ≤ 1)
    (hcount : s'.common.bbRfProgCount.toNat ≤ s.common.bbRfProgCount.toNat ∨
      s'.common.bbRfProgCount = 1) : MoveOk s a s' where
  move := hmove
  initDone hdone hne := by
    rcases hmove with hstay | ⟨-, hback⟩ | ⟨hanswers, hnext, -⟩
    · exact absurd (hstay.symm.trans hdone) hne
    · rw [hdone] at hback
      cases hback
    · rw [hdone] at hnext
      exact BootSys.confirm_of_answers (FsmState.of_next_macInitDone hnext) hanswers
  attached := hattached
  noWrap := hcount

namespace BootSys

variable {s : BootSys} {c : Common}

@[simp]
theorem fsmState_become (s : BootSys) (c : Common) : (s.become c).common.fsmState = c.fsmState := by
  unfold become
  split <;> rfl

@[simp]
theorem frames_become (s : BootSys) (c : Common) : (s.become c).common.frames = c.frames := by
  unfold become
  split <;> rfl

@[simp]
theorem bbRfProgCount_become (s : BootSys) (c : Common) :
    (s.become c).common.bbRfProgCount = c.bbRfProgCount := by
  unfold become
  split <;> rfl

@[simp]
theorem attached_become (s : BootSys) (c : Common) :
    (s.become c).common.attached = if c.fsmState = .cardNotReady then 0 else c.attached := by
  unfold become
  split <;> rfl

theorem count_become_le (h : c.bbRfProgCount = s.common.bbRfProgCount) :
    (s.become c).common.bbRfProgCount.toNat ≤ s.common.bbRfProgCount.toNat :=
  Nat.le_of_eq (congrArg BitVec.toNat ((bbRfProgCount_become s c).trans h))

theorem awaited_become_same (h : c.fsmState = s.common.fsmState) :
    (s.become c).awaited = s.awaited :=
  if_pos h

theorem awaited_become_frame {f : CmdFrameType} (h : c.fsmState ≠ s.common.fsmState)
    (hframe : c.fsmState.frame = some f) : (s.become c).awaited = some (c.frames.length - 1) := by
  simp [become, h, hframe]

end BootSys

/-- The invariant of disciplined runs: the awaited frame is the frame of the state, one confirm of
BB/RF programming is due, and mac80211 has been told at most once. -/
structure BootInv (s : BootSys) : Prop where
  awaited : ∀ f, s.common.fsmState.frame = some f →
    ∃ k, s.awaited = some k ∧ s.common.frames[k]? = some f
  count : s.common.fsmState = .bbRfProgSent → s.common.bbRfProgCount = 1
  attached : s.common.attached ≤ 1
  notAttached : s.common.fsmState ≠ .macInitDone → s.common.attached = 0

namespace BootInv

open BootSys (become)

variable {s : BootSys} {c : Common} (hinv : BootInv s)

include hinv

/-- A step that leaves the state, and what is attached to it, alone. -/
theorem stay (hstate : c.fsmState = s.common.fsmState)
    (hcount : c.bbRfProgCount = s.common.bbRfProgCount ∨ c.bbRfProgCount = 1)
    (hattached : c.attached = s.common.attached) (hframes : s.common.frames <+: c.frames) :
    BootInv (s.become c) where
  awaited f hf := by
    rw [BootSys.fsmState_become, hstate] at hf
    obtain ⟨k, hk, hget⟩ := hinv.awaited f hf
    refine ⟨k, (BootSys.awaited_become_same hstate).trans hk, ?_⟩
    obtain ⟨fs, hfs⟩ := hframes
    rw [BootSys.frames_become, ← hfs, List.getElem?_append_left]
    · exact hget
    · exact (List.getElem?_eq_some_iff.1 hget).1
  count h := by
    rw [BootSys.fsmState_become, hstate] at h
    rw [BootSys.bbRfProgCount_become]
    rcases hcount with hcount | hcount
    · rw [hcount, hinv.count h]
    · exact hcount
  attached := by
    rw [BootSys.attached_become, hattached]
    have := hinv.attached
    split <;> omega
  notAttached h := by
    rw [BootSys.fsmState_become, hstate] at h
    rw [BootSys.attached_become, hattached, hinv.notAttached h, ite_self]

omit hinv in
/-- Back to `FSM_CARD_NOT_READY`: the passage is over. -/
theorem back (hstate : c.fsmState = .cardNotReady) : BootInv (s.become c) where
  awaited f hf := by
    rw [BootSys.fsmState_become, hstate] at hf
    cases hf
  count h := by
    rw [BootSys.fsmState_become, hstate] at h
    cases h
  attached := by
    rw [BootSys.attached_become, if_pos hstate]
    exact Nat.zero_le 1
  notAttached _ := by rw [BootSys.attached_become, if_pos hstate]

theorem advance {f : CmdFrameType} {fs : List CmdFrameType}
    (hnext : s.common.fsmState.next s.common.model9116 = some c.fsmState)
    (hframe : c.fsmState.frame = some f) (hframes : c.frames = s.common.frames ++ fs ++ [f])
    (hcount : c.fsmState = .bbRfProgSent → c.bbRfProgCount = 1)
    (hattached : c.attached = s.common.attached) : BootInv (s.become c) where
  awaited g hg := by
    rw [BootSys.fsmState_become, hframe] at hg
    refine ⟨_, BootSys.awaited_become_frame (FsmState.ne_of_next hnext) hframe, ?_⟩
    simp [hframes, hg]
  count h := by
    rw [BootSys.bbRfProgCount_become]
    exact hcount (by simpa using h)
  attached := by
    rw [BootSys.attached_become, hattached]
    have := hinv.attached
    split <;> omega
  notAttached _ := by
    have hne : s.common.fsmState ≠ .macInitDone := fun h => by
      rw [h] at hnext
      cases hnext
    rw [BootSys.attached_become, hattached, hinv.notAttached hne, ite_self]

omit hinv in
/-- The last state, reached with or without a call of `rsi_mac80211_attach`. -/
theorem initDone (hstate : c.fsmState = .macInitDone) (hattached : c.attached ≤ 1) :
    BootInv (s.become c) where
  awaited f hf := by
    rw [BootSys.fsmState_become, hstate] at hf
    cases hf
  count h := by
    rw [BootSys.fsmState_become, hstate] at h
    cases h
  attached := by
    rw [BootSys.attached_become]
    split <;> omega
  notAttached h := absurd ((BootSys.fsmState_become s c).trans hstate) h

/-- The indication of a step. -/
theorem answers_cardReady {i : Inputs} {answers : Option ℕ}
    (hdisc : BootDiscipline s (.cardReady i answers)) (hawaits : s.common.Awaits .cardReady) :
    s.Answers (.cardReady i answers) := by
  rcases hawaits with hstate | hstate
  · exact .inl hstate
  · obtain ⟨k, hk, hget⟩ := hinv.awaited .commonDevConfig (by rw [hstate]; rfl)
    exact .inr ⟨hstate, k, (hdisc hstate).trans hk, hk, by rw [hget, hstate]; rfl⟩

theorem answers_taConfirm {subType : CmdFrameType} {i : Inputs} {answers : Option ℕ}
    (hdisc : BootDiscipline s (.taConfirm subType i answers))
    (hawaits : s.common.Awaits (.confirm subType)) : s.Answers (.taConfirm subType i answers) := by
  obtain ⟨f, hf⟩ := FsmState.exists_frame hawaits
  obtain ⟨k, hk, hget⟩ := hinv.awaited f hf
  exact ⟨hawaits, k, (hdisc.2 hawaits).trans hk, hk, hget.trans hf.symm⟩

/-- What an indication does keeps the invariant and is a move along the chain. -/
theorem of_effect {ind : Indication} {a : BootAct} (heffect : s.common.Effect ind c)
    (hanswers : s.common.Awaits ind → s.Answers a)
    (hampdu : ind = .confirm .ampduInd → s.common.rfEvalMode = true →
      s.common.fsmState = .macInitDone) :
    BootInv (s.become c) ∧ MoveOk s a (s.become c) := by
  cases heffect with
  | stay hstate hcount hattached hframes =>
    have hs' := hinv.stay hstate (.inl hcount) hattached hframes
    refine ⟨hs', .of_move (.inl ?_) hs'.attached (.inl (BootSys.count_become_le hcount))⟩
    rw [BootSys.fsmState_become, hstate]
  | back hawaits hstate hcount =>
    have hs' : BootInv (s.become c) := back hstate
    refine ⟨hs', .of_move (.inr (.inl ⟨.inl (hanswers hawaits), ?_⟩)) hs'.attached
      (.inl (BootSys.count_become_le hcount))⟩
    rw [BootSys.fsmState_become, hstate]
  | advance f fs hawaits hnext hframe hframes hcount hattached =>
    have hbbrf : c.fsmState = .bbRfProgSent → c.bbRfProgCount = 1 := fun h => by
      rwa [if_pos h] at hcount
    have hs' := hinv.advance hnext hframe hframes hbbrf hattached
    refine ⟨hs', .of_move (.inr (.inr ⟨hanswers hawaits, ?_, fun g hg => ⟨fs, ?_⟩⟩))
      hs'.attached ?_⟩
    · rw [BootSys.fsmState_become, hnext]
    · rw [BootSys.fsmState_become, hframe] at hg
      rw [BootSys.frames_become, hframes, Option.some.inj hg]
    · by_cases h : c.fsmState = .bbRfProgSent
      · exact .inr ((BootSys.bbRfProgCount_become s c).trans (hbbrf h))
      · rw [if_neg h] at hcount
        exact .inl (BootSys.count_become_le hcount)
  | countDown hstate hmore hstate' hcount hattached hframes =>
    -- one confirm is due, so that this one is the last
    rw [hinv.count hstate] at hmore
    exact absurd rfl hmore
  | done hstate hawaits hstate' hcount hattached =>
    -- nothing was attached before the last state, so that this is the only time
    have hzero := hinv.notAttached (by rw [hstate]; decide)
    have hs' : BootInv (s.become c) := initDone hstate' (by omega)
    refine ⟨hs', .of_move (.inr (.inr ⟨hanswers hawaits, ?_, fun g hg => ?_⟩)) hs'.attached
      (.inl ?_)⟩
    · rw [BootSys.fsmState_become, hstate, hstate']
      rfl
    · rw [BootSys.fsmState_become, hstate'] at hg
      cases hg
    · rw [BootSys.bbRfProgCount_become, hcount]
      exact Nat.zero_le _
  | ampdu hind hmode hstate hcount hattached =>
    -- the discipline lets the shortcut of RF evaluation mode through only where it leads nowhere
    have hdone := hampdu hind hmode
    have hs' : BootInv (s.become c) := initDone hstate (by rw [hattached]; exact hinv.attached)
    refine ⟨hs', .of_move (.inl ?_) hs'.attached (.inl (BootSys.count_become_le hcount))⟩
    rw [BootSys.fsmState_become, hstate, hdone]

/-- One step of a disciplined run. -/
theorem step {s' : BootSys} {a : BootAct} (hdisc : BootDiscipline s a)
    (hstep : BootSys.step s a = some s') : BootInv s' ∧ MoveOk s a s' := by
  cases a with
  | cardReady i answers =>
    obtain rfl := Option.some.inj hstep
    exact hinv.of_effect (s.common.handleCardReady_effect i) (hinv.answers_cardReady hdisc)
      (fun h => by cases h)
  | taConfirm subType i answers =>
    obtain rfl := Option.some.inj hstep
    exact hinv.of_effect (s.common.handleTaConfirm_effect subType i)
      (hinv.answers_taConfirm hdisc) (fun h => hdisc.1 (Indication.confirm.inj h))
  | programBbRf alloc =>
    obtain rfl := Option.some.inj hstep
    cases alloc with
    | false =>
      have hs' := hinv.stay (c := s.common) rfl (.inl rfl) rfl (List.prefix_refl _)
      exact ⟨hs', .of_move (.inl (BootSys.fsmState_become ..)) hs'.attached
        (.inl (BootSys.count_become_le rfl))⟩
    | true =>
      have hs' := hinv.stay (c := (s.common.programBbRf true).2) rfl (.inr rfl) rfl
        (List.prefix_append ..)
      exact ⟨hs', .of_move (.inl (BootSys.fsmState_become ..)) hs'.attached
        (.inr (BootSys.bbRfProgCount_become ..))⟩
  | reset reinit =>
    obtain rfl := Option.some.inj hstep
    have hs' : BootInv (s.become { s.common with
        fsmState := .cardNotReady, reinitHw := s.common.reinitHw || reinit }) := back rfl
    exact ⟨hs', .of_move (.inr (.inl ⟨.inr ⟨reinit, rfl⟩, BootSys.fsmState_become ..⟩)) hs'.attached
      (.inl (BootSys.count_become_le rfl))⟩

end BootInv

theorem BootInv.init {s : BootSys} (h : BootSys.system.Init s) : BootInv s := by
  obtain ⟨hstate, -, hattached, -⟩ := h
  exact
    { awaited := fun f hf => by
        rw [hstate] at hf
        cases hf
      count := fun h => by
        rw [hstate] at h
        cases h
      attached := by
        rw [hattached]
        exact Nat.zero_le 1
      notAttached := fun _ => hattached }

/-- In disciplined runs the state moves along its chain. -/
theorem moveOk_of_discipline {s s' : BootSys} {a : BootAct}
    (h : BootSys.system.ReachableVia BootDiscipline s) (hdisc : BootDiscipline s a)
    (hstep : BootSys.system.step s a = some s') : MoveOk s a s' := by
  have hinv : BootInv s := h.invariant BootInv (fun _ => .init) fun _ _ _ hinv hdisc hstep =>
    (hinv.step hdisc hstep).1
  exact (hinv.step hdisc hstep).2

/-- An old device with a stray confirm on the way, up to the confirm of its BB/RF programming. -/
def bootSchedule : List BootAct :=
  macAddrSchedule ++
    [.taConfirm .resetMacReq .good none, .taConfirm .eepromRead .good (some 3),
      .taConfirm .resetMacReq .good (some 4), .taConfirm .radioCapabilities .good (some 5)]

/-- The state before that confirm. -/
def bootState : BootSys :=
  (BootSys.system.runVia BootDiscipline (.start false false) bootSchedule).get rfl

theorem moveOk_bootState :
    bootState.common.fsmState = .bbRfProgSent ∧
      MoveOk bootState (.taConfirm .bbpProgInTa .good (some 6))
        (bootState.become (bootState.common.handleTaConfirm .bbpProgInTa .good).2) :=
  ⟨rfl, moveOk_of_discipline
    (TransitionSystem.reachableVia_get (BootSys.init_start false false) rfl) (by decide) rfl⟩

end Boot
