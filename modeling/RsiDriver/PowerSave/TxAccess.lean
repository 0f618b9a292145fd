import Mathlib.Logic.Function.Basic

/-!
# Transmit access in the packet power-save handshake

The device asks for ultra-low-power sleep with a ULP sleep-entry notification and ends it with
a sleep-exit notification. The host answers an entry with an acknowledgement once no protocol
intends to transmit. This file models the shared state of that handshake and the critical
sections of `tx_access_lock` (`rsi_91x_ps.c`, `rsi_91x_mgmt.c`), in packet handshake mode:
`lp_ps_handshake_mode` and `ulp_ps_handshake_mode` differ from `GPIO_HAND_SHAKE`.

Each function below is one critical section, or one access outside the lock. The threads that
execute them are in `PowerSave.Senders`.

The suspend timer that `set_clr_tx_intention` re-arms on a suspended USB interface reads and
writes none of this state and is left out, as is the `cfm_sleep_exit` event, which nothing here
waits for.
-/

namespace PowerSave

/-- The protocol ids `WLAN_ID`, `BT_ZB_ID` and `COMMON_ID` that index `techs[MAX_IDS]`. -/
inductive TechId
  | wlan
  | btZb
  | common
  deriving DecidableEq, Repr

/-- All protocol ids in the order of the loops over `MAX_IDS`. -/
def TechId.all : List TechId := [.wlan, .btZb, .common]

/-- The next id of a loop `for (id = 0; id < MAX_IDS; id++)`, if any. -/
def TechId.next : TechId → Option TechId
  | .wlan => some .btZb
  | .btZb => some .common
  | .common => none

/-- `struct wireless_techs`: one protocol's entry of `techs`. -/
structure WirelessTech where
  /-- The protocol wants to transmit, so no sleep entry may be acknowledged. -/
  txIntention : Bool
  /-- A thread of the protocol waits for transmit access. -/
  waitForTxAccess : Bool
  deriving DecidableEq, Repr

/-- The fields of `struct rsi_common` that the packet handshake reads or writes. -/
structure Common where
  techs : TechId → WirelessTech
  commonHalTxAccess : Bool
  sleepEntryReceived : Bool
  ulpSleepAckSent : Bool
  ulpToken : BitVec 16

/-- The handshake state once the card is ready: no intention, no waiter, no sleep entry. -/
def Common.start (txAccess : Bool) : Common where
  techs _ := ⟨false, false⟩
  commonHalTxAccess := txAccess
  sleepEntryReceived := false
  ulpSleepAckSent := false
  ulpToken := 0

/-- `struct rsi_ulp_params`: the eight descriptor words of a ULP frame. -/
structure RsiUlpParams where
  descWord : Vector (BitVec 16) 8
  deriving DecidableEq, Repr

/-- Descriptor word 6 of an acknowledgement carries the token of the entry it answers. -/
def RsiUlpParams.token (params : RsiUlpParams) : BitVec 16 := params.descWord[6]

/-- Frame type `CONFIRM` of `enum cmd_frame_type`. -/
def CONFIRM : BitVec 16 := 0x21

/-- Notification type `ULP_SLEEP_NOTIFY`. -/
def ULP_SLEEP_NOTIFY : BitVec 16 := 6

/-- The token that `rsi_process_ulp_sleep_notify` stores on a sleep exit. -/
def EXIT_TOKEN : BitVec 16 := 0xABCD

/-- `(msg[12] & BIT(0)) == ULP_SLEEP_ENTRY`, on the 16-bit word at offset 12. -/
def isUlpSleepEntry (word : BitVec 16) : Bool := word &&& 1 == 1

/-- `ULP_TOKEN`: the 16-bit word at offset 12 shifted right by four. -/
def ulpTokenOf (word : BitVec 16) : BitVec 16 := word >>> 4

/-- The acknowledgement frame that `rsi_send_ack_for_ulp_entry` builds. -/
def ulpAckFrame (token : BitVec 16) : RsiUlpParams where
  descWord := #v[0, CONFIRM, 0, 0, 0, 0, token, ULP_SLEEP_NOTIFY <<< 8]

@[simp]
theorem ulpAckFrame_token (token : BitVec 16) : (ulpAckFrame token).token = token := rfl

namespace Common

/-- `protocol_tx_access`: some protocol intends to transmit. -/
def protocolTxAccess (common : Common) : Bool :=
  TechId.all.any fun id => (common.techs id).txIntention

/-- `techs[id].tx_intention = value`. -/
def setIntentionBit (common : Common) (id : TechId) (value : Bool) : Common :=
  { common with
    techs := Function.update common.techs id { common.techs id with txIntention := value } }

/-- `techs[id].wait_for_tx_access = value`. -/
def setWaitFlag (common : Common) (id : TechId) (value : Bool) : Common :=
  { common with
    techs := Function.update common.techs id { common.techs id with waitForTxAccess := value } }

/-- `rsi_send_ack_for_ulp_entry`: build the acknowledgement and hand it to `write_pkt`. When
the allocation fails (`alloc = false`) nothing is sent and `ulp_sleep_ack_sent` keeps its
value. -/
def sendAckForUlpEntry (common : Common) (alloc : Bool) : Common × Option RsiUlpParams :=
  if alloc then
    ({ common with ulpSleepAckSent := true }, some (ulpAckFrame common.ulpToken))
  else
    (common, none)

/-- The critical section of `set_clr_tx_intention(common, id, 1)`. -/
def setTxIntention (common : Common) (id : TechId) : Common :=
  common.setIntentionBit id true

/-- `set_clr_tx_intention(common, id, 0)`. The second component is `some` frame-or-failure when
`rsi_send_ack_for_ulp_entry` is called. -/
def clrTxIntention (common : Common) (id : TechId) (alloc : Bool) :
    Common × Option (Option RsiUlpParams) :=
  let cleared := common.setIntentionBit id false
  -- a denied entry is answered when the last intention goes
  if cleared.sleepEntryReceived && !cleared.ulpSleepAckSent then
    if !cleared.protocolTxAccess then
      let (common', frame) := { cleared with commonHalTxAccess := false }.sendAckForUlpEntry alloc
      (common', some frame)
    else
      (cleared, none)
  else
    (cleared, none)

/-- The wake-up loop over `techs`: every set `wait_for_tx_access` flag is cleared. -/
def wakeWaiters (common : Common) : Common :=
  { common with techs := fun id => { common.techs id with waitForTxAccess := false } }

/-- The sleep-entry branch of `rsi_process_ulp_sleep_notify`, one critical section. -/
def ulpSleepEntry (common : Common) (word : BitVec 16) (alloc : Bool) :
    Common × Option (Option RsiUlpParams) :=
  let entered := { common with sleepEntryReceived := true, ulpToken := ulpTokenOf word }
  -- with an intention set the entry is denied, and whoever waits may go on
  if !entered.protocolTxAccess then
    let (common', frame) := { entered with commonHalTxAccess := false }.sendAckForUlpEntry alloc
    (common', some frame)
  else
    ({ entered with commonHalTxAccess := true, ulpSleepAckSent := false }.wakeWaiters, none)

/-- The statement before `sleep_exit_recvd` in the sleep-exit branch of
`rsi_process_ulp_sleep_notify`: `common->ulp_token = 0xABCD`. -/
def ulpSleepExit (common : Common) : Common := { common with ulpToken := EXIT_TOKEN }

/-- The critical section of `sleep_exit_recvd`: `common_hal_tx_access = true`. -/
def grantTxAccess (common : Common) : Common := { common with commonHalTxAccess := true }

/-! ## What each operation does -/

theorem protocolTxAccess_eq_false_iff {common : Common} :
    common.protocolTxAccess = false ↔ ∀ id, (common.techs id).txIntention = false := by
  constructor
  · intro h id
    simp only [protocolTxAccess, TechId.all, List.any_cons, List.any_nil, Bool.or_false,
      Bool.or_eq_false_iff] at h
    cases id
    · exact h.1
    · exact h.2.1
    · exact h.2.2
  · intro h
    simp [protocolTxAccess, TechId.all, h]

/-- A held intention makes `protocol_tx_access` answer 1. -/
theorem protocolTxAccess_of_intention {common : Common} {id : TechId}
    (h : (common.techs id).txIntention = true) : common.protocolTxAccess = true := by
  by_contra hfalse
  have := protocolTxAccess_eq_false_iff.1 (by simpa using hfalse) id
  simp [h] at this

@[simp]
theorem setIntentionBit_txIntention (common : Common) (id i : TechId) (value : Bool) :
    ((common.setIntentionBit id value).techs i).txIntention =
      if i = id then value else (common.techs i).txIntention := by
  by_cases h : i = id
  · simp [setIntentionBit, h]
  · simp [setIntentionBit, Function.update_of_ne, h]

@[simp]
theorem setIntentionBit_waitForTxAccess (common : Common) (id i : TechId) (value : Bool) :
    ((common.setIntentionBit id value).techs i).waitForTxAccess =
      (common.techs i).waitForTxAccess := by
  by_cases h : i = id
  · simp [setIntentionBit, h]
  · simp [setIntentionBit, Function.update_of_ne, h]

@[simp]
theorem setWaitFlag_txIntention (common : Common) (id i : TechId) (value : Bool) :
    ((common.setWaitFlag id value).techs i).txIntention = (common.techs i).txIntention := by
  by_cases h : i = id
  · simp [setWaitFlag, h]
  · simp [setWaitFlag, Function.update_of_ne, h]

@[simp]
theorem setWaitFlag_waitForTxAccess (common : Common) (id i : TechId) (value : Bool) :
    ((common.setWaitFlag id value).techs i).waitForTxAccess =
      if i = id then value else (common.techs i).waitForTxAccess := by
  by_cases h : i = id
  · simp [setWaitFlag, h]
  · simp [setWaitFlag, Function.update_of_ne, h]

/-- Waiting flags play no part in `protocol_tx_access`. -/
@[simp]
theorem setWaitFlag_protocolTxAccess (common : Common) (id : TechId) (value : Bool) :
    (common.setWaitFlag id value).protocolTxAccess = common.protocolTxAccess := by
  simp [protocolTxAccess]

/-- What `set_clr_tx_intention(common, id, 0)` can do: release the bit without a call of
`rsi_send_ack_for_ulp_entry`, or, when that was the last intention and a sleep entry is still
recorded as unanswered, withdraw the access and make the call. -/
theorem clrTxIntention_cases (common : Common) (id : TechId) (alloc : Bool) :
    (common.clrTxIntention id alloc = (common.setIntentionBit id false, none) ∧
      (common.sleepEntryReceived = true → common.ulpSleepAckSent = false →
        (common.setIntentionBit id false).protocolTxAccess = true)) ∨
    (common.clrTxIntention id alloc =
        ({ common.setIntentionBit id false with
            commonHalTxAccess := false, ulpSleepAckSent := alloc },
          some (if alloc then some (ulpAckFrame common.ulpToken) else none)) ∧
      common.sleepEntryReceived = true ∧ common.ulpSleepAckSent = false ∧
      (common.setIntentionBit id false).protocolTxAccess = false) := by
  -- clearing a bit leaves the record of the entry alone
  have hentry : (common.setIntentionBit id false).sleepEntryReceived =
    common.sleepEntryReceived := rfl
  have hack : (common.setIntentionBit id false).ulpSleepAckSent = common.ulpSleepAckSent := rfl
  unfold clrTxIntention
  simp only [hentry, hack]
  by_cases hcond : (common.sleepEntryReceived && !common.ulpSleepAckSent) = true
  · obtain ⟨hrecv, hnack⟩ : common.sleepEntryReceived = true ∧ common.ulpSleepAckSent = false := by
      simpa using hcond
    by_cases hprot : (common.setIntentionBit id false).protocolTxAccess = true
    · left
      simp [hcond, hprot]
    · right
      have hprot' : (common.setIntentionBit id false).protocolTxAccess = false := by
        simpa using hprot
      cases alloc
      · simp [hrecv, hnack, hprot', sendAckForUlpEntry]
      · simp [hrecv, hnack, hprot', sendAckForUlpEntry]
        rfl
  · left
    refine ⟨by simp [hcond], fun hrecv hnack => ?_⟩
    simp [hrecv, hnack] at hcond

/-- What the sleep-entry branch can do: acknowledge at once when no protocol intends to
transmit, or deny the entry, keep the access and wake every waiter. -/
theorem ulpSleepEntry_cases (common : Common) (word : BitVec 16) (alloc : Bool) :
    (common.protocolTxAccess = false ∧
      common.ulpSleepEntry word alloc =
        ({ common with
            sleepEntryReceived := true, ulpToken := ulpTokenOf word, commonHalTxAccess := false,
            ulpSleepAckSent := common.ulpSleepAckSent || alloc },
          some (if alloc then some (ulpAckFrame (ulpTokenOf word)) else none))) ∨
    (common.protocolTxAccess = true ∧
      common.ulpSleepEntry word alloc =
        ({ common with
            sleepEntryReceived := true, ulpToken := ulpTokenOf word, commonHalTxAccess := true,
            ulpSleepAckSent := false }.wakeWaiters, none)) := by
  -- `protocol_tx_access` looks at the intentions only
  have hprot : { common with
      sleepEntryReceived := true, ulpToken := ulpTokenOf word }.protocolTxAccess =
    common.protocolTxAccess := rfl
  unfold ulpSleepEntry
  simp only [hprot]
  cases h : common.protocolTxAccess
  · cases alloc <;> simp [sendAckForUlpEntry]
  · simp

end Common

end PowerSave
