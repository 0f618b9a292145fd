import RsiDriver.Boot.Fsm
import RsiDriver.Rx.ReadPkt
import RsiDriver.ToMathlib.AccessTrace

/-!
# Parsing the indications of the device

A management frame goes to `rsi_mgmt_pkt_recv`, a Bluetooth frame to `rsi_hci_recv_pkt`. Both get
the address of the descriptor only: sixteen bytes whose first word holds the length of what follows.
The sub-type of the frame decides what is taken out of it and where that is put.

The functions here are the parsers. They give the bytes of the frame that are read and what is
written, so that a frame is a memory that goes on behind its end. Left out are the debug output, the
state that the initialisation keeps (`Boot.Common.handleTaConfirm`, `Boot.Common.handleCardReady`),
what is done with the copies, and the measurement reports of `CONFIG_RSI_11K`.
-/

namespace Recv

open Access

/-- What the parsers access. -/
inductive Obj
  /-- The descriptor and the bytes that its length field counts. -/
  | frame
  /-- `bb_rf_read.Data` -/
  | bbRfRead
  | staInfo
  /-- `rsi_survey`, a table of channels -/
  | rsiSurvey
  | rxRssi
  | macAddr
  | txStatsInfo
  | rxStatsInfo
  /-- `stations`, a table of peers -/
  | stations
  /-- The variable `bt_stats`. -/
  | btStats
  /-- The array `Data` of the variable `bb_rf_params_bt`. -/
  | bbRfParamsBt
  /-- The variable `status`. -/
  | status
  /-- A buffer that was allocated for `n` bytes. -/
  | skb (n : ℕ)
  deriving DecidableEq, Repr

/-- `MAX_NUM_CHANS` -/
def MAX_NUM_CHANS : ℕ := 39

/-- `RSI_MAX_ASSOC_STAS` -/
def RSI_MAX_ASSOC_STAS : ℕ := 32

/-- `TX_STAT_LENGTH` -/
def TX_STAT_LENGTH : ℕ := 42

/-- `RX_STAT_LENGTH` -/
def RX_STAT_LENGTH : ℕ := 24

/-- `sizeof(bt_stats_t)` -/
def BT_STATS_SIZE : ℕ := 22

/-- The sizes of the objects, in bytes or, for a table, in entries; the frame comes with a length
field `len`. -/
def Obj.size (len : ℕ) : Obj → ℕ
  | .frame => Rx.FRAME_DESC_SZ + len
  | .bbRfRead => 2 * 1024
  | .staInfo => 180
  | .rsiSurvey => MAX_NUM_CHANS
  | .rxRssi => 2
  | .macAddr => 6
  | .txStatsInfo => TX_STAT_LENGTH
  | .rxStatsInfo => RX_STAT_LENGTH
  | .stations => RSI_MAX_ASSOC_STAS + 1
  | .btStats => BT_STATS_SIZE
  | .bbRfParamsBt => 2 * 128
  | .status => 1
  | .skb n => n

/-- `vif->type` -/
inductive VifType
  | station
  | ap
  | other
  deriving DecidableEq, Repr

/-- What the parsers find in `struct rsi_common` and `struct rsi_hw`. -/
structure Adapter where
  fsmState : Boot.FsmState
  /-- `COMMON_DEV_MODEL_9116` -/
  model9116 : Bool
  /-- The type of `vifs[0]`, if there is one. -/
  vifType : Option VifType
  autoChanSel : Bool
  idx : BitVec 8
  nChannels : BitVec 8
  scNvifs : ℕ
  ifaceDown : Bool
  /-- `bt_fsm_state` is `BT_DEVICE_READY`. -/
  btDeviceReady : Bool
  bbReadCmd : Bool
  /-- `dev_alloc_skb` succeeds. -/
  alloc : Bool

/-- `msg_len`, the low 12 bits of the first word. -/
def msgLen (m : ByteMemory) : ℕ := (Rx.length m 0).toNat

/-- What a parser did: its accesses, and the statistics that it sent to the application. -/
structure Outcome where
  accesses : List (Access Obj)
  toApp : List (List (BitVec 8))
  deriving Repr

/-- Nothing is sent to the application. -/
def Outcome.quiet (accesses : List (Access Obj)) : Outcome := ⟨accesses, []⟩

/-- One byte of the frame is read. -/
def msg (i : ℕ) : Access Obj := .byte .frame i

/-! ## Confirms -/

/-- The confirms that take something out of the frame. -/
inductive TaConfirm
  | bbProgValuesRequest
  | wakeupSleepRequest
  | scanRequest
  | eepromRead
  | statsRequest
  | bbBufProgValuesReq
  | socRegOps
  | diagToolCmd
  | getRssiFrame
  | other
  deriving DecidableEq, Repr

/-- `enum cmd_frame_type` -/
def TaConfirm.ofSubType (t : BitVec 8) : TaConfirm :=
  if t = 0x03 then .bbProgValuesRequest
  else if t = 0x05 then .wakeupSleepRequest
  else if t = 0x06 then .scanRequest
  else if t = 0x0e then .eepromRead
  else if t = 0x13 then .statsRequest
  else if t = 0x14 then .bbBufProgValuesReq
  else if t = 0x1f then .socRegOps
  else if t = 0x2f then .diagToolCmd
  else if t = 0x4c then .getRssiFrame
  else .other

section Confirms

variable (s : Adapter) (m : ByteMemory)

/-- The cases `BB_PROG_VALUES_REQUEST`, `BB_BUF_PROG_VALUES_REQ` and `SOC_REG_OPS` of
`rsi_handle_ta_confirm`. -/
def bbRfReadCfm : List (Access Obj) :=
  if 0 < msgLen m then copy m .frame 16 (msgLen m) .bbRfRead 0 else []

/-- The case `EEPROM_READ`. -/
def eepromReadCfm : List (Access Obj) :=
  if s.fsmState = .eepromReadMacAddr then
    .read .frame ⟨0, 2⟩ ::
      if msgLen m = 0 then []
      else msg 16 ::
        if m 16 = Boot.MAGIC_WORD then copy m .frame 21 6 .macAddr 0 else []
  else if s.fsmState = .eepromReadRfType then
    .read .frame ⟨0, 2⟩ ::
      if msgLen m = 0 then []
      else msg 16 :: if m 16 = Boot.MAGIC_WORD then [msg 17] else []
  else []

/-- The interface is an access point that looks for its channel, and this one is still to come. -/
def Adapter.chanSelected (s : Adapter) : Prop :=
  s.vifType = some .ap ∧ s.autoChanSel = true ∧ s.idx.toNat < s.nChannels.toNat

instance (s : Adapter) : Decidable s.chanSelected :=
  inferInstanceAs
    (Decidable (s.vifType = some .ap ∧ s.autoChanSel = true ∧ s.idx.toNat < s.nChannels.toNat))

/-- The case `SCAN_REQUEST`: `chan_busy_time` and `noise_floor_rssi` of `struct acs_stats_s` behind
the descriptor. -/
def scanCfm : List (Access Obj) :=
  .read .frame ⟨0, 16⟩ ::
    if s.chanSelected ∧ s.idx.toNat < MAX_NUM_CHANS then
      [.read .frame ⟨16, 2⟩, .entry .rsiSurvey s.idx.toNat, msg 18]
    else []

/-- The case `STATS_REQUEST`: `memset` and `memcpy` of as many bytes as the frame has. -/
def statsCfm : List (Access Obj) :=
  .write .staInfo 0 (List.replicate (msgLen m) 0) :: copy m .frame 16 (msgLen m) .staInfo 0

/-- `rsi_handle_ta_confirm` -/
def handleTaConfirm : List (Access Obj) :=
  [msg 15, .read .frame ⟨0, 2⟩] ++
    match TaConfirm.ofSubType (m 15) with
    | .bbProgValuesRequest | .bbBufProgValuesReq | .socRegOps => bbRfReadCfm m
    -- `rsi_handle_ps_confirm`
    | .wakeupSleepRequest => [.read .frame ⟨12, 2⟩]
    | .scanRequest => scanCfm s
    | .eepromRead => eepromReadCfm s m
    | .statsRequest => statsCfm m
    | .diagToolCmd => [msg 17]
    | .getRssiFrame => copy m .frame 16 2 .rxRssi 0
    | .other => []

end Confirms

/-! ## The card-ready indication -/

section CardReady

variable (s : Adapter) (m : ByteMemory)

/-- The frame has a MAC address. -/
def macAddrValid : Bool := m 16 == Boot.MAGIC_WORD && m 21 != 0

/-- The address leaves no room for the addresses of further interfaces. -/
def macAddrTooHigh : Bool :=
  macAddrValid m && m 23 == 0xff && m 24 == 0xff && decide (0xfc < (m 25).toNat)

/-- The efuse map is read. -/
def efuseValid : Bool := m 16 == Boot.MAGIC_WORD && (m 7).getLsbD 0

/-- The fields of the efuse map, from `EFUSE_MAP_VERSION_OFFSET` to `SDB_MODE_OFFSET`. -/
def efuseFields : List (Access Obj) :=
  [⟨28, 1⟩, ⟨30, 1⟩, ⟨31, 2⟩, ⟨34, 1⟩, ⟨35, 1⟩, ⟨36, 1⟩, ⟨37, 1⟩, ⟨39, 1⟩, ⟨40, 4⟩, ⟨44, 2⟩].map
    (.read .frame)

/-- The MAC address of a newer device, and the band that comes with it. -/
def readMacAddr : List (Access Obj) :=
  msg 16 ::
    if m 16 = Boot.MAGIC_WORD then
      msg 21 ::
        if macAddrValid m then
          copy m .frame 20 6 .macAddr 0 ++ if macAddrTooHigh m then [] else [msg 27]
        else []
    else []

/-- The efuse map of a newer device. -/
def readEfuse : List (Access Obj) :=
  msg 16 ::
    if m 16 = Boot.MAGIC_WORD then msg 7 :: if efuseValid m then efuseFields else [] else []

/-- `rsi_handle_card_ready` -/
def handleCardReady : List (Access Obj) :=
  match s.fsmState with
  | .cardNotReady => [msg 15]
  | .commonDevParamsSent =>
    if s.model9116 then
      -- an address that is too high ends the call
      if macAddrTooHigh m then readMacAddr m
      else readMacAddr m ++ readEfuse m ++ [.read .frame ⟨8, 4⟩]
    else [.read .frame ⟨8, 4⟩]
  | _ => []

end CardReady

/-! ## Real-time statistics -/

section RealTimeStats

/-- `TX_STATS` and `RX_STATS`. -/
inductive StatType
  | tx
  | rx
  deriving DecidableEq, Repr

namespace StatType

/-- The low four bits of the first byte of a record. -/
def ofByte (b : BitVec 8) : Option StatType :=
  if b &&& 0xf = 1 then some .tx else if b &&& 0xf = 2 then some .rx else none

/-- `TX_STAT_LENGTH` or `RX_STAT_LENGTH`. -/
def length : StatType → ℕ
  | .tx => TX_STAT_LENGTH
  | .rx => RX_STAT_LENGTH

/-- Where the record is put. -/
def dest : StatType → Obj
  | .tx => .txStatsInfo
  | .rx => .rxStatsInfo

theorem le_length (t : StatType) : 24 ≤ t.length := by cases t <;> decide

end StatType

variable (m : ByteMemory)

/-- One round of the loop: the record at `nextStat` is put in its place, and the type of the next
one is read. -/
def statRound (t : StatType) (nextStat : ℕ) : List (Access Obj) :=
  .write t.dest 0 (List.replicate t.length 0) ::
    (copy m .frame nextStat t.length t.dest 0 ++ [msg (nextStat + t.length)])

/-- The loop of `REAL_TIME_STATS_RESP_FRAME`: `next_stat` counts from the descriptor on, `msg_len`
from behind it. `next_stat` has 16 bits and does not come near that. -/
def statsLoop (nextStat : ℕ) : Outcome :=
  if nextStat < msgLen m then
    match StatType.ofByte (m nextStat) with
    -- `INVALID STATS`
    | none => .quiet []
    | some t =>
      let rest := statsLoop (nextStat + t.length)
      -- `rsi_real_time_stats_to_app`
      ⟨statRound m t nextStat ++ rest.accesses, m.bytes nextStat t.length :: rest.toApp⟩
  else .quiet []
termination_by msgLen m - nextStat
decreasing_by
  have := t.le_length
  omega

/-- The case `REAL_TIME_STATS_RESP_FRAME` of `rsi_mgmt_pkt_recv`. The type of the first record is
read before the loop. -/
def realTimeStats : Outcome :=
  let loop := statsLoop m 16
  ⟨msg 16 :: loop.accesses, loop.toApp⟩

end RealTimeStats

/-! ## The two parsers -/

/-- The indications that take something out of the frame. -/
inductive MgmtInd
  | cardReadyInd
  | taConfirmType
  | rxDot11Mgmt
  | txStatusInd
  | sleepNotifyInd
  | hwBmissEvent
  | fwErrorStateInd
  | realTimeStatsRespFrame
  | disablePsFromLmac
  | wowlanWakeupReason
  | other
  deriving DecidableEq, Repr

/-- `enum rx_cmd_type`, and the types of `enum cmd_frame_type` that are indications too. -/
def MgmtInd.ofMsgType (t : BitVec 8) : MgmtInd :=
  if t = 0x00 then .cardReadyInd
  else if t = 0x01 then .taConfirmType
  else if t = 0x02 then .rxDot11Mgmt
  else if t = 0x04 then .txStatusInd
  else if t = 0x06 then .sleepNotifyInd
  else if t = 0x0c then .hwBmissEvent
  else if t = 0x1c then .fwErrorStateInd
  else if t = 0x2e then .realTimeStatsRespFrame
  else if t = 0x35 then .disablePsFromLmac
  else if t = 0xc5 then .wowlanWakeupReason
  else .other

section Parsers

variable (s : Adapter) (m : ByteMemory)

/-- `EAPOL4_CONFIRM` -/
def EAPOL4_CONFIRM : BitVec 8 := 1

/-- `NULLDATA_CONFIRM` -/
def NULLDATA_CONFIRM : BitVec 8 := 3

/-- The entry of `stations` whose null-data frame was confirmed. -/
def nullDataSta : ℕ := if s.vifType = some .station then RSI_MAX_ASSOC_STAS else (m 13).toNat

/-- The case `TX_STATUS_IND`. -/
def txStatusInd : List (Access Obj) :=
  msg 15 ::
    ((if m 15 = EAPOL4_CONFIRM then [msg 12] else []) ++
      if m 15 = NULLDATA_CONFIRM then [msg 12, msg 13, .entry .stations (nullDataSta s m)] else [])

/-- The accesses of `rsi_mgmt_pkt_to_core` to the frame that it is given: it copies the frame behind
its pad bytes. -/
def mgmtPktToCore : List (Access Obj) :=
  msg 4 ::
    if s.scNvifs = 0 ∨ s.ifaceDown = true ∨ msgLen m ≤ (m 4).toNat ∨ s.alloc = false then []
    else
      copy m .frame (16 + (m 4).toNat) (msgLen m - (m 4).toNat) (.skb (msgLen m - (m 4).toNat)) 0 ++
        -- `rsi_get_rssi` and `rsi_get_channel`
        [msg 16, msg 15]

/-- `rsi_mgmt_pkt_recv` -/
def mgmtPktRecv : Outcome :=
  let header : List (Access Obj) := [.read .frame ⟨0, 2⟩, msg 2]
  match MgmtInd.ofMsgType (m 2) with
  | .taConfirmType => .quiet (header ++ handleTaConfirm s m)
  | .cardReadyInd => .quiet (header ++ handleCardReady s m)
  | .txStatusInd => .quiet (header ++ txStatusInd s m)
  -- `ULP_SLEEP_NOTIFY` is the type itself: `rsi_process_ulp_sleep_notify`
  | .sleepNotifyInd => .quiet (header ++ [msg 2, msg 12])
  | .rxDot11Mgmt => .quiet (header ++ mgmtPktToCore s m)
  | .hwBmissEvent | .fwErrorStateInd | .disablePsFromLmac | .wowlanWakeupReason =>
    .quiet (header ++ [msg 15])
  | .realTimeStatsRespFrame =>
    let stats := realTimeStats m
    ⟨header ++ stats.accesses, stats.toApp⟩
  | .other => .quiet header

/-- The frames of the queue `RSI_BT_MGMT_Q` that are not passed on. -/
inductive BtMsg
  /-- `RESULT_CONFIRM`, `BT_BER` and `BT_CW` -/
  | ignored
  | btE2eStat
  | btPer
  /-- `BT_BLE_GAIN_TABLE` and `BLE_COUNTRY_REGION_UPDATE` -/
  | statusByte
  | other
  deriving DecidableEq, Repr

/-- The types of Bluetooth frames by number. -/
def BtMsg.ofMsgType (t : BitVec 8) : BtMsg :=
  if t = 0x80 ∨ t = 0x11 ∨ t = 0x12 then .ignored
  else if t = 0x13 then .btE2eStat
  else if t = 0x10 then .btPer
  else if t = 0x06 ∨ t = 0x27 then .statusByte
  else .other

/-- What `rsi_hci_recv_pkt` does with a frame of the queue `RSI_BT_MGMT_Q`; none if the frame is
passed on. -/
def btMgmt : Option (List (Access Obj)) :=
  match BtMsg.ofMsgType (m 14) with
  | .ignored => some []
  | .btE2eStat => some (copy m .frame 16 BT_STATS_SIZE .btStats 0)
  | .btPer =>
    if s.bbReadCmd then some (copy m .frame 16 (msgLen m) .bbRfParamsBt 0)
    else some (copy m .frame 16 BT_STATS_SIZE .btStats 0)
  | .statusByte => some (copy m .frame 16 1 .status 0)
  | .other => none

/-- The end of `rsi_hci_recv_pkt`: the frame is copied for the Bluetooth stack. -/
def toStack : List (Access Obj) :=
  if s.alloc then copy m .frame 16 (msgLen m) (.skb (msgLen m)) 0 ++ [msg 14] else []

/-- `rsi_hci_recv_pkt` -/
def hciRecvPkt : List (Access Obj) :=
  let header : List (Access Obj) := [.read .frame ⟨0, 2⟩, .read .frame ⟨0, 2⟩]
  -- `BT_CARD_READY_IND` leads to `rsi_hci_attach`, any other frame is dropped
  if s.btDeviceReady = false then header ++ [msg 14]
  else if Rx.queueno m 0 = Rx.RSI_BT_MGMT_Q then
    header ++ msg 14 :: (btMgmt s m).getD (toStack s m)
  else header ++ toStack s m

end Parsers

/-- A frame on its way to its parser. -/
inductive Packet
  | mgmt (m : ByteMemory)
  | bt (m : ByteMemory)

/-- The bytes of the frame, and what is behind it. -/
def Packet.mem : Packet → ByteMemory
  | .mgmt m | .bt m => m

/-- The parser of a frame. -/
def recvPkt (s : Adapter) : Packet → Outcome
  | .mgmt m => mgmtPktRecv s m
  | .bt m => .quiet (hciRecvPkt s m)

end Recv
