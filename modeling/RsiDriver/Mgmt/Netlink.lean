import RsiDriver.Mgmt.BbProg
import RsiDriver.ToMathlib.AccessTrace

/-!
# Commands of the application

`rsi_nl_recv_msg` gets the messages of the netlink socket: a header of 16 bytes, a descriptor of
eight words, and the payload of the command behind it. No length is looked at: every command takes
the bytes that it needs, so that a message is a memory that goes on behind its end.

The functions here give what a command accesses, the frames that it sends, and what
`rsi_do_master_ops` does with its buffer and with the bus window of SDIO. They embed the build
without `CONFIG_TWT_SUPPORT`, `CONFIG_RSI_COEX_MODE` and `NO_FIRMWARE_LOAD_SUPPORT`, where the
Bluetooth packets have no commands. Left out are the fields of the driver that a command sets, the
answers of a fixed size to the application, and what the PER mode sends.
-/

namespace Netlink

open Access

/-- What the commands access. -/
inductive Obj
  /-- The message. -/
  | msg
  /-- A structure of the driver that has `n` bytes. -/
  | struct (n : ℕ)
  /-- A buffer that was allocated for `n` bytes. -/
  | skb (n : ℕ)
  /-- `master_get.data` -/
  | masterData
  /-- `temp_buf` -/
  | tempBuf
  /-- `write_data` -/
  | writeData
  /-- `reg_val` -/
  | regVal
  deriving DecidableEq, Repr

/-- The sizes of the objects in bytes, for a message of `n` bytes. -/
def Obj.size (n : ℕ) : Obj → ℕ
  | .msg => n
  | .struct k => k
  | .skb k => k
  | .masterData => 4 * 32
  | .tempBuf => 1000
  | .writeData => 8
  | .regVal => 4

/-- What the commands find in the driver, and the outcomes of what they call. -/
structure Env where
  /-- `fsm_state` is `FSM_MAC_INIT_DONE`. -/
  macInitDone : Bool
  /-- `driver_mode` is `RF_EVAL_MODE_ON`. -/
  rfEvalMode : Bool
  /-- `device_model >= RSI_DEV_9117` -/
  model9117 : Bool
  acxModule : Bool
  /-- `bb_rf_rw`, `soft_reset` and `DEV_MODEL_9116`. -/
  adapter : BbProg.Adapter
  /-- The last `GET_RSSI` is at most five seconds ago. -/
  rssiRecent : Bool
  /-- `dev_alloc_skb` succeeds. -/
  devAllocSkb : Bool
  /-- `nlmsg_new` succeeds. -/
  nlmsgNew : Bool
  /-- `kzalloc` succeeds for `temp_buf`. -/
  tempBuf : Bool
  /-- The interface is SDIO, and not USB. -/
  sdio : Bool
  /-- The first `master_access_msword` succeeds. -/
  mswordOk : Bool
  /-- `kzalloc` succeeds in `rsi_sdio_master_reg_write`. -/
  masterRegWriteAlloc : Bool
  /-- The bytes that USB transfers before an error, and what the device answers. -/
  transferred : ℕ
  answer : ByteMemory

/-- A frame as it is handed over: its first word and `skb->len`. -/
structure Sent where
  w0 : BitVec 16
  len : ℕ
  deriving DecidableEq, Repr

/-- The length field, twelve bits. -/
def Sent.lengthField (s : Sent) : ℕ := (s.w0 &&& 0xfff).toNat

/-- A frame with a length of its own in the first word. -/
def Sent.ofLength (len : ℕ) : Sent :=
  ⟨BitVec.ofNat 16 len ||| BbProg.MGMT_Q, len + BbProg.FRAME_DESC_SZ⟩

/-- What `rsi_do_master_ops` does with `temp_buf` and with the window register. -/
inductive MasterEvent
  | alloc
  /-- `master_access_msword` -/
  | msword (w : BitVec 16)
  /-- `kfree(temp_buf)` -/
  | free
  deriving DecidableEq, Repr

/-- What a command did. -/
structure Outcome where
  accesses : List (Access Obj)
  sent : List Sent := []
  /-- A frame of `rsi_set_bb_rf_values`. -/
  bbFrame : Option BbProg.Frame := none
  master : List MasterEvent := []

/-- The payload behind the descriptor. -/
def PAYLOAD : ℕ := 32

/-- `nl_desc->desc_word[i]`, which is read. -/
def descWord (m : ByteMemory) (i : ℕ) : BitVec 16 := m.le16 (16 + 2 * i)

/-- The words `1`, …, `k` of the descriptor are read. -/
def readDesc (k : ℕ) : Access Obj := .read .msg ⟨18, 2 * k⟩

/-- `memcpy` of the payload into a structure that has as many bytes. -/
def copyStruct (m : ByteMemory) (n : ℕ) : List (Access Obj) := copy m .msg PAYLOAD n (.struct n) 0

/-! ## Access to the memory of the device -/

section MasterOps

variable (e : Env) (m : ByteMemory)

/-- `MASTER_READ` -/
def MASTER_READ : BitVec 16 := 21
/-- `MASTER_WRITE` -/
def MASTER_WRITE : BitVec 16 := 22

/-- `master_get.address` -/
def masterAddress : BitVec 32 := m.le32 PAYLOAD
/-- `master_get.no_of_bytes` -/
def noOfBytes : ℕ := (m.le16 (PAYLOAD + 4)).toNat

/-- The upper half of an address. -/
def msbAddress (address : BitVec 32) : BitVec 16 := (address >>> 16).setWidth 16

/-- The branch `MASTER_READ`: what the bus puts into `temp_buf`, a block on SDIO, goes byte by byte
into the entries of `data`. -/
def masterRead : List (Access Obj) :=
  (if e.sdio = true then .write .tempBuf 0 (e.answer.bytes 0 256)
    else .write .tempBuf 0 (e.answer.bytes 0 (min (noOfBytes m) e.transferred))) ::
  (List.range (noOfBytes m)).flatMap fun i =>
    [byte .tempBuf i, .write .masterData (4 * i) [e.answer i, 0, 0, 0]]

/-- The branch `MASTER_WRITE`. -/
def masterWrite : List (Access Obj) :=
  let data : ByteMemory := fun i => m (PAYLOAD + 8 + i)
  .write .tempBuf 0 (List.replicate (noOfBytes m) 0) ::
    (copy data .masterData 0 (noOfBytes m) .tempBuf 0 ++
      copy data .masterData 0 (noOfBytes m) .writeData 0) ++
  (List.range (noOfBytes m)).flatMap fun i =>
    [.read .masterData ⟨4 * i, 4⟩, .write .tempBuf i [data (4 * i)]]

/-- `end_master_ops` -/
def endMasterOps : List MasterEvent :=
  (if e.sdio = true then [.msword 0x4105] else []) ++ [.free]

/-- `rsi_do_master_ops`; `type` is the field `nlmsg_flags` of the header. -/
def doMasterOps (type : BitVec 16) : List (Access Obj) × List MasterEvent :=
  if e.tempBuf = false then ([], [])
  else
    let enter : List MasterEvent :=
      .alloc :: if e.sdio = true then [.msword (msbAddress (masterAddress m))] else []
    if e.sdio = true ∧ e.mswordOk = false then ([], enter ++ endMasterOps e)
    else if type = MASTER_READ then
      -- the return in the middle
      if e.nlmsgNew = false then (masterRead e m, enter)
      else (masterRead e m, enter ++ endMasterOps e)
    else if type = MASTER_WRITE then
      let window : List MasterEvent :=
        -- `rsi_sdio_master_reg_write`
        if e.sdio = true ∧ e.masterRegWriteAlloc = true then
          [.msword (msbAddress (masterAddress m))]
        else []
      (masterWrite m, enter ++ window ++ endMasterOps e)
    else ([], enter ++ endMasterOps e)

end MasterOps

/-! ## The commands -/

/-- The commands of a `WLAN_PACKET`. -/
inductive Cmd
  | perReceive
  | updateWlanGainTable
  | perTransmit
  | perPacket
  | masterOps
  | rsiSetBbRf
  | rsiEfuseMap
  | realTimeStats
  | setBmissThreshold
  | keepAlivePeriod
  | getRssi
  | filterBcast
  | diagnosticReport
  | diagToolUpdate
  | wlan9116Feature
  | invalid
  deriving DecidableEq, Repr

/-- The cases of `cmd`; `PER_RECV_STOP` goes on as `PER_RECEIVE`. -/
def Cmd.ofWord (w : BitVec 16) : Cmd :=
  if w = 2 ∨ w = 6 then .perReceive
  else if w = 78 then .updateWlanGainTable
  else if w = 1 then .perTransmit
  else if w = 8 then .perPacket
  else if w = 0xA1 then .masterOps
  else if w = 5 then .rsiSetBbRf
  else if w = 80 then .rsiEfuseMap
  else if w = 10 then .realTimeStats
  else if w = 14 then .setBmissThreshold
  else if w = 15 then .keepAlivePeriod
  else if w = 81 then .getRssi
  else if w = 79 then .filterBcast
  else if w = 85 then .diagnosticReport
  else if w = 86 then .diagToolUpdate
  else if w = 68 then .wlan9116Feature
  else .invalid

section Commands

variable (e : Env) (m : ByteMemory)

/-- A frame that is sent if there is a buffer for it. -/
def sendIf (s : Sent) : List Sent := if e.devAllocSkb = true then [s] else []

/-- `payload_len` of the commands that have it in the descriptor. -/
def payloadLen : ℕ := (descWord m 1).toNat

/-- `rsi_update_wlan_gain_table` -/
def updateWlanGainTable : List (Access Obj) × List Sent :=
  if e.acxModule = true ∨ e.devAllocSkb = false then ([], [])
  else
    (copy m .msg PAYLOAD (payloadLen m) (.skb (16 + payloadLen m)) 16, [.ofLength (payloadLen m)])

/-- `send_filter_broadcast_frame_to_fw` -/
def filterBroadcast : List (Access Obj) × List Sent :=
  if e.devAllocSkb = false then ([], [])
  else (copy m .msg PAYLOAD (payloadLen m) (.skb 16) 4, [.ofLength 0])

/-- `bb_rf_params` after the copy. -/
def bbRfParams : BbProg.BbRfParams where
  data i := m.le16 (PAYLOAD + 2 * i)
  noOfFields := m.le16 (PAYLOAD + 2048)
  noOfValues := m.le16 (PAYLOAD + 2050)
  value := m (PAYLOAD + 2052)
  softReset := m (PAYLOAD + 2053)

/-- `send_diagnostic_report_resp_to_app`: as many bytes of `reg_val` as the application asked
for. -/
def diagnosticReport : List (Access Obj) :=
  let bytes := (descWord m 3).toNat
  if e.nlmsgNew = false then []
  else [.read .regVal ⟨0, bytes⟩, .write (.skb bytes) 0 (e.answer.bytes 0 bytes)]

/-- One command. There is no outcome if the call does not return. -/
def command : Cmd → Option Outcome
  | .perReceive => some { accesses := if e.macInitDone = true then [readDesc 3] else [] }
  | .updateWlanGainTable =>
    if e.macInitDone = true then
      let (acc, sent) := updateWlanGainTable e m
      some { accesses := readDesc 1 :: acc, sent }
    else some { accesses := [] }
  | .perTransmit =>
    some { accesses :=
      if e.macInitDone = true ∧ e.rfEvalMode = true then copyStruct m 56 else [] }
  | .perPacket => some { accesses := copyStruct m 1548 }
  | .masterOps =>
    let (acc, master) := doMasterOps e m (m.le16 6)
    some { accesses := copyStruct m 140 ++ .read .msg ⟨6, 2⟩ :: acc, master }
  | .rsiSetBbRf =>
    (BbProg.setBbRfValues e.adapter (bbRfParams m) e.devAllocSkb).map fun o =>
      { accesses := copyStruct m 2056, bbFrame := o.frame }
  | .rsiEfuseMap => some { accesses := [] }
  | .realTimeStats =>
    some (if e.model9117 = true then
      { accesses := [readDesc 3], sent := sendIf e (.ofLength 0) } else { accesses := [] })
  | .setBmissThreshold | .keepAlivePeriod =>
    -- `rsi_send_vap_dynamic_update` sends a body of six bytes
    some (if e.model9117 = true then
      { accesses := [readDesc 1], sent := sendIf e (.ofLength 6) } else { accesses := [] })
  | .getRssi =>
    some { accesses := []
           sent := if e.adapter.model9116 = true ∧ e.rssiRecent = false then
             sendIf e (.ofLength 0) else [] }
  | .filterBcast =>
    if e.adapter.model9116 = true then
      let (acc, sent) := filterBroadcast e m
      some { accesses := readDesc 1 :: acc, sent }
    else some { accesses := [] }
  | .diagnosticReport => some { accesses := readDesc 3 :: diagnosticReport e m }
  | .diagToolUpdate => some { accesses := [readDesc 3], sent := sendIf e (.ofLength 0) }
  | .wlan9116Feature =>
    -- `rsi_send_w9116_features` sends a body of twelve bytes
    some { accesses := copyStruct m 16, sent := sendIf e (.ofLength 12) }
  | .invalid => some { accesses := [] }

/-- `WLAN_PACKET` -/
def WLAN_PACKET : BitVec 16 := 1

/-- The fields of the header and the first word of the descriptor, which are read first. -/
def header : List (Access Obj) := [.read .msg ⟨12, 4⟩, .read .msg ⟨4, 2⟩, .read .msg ⟨16, 2⟩]

/-- `rsi_nl_recv_msg` -/
def nlRecvMsg : Option Outcome :=
  if m.le16 4 = WLAN_PACKET then
    (command e m (Cmd.ofWord (descWord m 0))).map fun o =>
      { o with accesses := header ++ o.accesses }
  else some { accesses := header }

end Commands

end Netlink
