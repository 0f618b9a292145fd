import RsiDriver.Boot.FlashUpgrade
import RsiDriver.ToMathlib.Interaction

/-!
# The mailbox of the boot loader

The driver and the boot loader of the device talk through two registers. `bl_write_cmd`
(`rsi_91x_hal.c`) polls `SWBL_REGIN` until the boot loader has taken what was in it, writes the
command, polls `SWBL_REGOUT` until it holds a response, and marks the response as taken. A timer
ends the polling. `auto_fw_upgrade` and `ping_pong_write` send an image with these commands;
`FlashUpgrade` has them with the commands as single steps.

The device answers as it likes: an access to a register returns any status and any value. The answer
to the start of a timer is the number of the following looks at `blcmd_timer_expired` that find it
not expired; each round of a loop takes a millisecond, so that the timer expires after some of them.
A value that is read is that of the variable behind the read.

## Main results

* `blWriteCmd_watched`: a command is written to a free register, and a response is taken;
* `autoFwUpgrade_watched`: no buffer is written while a command is unanswered;
* `autoFwUpgrade_refines`: the upgrade at the registers is one of `FlashUpgrade`.
-/

namespace BootLoader

open Boot (EINVAL DeviceModel FwImage)
open Interaction Program
open SecureLoad (BankCmd PING_VALID PONG_VALID PING_AVAIL PONG_AVAIL EOF_REACHED SEND_RPS_FILE
  JUMP_TO_ZERO_PC CMD_PASS)
open FlashUpgrade (MAX_FLASH_FILE_SIZE FW_IMAGE_MIN_ADDRESS FLASH_SECTOR_SIZE
  FLASHING_START_ADDRESS FLASH_WRITE_CHUNK_SIZE FW_LOADING_SUCCESSFUL)

/-- What the driver does while it loads the firmware. A register is read in two bytes. -/
inductive Op
  | masterRegRead (addr : BitVec 32)
  | masterRegWrite (addr data : BitVec 32) (len : ℕ)
  | masterAccessMsword (msWord : BitVec 32)
  | writeRegMultiple (addr : BitVec 32) (data : List (BitVec 8))
  | loadDataMasterWrite (addr : BitVec 32) (blockSize : ℕ) (data : List (BitVec 8))
  | startTimer (timeout : ℕ)
  | stopTimer
  | kzalloc
  | requestFirmware (name : String)
  | releaseFirmware
  | load9116Firmware
  deriving DecidableEq, Repr

/-- The answers. A register that is read has a value, unless the read has failed; a firmware file is
found or not. -/
def Op.Ans : Op → Type
  | masterRegRead _ => Option (BitVec 32)
  | startTimer _ => ℕ
  | stopTimer | releaseFirmware => Unit
  | kzalloc => Bool
  | requestFirmware _ => Option FwImage
  | masterRegWrite .. | masterAccessMsword _ | writeRegMultiple .. | loadDataMasterWrite ..
  | load9116Firmware => ℤ

def signature : Signature := ⟨Op, Op.Ans⟩

/-- A part of the driver that talks to the boot loader -/
abbrev Host (α : Type) := Program signature α

def masterRegRead (addr : BitVec 32) : Host (Option (BitVec 32)) :=
  request (S := signature) (.masterRegRead addr)

def masterRegWrite (addr data : BitVec 32) (len : ℕ) : Host ℤ :=
  request (S := signature) (.masterRegWrite addr data len)

def masterAccessMsword (msWord : BitVec 32) : Host ℤ :=
  request (S := signature) (.masterAccessMsword msWord)

def writeRegMultiple (addr : BitVec 32) (data : List (BitVec 8)) : Host ℤ :=
  request (S := signature) (.writeRegMultiple addr data)

def loadDataMasterWrite (addr : BitVec 32) (blockSize : ℕ) (data : List (BitVec 8)) : Host ℤ :=
  request (S := signature) (.loadDataMasterWrite addr blockSize data)

/-- `bl_start_cmd_timer` -/
def blStartCmdTimer (timeout : ℕ) : Host ℕ := request (S := signature) (.startTimer timeout)

/-- `bl_stop_cmd_timer` -/
def blStopCmdTimer : Host Unit := request (S := signature) .stopTimer

/-- The build and the device: `CONFIG_RS9116_FLASH_MODE`, `CONFIG_RSI_LOAD_FW_FROM_FLASH_ONLY`,
`device_model`, `coex_mode` and the host interface. -/
structure Adapter where
  flashMode : Bool
  flashOnly : Bool
  deviceModel : DeviceModel
  coexMode : Fin 8
  sdio : Bool

def SWBL_REGIN : BitVec 32 := 0x41050034
def SWBL_REGOUT : BitVec 32 := 0x4105003c
def REGIN_VALID : BitVec 32 := 0xa
def REGIN_INPUT : BitVec 32 := 0xa0
def REGOUT_VALID : BitVec 32 := 0xab
def REGOUT_INVALID : BitVec 32 := 0xffffff54
def IMAGE_STORED_IN_DUMP : BitVec 8 := 0xf7
def BL_CMD_TIMEOUT : ℕ := 2000
def BL_BURN_TIMEOUT : ℕ := 50000

def LOAD_HOSTED_FW : Char := 'A'
def BURN_HOSTED_FW : Char := 'B'
def CHECK_CRC : Char := 'K'
def POLLING_MODE : Char := 'P'
def CONFIG_AUTO_READ_MODE : Char := 'R'
def LOADING_INITIATED : Char := '1'

/-- A command as a number of a register -/
def byte (cmd : Char) : BitVec 32 := BitVec.ofNat 32 cmd.toNat

/-- The boot loader has taken what was written to `SWBL_REGIN`. -/
def reginFree (val : BitVec 32) : Bool := val >>> 12 != REGIN_VALID

/-- `SWBL_REGOUT` holds a response. -/
def regoutValid (val : BitVec 32) : Bool := val >>> 8 == REGOUT_VALID

namespace Adapter

variable (adapter : Adapter)

/-- `DEV_MODEL_9116` -/
def devModel9116 : Bool := adapter.deviceModel != .dev9113

/-- `PING_BUFFER_ADDRESS`, `PONG_BUFFER_ADDRESS` -/
def bufferAddress : BankCmd → BitVec 32
  | .pingWrite => if adapter.flashMode then 0x18000 else 0x19000
  | .pongWrite => if adapter.flashMode then 0x19000 else 0x1a000

def blockSize : ℕ := if adapter.sdio then 256 else 252

/-- What `bl_write_cmd` writes to `SWBL_REGIN`. -/
def reginWord (cmd : Char) : BitVec 32 :=
  let reginInput := REGIN_INPUT ||| BitVec.ofNat 32 adapter.coexMode
  if cmd = CHECK_CRC ∧ adapter.devModel9116 then byte cmd ||| (reginInput ||| 1 <<< 8) <<< 8
  else byte cmd ||| reginInput <<< 8

/-- The bytes of `SWBL_REGIN` that it writes. -/
def reginLen (cmd : Char) : ℕ := if cmd = CHECK_CRC ∧ adapter.devModel9116 then 4 else 2

end Adapter

/-- A loop that reads a register until it holds what is wanted or the timer expires. It leaves the
number of looks at the timer that remain, 0 if it has expired, and the value; `none` if a read has
failed. -/
def pollRegister (addr : BitVec 32) (wanted : BitVec 32 → Bool) (val : BitVec 32) :
    ℕ → Host (Option (ℕ × BitVec 32))
  | 0 => pure (some (0, val))
  | checks + 1 => do
    match ← masterRegRead addr with
    | none => pure none
    | some val =>
      if wanted val then pure (some (checks, val)) else pollRegister addr wanted val checks

/-- The part of `bl_write_cmd` behind the command: its status and `*cmd_resp` -/
def awaitResponse (cmd expResp : Char) (cmdResp : BitVec 16) (checks : ℕ) :
    Host (ℤ × BitVec 16) := do
  match ← pollRegister SWBL_REGOUT regoutValid 0 checks with
  | none | some (0, _) => pure (EINVAL, cmdResp)
  | some (_ + 1, val) =>
    let status ← masterRegWrite SWBL_REGOUT (byte cmd ||| REGOUT_INVALID <<< 8) 2
    let output := val.setWidth 8
    if status < 0 then pure (EINVAL, val.setWidth 16)
    else if output = BitVec.ofNat 8 expResp.toNat ∨
        cmd = EOF_REACHED ∧ output = IMAGE_STORED_IN_DUMP then
      pure (0, val.setWidth 16)
    else pure (EINVAL, val.setWidth 16)

namespace Adapter

variable (adapter : Adapter)

/-- `bl_write_cmd`, with what `*cmd_resp` holds and the looks at the timer that remain: its status
and `*cmd_resp` -/
def blWriteCmd (cmd expResp : Char) (cmdResp : BitVec 16) (checks : ℕ) :
    Host (ℤ × BitVec 16) := do
  match ← pollRegister SWBL_REGIN reginFree 0 checks with
  | none | some (0, _) => pure (EINVAL, cmdResp)
  | some (checks + 1, _) =>
    let status ← masterRegWrite SWBL_REGIN (adapter.reginWord cmd) (adapter.reginLen cmd)
    if status < 0 then pure (EINVAL, cmdResp)
    -- these two get no response
    else if cmd = LOAD_HOSTED_FW ∨ cmd = JUMP_TO_ZERO_PC then pure (0, cmdResp)
    else awaitResponse cmd expResp cmdResp checks

/-- `timeout` of `bl_cmd` -/
def cmdTimeout (cmd : Char) : ℕ :=
  if cmd = EOF_REACHED ∨ cmd = PING_VALID ∨ cmd = PONG_VALID then BL_BURN_TIMEOUT
  else BL_CMD_TIMEOUT

/-- `bl_cmd` -/
def blCmd (cmd expResp : Char) : Host ℤ := do
  let checks ← blStartCmdTimer (cmdTimeout cmd)
  let result ← adapter.blWriteCmd cmd expResp 0 checks
  blStopCmdTimer
  pure (if result.1 < 0 then EINVAL else 0)

/-- `bl_cmd` with `cmd_req` and `cmd_resp` of a buffer -/
def bankCmd : BankCmd → Host ℤ
  | .pingWrite => adapter.blCmd PING_VALID PONG_AVAIL
  | .pongWrite => adapter.blCmd PONG_VALID PING_AVAIL

/-- `ping_pong_write` with the chunk at an offset of the image -/
def pingPongWrite (image : ByteMemory) (cmd : BankCmd) (addr size : ℕ) : Host ℤ := do
  let written ← loadDataMasterWrite (adapter.bufferAddress cmd) adapter.blockSize
    (image.bytes addr size)
  if written ≠ 0 then pure EINVAL
  else
    let status ← adapter.bankCmd cmd
    if status < 0 then
      blStopCmdTimer
      pure EINVAL
    else pure 0

/-- `content_size` in round `index` -/
def roundSize (tempContentSize numFlash index : ℕ) : ℕ :=
  if index ≠ numFlash then FLASH_WRITE_CHUNK_SIZE else tempContentSize % FLASH_WRITE_CHUNK_SIZE

/-- The `for` loop of `auto_fw_upgrade` with a number of rounds left -/
def flashLoop (image : ByteMemory) (tempContentSize numFlash : ℕ) : ℕ → ℕ → ℕ → Host ℤ
  | 0, _, _ => pure 0
  | rounds + 1, index, flashContent =>
    let contentSize := roundSize tempContentSize numFlash index
    -- an image of whole chunks has no last round
    if index = numFlash ∧ contentSize = 0 then pure 0
    else do
      let status ← adapter.pingPongWrite image (FlashUpgrade.Host.cmdAt index) flashContent
        contentSize
      if status ≠ 0 then pure EINVAL
      else
        flashLoop image tempContentSize numFlash rounds (index + 1) (flashContent + contentSize)

/-- `auto_fw_upgrade` -/
def autoFwUpgrade (flashCapacity : BitVec 32) (image : ByteMemory) (contentSize : BitVec 32) :
    Host ℤ :=
  if MAX_FLASH_FILE_SIZE < contentSize then pure EINVAL
  else
    let flashStartAddress := image.le32 FLASHING_START_ADDRESS
    if flashStartAddress < FW_IMAGE_MIN_ADDRESS then pure EINVAL
    else if flashStartAddress % FLASH_SECTOR_SIZE ≠ 0 then pure EINVAL
    else if flashCapacity < flashStartAddress + contentSize then pure EINVAL
    else do
      let numFlash := contentSize.toNat / FLASH_WRITE_CHUNK_SIZE
      let loaded ← adapter.flashLoop image contentSize.toNat numFlash (numFlash + 1) 0 0
      if loaded ≠ 0 then pure EINVAL
      else
        let status ← adapter.blCmd EOF_REACHED FW_LOADING_SUCCESSFUL
        if status < 0 then
          blStopCmdTimer
          pure EINVAL
        else pure 0

end Adapter

/-! ## Statement by statement -/

section Statements

variable {σ : Type} {step : σ → Event signature → Option σ} {s : σ}

@[simp]
theorem ensures_masterRegRead {addr : BitVec 32} {post : Option (BitVec 32) → σ → Prop} :
    Ensures step s (masterRegRead addr) post ↔
      ∀ val : Option (BitVec 32), ∃ s', step s ⟨.masterRegRead addr, val⟩ = some s' ∧ post val s' :=
  Iff.rfl

@[simp]
theorem ensures_masterRegWrite {addr data : BitVec 32} {len : ℕ} {post : ℤ → σ → Prop} :
    Ensures step s (masterRegWrite addr data len) post ↔
      ∀ status : ℤ, ∃ s', step s ⟨.masterRegWrite addr data len, status⟩ = some s' ∧
        post status s' :=
  Iff.rfl

@[simp]
theorem ensures_masterAccessMsword {msWord : BitVec 32} {post : ℤ → σ → Prop} :
    Ensures step s (masterAccessMsword msWord) post ↔
      ∀ status : ℤ, ∃ s', step s ⟨.masterAccessMsword msWord, status⟩ = some s' ∧ post status s' :=
  Iff.rfl

@[simp]
theorem ensures_writeRegMultiple {addr : BitVec 32} {data : List (BitVec 8)}
    {post : ℤ → σ → Prop} : Ensures step s (writeRegMultiple addr data) post ↔
      ∀ status : ℤ, ∃ s', step s ⟨.writeRegMultiple addr data, status⟩ = some s' ∧
        post status s' :=
  Iff.rfl

@[simp]
theorem ensures_loadDataMasterWrite {addr : BitVec 32} {blockSize : ℕ} {data : List (BitVec 8)}
    {post : ℤ → σ → Prop} : Ensures step s (loadDataMasterWrite addr blockSize data) post ↔
      ∀ status : ℤ, ∃ s', step s ⟨.loadDataMasterWrite addr blockSize data, status⟩ = some s' ∧
        post status s' :=
  Iff.rfl

@[simp]
theorem ensures_blStartCmdTimer {timeout : ℕ} {post : ℕ → σ → Prop} :
    Ensures step s (blStartCmdTimer timeout) post ↔
      ∀ checks : ℕ, ∃ s', step s ⟨.startTimer timeout, checks⟩ = some s' ∧ post checks s' :=
  Iff.rfl

@[simp]
theorem ensures_blStopCmdTimer {post : Unit → σ → Prop} :
    Ensures step s blStopCmdTimer post ↔ ∃ s', step s ⟨.stopTimer, ()⟩ = some s' ∧ post () s' :=
  ⟨fun h => h (), fun h _ => h⟩

end Statements

/-! ## Watching the mailbox -/

/-- What a watcher knows of the mailbox: whether a command is unanswered, or that the last access
has found `SWBL_REGIN` free, or a response in `SWBL_REGOUT`. -/
inductive Mail
  | quiet (unanswered : Bool)
  | vacant (unanswered : Bool)
  | answered
  deriving DecidableEq, Repr

namespace Mail

/-- A command is unanswered, or its response was not taken. -/
def unanswered : Mail → Bool
  | quiet unanswered | vacant unanswered => unanswered
  | answered => true

/-- The commands that may be issued while another one is unanswered. None of them writes to the
flash. -/
def mayInterrupt (cmd : BitVec 8) : Bool :=
  [POLLING_MODE, CONFIG_AUTO_READ_MODE, LOAD_HOSTED_FW].any fun c => cmd == BitVec.ofNat 8 c.toNat

/-- A command goes to a register that was found free, and a response is taken that was found;
nothing but a register is accessed while a command is unanswered. -/
def step (mail : Mail) : Event signature → Option Mail
  | ⟨.masterRegRead addr, (val : Option (BitVec 32))⟩ =>
    some <|
      if addr = SWBL_REGIN ∧ val.any reginFree then .vacant mail.unanswered
      else if addr = SWBL_REGOUT ∧ val.any regoutValid then .answered
      else .quiet mail.unanswered
  | ⟨.masterRegWrite addr data _, _⟩ =>
    if addr = SWBL_REGIN then
      if mail = .vacant false ∨ mail = .vacant true ∧ mayInterrupt (data.setWidth 8) then
        some (.quiet true)
      else none
    else if addr = SWBL_REGOUT then
      if mail = .answered then some (.quiet false) else none
    else some (.quiet mail.unanswered)
  | ⟨.masterAccessMsword _, _⟩ | ⟨.writeRegMultiple .., _⟩ | ⟨.loadDataMasterWrite .., _⟩
  | ⟨.load9116Firmware, _⟩ => if mail.unanswered then none else some (.quiet false)
  | ⟨.startTimer _, _⟩ | ⟨.stopTimer, _⟩ | ⟨.kzalloc, _⟩ | ⟨.requestFirmware _, _⟩
  | ⟨.releaseFirmware, _⟩ => some mail

end Mail

/-- The command stands in the low byte of the register. -/
theorem setWidth_reginWord (adapter : Adapter) (cmd : Char) :
    (adapter.reginWord cmd).setWidth 8 = BitVec.ofNat 8 cmd.toNat := by
  have hlow (x : BitVec 32) :
      (byte cmd ||| x <<< 8).setWidth 8 = BitVec.ofNat 8 cmd.toNat := by
    apply BitVec.eq_of_getLsbD_eq
    intro i hi
    simp [byte, hi]
  rw [Adapter.reginWord]
  split
  · exact hlow _
  · exact hlow _

/-- The loop at `SWBL_REGIN` ends with a register that was found free. -/
theorem pollRegin_watched (mail : Mail) (val : BitVec 32) (checks : ℕ) :
    Ensures Mail.step mail (pollRegister SWBL_REGIN reginFree val checks) fun polled mail' =>
      mail'.unanswered = mail.unanswered ∧
        ∀ left val', polled = some (left + 1, val') → mail' = .vacant mail.unanswered := by
  induction checks generalizing mail val with
  | zero => simp [pollRegister]
  | succ checks ih =>
    simp only [pollRegister, ensures_bind, ensures_masterRegRead]
    intro val'
    cases val' with
    | none => simp [Mail.step, Mail.unanswered, SWBL_REGIN, SWBL_REGOUT]
    | some val' =>
      cases hfree : reginFree val' with
      | true => simp [Mail.step, Mail.unanswered, hfree]
      | false =>
        refine ⟨.quiet mail.unanswered, ?_, ?_⟩
        · simp [Mail.step, hfree, SWBL_REGIN, SWBL_REGOUT]
        · simp only [hfree, Bool.false_eq_true, if_false]
          exact ih _ _

/-- The loop at `SWBL_REGOUT` ends with a response that was found. -/
theorem pollRegout_watched (mail : Mail) (val : BitVec 32) (checks : ℕ) :
    Ensures Mail.step mail (pollRegister SWBL_REGOUT regoutValid val checks) fun polled mail' =>
      ∀ left val', polled = some (left + 1, val') → mail' = .answered := by
  induction checks generalizing mail val with
  | zero => simp [pollRegister]
  | succ checks ih =>
    simp only [pollRegister, ensures_bind, ensures_masterRegRead]
    intro val'
    cases val' with
    | none => simp [Mail.step]
    | some val' =>
      cases hvalid : regoutValid val' with
      | true => simp [Mail.step, hvalid, SWBL_REGIN, SWBL_REGOUT]
      | false =>
        refine ⟨.quiet mail.unanswered, ?_, ?_⟩
        · simp [Mail.step, hvalid, SWBL_REGIN, SWBL_REGOUT]
        · simp only [hvalid, Bool.false_eq_true, if_false]
          exact ih _ _

theorem EINVAL_neg : EINVAL < 0 := by decide

theorem EINVAL_ne_zero : EINVAL ≠ 0 := by decide

/-- What a part of the upgrade leaves: success and no unanswered command, or an error -/
def Rests (status : ℤ) (mail : Mail) : Prop := status = 0 ∧ mail = .quiet false ∨ status = EINVAL

/-- A response is taken before it is looked at. -/
theorem awaitResponse_watched (mail : Mail) (cmd expResp : Char) (cmdResp : BitVec 16)
    (checks : ℕ) :
    Ensures Mail.step mail (awaitResponse cmd expResp cmdResp checks) fun result mail' =>
      result = (EINVAL, cmdResp) ∨ mail' = .quiet false := by
  rw [awaitResponse, ensures_bind]
  refine (pollRegout_watched mail 0 checks).mono fun polled mail' hpolled => ?_
  obtain _ | ⟨_ | left, val⟩ := polled
  · exact .inl rfl
  · exact .inl rfl
  · -- the response is acknowledged, with an error or not
    obtain rfl := hpolled left val rfl
    simp only [ensures_bind, ensures_masterRegWrite]
    intro status
    refine ⟨.quiet false, by simp [Mail.step, SWBL_REGIN, SWBL_REGOUT], ?_⟩
    split_ifs <;> exact .inr rfl

/-- The commands that get no response -/
def unansweredCmd (cmd : Char) : Bool := cmd == LOAD_HOSTED_FW || cmd == JUMP_TO_ZERO_PC

/-- What `bl_write_cmd` leaves: with a status of 0 the command was answered, if it gets a response
at all, and a response that it hands on was taken. -/
structure Written (cmd : Char) (cmdResp : BitVec 16) (result : ℤ × BitVec 16) (mail : Mail) :
    Prop where
  answered : 0 ≤ result.1 → mail = .quiet (unansweredCmd cmd)
  taken : result.2 = cmdResp ∨ mail = .quiet false

theorem written_of_fails (cmd : Char) (cmdResp : BitVec 16) (mail : Mail) :
    Written cmd cmdResp (EINVAL, cmdResp) mail :=
  ⟨fun h => absurd EINVAL_neg (Int.not_lt.2 h), .inl rfl⟩

namespace Adapter

/-- **A command goes to a register that was found free**, whatever the device answers. -/
theorem blWriteCmd_watched (adapter : Adapter) {mail : Mail} {cmd : Char}
    (h : mail.unanswered = true → Mail.mayInterrupt (BitVec.ofNat 8 cmd.toNat) = true)
    (expResp : Char) (cmdResp : BitVec 16) (checks : ℕ) :
    Ensures Mail.step mail (adapter.blWriteCmd cmd expResp cmdResp checks)
      (Written cmd cmdResp) := by
  rw [blWriteCmd, ensures_bind]
  refine (pollRegin_watched mail 0 checks).mono fun polled mail' hpolled => ?_
  obtain _ | ⟨_ | left, val⟩ := polled
  · exact written_of_fails ..
  · exact written_of_fails ..
  · obtain rfl := hpolled.2 left val rfl
    simp only [ensures_bind, ensures_masterRegWrite]
    intro status
    refine ⟨.quiet true, ?_, ?_⟩
    · -- the register was found free
      cases hmail : mail.unanswered with
      | false => simp [Mail.step]
      | true => simp [Mail.step, setWidth_reginWord, h hmail]
    split_ifs with hstatus hcmd
    · exact written_of_fails ..
    · have : unansweredCmd cmd = true := by simpa [unansweredCmd] using hcmd
      exact ⟨fun _ => by rw [this], .inl rfl⟩
    · have hanswered : unansweredCmd cmd = false := by simpa [unansweredCmd] using hcmd
      refine (awaitResponse_watched ..).mono fun result mail' hresult => ?_
      obtain rfl | rfl := hresult
      · exact written_of_fails ..
      · exact ⟨fun _ => by rw [hanswered], .inr rfl⟩

theorem blCmd_watched (adapter : Adapter) {mail : Mail} {cmd : Char}
    (h : mail.unanswered = true → Mail.mayInterrupt (BitVec.ofNat 8 cmd.toNat) = true)
    (expResp : Char) :
    Ensures Mail.step mail (adapter.blCmd cmd expResp) fun status mail' =>
      0 ≤ status → mail' = .quiet (unansweredCmd cmd) := by
  simp only [blCmd, ensures_bind, ensures_blStartCmdTimer]
  intro checks
  refine ⟨mail, rfl, (adapter.blWriteCmd_watched h expResp 0 checks).mono fun result mail' hw => ?_⟩
  refine ensures_blStopCmdTimer.2 ⟨mail', rfl, ?_⟩
  rw [ensures_pure]
  split_ifs with hneg
  · exact fun hle => absurd hle (by decide)
  · exact fun _ => hw.answered (Int.not_lt.1 hneg)

/-- A command at rest may be any one. -/
theorem blCmd_watched_of_rest (adapter : Adapter) (cmd expResp : Char) :
    Ensures Mail.step (.quiet false) (adapter.blCmd cmd expResp) fun status mail' =>
      0 ≤ status → mail' = .quiet (unansweredCmd cmd) := by
  refine adapter.blCmd_watched (fun h => ?_) expResp
  exact Bool.noConfusion h

theorem bankCmd_watched (adapter : Adapter) (cmd : BankCmd) :
    Ensures Mail.step (.quiet false) (adapter.bankCmd cmd) fun status mail' =>
      0 ≤ status → mail' = .quiet false := by
  cases cmd with
  | pingWrite => exact adapter.blCmd_watched_of_rest PING_VALID PONG_AVAIL
  | pongWrite => exact adapter.blCmd_watched_of_rest PONG_VALID PING_AVAIL

/-- A command whose failure stops the timer once more, at rest -/
theorem checkedCmd_watched {cmd : Host ℤ}
    (h : Ensures Mail.step (.quiet false) cmd fun status mail' => 0 ≤ status →
      mail' = .quiet false) :
    Ensures Mail.step (.quiet false)
      (cmd >>= fun status => if status < 0 then blStopCmdTimer >>= fun _ => pure EINVAL else pure 0)
      Rests := by
  rw [ensures_bind]
  refine h.mono fun status mail' hstatus => ?_
  split_ifs with hneg
  · rw [ensures_bind]
    exact ensures_blStopCmdTimer.2 ⟨mail', rfl, .inr rfl⟩
  · exact .inl ⟨rfl, hstatus (Int.not_lt.1 hneg)⟩

/-- A chunk is written while no command is unanswered, and the next one only behind the answer. -/
theorem pingPongWrite_watched (adapter : Adapter) (image : ByteMemory) (cmd : BankCmd)
    (addr size : ℕ) :
    Ensures Mail.step (.quiet false) (adapter.pingPongWrite image cmd addr size) Rests := by
  simp only [pingPongWrite, ensures_bind, ensures_loadDataMasterWrite]
  intro written
  refine ⟨.quiet false, rfl, ?_⟩
  split_ifs with hwritten
  · exact .inr rfl
  · exact checkedCmd_watched (adapter.bankCmd_watched cmd)

theorem flashLoop_watched (adapter : Adapter) (image : ByteMemory)
    (tempContentSize numFlash rounds index flashContent : ℕ) :
    Ensures Mail.step (.quiet false)
      (adapter.flashLoop image tempContentSize numFlash rounds index flashContent) Rests := by
  induction rounds generalizing index flashContent with
  | zero => exact .inl ⟨rfl, rfl⟩
  | succ rounds ih =>
    rw [flashLoop]
    split
    · exact .inl ⟨rfl, rfl⟩
    rw [ensures_bind]
    refine (adapter.pingPongWrite_watched image _ _ _).mono fun status mail' hstatus => ?_
    obtain ⟨rfl, rfl⟩ | rfl := hstatus
    · exact ih _ _
    · exact .inr rfl

/-- **The upgrade writes no buffer while a command is unanswered.** -/
theorem autoFwUpgrade_watched (adapter : Adapter) (flashCapacity : BitVec 32)
    (image : ByteMemory) (contentSize : BitVec 32) :
    Ensures Mail.step (.quiet false) (adapter.autoFwUpgrade flashCapacity image contentSize)
      Rests := by
  rw [autoFwUpgrade]
  dsimp only
  split_ifs
  · exact .inr rfl
  · exact .inr rfl
  · exact .inr rfl
  · exact .inr rfl
  rw [ensures_bind]
  refine (adapter.flashLoop_watched ..).mono fun loaded mail' hloaded => ?_
  obtain ⟨rfl, rfl⟩ | rfl := hloaded
  · exact checkedCmd_watched (adapter.blCmd_watched_of_rest EOF_REACHED _)
  · exact .inr rfl

end Adapter

/-- A USB adapter -/
def demoAdapter : Adapter := ⟨false, false, .dev9113, (1#3).toFin, false⟩

/-- The command `EOF_REACHED` -/
def isEof : Event signature → Bool
  | ⟨.masterRegWrite _ data _, _⟩ => data == demoAdapter.reginWord EOF_REACHED
  | _ => false

/-- A device that takes each command at once and answers the commands of an upgrade. -/
def demoDevice (history : List (Event signature)) : (op : Op) → op.Ans
  | .masterRegRead addr =>
    if addr = SWBL_REGOUT then
      some (if history.any isEof then 0xab53#32 else 0xab49#32)
    else some (0 : BitVec 32)
  | .startTimer _ => (10 : ℕ)
  | .stopTimer | .releaseFirmware => ()
  | .kzalloc => true
  | .requestFirmware _ => (none : Option FwImage)
  | .masterRegWrite .. | .masterAccessMsword _ | .writeRegMultiple .. | .loadDataMasterWrite ..
  | .load9116Firmware => (0 : ℤ)

/-- An image of 20 bytes for the address 0x11000 -/
def demoImage : ByteMemory :=
  ByteMemory.ofList (List.replicate 16 0 ++ [0x00, 0x10, 0x01, 0x00])

/-- A run against this device -/
def demoRun : List (Event signature) × ℤ :=
  execute demoDevice [] (demoAdapter.autoFwUpgrade 0x100000 demoImage 20)

/-! ## The upgrade as a script of commands -/

/-- An access of `FlashUpgrade` and what it has returned -/
abbrev Returned := FlashUpgrade.Access × ℤ

/-- The events of a list of accesses: a write is a single event, a command a run of `bl_cmd`. The
timer may be stopped once more. -/
inductive Expanded (adapter : Adapter) : List Returned → List (Event signature) → Prop
  | nil : Expanded adapter [] []
  | masterWrite (addr : BitVec 32) (blockSize : ℕ) (data : List (BitVec 8)) (status : ℤ)
      {log : List Returned} {events : List (Event signature)} :
      Expanded adapter log events →
      Expanded adapter ((.masterWrite addr blockSize data, status) :: log)
        (⟨.loadDataMasterWrite addr blockSize data, status⟩ :: events)
  | command {cmd expResp : Char} {status : ℤ} {log : List Returned}
      {taken events : List (Event signature)} :
      Runs (adapter.blCmd cmd expResp) taken status → Expanded adapter log events →
      Expanded adapter ((.command cmd expResp, status) :: log) (taken ++ events)
  | stopTimer {log : List Returned} {events : List (Event signature)} :
      Expanded adapter log events → Expanded adapter log (⟨.stopTimer, ()⟩ :: events)

theorem Expanded.append {adapter : Adapter} {log log' : List Returned}
    {events events' : List (Event signature)} (h : Expanded adapter log events)
    (h' : Expanded adapter log' events') :
    Expanded adapter (log ++ log') (events ++ events') := by
  induction h with
  | nil => exact h'
  | masterWrite addr blockSize data status _ ih => exact .masterWrite addr blockSize data status ih
  | command hcmd _ ih =>
    rw [List.append_assoc]
    exact .command hcmd ih
  | stopTimer _ ih => exact .stopTimer ih

/-- The accesses of a host return what the log says, from access `k` on. -/
def Agrees (host : FlashUpgrade.Host) : ℕ → List Returned → Prop
  | _, [] => True
  | k, (_, status) :: log => host.outcome k = status ∧ Agrees host (k + 1) log

theorem agrees_append {host : FlashUpgrade.Host} {k : ℕ} {log log' : List Returned} :
    Agrees host k (log ++ log') ↔ Agrees host k log ∧ Agrees host (k + log.length) log' := by
  induction log generalizing k with
  | nil => simp [Agrees]
  | cons access log ih =>
    obtain ⟨_, status⟩ := access
    simp only [List.cons_append, Agrees, ih, List.length_cons, and_assoc, Nat.add_assoc,
      Nat.add_comm 1]

/-- The host of `FlashUpgrade` with the build and the device of an adapter -/
def Adapter.host (adapter : Adapter) (flashCapacity : BitVec 32) (outcome : ℕ → ℤ) :
    FlashUpgrade.Host :=
  ⟨adapter.flashMode, adapter.sdio, flashCapacity, outcome⟩

/-- Some host returns what a log says. -/
theorem exists_agrees (adapter : Adapter) (flashCapacity : BitVec 32) (log : List Returned) :
    ∃ outcome, Agrees (adapter.host flashCapacity outcome) 0 log := by
  refine ⟨fun k => (log.map Prod.snd).getD k 0, ?_⟩
  have h : ∀ before rest : List Returned, log = before ++ rest →
      Agrees (adapter.host flashCapacity fun k => (log.map Prod.snd).getD k 0) before.length
        rest := by
    intro before rest hlog
    induction rest generalizing before with
    | nil => trivial
    | cons access rest ih =>
      obtain ⟨a, status⟩ := access
      refine ⟨?_, ?_⟩
      · simp [Adapter.host, hlog]
      · have := ih (before ++ [(a, status)]) (by simpa using hlog)
        rwa [List.length_append, List.length_singleton] at this
  exact h [] log rfl

/-- The events are those of a part of `FlashUpgrade`: for a log of accesses, the part makes the same
accesses and ends with the same status against a host that returns what the log says. -/
def RefinesTo (adapter : Adapter) (flashCapacity : BitVec 32)
    (part : FlashUpgrade.Host → FlashUpgrade.Upgrade → FlashUpgrade.Upgrade)
    (events : List (Event signature)) (status : ℤ) : Prop :=
  ∃ log, Expanded adapter log events ∧ ∀ outcome upgrade,
    upgrade.status = 0 → Agrees (adapter.host flashCapacity outcome) upgrade.accesses.length log →
      (part (adapter.host flashCapacity outcome) upgrade).accesses =
        upgrade.accesses ++ log.map Prod.fst ∧
      (part (adapter.host flashCapacity outcome) upgrade).status = status

/-- A run makes the accesses of an upgrade of `FlashUpgrade`, which return what they return there,
and ends with its status. -/
structure RefinesUpgrade (adapter : Adapter) (host : FlashUpgrade.Host) (image : ByteMemory)
    (contentSize : BitVec 32) (events : List (Event signature)) (status : ℤ) : Prop where
  accesses : ∃ log, Expanded adapter log events ∧ Agrees host 0 log ∧
    (host.autoFwUpgrade image contentSize).accesses = log.map Prod.fst
  status : (host.autoFwUpgrade image contentSize).status = status

/-- A part of `FlashUpgrade`, and the next one if it succeeds -/
def followed (part next : FlashUpgrade.Host → FlashUpgrade.Upgrade → FlashUpgrade.Upgrade) :
    FlashUpgrade.Host → FlashUpgrade.Upgrade → FlashUpgrade.Upgrade :=
  fun host upgrade =>
    if (part host upgrade).status ≠ 0 then part host upgrade else next host (part host upgrade)

section Refinement

variable {adapter : Adapter} {flashCapacity : BitVec 32} {events events' : List (Event signature)}
  {status : ℤ} {part next : FlashUpgrade.Host → FlashUpgrade.Upgrade → FlashUpgrade.Upgrade}

/-- A part that fails is the last one. -/
theorem RefinesTo.fails (h : RefinesTo adapter flashCapacity part events status)
    (hfail : status ≠ 0)
    (next : FlashUpgrade.Host → FlashUpgrade.Upgrade → FlashUpgrade.Upgrade) :
    RefinesTo adapter flashCapacity (followed part next) events status := by
  obtain ⟨log, hlog, hpart⟩ := h
  refine ⟨log, hlog, fun outcome upgrade hstatus hagrees => ?_⟩
  have hpart' := hpart outcome upgrade hstatus hagrees
  rw [followed, if_pos (by rw [hpart'.2]; exact hfail)]
  exact hpart'

/-- Behind a part that succeeds comes the next one. -/
theorem RefinesTo.seq (h : RefinesTo adapter flashCapacity part events 0)
    (h' : RefinesTo adapter flashCapacity next events' status) :
    RefinesTo adapter flashCapacity (followed part next) (events ++ events') status := by
  obtain ⟨log, hlog, hpart⟩ := h
  obtain ⟨log', hlog', hnext⟩ := h'
  refine ⟨log ++ log', hlog.append hlog', fun outcome upgrade hstatus hagrees => ?_⟩
  rw [agrees_append] at hagrees
  obtain ⟨haccesses, hzero⟩ := hpart outcome upgrade hstatus hagrees.1
  have hlength : (part (adapter.host flashCapacity outcome) upgrade).accesses.length =
      upgrade.accesses.length + log.length := by
    rw [haccesses, List.length_append, List.length_map]
  obtain ⟨haccesses', hstatus'⟩ := hnext outcome _ hzero (by rw [hlength]; exact hagrees.2)
  rw [followed, if_neg (not_not.2 hzero)]
  exact ⟨by rw [haccesses', haccesses, List.map_append, List.append_assoc], hstatus'⟩

/-- The timer is stopped once more. -/
theorem RefinesTo.stopTimer (h : RefinesTo adapter flashCapacity part events status) :
    RefinesTo adapter flashCapacity part (events ++ [⟨.stopTimer, ()⟩]) status := by
  obtain ⟨log, hlog, hpart⟩ := h
  have hstop : Expanded adapter (log ++ []) (events ++ [⟨.stopTimer, ()⟩]) :=
    hlog.append (.stopTimer .nil)
  rw [List.append_nil] at hstop
  exact ⟨log, hstop, hpart⟩

/-- Nothing is done. -/
theorem refinesTo_nil : RefinesTo adapter flashCapacity (fun _ upgrade => upgrade) [] 0 :=
  ⟨[], .nil, fun _ _ hstatus _ => ⟨by simp, hstatus⟩⟩

/-- A status of `bl_cmd` -/
theorem blCmd_status {cmd expResp : Char} (h : Runs (adapter.blCmd cmd expResp) events status) :
    status = if status < 0 then EINVAL else 0 := by
  rw [Adapter.blCmd, runs_bind] at h
  obtain ⟨_, _, checks, -, -, h⟩ := h
  rw [runs_bind] at h
  obtain ⟨_, _, result, -, -, h⟩ := h
  rw [runs_bind] at h
  obtain ⟨_, _, -, -, -, h⟩ := h
  obtain ⟨-, rfl⟩ := runs_pure_iff.1 h
  by_cases hneg : result.1 < 0
  · rw [if_pos hneg, if_pos EINVAL_neg]
  · rw [if_neg hneg]
    rfl

theorem blCmd_refines {cmd expResp : Char}
    (h : Runs (adapter.blCmd cmd expResp) events status) :
    RefinesTo adapter flashCapacity (fun host => host.access (.command cmd expResp)) events
      status := by
  have hlog : Expanded adapter [(.command cmd expResp, status)] (events ++ []) := .command h .nil
  rw [List.append_nil] at hlog
  refine ⟨_, hlog, fun outcome upgrade _ hagrees => ⟨rfl, ?_⟩⟩
  have houtcome : outcome upgrade.accesses.length = status := hagrees.1
  rw [blCmd_status h]
  simp [FlashUpgrade.Host.access, FlashUpgrade.Host.fails, Adapter.host, houtcome]

theorem loadDataMasterWrite_refines (addr : BitVec 32) (blockSize : ℕ) (data : List (BitVec 8))
    (status : ℤ) (reads : List ByteRange) :
    RefinesTo adapter flashCapacity
      (fun host upgrade => host.access (.masterWrite addr blockSize data)
        { upgrade with reads := upgrade.reads ++ reads })
      [⟨.loadDataMasterWrite addr blockSize data, status⟩] (if status ≠ 0 then EINVAL else 0) := by
  refine ⟨_, .masterWrite addr blockSize data status .nil,
    fun outcome upgrade _ hagrees => ⟨rfl, ?_⟩⟩
  have houtcome : outcome upgrade.accesses.length = status := hagrees.1
  simp [FlashUpgrade.Host.access, FlashUpgrade.Host.fails, Adapter.host, houtcome]

theorem bankCmd_status {cmd : BankCmd} (h : Runs (adapter.bankCmd cmd) events status) :
    status = if status < 0 then EINVAL else 0 := by
  cases cmd with
  | pingWrite => exact blCmd_status h
  | pongWrite => exact blCmd_status h

theorem bankCmd_refines {cmd : BankCmd} (h : Runs (adapter.bankCmd cmd) events status) :
    RefinesTo adapter flashCapacity
      (fun host => host.access (FlashUpgrade.Host.bankCommand cmd)) events status := by
  cases cmd with
  | pingWrite => exact blCmd_refines h
  | pongWrite => exact blCmd_refines h

/-- A command whose failure stops the timer once more -/
theorem checkedCmd_refines {cmd : Host ℤ} (hcmd : ∀ {taken result}, Runs cmd taken result →
      result = (if result < 0 then EINVAL else 0) ∧
        RefinesTo adapter flashCapacity next taken result)
    (h : Runs (cmd >>= fun result =>
        if result < 0 then blStopCmdTimer >>= fun _ => pure EINVAL else pure 0) events status) :
    RefinesTo adapter flashCapacity next events status := by
  obtain ⟨taken, rest, result, rfl, htaken, hrest⟩ := runs_bind.1 h
  obtain ⟨hresult, hrefines⟩ := hcmd htaken
  by_cases hneg : result < 0
  · rw [if_pos hneg] at hrest hresult
    obtain ⟨stop, _, _, rfl, hstop, hpure⟩ := runs_bind.1 hrest
    obtain ⟨rfl, rfl⟩ := runs_pure_iff.1 hpure
    rw [runs_request_iff.1 hstop, List.append_nil, ← hresult]
    exact hrefines.stopTimer
  · rw [if_neg hneg] at hrest hresult
    obtain ⟨rfl, rfl⟩ := runs_pure_iff.1 hrest
    rw [List.append_nil, ← hresult]
    exact hrefines

theorem pingPongWrite_refines {image : ByteMemory} {cmd : BankCmd} {addr size : ℕ}
    (h : Runs (adapter.pingPongWrite image cmd addr size) events status) :
    RefinesTo adapter flashCapacity (fun host => host.pingPongWrite image cmd addr size) events
      status := by
  obtain ⟨chunk, rest, written, rfl, hchunk, hrest⟩ := runs_bind.1 h
  rw [runs_request_iff.1 hchunk]
  have hwrite : RefinesTo adapter flashCapacity _ _ _ := loadDataMasterWrite_refines
    (adapter.bufferAddress cmd) adapter.blockSize (image.bytes addr size) written [⟨addr, size⟩]
  by_cases hwritten : written = 0
  · rw [if_neg (not_not.2 hwritten)] at hwrite hrest
    exact hwrite.seq (checkedCmd_refines
      (fun hcmd => ⟨bankCmd_status hcmd, bankCmd_refines hcmd⟩) hrest)
  · rw [if_pos hwritten] at hwrite hrest
    obtain ⟨rfl, rfl⟩ := runs_pure_iff.1 hrest
    rw [List.append_nil]
    exact hwrite.fails (by decide) fun host => host.access (FlashUpgrade.Host.bankCommand cmd)

theorem flashLoop_refines {image : ByteMemory} {size numFlash rounds index content : ℕ}
    (h : Runs (adapter.flashLoop image size numFlash rounds index content) events status) :
    RefinesTo adapter flashCapacity
      (fun host => host.flashLoop image size numFlash rounds index content) events status := by
  induction rounds generalizing index content events with
  | zero =>
    obtain ⟨rfl, rfl⟩ := runs_pure_iff.1 h
    exact refinesTo_nil
  | succ rounds ih =>
    rw [Adapter.flashLoop] at h
    have hround : (fun host => FlashUpgrade.Host.flashLoop host image size numFlash (rounds + 1)
        index content) = fun host upgrade =>
          if index = numFlash ∧ Adapter.roundSize size numFlash index = 0 then upgrade
          else followed
            (fun host => host.pingPongWrite image (FlashUpgrade.Host.cmdAt index) content
              (Adapter.roundSize size numFlash index))
            (fun host => host.flashLoop image size numFlash rounds (index + 1)
              (content + Adapter.roundSize size numFlash index)) host upgrade := rfl
    rw [hround]
    by_cases hlast : index = numFlash ∧ Adapter.roundSize size numFlash index = 0
    · simp only [if_pos hlast] at h ⊢
      obtain ⟨rfl, rfl⟩ := runs_pure_iff.1 h
      exact refinesTo_nil
    · simp only [if_neg hlast] at h ⊢
      obtain ⟨chunk, rest, written, rfl, hchunk, hrest⟩ := runs_bind.1 h
      have hwrite : RefinesTo adapter flashCapacity _ _ _ := pingPongWrite_refines hchunk
      by_cases hwritten : written = 0
      · subst hwritten
        rw [if_neg (not_not.2 rfl)] at hrest
        exact hwrite.seq (ih hrest)
      · rw [if_pos hwritten] at hrest
        obtain ⟨rfl, rfl⟩ := runs_pure_iff.1 hrest
        obtain ⟨_, -, ⟨hzero, -⟩ | rfl⟩ :=
          (adapter.pingPongWrite_watched image _ _ _).of_runs hchunk
        · exact absurd hzero hwritten
        · rw [List.append_nil]
          exact hwrite.fails EINVAL_ne_zero _

/-- An upgrade behind its checks -/
theorem checkedUpgrade_refines {image : ByteMemory} {size : ℕ}
    (h : Runs (adapter.flashLoop image size (size / FLASH_WRITE_CHUNK_SIZE)
        (size / FLASH_WRITE_CHUNK_SIZE + 1) 0 0 >>= fun loaded =>
      if loaded ≠ 0 then pure EINVAL
      else adapter.blCmd EOF_REACHED FW_LOADING_SUCCESSFUL >>= fun status =>
        if status < 0 then blStopCmdTimer >>= fun _ => pure EINVAL else pure 0) events status) :
    RefinesTo adapter flashCapacity
      (followed
        (fun host => host.flashLoop image size (size / FLASH_WRITE_CHUNK_SIZE)
          (size / FLASH_WRITE_CHUNK_SIZE + 1) 0 0)
        (fun host => host.access (.command EOF_REACHED FW_LOADING_SUCCESSFUL))) events status := by
  obtain ⟨chunks, rest, loaded, rfl, hchunks, hrest⟩ := runs_bind.1 h
  have hloop : RefinesTo adapter flashCapacity _ _ _ := flashLoop_refines hchunks
  obtain ⟨_, -, ⟨rfl, -⟩ | rfl⟩ := (adapter.flashLoop_watched ..).of_runs hchunks
  · rw [if_neg (not_not.2 rfl)] at hrest
    exact hloop.seq (checkedCmd_refines (fun hcmd => ⟨blCmd_status hcmd, blCmd_refines hcmd⟩) hrest)
  · rw [if_pos EINVAL_ne_zero] at hrest
    obtain ⟨rfl, rfl⟩ := runs_pure_iff.1 hrest
    rw [List.append_nil]
    exact hloop.fails EINVAL_ne_zero _

/-- A log of the accesses of a run -/
theorem exists_log_of_runs {image : ByteMemory} {contentSize : BitVec 32}
    (h : Runs (adapter.autoFwUpgrade flashCapacity image contentSize) events status) :
    ∃ outcome log, Agrees (adapter.host flashCapacity outcome) 0 log ∧
      Expanded adapter log events ∧
      ((adapter.host flashCapacity outcome).autoFwUpgrade image contentSize).accesses =
        log.map Prod.fst ∧
      ((adapter.host flashCapacity outcome).autoFwUpgrade image contentSize).status = status := by
  simp only [FlashUpgrade.Host.autoFwUpgrade]
  simp only [Adapter.autoFwUpgrade] at h
  -- one case for each of the four checks
  by_cases hsize : MAX_FLASH_FILE_SIZE < contentSize
  · simp only [if_pos hsize] at h ⊢
    obtain ⟨rfl, rfl⟩ := runs_pure_iff.1 h
    exact ⟨fun _ => 0, [], trivial, .nil, rfl, rfl⟩
  simp only [if_neg hsize] at h ⊢
  by_cases hmin : image.le32 FLASHING_START_ADDRESS < FW_IMAGE_MIN_ADDRESS
  · simp only [if_pos hmin] at h ⊢
    obtain ⟨rfl, rfl⟩ := runs_pure_iff.1 h
    exact ⟨fun _ => 0, [], trivial, .nil, rfl, rfl⟩
  simp only [if_neg hmin] at h ⊢
  by_cases hsector : image.le32 FLASHING_START_ADDRESS % FLASH_SECTOR_SIZE ≠ 0
  · simp only [if_pos hsector] at h ⊢
    obtain ⟨rfl, rfl⟩ := runs_pure_iff.1 h
    exact ⟨fun _ => 0, [], trivial, .nil, rfl, rfl⟩
  simp only [if_neg hsector] at h ⊢
  by_cases hcapacity : flashCapacity < image.le32 FLASHING_START_ADDRESS + contentSize
  · simp only [if_pos hcapacity] at h
    obtain ⟨rfl, rfl⟩ := runs_pure_iff.1 h
    have hcapacity' : (adapter.host flashCapacity fun _ => 0).flashCapacity <
        image.le32 FLASHING_START_ADDRESS + contentSize := hcapacity
    refine ⟨fun _ => 0, [], trivial, .nil, ?_⟩
    rw [if_pos hcapacity']
    exact ⟨rfl, rfl⟩
  simp only [if_neg hcapacity] at h
  obtain ⟨log, hlog, hupgrade⟩ := checkedUpgrade_refines h
  obtain ⟨outcome, hagrees⟩ := exists_agrees adapter flashCapacity log
  refine ⟨outcome, log, hagrees, hlog, ?_⟩
  have hcapacity' : ¬ (adapter.host flashCapacity outcome).flashCapacity <
      image.le32 FLASHING_START_ADDRESS + contentSize := hcapacity
  rw [if_neg hcapacity']
  exact hupgrade outcome ⟨[], [⟨FLASHING_START_ADDRESS, 4⟩], 0⟩ rfl hagrees

/-- **The upgrade at the registers is one of `FlashUpgrade`**: for every run there is a host there
whose accesses make the events of the run and which ends with the same status. -/
theorem autoFwUpgrade_refines {image : ByteMemory} {contentSize : BitVec 32}
    (h : Runs (adapter.autoFwUpgrade flashCapacity image contentSize) events status) :
    ∃ outcome, RefinesUpgrade adapter (adapter.host flashCapacity outcome) image contentSize events
      status := by
  obtain ⟨outcome, log, hagrees, hlog, haccesses, hstatus⟩ := exists_log_of_runs h
  exact ⟨outcome, ⟨log, hlog, hagrees, haccesses⟩, hstatus⟩

theorem autoFwUpgrade_refines_demo :
    ∃ outcome, RefinesUpgrade demoAdapter (demoAdapter.host 0x100000 outcome) demoImage 20 demoRun.1
      demoRun.2 :=
  autoFwUpgrade_refines (runs_execute demoDevice [] _)

end Refinement

/-! ## What is sent -/

/-- The accesses of `bl_cmd` -/
def Op.IsCommand : Op → Prop
  | masterRegRead addr => addr = SWBL_REGIN ∨ addr = SWBL_REGOUT
  | masterRegWrite addr _ _ => addr = SWBL_REGIN ∨ addr = SWBL_REGOUT
  | startTimer _ | stopTimer => True
  | _ => False

theorem pollRegister_uses {allowed : Op → Prop} {addr : BitVec 32}
    (haddr : allowed (.masterRegRead addr)) (wanted : BitVec 32 → Bool) (val : BitVec 32)
    (checks : ℕ) : Uses (S := signature) allowed (pollRegister addr wanted val checks) := by
  induction checks generalizing val with
  | zero => exact uses_pure _
  | succ checks ih =>
    refine Uses.bind (uses_request.2 haddr) fun val' => ?_
    cases val' with
    | none => exact uses_pure _
    | some val' =>
      dsimp only
      split
      · exact uses_pure _
      · exact ih val'

theorem awaitResponse_uses (cmd expResp : Char) (cmdResp : BitVec 16) (checks : ℕ) :
    Uses Op.IsCommand (awaitResponse cmd expResp cmdResp checks) := by
  refine Uses.bind (pollRegister_uses (Or.inr rfl) _ _ _) fun polled => ?_
  obtain _ | ⟨_ | left, val⟩ := polled
  · exact uses_pure _
  · exact uses_pure _
  · refine Uses.bind (uses_request.2 (.inr rfl)) fun status => ?_
    dsimp only
    split_ifs <;> exact uses_pure _

namespace Adapter

variable (adapter : Adapter)

theorem blWriteCmd_uses (cmd expResp : Char) (cmdResp : BitVec 16) (checks : ℕ) :
    Uses Op.IsCommand (adapter.blWriteCmd cmd expResp cmdResp checks) := by
  refine Uses.bind (pollRegister_uses (Or.inl rfl) _ _ _) fun polled => ?_
  obtain _ | ⟨_ | left, val⟩ := polled
  · exact uses_pure _
  · exact uses_pure _
  · refine Uses.bind (uses_request.2 (.inl rfl)) fun status => ?_
    split_ifs
    · exact uses_pure _
    · exact uses_pure _
    · exact awaitResponse_uses ..

theorem blCmd_uses (cmd expResp : Char) : Uses Op.IsCommand (adapter.blCmd cmd expResp) :=
  Uses.bind (uses_request.2 trivial) fun _ =>
    Uses.bind (adapter.blWriteCmd_uses ..) fun _ =>
      Uses.bind (uses_request.2 trivial) fun _ => uses_pure _

theorem bankCmd_uses (cmd : BankCmd) : Uses Op.IsCommand (adapter.bankCmd cmd) := by
  cases cmd with
  | pingWrite => exact adapter.blCmd_uses ..
  | pongWrite => exact adapter.blCmd_uses ..

/-- The chunks for the buffers in turn, with the addresses that they go to -/
def bankChunks : BankCmd → List (List (BitVec 8)) → List (BitVec 32 × List (BitVec 8))
  | _, [] => []
  | cmd, chunk :: chunks => (adapter.bufferAddress cmd, chunk) :: bankChunks cmd.next chunks

end Adapter

/-- The address and the bytes of a write to a buffer -/
def chunkOf : Event signature → Option (BitVec 32 × List (BitVec 8))
  | ⟨.loadDataMasterWrite addr _ data, _⟩ => some (addr, data)
  | _ => none

/-- What was written to the buffers -/
def sent (events : List (Event signature)) : List (BitVec 32 × List (BitVec 8)) :=
  events.filterMap chunkOf

/-- The address and the bytes of an access of `FlashUpgrade` -/
def chunkOfAccess : FlashUpgrade.Access → Option (BitVec 32 × List (BitVec 8))
  | .masterWrite addr _ data => some (addr, data)
  | .command .. => none

theorem sent_of_uses {events : List (Event signature)}
    (h : ∀ event ∈ events, Op.IsCommand event.op) : sent events = [] := by
  refine List.filterMap_eq_nil_iff.2 fun event hmem => ?_
  obtain ⟨op, ans⟩ := event
  cases op with
  | loadDataMasterWrite addr blockSize data => exact (h _ hmem).elim
  | _ => rfl

theorem Expanded.sent {adapter : Adapter} {log : List Returned} {events : List (Event signature)}
    (h : Expanded adapter log events) :
    sent events = (log.map Prod.fst).filterMap chunkOfAccess := by
  induction h with
  | nil => rfl
  | masterWrite addr blockSize data status _ ih =>
    exact congrArg ((addr, data) :: ·) ih
  | command hcmd _ ih =>
    have hnone := sent_of_uses ((adapter.blCmd_uses _ _).of_runs hcmd)
    rw [BootLoader.sent] at hnone ih ⊢
    rw [List.filterMap_append, hnone, List.nil_append, ih]
    rfl
  | stopTimer _ ih => exact ih

theorem filterMap_chunkScript (adapter : Adapter) (flashCapacity : BitVec 32) (outcome : ℕ → ℤ)
    (cmd : BankCmd) (chunks : List (List (BitVec 8))) :
    ((adapter.host flashCapacity outcome).chunkScript cmd chunks).filterMap chunkOfAccess =
      adapter.bankChunks cmd chunks := by
  induction chunks generalizing cmd with
  | nil => rfl
  | cons chunk chunks ih =>
    cases cmd with
    | pingWrite => exact congrArg (_ :: ·) (ih _)
    | pongWrite => exact congrArg (_ :: ·) (ih _)

/-- **An upgrade sends the chunks of the image in order**, to the two buffers in turn, the first one
to the pong buffer: some of them in any run, and all of them in a run that returns 0. -/
theorem autoFwUpgrade_sent {adapter : Adapter} {flashCapacity : BitVec 32} {image : ByteMemory}
    {contentSize : BitVec 32} {events : List (Event signature)} {status : ℤ}
    (h : Runs (adapter.autoFwUpgrade flashCapacity image contentSize) events status) :
    sent events <+:
        adapter.bankChunks .pongWrite (FlashUpgrade.chunksOf image contentSize.toNat) ∧
      (status = 0 → sent events =
        adapter.bankChunks .pongWrite (FlashUpgrade.chunksOf image contentSize.toNat)) := by
  obtain ⟨outcome, log, -, hlog, haccesses, hstatus⟩ := exists_log_of_runs h
  rw [hlog.sent, ← haccesses]
  by_cases hpass : FlashUpgrade.Passes (adapter.host flashCapacity outcome) image contentSize
  · have hperformed := FlashUpgrade.autoFwUpgrade_performed hpass
    have hscript : ((adapter.host flashCapacity outcome).upgradeScript
        (FlashUpgrade.chunksOf image contentSize.toNat)).filterMap chunkOfAccess =
          adapter.bankChunks .pongWrite (FlashUpgrade.chunksOf image contentSize.toNat) := by
      rw [FlashUpgrade.Host.upgradeScript, List.filterMap_append, filterMap_chunkScript]
      exact List.append_nil _
    rw [hperformed.accesses, ← hscript]
    constructor
    · obtain ⟨k, hk⟩ := Script.exists_take_perform (adapter.host flashCapacity outcome).fails []
        ((adapter.host flashCapacity outcome).upgradeScript
          (FlashUpgrade.chunksOf image contentSize.toNat))
      rw [hk, List.nil_append]
      exact (List.take_prefix _ _).filterMap _
    · intro hzero
      rw [hzero] at hstatus
      rw [Script.perform_of_succeeds (hperformed.succeeds_iff.2 hstatus), List.nil_append]
  · -- nothing is sent of an image that is refused
    obtain ⟨hnone, herror⟩ := FlashUpgrade.autoFwUpgrade_refused hpass
    rw [hnone]
    exact ⟨List.nil_prefix, fun hzero => absurd (hstatus.trans hzero) herror⟩

/-- Its 20 bytes go to the pong buffer. -/
theorem autoFwUpgrade_sent_demo : sent demoRun.1 = [(0x1a000, demoImage.bytes 0 20)] :=
  (autoFwUpgrade_sent (runs_execute demoDevice [] _)).2 (by decide)

end BootLoader
