import RsiDriver.Boot.Mailbox
import RsiDriver.Boot.MasterReg

/-!
# Loading the firmware with the boot loader

`rsi_load_firmware` (`rsi_91x_hal.c`) waits until the boot loader is there, and makes it load a
firmware. An RS9113 and an RS9116 with its firmware in flash compare the image in flash with the
file (`CHECK_CRC`), replace it if it differs (`BURN_HOSTED_FW`, `auto_fw_upgrade`), and start it
(`LOAD_HOSTED_FW`); an RS9116 without flash gets its firmware from `rsi_load_9116_firmware`, which
is a single action here. The version in the file, which is only reported, is left out.

## Main results

* `loadFirmware_watched`: the mailbox is used in order in every run.
-/

namespace BootLoader

open Boot (EINVAL ENOMEM DeviceModel FwImage)
open Interaction Program
open SecureLoad (BankCmd PING_VALID PONG_VALID EOF_REACHED SEND_RPS_FILE JUMP_TO_ZERO_PC CMD_PASS)
open MasterReg (FLASH_SIZE_ADDR)

def kzalloc : Host Bool := request (S := signature) .kzalloc

def requestFirmware (name : String) : Host (Option FwImage) :=
  request (S := signature) (.requestFirmware name)

def releaseFirmware : Host Unit := request (S := signature) .releaseFirmware

/-- `rsi_load_9116_firmware` -/
def load9116Firmware : Host ℤ := request (S := signature) .load9116Firmware

def SD_REQUEST_MASTER : BitVec 32 := 0x10000
def PING_BUFFER_ADDRESS_9116 : BitVec 32 := 0x18004
def RS9116_RPS_HEADER_SIZE : ℕ := 0x40
def MEM_ACCESS_CTRL_FROM_HOST : BitVec 32 := 0x41300000
def RAM_384K_ACCESS_FROM_TA : BitVec 32 := 0x3f0003c
def RSI_FLASH_READ_COEX_IMAGE : BitVec 32 := 0x04080040
def RSI_FLASH_READ_WLAN_IMAGE : BitVec 32 := 0x04020040
def RSI_9116_FLASH_SIZE : BitVec 32 := 0x400000
def CMD_FAIL : BitVec 8 := 0xcc

/-- The first two bytes of an image in flash -/
def FLASH_MAGIC : BitVec 32 := 0x5aa5

/-- The names in `metadata_flash_content` -/
def metadataFlashContent : List String :=
  ["flash_content", "RS9113_WLAN_QSPI.rps", "RS9113_WLAN_BT_DUAL_MODE.rps",
    "RS9113_WLAN_ZIGBEE.rps", "RS9113_AP_BT_DUAL_MODE.rps", "RS9113_WLAN_QSPI.rps",
    "RS9113_ZIGBEE_COORDINATOR.rps", "RS9113_ZIGBEE_ROUTER.rps"]

/-- The names in `metadata_9116_flash` -/
def metadata9116Flash : List String :=
  ["flash_content", "RS9116_NLINK_WLAN_IMAGE.rps", "RS9116_NLINK_WLAN_BT_IMAGE.rps",
    "RS9116_NLINK_WLAN_ZB_IMAGE.rps", "RS9116_NLINK_WLAN_BT_IMAGE.rps", "flash_content",
    "RS9116_NLINK_ZB_COORDINATOR.rps", "RS9116_NLINK_ZB_ROUTER.rps"]

namespace Adapter

variable (adapter : Adapter)

/-- `struct bl_header` for an image -/
def blHeader (image : ByteMemory) : List (BitVec 8) :=
  List.replicate 4 0 ++ [BitVec.ofNat 8 adapter.coexMode, 0, 0, 0] ++ image.bytes 20 4 ++
    image.bytes 16 4 ++ image.bytes 8 4

/-- The write of a header to an address of the device -/
def writeHeader (addr : BitVec 32) (header : List (BitVec 8)) : Host ℤ :=
  if adapter.sdio then do
    let status ← masterAccessMsword (addr >>> 16)
    if status < 0 then pure EINVAL
    else
      let status ← writeRegMultiple (SD_REQUEST_MASTER ||| addr &&& 0xffff) header
      pure (if status < 0 then EINVAL else 0)
  else do
    let status ← writeRegMultiple addr header
    pure (if status < 0 then EINVAL else 0)

/-- `bl_write_header` -/
def blWriteHeader (image : ByteMemory) : Host ℤ :=
  if adapter.devModel9116 then
    -- the header is copied for SDIO only
    if adapter.sdio then do
      if ← kzalloc then
        adapter.writeHeader PING_BUFFER_ADDRESS_9116 (image.bytes 0 RS9116_RPS_HEADER_SIZE)
      else pure ENOMEM
    else adapter.writeHeader PING_BUFFER_ADDRESS_9116 (image.bytes 0 RS9116_RPS_HEADER_SIZE)
  else do
    if ← kzalloc then
      adapter.writeHeader (adapter.bufferAddress .pingWrite) (adapter.blHeader image)
    else pure ENOMEM

/-- `read_flash_capacity` -/
def readFlashCapacity : Host (BitVec 32) := do
  match ← masterRegRead FLASH_SIZE_ADDR with
  | none => pure 0
  | some flashSz => pure (flashSz * 1024)

/-- The command `CHECK_CRC`: whether the boot loader finds another image in flash. Any other failure
counts as a success. -/
def crcDiffers : Host Bool := do
  let checks ← blStartCmdTimer BL_CMD_TIMEOUT
  let result ← adapter.blWriteCmd CHECK_CRC CMD_PASS 0 checks
  blStopCmdTimer
  if result.1 < 0 then
    if result.2.setWidth 8 = CMD_FAIL then pure true
    else
      blStopCmdTimer
      pure false
  else pure false

/-- `rsi_check_crc` -/
def checkCrc : Host ℤ := do
  let status ← masterRegWrite MEM_ACCESS_CTRL_FROM_HOST RAM_384K_ACCESS_FROM_TA 4
  if status < 0 then pure Boot.EIO
  else
    let differs ← adapter.crcDiffers
    pure (if differs then EINVAL else 0)

/-- `rsi_load_9116_flash_fw` -/
def load9116FlashFw : Host ℤ := do
  let status ← masterRegWrite MEM_ACCESS_CTRL_FROM_HOST RAM_384K_ACCESS_FROM_TA 4
  if status < 0 then pure Boot.EIO
  else
    let status ← adapter.blCmd LOAD_HOSTED_FW LOADING_INITIATED
    pure (if status < 0 then Boot.EIO else 0)

/-- `fail`, with a firmware file that was found -/
def fail : Host ℤ := do
  releaseFirmware
  pure EINVAL

/-- `rsi_load_firmware` with `CONFIG_RSI_LOAD_FW_FROM_FLASH_ONLY` -/
def loadFlashOnly (flashDataStart : BitVec 32) : Host ℤ :=
  if flashDataStart = FLASH_MAGIC then do
    let status ← adapter.load9116FlashFw
    if adapter.sdio then pure status
    else
      let polling ← adapter.blCmd POLLING_MODE CMD_PASS
      pure (if polling < 0 then EINVAL else status)
  else pure EINVAL

/-- `load_9116_flash_fw` -/
def startFlash9116 : Host ℤ := do
  let status ← adapter.load9116FlashFw
  releaseFirmware
  pure status

/-- `upgrade_9116_flash_fw` -/
def upgradeFlash9116 (image : FwImage) : Host ℤ := do
  let status ← adapter.blCmd BURN_HOSTED_FW SEND_RPS_FILE
  if status < 0 then fail
  else
    let upgraded ← adapter.autoFwUpgrade RSI_9116_FLASH_SIZE image.data
      (BitVec.ofNat 32 image.size)
    if upgraded ≠ 0 then fail
    else
      let polling ← adapter.blCmd POLLING_MODE CMD_PASS
      if polling < 0 then fail else adapter.startFlash9116

/-- `rsi_load_firmware` for an RS9116 with its firmware in flash -/
def loadFlash9116 (flashDataStart : BitVec 32) : Host ℤ := do
  match ← requestFirmware (metadata9116Flash.getD adapter.coexMode "") with
  | none => pure EINVAL
  | some image =>
    let checked ← adapter.blWriteHeader image.data
    if flashDataStart = FLASH_MAGIC then
      -- the firmware file is not released here
      if checked ≠ 0 then pure EINVAL
      else
        let differs ← adapter.checkCrc
        if differs ≠ 0 then adapter.upgradeFlash9116 image else adapter.startFlash9116
    else if checked ≠ 0 then fail
    else adapter.upgradeFlash9116 image

/-- `rsi_load_firmware` for an RS9116 without flash -/
def loadRam9116 : Host ℤ :=
  if adapter.sdio then load9116Firmware
  else do
    let polling ← adapter.blCmd POLLING_MODE CMD_PASS
    if polling < 0 then pure EINVAL
    else
      let status ← load9116Firmware
      let _ ← adapter.blCmd JUMP_TO_ZERO_PC CMD_PASS
      pure status

/-- `success` -/
def success : Host ℤ := do
  releaseFirmware
  pure 0

/-- `load_image_cmd` -/
def loadImageCmd : Host ℤ := do
  let status ← adapter.blCmd LOAD_HOSTED_FW LOADING_INITIATED
  if status < 0 then fail else success

/-- `fw_upgrade` -/
def fwUpgrade (flashCapacity : BitVec 32) (image : FwImage) : Host ℤ := do
  let status ← adapter.blCmd BURN_HOSTED_FW SEND_RPS_FILE
  if status < 0 then fail
  else
    let upgraded ← adapter.autoFwUpgrade flashCapacity image.data (BitVec.ofNat 32 image.size)
    if upgraded = 0 then adapter.loadImageCmd
    else
      let status ← adapter.blCmd CONFIG_AUTO_READ_MODE CMD_PASS
      -- a failed upgrade goes on to `success`
      if status < 0 then fail else success

/-- `rsi_load_firmware` for an RS9113 -/
def loadFirmware9113 : Host ℤ := do
  let status ← adapter.blCmd CONFIG_AUTO_READ_MODE CMD_PASS
  if status < 0 then pure EINVAL
  else
    let flashCapacity ← readFlashCapacity
    if flashCapacity = 0 then pure EINVAL
    else
      match ← requestFirmware (metadataFlashContent.getD adapter.coexMode "") with
      | none => pure EINVAL
      | some image =>
        let header ← adapter.blWriteHeader image.data
        if header ≠ 0 then fail
        else
          let differs ← adapter.crcDiffers
          if differs then adapter.fwUpgrade flashCapacity image
          else
            let polling ← adapter.blCmd POLLING_MODE CMD_PASS
            if polling < 0 then fail else adapter.loadImageCmd

/-- `flash_data_start`, which is read with `CONFIG_RS9116_FLASH_MODE` only -/
def readFlashStart : Host (Option (BitVec 32)) :=
  if adapter.flashMode then
    masterRegRead (if (adapter.coexMode : ℕ) = 2 then RSI_FLASH_READ_COEX_IMAGE
      else RSI_FLASH_READ_WLAN_IMAGE)
  else pure (some 0)

/-- `bl_cmd_fail` -/
def blCmdFail : Host ℤ := do
  blStopCmdTimer
  pure EINVAL

/-- `rsi_load_firmware` -/
def loadFirmware : Host ℤ := do
  let checks ← blStartCmdTimer BL_CMD_TIMEOUT
  match ← adapter.readFlashStart with
  | none => blCmdFail
  | some flashDataStart =>
    match ← pollRegister SWBL_REGOUT regoutValid 0 checks with
    | none | some (0, _) => blCmdFail
    | some (_ + 1, _) =>
      blStopCmdTimer
      let status ← masterRegWrite SWBL_REGOUT (REGOUT_INVALID ||| REGOUT_INVALID <<< 8) 2
      if status < 0 then pure EINVAL
      else if adapter.devModel9116 then
        if adapter.flashMode then
          if adapter.flashOnly then adapter.loadFlashOnly flashDataStart
          else adapter.loadFlash9116 flashDataStart
        else adapter.loadRam9116
      else adapter.loadFirmware9113

end Adapter

/-! ## The mailbox -/

section Statements

variable {σ : Type} {step : σ → Event signature → Option σ} {s : σ}

@[simp]
theorem ensures_kzalloc {post : Bool → σ → Prop} :
    Ensures step s kzalloc post ↔
      ∀ found : Bool, ∃ s', step s ⟨.kzalloc, found⟩ = some s' ∧ post found s' :=
  Iff.rfl

@[simp]
theorem ensures_requestFirmware {name : String} {post : Option FwImage → σ → Prop} :
    Ensures step s (requestFirmware name) post ↔
      ∀ image : Option FwImage, ∃ s', step s ⟨.requestFirmware name, image⟩ = some s' ∧
        post image s' :=
  Iff.rfl

@[simp]
theorem ensures_releaseFirmware {post : Unit → σ → Prop} :
    Ensures step s releaseFirmware post ↔
      ∃ s', step s ⟨.releaseFirmware, ()⟩ = some s' ∧ post () s' :=
  ⟨fun h => h (), fun h _ => h⟩

@[simp]
theorem ensures_load9116Firmware {post : ℤ → σ → Prop} :
    Ensures step s load9116Firmware post ↔
      ∀ status : ℤ, ∃ s', step s ⟨.load9116Firmware, status⟩ = some s' ∧ post status s' :=
  Iff.rfl

end Statements

/-- A read of another register -/
theorem masterRegRead_watched {addr : BitVec 32} (hin : addr ≠ SWBL_REGIN)
    (hout : addr ≠ SWBL_REGOUT) :
    Ensures Mail.step (.quiet false) (masterRegRead addr) fun _ mail' => mail' = .quiet false := by
  intro val
  refine ⟨.quiet false, ?_, rfl⟩
  simp [Mail.step, Mail.unanswered, hin, hout]

namespace Adapter

variable (adapter : Adapter)

/-- A header is written while no command is unanswered. -/
theorem writeHeader_watched (addr : BitVec 32) (header : List (BitVec 8)) :
    Ensures Mail.step (.quiet false) (adapter.writeHeader addr header)
      fun _ mail' => mail' = .quiet false := by
  have hwrite (addr' : BitVec 32) : Ensures Mail.step (.quiet false)
      (writeRegMultiple addr' header >>= fun status =>
        pure (if status < 0 then EINVAL else 0)) fun _ mail' => mail' = .quiet false := by
    rw [ensures_bind]
    exact fun status => ⟨.quiet false, rfl, rfl⟩
  rw [writeHeader]
  split
  · rw [ensures_bind, ensures_masterAccessMsword]
    refine fun status => ⟨.quiet false, rfl, ?_⟩
    split
    · rfl
    · exact hwrite _
  · exact hwrite _

theorem blWriteHeader_watched (image : ByteMemory) :
    Ensures Mail.step (.quiet false) (adapter.blWriteHeader image)
      fun _ mail' => mail' = .quiet false := by
  have halloc (addr : BitVec 32) (header : List (BitVec 8)) : Ensures Mail.step (.quiet false)
      (kzalloc >>= fun found => if found then adapter.writeHeader addr header else pure ENOMEM)
      fun _ mail' => mail' = .quiet false := by
    rw [ensures_bind, ensures_kzalloc]
    refine fun found => ⟨.quiet false, rfl, ?_⟩
    split
    · exact adapter.writeHeader_watched ..
    · rfl
  rw [blWriteHeader]
  split_ifs
  · exact halloc _ _
  · exact adapter.writeHeader_watched ..
  · exact halloc _ _

/-- Behind `CHECK_CRC` a command may be unanswered, but not if the images differ. -/
theorem crcDiffers_watched (mail : Mail) (h : mail.unanswered = false) :
    Ensures Mail.step mail adapter.crcDiffers
      fun differs mail' => differs = true → mail' = .quiet false := by
  simp only [crcDiffers, ensures_bind, ensures_blStartCmdTimer]
  refine fun checks => ⟨mail, rfl, ?_⟩
  refine (adapter.blWriteCmd_watched (fun hmail => ?_) CMD_PASS 0 checks).mono
    fun result mail' hw => ?_
  · rw [h] at hmail
    exact Bool.noConfusion hmail
  refine ensures_blStopCmdTimer.2 ⟨mail', rfl, ?_⟩
  split_ifs with hneg hfail
  · -- a response was taken, as the variable was 0 before
    refine fun _ => hw.taken.resolve_left fun hzero => ?_
    rw [hzero] at hfail
    exact absurd hfail (by decide)
  · rw [ensures_bind]
    exact ensures_blStopCmdTimer.2 ⟨mail', rfl, fun h => Bool.noConfusion h⟩
  · exact fun h => Bool.noConfusion h

theorem checkCrc_watched :
    Ensures Mail.step (.quiet false) adapter.checkCrc
      fun status mail' => status ≠ 0 → mail' = .quiet false := by
  rw [checkCrc, ensures_bind, ensures_masterRegWrite]
  refine fun status => ⟨.quiet false, rfl, ?_⟩
  split_ifs
  · exact fun _ => rfl
  · rw [ensures_bind]
    refine (adapter.crcDiffers_watched _ rfl).mono fun differs mail' hdiffers => ?_
    cases differs with
    | true => exact fun _ => hdiffers rfl
    | false => exact fun h => absurd rfl h

/-- The commands that start a firmware, or stop an upgrade, may be issued in any state. -/
theorem blCmd_watched_of_mayInterrupt (mail : Mail) {cmd : Char}
    (h : Mail.mayInterrupt (BitVec.ofNat 8 cmd.toNat) = true) (expResp : Char) :
    Ensures Mail.step mail (adapter.blCmd cmd expResp) fun _ _ => True :=
  (adapter.blCmd_watched (fun _ => h) expResp).mono fun _ _ _ => trivial

theorem load9116FlashFw_watched (mail : Mail) :
    Ensures Mail.step mail adapter.load9116FlashFw fun _ _ => True := by
  rw [load9116FlashFw, ensures_bind, ensures_masterRegWrite]
  refine fun status => ⟨.quiet mail.unanswered, rfl, ?_⟩
  split_ifs
  · trivial
  · rw [ensures_bind]
    exact (adapter.blCmd_watched_of_mayInterrupt _ (by decide) _).mono fun _ _ _ => trivial

theorem fail_watched (mail : Mail) : Ensures Mail.step mail fail fun _ _ => True :=
  fun _ => ⟨mail, rfl, trivial⟩

theorem success_watched (mail : Mail) : Ensures Mail.step mail success fun _ _ => True :=
  fun _ => ⟨mail, rfl, trivial⟩

theorem loadFlashOnly_watched (flashDataStart : BitVec 32) :
    Ensures Mail.step (.quiet false) (adapter.loadFlashOnly flashDataStart) fun _ _ => True := by
  rw [loadFlashOnly]
  split_ifs with hmagic hsdio
  · rw [ensures_bind]
    exact adapter.load9116FlashFw_watched _
  · rw [ensures_bind]
    refine (adapter.load9116FlashFw_watched _).mono fun _ mail' _ => ?_
    rw [ensures_bind]
    exact (adapter.blCmd_watched_of_mayInterrupt mail' (by decide) _).mono fun _ _ _ => trivial
  · trivial

theorem startFlash9116_watched (mail : Mail) :
    Ensures Mail.step mail adapter.startFlash9116 fun _ _ => True := by
  rw [startFlash9116, ensures_bind]
  exact (adapter.load9116FlashFw_watched mail).mono fun _ mail' _ _ => ⟨mail', rfl, trivial⟩

theorem upgradeFlash9116_watched (image : FwImage) :
    Ensures Mail.step (.quiet false) (adapter.upgradeFlash9116 image) fun _ _ => True := by
  rw [upgradeFlash9116, ensures_bind]
  refine (adapter.blCmd_watched_of_rest BURN_HOSTED_FW _).mono fun status mail' hstatus => ?_
  split_ifs with hneg
  · exact fail_watched _
  obtain rfl := hstatus (Int.not_lt.1 hneg)
  rw [ensures_bind]
  refine (adapter.autoFwUpgrade_watched ..).mono fun upgraded mail' _ => ?_
  split_ifs
  · exact fail_watched _
  rw [ensures_bind]
  refine (adapter.blCmd_watched_of_mayInterrupt mail' (by decide) _).mono fun polling mail' _ => ?_
  split_ifs
  · exact fail_watched _
  · exact adapter.startFlash9116_watched _

theorem loadFlash9116_watched (flashDataStart : BitVec 32) :
    Ensures Mail.step (.quiet false) (adapter.loadFlash9116 flashDataStart) fun _ _ => True := by
  rw [loadFlash9116, ensures_bind, ensures_requestFirmware]
  refine fun image => ⟨.quiet false, rfl, ?_⟩
  cases image with
  | none => trivial
  | some image =>
    dsimp only
    rw [ensures_bind]
    refine (adapter.blWriteHeader_watched _).mono fun checked mail' hmail => ?_
    subst hmail
    split_ifs
    · trivial
    · rw [ensures_bind]
      refine adapter.checkCrc_watched.mono fun differs mail' hdiffers => ?_
      split_ifs with hequal
      · rw [hdiffers hequal]
        exact adapter.upgradeFlash9116_watched _
      · exact adapter.startFlash9116_watched _
    · exact fail_watched _
    · exact adapter.upgradeFlash9116_watched _

theorem loadRam9116_watched :
    Ensures Mail.step (.quiet false) adapter.loadRam9116 fun _ _ => True := by
  rw [loadRam9116]
  split_ifs
  · exact fun status => ⟨.quiet false, rfl, trivial⟩
  rw [ensures_bind]
  refine (adapter.blCmd_watched_of_rest POLLING_MODE _).mono fun polling mail' hpolling => ?_
  split_ifs with hneg
  · trivial
  obtain rfl := hpolling (Int.not_lt.1 hneg)
  rw [ensures_bind, ensures_load9116Firmware]
  refine fun status => ⟨.quiet false, rfl, ?_⟩
  rw [ensures_bind]
  exact (adapter.blCmd_watched_of_rest JUMP_TO_ZERO_PC _).mono fun _ _ _ => trivial

theorem loadImageCmd_watched (mail : Mail) :
    Ensures Mail.step mail adapter.loadImageCmd fun _ _ => True := by
  rw [loadImageCmd, ensures_bind]
  refine (adapter.blCmd_watched_of_mayInterrupt mail (by decide) _).mono fun status mail' _ => ?_
  split_ifs
  · exact fail_watched _
  · exact success_watched _

theorem fwUpgrade_watched (flashCapacity : BitVec 32) (image : FwImage) :
    Ensures Mail.step (.quiet false) (adapter.fwUpgrade flashCapacity image) fun _ _ => True := by
  rw [fwUpgrade, ensures_bind]
  refine (adapter.blCmd_watched_of_rest BURN_HOSTED_FW _).mono fun status mail' hstatus => ?_
  split_ifs with hneg
  · exact fail_watched _
  obtain rfl := hstatus (Int.not_lt.1 hneg)
  rw [ensures_bind]
  refine (adapter.autoFwUpgrade_watched ..).mono fun upgraded mail' _ => ?_
  split_ifs
  · exact adapter.loadImageCmd_watched _
  rw [ensures_bind]
  refine (adapter.blCmd_watched_of_mayInterrupt mail' (by decide) _).mono fun status mail' _ => ?_
  split_ifs
  · exact fail_watched _
  · exact success_watched _

theorem loadFirmware9113_watched :
    Ensures Mail.step (.quiet false) adapter.loadFirmware9113 fun _ _ => True := by
  rw [loadFirmware9113, ensures_bind]
  refine (adapter.blCmd_watched_of_rest CONFIG_AUTO_READ_MODE _).mono
    fun status mail' hstatus => ?_
  split_ifs with hneg
  · trivial
  obtain rfl := hstatus (Int.not_lt.1 hneg)
  rw [ensures_bind]
  have hcapacity : Ensures Mail.step (.quiet false) readFlashCapacity
      fun _ mail' => mail' = .quiet false := by
    rw [readFlashCapacity, ensures_bind]
    refine (masterRegRead_watched (by decide) (by decide)).mono fun val mail' hmail => ?_
    cases val <;> exact hmail
  refine hcapacity.mono fun flashCapacity mail' hmail => ?_
  subst hmail
  split_ifs
  · trivial
  rw [ensures_bind, ensures_requestFirmware]
  refine fun image => ⟨.quiet false, rfl, ?_⟩
  cases image with
  | none => trivial
  | some image =>
    dsimp only
    rw [ensures_bind]
    refine (adapter.blWriteHeader_watched _).mono fun header mail' hmail => ?_
    subst hmail
    split_ifs
    · exact fail_watched _
    rw [ensures_bind]
    refine (adapter.crcDiffers_watched _ rfl).mono fun differs mail' hdiffers => ?_
    split_ifs with hequal
    · rw [hdiffers hequal]
      exact adapter.fwUpgrade_watched _ _
    · rw [ensures_bind]
      refine (adapter.blCmd_watched_of_mayInterrupt mail' (by decide) _).mono
        fun polling mail' _ => ?_
      split_ifs
      · exact fail_watched _
      · exact adapter.loadImageCmd_watched _

/-- **The mailbox is used in order in every run**, whatever the device answers: a command goes to a
register that was found free, a response is taken once it was found, and no buffer or header is
written, and nothing else but the start of a firmware requested, while a command is unanswered. -/
theorem loadFirmware_watched :
    Ensures Mail.step (.quiet false) adapter.loadFirmware fun _ _ => True := by
  have hend (mail : Mail) : Ensures Mail.step mail blCmdFail fun _ _ => True :=
    fun _ => ⟨mail, rfl, trivial⟩
  rw [loadFirmware, ensures_bind, ensures_blStartCmdTimer]
  refine fun checks => ⟨.quiet false, rfl, ?_⟩
  rw [ensures_bind]
  have hstart : Ensures Mail.step (.quiet false) adapter.readFlashStart
      fun _ mail' => mail' = .quiet false := by
    rw [readFlashStart]
    split_ifs
    · exact masterRegRead_watched (by decide) (by decide)
    · exact masterRegRead_watched (by decide) (by decide)
    · rfl
  refine hstart.mono fun flashDataStart mail' hmail => ?_
  subst hmail
  cases flashDataStart with
  | none => exact hend _
  | some flashDataStart =>
    dsimp only
    rw [ensures_bind]
    refine (pollRegout_watched _ 0 checks).mono fun polled mail' hpolled => ?_
    obtain _ | ⟨_ | left, val⟩ := polled
    · exact hend _
    · exact hend _
    obtain rfl := hpolled left val rfl
    dsimp only
    rw [ensures_bind]
    refine ensures_blStopCmdTimer.2 ⟨.answered, rfl, ?_⟩
    rw [ensures_bind, ensures_masterRegWrite]
    refine fun status => ⟨.quiet false, by simp [Mail.step, SWBL_REGIN, SWBL_REGOUT], ?_⟩
    split_ifs
    · trivial
    · exact adapter.loadFlashOnly_watched _
    · exact adapter.loadFlash9116_watched _
    · exact adapter.loadRam9116_watched
    · exact adapter.loadFirmware9113_watched

end Adapter

end BootLoader
