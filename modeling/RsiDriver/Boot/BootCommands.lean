import RsiDriver.Boot.LoadFirmware

/-!
# What the boot loader is told

`rsi_load_firmware` (`rsi_91x_hal.c`) returns 0 if it has told the boot loader to start the firmware.
The commands of a run are those that it has written to `SWBL_REGIN`. For an RS9113 there are three
kinds of success; in one of them an upgrade has failed.

## Main results

* `autoFwUpgrade_issues`: the commands of an upgrade, up to a failure;
* `loadFirmware_log`: the commands of a run that returns 0.
-/

namespace BootLoader

open Boot (EINVAL ENOMEM DeviceModel FwImage)
open Interaction Program
open SecureLoad (BankCmd PING_VALID PONG_VALID EOF_REACHED SEND_RPS_FILE CMD_PASS)
open MasterReg (FLASH_SIZE_ADDR)
open FlashUpgrade (FLASH_WRITE_CHUNK_SIZE FW_LOADING_SUCCESSFUL)

/-- A command as a byte -/
def code (cmd : Char) : BitVec 8 := BitVec.ofNat 8 cmd.toNat

/-- The firmware file that was found, and the commands that were written to `SWBL_REGIN` -/
structure Log where
  file : Option FwImage
  codes : List (BitVec 8)

namespace Log

def step (log : Log) : Event signature → Option Log
  | ⟨.requestFirmware _, (image : Option FwImage)⟩ => some { log with file := image }
  | ⟨.masterRegWrite addr data _, _⟩ =>
    some { log with
      codes := if addr = SWBL_REGIN then log.codes ++ [data.setWidth 8] else log.codes }
  | _ => some log

/-- Some of the commands were issued, all of them in the case of a success. -/
def Issues (codes : List (BitVec 8)) (log : Log) (status : ℤ) (log' : Log) : Prop :=
  ∃ new, log' = { log with codes := log.codes ++ new } ∧ new <+: codes ∧
    (0 ≤ status → new = codes)

variable {log log' log'' : Log} {codes codes' : List (BitVec 8)} {status status' : ℤ}

theorem issues_nil (log : Log) (status : ℤ) : Issues [] log status log :=
  ⟨[], by simp, List.prefix_rfl, fun _ => rfl⟩

/-- Nothing is issued behind a failure. -/
theorem Issues.fails (h : Issues codes log status log') (hfail : status' < 0)
    (codes' : List (BitVec 8)) : Issues (codes ++ codes') log status' log' := by
  obtain ⟨new, hnew, hprefix, -⟩ := h
  exact ⟨new, hnew, hprefix.trans (List.prefix_append _ _),
    fun hle => absurd hfail (Int.not_lt.2 hle)⟩

/-- Behind a success follow other commands. -/
theorem Issues.append (h : Issues codes log status log') (hok : 0 ≤ status)
    (h' : Issues codes' log' status' log'') : Issues (codes ++ codes') log status' log'' := by
  obtain ⟨new, rfl, -, hnew⟩ := h
  obtain ⟨new', rfl, hprefix, hnew'⟩ := h'
  obtain rfl := hnew hok
  refine ⟨new ++ new', by simp, (List.prefix_append_right_inj _).2 hprefix, fun hle => ?_⟩
  rw [hnew' hle]

theorem Issues.of_ok (h : Issues codes log status log') (hok : 0 ≤ status) :
    log' = { log with codes := log.codes ++ codes } := by
  obtain ⟨new, rfl, -, hnew⟩ := h
  rw [hnew hok]

/-- Reads leave the log alone. -/
theorem pollRegister_log (log : Log) (addr : BitVec 32) (wanted : BitVec 32 → Bool)
    (val : BitVec 32) (checks : ℕ) :
    Ensures step log (pollRegister addr wanted val checks) fun _ log' => log' = log := by
  have hreads : Uses (S := signature) (Eq (.masterRegRead addr))
      (pollRegister addr wanted val checks) := pollRegister_uses rfl wanted val checks
  refine hreads.ensures_eq ?_
  rintro _ _ rfl
  rfl

end Log

theorem awaitResponse_log (log : Log) (cmd expResp : Char) (cmdResp : BitVec 16) (checks : ℕ) :
    Ensures Log.step log (awaitResponse cmd expResp cmdResp checks) fun _ log' => log' = log := by
  rw [awaitResponse, ensures_bind]
  refine (Log.pollRegister_log log _ _ _ _).mono fun polled _ hpolled => ?_
  obtain rfl := hpolled.symm
  obtain _ | ⟨_ | left, val⟩ := polled
  · rfl
  · rfl
  dsimp only
  rw [ensures_bind, ensures_masterRegWrite]
  intro status
  refine ⟨_, rfl, ?_⟩
  rw [if_neg (by decide)]
  split_ifs <;> rfl

namespace Adapter

variable (adapter : Adapter)

/-- Either the command is issued, or nothing comes of it. -/
theorem blWriteCmd_log (log : Log) (cmd expResp : Char) (cmdResp : BitVec 16) (checks : ℕ) :
    Ensures Log.step log (adapter.blWriteCmd cmd expResp cmdResp checks) fun result log' =>
      log' = log ∧ result = (EINVAL, cmdResp) ∨
        log' = { log with codes := log.codes ++ [code cmd] } := by
  rw [blWriteCmd, ensures_bind]
  refine (Log.pollRegister_log log _ _ _ _).mono fun polled _ hpolled => ?_
  obtain rfl := hpolled.symm
  obtain _ | ⟨_ | left, val⟩ := polled
  · exact .inl ⟨rfl, rfl⟩
  · exact .inl ⟨rfl, rfl⟩
  dsimp only
  rw [ensures_bind, ensures_masterRegWrite]
  intro status
  refine ⟨_, rfl, ?_⟩
  rw [if_pos rfl, setWidth_reginWord]
  split_ifs
  · exact .inr rfl
  · exact .inr rfl
  · exact (awaitResponse_log _ _ _ _ _).mono fun _ _ hresult => .inr hresult

theorem blCmd_issues (log : Log) (cmd expResp : Char) :
    Ensures Log.step log (adapter.blCmd cmd expResp) (Log.Issues [code cmd] log) := by
  simp only [blCmd, ensures_bind, ensures_blStartCmdTimer]
  refine fun checks => ⟨log, rfl, ?_⟩
  refine (adapter.blWriteCmd_log log cmd expResp 0 checks).mono fun result log' hresult => ?_
  refine ensures_blStopCmdTimer.2 ⟨log', rfl, ?_⟩
  rw [ensures_pure]
  obtain ⟨rfl, rfl⟩ | rfl := hresult
  · exact (Log.issues_nil _ 0).fails EINVAL_neg [code cmd]
  · exact ⟨[code cmd], rfl, List.prefix_rfl, fun _ => rfl⟩

/-- The command for a buffer -/
def bankCode : BankCmd → BitVec 8
  | .pingWrite => code PING_VALID
  | .pongWrite => code PONG_VALID

theorem bankCmd_issues (log : Log) (cmd : BankCmd) :
    Ensures Log.step log (adapter.bankCmd cmd) (Log.Issues [bankCode cmd] log) := by
  cases cmd with
  | pingWrite => exact adapter.blCmd_issues log _ _
  | pongWrite => exact adapter.blCmd_issues log _ _

theorem checkedCmd_issues {log : Log} {cmd : Host ℤ} {codes : List (BitVec 8)}
    (h : Ensures Log.step log cmd (Log.Issues codes log)) :
    Ensures Log.step log
      (cmd >>= fun status => if status < 0 then blStopCmdTimer >>= fun _ => pure EINVAL else pure 0)
      (Log.Issues codes log) := by
  rw [ensures_bind]
  refine h.mono fun status log' hstatus => ?_
  split_ifs with hneg
  · rw [ensures_bind]
    exact ensures_blStopCmdTimer.2 ⟨log', rfl, by simpa using hstatus.fails EINVAL_neg []⟩
  · obtain ⟨new, hnew, hprefix, hall⟩ := hstatus
    exact ⟨new, hnew, hprefix, fun _ => hall (Int.not_lt.1 hneg)⟩

theorem pingPongWrite_issues (log : Log) (image : ByteMemory) (cmd : BankCmd) (addr size : ℕ) :
    Ensures Log.step log (adapter.pingPongWrite image cmd addr size)
      (Log.Issues [bankCode cmd] log) := by
  rw [pingPongWrite, ensures_bind, ensures_loadDataMasterWrite]
  refine fun written => ⟨log, rfl, ?_⟩
  split_ifs
  · exact (Log.issues_nil log 0).fails EINVAL_neg [bankCode cmd]
  · exact checkedCmd_issues (adapter.bankCmd_issues log cmd)

/-- The commands for chunks that go to the buffers in turn -/
def bankCodes : BankCmd → List (List (BitVec 8)) → List (BitVec 8)
  | _, [] => []
  | cmd, _ :: chunks => bankCode cmd :: bankCodes cmd.next chunks

/-- The commands of the loop over the chunks that are left -/
theorem flashLoop_issues (log : Log) (image : ByteMemory) {size index : ℕ} (n : ℕ)
    (hn : index + n = size / FLASH_WRITE_CHUNK_SIZE) :
    Ensures Log.step log
      (adapter.flashLoop image size (size / FLASH_WRITE_CHUNK_SIZE) (n + 1) index
        (index * FLASH_WRITE_CHUNK_SIZE))
      (Log.Issues (bankCodes (FlashUpgrade.Host.cmdAt index)
        (FlashUpgrade.chunksFrom image size index n)) log) := by
  induction n generalizing index log with
  | zero =>
    -- the last round: what remains, or nothing
    have hindex : index = size / FLASH_WRITE_CHUNK_SIZE := hn
    have hchunks : FlashUpgrade.chunksFrom image size index 0 =
        FlashUpgrade.lastChunk image size := rfl
    have hround : roundSize size index index = size % FLASH_WRITE_CHUNK_SIZE :=
      if_neg (not_not.2 rfl)
    rw [flashLoop, ← hindex, hround, hchunks, FlashUpgrade.lastChunk]
    simp only [true_and]
    split_ifs with hrest
    · exact Log.issues_nil log 0
    · rw [ensures_bind]
      refine (adapter.pingPongWrite_issues log image _ _ _).mono fun status log' hstatus => ?_
      split_ifs with hfail
      · exact hstatus.fails EINVAL_neg []
      · rw [not_not] at hfail
        subst hfail
        exact hstatus
  | succ n ih =>
    have hindex : index ≠ size / FLASH_WRITE_CHUNK_SIZE := by omega
    have hchunks : FlashUpgrade.chunksFrom image size index (n + 1) =
        FlashUpgrade.wholeChunk image index ::
          FlashUpgrade.chunksFrom image size (index + 1) n := by
      rw [FlashUpgrade.chunksFrom, List.range'_succ]
      rfl
    have hround : roundSize size (size / FLASH_WRITE_CHUNK_SIZE) index = FLASH_WRITE_CHUNK_SIZE :=
      if_pos hindex
    rw [flashLoop, hround, hchunks, bankCodes, FlashUpgrade.next_cmdAt]
    rw [if_neg (fun h => hindex h.1), ensures_bind]
    refine (adapter.pingPongWrite_issues log image _ _ _).mono fun status log' hstatus => ?_
    split_ifs with hfail
    · exact hstatus.fails EINVAL_neg _
    · rw [not_not] at hfail
      subst hfail
      rw [← Nat.add_one_mul]
      refine (ih log' (by omega)).mono fun status' log'' hrest => ?_
      exact hstatus.append le_rfl hrest

/-- The commands of an upgrade: one for each chunk, and the end of the file -/
def upgradeCodes (image : FwImage) : List (BitVec 8) :=
  bankCodes .pongWrite
      (FlashUpgrade.chunksOf image.data (BitVec.ofNat 32 image.size : BitVec 32).toNat) ++
    [code EOF_REACHED]

theorem autoFwUpgrade_issues (log : Log) (flashCapacity : BitVec 32) (image : FwImage) :
    Ensures Log.step log
      (adapter.autoFwUpgrade flashCapacity image.data (BitVec.ofNat 32 image.size))
      (Log.Issues (upgradeCodes image) log) := by
  have hrefused : Log.Issues (upgradeCodes image) log EINVAL log :=
    (Log.issues_nil log 0).fails EINVAL_neg _
  rw [autoFwUpgrade]
  dsimp only
  split_ifs
  · exact hrefused
  · exact hrefused
  · exact hrefused
  · exact hrefused
  rw [ensures_bind, ← Nat.zero_mul FLASH_WRITE_CHUNK_SIZE]
  refine (adapter.flashLoop_issues log image.data _ (Nat.zero_add _)).mono
    fun loaded log' hloaded => ?_
  split_ifs with hfail
  · exact hloaded.fails EINVAL_neg _
  · rw [not_not] at hfail
    subst hfail
    refine (checkedCmd_issues (adapter.blCmd_issues log' EOF_REACHED _)).mono
      fun status log'' hend => ?_
    exact hloaded.append le_rfl hend

/-- Programs that use no register leave the commands alone. -/
theorem blWriteHeader_log (log : Log) (image : ByteMemory) :
    Ensures Log.step log (adapter.blWriteHeader image) fun _ log' => log' = log := by
  have hwrite (addr : BitVec 32) (header : List (BitVec 8)) : Ensures Log.step log
      (adapter.writeHeader addr header) fun _ log' => log' = log := by
    rw [writeHeader]
    split_ifs
    · rw [ensures_bind, ensures_masterAccessMsword]
      refine fun status => ⟨log, rfl, ?_⟩
      split_ifs
      · rfl
      · rw [ensures_bind, ensures_writeRegMultiple]
        exact fun status => ⟨log, rfl, rfl⟩
    · rw [ensures_bind, ensures_writeRegMultiple]
      exact fun status => ⟨log, rfl, rfl⟩
  have halloc (addr : BitVec 32) (header : List (BitVec 8)) : Ensures Log.step log
      (kzalloc >>= fun found => if found then adapter.writeHeader addr header else pure ENOMEM)
      fun _ log' => log' = log := by
    rw [ensures_bind, ensures_kzalloc]
    refine fun found => ⟨log, rfl, ?_⟩
    split_ifs
    · exact hwrite _ _
    · rfl
  rw [blWriteHeader]
  split_ifs
  · exact halloc _ _
  · exact hwrite _ _
  · exact halloc _ _

/-- The images differ only if `CHECK_CRC` was issued. -/
theorem crcDiffers_log (log : Log) :
    Ensures Log.step log adapter.crcDiffers fun differs log' =>
      log' = { log with codes := log.codes ++ [code CHECK_CRC] } ∨
        log' = log ∧ differs = false := by
  simp only [crcDiffers, ensures_bind, ensures_blStartCmdTimer]
  refine fun checks => ⟨log, rfl, ?_⟩
  refine (adapter.blWriteCmd_log log _ _ 0 checks).mono fun result log' hresult => ?_
  refine ensures_blStopCmdTimer.2 ⟨log', rfl, ?_⟩
  split_ifs with hneg hfail
  · refine .inl (hresult.resolve_left ?_)
    rintro ⟨-, rfl⟩
    exact absurd hfail (by decide)
  · rw [ensures_bind]
    exact ensures_blStopCmdTimer.2 ⟨log', rfl, hresult.symm.imp_right fun h => ⟨h.1, rfl⟩⟩
  · exact hresult.symm.imp_right fun h => ⟨h.1, rfl⟩

/-- What the boot loader of an RS9113 was told in a run that succeeds: to start the image in flash,
to replace it and to start it, or to stop an upgrade that has failed. -/
inductive Told (image : FwImage) : List (BitVec 8) → Prop
  | started {check : List (BitVec 8)} : check <+: [code CHECK_CRC] →
    Told image ([code CONFIG_AUTO_READ_MODE] ++ check ++ [code POLLING_MODE, code LOAD_HOSTED_FW])
  | upgraded : Told image
    ([code CONFIG_AUTO_READ_MODE, code CHECK_CRC, code BURN_HOSTED_FW] ++ upgradeCodes image ++
      [code LOAD_HOSTED_FW])
  | abandoned {part : List (BitVec 8)} : part <+: upgradeCodes image → Told image
    ([code CONFIG_AUTO_READ_MODE, code CHECK_CRC, code BURN_HOSTED_FW] ++ part ++
      [code CONFIG_AUTO_READ_MODE])

theorem loadImageCmd_log (log : Log) :
    Ensures Log.step log adapter.loadImageCmd fun status log' =>
      status = 0 → log' = { log with codes := log.codes ++ [code LOAD_HOSTED_FW] } := by
  rw [loadImageCmd, ensures_bind]
  refine (adapter.blCmd_issues log _ _).mono fun status log' hstatus => ?_
  split_ifs with hneg
  · exact fun _ => ⟨log', rfl, fun hzero => absurd hzero EINVAL_ne_zero⟩
  · exact fun _ => ⟨log', rfl, fun _ => hstatus.of_ok (Int.not_lt.1 hneg)⟩

/-- An upgrade that succeeds, or that has failed and was stopped -/
theorem fwUpgrade_log (log : Log) (flashCapacity : BitVec 32) (image : FwImage) :
    Ensures Log.step log (adapter.fwUpgrade flashCapacity image) fun status log' =>
      status = 0 → log'.file = log.file ∧
        (log'.codes = log.codes ++ ([code BURN_HOSTED_FW] ++ upgradeCodes image ++
            [code LOAD_HOSTED_FW]) ∨
          ∃ part, part <+: upgradeCodes image ∧ log'.codes =
            log.codes ++ ([code BURN_HOSTED_FW] ++ part ++ [code CONFIG_AUTO_READ_MODE])) := by
  rw [fwUpgrade, ensures_bind]
  refine (adapter.blCmd_issues log _ _).mono fun status log' hburn => ?_
  split_ifs with hneg
  · exact fun _ => ⟨log', rfl, fun hzero => absurd hzero EINVAL_ne_zero⟩
  obtain rfl := hburn.of_ok (Int.not_lt.1 hneg)
  rw [ensures_bind]
  refine (adapter.autoFwUpgrade_issues _ _ _).mono fun upgraded log' hupgrade => ?_
  split_ifs with hzero
  · obtain rfl := hupgrade.of_ok (by omega)
    refine (adapter.loadImageCmd_log _).mono fun status log' hload hstatus => ?_
    rw [hload hstatus]
    exact ⟨rfl, .inl (by simp)⟩
  · obtain ⟨part, rfl, hpart, -⟩ := hupgrade
    rw [ensures_bind]
    refine (adapter.blCmd_issues _ _ _).mono fun status log' hread => ?_
    split_ifs with hneg'
    · exact fun _ => ⟨log', rfl, fun hzero => absurd hzero EINVAL_ne_zero⟩
    obtain rfl := hread.of_ok (Int.not_lt.1 hneg')
    exact fun _ => ⟨_, rfl, fun _ => ⟨rfl, .inr ⟨part, hpart, by simp⟩⟩⟩

/-- A run that succeeds told the boot loader one of these lists of commands. -/
def Succeeds (log : Log) (status : ℤ) (log' : Log) : Prop :=
  status = 0 → ∃ image codes, log'.file = some image ∧ log'.codes = log.codes ++ codes ∧
    Told image codes

theorem succeeds_of_fails (log log' : Log) : Succeeds log EINVAL log' :=
  fun hzero => absurd hzero EINVAL_ne_zero

theorem readFlashCapacity_log (log : Log) :
    Ensures Log.step log readFlashCapacity fun _ log' => log' = log := by
  rw [readFlashCapacity, ensures_bind, ensures_masterRegRead]
  intro val
  refine ⟨log, rfl, ?_⟩
  cases val <;> rfl

theorem loadFirmware9113_log (log : Log) :
    Ensures Log.step log adapter.loadFirmware9113 (Succeeds log) := by
  have hfail (log' : Log) : Ensures Log.step log' fail (Succeeds log) :=
    fun _ => ⟨log', rfl, succeeds_of_fails log log'⟩
  rw [loadFirmware9113, ensures_bind]
  refine (adapter.blCmd_issues log _ _).mono fun status log' hread => ?_
  split_ifs with hneg
  · exact succeeds_of_fails _ _
  obtain rfl := hread.of_ok (Int.not_lt.1 hneg)
  rw [ensures_bind]
  refine (readFlashCapacity_log _).mono fun flashCapacity log' hcapacity => ?_
  subst hcapacity
  split_ifs
  · exact succeeds_of_fails _ _
  rw [ensures_bind, ensures_requestFirmware]
  intro image
  refine ⟨_, rfl, ?_⟩
  cases image with
  | none => exact succeeds_of_fails _ _
  | some image =>
    dsimp only
    rw [ensures_bind]
    refine (adapter.blWriteHeader_log _ _).mono fun header log' hheader => ?_
    subst hheader
    split_ifs
    · exact hfail _
    rw [ensures_bind]
    refine (adapter.crcDiffers_log _).mono fun differs log' hdiffers => ?_
    split_ifs with hdiffer
    · -- the image is replaced
      obtain rfl := hdiffers.resolve_right fun h => absurd hdiffer (by simp [h.2])
      refine (adapter.fwUpgrade_log _ _ _).mono fun status log' hupgrade hzero => ?_
      obtain ⟨hfile, hcodes | ⟨part, hpart, hcodes⟩⟩ := hupgrade hzero
      · exact ⟨image, _, hfile, by rw [hcodes]; simp, .upgraded⟩
      · exact ⟨image, _, hfile, by rw [hcodes]; simp, .abandoned hpart⟩
    · rw [ensures_bind]
      refine (adapter.blCmd_issues _ _ _).mono fun polling log'' hpolling => ?_
      split_ifs with hneg'
      · exact hfail _
      obtain rfl := hpolling.of_ok (Int.not_lt.1 hneg')
      refine (adapter.loadImageCmd_log _).mono fun status log'' hload hzero => ?_
      rw [hload hzero]
      obtain rfl | ⟨rfl, -⟩ := hdiffers
      · exact ⟨image, _, rfl, by simp, .started List.prefix_rfl⟩
      · exact ⟨image, _, rfl, by simp, .started List.nil_prefix⟩

/-- **What an RS9113 was told in a run that returns 0**: the image in flash is started, be it the
one that was there or the new one, unless an upgrade has failed; then the last command is
`CONFIG_AUTO_READ_MODE`, and nothing is started. -/
theorem loadFirmware_log (hmodel : adapter.deviceModel = .dev9113) :
    Ensures Log.step ⟨none, []⟩ adapter.loadFirmware (Succeeds ⟨none, []⟩) := by
  have hend (log : Log) : Ensures Log.step log blCmdFail (Succeeds ⟨none, []⟩) :=
    fun _ => ⟨log, rfl, succeeds_of_fails _ log⟩
  rw [loadFirmware, ensures_bind, ensures_blStartCmdTimer]
  refine fun checks => ⟨_, rfl, ?_⟩
  rw [ensures_bind]
  have hstart : Ensures Log.step ⟨none, []⟩ adapter.readFlashStart
      fun _ log' => log' = ⟨none, []⟩ := by
    rw [readFlashStart]
    split_ifs
    · exact fun val => ⟨_, rfl, rfl⟩
    · exact fun val => ⟨_, rfl, rfl⟩
    · rfl
  refine hstart.mono fun flashDataStart _ hlog => ?_
  subst hlog
  cases flashDataStart with
  | none => exact hend _
  | some flashDataStart =>
    dsimp only
    rw [ensures_bind]
    refine (Log.pollRegister_log _ _ _ _ _).mono fun polled _ hpolled => ?_
    subst hpolled
    obtain _ | ⟨_ | left, val⟩ := polled
    · exact hend _
    · exact hend _
    dsimp only
    rw [ensures_bind]
    refine ensures_blStopCmdTimer.2 ⟨_, rfl, ?_⟩
    rw [ensures_bind, ensures_masterRegWrite]
    refine fun status => ⟨_, rfl, ?_⟩
    rw [if_neg (by decide)]
    have hmodel' : adapter.devModel9116 = false := by simp [devModel9116, hmodel]
    simp only [hmodel', Bool.false_eq_true, if_false]
    split_ifs with hneg
    · exact succeeds_of_fails _ _
    · exact adapter.loadFirmware9113_log _

/-- The demo adapter is an RS9113. -/
theorem loadFirmware_log_demo :
    Ensures Log.step ⟨none, []⟩ demoAdapter.loadFirmware (Succeeds ⟨none, []⟩) :=
  demoAdapter.loadFirmware_log rfl

end Adapter

end BootLoader
