import RsiDriver.Boot.SecureLoad
import RsiDriver.ToMathlib.Script

/-!
# Upgrading the firmware in flash

`auto_fw_upgrade` (`rsi_91x_hal.c`) hands an image to the bootloader, which writes it to flash. The
image goes in chunks of 4096 bytes to two buffers of the device in turn; `ping_pong_write` writes a
chunk and tells the bootloader which buffer is filled. The ping buffer still has the header of the
image, so the first chunk goes to the other one. The size is checked first, then the start address
that stands in the image.

`load_data_master_write` reads the bytes that it is handed, and a command stands for `bl_write_cmd`
with its timer; what both return is an input. Behind the image stands what follows it in memory.

## Main results

* `autoFwUpgrade_eq`: the upgrade is a script of writes and commands, performed up to the first
  failure;
* `upgradesExactly_iff`: which images are upgraded exactly;
* `not_forall_upgradesExactly`: a start address for which the check of the capacity wraps around.
-/

namespace FlashUpgrade

open Boot (EINVAL)
open SecureLoad (BankCmd PING_VALID PONG_VALID PING_AVAIL PONG_AVAIL EOF_REACHED)

/-- A chunk that is written to a buffer of the device, in blocks of a size, or a command with the
response that it expects -/
inductive Access
  | masterWrite (addr : BitVec 32) (blockSize : ℕ) (data : List (BitVec 8))
  | command (cmd expResp : Char)
  deriving DecidableEq, Repr

/-- The build and the bus: `CONFIG_RS9116_FLASH_MODE`, the host interface, `flash_capacity`, and
what the accesses return. -/
structure Host where
  flashMode : Bool
  sdio : Bool
  flashCapacity : BitVec 32
  outcome : ℕ → ℤ

/-- What an upgrade has done: its accesses to the device, the parts of the image that it has read
and the status. -/
structure Upgrade where
  accesses : List Access
  reads : List ByteRange
  status : ℤ
  deriving DecidableEq, Repr

def MAX_FLASH_FILE_SIZE : BitVec 32 := 0x64000
def FW_IMAGE_MIN_ADDRESS : BitVec 32 := 0x11000
def FLASH_SECTOR_SIZE : BitVec 32 := 0x1000
def FLASHING_START_ADDRESS : ℕ := 16
def FLASH_WRITE_CHUNK_SIZE : ℕ := 4096
def FW_LOADING_SUCCESSFUL : Char := 'S'

namespace Host

variable (host : Host)

/-- `PING_BUFFER_ADDRESS`, `PONG_BUFFER_ADDRESS` -/
def bufferAddress : BankCmd → BitVec 32
  | .pingWrite => if host.flashMode then 0x18000 else 0x19000
  | .pongWrite => if host.flashMode then 0x19000 else 0x1a000

/-- The blocks of `load_data_master_write` -/
def blockSize : ℕ := if host.sdio then 256 else 252

/-- `cmd_req` and `cmd_resp` of a buffer -/
def bankCommand : BankCmd → Access
  | .pingWrite => .command PING_VALID PONG_AVAIL
  | .pongWrite => .command PONG_VALID PING_AVAIL

/-- What counts as a failure: any status of a write, a negative one of a command. -/
def fails (k : ℕ) : Access → Bool
  | .masterWrite .. => host.outcome k != 0
  | .command .. => decide (host.outcome k < 0)

/-- An access, and `-EINVAL` if it fails. -/
def access (a : Access) (upgrade : Upgrade) : Upgrade where
  accesses := upgrade.accesses ++ [a]
  reads := upgrade.reads
  status := if host.fails upgrade.accesses.length a then EINVAL else 0

/-- `ping_pong_write` with the chunk at an offset of the image -/
def pingPongWrite (image : ByteMemory) (cmd : BankCmd) (addr size : ℕ) (upgrade : Upgrade) :
    Upgrade :=
  let written := host.access
    (.masterWrite (host.bufferAddress cmd) host.blockSize (image.bytes addr size))
    { upgrade with reads := upgrade.reads ++ [⟨addr, size⟩] }
  if written.status ≠ 0 then written else host.access (bankCommand cmd) written

/-- `cmd` of round `index` -/
def cmdAt (index : ℕ) : BankCmd := if index % 2 ≠ 0 then .pingWrite else .pongWrite

/-- The `for` loop of `auto_fw_upgrade` with a number of rounds left. The size is at most 400 KiB,
so that none of the numbers leaves its type. -/
def flashLoop (image : ByteMemory) (tempContentSize numFlash : ℕ) :
    ℕ → ℕ → ℕ → Upgrade → Upgrade
  | 0, _, _, upgrade => upgrade
  | rounds + 1, index, flashContent, upgrade =>
    let contentSize :=
      if index ≠ numFlash then FLASH_WRITE_CHUNK_SIZE
      else tempContentSize % FLASH_WRITE_CHUNK_SIZE
    -- an image of whole chunks has no last round
    if index = numFlash ∧ contentSize = 0 then upgrade
    else
      let written := host.pingPongWrite image (cmdAt index) flashContent contentSize upgrade
      if written.status ≠ 0 then written
      else
        flashLoop image tempContentSize numFlash rounds (index + 1) (flashContent + contentSize)
          written

/-- `auto_fw_upgrade` -/
def autoFwUpgrade (image : ByteMemory) (contentSize : BitVec 32) : Upgrade :=
  if MAX_FLASH_FILE_SIZE < contentSize then ⟨[], [], EINVAL⟩
  else
    let flashStartAddress := image.le32 FLASHING_START_ADDRESS
    let checked : Upgrade := ⟨[], [⟨FLASHING_START_ADDRESS, 4⟩], 0⟩
    if flashStartAddress < FW_IMAGE_MIN_ADDRESS then { checked with status := EINVAL }
    else if flashStartAddress % FLASH_SECTOR_SIZE ≠ 0 then { checked with status := EINVAL }
    -- the sum of two 32-bit numbers
    else if host.flashCapacity < flashStartAddress + contentSize then
      { checked with status := EINVAL }
    else
      let numFlash := contentSize.toNat / FLASH_WRITE_CHUNK_SIZE
      let loaded := host.flashLoop image contentSize.toNat numFlash (numFlash + 1) 0 0 checked
      if loaded.status ≠ 0 then loaded
      else host.access (.command EOF_REACHED FW_LOADING_SUCCESSFUL) loaded

end Host

/-! ## The accesses as a script -/

namespace Host

/-- The writes and commands for a list of chunks, the first of which goes to a given buffer. -/
def chunkScript (host : Host) : BankCmd → List (List (BitVec 8)) → List Access
  | _, [] => []
  | cmd, chunk :: chunks =>
    .masterWrite (host.bufferAddress cmd) host.blockSize chunk :: bankCommand cmd ::
      chunkScript host cmd.next chunks

/-- A whole upgrade: the chunks, the first one to the pong buffer, and the end of the file. -/
def upgradeScript (host : Host) (chunks : List (List (BitVec 8))) : List Access :=
  host.chunkScript .pongWrite chunks ++ [.command EOF_REACHED FW_LOADING_SUCCESSFUL]

end Host

variable {host : Host} {image : ByteMemory} {upgrade upgrade' : Upgrade}
  {done script script' : List Access}

/-- A script was performed behind the accesses `done`, up to its first failure. -/
structure Performed (host : Host) (done script : List Access) (upgrade : Upgrade) : Prop where
  accesses : upgrade.accesses = (Script.perform host.fails done script).1
  status : upgrade.status = if (Script.perform host.fails done script).2 then 0 else EINVAL

theorem EINVAL_ne_zero : EINVAL ≠ 0 := by decide

theorem Performed.succeeds_iff (h : Performed host done script upgrade) :
    (Script.perform host.fails done script).2 = true ↔ upgrade.status = 0 := by
  rw [h.status]
  split
  · next hok => exact iff_of_true hok rfl
  · next hok => exact iff_of_false hok EINVAL_ne_zero

/-- Nothing to perform -/
theorem performed_nil (hdone : upgrade.accesses = done) (hstatus : upgrade.status = 0) :
    Performed host done [] upgrade :=
  ⟨hdone, hstatus⟩

theorem access_performed (host : Host) (a : Access) (upgrade : Upgrade)
    (hdone : upgrade.accesses = done) : Performed host done [a] (host.access a upgrade) := by
  subst hdone
  rw [Host.access]
  cases h : host.fails upgrade.accesses.length a with
  | true => constructor <;> simp [Script.perform, h]
  | false => constructor <;> simp [Script.perform, h]

/-- A failure keeps the second part from being performed. -/
theorem Performed.append (h : Performed host done script upgrade) (script' : List Access)
    (hfail : upgrade.status ≠ 0 → upgrade' = upgrade)
    (hnext : upgrade.status = 0 → Performed host upgrade.accesses script' upgrade') :
    Performed host done (script ++ script') upgrade' := by
  by_cases hok : upgrade.status = 0
  · have h' := hnext hok
    rw [h.accesses] at h'
    constructor
    · rw [Script.perform_append, if_pos (h.succeeds_iff.2 hok), h'.accesses]
    · rw [Script.perform_append, if_pos (h.succeeds_iff.2 hok), h'.status]
  · -- the first script has ended with a failure, and so has the whole
    have hsecond : ¬ (Script.perform host.fails done script).2 = true :=
      fun hs => hok (h.succeeds_iff.1 hs)
    rw [hfail hok]
    constructor
    · rw [Script.perform_append, if_neg hsecond, h.accesses]
    · rw [Script.perform_append, if_neg hsecond, h.status]

theorem pingPongWrite_performed (host : Host) (image : ByteMemory) (cmd : BankCmd)
    (addr size : ℕ) (hdone : upgrade.accesses = done) :
    Performed host done
      [.masterWrite (host.bufferAddress cmd) host.blockSize (image.bytes addr size),
        Host.bankCommand cmd]
      (host.pingPongWrite image cmd addr size upgrade) := by
  have hwrite := access_performed host
    (.masterWrite (host.bufferAddress cmd) host.blockSize (image.bytes addr size))
    { upgrade with reads := upgrade.reads ++ [⟨addr, size⟩] } hdone
  refine hwrite.append [Host.bankCommand cmd] (fun hfail => ?_) (fun hok => ?_)
  · rw [Host.pingPongWrite]
    exact if_pos hfail
  · rw [Host.pingPongWrite, if_neg (not_not.2 hok)]
    exact access_performed host _ _ rfl

/-- The chunk of a round other than the last one -/
def wholeChunk (image : ByteMemory) (index : ℕ) : List (BitVec 8) :=
  image.bytes (index * FLASH_WRITE_CHUNK_SIZE) FLASH_WRITE_CHUNK_SIZE

/-- What remains of an image behind its whole chunks, if anything -/
def lastChunk (image : ByteMemory) (size : ℕ) : List (List (BitVec 8)) :=
  if size % FLASH_WRITE_CHUNK_SIZE = 0 then []
  else [image.bytes (size / FLASH_WRITE_CHUNK_SIZE * FLASH_WRITE_CHUNK_SIZE)
    (size % FLASH_WRITE_CHUNK_SIZE)]

/-- The chunks of `n` whole rounds from `index` on, and the last one -/
def chunksFrom (image : ByteMemory) (size index n : ℕ) : List (List (BitVec 8)) :=
  (List.range' index n).map (wholeChunk image) ++ lastChunk image size

theorem next_cmdAt (index : ℕ) : (Host.cmdAt index).next = Host.cmdAt (index + 1) := by
  unfold Host.cmdAt
  split
  · rw [if_neg (by omega)]
    rfl
  · rw [if_pos (by omega)]
    rfl

/-- The loop performs the chunks that are left. -/
theorem flashLoop_performed (host : Host) (image : ByteMemory) {size index : ℕ} (n : ℕ)
    (hn : index + n = size / FLASH_WRITE_CHUNK_SIZE) (hdone : upgrade.accesses = done)
    (hstatus : upgrade.status = 0) :
    Performed host done (host.chunkScript (Host.cmdAt index) (chunksFrom image size index n))
      (host.flashLoop image size (size / FLASH_WRITE_CHUNK_SIZE) (n + 1) index
        (index * FLASH_WRITE_CHUNK_SIZE) upgrade) := by
  induction n generalizing index upgrade done with
  | zero =>
    -- the last round: what remains, or nothing
    have hindex : index = size / FLASH_WRITE_CHUNK_SIZE := hn
    have hchunks : chunksFrom image size index 0 = lastChunk image size := rfl
    rw [Host.flashLoop, hchunks, lastChunk]
    simp only [← hindex, ne_eq, not_true_eq_false, if_false, true_and]
    by_cases hrest : size % FLASH_WRITE_CHUNK_SIZE = 0
    · rw [if_pos hrest, if_pos hrest]
      exact performed_nil hdone hstatus
    · rw [if_neg hrest, if_neg hrest, Host.flashLoop, ite_self]
      exact pingPongWrite_performed host image _ _ _ hdone
  | succ n ih =>
    have hindex : index ≠ size / FLASH_WRITE_CHUNK_SIZE := by omega
    have hchunks : chunksFrom image size index (n + 1) =
        wholeChunk image index :: chunksFrom image size (index + 1) n := by
      rw [chunksFrom, List.range'_succ]
      rfl
    rw [Host.flashLoop, hchunks, Host.chunkScript, next_cmdAt]
    simp only [if_pos hindex, hindex, false_and, if_false]
    refine (pingPongWrite_performed host image (Host.cmdAt index) _ _ hdone).append
      (host.chunkScript _ _) (fun hfail => if_pos hfail) (fun hok => ?_)
    rw [if_neg (not_not.2 hok), ← Nat.add_one_mul]
    exact ih (by omega) rfl hok

/-- The chunks of an image -/
def chunksOf (image : ByteMemory) (size : ℕ) : List (List (BitVec 8)) :=
  chunksFrom image size 0 (size / FLASH_WRITE_CHUNK_SIZE)

/-- The checks of `auto_fw_upgrade` let the image pass. -/
def Passes (host : Host) (image : ByteMemory) (contentSize : BitVec 32) : Prop :=
  contentSize ≤ MAX_FLASH_FILE_SIZE ∧
    FW_IMAGE_MIN_ADDRESS ≤ image.le32 FLASHING_START_ADDRESS ∧
    image.le32 FLASHING_START_ADDRESS % FLASH_SECTOR_SIZE = 0 ∧
    image.le32 FLASHING_START_ADDRESS + contentSize ≤ host.flashCapacity

/-- An image that passes the checks is sent chunk by chunk, up to the first failure. -/
theorem autoFwUpgrade_performed {contentSize : BitVec 32} (h : Passes host image contentSize) :
    Performed host [] (host.upgradeScript (chunksOf image contentSize.toNat))
      (host.autoFwUpgrade image contentSize) := by
  obtain ⟨hsize, hmin, hsector, hcapacity⟩ := h
  rw [Host.autoFwUpgrade, if_neg (BitVec.not_lt.2 hsize)]
  dsimp only
  rw [if_neg (BitVec.not_lt.2 hmin), if_neg (not_not.2 hsector), if_neg (BitVec.not_lt.2 hcapacity)]
  have hstart : (⟨[], [⟨FLASHING_START_ADDRESS, 4⟩], 0⟩ : Upgrade).accesses = [] := rfl
  have hloop := flashLoop_performed host image (contentSize.toNat / FLASH_WRITE_CHUNK_SIZE)
    (Nat.zero_add _) hstart rfl
  rw [Nat.zero_mul] at hloop
  refine hloop.append [_] (fun hfail => if_pos hfail) (fun hok => ?_)
  rw [if_neg (not_not.2 hok)]
  exact access_performed host _ _ rfl

/-- An image that does not pass leaves the device alone. -/
theorem autoFwUpgrade_refused {contentSize : BitVec 32} (h : ¬ Passes host image contentSize) :
    (host.autoFwUpgrade image contentSize).accesses = [] ∧
      (host.autoFwUpgrade image contentSize).status ≠ 0 := by
  rw [Host.autoFwUpgrade]
  -- one case for each of the four checks
  split
  · exact ⟨rfl, EINVAL_ne_zero⟩
  next hsize =>
  dsimp only
  split
  · exact ⟨rfl, EINVAL_ne_zero⟩
  next hmin =>
  split
  · exact ⟨rfl, EINVAL_ne_zero⟩
  next hsector =>
  split
  · exact ⟨rfl, EINVAL_ne_zero⟩
  next hcapacity =>
  exact absurd ⟨BitVec.not_lt.1 hsize, BitVec.not_lt.1 hmin, not_not.1 hsector,
    BitVec.not_lt.1 hcapacity⟩ h

/-- **A failing write or command is the last access**, for every image. -/
theorem autoFwUpgrade_failure_last {contentSize : BitVec 32} {pre post : List Access} {a : Access}
    (h : (host.autoFwUpgrade image contentSize).accesses = pre ++ a :: post)
    (ha : host.fails pre.length a = true) :
    post = [] ∧ (host.autoFwUpgrade image contentSize).status ≠ 0 := by
  by_cases hpass : Passes host image contentSize
  · have hperformed := autoFwUpgrade_performed hpass
    rw [hperformed.accesses] at h
    obtain ⟨hpost, hfailed⟩ := Script.perform_failure_last h (Nat.zero_le _) ha
    refine ⟨hpost, fun hzero => ?_⟩
    rw [hperformed.succeeds_iff.2 hzero] at hfailed
    exact Bool.false_ne_true hfailed.symm
  · rw [(autoFwUpgrade_refused hpass).1] at h
    simp at h

/-! ## The chunks of an image -/

/-- The chunks, one after the other, are the image. -/
theorem flatten_chunksOf (image : ByteMemory) (size : ℕ) :
    (chunksOf image size).flatten = image.bytes 0 size := by
  have hlast : (lastChunk image size).flatten =
      image.bytes (size / FLASH_WRITE_CHUNK_SIZE * FLASH_WRITE_CHUNK_SIZE)
        (size % FLASH_WRITE_CHUNK_SIZE) := by
    rw [lastChunk]
    split
    · next h => rw [h]; rfl
    · simp
  have hsize : size / FLASH_WRITE_CHUNK_SIZE * FLASH_WRITE_CHUNK_SIZE +
      size % FLASH_WRITE_CHUNK_SIZE = size := Nat.div_add_mod' ..
  have hwhole := ByteMemory.flatten_bytes (m := image) (size / FLASH_WRITE_CHUNK_SIZE)
    FLASH_WRITE_CHUNK_SIZE
  have hadd := ByteMemory.bytes_add (m := image) 0
    (size / FLASH_WRITE_CHUNK_SIZE * FLASH_WRITE_CHUNK_SIZE) (size % FLASH_WRITE_CHUNK_SIZE)
  rw [hsize, Nat.zero_add] at hadd
  rw [chunksOf, chunksFrom, List.flatten_append, hlast, ← List.range_eq_range', hadd]
  exact congrArg (· ++ _) hwhole

/-- No chunk is larger than a buffer. -/
theorem length_le_of_mem_chunksOf {size : ℕ} {chunk : List (BitVec 8)}
    (h : chunk ∈ chunksOf image size) : chunk.length ≤ FLASH_WRITE_CHUNK_SIZE := by
  rw [chunksOf, chunksFrom, List.mem_append, List.mem_map] at h
  obtain ⟨index, -, rfl⟩ | hlast := h
  · rw [wholeChunk]
    exact Nat.le_of_eq (ByteMemory.length_bytes ..)
  · rw [lastChunk] at hlast
    split at hlast
    · exact absurd hlast List.not_mem_nil
    · rw [List.mem_singleton.1 hlast, ByteMemory.length_bytes]
      exact Nat.le_of_lt (Nat.mod_lt _ (by decide))

/-! ## What is read of the image -/

theorem pingPongWrite_reads (cmd : BankCmd) (addr size : ℕ) :
    (host.pingPongWrite image cmd addr size upgrade).reads = upgrade.reads ++ [⟨addr, size⟩] := by
  rw [Host.pingPongWrite]
  split <;> rfl

/-- The loop reads inside the image. -/
theorem flashLoop_reads (host : Host) (image : ByteMemory) {size index : ℕ} (n : ℕ)
    (hn : index + n = size / FLASH_WRITE_CHUNK_SIZE) (upgrade : Upgrade) :
    ∃ rest, (host.flashLoop image size (size / FLASH_WRITE_CHUNK_SIZE) (n + 1) index
        (index * FLASH_WRITE_CHUNK_SIZE) upgrade).reads = upgrade.reads ++ rest ∧
      ∀ r ∈ rest, r.Within size := by
  have hsize := Nat.div_add_mod' size FLASH_WRITE_CHUNK_SIZE
  induction n generalizing index upgrade with
  | zero =>
    have hindex : index = size / FLASH_WRITE_CHUNK_SIZE := hn
    rw [Host.flashLoop]
    simp only [← hindex, ne_eq, not_true_eq_false, if_false, true_and]
    split
    · exact ⟨[], by simp, by simp⟩
    · refine ⟨[⟨index * FLASH_WRITE_CHUNK_SIZE, size % FLASH_WRITE_CHUNK_SIZE⟩], ?_, ?_⟩
      · rw [Host.flashLoop, ite_self, pingPongWrite_reads]
      · rintro r hr
        rw [List.mem_singleton.1 hr, hindex]
        exact .inr (Nat.le_of_eq hsize)
  | succ n ih =>
    have hindex : index ≠ size / FLASH_WRITE_CHUNK_SIZE := by omega
    rw [Host.flashLoop]
    simp only [if_pos hindex, hindex, false_and, if_false]
    -- a whole chunk lies in front of what remains
    have hchunk : (⟨index * FLASH_WRITE_CHUNK_SIZE, FLASH_WRITE_CHUNK_SIZE⟩ : ByteRange).Within
        size := by
      refine .inr ?_
      have hle : (index + 1) * FLASH_WRITE_CHUNK_SIZE ≤
          size / FLASH_WRITE_CHUNK_SIZE * FLASH_WRITE_CHUNK_SIZE :=
        Nat.mul_le_mul_right _ (by omega)
      rw [Nat.add_one_mul] at hle
      exact Nat.le_trans hle (Nat.div_mul_le_self _ _)
    split
    · exact ⟨_, pingPongWrite_reads _ _ _, by simpa using hchunk⟩
    · rw [← Nat.add_one_mul]
      obtain ⟨rest, hrest, hwithin⟩ := @ih (index + 1) (by omega)
        (host.pingPongWrite image (Host.cmdAt index) (index * FLASH_WRITE_CHUNK_SIZE)
          FLASH_WRITE_CHUNK_SIZE upgrade)
      rw [pingPongWrite_reads, List.append_assoc] at hrest
      exact ⟨_, hrest, by simpa using ⟨hchunk, hwithin⟩⟩

/-- The start address is read in front of the checks, so an image that is too short for it is read
past its end. -/
theorem autoFwUpgrade_reads_iff (host : Host) (image : ByteMemory) {contentSize : BitVec 32}
    (h : contentSize ≤ MAX_FLASH_FILE_SIZE) :
    (∀ r ∈ (host.autoFwUpgrade image contentSize).reads, r.Within contentSize.toNat) ↔
      20 ≤ contentSize.toNat := by
  -- the start address is read in any case, and everything behind it is inside
  have hheader : ∃ rest, (host.autoFwUpgrade image contentSize).reads =
      ⟨FLASHING_START_ADDRESS, 4⟩ :: rest ∧ ∀ r ∈ rest, r.Within contentSize.toNat := by
    rw [Host.autoFwUpgrade, if_neg (BitVec.not_lt.2 h)]
    dsimp only
    split
    · exact ⟨[], rfl, by simp⟩
    split
    · exact ⟨[], rfl, by simp⟩
    split
    · exact ⟨[], rfl, by simp⟩
    obtain ⟨rest, hrest, hwithin⟩ := flashLoop_reads host image _ (Nat.zero_add _)
      ⟨[], [⟨FLASHING_START_ADDRESS, 4⟩], 0⟩
    rw [Nat.zero_mul] at hrest
    refine ⟨rest, ?_, hwithin⟩
    split <;> exact hrest
  obtain ⟨rest, hrest, hwithin⟩ := hheader
  rw [hrest, List.forall_mem_cons, and_iff_left hwithin]
  simp [ByteRange.Within, FLASHING_START_ADDRESS]

/-! ## Which images are upgraded exactly -/

/-- The chunks are the image, each fits a buffer, and they were sent up to the first failure. -/
structure SendsImage (host : Host) (image : ByteMemory) (size : ℕ)
    (chunks : List (List (BitVec 8))) (upgrade : Upgrade) : Prop where
  content : chunks.flatten = image.bytes 0 size
  small : ∀ chunk ∈ chunks, chunk.length ≤ FLASH_WRITE_CHUNK_SIZE
  performed : Performed host [] (host.upgradeScript chunks) upgrade

/-- The upgrade reads the image only, and it either ends with an error before it has written
anything, or it sends the image, which does not go past the end of the flash. -/
structure UpgradesExactly (host : Host) (image : ByteMemory) (contentSize : BitVec 32) : Prop where
  reads : ∀ r ∈ (host.autoFwUpgrade image contentSize).reads, r.Within contentSize.toNat
  writes :
    (host.autoFwUpgrade image contentSize).accesses = [] ∧
      (host.autoFwUpgrade image contentSize).status ≠ 0 ∨
    (image.le32 FLASHING_START_ADDRESS).toNat + contentSize.toNat ≤ host.flashCapacity.toNat ∧
      ∃ chunks, SendsImage host image contentSize.toNat chunks
        (host.autoFwUpgrade image contentSize)

/-- An image that passes the checks is upgraded exactly if it holds its start address and its end is
below 2^32. -/
theorem writes_iff {contentSize : BitVec 32} (h : Passes host image contentSize) :
    (host.autoFwUpgrade image contentSize).accesses = [] ∧
        (host.autoFwUpgrade image contentSize).status ≠ 0 ∨
      (image.le32 FLASHING_START_ADDRESS).toNat + contentSize.toNat ≤ host.flashCapacity.toNat ∧
        (∃ chunks, SendsImage host image contentSize.toNat chunks
          (host.autoFwUpgrade image contentSize)) ↔
      (image.le32 FLASHING_START_ADDRESS).toNat + contentSize.toNat < 2 ^ 32 := by
  have hperformed := autoFwUpgrade_performed h
  have hsome : (host.autoFwUpgrade image contentSize).accesses ≠ [] := by
    rw [hperformed.accesses]
    refine Script.perform_ne_nil ?_
    simp [Host.upgradeScript]
  have hsends : SendsImage host image contentSize.toNat (chunksOf image contentSize.toNat)
      (host.autoFwUpgrade image contentSize) :=
    ⟨flatten_chunksOf image _, fun _ hchunk => length_le_of_mem_chunksOf hchunk, hperformed⟩
  -- the check of the driver, where the sum may have wrapped around
  have hcapacity := BitVec.le_def.1 h.2.2.2
  rw [BitVec.toNat_add] at hcapacity
  constructor
  · rintro (⟨hnone, -⟩ | ⟨hle, -⟩)
    · exact absurd hnone hsome
    · exact Nat.lt_of_le_of_lt hle host.flashCapacity.isLt
  · intro hlt
    rw [Nat.mod_eq_of_lt hlt] at hcapacity
    exact .inr ⟨hcapacity, _, hsends⟩

/-- Which images are upgraded exactly: those that are refused for their size, and those that hold
their start address and do not make the check of the capacity wrap around. -/
theorem upgradesExactly_iff (host : Host) (image : ByteMemory) (contentSize : BitVec 32) :
    UpgradesExactly host image contentSize ↔
      MAX_FLASH_FILE_SIZE < contentSize ∨
        20 ≤ contentSize.toNat ∧ (Passes host image contentSize →
          (image.le32 FLASHING_START_ADDRESS).toNat + contentSize.toNat < 2 ^ 32) := by
  by_cases hsize : MAX_FLASH_FILE_SIZE < contentSize
  · -- refused before the image is looked at
    refine iff_of_true ⟨?_, .inl ?_⟩ (.inl hsize)
    · rw [Host.autoFwUpgrade, if_pos hsize]
      simp
    · rw [Host.autoFwUpgrade, if_pos hsize]
      exact ⟨rfl, EINVAL_ne_zero⟩
  have hreads := autoFwUpgrade_reads_iff host image (BitVec.not_lt.1 hsize)
  rw [or_iff_right hsize]
  constructor
  · rintro ⟨hr, hw⟩
    exact ⟨hreads.1 hr, fun hpass => (writes_iff hpass).1 hw⟩
  · rintro ⟨hlong, hwrap⟩
    refine ⟨hreads.2 hlong, ?_⟩
    by_cases hpass : Passes host image contentSize
    · exact (writes_iff hpass).2 (hwrap hpass)
    · exact .inl (autoFwUpgrade_refused hpass)

/-- A USB host whose device has a flash of 1 MiB; every access succeeds. -/
def demoHost : Host := ⟨false, false, 0x100000, fun _ => 0⟩

/-- An image whose start address is 0xfffff000. -/
def wrappingImage : ByteMemory := ByteMemory.override (fun _ => 0)
  (List.replicate 17 0 ++ [0xf0, 0xff, 0xff])

/-- An image of 4096 bytes that is to go to the last 4096 bytes of the address space. The check of
the capacity comes out at 0, and the image is written. -/
theorem not_forall_upgradesExactly :
    ¬ ∀ (host : Host) (image : ByteMemory) (contentSize : BitVec 32),
      UpgradesExactly host image contentSize := by
  intro h
  have hpass : Passes demoHost wrappingImage 4096 := by
    refine ⟨?_, ?_, ?_, ?_⟩ <;> decide
  exact absurd ((writes_iff hpass).1 (h demoHost wrappingImage 4096).writes) (by decide)

end FlashUpgrade
