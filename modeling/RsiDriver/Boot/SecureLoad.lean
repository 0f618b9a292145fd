import RsiDriver.Boot.Firmware

/-!
# Loading a firmware image securely

`rsi_secure_firmware_load` (`rsi_91x_hal.c`, `CONFIG_SECURE_FW_LOAD`) hands an image to the
bootloader in blocks of 4096 bytes, which go to two buffers of the device in turn. The number of
blocks is rounded up, and the loop looks at it behind the first block; each block is copied in its
full size, whatever is left of the image.

A command stands for `bl_write_cmd` with its timer: the command that was issued and the response
that it waits for. What it returns is an input.

## Main results

* `blockLoop_succeeds`: what the loop writes and reads if nothing fails;
* `secureFirmwareLoad_failureEnds`: a failure ends the load;
* `coversImage_iff`: which images are written exactly.
-/

namespace SecureLoad

open Boot (EINVAL ENOMEM)

/-- A block that is written, or a command with the response that it expects -/
inductive Access
  | block (data : List (BitVec 8))
  | command (cmd expResp : Char)
  deriving DecidableEq, Repr

/-- What a load has done: its accesses to the device, the parts of the image that it has read, and
the status. -/
structure Load where
  accesses : List Access
  reads : List ByteRange
  status : ℤ
  deriving DecidableEq, Repr

/-- What the accesses return, and whether `kzalloc` returns a buffer. -/
structure HostBus where
  outcome : ℕ → ℤ
  alloc : Bool

/-- `PING_WRITE`, `PONG_WRITE` -/
inductive BankCmd
  | pingWrite
  | pongWrite
  deriving DecidableEq, Repr

def BankCmd.next : BankCmd → BankCmd
  | pingWrite => pongWrite
  | pongWrite => pingWrite

def RSI_FW_BLOCK_SIZE : ℕ := 4096
def RSI_FW_UPGRADE : Char := 'n'
def SEND_RPS_FILE : Char := '2'
def PING_VALID : Char := 'I'
def PONG_VALID : Char := 'O'
def PING_AVAIL : Char := 'I'
def PONG_AVAIL : Char := 'O'
def EOF_REACHED : Char := 'E'
def JUMP_TO_ZERO_PC : Char := 'J'
def CMD_PASS : Char := Char.ofNat 0xaa

/-- The command behind a block -/
def BankCmd.access : BankCmd → Access
  | pingWrite => .command PING_VALID PONG_AVAIL
  | pongWrite => .command PONG_VALID PING_AVAIL

namespace HostBus

variable (bus : HostBus)

/-- An access, and `-EINVAL` if it fails. -/
def perform (access : Access) (load : Load) : Load where
  accesses := load.accesses ++ [access]
  reads := load.reads
  status := if bus.outcome load.accesses.length < 0 then EINVAL else 0

/-- `bl_cmd` -/
def blCmd (cmd expResp : Char) : Load → Load := bus.perform (.command cmd expResp)

/-- `memcpy` into `fw_block`, and `write_reg_multiple` -/
def writeBlock (firmware : ByteMemory) (firmwarePtr : ℕ) (load : Load) : Load :=
  bus.perform (.block (firmware.bytes firmwarePtr RSI_FW_BLOCK_SIZE))
    { load with reads := load.reads ++ [⟨firmwarePtr, RSI_FW_BLOCK_SIZE⟩] }

/-- The `while (1)` of `rsi_secure_firmware_load` -/
def blockLoop (firmware : ByteMemory) (noOfBlocks : BitVec 32) (cmd : BankCmd) (firmwarePtr : ℕ)
    (load : Load) : Load :=
  let written := bus.writeBlock firmware firmwarePtr load
  if written.status ≠ 0 then written
  else
    let accepted := bus.perform cmd.access written
    if accepted.status ≠ 0 then accepted
    -- the counter is tested behind the decrement
    else if noOfBlocks - 1 = 0 then accepted
    else
      blockLoop firmware (noOfBlocks - 1) cmd.next (firmwarePtr + RSI_FW_BLOCK_SIZE) accepted
termination_by (noOfBlocks - 1).toNat
decreasing_by
  rename_i hmore
  have hpos : (noOfBlocks - 1).toNat ≠ 0 := fun h => hmore (BitVec.eq_of_toNat_eq h)
  have hlt := (noOfBlocks - 1).isLt
  rw [BitVec.toNat_sub (noOfBlocks - 1) 1]
  simp only [BitVec.reduceToNat]
  omega

/-- What follows the loop. -/
def finish (load : Load) : Load :=
  let reached := bus.blCmd EOF_REACHED CMD_PASS load
  if reached.status ≠ 0 then reached else bus.blCmd JUMP_TO_ZERO_PC CMD_PASS reached

/-- `no_of_blocks` -/
def noOfBlocks (fwSz : BitVec 32) : BitVec 32 :=
  BitVec.ofNat 32
    (fwSz.toNat / RSI_FW_BLOCK_SIZE + if fwSz.toNat % RSI_FW_BLOCK_SIZE ≠ 0 then 1 else 0)

/-- `rsi_secure_firmware_load` -/
def secureFirmwareLoad (firmware : ByteMemory) (fwSz : BitVec 32) : Load :=
  let upgrade := bus.blCmd RSI_FW_UPGRADE SEND_RPS_FILE ⟨[], [], 0⟩
  if upgrade.status ≠ 0 then { upgrade with status := EINVAL }
  else if ¬ bus.alloc then { upgrade with status := ENOMEM }
  else
    let load := bus.blockLoop firmware (noOfBlocks fwSz) .pingWrite 0 upgrade
    if load.status ≠ 0 then load else bus.finish load

end HostBus

/-! ## A failure ends the load -/

/-- **Nothing follows a failure**: an access that has failed is the last one, and the status is not
0. -/
def FailureEnds (bus : HostBus) (load : Load) : Prop :=
  ∀ k < load.accesses.length, bus.outcome k < 0 →
    k + 1 = load.accesses.length ∧ load.status ≠ 0

variable {bus : HostBus} {firmware : ByteMemory} {load : Load}

theorem EINVAL_ne_zero : EINVAL ≠ 0 := by decide

theorem ENOMEM_ne_zero : ENOMEM ≠ 0 := by decide

/-- Only the last access decides on the status. -/
theorem perform_failureEnds (h : FailureEnds bus load) (hstatus : load.status = 0)
    (access : Access) : FailureEnds bus (bus.perform access load) := by
  intro k hk hfail
  have hlength : (bus.perform access load).accesses.length = load.accesses.length + 1 :=
    List.length_append
  rw [hlength] at hk ⊢
  by_cases hlast : k = load.accesses.length
  · subst hlast
    refine ⟨rfl, ?_⟩
    rw [HostBus.perform, if_pos hfail]
    exact EINVAL_ne_zero
  · -- an access before that one has not failed
    exact absurd hstatus (h k (by omega) hfail).2

theorem writeBlock_failureEnds (h : FailureEnds bus load) (hstatus : load.status = 0)
    (firmwarePtr : ℕ) : FailureEnds bus (bus.writeBlock firmware firmwarePtr load) := by
  have hread : FailureEnds bus
      { load with reads := load.reads ++ [⟨firmwarePtr, RSI_FW_BLOCK_SIZE⟩] } := h
  exact perform_failureEnds hread hstatus _

variable (firmware) in
theorem blockLoop_failureEnds (h : FailureEnds bus load) (hstatus : load.status = 0)
    (noOfBlocks : BitVec 32) (cmd : BankCmd) (firmwarePtr : ℕ) :
    FailureEnds bus (bus.blockLoop firmware noOfBlocks cmd firmwarePtr load) := by
  induction noOfBlocks, cmd, firmwarePtr, load using
      HostBus.blockLoop.induct bus firmware with
  | case1 noOfBlocks cmd firmwarePtr load written hwritten =>
    rw [HostBus.blockLoop, if_pos hwritten]
    exact writeBlock_failureEnds h hstatus firmwarePtr
  | case2 noOfBlocks cmd firmwarePtr load written hwritten accepted haccepted =>
    rw [HostBus.blockLoop, if_neg hwritten, if_pos haccepted]
    exact perform_failureEnds (writeBlock_failureEnds h hstatus firmwarePtr)
      (not_not.1 hwritten) _
  | case3 noOfBlocks cmd firmwarePtr load written hwritten accepted haccepted hlast =>
    rw [HostBus.blockLoop, if_neg hwritten, if_neg haccepted, if_pos hlast]
    exact perform_failureEnds (writeBlock_failureEnds h hstatus firmwarePtr)
      (not_not.1 hwritten) _
  | case4 noOfBlocks cmd firmwarePtr load written hwritten accepted haccepted hlast ih =>
    rw [HostBus.blockLoop, if_neg hwritten, if_neg haccepted, if_neg hlast]
    apply ih _ (not_not.1 haccepted)
    exact perform_failureEnds (writeBlock_failureEnds h hstatus firmwarePtr)
      (not_not.1 hwritten) _

/-- **A failing write or command ends the load**, for every image. -/
theorem secureFirmwareLoad_failureEnds (bus : HostBus) (firmware : ByteMemory)
    (fwSz : BitVec 32) : FailureEnds bus (bus.secureFirmwareLoad firmware fwSz) := by
  have hstart : FailureEnds bus ⟨[], [], 0⟩ := fun k hk => absurd hk (Nat.not_lt_zero k)
  have hupgrade : FailureEnds bus (bus.blCmd RSI_FW_UPGRADE SEND_RPS_FILE ⟨[], [], 0⟩) :=
    perform_failureEnds hstart rfl _
  rw [HostBus.secureFirmwareLoad]
  -- one case for each return of the source, in its order
  split
  · intro k hk hfail
    exact ⟨(hupgrade k hk hfail).1, EINVAL_ne_zero⟩
  split
  · intro k hk hfail
    exact ⟨(hupgrade k hk hfail).1, ENOMEM_ne_zero⟩
  rename_i hok _
  have hloop := blockLoop_failureEnds firmware hupgrade (not_not.1 hok)
    (HostBus.noOfBlocks fwSz) .pingWrite 0
  dsimp only
  split
  · exact hloop
  rename_i hdone
  have hreached := perform_failureEnds hloop (not_not.1 hdone) (.command EOF_REACHED CMD_PASS)
  rw [HostBus.finish]
  split
  · exact hreached
  · rename_i heof
    exact perform_failureEnds hreached (not_not.1 heof) _

/-! ## What a load does if nothing fails -/

/-- A bus on which every access succeeds. -/
def HostBus.succeeds : HostBus := ⟨fun _ => 0, true⟩

@[simp]
theorem succeeds_perform (access : Access) (load : Load) :
    HostBus.succeeds.perform access load = ⟨load.accesses ++ [access], load.reads, 0⟩ := rfl

/-- The buffer that block `k` goes to -/
def bankAt (k : ℕ) : BankCmd := if k % 2 = 0 then .pingWrite else .pongWrite

theorem next_bankAt (k : ℕ) : (bankAt k).next = bankAt (k + 1) := by
  by_cases hk : k % 2 = 0
  · rw [bankAt, if_pos hk, bankAt, if_neg (by omega)]
    rfl
  · rw [bankAt, if_neg hk, bankAt, if_pos (by omega)]
    rfl

/-- The accesses of round `k` of the loop -/
def roundAt (firmware : ByteMemory) (k : ℕ) : List Access :=
  [.block (firmware.bytes (k * RSI_FW_BLOCK_SIZE) RSI_FW_BLOCK_SIZE), (bankAt k).access]

/-- What round `k` reads of the image -/
def readAt (k : ℕ) : ByteRange := ⟨k * RSI_FW_BLOCK_SIZE, RSI_FW_BLOCK_SIZE⟩

variable (firmware) in
/-- **The loop if nothing fails**: one round, and one for every value that the counter takes from
then on. -/
theorem blockLoop_succeeds (n k : ℕ) {noOfBlocks : BitVec 32}
    (hn : (noOfBlocks - 1).toNat = n) (load : Load) :
    HostBus.succeeds.blockLoop firmware noOfBlocks (bankAt k) (k * RSI_FW_BLOCK_SIZE) load =
      ⟨load.accesses ++ (List.range' k (n + 1)).flatMap (roundAt firmware),
        load.reads ++ (List.range' k (n + 1)).map readAt, 0⟩ := by
  induction n generalizing k noOfBlocks load with
  | zero =>
    -- the count is looked at behind the block, so this round is made in any case
    have hzero : noOfBlocks - 1 = 0 := BitVec.eq_of_toNat_eq hn
    rw [HostBus.blockLoop]
    simp only [HostBus.writeBlock, succeeds_perform, ne_eq, not_true_eq_false, if_false, hzero,
      if_true]
    simp [roundAt, readAt]
  | succ n ih =>
    have hmore : ¬ noOfBlocks - 1 = 0 := by
      intro hzero
      rw [hzero] at hn
      exact absurd hn (by simp)
    have hnext : (noOfBlocks - 1 - 1).toNat = n := by
      have hlt := (noOfBlocks - 1).isLt
      rw [BitVec.toNat_sub, hn]
      simp only [BitVec.reduceToNat]
      omega
    rw [HostBus.blockLoop, next_bankAt, ← Nat.add_one_mul]
    simp only [HostBus.writeBlock, succeeds_perform, ne_eq, not_true_eq_false, if_false, hmore]
    rw [ih (k + 1) hnext]
    rw [List.range'_succ (n := n + 1)]
    simp [roundAt, readAt]

/-- How often the loop goes round: 2^32 times if there is no block. -/
def roundsOf (fwSz : BitVec 32) : ℕ := (HostBus.noOfBlocks fwSz - 1).toNat + 1

/-- **The whole load if nothing fails.** -/
theorem secureFirmwareLoad_succeeds (firmware : ByteMemory) (fwSz : BitVec 32) :
    HostBus.succeeds.secureFirmwareLoad firmware fwSz =
      ⟨.command RSI_FW_UPGRADE SEND_RPS_FILE ::
          (List.range' 0 (roundsOf fwSz)).flatMap (roundAt firmware) ++
            [.command EOF_REACHED CMD_PASS, .command JUMP_TO_ZERO_PC CMD_PASS],
        (List.range' 0 (roundsOf fwSz)).map readAt, 0⟩ := by
  have hloop := @blockLoop_succeeds firmware _ 0 (HostBus.noOfBlocks fwSz)
    rfl (HostBus.succeeds.blCmd RSI_FW_UPGRADE SEND_RPS_FILE ⟨[], [], 0⟩)
  have hbank : bankAt 0 = .pingWrite := rfl
  have halloc : HostBus.succeeds.alloc = true := rfl
  rw [hbank, Nat.zero_mul] at hloop
  rw [HostBus.secureFirmwareLoad]
  simp only [hloop, halloc]
  simp [HostBus.blCmd, HostBus.finish, roundsOf]

theorem toNat_noOfBlocks (fwSz : BitVec 32) :
    (HostBus.noOfBlocks fwSz).toNat = (fwSz.toNat + 4095) / 4096 := by
  have hlt := fwSz.isLt
  rw [HostBus.noOfBlocks, BitVec.toNat_ofNat, RSI_FW_BLOCK_SIZE]
  split <;> omega

/-- The loop reads inside the image only if it ends with a whole block. -/
theorem roundsOf_mul_le_iff (fwSz : BitVec 32) :
    roundsOf fwSz * 4096 ≤ fwSz.toNat ↔ fwSz ≠ 0 ∧ 4096 ∣ fwSz.toNat := by
  have hlt := fwSz.isLt
  have hblocks := toNat_noOfBlocks fwSz
  have hzero : fwSz = 0 ↔ fwSz.toNat = 0 := BitVec.toNat_inj.symm
  rw [roundsOf, BitVec.toNat_sub, hblocks, ne_eq, hzero, Nat.dvd_iff_mod_eq_zero]
  simp only [BitVec.reduceToNat]
  omega

theorem roundsOf_eq {fwSz : BitVec 32} (h : fwSz ≠ 0) :
    roundsOf fwSz = (fwSz.toNat + 4095) / 4096 := by
  have hlt := fwSz.isLt
  have hpos : fwSz.toNat ≠ 0 := fun hzero => h (BitVec.eq_of_toNat_eq hzero)
  rw [roundsOf, BitVec.toNat_sub, toNat_noOfBlocks]
  simp only [BitVec.reduceToNat]
  omega

/-- The rounds for a list of blocks, from round `k` on -/
def rounds : ℕ → List (List (BitVec 8)) → List Access
  | _, [] => []
  | k, data :: blocks => .block data :: (bankAt k).access :: rounds (k + 1) blocks

theorem rounds_map (firmware : ByteMemory) (k n : ℕ) :
    rounds k ((List.range' k n).map fun i =>
        firmware.bytes (i * RSI_FW_BLOCK_SIZE) RSI_FW_BLOCK_SIZE) =
      (List.range' k n).flatMap (roundAt firmware) := by
  induction n generalizing k with
  | zero => rfl
  | succ n ih =>
    rw [List.range'_succ, List.map_cons, List.flatMap_cons, rounds, ih]
    rfl

/-- **The image is written exactly**: the blocks are the image with zeros up to a multiple of 4096
behind it, they go to the two buffers in turn, and no byte behind the image is read. -/
structure CoversImage (firmware : ByteMemory) (fwSz : ℕ) (load : Load) : Prop where
  status : load.status = 0
  blocks : ∃ blocks : List (List (BitVec 8)), blocks.length = (fwSz + 4095) / 4096 ∧
    (∀ data ∈ blocks, data.length = 4096) ∧
    blocks.flatten = firmware.bytes 0 fwSz ++ List.replicate ((4096 - fwSz % 4096) % 4096) 0 ∧
    load.accesses = .command RSI_FW_UPGRADE SEND_RPS_FILE :: rounds 0 blocks ++
      [.command EOF_REACHED CMD_PASS, .command JUMP_TO_ZERO_PC CMD_PASS]
  reads : ∀ range ∈ load.reads, range.Within fwSz

/-- The last round reads up to its end. -/
theorem roundsOf_mul_le {fwSz : BitVec 32}
    (h : CoversImage firmware fwSz.toNat
      (HostBus.succeeds.secureFirmwareLoad firmware fwSz)) :
    roundsOf fwSz * 4096 ≤ fwSz.toNat := by
  have hreads := h.reads
  rw [secureFirmwareLoad_succeeds] at hreads
  -- the last block is read in its full size like the others
  have hlast : readAt (roundsOf fwSz - 1) ∈ (List.range' 0 (roundsOf fwSz)).map readAt := by
    apply List.mem_map_of_mem
    rw [List.mem_range'_1, roundsOf]
    omega
  rcases hreads _ hlast with hempty | hinside
  · simp [readAt, RSI_FW_BLOCK_SIZE] at hempty
  · simp only [readAt, RSI_FW_BLOCK_SIZE, ← Nat.add_one_mul] at hinside
    have hrounds : roundsOf fwSz - 1 + 1 = roundsOf fwSz := by
      rw [roundsOf]
      omega
    rwa [hrounds] at hinside

/-- **Which images are written exactly**: those that are made of whole blocks, and of one at least.
A failure ends every load. -/
theorem coversImage_iff (firmware : ByteMemory) (fwSz : BitVec 32) :
    ((CoversImage firmware fwSz.toNat (HostBus.succeeds.secureFirmwareLoad firmware fwSz) ∧
        ∀ bus, FailureEnds bus (bus.secureFirmwareLoad firmware fwSz)) ↔
      fwSz ≠ 0 ∧ 4096 ∣ fwSz.toNat) ∧
    ∀ bus, FailureEnds bus (bus.secureFirmwareLoad firmware fwSz) := by
  have hfailure := fun bus => secureFirmwareLoad_failureEnds bus firmware fwSz
  refine ⟨⟨fun h => ?_, fun h => ⟨?_, hfailure⟩⟩, hfailure⟩
  · exact (roundsOf_mul_le_iff fwSz).1 (roundsOf_mul_le h.1)
  · obtain ⟨n, hn⟩ := h.2
    have hrounds : roundsOf fwSz = n := by
      rw [roundsOf_eq h.1]
      omega
    have hall : fwSz.toNat = n * 4096 := by rw [hn, Nat.mul_comm]
    rw [secureFirmwareLoad_succeeds, hrounds, hall]
    refine ⟨rfl, ⟨(List.range' 0 n).map fun i =>
      firmware.bytes (i * RSI_FW_BLOCK_SIZE) RSI_FW_BLOCK_SIZE, ?_, ?_, ?_, ?_⟩, ?_⟩
    · rw [List.length_map, List.length_range']
      omega
    · rw [List.forall_mem_map]
      exact fun i _ => ByteMemory.length_bytes _ _
    · -- nothing is left to pad
      have hpad : (4096 - n * 4096 % 4096) % 4096 = 0 := by omega
      rw [hpad, List.replicate_zero, List.append_nil, ← List.range_eq_range',
        ByteMemory.flatten_bytes, RSI_FW_BLOCK_SIZE]
    · rw [rounds_map]
    · rw [List.forall_mem_map]
      intro i hi
      rw [List.mem_range'_1, Nat.zero_add] at hi
      refine Or.inr ?_
      have hle : (i + 1) * 4096 ≤ n * 4096 := Nat.mul_le_mul_right _ hi.2
      rw [Nat.add_one_mul] at hle
      exact hle

/-- One byte: the block is read in its full size. No byte: 2^32 blocks are read. -/
theorem not_coversImage :
    ¬ CoversImage (fun _ => 7) 1 (HostBus.succeeds.secureFirmwareLoad (fun _ => 7) 1) ∧
    ¬ CoversImage (fun _ => 7) 0 (HostBus.succeeds.secureFirmwareLoad (fun _ => 7) 0) := by
  refine ⟨fun h => ?_, fun h => ?_⟩
  · have hcond := (roundsOf_mul_le_iff 1).1 (roundsOf_mul_le h)
    exact absurd hcond.2 (by decide)
  · have hcond := (roundsOf_mul_le_iff 0).1 (roundsOf_mul_le h)
    exact absurd rfl hcond.1

end SecureLoad
