import RsiDriver.Boot.Firmware
import RsiDriver.ToMathlib.AddressedMemory
import RsiDriver.ToMathlib.Pieces

/-!
# Writing a chunk into the device over SDIO

`rsi_sdio_load_data_master_write` (`rsi_91x_sdio.c`) writes a chunk of the firmware image to a
32-bit address of the device. A write over the bus carries the lower half of the address; the upper
half stands in two registers of the device, `rsi_sdio_master_access_msword`
(`rsi_91x_sdio_ops.c`) sets it. A write therefore reaches one window of 64 KiB.

The loop compares the upper half after each block and sets the registers if it has changed. A window
that ends inside a block goes unnoticed. The destination of a chunk is taken from the table of the
image as it stands there.

## Main results

* `loadBlock_loadedUpTo`, `loadBlocks_loadedUpTo`: what one block, and any number of them, leaves in
  the device;
* `masterWrite_storesChunk_iff`: which chunks are stored without a write past its window.
-/

namespace SdioLoad

open Boot (ENOMEM EIO)

/-- A write of `size` bytes, with the ms word that was in force. -/
structure BlockWrite where
  msWord : BitVec 16
  lsbAddress : BitVec 16
  size : ℕ
  deriving DecidableEq, Repr

/-- The 32-bit address of the first byte -/
def BlockWrite.address (block : BlockWrite) : BitVec 32 := block.msWord ++ block.lsbAddress

/-- The write stays inside the 64 KiB that the ms word selects. -/
def BlockWrite.InWindow (block : BlockWrite) : Prop :=
  block.lsbAddress.toNat + block.size ≤ 2 ^ 16

/-- The device and what the driver keeps of it. The list of the writes is a history. -/
structure SdioDevice where
  /-- `SDIO_MASTER_ACCESS_MSBYTE`, which holds the lower byte of the ms word -/
  msByte : BitVec 8
  /-- `SDIO_MASTER_ACCESS_LSBYTE`, which holds the upper byte -/
  lsByte : BitVec 8
  memory : AddressedMemory 32 (BitVec 8)
  /-- `dev->write_fail` -/
  writeFail : ℕ
  /-- The number of accesses so far -/
  accesses : ℕ
  blocks : List BlockWrite

/-- The ms word in force -/
def SdioDevice.msWord (device : SdioDevice) : BitVec 16 := device.lsByte ++ device.msByte

/-- What the accesses return, and whether `kzalloc` returns a buffer. -/
structure SdioBus where
  status : ℕ → ℤ
  alloc : Bool

def SDIO_MASTER_ACCESS_MSBYTE : BitVec 32 := 0xfa
def SDIO_MASTER_ACCESS_LSBYTE : BitVec 32 := 0xfb
def SD_REQUEST_MASTER : BitVec 32 := 0x10000

/-- `address >> 16` -/
def upperHalf (address : BitVec 32) : BitVec 16 := (address >>> 16).setWidth 16

/-- `(u16)address` -/
def lowerHalf (address : BitVec 32) : BitVec 16 := address.setWidth 16

/-- `temp_buf`, filled with `n` bytes of the image and zero behind them -/
def tempBuf (taFirmware : ByteMemory) (offset n : ℕ) : ByteMemory :=
  fun i => if i < n then taFirmware (offset + i) else 0

/-- The local variables of the load -/
structure Cursor where
  baseAddress : BitVec 32
  msbAddress : BitVec 16
  offset : ℕ

namespace SdioBus

variable (bus : SdioBus)

/-- `rsi_sdio_write_register` with function 0 -/
def writeRegister (addr : BitVec 32) (byte : BitVec 8) (device : SdioDevice) : ℤ × SdioDevice :=
  let status := bus.status device.accesses
  let device := { device with accesses := device.accesses + 1 }
  if status ≠ 0 then (status, device)
  else if addr = SDIO_MASTER_ACCESS_MSBYTE then (status, { device with msByte := byte })
  else if addr = SDIO_MASTER_ACCESS_LSBYTE then (status, { device with lsByte := byte })
  else (status, device)

/-- `rsi_sdio_master_access_msword` -/
def masterAccessMsword (msWord : BitVec 16) (device : SdioDevice) : ℤ × SdioDevice :=
  let low := bus.writeRegister SDIO_MASTER_ACCESS_MSBYTE (msWord.setWidth 8) device
  if low.1 ≠ 0 then (-1, low.2)
  else bus.writeRegister SDIO_MASTER_ACCESS_LSBYTE ((msWord >>> 8).setWidth 8) low.2

/-- `sdio_writesb` at an address with `SD_REQUEST_MASTER`. The history shows whether the write has
run past its window; here its bytes go on behind it. -/
def writesb (addr : BitVec 32) (data : ByteMemory) (count : ℕ) (device : SdioDevice) :
    ℤ × SdioDevice :=
  let status := bus.status device.accesses
  let device := { device with accesses := device.accesses + 1 }
  if status ≠ 0 then (status, device)
  else
    let block : BlockWrite := ⟨device.msWord, lowerHalf addr, count⟩
    (status, { device with
      memory := device.memory.store block.address count data
      blocks := device.blocks ++ [block] })

/-- `rsi_sdio_write_register_multiple`; the build has `COMMAND_84_ERROR_WAR`. -/
def writeRegisterMultiple (addr : BitVec 32) (data : ByteMemory) (count : ℕ)
    (device : SdioDevice) : ℤ × SdioDevice :=
  if 1 < device.writeFail then (0, device)
  else
    -- after a failure one more write is allowed
    let device := if device.writeFail = 1 then { device with writeFail := 2 } else device
    let written := bus.writesb addr data count device
    if written.1 ≠ 0 ∧ written.1 ≠ -84 then (written.1, { written.2 with writeFail := 2 })
    else (0, written.2)

/-- One round of the loop of `rsi_sdio_load_data_master_write`; `none` stands for `goto err`. -/
def loadBlock (taFirmware : ByteMemory) (blockSize : BitVec 16) (cursor : Cursor)
    (device : SdioDevice) : Option Cursor × SdioDevice :=
  let n := blockSize.toNat
  let lsbAddress := (lowerHalf cursor.baseAddress).setWidth 32
  let written := bus.writeRegisterMultiple (lsbAddress ||| SD_REQUEST_MASTER)
    (tempBuf taFirmware cursor.offset n) n device
  if written.1 ≠ 0 then (none, written.2)
  else
    let baseAddress := cursor.baseAddress + blockSize.setWidth 32
    let offset := cursor.offset + n
    if baseAddress >>> 16 ≠ cursor.msbAddress.setWidth 32 then
      let msbAddress := cursor.msbAddress + 1
      let access := bus.masterAccessMsword msbAddress written.2
      if access.1 ≠ 0 then (none, access.2) else (some ⟨baseAddress, msbAddress, offset⟩, access.2)
    else (some ⟨baseAddress, cursor.msbAddress, offset⟩, written.2)

/-- The `for` loop with a number of blocks left -/
def loadBlocks (taFirmware : ByteMemory) (blockSize : BitVec 16) :
    ℕ → Cursor → SdioDevice → Option Cursor × SdioDevice
  | 0, cursor, device => (some cursor, device)
  | n + 1, cursor, device =>
    match bus.loadBlock taFirmware blockSize cursor device with
    | (none, device) => (none, device)
    | (some cursor, device) => loadBlocks taFirmware blockSize n cursor device

/-- The remainder of `rsi_sdio_load_data_master_write` behind the loop: the last block. -/
def loadRest (taFirmware : ByteMemory) (rest : ℕ) (cursor : Cursor) (device : SdioDevice) :
    ℤ × SdioDevice :=
  if rest = 0 then (0, device)
  else
    let lsbAddress := (lowerHalf cursor.baseAddress).setWidth 32
    let written := bus.writeRegisterMultiple (lsbAddress ||| SD_REQUEST_MASTER)
      (tempBuf taFirmware cursor.offset rest) rest device
    if written.1 ≠ 0 then ( EIO, written.2) else (0, written.2)

/-- `rsi_sdio_load_data_master_write` -/
def loadDataMasterWrite (baseAddress instructionsSz : BitVec 32) (blockSize : BitVec 16)
    (taFirmware : ByteMemory) (device : SdioDevice) : ℤ × SdioDevice :=
  if ¬ bus.alloc then (ENOMEM, device)
  else
    let numBlocks := instructionsSz.toNat / blockSize.toNat
    let msbAddress := upperHalf baseAddress
    let access := bus.masterAccessMsword msbAddress device
    if access.1 ≠ 0 then ( EIO, access.2)
    else
      match bus.loadBlocks taFirmware blockSize numBlocks ⟨baseAddress, msbAddress, 0⟩ access.2 with
      | (none, device) => ( EIO, device)
      | (some cursor, device) =>
        bus.loadRest taFirmware (instructionsSz.toNat % blockSize.toNat) cursor device

end SdioBus

/-! ## What one access does if the bus is in order -/

/-- A bus on which every access succeeds. -/
def SdioBus.succeeds : SdioBus := ⟨fun _ => 0, true⟩

theorem toNat_upperHalf (address : BitVec 32) :
    (upperHalf address).toNat = address.toNat / 2 ^ 16 := by
  have hlt := address.isLt
  rw [upperHalf, BitVec.toNat_setWidth, BitVec.toNat_ushiftRight, Nat.shiftRight_eq_div_pow]
  omega

theorem toNat_lowerHalf (address : BitVec 32) :
    (lowerHalf address).toNat = address.toNat % 2 ^ 16 := BitVec.toNat_setWidth 16 address

theorem upperHalf_append_lowerHalf (address : BitVec 32) :
    upperHalf address ++ lowerHalf address = address := by
  apply BitVec.eq_of_toNat_eq
  have hlow := (lowerHalf address).isLt
  rw [BitVec.toNat_append, ← Nat.shiftLeft_add_eq_or_of_lt hlow, Nat.shiftLeft_eq,
    toNat_upperHalf, toNat_lowerHalf]
  omega

/-- The device takes the low address out of what the driver sends. -/
theorem lowerHalf_or_request (low : BitVec 16) :
    lowerHalf (low.setWidth 32 ||| SD_REQUEST_MASTER) = low := by
  rw [lowerHalf, BitVec.setWidth_or, BitVec.setWidth_setWidth_of_le _ (by omega),
    BitVec.setWidth_eq]
  exact BitVec.or_zero

/-- A step by less than 64 KiB moves the upper half by one at most. -/
theorem upperHalf_add (address : BitVec 32) (n : BitVec 16) :
    upperHalf (address + n.setWidth 32) =
      if (address + n.setWidth 32) >>> 16 ≠ (upperHalf address).setWidth 32
      then upperHalf address + 1 else upperHalf address := by
  have hiff : (address + n.setWidth 32) >>> 16 = (upperHalf address).setWidth 32 ↔
      (address.toNat + n.toNat) % 2 ^ 32 / 2 ^ 16 = address.toNat / 2 ^ 16 := by
    rw [← BitVec.toNat_inj, BitVec.toNat_ushiftRight, Nat.shiftRight_eq_div_pow,
      BitVec.toNat_add, BitVec.toNat_setWidth_of_le (by omega),
      BitVec.toNat_setWidth_of_le (by omega), toNat_upperHalf]
  have haddress := address.isLt
  have hn := n.isLt
  apply BitVec.eq_of_toNat_eq
  rw [toNat_upperHalf, BitVec.toNat_add, BitVec.toNat_setWidth_of_le (by omega)]
  -- the lower half carries into the upper one at most once
  by_cases hsame : (address + n.setWidth 32) >>> 16 = (upperHalf address).setWidth 32
  · rw [if_neg (not_not_intro hsame), toNat_upperHalf, hiff.1 hsame]
  · rw [if_pos hsame, BitVec.toNat_add, toNat_upperHalf]
    rw [hiff] at hsame
    simp only [BitVec.reduceToNat]
    omega

/-- `rsi_sdio_master_access_msword` puts the ms word into the two registers. -/
theorem masterAccessMsword_succeeds (msWord : BitVec 16) (device : SdioDevice) :
    ∃ device', SdioBus.succeeds.masterAccessMsword msWord device = (0, device') ∧
      device'.msWord = msWord ∧ device'.memory = device.memory ∧
      device'.writeFail = device.writeFail ∧ device'.blocks = device.blocks := by
  refine ⟨_, rfl, ?_, rfl, rfl, rfl⟩
  apply BitVec.eq_of_toNat_eq
  have hword := msWord.isLt
  show ((msWord >>> 8).setWidth 8 ++ msWord.setWidth 8).toNat = msWord.toNat
  have hlow := (msWord.setWidth 8).isLt
  rw [BitVec.toNat_append, ← Nat.shiftLeft_add_eq_or_of_lt hlow, Nat.shiftLeft_eq,
    BitVec.toNat_setWidth, BitVec.toNat_setWidth, BitVec.toNat_ushiftRight,
    Nat.shiftRight_eq_div_pow]
  omega

/-- A write under the ms word of its address goes to that address. -/
theorem writeRegisterMultiple_succeeds {device : SdioDevice} {address : BitVec 32}
    (hword : device.msWord = upperHalf address) (hfail : device.writeFail = 0)
    (data : ByteMemory) (count : ℕ) :
    SdioBus.succeeds.writeRegisterMultiple
        ((lowerHalf address).setWidth 32 ||| SD_REQUEST_MASTER) data count device =
      (0, { device with
        accesses := device.accesses + 1
        memory := device.memory.store address count data
        blocks := device.blocks ++ [⟨upperHalf address, lowerHalf address, count⟩] }) := by
  have hfirst : ¬ 1 < device.writeFail ∧ ¬ device.writeFail = 1 := by omega
  have hregisters : device.lsByte ++ device.msByte = upperHalf address := hword
  have haddress := upperHalf_append_lowerHalf address
  rw [SdioBus.writeRegisterMultiple, if_neg hfirst.1, if_neg hfirst.2]
  simp [SdioBus.writesb, SdioBus.succeeds, lowerHalf_or_request, BlockWrite.address,
    SdioDevice.msWord, hregisters, haddress]

/-! ## The blocks of a chunk -/

/-- The write of `size` bytes that stand `start` bytes into the chunk -/
def blockAt (base : BitVec 32) (start size : ℕ) : BlockWrite where
  msWord := upperHalf (base + BitVec.ofNat 32 start)
  lsbAddress := lowerHalf (base + BitVec.ofNat 32 start)
  size := size

/-- The writes of a chunk of `size` bytes: blocks of `n` bytes, and what is left. -/
def blocksOf (base : BitVec 32) (n size : ℕ) : List BlockWrite :=
  (List.range (size / n)).map (fun k => blockAt base (k * n) n) ++
    if size % n = 0 then [] else [blockAt base (size / n * n) (size % n)]

theorem address_blockAt (base : BitVec 32) (start size : ℕ) :
    (blockAt base start size).address = base + BitVec.ofNat 32 start :=
  upperHalf_append_lowerHalf _

theorem inWindow_blockAt {base : BitVec 32} {start size : ℕ} :
    (blockAt base start size).InWindow ↔ (base.toNat + start) % 2 ^ 16 + size ≤ 2 ^ 16 := by
  have hlow : (lowerHalf (base + BitVec.ofNat 32 start)).toNat = (base.toNat + start) % 2 ^ 16 := by
    rw [toNat_lowerHalf, BitVec.toNat_add, BitVec.toNat_ofNat]
    omega
  rw [BlockWrite.InWindow, blockAt, hlow]

/-- The state of the load with `k` blocks of `n` bytes behind it. -/
structure LoadedUpTo (taFirmware : ByteMemory) (base : BitVec 32) (n : ℕ)
    (memory : AddressedMemory 32 (BitVec 8)) (k : ℕ) (cursor : Cursor) (device : SdioDevice) :
    Prop where
  baseAddress : cursor.baseAddress = base + BitVec.ofNat 32 (k * n)
  msbAddress : cursor.msbAddress = upperHalf cursor.baseAddress
  offset : cursor.offset = k * n
  msWord : device.msWord = cursor.msbAddress
  memory : device.memory = memory.store base (k * n) taFirmware
  writeFail : device.writeFail = 0
  blocks : device.blocks = (List.range k).map fun j => blockAt base (j * n) n

variable {taFirmware : ByteMemory} {base : BitVec 32} {memory : AddressedMemory 32 (BitVec 8)}
  {k n : ℕ} {cursor : Cursor} {device : SdioDevice}

/-- What a write puts behind the blocks that are there. -/
theorem LoadedUpTo.store (h : LoadedUpTo taFirmware base n memory k cursor device) (size : ℕ)
    (hsize : k * n + size ≤ 2 ^ 32) :
    device.memory.store cursor.baseAddress size (tempBuf taFirmware cursor.offset size) =
      memory.store base (k * n + size) taFirmware := by
  have hdata : ∀ i < size, tempBuf taFirmware cursor.offset size i = taFirmware (k * n + i) := by
    intro i hi
    rw [tempBuf, if_pos hi, h.offset]
  rw [AddressedMemory.store_congr _ _ hdata, h.memory, h.baseAddress,
    AddressedMemory.store_store _ _ hsize]

/-- The address behind `k + 1` blocks -/
theorem next_baseAddress {address : BitVec 32} {blockSize : BitVec 16}
    (h : address = base + BitVec.ofNat 32 (k * blockSize.toNat)) :
    address + blockSize.setWidth 32 = base + BitVec.ofNat 32 ((k + 1) * blockSize.toNat) := by
  rw [h, Nat.add_one_mul, BitVec.ofNat_add, ← BitVec.add_assoc, BitVec.ofNat_toNat]

/-- One more block: **the ms word is that of the next address again.** -/
theorem loadBlock_loadedUpTo {blockSize : BitVec 16}
    (h : LoadedUpTo taFirmware base blockSize.toNat memory k cursor device)
    (hsize : (k + 1) * blockSize.toNat ≤ 2 ^ 32) :
    ∃ cursor' device', SdioBus.succeeds.loadBlock taFirmware blockSize cursor device =
        (some cursor', device') ∧
      LoadedUpTo taFirmware base blockSize.toNat memory (k + 1) cursor' device' := by
  have hnext := next_baseAddress h.baseAddress
  have hoffset : cursor.offset + blockSize.toNat = (k + 1) * blockSize.toNat := by
    rw [h.offset, Nat.add_one_mul]
  have hstore := h.store blockSize.toNat (by rwa [← Nat.add_one_mul])
  rw [← Nat.add_one_mul] at hstore
  have hblocks : device.blocks ++
      [⟨upperHalf cursor.baseAddress, lowerHalf cursor.baseAddress, blockSize.toNat⟩] =
      (List.range (k + 1)).map fun j => blockAt base (j * blockSize.toNat) blockSize.toNat := by
    rw [h.blocks, List.range_succ, List.map_append, h.baseAddress]
    rfl
  have hwrite := writeRegisterMultiple_succeeds (h.msWord.trans h.msbAddress) h.writeFail
    (tempBuf taFirmware cursor.offset blockSize.toNat) blockSize.toNat
  have hupper := upperHalf_add cursor.baseAddress blockSize
  rw [← h.msbAddress] at hupper
  rw [SdioBus.loadBlock]
  simp only [hwrite, ne_eq, not_true_eq_false, if_false]
  by_cases hcross : (cursor.baseAddress + blockSize.setWidth 32) >>> 16 =
      cursor.msbAddress.setWidth 32
  · -- the next block is in the same window
    rw [if_neg (not_not_intro hcross)] at hupper ⊢
    exact ⟨_, _, rfl, hnext, hupper.symm, hoffset, h.msWord, hstore, h.writeFail, hblocks⟩
  · -- the next block starts a window
    rw [if_pos hcross] at hupper ⊢
    obtain ⟨device', haccess, hword, hmemory, hfail, hwritten⟩ :=
      masterAccessMsword_succeeds (cursor.msbAddress + 1)
        { device with
          accesses := device.accesses + 1
          memory := device.memory.store cursor.baseAddress blockSize.toNat
            (tempBuf taFirmware cursor.offset blockSize.toNat)
          blocks := device.blocks ++
            [⟨upperHalf cursor.baseAddress, lowerHalf cursor.baseAddress, blockSize.toNat⟩] }
    rw [haccess]
    exact ⟨_, _, rfl, hnext, hupper.symm, hoffset, hword, hmemory.trans hstore,
      hfail.trans h.writeFail, hwritten.trans hblocks⟩

/-- Any number of blocks, one after the other. -/
theorem loadBlocks_loadedUpTo {blockSize : BitVec 16} (m : ℕ)
    (h : LoadedUpTo taFirmware base blockSize.toNat memory k cursor device)
    (hsize : (k + m) * blockSize.toNat ≤ 2 ^ 32) :
    ∃ cursor' device', SdioBus.succeeds.loadBlocks taFirmware blockSize m cursor device =
        (some cursor', device') ∧
      LoadedUpTo taFirmware base blockSize.toNat memory (k + m) cursor' device' := by
  induction m generalizing k cursor device with
  | zero => exact ⟨cursor, device, rfl, h⟩
  | succ m ih =>
    have hfirst : (k + 1) * blockSize.toNat ≤ (k + (m + 1)) * blockSize.toNat :=
      Nat.mul_le_mul_right _ (by omega)
    obtain ⟨cursor₁, device₁, hblock, h₁⟩ := loadBlock_loadedUpTo h (Nat.le_trans hfirst hsize)
    have hcount : k + 1 + m = k + (m + 1) := by omega
    rw [← hcount] at hsize ⊢
    rw [SdioBus.loadBlocks, hblock]
    exact ih h₁ hsize

/-- The last block. -/
theorem loadRest_loadedUpTo (h : LoadedUpTo taFirmware base n memory k cursor device) (rest : ℕ)
    (hsize : k * n + rest ≤ 2 ^ 32) :
    ∃ device', SdioBus.succeeds.loadRest taFirmware rest cursor device = (0, device') ∧
      device'.memory = memory.store base (k * n + rest) taFirmware ∧
      device'.blocks = (List.range k).map (fun j => blockAt base (j * n) n) ++
        if rest = 0 then [] else [blockAt base (k * n) rest] := by
  rw [SdioBus.loadRest]
  by_cases hrest : rest = 0
  · subst hrest
    refine ⟨device, rfl, h.memory, ?_⟩
    rw [if_pos rfl, List.append_nil, h.blocks]
  · rw [if_neg hrest, if_neg hrest, ← h.store rest hsize, ← h.blocks]
    simp only [writeRegisterMultiple_succeeds (h.msWord.trans h.msbAddress) h.writeFail, ne_eq,
      not_true_eq_false, if_false]
    refine ⟨_, rfl, rfl, ?_⟩
    rw [h.baseAddress]
    rfl

/-- A device that nothing has been written to, whatever is in its memory and in its registers. -/
def SdioDevice.idle (memory : AddressedMemory 32 (BitVec 8)) (msByte lsByte : BitVec 8) :
    SdioDevice :=
  ⟨msByte, lsByte, memory, 0, 0, []⟩

/-- **What a load writes**, for any size of its blocks. -/
theorem loadDataMasterWrite_succeeds (memory : AddressedMemory 32 (BitVec 8))
    (msByte lsByte : BitVec 8) (base size : BitVec 32) (blockSize : BitVec 16)
    (taFirmware : ByteMemory) :
    ∃ device', SdioBus.succeeds.loadDataMasterWrite base size blockSize taFirmware
        (SdioDevice.idle memory msByte lsByte) = (0, device') ∧
      device'.memory = memory.store base size.toNat taFirmware ∧
      device'.blocks = blocksOf base blockSize.toNat size.toNat := by
  obtain ⟨device₀, haccess, hword, hmemory, hfail, hblocks⟩ :=
    masterAccessMsword_succeeds (upperHalf base) (SdioDevice.idle memory msByte lsByte)
  -- in front of the loop nothing is stored, and the registers hold the upper half of `base`
  have hstart : LoadedUpTo taFirmware base blockSize.toNat memory 0 ⟨base, upperHalf base, 0⟩
      device₀ := by
    refine ⟨?_, rfl, (Nat.zero_mul _).symm, hword, ?_, hfail, hblocks⟩
    · rw [Nat.zero_mul]
      exact (BitVec.add_zero base).symm
    · rw [Nat.zero_mul, AddressedMemory.store_zero]
      exact hmemory
  have hsplit := Nat.div_add_mod' size.toNat blockSize.toNat
  have hsize := size.isLt
  obtain ⟨cursor, device₁, hloop, h₁⟩ :=
    loadBlocks_loadedUpTo (size.toNat / blockSize.toNat) hstart (by rw [Nat.zero_add]; omega)
  rw [Nat.zero_add] at h₁
  -- the remainder goes on where the loop has stopped
  obtain ⟨device₂, hrest, hmemory₂, hblocks₂⟩ :=
    loadRest_loadedUpTo h₁ (size.toNat % blockSize.toNat) (by omega)
  rw [hsplit] at hmemory₂
  refine ⟨device₂, ?_, hmemory₂, hblocks₂⟩
  have halloc : ¬ ¬ SdioBus.succeeds.alloc = true := not_not_intro rfl
  rw [SdioBus.loadDataMasterWrite, if_neg halloc]
  simp only [haccess, ne_eq, not_true_eq_false, if_false, hloop, hrest]

/-! ## Which chunks stay in their windows -/

/-- **The chunk is stored**: byte `i` of it at `base + i` and nothing anywhere else, by writes each
of which carries the address of its block and stays in its window. -/
structure StoresChunk (base : BitVec 32) (n size : ℕ) (taFirmware : ByteMemory)
    (before after : SdioDevice) : Prop where
  memory : ∀ address, after.memory address =
    if (address - base).toNat < size then taFirmware (address - base).toNat
    else before.memory address
  msWord : ∀ k block, after.blocks[k]? = some block →
    block.msWord = upperHalf (base + BitVec.ofNat 32 (k * n))
  window : ∀ block ∈ after.blocks, block.InWindow

/-- The transfers of the pieces of a region -/
theorem blocksOf_eq {size : ℕ} :
    blocksOf base n size =
      (ByteRange.pieces n size).map fun r => blockAt base r.start r.size := by
  rw [blocksOf, ByteRange.pieces, List.map_append, List.map_map]
  congr 1
  split <;> rfl

theorem blocksOf_msWord {size : ℕ} {block : BlockWrite}
    (h : (blocksOf base n size)[k]? = some block) :
    block.msWord = upperHalf (base + BitVec.ofNat 32 (k * n)) := by
  rw [blocksOf_eq, List.getElem?_map] at h
  obtain ⟨r, hr, rfl⟩ := Option.map_eq_some_iff.1 h
  rw [blockAt, ByteRange.start_of_getElem?_pieces hr]

/-- The blocks of 256 bytes that run past a window: those of a chunk that starts off a multiple of
256 and reaches into a second window. -/
theorem blocksOf_inWindow {size : ℕ} :
    (∀ block ∈ blocksOf base 256 size, block.InWindow) ↔
      size = 0 ∨ base.toNat % 256 = 0 ∨
        base.toNat / 2 ^ 16 = (base.toNat + size - 1) / 2 ^ 16 := by
  have hall : (∀ block ∈ blocksOf base 256 size, block.InWindow) ↔
      (∀ k < size / 256, (base.toNat + k * 256) % 2 ^ 16 + 256 ≤ 2 ^ 16) ∧
        (size % 256 ≠ 0 →
          (base.toNat + size / 256 * 256) % 2 ^ 16 + size % 256 ≤ 2 ^ 16) := by
    rw [blocksOf_eq, List.forall_mem_map, ByteRange.forall_pieces]
    simp only [inWindow_blockAt]
  rw [hall]
  constructor
  · rintro ⟨hblocks, hrest⟩
    -- the block that the next window starts in
    have hblock := hblocks (((base.toNat / 2 ^ 16 + 1) * 2 ^ 16 - base.toNat) / 256)
    omega
  · intro h
    refine ⟨fun k hk => ?_, fun hrest => ?_⟩
    · omega
    · omega

/-- **Which chunks are stored** by `rsi_sdio_load_data_master_write` with blocks of 256 bytes. -/
theorem masterWrite_storesChunk_iff (memory : AddressedMemory 32 (BitVec 8))
    (msByte lsByte : BitVec 8) (base size : BitVec 32) (taFirmware : ByteMemory) :
    ((SdioBus.succeeds.loadDataMasterWrite base size 256 taFirmware
        (SdioDevice.idle memory msByte lsByte)).1 = 0 ∧
      StoresChunk base 256 size.toNat taFirmware (SdioDevice.idle memory msByte lsByte)
        (SdioBus.succeeds.loadDataMasterWrite base size 256 taFirmware
          (SdioDevice.idle memory msByte lsByte)).2) ↔
      size.toNat = 0 ∨ base.toNat % 256 = 0 ∨
        base.toNat / 2 ^ 16 = (base.toNat + size.toNat - 1) / 2 ^ 16 := by
  obtain ⟨device, hrun, hmemory, hblocks⟩ :=
    loadDataMasterWrite_succeeds memory msByte lsByte base size 256 taFirmware
  rw [hrun, ← blocksOf_inWindow]
  have hblocks' : device.blocks = blocksOf base 256 size.toNat := hblocks
  constructor
  · rintro ⟨-, h⟩
    rw [← hblocks']
    exact h.window
  · intro hwindow
    -- the bytes and the upper halves are right in any case
    refine ⟨rfl, fun address => ?_, fun k block hblock => ?_, ?_⟩
    · rw [hmemory]
      rfl
    · exact blocksOf_msWord (by rwa [← hblocks'])
    · rwa [hblocks']

/-- A chunk of 256 bytes for the address 0xff80: its only block runs into the next window. -/
theorem masterWrite_not_storesChunk :
    ¬ ∀ (memory : AddressedMemory 32 (BitVec 8)) (msByte lsByte : BitVec 8)
      (base size : BitVec 32) (taFirmware : ByteMemory),
      (SdioBus.succeeds.loadDataMasterWrite base size 256 taFirmware
          (SdioDevice.idle memory msByte lsByte)).1 = 0 ∧
        StoresChunk base 256 size.toNat taFirmware (SdioDevice.idle memory msByte lsByte)
          (SdioBus.succeeds.loadDataMasterWrite base size 256 taFirmware
            (SdioDevice.idle memory msByte lsByte)).2 := by
  intro hall
  have hstored := (hall (fun _ => 0) 0 0 0xff80 256 (fun _ => 0)).2.window
  obtain ⟨device, hrun, -, hblocks⟩ :=
    loadDataMasterWrite_succeeds (fun _ => 0) 0 0 0xff80 256 256 (fun _ => 0)
  -- one block, half of which lies in the next window
  have hblocks' : device.blocks = [blockAt 0xff80 0 256] := hblocks
  rw [hrun, hblocks'] at hstored
  have hwindow := inWindow_blockAt.1 (hstored _ List.mem_cons_self)
  exact absurd hwindow (by decide)

end SdioLoad
