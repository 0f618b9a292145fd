import RsiDriver.Boot.MasterWrite
import RsiDriver.ToMathlib.AccessTrace
import RsiDriver.ToMathlib.Pieces

/-!
# Reading and writing a region of the device

With `NO_FIRMWARE_LOAD_SUPPORT` an application can write a region of the device's memory and read it
(`rsi_sdio_write_data_region` and `rsi_sdio_read_data_region` in `rsi_91x_nlsock.c`). Both cut the
region into blocks, which go through `temp_buf`, as `rsi_sdio_load_data_master_write` does: the ms
word is set in front of the first block and when the upper half of the address has changed behind a
block.

A block can run past the window of 64 KiB that the ms word selects. What the device does with the
bytes behind the window is not in the driver, so every way is allowed here. The read copies a whole
block to the caller also where fewer bytes are left.

The transfers of both directions are recorded as `BlockWrite`s.

## Main results

* `region_run`: a transfer does with each piece of the region what the block does;
* `roundTrips_iff`: the regions that can be written and read back on every device.
-/

namespace DataRegion

open Boot (ENOMEM EIO)
open SdioLoad

/-- The memory of the host: the buffer of the caller and `temp_buf` -/
inductive Buf
  | caller
  | temp
  deriving DecidableEq, Repr

/-- Which cell of the device the bytes of a transfer belong to. Inside the window they stand one
behind the other. -/
structure Addressing where
  cell : (msWord lsbAddress : BitVec 16) → ℕ → BitVec 32
  cell_of_lt : ∀ {msWord lsbAddress i}, lsbAddress.toNat + i < 2 ^ 16 →
    cell msWord lsbAddress i = msWord ++ lsbAddress + BitVec.ofNat 32 i

/-- The bytes of a transfer are put into the device. -/
def Addressing.put (d : Addressing) (block : BlockWrite) (data : ByteMemory)
    (memory : AddressedMemory 32 (BitVec 8)) : AddressedMemory 32 (BitVec 8) :=
  (List.range block.size).foldl
    (fun m i => Function.update m (d.cell block.msWord block.lsbAddress i) (data i)) memory

/-- The bytes of a transfer, zero behind them -/
def Addressing.get (d : Addressing) (block : BlockWrite)
    (memory : AddressedMemory 32 (BitVec 8)) : ByteMemory :=
  fun i => if i < block.size then memory (d.cell block.msWord block.lsbAddress i) else 0

/-- The device and the accesses to the memory of the host so far -/
structure State where
  device : SdioDevice
  host : List (Access Buf)

section Transfers

variable (bus : SdioBus) (d : Addressing)

/-- `sdio_writesb` at an address with `SD_REQUEST_MASTER` -/
def writesb (addr : BitVec 32) (data : ByteMemory) (count : ℕ) (device : SdioDevice) :
    ℤ × SdioDevice :=
  let status := bus.status device.accesses
  let device := { device with accesses := device.accesses + 1 }
  if status ≠ 0 then (status, device)
  else
    let block : BlockWrite := ⟨device.msWord, lowerHalf addr, count⟩
    (status, { device with
      memory := d.put block data device.memory
      blocks := device.blocks ++ [block] })

/-- `rsi_sdio_write_register_multiple`; the build has `COMMAND_84_ERROR_WAR`. -/
def writeRegMultiple (addr : BitVec 32) (data : ByteMemory) (count : ℕ) (device : SdioDevice) :
    ℤ × SdioDevice :=
  if 1 < device.writeFail then (0, device)
  else
    -- after a failure one more write is allowed
    let device := if device.writeFail = 1 then { device with writeFail := 2 } else device
    let written := writesb bus d addr data count device
    if written.1 ≠ 0 ∧ written.1 ≠ -84 then (written.1, { written.2 with writeFail := 2 })
    else (0, written.2)

/-- `rsi_sdio_read_register_multiple` at an address with `SD_REQUEST_MASTER`, into a buffer of
zeros -/
def readRegMultiple (addr : BitVec 32) (count : ℕ) (device : SdioDevice) :
    ℤ × ByteMemory × SdioDevice :=
  let status := bus.status device.accesses
  let device := { device with accesses := device.accesses + 1 }
  if status ≠ 0 then (status, fun _ => 0, device)
  else
    let block : BlockWrite := ⟨device.msWord, lowerHalf addr, count⟩
    (status, d.get block device.memory, { device with blocks := device.blocks ++ [block] })

/-- The `memset` of `temp_buf` -/
def clearTemp (blockSize : BitVec 16) : Access Buf :=
  .write .temp 0 (List.replicate blockSize.toNat 0)

/-- The write of `n` bytes of the caller: a whole block in the loop, and what is left behind it. -/
def writeBlock (data : ByteMemory) (blockSize : BitVec 16) (cursor : Cursor) (n : ℕ) (s : State) :
    ℤ × State :=
  let lsbAddress := (lowerHalf cursor.baseAddress).setWidth 32
  let written := writeRegMultiple bus d (lsbAddress ||| SD_REQUEST_MASTER)
    (tempBuf data cursor.offset n) n s.device
  (written.1, ⟨written.2, s.host ++ clearTemp blockSize ::
    Access.copy data .caller cursor.offset n .temp 0 ++ [.read .temp ⟨0, n⟩]⟩)

/-- The read of `n` bytes. The copy to the caller is of a whole block. -/
def readBlock (blockSize : BitVec 16) (cursor : Cursor) (n : ℕ) (s : State) : ℤ × State :=
  let lsbAddress := (lowerHalf cursor.baseAddress).setWidth 32
  let read := readRegMultiple bus d (lsbAddress ||| SD_REQUEST_MASTER) n s.device
  let filled := s.host ++ [clearTemp blockSize, .write .temp 0 (read.2.1.bytes 0 n)]
  if read.1 ≠ 0 then (read.1, ⟨read.2.2, filled⟩)
  else
    (0, ⟨read.2.2, filled ++
      Access.copy read.2.1 .temp 0 blockSize.toNat .caller cursor.offset⟩)

/-- One round of the loop; `none` stands for `goto err`. -/
def regionBlock (block : Cursor → ℕ → State → ℤ × State) (blockSize : BitVec 16) (cursor : Cursor)
    (s : State) : Option Cursor × State :=
  let moved := block cursor blockSize.toNat s
  if moved.1 ≠ 0 then (none, moved.2)
  else
    let baseAddress := cursor.baseAddress + blockSize.setWidth 32
    let offset := cursor.offset + blockSize.toNat
    if baseAddress >>> 16 ≠ cursor.msbAddress.setWidth 32 then
      let msbAddress := cursor.msbAddress + 1
      let access := bus.masterAccessMsword msbAddress moved.2.device
      let s := { moved.2 with device := access.2 }
      if access.1 ≠ 0 then (none, s) else (some ⟨baseAddress, msbAddress, offset⟩, s)
    else (some ⟨baseAddress, cursor.msbAddress, offset⟩, moved.2)

/-- The `for` loop with a number of blocks left -/
def regionBlocks (block : Cursor → ℕ → State → ℤ × State) (blockSize : BitVec 16) :
    ℕ → Cursor → State → Option Cursor × State
  | 0, cursor, s => (some cursor, s)
  | n + 1, cursor, s =>
    match regionBlock bus block blockSize cursor s with
    | (none, s) => (none, s)
    | (some cursor, s) => regionBlocks block blockSize n cursor s

/-- What the two functions have in common. They return nothing if the division by the block size
traps. -/
def region (block : Cursor → ℕ → State → ℤ × State) (baseAddress instructionsSz : BitVec 32)
    (blockSize : BitVec 16) (s : State) : Option ℤ × State :=
  if ¬ bus.alloc then (some ENOMEM, s)
  else if blockSize = 0 then (none, s)
  else
    let numBlocks := instructionsSz.toNat / blockSize.toNat
    let rest := instructionsSz.toNat % blockSize.toNat
    let msbAddress := upperHalf baseAddress
    let access := bus.masterAccessMsword msbAddress s.device
    let s := { s with device := access.2 }
    if access.1 ≠ 0 then (some EIO, s)
    else
      match regionBlocks bus block blockSize numBlocks ⟨baseAddress, msbAddress, 0⟩ s with
      | (none, s) => (some EIO, s)
      | (some cursor, s) =>
        -- the last block, under the ms word that the loop has left
        if rest = 0 then (some 0, s)
        else
          let moved := block cursor rest s
          if moved.1 ≠ 0 then (some EIO, moved.2) else (some 0, moved.2)

/-- `rsi_sdio_write_data_region` -/
def writeDataRegion (baseAddress instructionsSz : BitVec 32) (blockSize : BitVec 16)
    (data : ByteMemory) (s : State) : Option ℤ × State :=
  region bus (writeBlock bus d data blockSize) baseAddress instructionsSz blockSize s

/-- `rsi_sdio_read_data_region` -/
def readDataRegion (baseAddress instructionsSz : BitVec 32) (blockSize : BitVec 16) (s : State) :
    Option ℤ × State :=
  region bus (readBlock bus d blockSize) baseAddress instructionsSz blockSize s

end Transfers

/-! ## What a transfer does on a bus in order -/

/-- The memory of the device, and the accesses to that of the host -/
abbrev Memories := AddressedMemory 32 (BitVec 8) × List (Access Buf)

/-- What a block does with a piece of the region: to the device's memory, and the accesses to the
memory of the host. -/
structure Effect where
  memory : ByteRange → AddressedMemory 32 (BitVec 8) → AddressedMemory 32 (BitVec 8)
  host : ByteRange → AddressedMemory 32 (BitVec 8) → List (Access Buf)

/-- One piece more -/
def Effect.apply (e : Effect) (s : Memories) (r : ByteRange) : Memories :=
  (e.memory r s.1, s.2 ++ e.host r s.1)

/-- Under the ms word of its address a block has the effect and is one transfer. -/
def HasEffect (block : Cursor → ℕ → State → ℤ × State) (base : BitVec 32) (e : Effect) : Prop :=
  ∀ (cursor : Cursor) (r : ByteRange) (s : State),
    cursor.baseAddress = base + BitVec.ofNat 32 r.start → cursor.offset = r.start →
    s.device.msWord = upperHalf cursor.baseAddress → s.device.writeFail = 0 →
    ∃ s', block cursor r.size s = (0, s') ∧ s'.device.msWord = s.device.msWord ∧
      s'.device.writeFail = 0 ∧
      s'.device.blocks = s.device.blocks ++ [blockAt base r.start r.size] ∧
      (s'.device.memory, s'.host) = e.apply (s.device.memory, s.host) r

/-- The state of a transfer from `s₀` on with `k` blocks of `n` bytes behind it. -/
structure MovedUpTo (e : Effect) (base : BitVec 32) (n : ℕ) (s₀ : State) (k : ℕ) (cursor : Cursor)
    (s : State) : Prop where
  baseAddress : cursor.baseAddress = base + BitVec.ofNat 32 (k * n)
  msbAddress : cursor.msbAddress = upperHalf cursor.baseAddress
  offset : cursor.offset = k * n
  msWord : s.device.msWord = cursor.msbAddress
  writeFail : s.device.writeFail = 0
  blocks : s.device.blocks =
    s₀.device.blocks ++ (List.range k).map fun j => blockAt base (j * n) n
  effect : (s.device.memory, s.host) =
    ((List.range k).map fun j => (⟨j * n, n⟩ : ByteRange)).foldl e.apply
      (s₀.device.memory, s₀.host)

variable {block : Cursor → ℕ → State → ℤ × State} {e : Effect} {base : BitVec 32}
  {blockSize : BitVec 16} {s₀ s : State} {cursor : Cursor} {k : ℕ}

/-- One more block: **the ms word is that of the next address again.** -/
theorem regionBlock_movedUpTo (he : HasEffect block base e)
    (h : MovedUpTo e base blockSize.toNat s₀ k cursor s) :
    ∃ cursor' s', regionBlock SdioBus.succeeds block blockSize cursor s = (some cursor', s') ∧
      MovedUpTo e base blockSize.toNat s₀ (k + 1) cursor' s' := by
  obtain ⟨s₁, hblock, hword, hfail, hblocks, heffect⟩ :=
    he cursor ⟨k * blockSize.toNat, blockSize.toNat⟩ s h.baseAddress h.offset
      (h.msWord.trans h.msbAddress) h.writeFail
  have hnext := next_baseAddress h.baseAddress
  have hoffset : cursor.offset + blockSize.toNat = (k + 1) * blockSize.toNat := by
    rw [h.offset, Nat.add_one_mul]
  rw [h.blocks, List.append_assoc] at hblocks
  have hblocks₁ : s₁.device.blocks = s₀.device.blocks ++
      (List.range (k + 1)).map fun j => blockAt base (j * blockSize.toNat) blockSize.toNat := by
    rw [hblocks, List.range_succ, List.map_append]
    rfl
  have heffect₁ : (s₁.device.memory, s₁.host) =
      ((List.range (k + 1)).map fun j => (⟨j * blockSize.toNat, blockSize.toNat⟩ :
        ByteRange)).foldl e.apply (s₀.device.memory, s₀.host) := by
    rw [heffect, List.range_succ, List.map_append, List.foldl_append, ← h.effect]
    rfl
  have hupper := upperHalf_add cursor.baseAddress blockSize
  rw [← h.msbAddress] at hupper
  rw [regionBlock]
  simp only [hblock, ne_eq, not_true_eq_false, if_false]
  by_cases hcross : (cursor.baseAddress + blockSize.setWidth 32) >>> 16 =
      cursor.msbAddress.setWidth 32
  · -- the next block is in the same window
    rw [if_neg (not_not_intro hcross)] at hupper ⊢
    exact ⟨_, _, rfl, hnext, hupper.symm, hoffset, hword.trans h.msWord, hfail, hblocks₁, heffect₁⟩
  · -- the next block starts a window
    rw [if_pos hcross] at hupper ⊢
    obtain ⟨device', haccess, hword', hmemory', hfail', hblocks'⟩ :=
      masterAccessMsword_succeeds (cursor.msbAddress + 1) s₁.device
    rw [haccess]
    refine ⟨_, _, rfl, hnext, hupper.symm, hoffset, hword', hfail'.trans hfail,
      hblocks'.trans hblocks₁, ?_⟩
    show (device'.memory, s₁.host) = _
    rw [hmemory', heffect₁]

/-- A block size of zero traps. -/
theorem region_zero (size : BitVec 32) : (region SdioBus.succeeds block base size 0 s).1 = none :=
  rfl

/-- Any number of blocks, one after the other. -/
theorem regionBlocks_movedUpTo (he : HasEffect block base e) (m : ℕ)
    (h : MovedUpTo e base blockSize.toNat s₀ k cursor s) :
    ∃ cursor' s', regionBlocks SdioBus.succeeds block blockSize m cursor s = (some cursor', s') ∧
      MovedUpTo e base blockSize.toNat s₀ (k + m) cursor' s' := by
  induction m generalizing k cursor s with
  | zero => exact ⟨cursor, s, rfl, h⟩
  | succ m ih =>
    obtain ⟨cursor₁, s₁, hblock, h₁⟩ := regionBlock_movedUpTo he h
    have hcount : k + 1 + m = k + (m + 1) := by omega
    rw [← hcount, regionBlocks, hblock]
    exact ih h₁

/-- **What a transfer does**: with each piece of the region what the block does with it. -/
theorem region_run (he : HasEffect block base e) (hsize : blockSize ≠ 0) (size : BitVec 32)
    (hfail : s.device.writeFail = 0) :
    ∃ s', region SdioBus.succeeds block base size blockSize s = (some 0, s') ∧
      s'.device.writeFail = 0 ∧
      s'.device.blocks = s.device.blocks ++
        (ByteRange.pieces blockSize.toNat size.toNat).map (fun r => blockAt base r.start r.size) ∧
      (s'.device.memory, s'.host) =
        (ByteRange.pieces blockSize.toNat size.toNat).foldl e.apply (s.device.memory, s.host) := by
  obtain ⟨device₀, haccess, hword₀, hmemory₀, hfail₀, hblocks₀⟩ :=
    masterAccessMsword_succeeds (upperHalf base) s.device
  have hstart : MovedUpTo e base blockSize.toNat s 0 ⟨base, upperHalf base, 0⟩
      { s with device := device₀ } := by
    refine ⟨?_, rfl, (Nat.zero_mul _).symm, hword₀, hfail₀.trans hfail, ?_, ?_⟩
    · rw [Nat.zero_mul]
      exact (BitVec.add_zero base).symm
    · exact hblocks₀.trans (List.append_nil _).symm
    · show (device₀.memory, s.host) = (s.device.memory, s.host)
      rw [hmemory₀]
  obtain ⟨cursor, s₁, hloop, h₁⟩ :=
    regionBlocks_movedUpTo he (size.toNat / blockSize.toNat) hstart
  rw [Nat.zero_add] at h₁
  have halloc : ¬ ¬ SdioBus.succeeds.alloc = true := not_not_intro rfl
  rw [region, if_neg halloc, if_neg hsize]
  simp only [haccess, ne_eq, not_true_eq_false, if_false, hloop]
  by_cases hrest : size.toNat % blockSize.toNat = 0
  · refine ⟨s₁, by rw [if_pos hrest], h₁.writeFail, ?_, ?_⟩
    · rw [h₁.blocks, ByteRange.pieces, if_pos hrest, List.append_nil, List.map_map]
      rfl
    · rw [h₁.effect, ByteRange.pieces, if_pos hrest, List.append_nil]
  · -- the remainder goes on where the loop has stopped
    obtain ⟨s₂, hblock, -, hfail₂, hblocks₂, heffect₂⟩ :=
      he cursor ⟨size.toNat / blockSize.toNat * blockSize.toNat, size.toNat % blockSize.toNat⟩ s₁
        h₁.baseAddress h₁.offset (h₁.msWord.trans h₁.msbAddress) h₁.writeFail
    refine ⟨s₂, ?_, hfail₂, ?_, ?_⟩
    · rw [if_neg hrest]
      simp only [hblock, not_true_eq_false, if_false]
    · rw [hblocks₂, h₁.blocks, ByteRange.pieces, if_neg hrest, List.map_append, List.map_map,
        List.append_assoc]
      rfl
    · rw [heffect₂, h₁.effect, ByteRange.pieces, if_neg hrest, List.foldl_append]
      rfl

/-! ## The two blocks -/

/-- The effect of a block that is written -/
def writeEffect (d : Addressing) (data : ByteMemory) (blockSize : BitVec 16) (base : BitVec 32) :
    Effect where
  memory r memory := d.put (blockAt base r.start r.size) (tempBuf data r.start r.size) memory
  host r _ := clearTemp blockSize :: Access.copy data .caller r.start r.size .temp 0 ++
    [.read .temp ⟨0, r.size⟩]

/-- The effect of a block that is read -/
def readEffect (d : Addressing) (blockSize : BitVec 16) (base : BitVec 32) : Effect where
  memory _ memory := memory
  host r memory :=
    let bytes := d.get (blockAt base r.start r.size) memory
    [clearTemp blockSize, .write .temp 0 (bytes.bytes 0 r.size)] ++
      Access.copy bytes .temp 0 blockSize.toNat .caller r.start

variable {d : Addressing} {data : ByteMemory}

theorem hasEffect_writeBlock :
    HasEffect (writeBlock SdioBus.succeeds d data blockSize) base
      (writeEffect d data blockSize base) := by
  intro cursor r s hbase hoffset hword hfail
  have hfirst : ¬ 1 < s.device.writeFail ∧ ¬ s.device.writeFail = 1 := by omega
  have hblock : (⟨s.device.msWord, lowerHalf cursor.baseAddress, r.size⟩ : BlockWrite) =
      blockAt base r.start r.size := by
    rw [hword, hbase, blockAt]
  rw [writeBlock]
  simp only [writeRegMultiple, if_neg hfirst.1, if_neg hfirst.2, writesb, SdioBus.succeeds,
    lowerHalf_or_request, ne_eq, not_true_eq_false, false_and, if_false, hoffset]
  refine ⟨_, rfl, rfl, hfail, ?_, ?_⟩
  · exact congrArg (fun block => s.device.blocks ++ [block]) hblock
  · refine Prod.ext ?_ (List.append_assoc ..)
    exact congrArg (fun block => d.put block (tempBuf data r.start r.size) s.device.memory) hblock

theorem hasEffect_readBlock :
    HasEffect (readBlock SdioBus.succeeds d blockSize) base (readEffect d blockSize base) := by
  intro cursor r s hbase hoffset hword hfail
  have hblock : (⟨s.device.msWord, lowerHalf cursor.baseAddress, r.size⟩ : BlockWrite) =
      blockAt base r.start r.size := by
    rw [hword, hbase, blockAt]
  rw [readBlock]
  simp only [readRegMultiple, SdioBus.succeeds, lowerHalf_or_request, ne_eq, not_true_eq_false,
    if_false, hoffset]
  refine ⟨_, rfl, rfl, hfail, ?_, ?_⟩
  · exact congrArg (fun block => s.device.blocks ++ [block]) hblock
  · refine Prod.ext rfl ((List.append_assoc ..).trans ?_)
    exact congrArg (fun block => s.host ++
      ([clearTemp blockSize, .write .temp 0 ((d.get block s.device.memory).bytes 0 r.size)] ++
        Access.copy (d.get block s.device.memory) .temp 0 blockSize.toNat .caller r.start)) hblock

/-! ## Transfers inside a window -/

/-- A transfer inside its window is a store. -/
theorem Addressing.put_eq_store {b : BlockWrite} (h : b.InWindow)
    (memory : AddressedMemory 32 (BitVec 8)) :
    d.put b data memory = memory.store b.address b.size data := by
  rw [BlockWrite.InWindow] at h
  -- byte by byte
  have hcells : ∀ n ≤ b.size, (List.range n).foldl
      (fun m i => Function.update m (d.cell b.msWord b.lsbAddress i) (data i)) memory =
      memory.store b.address n data := by
    intro n hn
    induction n with
    | zero => rw [AddressedMemory.store_zero, List.range_zero, List.foldl_nil]
    | succ n ih =>
      rw [List.range_succ, List.foldl_append, ih (by omega),
        AddressedMemory.store_succ _ _ (by omega)]
      show Function.update _ (d.cell b.msWord b.lsbAddress n) _ = _
      rw [d.cell_of_lt (by omega)]
      rfl
  exact hcells b.size (Nat.le_refl _)

theorem Addressing.get_apply {b : BlockWrite} (h : b.InWindow) {i : ℕ} (hi : i < b.size)
    (memory : AddressedMemory 32 (BitVec 8)) :
    d.get b memory i = memory (b.address + BitVec.ofNat 32 i) := by
  rw [BlockWrite.InWindow] at h
  rw [Addressing.get, if_pos hi, d.cell_of_lt (by omega)]
  rfl

/-! ## A region that is written and read back -/

/-- A region, the sizes of the blocks it is written and read in (`WRITE_BLOCK` and `READ_BLOCK`),
the bytes that are written, what the buffer they are read to holds before, and the device. -/
structure Exchange where
  address : BitVec 32
  length : BitVec 16
  writeSize : BitVec 16
  readSize : BitVec 16
  data : ByteMemory
  buffer : ByteMemory
  memory : AddressedMemory 32 (BitVec 8)
  msByte : BitVec 8
  lsByte : BitVec 8

namespace Exchange

/-- The write on a bus in order -/
def written (x : Exchange) (d : Addressing) : Option ℤ × State :=
  writeDataRegion SdioBus.succeeds d x.address (x.length.setWidth 32) x.writeSize x.data
    ⟨SdioDevice.idle x.memory x.msByte x.lsByte, []⟩

/-- The read behind it, with histories of its own -/
def readBack (x : Exchange) (d : Addressing) : Option ℤ × State :=
  readDataRegion SdioBus.succeeds d x.address (x.length.setWidth 32) x.readSize
    ⟨{ (x.written d).2.device with blocks := [] }, []⟩

/-- The bytes of the objects that a transfer may use: the region in the caller's buffer, and a block
in `temp_buf` -/
def sizes (x : Exchange) (blockSize : BitVec 16) : Buf → ℕ
  | .caller => x.length.toNat
  | .temp => blockSize.toNat

/-- The cells of a transfer belong to the region. -/
def InRegion (x : Exchange) (d : Addressing) (b : BlockWrite) : Prop :=
  ∀ i < b.size, (d.cell b.msWord b.lsbAddress i - x.address).toNat < x.length.toNat

/-- **The region is written and read back**: both return 0 and the bytes are the same, no access
leaves the buffers or the region, and the ms word is that of the address of every block. -/
structure RoundTrips (x : Exchange) (d : Addressing) : Prop where
  returns : (x.written d).1 = some 0 ∧ (x.readBack d).1 = some 0
  sameBytes : ∀ i < x.length.toNat,
    Access.contents .caller (x.readBack d).2.host x.buffer i = x.data i
  hostOfWrite : Access.AllInBounds (x.sizes x.writeSize) (x.written d).2.host
  hostOfRead : Access.AllInBounds (x.sizes x.readSize) (x.readBack d).2.host
  device : ∀ b ∈ (x.written d).2.device.blocks ++ (x.readBack d).2.device.blocks, x.InRegion d b
  msWordOfWrite : ∀ k b, (x.written d).2.device.blocks[k]? = some b →
    b.msWord = upperHalf (x.address + BitVec.ofNat 32 (k * x.writeSize.toNat))
  msWordOfRead : ∀ k b, (x.readBack d).2.device.blocks[k]? = some b →
    b.msWord = upperHalf (x.address + BitVec.ofNat 32 (k * x.readSize.toNat))

/-- The bytes from the address to the end of its window -/
def toWindowEnd (x : Exchange) : ℕ := 2 ^ 16 - x.address.toNat % 2 ^ 16

end Exchange

/-! ### Accesses to the memory of the host -/

/-- Accesses whose bounds do not depend on the bytes -/
theorem allInBounds_foldl {size : Buf → ℕ} {bound : ByteRange → Prop}
    (h : ∀ r memory, Access.AllInBounds size (e.host r memory) ↔ bound r) (l : List ByteRange)
    (s : Memories) :
    Access.AllInBounds size (l.foldl e.apply s).2 ↔
      Access.AllInBounds size s.2 ∧ ∀ r ∈ l, bound r := by
  induction l generalizing s with
  | nil => simp
  | cons r l ih =>
    rw [List.foldl_cons, ih, Effect.apply, Access.allInBounds_append, h, and_assoc,
      List.forall_mem_cons]

variable {x : Exchange}

@[simp]
theorem inBounds_clearTemp : (clearTemp blockSize).InBounds (x.sizes blockSize) := by
  rw [clearTemp, Access.inBounds_write, List.length_replicate, Exchange.sizes]
  omega

/-- A write stays inside the buffers. -/
theorem allInBounds_writeEffect (r : ByteRange) (memory : AddressedMemory 32 (BitVec 8)) :
    Access.AllInBounds (x.sizes blockSize) ((writeEffect d data blockSize base).host r memory) ↔
      r.size = 0 ∨ r.start + r.size ≤ x.length.toNat ∧ r.size ≤ blockSize.toNat := by
  rw [writeEffect, Access.allInBounds_append, Access.allInBounds_cons, Access.allInBounds_copy,
    Access.allInBounds_cons, Access.inBounds_read]
  simp only [inBounds_clearTemp, Access.allInBounds_nil, Exchange.sizes, Nat.zero_add, true_and,
    and_true]
  omega

theorem toNat_pos (hsize : blockSize ≠ 0) : 0 < blockSize.toNat :=
  Nat.pos_of_ne_zero fun h => hsize (BitVec.eq_of_toNat_eq h)

/-- A read copies a whole block in any case. -/
theorem allInBounds_readEffect (hsize : blockSize ≠ 0) (r : ByteRange)
    (memory : AddressedMemory 32 (BitVec 8)) :
    Access.AllInBounds (x.sizes blockSize) ((readEffect d blockSize base).host r memory) ↔
      r.size ≤ blockSize.toNat ∧ r.start + blockSize.toNat ≤ x.length.toNat := by
  have hpos := toNat_pos hsize
  rw [readEffect, Access.allInBounds_append, Access.allInBounds_cons, Access.allInBounds_copy,
    Access.allInBounds_cons, Access.inBounds_write, ByteMemory.length_bytes]
  simp only [inBounds_clearTemp, Access.allInBounds_nil, Exchange.sizes, Nat.zero_add, true_and,
    and_true]
  omega

/-! ### The two transfers, piece by piece -/

section Runs

variable (d)

/-- The pieces of the write -/
def Exchange.writePieces (x : Exchange) : List ByteRange :=
  ByteRange.pieces x.writeSize.toNat x.length.toNat

/-- The pieces of the read -/
def Exchange.readPieces (x : Exchange) : List ByteRange :=
  ByteRange.pieces x.readSize.toNat x.length.toNat

theorem toNat_length (x : Exchange) : (x.length.setWidth 32).toNat = x.length.toNat :=
  BitVec.toNat_setWidth_of_le (by omega)

/-- The write on a device -/
theorem written_eq (hsize : x.writeSize ≠ 0) :
    ∃ s, x.written d = (some 0, s) ∧ s.device.writeFail = 0 ∧
      s.device.blocks = x.writePieces.map (fun r => blockAt x.address r.start r.size) ∧
      (s.device.memory, s.host) =
        x.writePieces.foldl (writeEffect d x.data x.writeSize x.address).apply (x.memory, []) := by
  have heffect : HasEffect (writeBlock SdioBus.succeeds d x.data x.writeSize) x.address
      (writeEffect d x.data x.writeSize x.address) := hasEffect_writeBlock
  have hrun := region_run (s := ⟨SdioDevice.idle x.memory x.msByte x.lsByte, []⟩) heffect hsize
    (x.length.setWidth 32) rfl
  rw [toNat_length] at hrun
  exact hrun

/-- The read behind it -/
theorem readBack_eq (hwrite : x.writeSize ≠ 0) (hread : x.readSize ≠ 0) :
    ∃ s, x.readBack d = (some 0, s) ∧
      s.device.blocks = x.readPieces.map (fun r => blockAt x.address r.start r.size) ∧
      s.host = (x.readPieces.foldl (readEffect d x.readSize x.address).apply
        ((x.written d).2.device.memory, [])).2 := by
  obtain ⟨s, hs, hfail, -, -⟩ := written_eq d hwrite
  have hfail' : (x.written d).2.device.writeFail = 0 := by rw [hs]; exact hfail
  have heffect : HasEffect (readBlock SdioBus.succeeds d x.readSize) x.address
      (readEffect d x.readSize x.address) := hasEffect_readBlock
  obtain ⟨s', hrun, -, hblocks, hhost⟩ :=
    region_run (s := ⟨{ (x.written d).2.device with blocks := [] }, []⟩) heffect hread
      (x.length.setWidth 32) hfail'
  rw [toNat_length] at hblocks hhost
  exact ⟨s', hrun, hblocks, congrArg Prod.snd hhost⟩

/-- The transfers of both -/
theorem blocks_eq (hwrite : x.writeSize ≠ 0) (hread : x.readSize ≠ 0) :
    (x.written d).2.device.blocks =
        x.writePieces.map (fun r => blockAt x.address r.start r.size) ∧
      (x.readBack d).2.device.blocks =
        x.readPieces.map (fun r => blockAt x.address r.start r.size) := by
  obtain ⟨s, hs, -, hblocks, -⟩ := written_eq d hwrite
  obtain ⟨t, ht, hblocks', -⟩ := readBack_eq d hwrite hread
  rw [hs, ht]
  exact ⟨hblocks, hblocks'⟩

end Runs

/-! ### The bytes, when every transfer stays in its window -/

/-- The pieces of the region lie in the windows of their ms words. -/
def InWindows (base : BitVec 32) (l : List ByteRange) : Prop :=
  ∀ r ∈ l, (blockAt base r.start r.size).InWindow

/-- The write stores the region. -/
theorem memory_written (hsize : x.writeSize ≠ 0) (hin : InWindows x.address x.writePieces) :
    (x.written d).2.device.memory = x.memory.store x.address x.length.toNat x.data := by
  obtain ⟨s, hs, -, -, heffect⟩ := written_eq d hsize
  have hlength := x.length.isLt
  have hmemory : s.device.memory = (x.writePieces.foldl
      (writeEffect d x.data x.writeSize x.address).apply (x.memory, [])).1 :=
    congrArg Prod.fst heffect
  rw [hs, hmemory]
  -- by the bytes done
  refine ByteRange.foldl_pieces
    (fun (j : ℕ) (s : Memories) => s.1 = x.memory.store x.address j x.data)
    (AddressedMemory.store_zero _ _ _).symm fun r hr s hdone => ?_
  have hle := ByteRange.le_of_mem_pieces hr
  have hdata : ∀ i < r.size, tempBuf x.data r.start r.size i = x.data (r.start + i) :=
    fun i hi => if_pos hi
  show d.put (blockAt x.address r.start r.size) (tempBuf x.data r.start r.size) s.1 = _
  rw [Addressing.put_eq_store (hin r hr), hdone, address_blockAt]
  show (x.memory.store x.address r.start x.data).store _ r.size _ = _
  rw [AddressedMemory.store_congr _ _ hdata, AddressedMemory.store_store _ _ (by omega)]

/-- What a block that is read leaves in the buffer of the caller. -/
theorem contents_readEffect (r : ByteRange) (memory : AddressedMemory 32 (BitVec 8))
    (m : ByteMemory) :
    Access.contents .caller ((readEffect d blockSize base).host r memory) m =
      m.copy r.start blockSize.toNat (d.get (blockAt base r.start r.size) memory) := by
  rw [readEffect, Access.contents_append, Access.contents_copy]
  simp only [Nat.zero_add]
  rfl

/-- The read returns what is stored in the region. -/
theorem contents_readBack (hwrite : x.writeSize ≠ 0) (hread : x.readSize ≠ 0)
    (hin : InWindows x.address x.readPieces)
    (hstored : (x.written d).2.device.memory =
      x.memory.store x.address x.length.toNat x.data) :
    ∀ i < x.length.toNat, Access.contents .caller (x.readBack d).2.host x.buffer i = x.data i := by
  obtain ⟨s, hs, -, hhost⟩ := readBack_eq d hwrite hread
  have hlength := x.length.isLt
  have hpos := toNat_pos hread
  rw [hs, hhost, hstored]
  -- by the bytes done; the memory of the device stays as it is
  let done (j : ℕ) (s : Memories) : Prop :=
    s.1 = x.memory.store x.address x.length.toNat x.data ∧
      ∀ i < j, Access.contents .caller s.2 x.buffer i = x.data i
  suffices hall : done x.length.toNat (x.readPieces.foldl
      (readEffect d x.readSize x.address).apply
      (x.memory.store x.address x.length.toNat x.data, [])) from hall.2
  refine ByteRange.foldl_pieces done ⟨rfl, fun i hi => absurd hi (Nat.not_lt_zero i)⟩
    fun r hr s hdone => ⟨hdone.1, ?_⟩
  intro i hi
  have hle := ByteRange.le_of_mem_pieces hr
  have hblock := ByteRange.size_le_of_mem_pieces hpos hr
  show Access.contents .caller (s.2 ++ _) x.buffer i = _
  rw [Access.contents_append, contents_readEffect]
  by_cases hold : i < r.start
  · rw [ByteMemory.copy_of_lt _ hold, hdone.2 i hold]
  · -- a byte of this block
    obtain ⟨k, rfl⟩ := Nat.exists_eq_add_of_le (Nat.le_of_not_lt hold)
    have hk : k < r.size := by omega
    rw [ByteMemory.copy_add _ (by omega), Addressing.get_apply (hin r hr) hk, hdone.1,
      address_blockAt, BitVec.add_assoc, ← BitVec.ofNat_add,
      AddressedMemory.store_apply_add _ _ (by omega) (by omega)]

/-- A transfer inside its window stays in the region. -/
theorem inRegion_of_inWindow {r : ByteRange} (hle : r.start + r.size ≤ x.length.toNat)
    (hin : (blockAt x.address r.start r.size).InWindow) :
    x.InRegion d (blockAt x.address r.start r.size) := by
  intro i hi
  have hi : i < r.size := hi
  have hlength := x.length.isLt
  have hin' : (blockAt x.address r.start r.size).lsbAddress.toNat + r.size ≤ 2 ^ 16 := hin
  have haddress := address_blockAt x.address r.start r.size
  rw [BlockWrite.address] at haddress
  rw [d.cell_of_lt (by omega), haddress, BitVec.add_assoc, ← BitVec.ofNat_add,
    AddressedMemory.toNat_add_ofNat_sub _ (by omega)]
  omega

/-! ### Windows -/

/-- Which pieces lie in the windows: the region ends before its first window does, or the next
window starts with a piece. -/
theorem inWindows_pieces {n length : ℕ} (hn : 0 < n) (hlength : length ≤ 4110) :
    InWindows base (ByteRange.pieces n length) ↔
      length ≤ 2 ^ 16 - base.toNat % 2 ^ 16 ∨ n ∣ 2 ^ 16 - base.toNat % 2 ^ 16 := by
  have hb : 0 < 2 ^ 16 - base.toNat % 2 ^ 16 := by omega
  rw [← ByteRange.forall_pieces_not_across hn hb]
  refine forall₂_congr fun r hr => ?_
  have hle := ByteRange.le_of_mem_pieces hr
  rw [inWindow_blockAt, ByteRange.Across]
  omega

/-- A device that stays in the window and goes on from its start. -/
def Addressing.wrapping : Addressing where
  cell msWord lsbAddress i := msWord ++ (lsbAddress + BitVec.ofNat 16 i)
  cell_of_lt {msWord lsbAddress i} h := by
    have hlow := (lsbAddress + BitVec.ofNat 16 i).isLt
    have hlsb := lsbAddress.isLt
    have hword := msWord.isLt
    apply BitVec.eq_of_toNat_eq
    rw [BitVec.toNat_append, ← Nat.shiftLeft_add_eq_or_of_lt hlow, BitVec.toNat_add,
      BitVec.toNat_add, BitVec.toNat_append, ← Nat.shiftLeft_add_eq_or_of_lt hlsb,
      Nat.shiftLeft_eq, BitVec.toNat_ofNat, BitVec.toNat_ofNat]
    omega

/-- On such a device a transfer that runs past its window leaves the region. -/
theorem inWindow_of_wrapping {r : ByteRange} (hlength : x.length.toNat ≤ 4110)
    (hle : r.start + r.size ≤ x.length.toNat)
    (h : x.InRegion Addressing.wrapping (blockAt x.address r.start r.size)) :
    (blockAt x.address r.start r.size).InWindow := by
  by_contra hout
  rw [inWindow_blockAt, Nat.not_le] at hout
  -- the first byte behind the window
  have hlow : (blockAt x.address r.start r.size).lsbAddress.toNat =
      (x.address.toNat + r.start) % 2 ^ 16 := by
    rw [blockAt, toNat_lowerHalf, BitVec.toNat_add, BitVec.toNat_ofNat]
    omega
  have hhigh : (blockAt x.address r.start r.size).msWord.toNat =
      (x.address.toNat + r.start) % 2 ^ 32 / 2 ^ 16 := by
    rw [blockAt, toNat_upperHalf, BitVec.toNat_add, BitVec.toNat_ofNat]
    omega
  have hcell := h (2 ^ 16 - (x.address.toNat + r.start) % 2 ^ 16) (by show _ < r.size; omega)
  have haddress := x.address.isLt
  rw [Addressing.wrapping] at hcell
  simp only at hcell
  rw [BitVec.toNat_sub, BitVec.toNat_append, ← Nat.shiftLeft_add_eq_or_of_lt (BitVec.isLt _),
    Nat.shiftLeft_eq, BitVec.toNat_add, hlow, hhigh, BitVec.toNat_ofNat] at hcell
  omega

/-- The transfers of the pieces stay in the region on every device exactly if they lie in the
windows. -/
theorem inRegion_iff {n : ℕ} (hlength : x.length.toNat ≤ 4110) :
    (∀ d, ∀ b ∈ (ByteRange.pieces n x.length.toNat).map (fun r => blockAt x.address r.start r.size),
      x.InRegion d b) ↔ InWindows x.address (ByteRange.pieces n x.length.toNat) := by
  simp only [List.forall_mem_map]
  constructor
  · exact fun h r hr =>
      inWindow_of_wrapping hlength (ByteRange.le_of_mem_pieces hr) (h Addressing.wrapping r hr)
  · exact fun h d r hr => inRegion_of_inWindow (ByteRange.le_of_mem_pieces hr) (h r hr)

/-! ## Which regions can be written and read back -/

/-- A write never leaves the buffers. -/
theorem hostOfWrite (d : Addressing) (hsize : x.writeSize ≠ 0) :
    Access.AllInBounds (x.sizes x.writeSize) (x.written d).2.host := by
  obtain ⟨s, hs, -, -, heffect⟩ := written_eq d hsize
  have hhost : s.host = (x.writePieces.foldl
      (writeEffect d x.data x.writeSize x.address).apply (x.memory, [])).2 :=
    congrArg Prod.snd heffect
  have hpos := toNat_pos hsize
  rw [hs, hhost, allInBounds_foldl allInBounds_writeEffect]
  exact ⟨Access.allInBounds_nil, fun r hr =>
    Or.inr ⟨ByteRange.le_of_mem_pieces hr, ByteRange.size_le_of_mem_pieces hpos hr⟩⟩

/-- **A read stays inside the buffer of the caller** exactly if no bytes are left behind the whole
blocks. -/
theorem hostOfRead_iff (d : Addressing) (hwrite : x.writeSize ≠ 0) (hread : x.readSize ≠ 0) :
    Access.AllInBounds (x.sizes x.readSize) (x.readBack d).2.host ↔
      x.readSize.toNat ∣ x.length.toNat := by
  obtain ⟨s, hs, -, hhost⟩ := readBack_eq d hwrite hread
  have hpos := toNat_pos hread
  have hsplit := Nat.div_add_mod' x.length.toNat x.readSize.toNat
  have hmod := Nat.mod_lt x.length.toNat hpos
  rw [hs, hhost, allInBounds_foldl (allInBounds_readEffect hread), Exchange.readPieces]
  refine (and_iff_right Access.allInBounds_nil).trans ?_
  rw [Nat.dvd_iff_mod_eq_zero]
  constructor
  · intro h
    by_contra hrest
    -- the block behind the last whole one
    have hlast := ((ByteRange.forall_pieces (p := fun r => r.size ≤ x.readSize.toNat ∧
      r.start + x.readSize.toNat ≤ x.length.toNat)).1 h).2 hrest
    have hend : x.length.toNat / x.readSize.toNat * x.readSize.toNat + x.readSize.toNat ≤
        x.length.toNat := hlast.2
    omega
  · intro hrest
    refine ByteRange.forall_pieces.2 ⟨fun k hk => ⟨Nat.le_refl _, ?_⟩, fun h => absurd hrest h⟩
    have hle := Nat.mul_le_mul_right x.readSize.toNat (Nat.succ_le_of_lt hk)
    rw [Nat.succ_mul] at hle
    show k * x.readSize.toNat + x.readSize.toNat ≤ _
    omega

/-- Block sizes of zero trap. -/
theorem sizes_ne_zero (h : x.RoundTrips d) : x.writeSize ≠ 0 ∧ x.readSize ≠ 0 := by
  obtain ⟨hwritten, hreadBack⟩ := h.returns
  refine ⟨fun hzero => ?_, fun hzero => ?_⟩
  · rw [Exchange.written, hzero, writeDataRegion, region_zero] at hwritten
    cases hwritten
  · rw [Exchange.readBack, hzero, readDataRegion, region_zero] at hreadBack
    cases hreadBack

/-- When both transfers stay in their windows. -/
theorem inWindows_iff (hwrite : x.writeSize ≠ 0) (hread : x.readSize ≠ 0)
    (hlength : x.length.toNat ≤ 4110) :
    (InWindows x.address x.writePieces ∧ InWindows x.address x.readPieces) ↔
      (x.length.toNat ≤ x.toWindowEnd ∨
        x.writeSize.toNat ∣ x.toWindowEnd ∧ x.readSize.toNat ∣ x.toWindowEnd) := by
  rw [Exchange.writePieces, Exchange.readPieces, inWindows_pieces (toNat_pos hwrite) hlength,
    inWindows_pieces (toNat_pos hread) hlength, ← or_and_left]
  rfl

/-- A region that is written and read back on every device lies in the windows. -/
theorem inWindows_of_roundTrips (hlength : x.length.toNat ≤ 4110) (h : ∀ d, x.RoundTrips d) :
    InWindows x.address x.writePieces ∧ InWindows x.address x.readPieces := by
  obtain ⟨hwrite, hread⟩ := sizes_ne_zero (h Addressing.wrapping)
  constructor
  · refine (inRegion_iff hlength).1 fun d b hb => (h d).device b (List.mem_append_left _ ?_)
    rwa [(blocks_eq d hwrite hread).1]
  · refine (inRegion_iff hlength).1 fun d b hb => (h d).device b (List.mem_append_right _ ?_)
    rwa [(blocks_eq d hwrite hread).2]

/-- Transfers that stay in their windows, of whole blocks where they are reads -/
theorem roundTrips_of_inWindows (hlength : x.length.toNat ≤ 4110) (hwrite : x.writeSize ≠ 0)
    (hread : x.readSize ≠ 0) (hdvd : x.readSize.toNat ∣ x.length.toNat)
    (hwriteIn : InWindows x.address x.writePieces) (hreadIn : InWindows x.address x.readPieces) :
    x.RoundTrips d := by
  obtain ⟨s, hs, -, -, -⟩ := written_eq d hwrite
  obtain ⟨t, ht, -, -⟩ := readBack_eq d hwrite hread
  obtain ⟨hblocks, hblocks'⟩ := blocks_eq d hwrite hread
  have hstored := memory_written (d := d) hwrite hwriteIn
  refine ⟨⟨by rw [hs], by rw [ht]⟩, contents_readBack hwrite hread hreadIn hstored,
    hostOfWrite d hwrite, (hostOfRead_iff d hwrite hread).2 hdvd, fun b hb => ?_, ?_, ?_⟩
  · rw [hblocks, hblocks'] at hb
    rcases List.mem_append.1 hb with hb | hb
    · exact (inRegion_iff hlength).2 hwriteIn d b hb
    · exact (inRegion_iff hlength).2 hreadIn d b hb
  · intro k b hb
    rw [hblocks, Exchange.writePieces, ← blocksOf_eq] at hb
    exact blocksOf_msWord hb
  · intro k b hb
    rw [hblocks', Exchange.readPieces, ← blocksOf_eq] at hb
    exact blocksOf_msWord hb

/-- **Which regions can be written and read back**, whatever the device does behind a window: the
blocks are not empty, the length is a multiple of the blocks that are read, and if the region goes
on into another window, that starts with a block of each transfer. -/
theorem roundTrips_iff (x : Exchange) (hlength : x.length.toNat ≤ 4110) :
    (∀ d, x.RoundTrips d) ↔
      x.writeSize ≠ 0 ∧ x.readSize ≠ 0 ∧ x.readSize.toNat ∣ x.length.toNat ∧
        (x.length.toNat ≤ x.toWindowEnd ∨
          x.writeSize.toNat ∣ x.toWindowEnd ∧ x.readSize.toNat ∣ x.toWindowEnd) := by
  constructor
  · intro h
    obtain ⟨hwrite, hread⟩ := sizes_ne_zero (h Addressing.wrapping)
    -- the host's memory tells the length, and a device that wraps around tells the windows
    have hhost := (h Addressing.wrapping).hostOfRead
    exact ⟨hwrite, hread, (hostOfRead_iff Addressing.wrapping hwrite hread).1 hhost,
      (inWindows_iff hwrite hread hlength).1 (inWindows_of_roundTrips hlength h)⟩
  · rintro ⟨hwrite, hread, hdvd, hwindows⟩ d
    obtain ⟨hwriteIn, hreadIn⟩ := (inWindows_iff hwrite hread hlength).2 hwindows
    exact roundTrips_of_inWindows hlength hwrite hread hdvd hwriteIn hreadIn

/-- 4 KiB from the start of a window on -/
def page : Exchange :=
  ⟨0x30000, 4096, 256, 16, fun _ => 0xa5, fun _ => 0, fun _ => 0, 0, 0⟩

theorem roundTrips_page : page.length.toNat ≤ 4110 ∧ ∀ d, page.RoundTrips d :=
  ⟨by decide, (roundTrips_iff page (by decide)).2 (by decide)⟩

/-- Five bytes with the block sizes of the driver: the read copies sixteen to the caller. -/
theorem not_forall_roundTrips :
    ¬ ∀ x : Exchange, x.length.toNat ≤ 4110 → ∀ d, x.RoundTrips d := by
  intro h
  let five : Exchange := ⟨0x30000, 5, 256, 16, fun _ => 0xa5, fun _ => 0, fun _ => 0, 0, 0⟩
  have hhost := (h five (by decide) Addressing.wrapping).hostOfRead
  rw [hostOfRead_iff Addressing.wrapping (by decide) (by decide)] at hhost
  exact absurd hhost (by decide)

end DataRegion
