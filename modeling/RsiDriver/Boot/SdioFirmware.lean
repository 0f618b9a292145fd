import RsiDriver.Boot.MasterWrite

/-!
# A firmware image on its way over SDIO

`rsi_load_9116_firmware` (`rsi_91x_hal.c`) hands the chunks of an image to
`rsi_sdio_load_data_master_write`, which cuts them into blocks of 256 bytes. Any access of the bus
may fail on the way. A failure of a register ends its chunk, and the loop over the table goes on
with the next one; a failure of a block stops all the blocks behind it, whose writes return 0 all
the same (`write_fail`); and the error -84 passes for success. The status of the load is that of
its last chunk.

## Main results

* `SdioBus.load9116Firmware_sends`: whatever fails, the memory of the device has some of the blocks
  of the image, in their order and where the table wants them, and nothing else; if nothing fails,
  it has all of them.
-/

namespace SdioLoad

open Boot

/-- A block of the image: its write on the bus, and where its bytes stand in the image. -/
structure Transfer where
  block : BlockWrite
  offset : ℕ
  deriving DecidableEq, Repr

/-- The memory with the block in it -/
def Transfer.store (data : ByteMemory) (memory : AddressedMemory 32 (BitVec 8)) (t : Transfer) :
    AddressedMemory 32 (BitVec 8) :=
  memory.store t.block.address t.block.size fun i => data (t.offset + i)

/-- The blocks of a chunk -/
def transfers (write : MasterWrite) : List Transfer :=
  (ByteRange.pieces write.blockSize write.range.size).map fun r =>
    ⟨blockAt write.address r.start r.size, write.range.start + r.start⟩

namespace SdioBus

variable (bus : SdioBus)

/-- The `do … while (1)` over the table with the writes on the bus; `cursor` is `firmware_ptr`.
`none` if the loop goes on behind the table. -/
def loadChunks (data : ByteMemory) (cursor : ℕ) :
    List BootloadEntry → SdioDevice → Option ℤ × SdioDevice
  | [], device => (none, device)
  | entry :: entries, device =>
    let written := bus.loadDataMasterWrite entry.dstAddr (entry.control &&& 0xffffff) 256
      (fun i => data (cursor + i)) device
    if entry.isLast then (some written.1, written.2)
    else loadChunks data (cursor + entry.len) entries written.2

/-- `rsi_load_9116_firmware` from `request_firmware` on -/
def loadImage (image : FwImage) (device : SdioDevice) : Option ℤ × SdioDevice :=
  if image.data.le16 0 = 0x5aa5 then
    bus.loadChunks image.data image.bootloadDs.offset.toNat image.bootloadDs.blEntry device
  else
    let written := bus.loadDataMasterWrite METADATA_ADDRESS
      (BitVec.ofNat 32 ((image.size + 3) / 4 * 4)) 256 image.data device
    (some written.1, written.2)

/-- `rsi_load_9116_firmware` with an SDIO device -/
def load9116Firmware (env : FwEnv) (device : SdioDevice) : Option ℤ × SdioDevice :=
  match env.openFirmware with
  | .error status => (some status, device)
  | .ok image => bus.loadImage image device

/-- No access between two states has failed. -/
structure InOrder (device device' : SdioDevice) : Prop where
  alloc : bus.alloc = true
  status : ∀ i, device.accesses ≤ i → i < device'.accesses → bus.status i = 0

end SdioBus

/-! ## What a load leaves in the device -/

/-- The blocks `sent` have been stored, one after the other. -/
structure Stored (data : ByteMemory) (sent : List Transfer) (device device' : SdioDevice) :
    Prop where
  memory : device'.memory = sent.foldl (Transfer.store data) device.memory
  blocks : device'.blocks = device.blocks ++ sent.map Transfer.block

/-- A part of a load that is to store the blocks `expected` and `succeeds`, or does not. -/
structure Sends (bus : SdioBus) (data : ByteMemory) (expected : List Transfer)
    (device : SdioDevice) (succeeds : Prop) (device' : SdioDevice) : Prop where
  accesses : device.accesses ≤ device'.accesses
  /-- Whatever fails, only blocks of the image are stored. -/
  stored : ∃ sent, List.Sublist sent expected ∧ Stored data sent device device'
  /-- Behind a failure nothing is stored. -/
  latched : 2 ≤ device.writeFail → Stored data [] device device' ∧ 2 ≤ device'.writeFail
  succeeds : bus.InOrder device device' → succeeds
  complete : device.writeFail = 0 → bus.InOrder device device' →
    Stored data expected device device' ∧ device'.writeFail = 0

section Compose

variable {bus : SdioBus} {data : ByteMemory} {sent sent' : List Transfer}
  {device device₁ device₂ : SdioDevice} {p q : Prop}

theorem Stored.refl : Stored data [] device device := ⟨rfl, (List.append_nil _).symm⟩

theorem Stored.append (h₁ : Stored data sent device device₁)
    (h₂ : Stored data sent' device₁ device₂) : Stored data (sent ++ sent') device device₂ where
  memory := by rw [h₂.memory, h₁.memory, List.foldl_append]
  blocks := by rw [h₂.blocks, h₁.blocks, List.map_append, List.append_assoc]

/-- One part after the other; the second one decides on the status. -/
theorem Sends.append (h₁ : Sends bus data sent device p device₁)
    (h₂ : Sends bus data sent' device₁ q device₂) :
    Sends bus data (sent ++ sent') device q device₂ := by
  have hsplit (h : bus.InOrder device device₂) :
      bus.InOrder device device₁ ∧ bus.InOrder device₁ device₂ :=
    ⟨⟨h.alloc, fun i hi hlt => h.status i hi (Nat.lt_of_lt_of_le hlt h₂.accesses)⟩,
      ⟨h.alloc, fun i hi hlt => h.status i (Nat.le_trans h₁.accesses hi) hlt⟩⟩
  refine ⟨Nat.le_trans h₁.accesses h₂.accesses, ?_, fun hfail => ?_, fun h => ?_, fun hfail h => ?_⟩
  · obtain ⟨part₁, hsub₁, hstored₁⟩ := h₁.stored
    obtain ⟨part₂, hsub₂, hstored₂⟩ := h₂.stored
    exact ⟨part₁ ++ part₂, hsub₁.append hsub₂, hstored₁.append hstored₂⟩
  · obtain ⟨hstored₁, hfail₁⟩ := h₁.latched hfail
    obtain ⟨hstored₂, hfail₂⟩ := h₂.latched hfail₁
    exact ⟨hstored₁.append hstored₂, hfail₂⟩
  · exact h₂.succeeds (hsplit h).2
  · obtain ⟨hstored₁, hfail₁⟩ := h₁.complete hfail (hsplit h).1
    obtain ⟨hstored₂, hfail₂⟩ := h₂.complete hfail₁ (hsplit h).2
    exact ⟨hstored₁.append hstored₂, hfail₂⟩

/-- A part that has failed ends the chunk that it belongs to. -/
theorem Sends.abort (h : Sends bus data sent device p device₁) (hp : ¬ p) :
    Sends bus data (sent ++ sent') device q device₁ := by
  refine ⟨h.accesses, ?_, h.latched, fun hok => absurd (h.succeeds hok) hp,
    fun _ hok => absurd (h.succeeds hok) hp⟩
  obtain ⟨part, hsub, hstored⟩ := h.stored
  exact ⟨part, hsub.trans (List.sublist_append_left sent sent'), hstored⟩

theorem Sends.congr (h : Sends bus data sent device p device₁) (hp : p → q) :
    Sends bus data sent device q device₁ :=
  ⟨h.accesses, h.stored, h.latched, fun hok => hp (h.succeeds hok), h.complete⟩

theorem Sends.refl (hp : p) : Sends bus data [] device p device :=
  ⟨Nat.le_refl _, ⟨[], List.Sublist.refl _, Stored.refl⟩, fun hfail => ⟨Stored.refl, hfail⟩,
    fun _ => hp, fun hfail _ => ⟨Stored.refl, hfail⟩⟩

/-- An access that has failed leaves nothing behind. -/
theorem Sends.of_failed (hstatus : bus.status device.accesses ≠ 0) (hfail : ¬ 1 < device.writeFail)
    (haccesses : device₁.accesses = device.accesses + 1) (hmemory : device₁.memory = device.memory)
    (hblocks : device₁.blocks = device.blocks) : Sends bus data sent device p device₁ := by
  have hnot : ¬ bus.InOrder device device₁ := fun h =>
    hstatus (h.status _ (Nat.le_refl _) (by omega))
  have hsame : device₁.blocks = device.blocks ++ [] := hblocks.trans (List.append_nil _).symm
  exact ⟨by omega, ⟨[], List.nil_sublist _, hmemory, hsame⟩, fun h => absurd h hfail,
    fun h => absurd h hnot, fun _ h => absurd h hnot⟩

end Compose

/-! ## One access -/

namespace SdioBus

variable {bus : SdioBus} {data : ByteMemory} {device : SdioDevice} {base : BitVec 32}
  {start k n : ℕ} {cursor : Cursor}

theorem writeRegister_sends (bus : SdioBus) (data : ByteMemory) (addr : BitVec 32)
    (byte : BitVec 8) (device : SdioDevice) :
    Sends bus data [] device ((bus.writeRegister addr byte device).1 = 0)
      (bus.writeRegister addr byte device).2 := by
  have haccesses : (bus.writeRegister addr byte device).2.accesses = device.accesses + 1 := by
    simp only [writeRegister]
    split_ifs <;> rfl
  have hstored : Stored data [] device (bus.writeRegister addr byte device).2 := by
    constructor
    · simp only [writeRegister]
      split_ifs <;> rfl
    · simp only [writeRegister]
      split_ifs <;> exact (List.append_nil _).symm
  have hfail : (bus.writeRegister addr byte device).2.writeFail = device.writeFail := by
    simp only [writeRegister]
    split_ifs <;> rfl
  have hstatus : (bus.writeRegister addr byte device).1 = bus.status device.accesses := by
    simp only [writeRegister]
    split_ifs <;> rfl
  refine ⟨by omega, ⟨[], List.Sublist.refl _, hstored⟩, fun h => ⟨hstored, by omega⟩, fun h => ?_,
    fun h _ => ⟨hstored, by omega⟩⟩
  rw [hstatus]
  exact h.status _ (Nat.le_refl _) (by omega)

/-- If both writes have gone through, the registers hold the ms word. -/
theorem masterAccessMsword_sends (bus : SdioBus) (data : ByteMemory) (msWord : BitVec 16)
    (device : SdioDevice) :
    Sends bus data [] device ((bus.masterAccessMsword msWord device).1 = 0)
        (bus.masterAccessMsword msWord device).2 ∧
      ((bus.masterAccessMsword msWord device).1 = 0 →
        (bus.masterAccessMsword msWord device).2.msWord = msWord) := by
  have hlow := bus.writeRegister_sends data SDIO_MASTER_ACCESS_MSBYTE (msWord.setWidth 8) device
  have hhigh := bus.writeRegister_sends data SDIO_MASTER_ACCESS_LSBYTE
    ((msWord >>> 8).setWidth 8)
    (bus.writeRegister SDIO_MASTER_ACCESS_MSBYTE (msWord.setWidth 8) device).2
  rw [masterAccessMsword]
  by_cases hstatus : (bus.writeRegister SDIO_MASTER_ACCESS_MSBYTE (msWord.setWidth 8) device).1 = 0
  · rw [if_neg (not_not_intro hstatus)]
    refine ⟨hlow.append hhigh, fun hok => ?_⟩
    -- both bytes are those of the ms word
    have hfirst : bus.status device.accesses = 0 := by
      by_contra hne
      simp [writeRegister, hne] at hstatus
    have hsecond : bus.status (device.accesses + 1) = 0 := by
      by_contra hne
      simp [writeRegister, hfirst, hne, SDIO_MASTER_ACCESS_MSBYTE] at hok
    have hword : (bus.writeRegister SDIO_MASTER_ACCESS_LSBYTE ((msWord >>> 8).setWidth 8)
        (bus.writeRegister SDIO_MASTER_ACCESS_MSBYTE (msWord.setWidth 8) device).2).2.msWord =
        (msWord >>> 8).setWidth 8 ++ msWord.setWidth 8 := by
      simp [writeRegister, hfirst, hsecond, SDIO_MASTER_ACCESS_MSBYTE, SDIO_MASTER_ACCESS_LSBYTE,
        SdioDevice.msWord]
    obtain ⟨device', hrun, hregisters, -⟩ := masterAccessMsword_succeeds msWord device
    have hdevice : (SdioBus.succeeds.masterAccessMsword msWord device).2 = device' := by rw [hrun]
    rw [hword]
    exact (congrArg SdioDevice.msWord hdevice).trans hregisters
  · rw [if_pos hstatus]
    exact ⟨hlow.congr fun h => absurd h hstatus, fun h => by simp at h⟩

/-- A block that goes through is stored at the address that the ms word completes. -/
theorem writesb_of_status_eq_zero (bus : SdioBus) {address : BitVec 32} {buf : ByteMemory}
    {count latch : ℕ} (hword : device.msWord = upperHalf address)
    (hstatus : bus.status device.accesses = 0) :
    bus.writesb ((lowerHalf address).setWidth 32 ||| SD_REQUEST_MASTER) buf count
        { device with writeFail := latch } =
      (0, { device with
        writeFail := latch
        accesses := device.accesses + 1
        memory := device.memory.store address count buf
        blocks := device.blocks ++ [⟨upperHalf address, lowerHalf address, count⟩] }) := by
  have hregisters : device.lsByte ++ device.msByte = upperHalf address := hword
  have haddress := upperHalf_append_lowerHalf address
  simp [writesb, hstatus, lowerHalf_or_request, BlockWrite.address, SdioDevice.msWord,
    hregisters, haddress]

theorem writesb_of_status_ne_zero (bus : SdioBus) {addr : BitVec 32} {buf : ByteMemory}
    {count latch : ℕ} (hstatus : bus.status device.accesses ≠ 0) :
    bus.writesb addr buf count { device with writeFail := latch } =
      (bus.status device.accesses,
        { device with writeFail := latch, accesses := device.accesses + 1 }) := by
  simp [writesb, hstatus]

/-- The write of a block under the ms word of its address: it is stored, or nothing is. -/
theorem writeRegisterMultiple_sends (bus : SdioBus) {address : BitVec 32} {buf : ByteMemory}
    {offset count : ℕ} (hword : device.msWord = upperHalf address)
    (hbuf : ∀ i < count, buf i = data (offset + i)) :
    Sends bus data [⟨⟨upperHalf address, lowerHalf address, count⟩, offset⟩] device
        ((bus.writeRegisterMultiple ((lowerHalf address).setWidth 32 ||| SD_REQUEST_MASTER) buf
          count device).1 = 0)
        (bus.writeRegisterMultiple ((lowerHalf address).setWidth 32 ||| SD_REQUEST_MASTER) buf
          count device).2 ∧
      (bus.writeRegisterMultiple ((lowerHalf address).setWidth 32 ||| SD_REQUEST_MASTER) buf count
        device).2.msWord = device.msWord := by
  rw [writeRegisterMultiple]
  by_cases hlatched : 1 < device.writeFail
  · -- the write is left out, and passes for a success
    rw [if_pos hlatched]
    refine ⟨⟨Nat.le_refl _, ⟨[], List.nil_sublist _, Stored.refl⟩, fun h => ⟨Stored.refl, h⟩,
      fun _ => rfl, fun h _ => ?_⟩, rfl⟩
    omega
  rw [if_neg hlatched]
  -- `write_fail` counts up to 2 in front of the write
  obtain ⟨latch, hlatch, hzero⟩ : ∃ latch : ℕ,
      (if device.writeFail = 1 then { device with writeFail := 2 } else device) =
        { device with writeFail := latch } ∧ (device.writeFail = 0 → latch = 0) := by
    by_cases hone : device.writeFail = 1
    · exact ⟨2, if_pos hone, fun h => by omega⟩
    · exact ⟨device.writeFail, if_neg hone, fun h => h⟩
  rw [hlatch]
  by_cases hstatus : bus.status device.accesses = 0
  · -- the block is stored
    simp only [writesb_of_status_eq_zero bus hword hstatus, ne_eq, not_true_eq_false, false_and,
      if_false]
    have hboth : Stored data [⟨⟨upperHalf address, lowerHalf address, count⟩, offset⟩] device
        { device with
          writeFail := latch
          accesses := device.accesses + 1
          memory := device.memory.store address count buf
          blocks := device.blocks ++ [⟨upperHalf address, lowerHalf address, count⟩] } := by
      refine ⟨?_, rfl⟩
      show device.memory.store address count buf = Transfer.store data device.memory _
      rw [Transfer.store, BlockWrite.address, upperHalf_append_lowerHalf]
      exact AddressedMemory.store_congr _ _ hbuf
    exact ⟨⟨Nat.le_succ _, ⟨_, List.Sublist.refl _, hboth⟩, fun h => absurd h hlatched,
      fun _ => trivial, fun h _ => ⟨hboth, hzero h⟩⟩, rfl⟩
  · -- nothing is stored; -84 passes for a success
    simp only [writesb_of_status_ne_zero bus hstatus]
    split_ifs
    · exact ⟨Sends.of_failed hstatus hlatched rfl rfl rfl, rfl⟩
    · exact ⟨Sends.of_failed hstatus hlatched rfl rfl rfl, rfl⟩

/-! ## The blocks of a chunk -/

/-- The state of the load at its block `k`, whatever has become of the blocks before. -/
structure Positioned (base : BitVec 32) (n k : ℕ) (cursor : Cursor) (device : SdioDevice) :
    Prop where
  baseAddress : cursor.baseAddress = base + BitVec.ofNat 32 (k * n)
  msbAddress : cursor.msbAddress = upperHalf cursor.baseAddress
  offset : cursor.offset = k * n
  msWord : device.msWord = cursor.msbAddress

/-- Block `k` of a chunk whose bytes stand from `start` on in the image. -/
def transferAt (base : BitVec 32) (start n k size : ℕ) : Transfer :=
  ⟨blockAt base (k * n) size, start + k * n⟩

/-- The write of `size` bytes at the position that the load has reached. -/
theorem writeBlock_sends (bus : SdioBus) (data : ByteMemory) (start : ℕ)
    (h : Positioned base n k cursor device) (size : ℕ) :
    Sends bus data [transferAt base start n k size] device
        ((bus.writeRegisterMultiple
          ((lowerHalf cursor.baseAddress).setWidth 32 ||| SD_REQUEST_MASTER)
          (tempBuf (fun i => data (start + i)) cursor.offset size) size device).1 = 0)
        (bus.writeRegisterMultiple
          ((lowerHalf cursor.baseAddress).setWidth 32 ||| SD_REQUEST_MASTER)
          (tempBuf (fun i => data (start + i)) cursor.offset size) size device).2 ∧
      (bus.writeRegisterMultiple
        ((lowerHalf cursor.baseAddress).setWidth 32 ||| SD_REQUEST_MASTER)
        (tempBuf (fun i => data (start + i)) cursor.offset size) size device).2.msWord =
          device.msWord := by
  have hbuf : ∀ i < size, tempBuf (fun i => data (start + i)) cursor.offset size i =
      data (start + k * n + i) := by
    intro i hi
    rw [tempBuf, if_pos hi, h.offset, Nat.add_assoc]
  have htransfer : transferAt base start n k size =
      ⟨⟨upperHalf cursor.baseAddress, lowerHalf cursor.baseAddress, size⟩, start + k * n⟩ := by
    rw [h.baseAddress]
    rfl
  rw [htransfer]
  exact writeRegisterMultiple_sends bus (h.msWord.trans h.msbAddress) hbuf

/-- One round of the loop. -/
theorem loadBlock_sends (bus : SdioBus) (data : ByteMemory) (start : ℕ) {blockSize : BitVec 16}
    (h : Positioned base blockSize.toNat k cursor device) :
    Sends bus data [transferAt base start blockSize.toNat k blockSize.toNat] device
        ((bus.loadBlock (fun i => data (start + i)) blockSize cursor device).1.isSome = true)
        (bus.loadBlock (fun i => data (start + i)) blockSize cursor device).2 ∧
      ∀ cursor', (bus.loadBlock (fun i => data (start + i)) blockSize cursor device).1 =
          some cursor' →
        Positioned base blockSize.toNat (k + 1) cursor'
          (bus.loadBlock (fun i => data (start + i)) blockSize cursor device).2 := by
  obtain ⟨hwrite, hword⟩ := writeBlock_sends bus data start h blockSize.toNat
  have hnext := next_baseAddress h.baseAddress
  have hoffset : cursor.offset + blockSize.toNat = (k + 1) * blockSize.toNat := by
    rw [h.offset, Nat.add_one_mul]
  have hupper := upperHalf_add cursor.baseAddress blockSize
  rw [← h.msbAddress] at hupper
  rw [loadBlock]
  dsimp only
  split_ifs with hstatus hcross haccess
  · exact ⟨hwrite.congr fun h => absurd h hstatus, fun cursor' h => by cases h⟩
  · -- the registers of the next window have not been set
    have hmsword := (bus.masterAccessMsword_sends data (cursor.msbAddress + 1)
      (bus.writeRegisterMultiple ((lowerHalf cursor.baseAddress).setWidth 32 ||| SD_REQUEST_MASTER)
        (tempBuf (fun i => data (start + i)) cursor.offset blockSize.toNat) blockSize.toNat
        device).2).1
    exact ⟨(hwrite.append hmsword).congr fun h => absurd h haccess, fun cursor' h => by cases h⟩
  · -- the next block starts a window
    rw [if_pos hcross] at hupper
    obtain ⟨hmsword, hset⟩ := bus.masterAccessMsword_sends data (cursor.msbAddress + 1)
      (bus.writeRegisterMultiple ((lowerHalf cursor.baseAddress).setWidth 32 ||| SD_REQUEST_MASTER)
        (tempBuf (fun i => data (start + i)) cursor.offset blockSize.toNat) blockSize.toNat
        device).2
    refine ⟨(hwrite.append hmsword).congr fun _ => rfl, fun cursor' h => ?_⟩
    obtain rfl := Option.some.inj h
    exact ⟨hnext, hupper.symm, hoffset, hset (not_not.1 haccess)⟩
  · -- the next block is in the same window
    rw [if_neg hcross] at hupper
    refine ⟨hwrite.congr fun _ => rfl, fun cursor' hcursor => ?_⟩
    obtain rfl := Option.some.inj hcursor
    exact ⟨hnext, hupper.symm, hoffset, hword.trans h.msWord⟩

/-- The blocks from block `k` on. -/
theorem loadBlocks_sends (bus : SdioBus) (data : ByteMemory) (start : ℕ) {blockSize : BitVec 16}
    (m : ℕ) (h : Positioned base blockSize.toNat k cursor device) :
    Sends bus data
        ((List.range' k m).map fun j =>
          transferAt base start blockSize.toNat j blockSize.toNat) device
        ((bus.loadBlocks (fun i => data (start + i)) blockSize m cursor device).1.isSome = true)
        (bus.loadBlocks (fun i => data (start + i)) blockSize m cursor device).2 ∧
      ∀ cursor', (bus.loadBlocks (fun i => data (start + i)) blockSize m cursor device).1 =
          some cursor' →
        Positioned base blockSize.toNat (k + m) cursor'
          (bus.loadBlocks (fun i => data (start + i)) blockSize m cursor device).2 := by
  induction m generalizing k cursor device with
  | zero =>
    refine ⟨Sends.refl rfl, fun cursor' h' => ?_⟩
    obtain rfl := Option.some.inj h'
    exact h
  | succ m ih =>
    obtain ⟨hblock, hpos⟩ := loadBlock_sends bus data start h
    rw [List.range'_succ, List.map_cons, loadBlocks]
    rcases hload : bus.loadBlock (fun i => data (start + i)) blockSize cursor device with
      ⟨_ | cursor₁, device₁⟩
    · rw [hload] at hblock
      exact ⟨hblock.abort (by simp), fun cursor' h => by cases h⟩
    · rw [hload] at hblock hpos
      obtain ⟨hrest, hlast⟩ := ih (hpos cursor₁ rfl)
      have hcount : k + 1 + m = k + (m + 1) := by omega
      rw [hcount] at hlast
      exact ⟨hblock.append hrest, hlast⟩

/-- The last block. -/
theorem loadRest_sends (bus : SdioBus) (data : ByteMemory) (start : ℕ)
    (h : Positioned base n k cursor device) (rest : ℕ) :
    Sends bus data (if rest = 0 then [] else [transferAt base start n k rest]) device
      ((bus.loadRest (fun i => data (start + i)) rest cursor device).1 = 0)
      (bus.loadRest (fun i => data (start + i)) rest cursor device).2 := by
  obtain ⟨hwrite, -⟩ := writeBlock_sends bus data start h rest
  rw [loadRest]
  by_cases hrest : rest = 0
  · rw [if_pos hrest, if_pos hrest]
    exact Sends.refl rfl
  · rw [if_neg hrest, if_neg hrest]
    dsimp only
    split_ifs with hstatus
    · exact hwrite.congr fun h => absurd h hstatus
    · exact hwrite.congr fun _ => rfl

theorem transfers_eq (base : BitVec 32) (start n size : ℕ) :
    transfers ⟨base, ⟨start, size⟩, n⟩ =
      (List.range' 0 (size / n)).map (fun j => transferAt base start n j n) ++
        if size % n = 0 then [] else [transferAt base start n (size / n) (size % n)] := by
  rw [transfers, ByteRange.pieces, List.map_append, List.map_map, List.range_eq_range']
  congr 1
  split <;> rfl

/-- **A chunk on its way**, whatever fails. -/
theorem loadDataMasterWrite_sends (bus : SdioBus) (data : ByteMemory) (start : ℕ)
    (base size : BitVec 32) (blockSize : BitVec 16) (device : SdioDevice) :
    Sends bus data (transfers ⟨base, ⟨start, size.toNat⟩, blockSize.toNat⟩) device
      ((bus.loadDataMasterWrite base size blockSize (fun i => data (start + i)) device).1 = 0)
      (bus.loadDataMasterWrite base size blockSize (fun i => data (start + i)) device).2 := by
  rw [loadDataMasterWrite]
  by_cases halloc : ¬ bus.alloc = true
  · rw [if_pos halloc]
    exact ⟨Nat.le_refl _, ⟨[], List.nil_sublist _, Stored.refl⟩, fun h => ⟨Stored.refl, h⟩,
      fun h => absurd h.alloc halloc, fun _ h => absurd h.alloc halloc⟩
  rw [if_neg halloc]
  dsimp only
  obtain ⟨hmsword, hset⟩ := bus.masterAccessMsword_sends data (upperHalf base) device
  split_ifs with haccess
  · exact hmsword.abort haccess
  · rw [transfers_eq]
    -- in front of the loop the registers hold the upper half of `base`
    have hstart : Positioned base blockSize.toNat 0 ⟨base, upperHalf base, 0⟩
        (bus.masterAccessMsword (upperHalf base) device).2 := by
      refine ⟨?_, rfl, (Nat.zero_mul _).symm, hset (not_not.1 haccess)⟩
      rw [Nat.zero_mul]
      exact (BitVec.add_zero base).symm
    obtain ⟨hloop, hpos⟩ :=
      loadBlocks_sends bus data start (size.toNat / blockSize.toNat) hstart
    rw [Nat.zero_add] at hpos
    rcases hload : bus.loadBlocks (fun i => data (start + i)) blockSize
        (size.toNat / blockSize.toNat) ⟨base, upperHalf base, 0⟩
        (bus.masterAccessMsword (upperHalf base) device).2 with ⟨_ | cursor, device₁⟩
    · rw [hload] at hloop
      exact hmsword.append (hloop.abort (by simp))
    · rw [hload] at hloop hpos
      exact hmsword.append
        (hloop.append (loadRest_sends bus data start (hpos cursor rfl) _))

/-! ## The chunks of an image -/

/-- The chunks of a table that has a last entry. -/
theorem loadChunks_sends (bus : SdioBus) (data : ByteMemory) {entries : List BootloadEntry}
    {n : ℕ} (h : LastAt entries n) (cursor : ℕ) (device : SdioDevice) :
    Sends bus data (((List.range (n + 1)).map (chunkAt 256 cursor entries)).flatMap transfers)
      device ((bus.loadChunks data cursor entries device).1 = some 0)
      (bus.loadChunks data cursor entries device).2 := by
  induction entries generalizing n cursor device with
  | nil => exact absurd h.lt (Nat.not_lt_zero n)
  | cons entry entries ih =>
    have hfirst := loadDataMasterWrite_sends bus data cursor entry.dstAddr
      (entry.control &&& 0xffffff) 256 device
    rw [loadChunks]
    rcases lastAt_cons.1 h with ⟨hlast, rfl⟩ | ⟨hnot, m, rfl, hrest⟩
    · rw [if_pos hlast]
      have hchunks : ((List.range (0 + 1)).map (chunkAt 256 cursor (entry :: entries))).flatMap
          transfers = transfers ⟨entry.dstAddr, ⟨cursor, entry.len⟩, 256⟩ :=
        List.flatMap_singleton transfers _
      rw [hchunks]
      exact hfirst.congr fun h => congrArg some h
    · -- what the chunk returns is lost
      rw [if_neg (by rw [hnot]; exact Bool.false_ne_true)]
      simp only [List.range_succ_eq_map (n := m + 1), List.map_cons, List.flatMap_cons,
        List.map_map, Function.comp_def, Nat.succ_eq_add_one, chunkAt_cons_succ]
      exact hfirst.append (ih hrest _ _)

/-- The image has a table with a last entry, or it is one chunk of less than 4 GiB. -/
def Loadable (image : FwImage) : Prop :=
  if image.data.le16 0 = 0x5aa5 then ∃ n, LastAt image.bootloadDs.blEntry n
  else image.size + 3 < 2 ^ 32

/-- The memory with a chunk in it -/
def storeChunk (data : ByteMemory) (memory : AddressedMemory 32 (BitVec 8)) (write : MasterWrite) :
    AddressedMemory 32 (BitVec 8) :=
  memory.store write.address write.range.size fun i => data (write.range.start + i)

/-- The blocks of a chunk make up the chunk. -/
theorem foldl_transfers (data : ByteMemory) (memory : AddressedMemory 32 (BitVec 8))
    (write : MasterWrite) (hsize : write.range.size ≤ 2 ^ 32) :
    (transfers write).foldl (Transfer.store data) memory = storeChunk data memory write := by
  rw [transfers, List.foldl_map]
  refine ByteRange.foldl_pieces (fun done m =>
    m = memory.store write.address done fun i => data (write.range.start + i)) ?_ ?_
  · exact (AddressedMemory.store_zero _ _ _).symm
  · rintro r hr m rfl
    have hend := ByteRange.le_of_mem_pieces hr
    simp only [Transfer.store, address_blockAt, Nat.add_assoc]
    exact AddressedMemory.store_store _ _ (Nat.le_trans hend hsize)
      fun i => data (write.range.start + i)

theorem foldl_flatMap_transfers (data : ByteMemory) (memory : AddressedMemory 32 (BitVec 8))
    {writes : List MasterWrite} (hsize : ∀ write ∈ writes, write.range.size ≤ 2 ^ 32) :
    (writes.flatMap transfers).foldl (Transfer.store data) memory =
      writes.foldl (storeChunk data) memory := by
  induction writes generalizing memory with
  | nil => rfl
  | cons write writes ih =>
    rw [List.flatMap_cons, List.foldl_append, foldl_transfers data memory write
      (hsize write List.mem_cons_self), List.foldl_cons]
    exact ih _ fun write hwrite => hsize write (List.mem_cons_of_mem _ hwrite)

theorem BootloadEntry.len_le (entry : BootloadEntry) : entry.len ≤ 2 ^ 32 :=
  Nat.le_of_lt (entry.control &&& 0xffffff).isLt

/-- The load of an image, in one of the two forms. -/
theorem loadImage_sends (bus : SdioBus) {env : FwEnv} {image : FwImage} (hsdio : env.sdio = true)
    (hload : Loadable image) (device : SdioDevice) :
    Sends bus image.data ((env.loadImage image).writes.flatMap transfers) device
        ((bus.loadImage image device).1 = some 0) (bus.loadImage image device).2 ∧
      ∀ write ∈ (env.loadImage image).writes, write.range.size ≤ 2 ^ 32 := by
  have hblock : env.blockSize = 256 := by rw [FwEnv.blockSize, if_pos hsdio]
  rw [Loadable] at hload
  rw [loadImage, FwEnv.loadImage]
  split_ifs at hload ⊢ with hmagic
  · -- a table
    obtain ⟨n, hn⟩ := hload
    simp only [env.loadChunks_of_lastAt hn, hblock]
    refine ⟨loadChunks_sends bus image.data hn _ device, fun write hwrite => ?_⟩
    obtain ⟨k, -, rfl⟩ := List.mem_map.1 hwrite
    exact BootloadEntry.len_le _
  · -- the whole image, rounded up
    have hround : (BitVec.ofNat 32 ((image.size + 3) / 4 * 4)).toNat =
        (image.size + 3) / 4 * 4 := by
      rw [BitVec.toNat_ofNat]
      exact Nat.mod_eq_of_lt (by omega)
    have hsends := loadDataMasterWrite_sends bus image.data 0 METADATA_ADDRESS
      (BitVec.ofNat 32 ((image.size + 3) / 4 * 4)) 256 device
    simp only [Nat.zero_add, hround] at hsends
    simp only [hblock, List.flatMap_singleton, List.mem_singleton, forall_eq]
    exact ⟨hsends.congr fun h => congrArg some h, by omega⟩

end SdioBus

end SdioLoad
