import RsiDriver.Boot.MasterWrite
import RsiDriver.ToMathlib.AccessTrace
import RsiDriver.ToMathlib.BufferTrace
import RsiDriver.ToMathlib.LittleEndian

/-!
# Registers behind the AHB master

`rsi_sdio_master_reg_read` and `rsi_sdio_master_reg_write` (`rsi_91x_sdio.c`) read and write one,
two or four bytes of the device at a 32-bit address. The read takes the aligned word in which the
bytes stand and shifts them down. The write always is of four bytes: a shorter value is repeated on
the lanes of the word, and the address goes to the device as it is.

Two bytes are the lower half of a word or the upper one for both of them; in the middle of a word
they are read from the upper half. The test for the region of the flash, on which the read decides
whether to align the address, comes when the upper half of the address is masked out, so that every
address is aligned.

What the device does with a word at an address that is not a multiple of four is not in the driver.
It may take the bytes off the lanes, or one behind the other from the address on. The host is
little-endian, with an `unsigned long` of 32 bits or more.

## Main results

* `masterRegRead_cases`, `masterRegWrite_cases`: what the two functions can do on any bus;
* `masterRegRead_value`, `alignedData_repeats`: the lanes of a read, and the word of a write;
* `masterRegWrite_not_inBounds`: a write reads behind its buffer;
* `selectsBytes_iff`: the accesses inside a word that both functions make as they should.
-/

namespace MasterReg

open Boot (ENOMEM EIO)
open SdioLoad

/-- The memory of the two functions: what `data` and `data_aligned` point to, and
`dev->prev_desc` -/
inductive Buf
  | data
  | dataAligned
  | prevDesc
  deriving DecidableEq, Repr

def SDIO_BLOCK_SIZE : ℕ := 256
def RSI_MASTER_REG_BUF_SIZE : ℕ := 12
def FRAME_DESC_SZ : ℕ := 16
def FLASH_SIZE_ADDR : BitVec 32 := 0x04000016

/-- What `kzalloc` was asked for, and the size of the array -/
def Buf.size : Buf → ℕ
  | .data => SDIO_BLOCK_SIZE
  | .dataAligned => RSI_MASTER_REG_BUF_SIZE
  | .prevDesc => FRAME_DESC_SZ

/-- A write that has come to the device: the lanes of the word, and the address -/
structure WordWrite where
  address : BitVec 32
  lanes : List (BitVec 8)
  deriving DecidableEq, Repr

/-- What the device makes of a transfer. A read of an aligned address starts with the word that is
there. A write of four bytes reaches the bytes of each access that is aligned to its size and starts
at the address; it takes them off their lanes, or one behind the other. -/
structure Card where
  read : AddressedMemory 32 (BitVec 8) → BitVec 32 → ByteMemory
  write : AddressedMemory 32 (BitVec 8) → BitVec 32 → ℕ → ByteMemory → AddressedMemory 32 (BitVec 8)
  read_apply : ∀ {m address i}, 4 ∣ address.toNat → i < 4 →
    read m address i = m (address + BitVec.ofNat 32 i)
  write_apply : ∀ {m address data n}, n ∣ 4 → n ∣ address.toNat →
    (∀ i < n, write m address 4 data (address + BitVec.ofNat 32 i) = data (address.toNat % 4 + i)) ∨
      ∀ i < n, write m address 4 data (address + BitVec.ofNat 32 i) = data i

/-- The device, and as histories the words that have come to it, what was done with the pointers,
and the accesses to memory of the host. -/
structure State where
  device : SdioDevice
  words : List WordWrite
  ops : List (BufOp Buf Empty)
  host : List (Access Buf)

/-- An operation on a pointer -/
def State.did (s : State) (op : BufOp Buf Empty) : State := { s with ops := s.ops ++ [op] }

/-- Accesses to the memory of the host -/
def State.touched (s : State) (accesses : List (Access Buf)) : State :=
  { s with host := s.host ++ accesses }

/-- The bytes that the read takes out of the word: the last `if` of `rsi_sdio_master_reg_read` -/
def laneValue (addr data : BitVec 32) (size : BitVec 16) : BitVec 32 :=
  if size = 2 then (if addr &&& 0x3 = 0 then data else data >>> 16) &&& 0xffff
  else if size = 1 then
    (if addr &&& 0x3 = 0 then data
    else if addr &&& 0x3 = 1 then data >>> 8
    else if addr &&& 0x3 = 2 then data >>> 16
    else data >>> 24) &&& 0xff
  else data

/-- `*data_aligned`; `w` is the number of bits of an `unsigned long`. -/
def alignedData {w : ℕ} (data : BitVec w) (size : BitVec 16) : BitVec w :=
  if size = 2 then data <<< 16 ||| data &&& 0xffff
  else if size = 1 then
    let tempData : BitVec 32 := (data &&& 0xff).setWidth 32
    (tempData <<< 24 ||| tempData <<< 16 ||| tempData <<< 8 ||| tempData).setWidth w
  else data

section Functions

variable (bus : SdioBus) (card : Card)

/-- `rsi_sdio_read_register_multiple` into `data`. Nothing looks at `data` behind an error. -/
def readRegisterMultiple (addr : BitVec 32) (count : ℕ) (s : State) : ℤ × ByteMemory × State :=
  let status := bus.status s.device.accesses
  let device := { s.device with accesses := s.device.accesses + 1 }
  if status ≠ 0 then (status, fun _ => 0, { s with device })
  else
    let block : BlockWrite := ⟨device.msWord, lowerHalf addr, count⟩
    let data : ByteMemory :=
      fun i => if i < count then card.read device.memory block.address i else 0
    let s := { s with device := { device with blocks := device.blocks ++ [block] } }
    (status, data, s.touched [.write .data 0 (data.bytes 0 count)])

/-- `sdio_writesb` out of `data_aligned` -/
def writesb (addr : BitVec 32) (data : ByteMemory) (count : ℕ) (s : State) : ℤ × State :=
  let status := bus.status s.device.accesses
  let device := { s.device with accesses := s.device.accesses + 1 }
  let s := s.touched [.read .dataAligned ⟨0, count⟩]
  if status ≠ 0 then (status, { s with device })
  else
    let block : BlockWrite := ⟨device.msWord, lowerHalf addr, count⟩
    (status, { s with
      device := { device with
        memory := card.write device.memory block.address count data
        blocks := device.blocks ++ [block] }
      words := s.words ++ [⟨block.address, data.bytes 0 count⟩] })

/-- `rsi_sdio_write_register_multiple`; the build has `COMMAND_84_ERROR_WAR`. -/
def writeRegisterMultiple (addr : BitVec 32) (data : ByteMemory) (count : ℕ) (s : State) :
    ℤ × State :=
  if 1 < s.device.writeFail then (0, s)
  else
    -- after a failure one more write is allowed
    let s :=
      if s.device.writeFail = 1 then { s with device := { s.device with writeFail := 2 } } else s
    let written := writesb bus card addr data count s
    if written.1 ≠ 0 ∧ written.1 ≠ -84 then
      (written.1, { written.2 with device := { written.2.device with writeFail := 2 } })
    else (0, written.2.touched (Access.copy data .dataAligned 0 FRAME_DESC_SZ .prevDesc 0))

/-- `rsi_sdio_master_reg_read`; the second component is `*read_buf`. -/
def masterRegRead (addr readBuf : BitVec 32) (size : BitVec 16) (s : State) :
    ℤ × BitVec 32 × State :=
  if ¬ bus.alloc then (ENOMEM, readBuf, s)
  else
    let s := s.did (.alloc .data)
    let msAddr := upperHalf addr
    let access := bus.masterAccessMsword msAddr s.device
    let s := { s with device := access.2 }
    if access.1 ≠ 0 then ( EIO, readBuf, s.did (.free .data))
    else
      let addr := addr &&& 0xffff
      let addrOnBus := addr &&& 0xff000000
      let addrOnBus :=
        if addrOnBus = FLASH_SIZE_ADDR &&& 0xff000000 ∨ addrOnBus = 0
        then addr &&& ~~~(0x3 : BitVec 32) else addr
      let read := readRegisterMultiple bus card (addrOnBus ||| SD_REQUEST_MASTER) SDIO_BLOCK_SIZE s
      if read.1 ≠ 0 then ( EIO, readBuf, read.2.2.did (.free .data))
      else
        (0, laneValue addr (read.2.1.le32 0) size,
          (read.2.2.touched [.read .data ⟨0, 4⟩]).did (.free .data))

/-- `rsi_sdio_master_reg_write` -/
def masterRegWrite {w : ℕ} (addr data : BitVec w) (size : BitVec 16) (s : State) : ℤ × State :=
  if ¬ bus.alloc then (ENOMEM, s)
  else
    let aligned := ByteMemory.ofBitVec (alignedData data size)
    let s := (s.did (.alloc .dataAligned)).touched
      [.write .dataAligned 0 (aligned.bytes 0 (w / 8))]
    -- the write is of a word, whatever the size of the value
    let size := 4
    let access := bus.masterAccessMsword ((addr >>> 16).setWidth 16) s.device
    let s := { s with device := access.2 }
    if access.1 ≠ 0 then ( EIO, s.did (.free .dataAligned))
    else
      let addr := addr &&& 0xffff
      let addrOnBus := (addr ||| SD_REQUEST_MASTER.setWidth w).setWidth 32
      let written := writeRegisterMultiple bus card addrOnBus aligned size s
      let s := written.2.did (.free .dataAligned)
      if written.1 ≠ 0 then ( EIO, s) else (0, s)

end Functions

/-! ## Addresses -/

/-- The address of the aligned word in which a byte stands -/
def wordAddress (addr : BitVec 32) : BitVec 32 := addr &&& ~~~(0x3 : BitVec 32)

variable {addr : BitVec 32} {size : BitVec 16} {i n : ℕ}

theorem toNat_and_three (addr : BitVec 32) : (addr &&& 0x3).toNat = addr.toNat % 4 := by
  rw [BitVec.toNat_and]
  exact Nat.and_two_pow_sub_one_eq_mod addr.toNat 2

/-- An address is that of its word and what is left. -/
theorem wordAddress_add_and_three (addr : BitVec 32) :
    wordAddress addr + (addr &&& 0x3) = addr := by
  have hmask : ~~~(0x3 : BitVec 32) &&& 0x3 = 0 := by decide
  have hdisjoint : wordAddress addr &&& (addr &&& 0x3) = 0 := by
    calc
      wordAddress addr &&& (addr &&& 0x3) = addr &&& (~~~(0x3 : BitVec 32) &&& 0x3) := by
        rw [wordAddress]
        ac_nf
      _ = 0 := by
        rw [hmask]
        exact BitVec.and_zero
  rw [BitVec.add_eq_or_of_and_eq_zero _ _ hdisjoint, wordAddress, ← BitVec.and_or_distrib_left]
  exact BitVec.and_allOnes

theorem toNat_wordAddress (addr : BitVec 32) :
    (wordAddress addr).toNat = addr.toNat - addr.toNat % 4 := by
  have hsum := congrArg BitVec.toNat (wordAddress_add_and_three addr)
  have hlow := toNat_and_three addr
  have hword : (wordAddress addr).toNat ≤ addr.toNat := by
    rw [wordAddress, BitVec.toNat_and]
    exact Nat.and_le_left
  have hmod := Nat.mod_le addr.toNat 4
  have haddr := addr.isLt
  rw [BitVec.toNat_add, hlow] at hsum
  omega

/-- Inside a word addresses do not wrap around. -/
theorem toNat_add_ofNat (h : addr.toNat % 4 + i < 4) :
    (addr + BitVec.ofNat 32 i).toNat = addr.toNat + i := by
  have haddr := addr.isLt
  rw [BitVec.toNat_add, BitVec.toNat_ofNat]
  omega

theorem wordAddress_add (addr : BitVec 32) (i : ℕ) :
    wordAddress addr + BitVec.ofNat 32 (addr.toNat % 4 + i) = addr + BitVec.ofNat 32 i := by
  apply BitVec.eq_of_toNat_eq
  rw [BitVec.toNat_add, BitVec.toNat_add, toNat_wordAddress, BitVec.toNat_ofNat, BitVec.toNat_ofNat]
  have hmod := Nat.mod_le addr.toNat 4
  omega

/-- The mask leaves nothing of the region. -/
theorem and_region (addr : BitVec 32) : addr &&& 0xffff &&& 0xff000000 = 0 := by
  have hmask : (0xffff : BitVec 32) &&& 0xff000000 = 0 := by decide
  rw [BitVec.and_assoc, hmask]
  exact BitVec.and_zero

/-- The address that a read has on the bus. -/
theorem address_read (addr : BitVec 32) :
    upperHalf addr ++ lowerHalf (addr &&& 0xffff &&& ~~~(0x3 : BitVec 32) ||| SD_REQUEST_MASTER) =
      wordAddress addr := by
  have hmask : ~~~(0x3 : BitVec 32) = BitVec.allOnes 16 ++ ~~~(0x3 : BitVec 16) := by decide
  have hhigh : (0xffff : BitVec 32).setWidth 16 = BitVec.allOnes 16 := by decide
  have hlow : (~~~(0x3 : BitVec 32)).setWidth 16 = ~~~(0x3 : BitVec 16) := by decide
  have hrequest : SD_REQUEST_MASTER.setWidth 16 = 0#16 := by decide
  have hhalf : lowerHalf (addr &&& 0xffff &&& ~~~(0x3 : BitVec 32) ||| SD_REQUEST_MASTER) =
      lowerHalf addr &&& ~~~(0x3 : BitVec 16) := by
    rw [lowerHalf, lowerHalf, BitVec.setWidth_or, BitVec.setWidth_and, BitVec.setWidth_and, hhigh,
      hlow, hrequest, BitVec.and_allOnes, BitVec.or_zero]
  have hword : wordAddress addr = upperHalf addr ++ (lowerHalf addr &&& ~~~(0x3 : BitVec 16)) := by
    calc
      wordAddress addr =
          (upperHalf addr ++ lowerHalf addr) &&& (BitVec.allOnes 16 ++ ~~~(0x3 : BitVec 16)) := by
        rw [upperHalf_append_lowerHalf, ← hmask, wordAddress]
      _ = upperHalf addr ++ (lowerHalf addr &&& ~~~(0x3 : BitVec 16)) := by
        rw [BitVec.and_append, BitVec.and_allOnes]
  rw [hhalf, hword]

/-- The lower half of the address that a write has on the bus. -/
theorem lowerHalf_write {w : ℕ} (hw : 32 ≤ w) (addr : BitVec 32) :
    lowerHalf ((addr.setWidth w &&& 0xffff ||| SD_REQUEST_MASTER.setWidth w).setWidth 32) =
      lowerHalf addr := by
  have hhigh : (0xffff : BitVec w).setWidth 16 = BitVec.allOnes 16 :=
    BitVec.setWidth_ofNat_of_le (by omega) _
  have hrequest : SD_REQUEST_MASTER.setWidth 16 = 0#16 := by decide
  rw [lowerHalf, BitVec.setWidth_setWidth_of_le _ (by omega), BitVec.setWidth_or,
    BitVec.setWidth_and, BitVec.setWidth_setWidth_of_le _ (by omega),
    BitVec.setWidth_setWidth_of_le _ (by omega), hhigh, hrequest, BitVec.and_allOnes,
    BitVec.or_zero, lowerHalf]

/-- The ms word of a write. -/
theorem upperHalf_write {w : ℕ} (hw : 32 ≤ w) (addr : BitVec 32) :
    (addr.setWidth w >>> 16).setWidth 16 = upperHalf addr := by
  apply BitVec.eq_of_toNat_eq
  rw [upperHalf, BitVec.toNat_setWidth, BitVec.toNat_setWidth, BitVec.toNat_ushiftRight,
    BitVec.toNat_ushiftRight, BitVec.toNat_setWidth_of_le hw]

/-! ## Lanes -/

/-- The lane from which a read of some bytes starts. -/
def readLane (addr : BitVec 32) (size : BitVec 16) : ℕ :=
  if size = 2 then if addr.toNat % 4 = 0 then 0 else 2
  else if size = 1 then addr.toNat % 4
  else 0

/-- The mask keeps the place in the word. -/
theorem and_three (addr : BitVec 32) : addr &&& 0xffff &&& 0x3 = addr &&& 0x3 := by
  have hmask : (0xffff : BitVec 32) &&& 0x3 = 0x3 := by decide
  rw [BitVec.and_assoc, hmask]

theorem and_three_eq_iff {k : BitVec 32} : addr &&& 0x3 = k ↔ addr.toNat % 4 = k.toNat := by
  rw [← BitVec.toNat_inj, toNat_and_three]

/-- A read shifts its lane down and masks the size. -/
theorem laneValue_eq (hsize : size = 1 ∨ size = 2 ∨ size = 4) (addr data : BitVec 32) :
    laneValue (addr &&& 0xffff) data size =
      data >>> (8 * readLane addr size) &&& BitVec.ofNat 32 (2 ^ (8 * size.toNat) - 1) := by
  rw [laneValue, readLane, and_three]
  simp only [and_three_eq_iff]
  rcases hsize with rfl | rfl | rfl
  · -- one byte: a shift for each lane
    have hcases : addr.toNat % 4 = 0 ∨ addr.toNat % 4 = 1 ∨ addr.toNat % 4 = 2 ∨
        addr.toNat % 4 = 3 := by omega
    rcases hcases with h | h | h | h <;> simp [h]
  · -- two bytes: the lower half or the upper one
    by_cases h : addr.toNat % 4 = 0 <;> simp [h]
  · -- the mask of four bytes takes nothing away
    have hmask : BitVec.ofNat 32 (2 ^ (8 * (4 : BitVec 16).toNat) - 1) = BitVec.allOnes 32 := by
      decide
    rw [hmask, BitVec.and_allOnes]
    simp

/-- **The value of a read** is spelled by the lanes from `readLane` on. -/
theorem toNat_laneValue (hsize : size = 1 ∨ size = 2 ∨ size = 4) (addr data : BitVec 32) :
    (laneValue (addr &&& 0xffff) data size).toNat =
      (ByteMemory.ofBitVec data).littleEndian (readLane addr size) size.toNat := by
  have hwidth : 8 * size.toNat ≤ 32 := by rcases hsize with rfl | rfl | rfl <;> decide
  rw [laneValue_eq hsize, ByteMemory.toNat_ushiftRight_and_mask _ _ hwidth]

/-- **The word of a write** repeats the bytes of the value. -/
theorem alignedData_repeats {w : ℕ} (hw : 32 ≤ w) (hsize : size = 1 ∨ size = 2 ∨ size = 4)
    (data : BitVec w) :
    ByteMemory.Repeats (ByteMemory.ofBitVec (alignedData data size)) (ByteMemory.ofBitVec data) 4
      size.toNat := by
  intro j hj
  have hin : 8 * (j + 1) ≤ w := by omega
  have hcases : j = 0 ∨ j = 1 ∨ j = 2 ∨ j = 3 := by omega
  rcases hsize with rfl | rfl | rfl
  · -- one byte, on each of the four lanes
    let tempData : BitVec 32 := (data &&& BitVec.ofNat w (2 ^ (8 * 1) - 1)).setWidth 32
    have haligned : alignedData data 1 = (tempData <<< (8 * 3) ||| tempData <<< (8 * 2) |||
        tempData <<< (8 * 1) ||| tempData).setWidth w := rfl
    have hbyte : ∀ i < 4, ByteMemory.ofBitVec tempData i =
        if i < 1 then ByteMemory.ofBitVec data i else 0 := fun i hi => by
      rw [ByteMemory.ofBitVec_setWidth _ (by omega), ByteMemory.ofBitVec_and_mask _ (by omega)]
    rw [haligned, ByteMemory.ofBitVec_setWidth _ hin]
    simp only [ByteMemory.ofBitVec_or]
    rw [ByteMemory.ofBitVec_shiftLeft _ (by omega), ByteMemory.ofBitVec_shiftLeft _ (by omega),
      ByteMemory.ofBitVec_shiftLeft _ (by omega)]
    rcases hcases with rfl | rfl | rfl | rfl <;> simp [hbyte]
  · -- two bytes, on each half
    have haligned : alignedData data 2 =
        data <<< (8 * 2) ||| data &&& BitVec.ofNat w (2 ^ (8 * 2) - 1) := rfl
    rw [haligned, ByteMemory.ofBitVec_or, ByteMemory.ofBitVec_shiftLeft _ hin,
      ByteMemory.ofBitVec_and_mask _ hin]
    rcases hcases with rfl | rfl | rfl | rfl <;> simp
  · rw [alignedData, if_neg (by decide), if_neg (by decide)]
    exact congrArg _ (Nat.mod_eq_of_lt hj).symm

/-! ## What the functions can do -/

/-- An access between two states has failed. -/
def Fails (bus : SdioBus) (s s' : State) : Prop :=
  ∃ k, s.device.accesses ≤ k ∧ k < s'.device.accesses ∧ bus.status k ≠ 0

/-- The pointer got memory between two states, and that was freed, once. -/
def Freed (b : Buf) (s s' : State) : Prop :=
  ∃ ops, s'.ops = s.ops ++ ops ∧ .alloc b ∈ ops ∧ BufOp.Released b ops

/-- A word has come to the device. -/
structure Presented (card : Card) (address : BitVec 32) (word : ByteMemory) (s s' : State) :
    Prop where
  words : s'.words = s.words ++ [⟨address, word.bytes 0 4⟩]
  memory : s'.device.memory = card.write s.device.memory address 4 word

/-- `data_aligned` has been read as far as a descriptor goes. -/
def OverRead (s : State) : Prop := .read .dataAligned ⟨0, FRAME_DESC_SZ⟩ ∈ s.host

variable {bus : SdioBus} {card : Card} {s s' : State} {readBuf buf : BitVec 32} {status : ℤ}

/-- The device with another ms word -/
def setMsWord (msWord : BitVec 16) (device : SdioDevice) : SdioDevice :=
  { device with
    msByte := msWord.setWidth 8
    lsByte := (msWord >>> 8).setWidth 8
    accesses := device.accesses + 2 }

theorem msWord_setMsWord (msWord : BitVec 16) (device : SdioDevice) :
    (setMsWord msWord device).msWord = msWord := by
  obtain ⟨device', hrun, hword, -⟩ := masterAccessMsword_succeeds msWord device
  have hset : device' = setMsWord msWord device := (congrArg Prod.snd hrun).symm
  rw [← hset, hword]

/-- `rsi_sdio_master_access_msword` sets the ms word, or one of its accesses fails. -/
theorem masterAccessMsword_cases (bus : SdioBus) (msWord : BitVec 16) (device : SdioDevice) :
    (bus.status device.accesses = 0 ∧ bus.status (device.accesses + 1) = 0 ∧
      bus.masterAccessMsword msWord device = (0, setMsWord msWord device)) ∨
    ((bus.masterAccessMsword msWord device).1 ≠ 0 ∧
      (bus.masterAccessMsword msWord device).2.memory = device.memory ∧
      ∃ k, device.accesses ≤ k ∧ k < (bus.masterAccessMsword msWord device).2.accesses ∧
        bus.status k ≠ 0) := by
  have hlsb : SDIO_MASTER_ACCESS_LSBYTE ≠ SDIO_MASTER_ACCESS_MSBYTE := by decide
  by_cases hfirst : bus.status device.accesses = 0
  · by_cases hsecond : bus.status (device.accesses + 1) = 0
    · refine .inl ⟨hfirst, hsecond, ?_⟩
      simp [SdioBus.masterAccessMsword, SdioBus.writeRegister, hfirst, hsecond, hlsb, setMsWord]
    · -- the upper byte is not taken
      right
      simp only [SdioBus.masterAccessMsword, SdioBus.writeRegister, hfirst, hsecond, ne_eq,
        not_true_eq_false, not_false_eq_true, if_true, if_false, true_and]
      exact ⟨device.accesses + 1, by omega, by omega, hsecond⟩
  · right
    simp only [SdioBus.masterAccessMsword, SdioBus.writeRegister, hfirst, ne_eq,
      not_false_eq_true, if_true, true_and]
    exact ⟨by decide, device.accesses, by omega, by omega, hfirst⟩

/-- The three accesses of a call have succeeded. -/
theorem not_fails (hfirst : bus.status s.device.accesses = 0)
    (hsecond : bus.status (s.device.accesses + 1) = 0)
    (hthird : bus.status (s.device.accesses + 2) = 0)
    (haccesses : s'.device.accesses = s.device.accesses + 3) : ¬ Fails bus s s' := by
  rintro ⟨k, hk, hk', hne⟩
  have hcases : k = s.device.accesses ∨ k = s.device.accesses + 1 ∨
      k = s.device.accesses + 2 := by omega
  rcases hcases with rfl | rfl | rfl
  · exact hne hfirst
  · exact hne hsecond
  · exact hne hthird

/-- A pointer to memory that is freed at the end. -/
theorem freed_of_ops {b : Buf} (h : s'.ops = s.ops ++ [.alloc b] ++ [.free b]) :
    Freed b s s' := by
  refine ⟨[.alloc b, .free b], h.trans (List.append_assoc _ _ _), List.mem_cons_self, ?_⟩
  cases b <;> decide

section Write

variable (bus card s) {addrOnBus : BitVec 32}

/-- `sdio_writesb` under the ms word of the address. -/
theorem writesb_cases (hword : s.device.msWord = upperHalf addr)
    (haddr : lowerHalf addrOnBus = lowerHalf addr) (word : ByteMemory) :
    ∃ sent, writesb bus card addrOnBus word 4 s = (bus.status s.device.accesses, sent) ∧
      sent.ops = s.ops ∧ sent.device.accesses = s.device.accesses + 1 ∧
      (bus.status s.device.accesses = 0 → Presented card addr word s sent) ∧
      (bus.status s.device.accesses ≠ 0 →
        sent.words = s.words ∧ sent.device.memory = s.device.memory) := by
  have haddress : upperHalf addr ++ lowerHalf addr = addr := upperHalf_append_lowerHalf addr
  have hregisters : s.device.lsByte ++ s.device.msByte = upperHalf addr := hword
  rw [writesb]
  dsimp only
  by_cases hstatus : bus.status s.device.accesses = 0
  · rw [if_neg (not_not_intro hstatus)]
    refine ⟨_, rfl, rfl, rfl, fun _ => ?_, fun h => absurd hstatus h⟩
    constructor <;>
      simp [State.touched, BlockWrite.address, SdioDevice.msWord, hregisters, haddr, haddress]
  · rw [if_pos hstatus]
    exact ⟨_, rfl, rfl, rfl, fun h => absurd h hstatus, fun _ => ⟨rfl, rfl⟩⟩

/-- `rsi_sdio_write_register_multiple` under the ms word of the address: the word comes to the
device, or the writes are stopped, or the access has failed. -/
theorem writeRegisterMultiple_cases (hword : s.device.msWord = upperHalf addr)
    (haddr : lowerHalf addrOnBus = lowerHalf addr) (word : ByteMemory) :
    ∃ status written, writeRegisterMultiple bus card addrOnBus word 4 s = (status, written) ∧
      written.ops = s.ops ∧
      ((s.device.writeFail ≤ 1 ∧ bus.status s.device.accesses = 0 ∧ status = 0 ∧
          Presented card addr word s written ∧ OverRead written ∧
          written.device.accesses = s.device.accesses + 1) ∨
        ((1 < s.device.writeFail ∨ Fails bus s written) ∧ written.words = s.words ∧
          written.device.memory = s.device.memory)) := by
  by_cases hstop : 1 < s.device.writeFail
  · exact ⟨0, s, if_pos hstop, rfl, .inr ⟨.inl hstop, rfl, rfl⟩⟩
  -- the mark of an earlier failure is all that changes in front of the write
  obtain ⟨s₁, hs₁, hops₁, hwords₁, hmemory₁, haccesses₁, hword₁⟩ : ∃ s₁,
      (if s.device.writeFail = 1 then { s with device := { s.device with writeFail := 2 } }
        else s) = s₁ ∧ s₁.ops = s.ops ∧ s₁.words = s.words ∧
      s₁.device.memory = s.device.memory ∧ s₁.device.accesses = s.device.accesses ∧
      s₁.device.msWord = s.device.msWord := by
    refine ⟨_, rfl, ?_⟩
    split <;> exact ⟨rfl, rfl, rfl, rfl, rfl⟩
  obtain ⟨sent, hsent, hops, haccesses, hpresented, hkept⟩ :=
    writesb_cases bus card s₁ (hword₁.trans hword) haddr word
  rw [haccesses₁] at hsent haccesses hpresented hkept
  rw [writeRegisterMultiple, if_neg hstop, hs₁]
  simp only [hsent]
  by_cases hstatus : bus.status s.device.accesses = 0
  · have hok : ¬ (bus.status s.device.accesses ≠ 0 ∧ bus.status s.device.accesses ≠ -84) :=
      fun h => h.1 hstatus
    rw [if_neg hok]
    obtain ⟨hwords, hmemory⟩ := hpresented hstatus
    rw [hwords₁] at hwords
    rw [hmemory₁] at hmemory
    have hread : OverRead
        (sent.touched (Access.copy word .dataAligned 0 FRAME_DESC_SZ .prevDesc 0)) :=
      List.mem_append_right _ List.mem_cons_self
    exact ⟨0, _, rfl, hops.trans hops₁,
      .inl ⟨Nat.le_of_not_lt hstop, hstatus, rfl, ⟨hwords, hmemory⟩, hread, haccesses⟩⟩
  · obtain ⟨hwords, hmemory⟩ := hkept hstatus
    have hfails : ∀ written : State, written.device.accesses = s.device.accesses + 1 →
        Fails bus s written :=
      fun written h => ⟨s.device.accesses, Nat.le_refl _, by omega, hstatus⟩
    split
    · exact ⟨_, _, rfl, hops.trans hops₁, .inr ⟨.inr (hfails _ haccesses), hwords.trans hwords₁,
        hmemory.trans hmemory₁⟩⟩
    · -- the error -84 is taken for a success
      exact ⟨_, _, rfl, hops.trans hops₁, .inr ⟨.inr (hfails _ haccesses), hwords.trans hwords₁,
        hmemory.trans hmemory₁⟩⟩

end Write

/-- **What a write can do**: the word comes to the device, or there is no memory for it, or the
writes are stopped, or an access has failed. -/
theorem masterRegWrite_cases {w : ℕ} (hw : 32 ≤ w) {data : BitVec w}
    (hwrite : masterRegWrite bus card (addr.setWidth w) data size s = (status, s')) :
    (¬ bus.alloc ∧ s' = s) ∨
      (bus.alloc ∧ Freed .dataAligned s s' ∧
        ((s.device.writeFail ≤ 1 ∧ ¬ Fails bus s s' ∧ status = 0 ∧
            Presented card addr (ByteMemory.ofBitVec (alignedData data size)) s s' ∧
            OverRead s') ∨
          ((1 < s.device.writeFail ∨ Fails bus s s') ∧ s'.words = s.words ∧
            s'.device.memory = s.device.memory))) := by
  by_cases halloc : bus.alloc = true
  swap
  · rw [masterRegWrite, if_pos halloc] at hwrite
    cases hwrite
    exact .inl ⟨halloc, rfl⟩
  rw [masterRegWrite, if_neg (not_not_intro halloc), upperHalf_write hw] at hwrite
  dsimp only [State.did, State.touched] at hwrite
  rcases masterAccessMsword_cases bus (upperHalf addr) s.device with
    ⟨hfirst, hsecond, hset⟩ | ⟨hfailed, hmemory, k, hk, hk', hstatus⟩
  swap
  · -- the ms word is not set
    rw [if_pos hfailed] at hwrite
    cases hwrite
    exact .inr ⟨halloc, freed_of_ops rfl, .inr ⟨.inr ⟨k, hk, hk', hstatus⟩, rfl, hmemory⟩⟩
  -- the state in front of the transfer
  obtain ⟨s₂, hs₂⟩ : ∃ s₂ : State, s₂ =
      { s with
        device := setMsWord (upperHalf addr) s.device
        ops := s.ops ++ [.alloc .dataAligned]
        host := s.host ++ [.write .dataAligned 0
          ((ByteMemory.ofBitVec (alignedData data size)).bytes 0 (w / 8))] } := ⟨_, rfl⟩
  have hword : s₂.device.msWord = upperHalf addr := by rw [hs₂, msWord_setMsWord]
  obtain ⟨sent, written, hwritten, hops, hcases⟩ := writeRegisterMultiple_cases bus card s₂
    hword (lowerHalf_write hw addr) (ByteMemory.ofBitVec (alignedData data size))
  rw [hset, if_neg (not_not_intro rfl), ← hs₂] at hwrite
  simp only [hwritten] at hwrite
  have hresult : (if sent ≠ 0 then Boot.EIO else 0,
      { written with ops := written.ops ++ [.free .dataAligned] }) = (status, s') := by
    rw [← hwrite]
    split <;> rfl
  cases hresult
  refine .inr ⟨halloc, freed_of_ops (by rw [hops, hs₂]), ?_⟩
  have haccesses₂ : s₂.device.accesses = s.device.accesses + 2 := by rw [hs₂, setMsWord]
  have hfail₂ : s₂.device.writeFail = s.device.writeFail := by rw [hs₂, setMsWord]
  have hmemory₂ : s₂.device.memory = s.device.memory := by rw [hs₂, setMsWord]
  have hwords₂ : s₂.words = s.words := by rw [hs₂]
  rw [hfail₂, haccesses₂, hwords₂, hmemory₂] at hcases
  rcases hcases with ⟨hgoing, hthird, hsent, ⟨hwords, hmemory⟩, hread, haccesses⟩ |
    ⟨hnot, hwords, hmemory⟩
  · rw [hwords₂] at hwords
    rw [hmemory₂] at hmemory
    exact .inl ⟨hgoing, not_fails hfirst hsecond hthird haccesses,
      if_neg (not_not_intro hsent), ⟨hwords, hmemory⟩, hread⟩
  · -- an access of the transfer is one of the call
    refine .inr ⟨hnot.imp_right ?_, hwords, hmemory⟩
    rintro ⟨k, hk, hk', hne⟩
    exact ⟨k, by omega, hk', hne⟩

/-! ## What a read can do -/

/-- `rsi_sdio_read_register_multiple` under the ms word of the address. -/
theorem readRegisterMultiple_cases (bus : SdioBus) (card : Card) (s : State)
    {addrOnBus address : BitVec 32} (haddr : s.device.msWord ++ lowerHalf addrOnBus = address)
    (count : ℕ) :
    ∃ data s', readRegisterMultiple bus card addrOnBus count s =
        (bus.status s.device.accesses, data, s') ∧
      s'.ops = s.ops ∧ s'.device.memory = s.device.memory ∧
      s'.device.accesses = s.device.accesses + 1 ∧
      (count ≤ SDIO_BLOCK_SIZE → Access.AllInBounds Buf.size s.host →
        Access.AllInBounds Buf.size s'.host) ∧
      (bus.status s.device.accesses = 0 →
        ∀ i < count, data i = card.read s.device.memory address i) := by
  subst haddr
  rw [readRegisterMultiple]
  dsimp only
  by_cases hstatus : bus.status s.device.accesses = 0
  · rw [if_neg (not_not_intro hstatus)]
    refine ⟨_, _, rfl, rfl, rfl, rfl, fun hcount hhost => ?_, fun _ i hi => if_pos hi⟩
    rw [State.touched, Access.allInBounds_append, Access.allInBounds_cons, Access.inBounds_write,
      ByteMemory.length_bytes, Nat.zero_add]
    exact ⟨hhost, .inr hcount, Access.allInBounds_nil⟩
  · rw [if_pos hstatus]
    exact ⟨_, _, rfl, rfl, rfl, rfl, fun _ hhost => hhost, fun h => absurd h hstatus⟩

/-- **What a read can do**: the lanes come to the caller, or there is no memory for the word, or an
access has failed. In the last two cases the caller's buffer is as it was. -/
theorem masterRegRead_cases
    (hread : masterRegRead bus card addr readBuf size s = (status, buf, s')) :
    (¬ bus.alloc ∧ status = ENOMEM ∧ buf = readBuf ∧ s' = s) ∨
      (bus.alloc ∧ Freed .data s s' ∧ s'.device.memory = s.device.memory ∧
        (Access.AllInBounds Buf.size s.host → Access.AllInBounds Buf.size s'.host) ∧
        ((¬ Fails bus s s' ∧ status = 0 ∧
            buf = laneValue (addr &&& 0xffff)
              ((card.read s.device.memory (wordAddress addr)).le32 0) size) ∨
          (Fails bus s s' ∧ status = Boot.EIO ∧ buf = readBuf))) := by
  by_cases halloc : bus.alloc = true
  swap
  · rw [masterRegRead, if_pos halloc] at hread
    cases hread
    exact .inl ⟨halloc, rfl, rfl, rfl⟩
  rw [masterRegRead, if_neg (not_not_intro halloc)] at hread
  dsimp only [State.did, State.touched] at hread
  rcases masterAccessMsword_cases bus (upperHalf addr) s.device with
    ⟨hfirst, hsecond, hset⟩ | ⟨hfailed, hmemory, k, hk, hk', hstatus⟩
  swap
  · -- the ms word is not set
    rw [if_pos hfailed] at hread
    cases hread
    exact .inr ⟨halloc, freed_of_ops rfl, hmemory, id,
      .inr ⟨⟨k, hk, hk', hstatus⟩, rfl, rfl⟩⟩
  -- the state in front of the transfer
  obtain ⟨s₂, hs₂⟩ : ∃ s₂ : State, s₂ =
      { s with
        device := setMsWord (upperHalf addr) s.device
        ops := s.ops ++ [.alloc .data] } := ⟨_, rfl⟩
  have haddress : s₂.device.msWord ++
      lowerHalf (addr &&& 0xffff &&& ~~~(0x3 : BitVec 32) ||| SD_REQUEST_MASTER) =
        wordAddress addr := by
    rw [hs₂, msWord_setMsWord, address_read]
  obtain ⟨data, s₃, hrun, hops, hmemory, haccesses, hhost, hdata⟩ :=
    readRegisterMultiple_cases bus card s₂ haddress SDIO_BLOCK_SIZE
  have haccesses₂ : s₂.device.accesses = s.device.accesses + 2 := by rw [hs₂, setMsWord]
  have hmemory₂ : s₂.device.memory = s.device.memory := by rw [hs₂, setMsWord]
  have hops₂ : s₂.ops = s.ops ++ [.alloc .data] := by rw [hs₂]
  have hhost₂ : s₂.host = s.host := by rw [hs₂]
  rw [haccesses₂] at hrun haccesses hdata
  rw [hmemory₂] at hmemory hdata
  rw [hhost₂] at hhost
  simp only [hset, ne_eq, not_true_eq_false, if_false, and_region, or_true, if_true, ← hs₂,
    hrun] at hread
  by_cases hthird : bus.status (s.device.accesses + 2) = 0
  · -- the first four bytes of the transfer are the word
    have hword : data.le32 0 = (card.read s.device.memory (wordAddress addr)).le32 0 :=
      ByteMemory.le32_congr fun i hi => hdata hthird (0 + i) (by rw [SDIO_BLOCK_SIZE]; omega)
    rw [if_neg (not_not_intro hthird), hword] at hread
    cases hread
    refine .inr ⟨halloc, freed_of_ops (by rw [hops, hops₂]), hmemory, fun h => ?_,
      .inl ⟨not_fails hfirst hsecond hthird haccesses, rfl, rfl⟩⟩
    rw [Access.allInBounds_append, Access.allInBounds_cons, Access.inBounds_read]
    exact ⟨hhost (Nat.le_refl _) h, .inr (by decide), Access.allInBounds_nil⟩
  · have hlt : s.device.accesses + 2 < s₃.device.accesses := by omega
    rw [if_pos hthird] at hread
    cases hread
    exact .inr ⟨halloc, freed_of_ops (by rw [hops, hops₂]), hmemory, hhost (Nat.le_refl _),
      .inr ⟨⟨s.device.accesses + 2, by omega, hlt, hthird⟩, rfl, rfl⟩⟩

/-! ## The bytes of an access -/

/-- The memory of the device as it is seen from an address on -/
def bytesAt (m : AddressedMemory 32 (BitVec 8)) (addr : BitVec 32) : ByteMemory :=
  fun i => m (addr + BitVec.ofNat 32 i)

/-- **The right bytes are selected**, whatever the device makes of a word.

A read returns the little-endian value of the bytes at the address. A write shows the lowest bytes
of the value on the lanes of the access. A read behind a write returns what was written. With an
error of the bus the caller's buffer is as it was, and the memory of the call is freed. -/
structure SelectsBytes (w : ℕ) (addr : BitVec 32) (size : BitVec 16) : Prop where
  read : ∀ bus card s readBuf status buf s',
    masterRegRead bus card addr readBuf size s = (status, buf, s') →
    bus.alloc → ¬ Fails bus s s' →
      status = 0 ∧ buf.toNat = (bytesAt s.device.memory addr).littleEndian 0 size.toNat
  write : ∀ bus card s (data : BitVec w) status s',
    masterRegWrite bus card (addr.setWidth w) data size s = (status, s') →
    bus.alloc → s.device.writeFail ≤ 1 → ¬ Fails bus s s' →
      status = 0 ∧ ∃ lanes, s'.words = s.words ++ [⟨addr, lanes⟩] ∧ lanes.length = 4 ∧
        ∀ i < size.toNat, lanes[addr.toNat % 4 + i]? = some (ByteMemory.ofBitVec data i)
  readAfterWrite : ∀ bus card s (data : BitVec w) status s' readBuf status' buf s'',
    masterRegWrite bus card (addr.setWidth w) data size s = (status, s') →
    masterRegRead bus card addr readBuf size s' = (status', buf, s'') →
    bus.alloc → s.device.writeFail ≤ 1 → ¬ Fails bus s s' → ¬ Fails bus s' s'' →
      status' = 0 ∧ buf.toNat = data.toNat % 256 ^ size.toNat
  readFails : ∀ bus card s readBuf status buf s',
    masterRegRead bus card addr readBuf size s = (status, buf, s') →
    Fails bus s s' → buf = readBuf ∧ Freed .data s s'
  writeFails : ∀ bus card s (data : BitVec w) status s',
    masterRegWrite bus card (addr.setWidth w) data size s = (status, s') →
    Fails bus s s' → Freed .dataAligned s s'

/-- The word that a read gets from the device -/
theorem littleEndian_word (card : Card) (m : AddressedMemory 32 (BitVec 8)) (addr : BitVec 32)
    {lane : ℕ} (hlane : lane + n ≤ 4) :
    (ByteMemory.ofBitVec ((card.read m (wordAddress addr)).le32 0)).littleEndian lane n =
      (bytesAt m (wordAddress addr)).littleEndian lane n := by
  have haligned : 4 ∣ (wordAddress addr).toNat := by
    rw [toNat_wordAddress]
    omega
  refine ByteMemory.littleEndian_congr fun i hi => ?_
  rw [ByteMemory.ofBitVec_le32 _ _ (by omega), Nat.zero_add,
    card.read_apply haligned (by omega), bytesAt]

theorem readLane_add_le (hsize : size = 1 ∨ size = 2 ∨ size = 4) (addr : BitVec 32) :
    readLane addr size + size.toNat ≤ 4 := by
  have hlt := Nat.mod_lt addr.toNat (show 4 > 0 by decide)
  rcases hsize with rfl | rfl | rfl
  · simp [readLane]
    omega
  · by_cases h : addr.toNat % 4 = 0 <;> simp [readLane, h]
  · simp [readLane]

/-- **What a read returns**: bytes of the aligned word, for every address. -/
theorem masterRegRead_value (hsize : size = 1 ∨ size = 2 ∨ size = 4)
    (hread : masterRegRead bus card addr readBuf size s = (status, buf, s')) (halloc : bus.alloc)
    (hfails : ¬ Fails bus s s') :
    status = 0 ∧ buf.toNat =
      (bytesAt s.device.memory (wordAddress addr)).littleEndian (readLane addr size)
        size.toNat := by
  rcases masterRegRead_cases hread with ⟨hnone, -⟩ | ⟨-, -, -, -, ⟨-, hstatus, hbuf⟩ | ⟨hfailed, -⟩⟩
  · exact absurd halloc hnone
  · rw [hbuf, toNat_laneValue hsize, littleEndian_word card _ addr (readLane_add_le hsize addr)]
    exact ⟨hstatus, rfl⟩
  · exact absurd hfailed hfails

/-- An aligned access is read from its own lanes. -/
theorem readLane_of_dvd (hsize : size = 1 ∨ size = 2 ∨ size = 4) (hdvd : size.toNat ∣ addr.toNat) :
    readLane addr size = addr.toNat % 4 := by
  rcases hsize with rfl | rfl | rfl
  · simp [readLane]
  · have heven : 2 ∣ addr.toNat := hdvd
    by_cases h : addr.toNat % 4 = 0
    · simp [readLane, h]
    · have htwo : addr.toNat % 4 = 2 := by omega
      simp [readLane, htwo]
  · have hzero : addr.toNat % 4 = 0 := Nat.mod_eq_zero_of_dvd hdvd
    simp [readLane, hzero]

/-- The bytes at an address, as bytes of the aligned word. -/
theorem littleEndian_bytesAt (m : AddressedMemory 32 (BitVec 8)) (addr : BitVec 32) (n : ℕ) :
    (bytesAt m (wordAddress addr)).littleEndian (addr.toNat % 4) n =
      (bytesAt m addr).littleEndian 0 n := by
  refine ByteMemory.littleEndian_congr fun i _ => ?_
  rw [bytesAt, bytesAt, wordAddress_add, Nat.zero_add]

theorem size_dvd_four (hsize : size = 1 ∨ size = 2 ∨ size = 4) : size.toNat ∣ 4 := by
  rcases hsize with rfl | rfl | rfl <;> decide

/-- An access that is aligned to its size is inside a word. -/
theorem mod_four_add_le (hfour : n ∣ 4) (hdvd : n ∣ addr.toNat) :
    n ∣ addr.toNat % 4 ∧ addr.toNat % 4 + n ≤ 4 := by
  have hplace : n ∣ addr.toNat % 4 := (Nat.dvd_mod_iff hfour).2 hdvd
  have hlt := Nat.mod_lt addr.toNat (show 4 > 0 by decide)
  have hrest := Nat.le_of_dvd (Nat.sub_pos_of_lt hlt) (Nat.dvd_sub hfour hplace)
  exact ⟨hplace, by omega⟩

/-- What a write leaves in the device: the bytes of the value, on either kind of device. -/
theorem Presented.bytesAt_eq {w : ℕ} {data : BitVec w} {word : ByteMemory}
    (hsize : size = 1 ∨ size = 2 ∨ size = 4) (hdvd : size.toNat ∣ addr.toNat)
    (hword : word.Repeats (ByteMemory.ofBitVec data) 4 size.toNat)
    (h : Presented card addr word s s') (hi : i < size.toNat) :
    bytesAt s'.device.memory addr i = ByteMemory.ofBitVec data i := by
  have hfour := size_dvd_four hsize
  obtain ⟨hplace, hin⟩ := mod_four_add_le hfour hdvd
  rw [bytesAt, h.memory]
  rcases card.write_apply hfour hdvd with hlanes | hbytes
  · -- off the lanes of the access
    rw [hlanes i hi]
    exact hword.lane hplace hi (by omega)
  · -- from the first lane on, which is a multiple of the size as well
    rw [hbytes i hi]
    have hfirst := hword.lane (Nat.dvd_zero size.toNat) hi (by omega)
    rwa [Nat.zero_add] at hfirst

/-- A read stays inside its buffer. -/
theorem masterRegRead_inBounds
    (hread : masterRegRead bus card addr readBuf size s = (status, buf, s'))
    (hhost : Access.AllInBounds Buf.size s.host) : Access.AllInBounds Buf.size s'.host := by
  rcases masterRegRead_cases hread with ⟨-, -, -, rfl⟩ | ⟨-, -, -, hkept, -⟩
  · exact hhost
  · exact hkept hhost

/-- What a write does if the writes are not stopped and no access fails. -/
theorem masterRegWrite_presented {w : ℕ} (hw : 32 ≤ w) {data : BitVec w}
    (hwrite : masterRegWrite bus card (addr.setWidth w) data size s = (status, s'))
    (halloc : bus.alloc) (hgoing : s.device.writeFail ≤ 1) (hfails : ¬ Fails bus s s') :
    status = 0 ∧ Presented card addr (ByteMemory.ofBitVec (alignedData data size)) s s' ∧
      OverRead s' := by
  rcases masterRegWrite_cases hw hwrite with
    ⟨hnone, -⟩ | ⟨-, -, ⟨-, -, hstatus, hpresented⟩ | ⟨hstop | hfailed, -⟩⟩
  · exact absurd halloc hnone
  · exact ⟨hstatus, hpresented⟩
  · exact absurd hgoing (Nat.not_le.2 hstop)
  · exact absurd hfailed hfails

/-- **A write that comes to the device reads behind its buffer**: of the 16 bytes that are kept as
the descriptor of the last packet, 12 were asked for. -/
theorem masterRegWrite_not_inBounds {w : ℕ} (hw : 32 ≤ w) {data : BitVec w}
    (hwrite : masterRegWrite bus card (addr.setWidth w) data size s = (status, s'))
    (halloc : bus.alloc) (hgoing : s.device.writeFail ≤ 1) (hfails : ¬ Fails bus s s') :
    ¬ Access.AllInBounds Buf.size s'.host := by
  obtain ⟨-, -, hread⟩ := masterRegWrite_presented hw hwrite halloc hgoing hfails
  intro hall
  have hin := Access.inBounds_read.1 (hall _ hread)
  rw [FRAME_DESC_SZ, Buf.size, RSI_MASTER_REG_BUF_SIZE] at hin
  omega

theorem not_fails_self (bus : SdioBus) (s : State) : ¬ Fails bus s s := by
  rintro ⟨k, hk, hk', -⟩
  omega

/-- **A read that fails** keeps the caller's buffer and frees its own. -/
theorem masterRegRead_fails
    (hread : masterRegRead bus card addr readBuf size s = (status, buf, s'))
    (hfails : Fails bus s s') : buf = readBuf ∧ Freed .data s s' := by
  rcases masterRegRead_cases hread with ⟨-, -, -, rfl⟩ | ⟨-, hfreed, -, -, ⟨hok, -⟩ | ⟨-, -, hbuf⟩⟩
  · exact absurd hfails (not_fails_self bus _)
  · exact absurd hfails hok
  · exact ⟨hbuf, hfreed⟩

/-- A write that fails frees its buffer. -/
theorem masterRegWrite_fails {w : ℕ} (hw : 32 ≤ w) {data : BitVec w}
    (hwrite : masterRegWrite bus card (addr.setWidth w) data size s = (status, s'))
    (hfails : Fails bus s s') : Freed .dataAligned s s' := by
  rcases masterRegWrite_cases hw hwrite with ⟨-, rfl⟩ | ⟨-, hfreed, -⟩
  · exact absurd hfails (not_fails_self bus _)
  · exact hfreed

/-- **Accesses that are aligned to their size select the right bytes.** -/
theorem selectsBytes_of_dvd {w : ℕ} (hw : 32 ≤ w) (hsize : size = 1 ∨ size = 2 ∨ size = 4)
    (hdvd : size.toNat ∣ addr.toNat) : SelectsBytes w addr size where
  read bus card s readBuf status buf s' hread halloc hfails := by
    obtain ⟨hstatus, hbuf⟩ := masterRegRead_value hsize hread halloc hfails
    rw [hbuf, readLane_of_dvd hsize hdvd, littleEndian_bytesAt]
    exact ⟨hstatus, rfl⟩
  write bus card s data status s' hwrite halloc hgoing hfails := by
    obtain ⟨hstatus, hpresented, -⟩ := masterRegWrite_presented hw hwrite halloc hgoing hfails
    obtain ⟨hplace, hin⟩ := mod_four_add_le (size_dvd_four hsize) hdvd
    refine ⟨hstatus, _, hpresented.words, ByteMemory.length_bytes _ _, fun i hi => ?_⟩
    -- the word repeats the value, and the access starts at a multiple of its size
    have hlane : addr.toNat % 4 + i < 4 := by omega
    have hindex : addr.toNat % 4 + i <
        ((ByteMemory.ofBitVec (alignedData data size)).bytes 0 4).length := by
      rwa [ByteMemory.length_bytes]
    rw [List.getElem?_eq_getElem hindex, ByteMemory.getElem_bytes, Nat.zero_add,
      (alignedData_repeats hw hsize data).lane hplace hi hlane]
  readAfterWrite bus card s data status s' readBuf status' buf s'' hwrite hread halloc hgoing hfails
      hfails' := by
    obtain ⟨-, hpresented, -⟩ := masterRegWrite_presented hw hwrite halloc hgoing hfails
    obtain ⟨hstatus, hbuf⟩ := masterRegRead_value hsize hread halloc hfails'
    -- the cells of the access have the bytes of the value, whichever way the device took them
    have hbytes : (bytesAt s'.device.memory addr).littleEndian 0 size.toNat =
        (ByteMemory.ofBitVec data).littleEndian 0 size.toNat :=
      ByteMemory.littleEndian_congr fun i hi => by
        rw [Nat.zero_add, hpresented.bytesAt_eq hsize hdvd (alignedData_repeats hw hsize data) hi]
    rw [hbuf, readLane_of_dvd hsize hdvd, littleEndian_bytesAt, hbytes,
      ByteMemory.littleEndian_ofBitVec, Nat.pow_zero, Nat.div_one]
    exact ⟨hstatus, rfl⟩
  readFails _ _ _ _ _ _ _ hread hfails := masterRegRead_fails hread hfails
  writeFails _ _ _ _ _ _ hwrite hfails := masterRegWrite_fails hw hwrite hfails

/-! ## Devices -/

/-- A device that takes the bytes off their lanes -/
def Card.lanes : Card where
  read m address i := m (address + BitVec.ofNat 32 i)
  write m address _ data x :=
    if wordAddress x = wordAddress address then data (x.toNat % 4) else m x
  read_apply _ _ := rfl
  write_apply {m address data n} hfour hdvd := by
    left
    intro i hi
    have hplace : address.toNat % 4 + i < 4 := by
      have hin := (mod_four_add_le hfour hdvd).2
      omega
    have hmod : (address.toNat + i) % 4 = address.toNat % 4 + i := by omega
    have hsame : wordAddress (address + BitVec.ofNat 32 i) = wordAddress address := by
      apply BitVec.eq_of_toNat_eq
      rw [toNat_wordAddress, toNat_wordAddress, toNat_add_ofNat hplace]
      omega
    rw [if_pos hsame, toNat_add_ofNat hplace, hmod]

/-- A device that takes the bytes one behind the other -/
def Card.oneByOne : Card where
  read m address i := m (address + BitVec.ofNat 32 i)
  write m address n data := m.store address n data
  read_apply _ _ := rfl
  write_apply hfour _ := .inr fun i hi =>
    AddressedMemory.store_apply_add _ _ (by have := Nat.le_of_dvd (by decide) hfour; omega)
      (by have := Nat.le_of_dvd (by decide) hfour; omega)

/-- A device behind the driver as it is started -/
def State.fresh (memory : AddressedMemory 32 (BitVec 8)) : State :=
  { device := ⟨0, 0, memory, 0, 0, []⟩
    words := []
    ops := []
    host := [] }

example : (masterRegRead SdioBus.succeeds Card.lanes FLASH_SIZE_ADDR 0 2
    (masterRegWrite SdioBus.succeeds Card.lanes (FLASH_SIZE_ADDR.setWidth 64) 0x1234 2
      (.fresh fun _ => 0)).2).2.1 = 0x1234 := by decide

/-! ## The middle of a word -/

/-- Two bytes in the middle of a word are not the ones that are read. -/
theorem not_selectsBytes {w : ℕ} (h : addr.toNat % 4 = 1) : ¬ SelectsBytes w addr 2 := by
  intro hselects
  -- the bytes of each word are 0, 1, 2, 3
  let s : State := .fresh fun x => BitVec.ofNat 8 (x.toNat % 4)
  obtain ⟨status, buf, s', hread⟩ : ∃ status buf s',
      masterRegRead SdioBus.succeeds Card.oneByOne addr 0 2 s = (status, buf, s') :=
    ⟨_, _, _, rfl⟩
  have hfails : ¬ Fails SdioBus.succeeds s s' := fun ⟨_, _, _, hne⟩ => hne rfl
  obtain ⟨-, hbuf⟩ := masterRegRead_value (.inr (.inl rfl)) hread rfl hfails
  obtain ⟨-, hbuf'⟩ := hselects.read _ _ _ _ _ _ _ hread rfl hfails
  have hlane : readLane addr 2 = 2 := by simp [readLane, h]
  have hbytes : ∀ i < 4, bytesAt s.device.memory (wordAddress addr) i = BitVec.ofNat 8 i := by
    intro i hi
    have hword : (wordAddress addr).toNat % 4 = 0 := by
      rw [toNat_wordAddress]
      omega
    have hmod : ((wordAddress addr).toNat + i) % 4 = i := by omega
    show BitVec.ofNat 8 ((wordAddress addr + BitVec.ofNat 32 i).toNat % 4) = _
    rw [toNat_add_ofNat (by omega), hmod]
  rw [hbuf', ← littleEndian_bytesAt, h, hlane] at hbuf
  -- 1 and 2 are not 2 and 3
  simp [ByteMemory.littleEndian_succ, ByteMemory.littleEndian_zero, hbytes] at hbuf

/-- **Which accesses inside a word select the right bytes**: those that are aligned to their
size. -/
theorem selectsBytes_iff {w : ℕ} (hw : 32 ≤ w) (hsize : size = 1 ∨ size = 2 ∨ size = 4)
    (hin : addr.toNat % 4 + size.toNat ≤ 4) :
    SelectsBytes w addr size ↔ size.toNat ∣ addr.toNat := by
  refine ⟨fun h => ?_, selectsBytes_of_dvd hw hsize⟩
  rcases hsize with rfl | rfl | rfl
  · exact Nat.one_dvd _
  · -- inside the word only the middle is not aligned
    have hmiddle : addr.toNat % 4 ≠ 1 := fun hone => not_selectsBytes hone h
    have hplace : addr.toNat % 4 + 2 ≤ 4 := hin
    show 2 ∣ addr.toNat
    omega
  · have hplace : addr.toNat % 4 + 4 ≤ 4 := hin
    show 4 ∣ addr.toNat
    omega

/-- The size of the flash, which stands in the upper half of a word -/
theorem selectsBytes_flashSize : SelectsBytes 64 FLASH_SIZE_ADDR 2 :=
  (selectsBytes_iff (by decide) (.inr (.inl rfl)) (by decide)).2 (by decide)

/-- Two bytes at an address with the remainder 1. -/
theorem not_forall_selectsBytes :
    ¬ ∀ (addr : BitVec 32) (size : BitVec 16), size = 1 ∨ size = 2 ∨ size = 4 →
      addr.toNat % 4 + size.toNat ≤ 4 → SelectsBytes 64 addr size := by
  intro h
  exact not_selectsBytes (by decide) (h 0x41050035 2 (.inr (.inl rfl)) (by decide))

end MasterReg
