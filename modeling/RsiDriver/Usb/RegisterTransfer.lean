import RsiDriver.Boot.Firmware
import RsiDriver.ToMathlib.AddressedMemory

/-!
# Register transfers over USB

`rsi_usb_write_register_multiple` and `rsi_usb_read_register_multiple` (`rsi_91x_usb.c`) move up to
65535 bytes between the driver and an address of the device, in control messages of at most 4096
bytes. Both halves of the address are taken out of it once, in front of the loop; the loop advances
the address and never looks at it again. `rsi_usb_load_data_master_write` writes a chunk of the
firmware image in blocks and counts them with 16 bits.

## Main results

* `writeRegisterMultiple_storesAll_iff`, `readRegisterMultiple_readsAll_iff`: a transfer in pieces
  is one transfer as long as there is one piece;
* `loadDataMasterWrite_storesAll_iff`: the chunks that are stored as a whole;
* `registerTransfer_iff`: the three together.
-/

namespace UsbRegister

open Boot (EINVAL ENOMEM EIO)

/-- What the control messages return, 0 standing for success and any other number for the error of
that number, and whether `kzalloc` returns a buffer. -/
structure UsbBus where
  errno : ℕ → ℕ
  alloc : Bool

/-- The device, and how many control messages it has had. -/
structure UsbDevice where
  memory : AddressedMemory 32 (BitVec 8)
  messages : ℕ

/-- `((u16 *)&addr)[1]` -/
def regVal (addr : BitVec 32) : BitVec 16 := (addr >>> 16).setWidth 16

/-- `((u16 *)&addr)[0]` -/
def regIndex (addr : BitVec 32) : BitVec 16 := addr.setWidth 16

/-- The size of `buf` -/
def MAX_TRANSFER : ℕ := 4096

namespace UsbBus

variable (bus : UsbBus)

/-- `usb_control_msg` with `USB_VENDOR_REGISTER_WRITE` -/
def controlWrite (value index : BitVec 16) (buf : ByteMemory) (len : ℕ) (device : UsbDevice) :
    ℤ × UsbDevice :=
  let errno := bus.errno device.messages
  let messages := device.messages + 1
  if errno ≠ 0 then (-errno, { device with messages })
  else (len, { memory := device.memory.store (value ++ index) len buf, messages })

/-- `usb_control_msg` with `USB_VENDOR_REGISTER_READ`; the second component is `buf`. -/
def controlRead (value index : BitVec 16) (buf : ByteMemory) (len : ℕ) (device : UsbDevice) :
    ℤ × ByteMemory × UsbDevice :=
  let errno := bus.errno device.messages
  let device := { device with messages := device.messages + 1 }
  if errno ≠ 0 then (-errno, buf, device)
  else (len, buf.copy 0 len fun i => device.memory (value ++ index + BitVec.ofNat 32 i), device)

/-- `while (count)` of `rsi_usb_write_register_multiple`; `data` has been advanced by `offset`. -/
def writeLoop (value index : BitVec 16) (addr : BitVec 32) (data : ByteMemory)
    (offset count : ℕ) (status : ℤ) (device : UsbDevice) : ℤ × UsbDevice :=
  if count = 0 then (status, device)
  else
    let transfer := min count MAX_TRANSFER
    let sent := bus.controlWrite value index (fun i => data (offset + i)) transfer device
    if sent.1 < 0 then sent
    else
      -- nothing reads the address from here on
      writeLoop value index (addr + BitVec.ofNat 32 transfer) data (offset + transfer)
        (count - transfer) sent.1 sent.2
termination_by count
decreasing_by simp only [MAX_TRANSFER]; omega

/-- `rsi_usb_write_register_multiple` -/
def writeRegisterMultiple (addr : BitVec 32) (data : ByteMemory) (count : BitVec 16)
    (device : UsbDevice) : ℤ × UsbDevice :=
  if ¬ bus.alloc then (ENOMEM, device)
  else bus.writeLoop (regVal addr) (regIndex addr) addr data 0 count.toNat 0 device

/-- `while (count)` of `rsi_usb_read_register_multiple` -/
def readLoop (value index : BitVec 16) (addr : BitVec 32) (buf data : ByteMemory)
    (offset count : ℕ) (status : ℤ) (device : UsbDevice) : ℤ × ByteMemory × UsbDevice :=
  if count = 0 then (status, data, device)
  else
    let transfer := min count MAX_TRANSFER
    match bus.controlRead value index buf transfer device with
    | (status, buf, device) =>
      if status < 0 then (status, data, device)
      else
        readLoop value index (addr + BitVec.ofNat 32 transfer) buf (data.copy offset transfer buf)
          (offset + transfer) (count - transfer) status device
termination_by count
decreasing_by simp only [MAX_TRANSFER]; omega

/-- `rsi_usb_read_register_multiple`; the second component is what the caller finds in `data`. -/
def readRegisterMultiple (addr : BitVec 32) (data : ByteMemory) (count : BitVec 16)
    (device : UsbDevice) : ℤ × ByteMemory × UsbDevice :=
  if addr = 0 then (EINVAL, data, device)
  else if ¬ bus.alloc then (ENOMEM, data, device)
  else bus.readLoop (regVal addr) (regIndex addr) addr (fun _ => 0) data 0 count.toNat 0 device

/-- The `for` loop of `rsi_usb_load_data_master_write` with a number of blocks left; it yields
`base_address` and `cur_indx`, or nothing if a write fails. -/
def loadBlocks (taFirmware : ByteMemory) (blockSize : BitVec 16) :
    ℕ → BitVec 32 → ℕ → UsbDevice → Option (BitVec 32 × ℕ) × UsbDevice
  | 0, baseAddress, curIndx, device => (some (baseAddress, curIndx), device)
  | n + 1, baseAddress, curIndx, device =>
    let written :=
      bus.writeRegisterMultiple baseAddress (fun i => taFirmware (curIndx + i)) blockSize device
    if written.1 < 0 then (none, written.2)
    else
      loadBlocks taFirmware blockSize n (baseAddress + blockSize.setWidth 32)
        (curIndx + blockSize.toNat) written.2

/-- `rsi_usb_load_data_master_write` -/
def loadDataMasterWrite (baseAddress instructionsSz : BitVec 32) (blockSize : BitVec 16)
    (taFirmware : ByteMemory) (device : UsbDevice) : ℤ × UsbDevice :=
  let numBlocks := BitVec.ofNat 16 (instructionsSz.toNat / blockSize.toNat)
  let rest := BitVec.ofNat 16 (instructionsSz.toNat % blockSize.toNat)
  match bus.loadBlocks taFirmware blockSize numBlocks.toNat baseAddress 0 device with
  | (none, device) => ( EIO, device)
  | (some (baseAddress, curIndx), device) =>
    if rest = 0 then (0, device)
    else
      let written :=
        bus.writeRegisterMultiple baseAddress (fun i => taFirmware (curIndx + i)) rest device
      if written.1 < 0 then ( EIO, written.2) else (0, written.2)

/-- A bus on which every control message succeeds. -/
def succeeds : UsbBus := ⟨fun _ => 0, true⟩

end UsbBus

/-- **One transfer**: `data` is stored at `addr` and nothing anywhere else. -/
def StoresAll (run : UsbDevice → ℤ × UsbDevice) (addr : BitVec 32) (n : ℕ) (data : ByteMemory) :
    Prop :=
  ∀ device, 0 ≤ (run device).1 ∧ (run device).2.memory = device.memory.store addr n data

/-- **One transfer**: byte `i` of what is returned stands at `addr + i`. -/
def ReadsAll (run : UsbDevice → ℤ × ByteMemory × UsbDevice) (addr : BitVec 32) (n : ℕ) : Prop :=
  ∀ device, 0 ≤ (run device).1 ∧
    ∀ i < n, (run device).2.1 i = device.memory (addr + BitVec.ofNat 32 i)

theorem regVal_append_regIndex (addr : BitVec 32) : regVal addr ++ regIndex addr = addr := by
  apply BitVec.eq_of_toNat_eq
  have hlow := (regIndex addr).isLt
  have haddr := addr.isLt
  rw [BitVec.toNat_append, ← Nat.shiftLeft_add_eq_or_of_lt hlow, Nat.shiftLeft_eq, regVal, regIndex,
    BitVec.toNat_setWidth, BitVec.toNat_setWidth, BitVec.toNat_ushiftRight,
    Nat.shiftRight_eq_div_pow]
  omega

variable {value index : BitVec 16} {addr : BitVec 32} {data : ByteMemory} {count : BitVec 16}

/-! ## Writes -/

/-- One round of the write loop. -/
theorem writeLoop_eq {n : ℕ} (hn : n ≠ 0) (offset : ℕ) (status : ℤ) (device : UsbDevice) :
    UsbBus.succeeds.writeLoop value index addr data offset n status device =
      UsbBus.succeeds.writeLoop value index (addr + BitVec.ofNat 32 (min n MAX_TRANSFER)) data
        (offset + min n MAX_TRANSFER) (n - min n MAX_TRANSFER) (min n MAX_TRANSFER : ℕ)
        { memory := device.memory.store (value ++ index) (min n MAX_TRANSFER)
            (fun i => data (offset + i))
          messages := device.messages + 1 } := by
  rw [UsbBus.writeLoop, if_neg hn]
  exact if_neg (Int.not_lt.2 (Int.natCast_nonneg _))

/-- **All pieces go to the same address**: nothing further away than the first one is written. -/
theorem writeLoop_spec (n offset : ℕ) {status : ℤ} (hstatus : 0 ≤ status) (device : UsbDevice) :
    0 ≤ (UsbBus.succeeds.writeLoop value index addr data offset n status device).1 ∧
    ∀ x : BitVec 32, MAX_TRANSFER ≤ (x - (value ++ index)).toNat →
      (UsbBus.succeeds.writeLoop value index addr data offset n status device).2.memory x =
        device.memory x := by
  induction n using Nat.strongRecOn generalizing addr offset status device with
  | ind n ih =>
    by_cases hn : n = 0
    · subst hn
      rw [UsbBus.writeLoop, if_pos rfl]
      exact ⟨hstatus, fun _ _ => rfl⟩
    · rw [writeLoop_eq hn]
      have hless : n - min n MAX_TRANSFER < n := by simp only [MAX_TRANSFER]; omega
      obtain ⟨hnonneg, hkept⟩ := @ih _ hless (addr + BitVec.ofNat 32 (min n MAX_TRANSFER))
        (offset + min n MAX_TRANSFER) _ (Int.natCast_nonneg (min n MAX_TRANSFER))
        { memory := device.memory.store (value ++ index) (min n MAX_TRANSFER)
            (fun i => data (offset + i))
          messages := device.messages + 1 }
      refine ⟨hnonneg, fun x hx => ?_⟩
      -- every message goes to `value ++ index`, and none is longer than the first
      rw [hkept x hx]
      dsimp only
      exact AddressedMemory.store_of_le _ _ (Nat.le_trans (Nat.min_le_right n _) hx)

/-- A write in one piece. -/
theorem writeRegisterMultiple_storesAll (h : count.toNat ≤ MAX_TRANSFER) :
    StoresAll (UsbBus.succeeds.writeRegisterMultiple addr data count) addr count.toNat data := by
  intro device
  have halloc : ¬ ¬ UsbBus.succeeds.alloc = true := not_not_intro rfl
  rw [UsbBus.writeRegisterMultiple, if_neg halloc]
  by_cases hcount : count.toNat = 0
  · rw [hcount, UsbBus.writeLoop, if_pos rfl, AddressedMemory.store_zero]
    exact ⟨Int.le_refl 0, rfl⟩
  · rw [writeLoop_eq hcount, Nat.min_eq_left h, Nat.sub_self, UsbBus.writeLoop, if_pos rfl,
      regVal_append_regIndex]
    refine ⟨Int.natCast_nonneg _, ?_⟩
    simp only [Nat.zero_add]

/-- A memory in which one cell has another value than the one that should be stored there -/
def markedMemory (x : BitVec 32) (byte : BitVec 8) : AddressedMemory 32 (BitVec 8) :=
  fun y => if y = x then byte + 1 else 0

/-- A run that leaves out a cell of the transfer does not store all of it. -/
theorem not_storesAll_of_kept {run : UsbDevice → ℤ × UsbDevice} {n i : ℕ} (hi : i < n)
    (hsize : i < 2 ^ 32)
    (hkept : ∀ device, (run device).2.memory (addr + BitVec.ofNat 32 i) =
      device.memory (addr + BitVec.ofNat 32 i)) : ¬ StoresAll run addr n data := by
  intro hall
  have hstored := (hall ⟨markedMemory (addr + BitVec.ofNat 32 i) (data i), 0⟩).2
  have hcell := congrFun hstored (addr + BitVec.ofNat 32 i)
  rw [hkept, AddressedMemory.store_apply_add _ _ hi hsize] at hcell
  simp only [markedMemory, if_true] at hcell
  have hcell' := congrArg BitVec.toNat hcell
  rw [BitVec.toNat_add] at hcell'
  have hlt := (data i).isLt
  simp only [BitVec.reduceToNat] at hcell'
  omega

/-- **Which writes are one transfer.** -/
theorem writeRegisterMultiple_storesAll_iff :
    StoresAll (UsbBus.succeeds.writeRegisterMultiple addr data count) addr count.toNat data ↔
      count.toNat ≤ MAX_TRANSFER := by
  refine ⟨fun hall => Nat.not_lt.1 fun hlong => ?_, writeRegisterMultiple_storesAll⟩
  have hsize : MAX_TRANSFER < 2 ^ 32 := by decide
  refine not_storesAll_of_kept hlong hsize (fun device => ?_) hall
  have halloc : ¬ ¬ UsbBus.succeeds.alloc = true := not_not_intro rfl
  rw [UsbBus.writeRegisterMultiple, if_neg halloc]
  apply (writeLoop_spec count.toNat 0 (Int.le_refl 0) device).2
  rw [regVal_append_regIndex]
  exact Nat.le_of_eq (AddressedMemory.toNat_add_ofNat_sub _ hsize).symm

/-! ## Reads -/

variable (addr data) in
/-- One round of the read loop. -/
theorem readLoop_eq {n : ℕ} (hn : n ≠ 0) (buf : ByteMemory) (offset : ℕ) (status : ℤ)
    (device : UsbDevice) :
    ∃ buf', (∀ i < min n MAX_TRANSFER,
        buf' i = device.memory (value ++ index + BitVec.ofNat 32 i)) ∧
      UsbBus.succeeds.readLoop value index addr buf data offset n status device =
        UsbBus.succeeds.readLoop value index (addr + BitVec.ofNat 32 (min n MAX_TRANSFER)) buf'
          (data.copy offset (min n MAX_TRANSFER) buf') (offset + min n MAX_TRANSFER)
          (n - min n MAX_TRANSFER) (min n MAX_TRANSFER : ℕ)
          { device with messages := device.messages + 1 } := by
  refine ⟨buf.copy 0 (min n MAX_TRANSFER) fun i =>
    device.memory (value ++ index + BitVec.ofNat 32 i), fun i hi => ?_, ?_⟩
  · rw [← Nat.zero_add i, ByteMemory.copy_add _ hi, Nat.zero_add]
  · rw [UsbBus.readLoop, if_neg hn]
    exact if_neg (Int.not_lt.2 (Int.natCast_nonneg _))

/-- **All pieces come from the same address**: what is read repeats after the first one. -/
theorem readLoop_spec (n : ℕ) (buf : ByteMemory) (offset : ℕ) {status : ℤ} (hstatus : 0 ≤ status)
    (device : UsbDevice) :
    0 ≤ (UsbBus.succeeds.readLoop value index addr buf data offset n status device).1 ∧
    (∀ i < offset,
      (UsbBus.succeeds.readLoop value index addr buf data offset n status device).2.1 i =
        data i) ∧
    ∀ i < n,
      (UsbBus.succeeds.readLoop value index addr buf data offset n status device).2.1 (offset + i) =
        device.memory (value ++ index + BitVec.ofNat 32 (i % MAX_TRANSFER)) := by
  induction n using Nat.strongRecOn generalizing addr buf data offset status device with
  | ind n ih =>
    by_cases hn : n = 0
    · subst hn
      rw [UsbBus.readLoop, if_pos rfl]
      exact ⟨hstatus, fun _ _ => rfl, fun i hi => absurd hi (Nat.not_lt_zero i)⟩
    · obtain ⟨buf', hbuf', hloop⟩ := readLoop_eq addr data hn buf offset
        status device
      have hless : n - min n MAX_TRANSFER < n := by simp only [MAX_TRANSFER]; omega
      obtain ⟨hnonneg, hbefore, hrest⟩ := @ih _ hless (addr + _)
        (data.copy offset (min n MAX_TRANSFER) buf') buf' (offset + min n MAX_TRANSFER) _
        (Int.natCast_nonneg (min n MAX_TRANSFER))
        { device with messages := device.messages + 1 }
      rw [hloop]
      refine ⟨hnonneg, fun i hi => ?_, fun i hi => ?_⟩
      · rw [hbefore i (Nat.lt_add_right _ hi), ByteMemory.copy_of_lt _ hi]
      · by_cases hfirst : i < min n MAX_TRANSFER
        · -- the first piece, which the later ones leave alone
          have hsmall : i % MAX_TRANSFER = i :=
            Nat.mod_eq_of_lt (Nat.lt_of_lt_of_le hfirst (Nat.min_le_right n _))
          rw [hbefore _ (Nat.add_lt_add_left hfirst offset), ByteMemory.copy_add _ hfirst,
            hbuf' i hfirst, hsmall]
        · -- a later piece; the first one was of the full size
          have hfull : min n MAX_TRANSFER = MAX_TRANSFER := by simp only [MAX_TRANSFER] at *; omega
          rw [hfull] at hrest hfirst ⊢
          have hpiece := hrest (i - MAX_TRANSFER) (by omega)
          have hindex : offset + MAX_TRANSFER + (i - MAX_TRANSFER) = offset + i := by omega
          rw [hindex] at hpiece
          rw [hpiece, ← Nat.mod_eq_sub_mod (Nat.not_lt.1 hfirst)]

/-- **Which reads are one transfer**; a read at the address 0 is refused. -/
theorem readRegisterMultiple_readsAll_iff (haddr : addr ≠ 0) :
    ReadsAll (UsbBus.succeeds.readRegisterMultiple addr data count) addr count.toNat ↔
      count.toNat ≤ MAX_TRANSFER := by
  have halloc : ¬ ¬ UsbBus.succeeds.alloc = true := not_not_intro rfl
  have hspec := fun device => @readLoop_spec (regVal addr) (regIndex addr) addr data count.toNat
    (fun _ => 0) 0 0 (Int.le_refl 0) device
  simp only [regVal_append_regIndex, Nat.zero_add] at hspec
  constructor
  · intro hall
    apply Nat.not_lt.1
    intro hlong
    -- the cell in which the second piece should start
    have hsize : MAX_TRANSFER < 2 ^ 32 := by decide
    have hread := (hall ⟨markedMemory (addr + BitVec.ofNat 32 MAX_TRANSFER) 0, 0⟩).2 _ hlong
    rw [UsbBus.readRegisterMultiple, if_neg haddr, if_neg halloc, (hspec _).2.2 _ hlong,
      Nat.mod_self, BitVec.add_zero] at hread
    have hother : addr ≠ addr + BitVec.ofNat 32 MAX_TRANSFER := by
      intro heq
      have hdist := AddressedMemory.toNat_add_ofNat_sub addr hsize
      rw [← heq, BitVec.sub_self] at hdist
      exact absurd hdist (by decide)
    simp [markedMemory, hother] at hread
  · intro hshort device
    rw [UsbBus.readRegisterMultiple, if_neg haddr, if_neg halloc]
    refine ⟨(hspec device).1, fun i hi => ?_⟩
    rw [(hspec device).2.2 i hi, Nat.mod_eq_of_lt (Nat.lt_of_lt_of_le hi hshort)]

/-! ## Chunks of the firmware -/

variable {taFirmware : ByteMemory} {blockSize : BitVec 16} {base : BitVec 32}

variable (taFirmware) in
/-- The blocks of the loop, one behind the other. -/
theorem loadBlocks_spec (hblock : blockSize.toNat ≤ MAX_TRANSFER) (n : ℕ) {k : ℕ}
    {memory : AddressedMemory 32 (BitVec 8)} (device : UsbDevice)
    (hmemory : device.memory = memory.store base k taFirmware)
    (hsize : k + n * blockSize.toNat ≤ 2 ^ 32) :
    ∃ device', UsbBus.succeeds.loadBlocks taFirmware blockSize n (base + BitVec.ofNat 32 k) k device
        = (some (base + BitVec.ofNat 32 (k + n * blockSize.toNat), k + n * blockSize.toNat),
            device') ∧
      device'.memory = memory.store base (k + n * blockSize.toNat) taFirmware := by
  induction n generalizing k device with
  | zero =>
    rw [Nat.zero_mul, Nat.add_zero]
    exact ⟨device, rfl, hmemory⟩
  | succ n ih =>
    have hcount : k + (n + 1) * blockSize.toNat = k + blockSize.toNat + n * blockSize.toNat := by
      rw [Nat.add_one_mul]
      omega
    rw [hcount] at hsize ⊢
    obtain ⟨hnonneg, hstored⟩ := @writeRegisterMultiple_storesAll
      (base + BitVec.ofNat 32 k) (fun i => taFirmware (k + i)) blockSize hblock device
    rw [hmemory, AddressedMemory.store_store _ _ (by omega)] at hstored
    obtain ⟨device', hrest, hmemory'⟩ := ih _ hstored hsize
    refine ⟨device', ?_, hmemory'⟩
    rw [UsbBus.loadBlocks, ← hrest, BitVec.ofNat_add, ← BitVec.add_assoc, BitVec.ofNat_toNat]
    exact if_neg (Int.not_lt.2 hnonneg)

/-- How many bytes of a chunk are stored: the number of blocks is kept in 16 bits. -/
def storedBytes (blockSize size : ℕ) : ℕ := size / blockSize % 2 ^ 16 * blockSize + size % blockSize

theorem storedBytes_le (blockSize size : ℕ) : storedBytes blockSize size ≤ size := by
  have hsplit := Nat.div_add_mod' size blockSize
  have hless := Nat.mul_le_mul_right blockSize (Nat.mod_le (size / blockSize) (2 ^ 16))
  rw [storedBytes]
  omega

theorem storedBytes_eq_iff {blockSize size : ℕ} (h : 0 < blockSize) :
    storedBytes blockSize size = size ↔ size / blockSize < 2 ^ 16 := by
  have hsplit := Nat.div_add_mod' size blockSize
  constructor
  · intro heq
    have hprod : size / blockSize % 2 ^ 16 * blockSize = size / blockSize * blockSize := by
      rw [storedBytes] at heq
      omega
    have hmod := Nat.eq_of_mul_eq_mul_right h hprod
    omega
  · intro hlt
    rw [storedBytes, Nat.mod_eq_of_lt hlt, hsplit]

variable (taFirmware base) in
/-- **What a load stores**: the first `storedBytes` bytes of the chunk. -/
theorem loadDataMasterWrite_storesAll (hpos : 0 < blockSize.toNat)
    (hblock : blockSize.toNat ≤ MAX_TRANSFER) (size : BitVec 32) :
    StoresAll (UsbBus.succeeds.loadDataMasterWrite base size blockSize taFirmware) base
      (storedBytes blockSize.toNat size.toNat) taFirmware := by
  intro device
  have hrest : size.toNat % blockSize.toNat < blockSize.toNat := Nat.mod_lt _ hpos
  have hrestNat : (BitVec.ofNat 16 (size.toNat % blockSize.toNat)).toNat =
      size.toNat % blockSize.toNat := by
    rw [BitVec.toNat_ofNat, Nat.mod_eq_of_lt (Nat.lt_trans hrest blockSize.isLt)]
  have hbound := storedBytes_le blockSize.toNat size.toNat
  have hsize := size.isLt
  have hstart : device.memory = device.memory.store base 0 taFirmware :=
    (AddressedMemory.store_zero _ _ _).symm
  obtain ⟨device₁, hloop, hmemory₁⟩ := loadBlocks_spec taFirmware hblock
    (size.toNat / blockSize.toNat % 2 ^ 16) device hstart
    (by rw [storedBytes] at hbound; omega)
  rw [Nat.zero_add] at hloop hmemory₁
  rw [BitVec.add_zero] at hloop
  have hnumBlocks : (BitVec.ofNat 16 (size.toNat / blockSize.toNat)).toNat =
      size.toNat / blockSize.toNat % 2 ^ 16 := BitVec.toNat_ofNat _ _
  rw [UsbBus.loadDataMasterWrite]
  simp only [hnumBlocks, hloop]
  -- the rest is written behind the blocks that were counted, wherever it belongs
  by_cases hzero : BitVec.ofNat 16 (size.toNat % blockSize.toNat) = 0
  · have hnone : size.toNat % blockSize.toNat = 0 := by
      rw [← hrestNat, hzero]
      rfl
    rw [if_pos hzero, storedBytes, hnone, Nat.add_zero]
    exact ⟨Int.le_refl 0, hmemory₁⟩
  · obtain ⟨hnonneg, hstored⟩ := @writeRegisterMultiple_storesAll
      (base + BitVec.ofNat 32 (size.toNat / blockSize.toNat % 2 ^ 16 * blockSize.toNat))
      (fun i => taFirmware (size.toNat / blockSize.toNat % 2 ^ 16 * blockSize.toNat + i))
      (BitVec.ofNat 16 (size.toNat % blockSize.toNat))
      (by rw [hrestNat]; omega) device₁
    rw [hmemory₁, hrestNat, AddressedMemory.store_store _ _ (by rw [storedBytes] at hbound; omega)]
      at hstored
    rw [if_neg hzero, if_neg (Int.not_lt.2 hnonneg)]
    exact ⟨Int.le_refl 0, hstored⟩

/-- **Which chunks are stored as a whole.** -/
theorem loadDataMasterWrite_storesAll_iff (hpos : 0 < blockSize.toNat)
    (hblock : blockSize.toNat ≤ MAX_TRANSFER) (size : BitVec 32) :
    StoresAll (UsbBus.succeeds.loadDataMasterWrite base size blockSize taFirmware) base size.toNat
      taFirmware ↔ size.toNat / blockSize.toNat < 2 ^ 16 := by
  have hstored := loadDataMasterWrite_storesAll taFirmware base hpos hblock size
  rw [← storedBytes_eq_iff hpos]
  constructor
  · intro hall
    -- otherwise the byte behind the last one that is stored is missing
    apply Nat.le_antisymm (storedBytes_le _ _)
    apply Nat.not_lt.1
    intro hless
    have hsize := size.isLt
    refine not_storesAll_of_kept hless (by omega) (fun device => ?_) hall
    rw [(hstored device).2]
    apply AddressedMemory.store_of_le
    exact Nat.le_of_eq (AddressedMemory.toNat_add_ofNat_sub _ (by omega)).symm
  · intro heq
    rwa [heq] at hstored

/-! ## The three together -/

/-- **When a transfer in pieces is one transfer**: a write and a read of at most 4096 bytes, a chunk
of the firmware of less than 65536 blocks. A read at the address 0 is refused before any control
message. -/
theorem registerTransfer_iff (addr : BitVec 32) (data : ByteMemory) (count : BitVec 16)
    (base size : BitVec 32) (blockSize : BitVec 16) (taFirmware : ByteMemory)
    (hpos : 0 < blockSize.toNat) (hblock : blockSize.toNat ≤ 256) :
    (StoresAll (UsbBus.succeeds.writeRegisterMultiple addr data count) addr count.toNat data ↔
      count.toNat ≤ 4096) ∧
    (if addr = 0 then
      ∀ device, UsbBus.succeeds.readRegisterMultiple addr data count device = (EINVAL, data, device)
    else
      (ReadsAll (UsbBus.succeeds.readRegisterMultiple addr data count) addr count.toNat ↔
        count.toNat ≤ 4096)) ∧
    (StoresAll (UsbBus.succeeds.loadDataMasterWrite base size blockSize taFirmware) base size.toNat
      taFirmware ↔ size.toNat / blockSize.toNat < 65536) := by
  have hsmall : blockSize.toNat ≤ MAX_TRANSFER := by
    rw [MAX_TRANSFER]
    omega
  refine ⟨writeRegisterMultiple_storesAll_iff, ?_,
    loadDataMasterWrite_storesAll_iff hpos hsmall size⟩
  by_cases haddr : addr = 0
  · rw [if_pos haddr]
    intro device
    rw [UsbBus.readRegisterMultiple, if_pos haddr]
  · rw [if_neg haddr]
    exact readRegisterMultiple_readsAll_iff haddr

/-- Two bytes, and the longest chunk of the table in blocks of 252 bytes -/
theorem registerTransfer_short :
    (StoresAll (UsbBus.succeeds.writeRegisterMultiple 0x41050012 (fun _ => 7) 2) 0x41050012 2
        (fun _ => 7) ↔ 2 ≤ 4096) ∧
    (if (0x41050012 : BitVec 32) = 0 then
      ∀ device, UsbBus.succeeds.readRegisterMultiple 0x41050012 (fun _ => 7) 2 device =
        (EINVAL, fun _ => 7, device)
    else
      (ReadsAll (UsbBus.succeeds.readRegisterMultiple 0x41050012 (fun _ => 7) 2) 0x41050012 2 ↔
        2 ≤ 4096)) ∧
    (StoresAll (UsbBus.succeeds.loadDataMasterWrite 0 0xffffff 252 (fun _ => 7)) 0 0xffffff
      (fun _ => 7) ↔ 0xffffff / 252 < 65536) :=
  registerTransfer_iff 0x41050012 (fun _ => 7) 2 0 0xffffff 252 (fun _ => 7) (by decide) (by decide)

/-- A write and a read of 4097 bytes, and the longest chunk of the table -/
theorem registerTransfer_not_one :
    ¬ StoresAll (UsbBus.succeeds.writeRegisterMultiple 0x41050012 (fun _ => 7) 4097) 0x41050012 4097
        (fun _ => 7) ∧
    ¬ ReadsAll (UsbBus.succeeds.readRegisterMultiple 0x41050012 (fun _ => 7) 4097) 0x41050012
        4097 ∧
    ¬ StoresAll (UsbBus.succeeds.loadDataMasterWrite 0 0xffffff 252 (fun _ => 7)) 0 0xffffff
        (fun _ => 7) := by
  refine ⟨fun hall => ?_, fun hall => ?_, fun hall => ?_⟩
  · exact absurd (writeRegisterMultiple_storesAll_iff.1 hall) (by decide)
  · exact absurd ((readRegisterMultiple_readsAll_iff (by decide)).1 hall) (by decide)
  · exact absurd ((loadDataMasterWrite_storesAll_iff (by decide) (by decide) 0xffffff).1 hall)
      (by decide)

end UsbRegister
