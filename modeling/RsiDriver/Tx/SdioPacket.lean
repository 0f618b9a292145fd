import Mathlib.Data.Int.Notation
import Mathlib.Data.List.Basic
import Mathlib.Data.List.Induction
import RsiDriver.ToMathlib.ByteMemory

/-!
# Writing a packet over SDIO

`rsi_sdio_host_intf_write_pkt` (`rsi_91x_sdio.c`) writes a packet to the device in blocks of 256
bytes. The address of the write tells the device the queue and the number of bytes: the queue stands
from bit 12 on, the rounded length below it. A build with `CONFIG_RSI_NO_SDIO_MULTIBLOCK` writes one
block at a time, the ones behind the first at address 0.

`rsi_sdio_write_register_multiple` counts failures in `write_fail`. Once a write has failed it
returns success without a write. `write_fail` is also set when an interrupt announces a packet
without blocks, and when the device is disconnected.

What `sdio_writesb` returns is an input. Frames of Bluetooth go to the one queue that the device
has for them.

## Main results

* `address_decodes_iff`: which packets the device reads the queue and the length of;
* `singleBlock_handed`: what the blocks hand over, one at a time;
* `exactAndHonest_iff`: which packets are written exactly, behind which histories.
-/

namespace SdioPacket

/-- Bytes that were handed to the bus. -/
structure Write where
  addr : BitVec 32
  data : List (BitVec 8)
  deriving DecidableEq, Repr

/-- `struct rsi_91x_sdiodev`, with the writes that have reached the bus. -/
structure SdioDev where
  writeFail : BitVec 8
  prevDesc : List (BitVec 8)
  handed : List Write

def FRAME_DESC_SZ : ℕ := 16
/-- `tx_blk_size` -/
def BLOCK_SIZE : ℕ := 256
def RSI_BT_Q : BitVec 32 := 0x2
def RSI_BT_MGMT_Q : BitVec 32 := 0x6
def RSI_BT_DATA_Q : BitVec 32 := 0x7

/-- Whether a status is taken for a success; with `COMMAND_84_ERROR_WAR` the error -84 is one. -/
def Ignored (war84 : Bool) (status : ℤ) : Prop := status = 0 ∨ war84 = true ∧ status = -84

instance (war84 : Bool) (status : ℤ) : Decidable (Ignored war84 status) :=
  inferInstanceAs (Decidable (_ ∨ _))

/-- `rsi_sdio_write_register_multiple` -/
def writeRegisterMultiple (war84 : Bool) (addr : BitVec 32) (data : ByteMemory) (count : ℕ)
    (status : ℤ) (dev : SdioDev) : ℤ × SdioDev :=
  -- `Stopping card writes`
  if 1 < dev.writeFail then (0, dev)
  else
    let dev := if dev.writeFail = 1 then { dev with writeFail := 2 } else dev
    let write : Write := ⟨addr, data.bytes 0 count⟩
    let dev := { dev with handed := dev.handed ++ [write] }
    if Ignored war84 status then (0, { dev with prevDesc := data.bytes 0 FRAME_DESC_SZ })
    else (status, { dev with writeFail := 2 })

/-- The queue of the device that a packet goes to. -/
def queueno (pkt : ByteMemory) : BitVec 32 :=
  let queueno : BitVec 32 := (pkt 1 >>> 4 &&& 0xf).setWidth 32
  if queueno = RSI_BT_DATA_Q ∨ queueno = RSI_BT_MGMT_Q then RSI_BT_Q else queueno

/-- The length of a packet in whole blocks. -/
def roundedLength (len : ℕ) : ℕ :=
  let numBlocks := len / BLOCK_SIZE
  let numBlocks := if len % BLOCK_SIZE ≠ 0 then numBlocks + 1 else numBlocks
  numBlocks * BLOCK_SIZE

/-- `address` -/
def address (pkt : ByteMemory) (len : ℕ) : BitVec 32 :=
  BitVec.ofNat 32 (roundedLength len) ||| queueno pkt <<< 12

/-- The `do` loop of the build with `CONFIG_RSI_NO_SDIO_MULTIBLOCK`, from block `k` on. -/
def singleBlock (war84 : Bool) (pkt : ByteMemory) (address : BitVec 32) (length : ℕ)
    (status : ℕ → ℤ) (remainLength tbuf k : ℕ) (dev : SdioDev) : ℤ × SdioDev :=
  let addr := if remainLength = length then address else 0
  let written := writeRegisterMultiple war84 addr (fun i => pkt (tbuf + i)) 256 (status k) dev
  if written.1 ≠ 0 then written
  else if 256 < remainLength then
    singleBlock war84 pkt address length status (remainLength - 256) (tbuf + 256) (k + 1) written.2
  else written
termination_by remainLength
decreasing_by omega

/-- `rsi_sdio_host_intf_write_pkt` -/
def hostIntfWritePkt (war84 multiblock : Bool) (pkt : ByteMemory) (len : ℕ) (status : ℕ → ℤ)
    (dev : SdioDev) : ℤ × SdioDev :=
  let address := address pkt len
  let length := roundedLength len
  if multiblock then writeRegisterMultiple war84 address pkt length (status 0) dev
  else singleBlock war84 pkt address length status length 0 0 dev

/-! ## Histories -/

/-- What happens to a device before a packet is written to it. -/
inductive Event
  | write (addr : BitVec 32) (data : ByteMemory) (count : ℕ) (status : ℤ)
  /-- An interrupt for a packet without blocks, or the device is disconnected. -/
  | markFailed

/-- The device behind an event. -/
def SdioDev.after (war84 : Bool) (dev : SdioDev) : Event → SdioDev
  | .write addr data count status => (writeRegisterMultiple war84 addr data count status dev).2
  | .markFailed => { dev with writeFail := 2 }

/-- The device as `rsi_init_sdio_interface` allocates it. -/
def SdioDev.fresh : SdioDev := ⟨0, List.replicate 16 0, []⟩

/-- The device behind a history. -/
def SdioDev.behind (war84 : Bool) (history : List Event) : SdioDev :=
  history.foldl (SdioDev.after war84) .fresh

/-- An event that ends the writes. -/
def Event.Fails (war84 : Bool) : Event → Prop
  | .write _ _ _ status => ¬ Ignored war84 status
  | .markFailed => True

instance (war84 : Bool) : (e : Event) → Decidable (e.Fails war84)
  | .write _ _ _ status => inferInstanceAs (Decidable (¬ Ignored war84 status))
  | .markFailed => .isTrue trivial

variable {war84 : Bool} {dev : SdioDev}

/-- A device whose writes are stopped says that it has written. -/
theorem writeRegisterMultiple_stopped (h : dev.writeFail = 2) (addr : BitVec 32)
    (data : ByteMemory) (count : ℕ) (status : ℤ) :
    writeRegisterMultiple war84 addr data count status dev = (0, dev) := by
  rw [writeRegisterMultiple, if_pos (by rw [h]; decide)]

/-- A write to a device without a failure. -/
theorem writeRegisterMultiple_going (h : dev.writeFail = 0) (addr : BitVec 32)
    (data : ByteMemory) (count : ℕ) (status : ℤ) :
    writeRegisterMultiple war84 addr data count status dev =
      let handed := dev.handed ++ [⟨addr, data.bytes 0 count⟩]
      if Ignored war84 status then
        (0, { dev with handed, prevDesc := data.bytes 0 FRAME_DESC_SZ })
      else (status, { dev with handed, writeFail := 2 }) := by
  have hgoing : ¬ 1 < dev.writeFail := by rw [h]; decide
  have hfirst : ¬ dev.writeFail = 1 := by rw [h]; decide
  simp only [writeRegisterMultiple, if_neg hgoing, if_neg hfirst]

theorem writeRegisterMultiple_handed (h : dev.writeFail = 0) (addr : BitVec 32)
    (data : ByteMemory) (count : ℕ) (status : ℤ) :
    (writeRegisterMultiple war84 addr data count status dev).2.handed =
      dev.handed ++ [⟨addr, data.bytes 0 count⟩] := by
  rw [writeRegisterMultiple_going h]
  dsimp only
  split <;> rfl

theorem writeRegisterMultiple_eq_zero_iff (h : dev.writeFail = 0) (addr : BitVec 32)
    (data : ByteMemory) (count : ℕ) (status : ℤ) :
    (writeRegisterMultiple war84 addr data count status dev).1 = 0 ↔ Ignored war84 status := by
  rw [writeRegisterMultiple_going h]
  dsimp only
  split
  · next hok => exact iff_of_true rfl hok
  · next hfail => exact iff_of_false (fun hzero => hfail (Or.inl hzero)) hfail

theorem writeRegisterMultiple_writeFail (h : dev.writeFail = 0) (addr : BitVec 32)
    (data : ByteMemory) (count : ℕ) (status : ℤ) :
    (writeRegisterMultiple war84 addr data count status dev).2.writeFail =
      if Ignored war84 status then 0 else 2 := by
  rw [writeRegisterMultiple_going h]
  dsimp only
  split
  · exact h
  · rfl

/-- One event: the counter stays at 2, and it leaves 0 with a failure. -/
theorem after_writeFail (h : dev.writeFail = 0 ∨ dev.writeFail = 2) (e : Event) :
    (dev.after war84 e).writeFail =
      if dev.writeFail = 0 ∧ ¬ e.Fails war84 then 0 else 2 := by
  cases e with
  | markFailed => rw [if_neg (fun hand => hand.2 trivial)]; rfl
  | write addr data count status =>
    obtain hzero | htwo := h
    · refine (writeRegisterMultiple_writeFail hzero addr data count status).trans ?_
      simp [Event.Fails, hzero]
    · rw [SdioDev.after, writeRegisterMultiple_stopped htwo, if_neg (by rw [htwo]; simp)]
      exact htwo

/-- The counter behind a history is 0 if nothing has failed, and 2 otherwise. -/
theorem behind_writeFail (war84 : Bool) (history : List Event) :
    (SdioDev.behind war84 history).writeFail =
      if ∀ e ∈ history, ¬ e.Fails war84 then 0 else 2 := by
  induction history using List.reverseRecOn with
  | nil => rfl
  | append_singleton history e ih =>
    -- between two events it is never 1
    have hinv : (SdioDev.behind war84 history).writeFail = 0 ∨
        (SdioDev.behind war84 history).writeFail = 2 := by
      rw [ih]
      split
      · exact .inl rfl
      · exact .inr rfl
    have hstep : SdioDev.behind war84 (history ++ [e]) =
        (SdioDev.behind war84 history).after war84 e := by
      rw [SdioDev.behind, List.foldl_concat]
      rfl
    rw [hstep, after_writeFail hinv, ih]
    by_cases hall : ∀ e ∈ history, ¬ e.Fails war84 <;> simp [hall, or_imp, forall_and]

/-! ## The address -/

theorem roundedLength_eq (len : ℕ) : roundedLength len = (len + 255) / 256 * 256 := by
  have hblocks : (if len % 256 ≠ 0 then len / 256 + 1 else len / 256) = (len + 255) / 256 := by
    split <;> omega
  exact congrArg (· * 256) hblocks

theorem queueno_lt (pkt : ByteMemory) : (queueno pkt).toNat < 16 := by
  have hnibble : (pkt 1 >>> 4 &&& 0xf).toNat ≤ 15 := by
    rw [BitVec.toNat_and]
    exact Nat.and_le_right
  simp only [queueno]
  split
  · decide
  · rw [BitVec.toNat_setWidth]
    exact Nat.lt_of_le_of_lt (Nat.mod_le _ _) (by omega)

/-- A length below 2^12 and a queue stand beside each other in an address. -/
theorem toNat_address (pkt : ByteMemory) {len : ℕ} (h : roundedLength len < 4096) :
    (address pkt len).toNat = (queueno pkt).toNat * 4096 + roundedLength len := by
  have hqueue := queueno_lt pkt
  have hshift : (queueno pkt).toNat <<< 12 < 2 ^ 32 := by
    rw [Nat.shiftLeft_eq]
    omega
  rw [address, BitVec.toNat_or, BitVec.toNat_ofNat, BitVec.toNat_shiftLeft,
    Nat.mod_eq_of_lt (by omega), Nat.mod_eq_of_lt hshift, Nat.or_comm,
    ← Nat.shiftLeft_add_eq_or_of_lt (show roundedLength len < 2 ^ 12 from h), Nat.shiftLeft_eq]

/-- The device reads the queue from bit 12 on and the length below it, and neither reaches into the
other. -/
structure AddressDecodes (pkt : ByteMemory) (len : ℕ) : Prop where
  queue : address pkt len >>> 12 = queueno pkt
  length : address pkt len &&& 0xfff = BitVec.ofNat 32 (roundedLength len)
  apart : BitVec.ofNat 32 (roundedLength len) &&& queueno pkt <<< 12 = 0

/-- The low 12 bits of a number. -/
theorem toNat_and_fff (a : BitVec 32) : (a &&& 0xfff).toNat = a.toNat % 4096 := by
  rw [BitVec.toNat_and]
  exact Nat.and_two_pow_sub_one_eq_mod _ 12

/-- Which packets the device reads the queue and the length of. -/
theorem address_decodes_iff {pkt : ByteMemory} {len : ℕ} (hlen : len < 2 ^ 16) :
    AddressDecodes pkt len ↔ len ≤ 3840 := by
  have hrounded := roundedLength_eq len
  constructor
  · intro h
    -- a length from 2^12 on is not what stands in the low 12 bits
    have hlow := congrArg BitVec.toNat h.length
    rw [toNat_and_fff, BitVec.toNat_ofNat] at hlow
    omega
  · intro h
    have haddress := toNat_address pkt (show roundedLength len < 4096 by omega)
    have hqueue := queueno_lt pkt
    refine ⟨BitVec.eq_of_toNat_eq ?_, BitVec.eq_of_toNat_eq ?_, BitVec.eq_of_toNat_eq ?_⟩
    · rw [BitVec.toNat_ushiftRight, haddress, Nat.shiftRight_eq_div_pow]
      omega
    · rw [toNat_and_fff, haddress, BitVec.toNat_ofNat]
      omega
    · -- the queue is a multiple of 2^12
      have hshift : (queueno pkt).toNat <<< 12 < 2 ^ 32 := by
        rw [Nat.shiftLeft_eq]
        omega
      rw [BitVec.toNat_and, BitVec.toNat_ofNat, BitVec.toNat_shiftLeft, Nat.mod_eq_of_lt (by omega),
        Nat.mod_eq_of_lt hshift]
      refine Nat.eq_of_testBit_eq fun i => ?_
      rw [Nat.testBit_and]
      by_cases hi : i < 12
      · simp [Nat.testBit_shiftLeft, Nat.not_le.2 hi]
      · rw [Nat.testBit_lt_two_pow (Nat.lt_of_lt_of_le (show roundedLength len < 2 ^ 12 by omega)
          (Nat.pow_le_pow_right (by decide) (Nat.not_lt.1 hi)))]
        simp

/-! ## The bytes -/

/-- The bytes of the writes of a call, from the first one on. -/
def handedData (before after : SdioDev) : List (BitVec 8) :=
  (after.handed.drop before.handed.length).flatMap Write.data

/-- Whole blocks that are written one at a time hand over what stands there, if none of them
fails. -/
theorem singleBlock_handed {pkt : ByteMemory} {addr : BitVec 32} {length : ℕ} {status : ℕ → ℤ}
    (n : ℕ) {tbuf k : ℕ} {dev : SdioDev} (h : dev.writeFail = 0)
    (hzero : (singleBlock war84 pkt addr length status ((n + 1) * 256) tbuf k dev).1 = 0) :
    ∃ writes, (singleBlock war84 pkt addr length status ((n + 1) * 256) tbuf k dev).2.handed =
        dev.handed ++ writes ∧
      writes.flatMap Write.data = pkt.bytes tbuf ((n + 1) * 256) := by
  have hblock (tbuf : ℕ) :
      ByteMemory.bytes (fun i => pkt (tbuf + i)) 0 256 = pkt.bytes tbuf 256 := by
    simp [ByteMemory.bytes]
  induction n generalizing tbuf k dev with
  | zero =>
    rw [singleBlock] at hzero ⊢
    rw [if_neg (show ¬ 256 < (0 + 1) * 256 by decide), ite_self] at hzero ⊢
    refine ⟨_, writeRegisterMultiple_handed h _ _ _ _, ?_⟩
    rw [List.flatMap_singleton, hblock]
  | succ n ih =>
    rw [singleBlock] at hzero ⊢
    have hmore : 256 < (n + 1 + 1) * 256 := by omega
    have hrest : (n + 1 + 1) * 256 - 256 = (n + 1) * 256 := by omega
    by_cases hok : Ignored war84 (status k)
    · -- the write has reached the bus, and the counter is still 0
      have hstatus := (writeRegisterMultiple_eq_zero_iff h
        (if (n + 1 + 1) * 256 = length then addr else 0) (fun i => pkt (tbuf + i)) 256
        (status k)).2 hok
      have hnext := (writeRegisterMultiple_writeFail h
        (if (n + 1 + 1) * 256 = length then addr else 0) (fun i => pkt (tbuf + i)) 256
        (status k)).trans (if_pos hok)
      rw [if_neg (not_not.2 hstatus), if_pos hmore, hrest] at hzero ⊢
      obtain ⟨writes, hwrites, hdata⟩ := ih hnext hzero
      rw [hwrites, writeRegisterMultiple_handed h, List.append_assoc]
      refine ⟨_, rfl, ?_⟩
      have hsum : 256 + (n + 1) * 256 = (n + 1 + 1) * 256 := by omega
      rw [List.flatMap_append, List.flatMap_singleton, hdata, hblock, ← ByteMemory.bytes_add, hsum]
    · have hstatus := mt (writeRegisterMultiple_eq_zero_iff h
        (if (n + 1 + 1) * 256 = length then addr else 0) (fun i => pkt (tbuf + i)) 256
        (status k)).1 hok
      rw [if_pos hstatus] at hzero
      exact absurd hzero hstatus

/-! ## Packets -/

/-- The length that a packet gives itself: the descriptor, and as many bytes as the low 12 bits of
its first word say. -/
def packetLen (pkt : ByteMemory) : ℕ := FRAME_DESC_SZ + (pkt.le16 0).toNat % 4096

/-- A packet is written exactly and honestly: the device reads its queue and its length, both builds
hand over the same bytes, and a write that returns 0 has reached the bus. -/
structure ExactAndHonest (war84 : Bool) (pkt : ByteMemory) (dev : SdioDev) : Prop where
  address : AddressDecodes pkt (packetLen pkt)
  sameBytes : ∀ status status' : ℕ → ℤ,
    (hostIntfWritePkt war84 true pkt (packetLen pkt) status dev).1 = 0 →
    (hostIntfWritePkt war84 false pkt (packetLen pkt) status' dev).1 = 0 →
    handedData dev (hostIntfWritePkt war84 true pkt (packetLen pkt) status dev).2 =
      handedData dev (hostIntfWritePkt war84 false pkt (packetLen pkt) status' dev).2
  honest : ∀ (addr : BitVec 32) (data : ByteMemory) (count : ℕ) (status : ℤ),
    (writeRegisterMultiple war84 addr data count status dev).1 = 0 →
    (writeRegisterMultiple war84 addr data count status dev).2.handed =
      dev.handed ++ [⟨addr, data.bytes 0 count⟩]

/-- A device without a failure gets the whole blocks of a packet in one piece. -/
theorem multiblock_handedData (h : dev.writeFail = 0) (pkt : ByteMemory) (len : ℕ)
    (status : ℕ → ℤ) :
    handedData dev (hostIntfWritePkt war84 true pkt len status dev).2 =
      pkt.bytes 0 (roundedLength len) := by
  have hwrite : (writeRegisterMultiple war84 (address pkt len) pkt (roundedLength len) (status 0)
      dev).2.handed = _ := writeRegisterMultiple_handed h _ _ _ _
  rw [handedData, hostIntfWritePkt, if_pos rfl, hwrite, List.drop_left, List.flatMap_singleton]

/-- Block by block it gets the same. -/
theorem singleBlock_handedData (h : dev.writeFail = 0) {pkt : ByteMemory} {len : ℕ} (hlen : 0 < len)
    {status : ℕ → ℤ} (hzero : (hostIntfWritePkt war84 false pkt len status dev).1 = 0) :
    handedData dev (hostIntfWritePkt war84 false pkt len status dev).2 =
      pkt.bytes 0 (roundedLength len) := by
  have hblocks : roundedLength len = ((len + 255) / 256 - 1 + 1) * 256 := by
    rw [roundedLength_eq]
    omega
  rw [hostIntfWritePkt, if_neg Bool.false_ne_true, hblocks] at hzero ⊢
  obtain ⟨writes, hwrites, hdata⟩ := singleBlock_handed _ h hzero
  rw [handedData, hwrites, List.drop_left, hdata]

/-- Which packets are written exactly and honestly: those whose blocks stay below 2^12 bytes, as
long as nothing has failed. -/
theorem exactAndHonest_iff (war84 : Bool) (pkt : ByteMemory) (history : List Event) :
    ExactAndHonest war84 pkt (SdioDev.behind war84 history) ↔
      packetLen pkt ≤ 3840 ∧ ∀ e ∈ history, ¬ e.Fails war84 := by
  have hlen : packetLen pkt < 2 ^ 16 := by
    rw [packetLen, FRAME_DESC_SZ]
    omega
  have hpos : 0 < packetLen pkt := Nat.lt_of_lt_of_le (by decide) (Nat.le_add_right _ _)
  have hcount := behind_writeFail war84 history
  generalize SdioDev.behind war84 history = dev at hcount ⊢
  by_cases hall : ∀ e ∈ history, ¬ e.Fails war84
  · rw [if_pos hall] at hcount
    refine ⟨fun h => ⟨(address_decodes_iff hlen).1 h.address, hall⟩, fun ⟨hle, _⟩ => ⟨?_, ?_, ?_⟩⟩
    · exact (address_decodes_iff hlen).2 hle
    · intro status status' _ hzero
      rw [multiblock_handedData hcount, singleBlock_handedData hcount hpos hzero]
    · intro addr data count status _
      exact writeRegisterMultiple_handed hcount addr data count status
  · rw [if_neg hall] at hcount
    refine iff_of_false (fun h => ?_) (fun h => hall h.2)
    -- a stopped device reports a success and has got nothing
    have hstopped : writeRegisterMultiple war84 0 pkt 0 0 dev = (0, dev) :=
      writeRegisterMultiple_stopped hcount 0 pkt 0 0
    have hhanded := h.honest 0 pkt 0 0 (by rw [hstopped])
    rw [hstopped] at hhanded
    have := congrArg List.length hhanded
    simp at this

/-- A frame of the management queue with 4000 bytes behind its descriptor. -/
def longPacket : ByteMemory := ByteMemory.override (fun _ => 0) [0xa0, 0x4f]

/-- 4016 bytes are rounded to 4096, which is the lowest bit of the queue: the device reads queue 5
and no length. -/
theorem not_exactAndHonest_longPacket :
    ¬ ∀ (war84 : Bool) (pkt : ByteMemory) (history : List Event),
      ExactAndHonest war84 pkt (SdioDev.behind war84 history) := by
  intro h
  exact absurd (h true longPacket []).address.queue (by decide)

end SdioPacket
