import RsiDriver.Security.KeyTable
import RsiDriver.ToMathlib.AccessTrace

/-!
# The frame of a key

`rsi_load_key` puts a key into a `struct rsi_set_key`, byte by byte: four rows of 32 bytes and two
MIC keys behind the descriptor. A WEP key goes into the row of its key id, behind the first byte;
every other key goes into the first row, and the key id of a pairwise one is 0. The fifth word of
the descriptor tells the key id, the type and the kind of cipher.

The key is seen as mac80211 allocates it, with as many bytes as the cipher has. Its callers pass
that number as `key_len`; none passes a cipher of `KEY_TYPE_CLEAR` or no data.

## Main results

* `built_of_caller`: what the frame of a key says;
* `not_forall_faithful`: a TKIP group key with the key id 1, whose row stays empty.
-/

namespace LoadKey

open Access
open Security (Cipher KeyType)
open Station (isApType)
open Tx (IfType)

/-- `sizeof(struct rsi_set_key)` -/
def SET_KEY_SIZE : ℕ := 160
/-- `FRAME_DESC_SZ` -/
def FRAME_DESC_SZ : ℕ := 16

/-- The key of mac80211 and the frame. -/
inductive Obj
  | data
  | setKey
  deriving DecidableEq, Repr

/-- Their sizes, for a key of `n` bytes. -/
def Obj.size (n : ℕ) : Obj → ℕ
  | .data => n
  | .setKey => SET_KEY_SIZE

/-- The arguments, with what is found in the interface; the cipher `none` is `KEY_TYPE_CLEAR`. -/
structure Args where
  data : Option ByteMemory
  keyLen : BitVec 16
  keyType : KeyType
  keyId : BitVec 8
  cipher : Option Cipher
  staId : BitVec 16
  vifType : IfType
  vapId : BitVec 8
  maxStations : ℤ
  /-- `dev_alloc_skb` succeeds. -/
  alloc : Bool

/-- The frame: its words and what was accessed for the body. -/
structure Frame where
  word0 : BitVec 16
  word1 : BitVec 16
  word4 : BitVec 16
  word7 : BitVec 16
  accesses : List (Access Obj)

/-- The frame behind the descriptor; it was cleared when it was allocated. -/
def Frame.mem (f : Frame) : ByteMemory := contents .setKey f.accesses fun _ => 0

/-- Where `key[row][j]` stands. -/
def keyOffset (row j : ℕ) : ℕ := FRAME_DESC_SZ + 32 * row + j

/-- Where `tx_mic_key` stands. -/
def TX_MIC_KEY : ℕ := 144
/-- Where `rx_mic_key` stands. -/
def RX_MIC_KEY : ℕ := 152

section Function

variable (a : Args)

/-- `WLAN_CIPHER_SUITE_WEP40` or `WLAN_CIPHER_SUITE_WEP104` -/
def Args.wep : Bool := a.cipher.any Cipher.isWep

/-- `key_id` behind the `switch`. -/
def Args.id : BitVec 8 := if a.keyType = .pairwise ∧ a.wep = false then 0 else a.keyId

/-- `key_descriptor` -/
def Args.keyDescriptor : BitVec 16 :=
  let group : BitVec 16 :=
    if a.keyType = .group ∧ isApType a.vifType = true then 0x80 else 0
  let cipher : BitVec 16 :=
    if a.wep = true then 0x4 ||| if 13 ≤ a.keyLen.toNat then 0x8 else 0
    else if a.cipher ≠ none then 0x10 ||| if a.cipher = some .tkip then 0x20 else 0
    else 0
  let keyT1 : BitVec 16 := match a.keyType with
    | .group => 0x2
    | .pairwise => 0
  group ||| cipher ||| (keyT1 ||| 0x2000 ||| a.id.setWidth 16 <<< 14)

/-- The key and the MIC keys are copied, or what is meant to be the body is cleared: the index is
one of whole structures. -/
def Args.body : List (Access Obj) :=
  match a.data with
  | some data =>
    (if a.wep = true then
      copy data .data 0 (a.keyLen.toNat * 2) .setKey (keyOffset a.id.toNat 1)
    else copy data .data 0 a.keyLen.toNat .setKey (keyOffset 0 0)) ++
    (copy data .data 16 8 .setKey TX_MIC_KEY ++ copy data .data 24 8 .setKey RX_MIC_KEY)
  | none =>
    [.write .setKey (FRAME_DESC_SZ * SET_KEY_SIZE)
      (List.replicate (SET_KEY_SIZE - FRAME_DESC_SZ) 0)]

/-- `rsi_load_key`; there is no frame if it returns an error. -/
def loadKey : Option Frame :=
  if a.alloc = false then none
  else if a.keyType = .pairwise ∧ isApType a.vifType = true ∧ a.maxStations ≤ a.staId.toInt then
    none
  else
    some
      { word0 := BitVec.ofNat 16 (SET_KEY_SIZE - FRAME_DESC_SZ) ||| 0x4000
        word1 := 0xA
        word4 := a.keyDescriptor
        word7 := a.staId ||| a.vapId.setWidth 16 <<< 8
        accesses := a.body }

end Function

/-! ## What the frame should say -/

/-- The number of bytes of a key, for the ciphers with one. -/
def keyBytes : Cipher → Option ℕ
  | .wep40 => some 5
  | .wep104 => some 13
  | .tkip | .ccmp256 => some 32
  | .ccmp | .aesCmac => some 16
  | .other => none

/-- What a caller passes: a key id below 4, and the length of the key. -/
def Args.OfCaller (a : Args) : Prop :=
  a.keyId.toNat < 4 ∧ ∀ c ∈ a.cipher, keyBytes c = some a.keyLen.toNat

instance (a : Args) : Decidable a.OfCaller := by
  unfold Args.OfCaller
  cases a.cipher with
  | none => exact decidable_of_iff (a.keyId.toNat < 4) (by simp)
  | some c =>
    exact decidable_of_iff (a.keyId.toNat < 4 ∧ keyBytes c = some a.keyLen.toNat) (by simp)

/-- The kinds of cipher that the descriptor tells apart. -/
inductive Kind
  | wep40
  | wep104
  | tkip
  | aes
  | clear
  deriving DecidableEq, Repr

/-- The kind of a cipher. -/
def Kind.of : Option Cipher → Kind
  | none => .clear
  | some .wep40 => .wep40
  | some .wep104 => .wep104
  | some .tkip => .tkip
  | some .ccmp | some .ccmp256 | some .aesCmac | some .other => .aes

/-- Reading the key id, the type and the kind of cipher back from the fifth word. -/
def readBack (w : BitVec 16) : ℕ × KeyType × Kind :=
  ((w >>> 14).toNat, if w.getLsbD 1 then .group else .pairwise,
    if w.getLsbD 2 then if w.getLsbD 3 then .wep104 else .wep40
    else if w.getLsbD 4 then if w.getLsbD 5 then .tkip else .aes
    else .clear)

/-- **A frame that is bounded and faithful**: the bytes that are read are the key's, those that are
written the frame's; the row of the key id holds the key, behind the first byte for WEP, and nothing
else is in the rows; the MIC keys are those of TKIP; the fifth word tells the key id, the type and
the cipher; without data the body is empty. -/
structure Faithful (a : Args) (f : Frame) : Prop where
  inBounds : AllInBounds (Obj.size a.keyLen.toNat) f.accesses
  row : ∀ data ∈ a.data, ∀ i < 4, ∀ j < 32,
    f.mem (keyOffset i j) =
      let start := if a.wep = true then 1 else 0
      if i = a.keyId.toNat ∧ start ≤ j ∧ j < start + a.keyLen.toNat then data (j - start) else 0
  mic : ∀ data ∈ a.data, ∀ j < 8,
    f.mem (TX_MIC_KEY + j) = (if a.cipher = some .tkip then data (16 + j) else 0) ∧
      f.mem (RX_MIC_KEY + j) = (if a.cipher = some .tkip then data (24 + j) else 0)
  word4 : readBack f.word4 = (a.keyId.toNat, a.keyType, Kind.of a.cipher)
  empty : a.data = none → ∀ j, FRAME_DESC_SZ ≤ j → j < SET_KEY_SIZE → f.mem j = 0

/-- The frame as it is built for a key. Of the bytes that are read this speaks for TKIP, of the MIC
keys too, and of the row of a WEP key it tells where the key is. -/
structure BuiltFor (a : Args) (f : Frame) (data : ByteMemory) : Prop where
  written : ∀ x ∈ f.accesses, ∀ start bytes, x = .write .setKey start bytes →
    FRAME_DESC_SZ ≤ start ∧ start + bytes.length ≤ SET_KEY_SIZE
  tkip_inBounds : a.cipher = some .tkip → AllInBounds (Obj.size a.keyLen.toNat) f.accesses
  wep : a.wep = true →
    (∀ j < a.keyLen.toNat, f.mem (keyOffset a.keyId.toNat (1 + j)) = data j) ∧
      f.mem (keyOffset a.keyId.toNat 0) = 0 ∧
      ∀ i < 4, i ≠ a.keyId.toNat → ∀ j < 32, f.mem (keyOffset i j) = 0
  notWep : a.wep = false → ∀ i < 4, ∀ j < 32,
    f.mem (keyOffset i j) = if i = 0 ∧ j < a.keyLen.toNat then data j else 0
  tkip_mic : a.cipher = some .tkip → ∀ j < 8,
    f.mem (TX_MIC_KEY + j) = data (16 + j) ∧ f.mem (RX_MIC_KEY + j) = data (24 + j)

/-! ## What it says -/

section Built

variable {a : Args} {f : Frame} {data : ByteMemory}

theorem loadKey_eq (h : loadKey a = some f) :
    f.word4 = a.keyDescriptor ∧ f.accesses = a.body := by
  rw [loadKey] at h
  split_ifs at h
  obtain rfl := Option.some_inj.1 h
  exact ⟨rfl, rfl⟩

/-- The key id of the frame is one of four. -/
theorem Args.OfCaller.id_lt (ha : a.OfCaller) : a.id.toNat < 4 := by
  rw [Args.id]
  split_ifs
  · decide
  · exact ha.1

/-- The bits of a kind of cipher. -/
def Kind.bits : Kind → BitVec 16
  | .wep40 => 0x4
  | .wep104 => 0xc
  | .tkip => 0x30
  | .aes => 0x10
  | .clear => 0

/-- The descriptor of a group key of an access point or of another key. -/
def keyWord (apGroup : Bool) (t : KeyType) (kind : Kind) (id : BitVec 8) : BitVec 16 :=
  let group : BitVec 16 := if apGroup = true then 0x80 else 0
  let keyT1 : BitVec 16 := if t = .group then 0x2 else 0
  group ||| kind.bits ||| (keyT1 ||| 0x2000 ||| id.setWidth 16 <<< 14)

theorem readBack_keyWord {apGroup : Bool} {t : KeyType} {kind : Kind} {id : BitVec 8}
    (hid : id.toNat < 4) : readBack (keyWord apGroup t kind id) = (id.toNat, t, kind) := by
  obtain ⟨i, rfl⟩ : ∃ i : Fin 4, id = BitVec.ofNat 8 i :=
    ⟨⟨id.toNat, hid⟩, by simp⟩
  cases apGroup <;> cases t <;> cases kind <;> revert i <;> decide

/-- The length tells a WEP104 key from a WEP40 key. -/
theorem keyDescriptor_eq (ha : a.OfCaller) :
    a.keyDescriptor = keyWord (decide (a.keyType = .group ∧ isApType a.vifType = true)) a.keyType
      (Kind.of a.cipher) a.id := by
  have hlen := ha.2
  rw [Args.keyDescriptor, keyWord]
  have hgroup : (match a.keyType with
      | .group => 0x2
      | .pairwise => 0 : BitVec 16) = if a.keyType = .group then 0x2 else 0 := by
    cases a.keyType <;> rfl
  -- the length of a WEP key tells its cipher
  have hcipher : (if a.wep = true then 0x4 ||| if 13 ≤ a.keyLen.toNat then 0x8 else 0
      else if a.cipher ≠ none then 0x10 ||| if a.cipher = some .tkip then 0x20 else 0
      else 0 : BitVec 16) = (Kind.of a.cipher).bits := by
    cases hc : a.cipher with
    | none => simp [Args.wep, hc, Kind.of, Kind.bits]
    | some c =>
      have hbytes := hlen c hc
      cases c <;> simp only [keyBytes, Option.some_inj, reduceCtorEq] at hbytes <;>
        simp [Args.wep, hc, Cipher.isWep, Kind.of, Kind.bits, ← hbytes]
  simp only [hgroup, hcipher, decide_eq_true_eq]

/-- The bytes of the frame, one copy after the other. -/
theorem mem_eq (h : loadKey a = some f) (hdata : a.data = some data) :
    f.mem = ((ByteMemory.copy (fun _ => 0)
        (if a.wep = true then keyOffset a.id.toNat 1 else keyOffset 0 0)
        (if a.wep = true then a.keyLen.toNat * 2 else a.keyLen.toNat) data).copy TX_MIC_KEY 8
          fun i => data (16 + i)).copy RX_MIC_KEY 8 fun i => data (24 + i) := by
  rw [Frame.mem, (loadKey_eq h).2, Args.body, hdata]
  simp only [contents_append, contents_copy]
  congr 2
  by_cases hwep : a.wep = true
  · simp only [hwep, if_true, contents_copy, Nat.zero_add]
  · simp only [hwep, if_false, contents_copy, Nat.zero_add, Bool.false_eq_true]

/-- The rows stand in front of the MIC keys. -/
theorem mem_keyOffset (h : loadKey a = some f) (hdata : a.data = some data) {i j : ℕ} (hi : i < 4)
    (hj : j < 32) :
    f.mem (keyOffset i j) = ByteMemory.copy (fun _ => 0)
      (if a.wep = true then keyOffset a.id.toNat 1 else keyOffset 0 0)
      (if a.wep = true then a.keyLen.toNat * 2 else a.keyLen.toNat) data (keyOffset i j) := by
  have hlt : keyOffset i j < TX_MIC_KEY := by
    rw [keyOffset, FRAME_DESC_SZ, TX_MIC_KEY]
    omega
  rw [mem_eq h hdata, ByteMemory.copy_of_lt _ (Nat.lt_trans hlt (by decide)),
    ByteMemory.copy_of_lt _ hlt]

/-- The key of a caller has at most 32 bytes, and a WEP key at most 13. -/
theorem keyLen_le (ha : a.OfCaller) {c : Cipher} (hc : a.cipher = some c) :
    a.keyLen.toNat ≤ 32 ∧ (a.wep = true → a.keyLen.toNat ≤ 13) := by
  have hbytes := ha.2 c hc
  cases c <;> simp only [keyBytes, Option.some_inj, reduceCtorEq] at hbytes <;>
    simp [Args.wep, hc, Cipher.isWep, ← hbytes]

/-- A WEP key keeps its key id. -/
theorem id_of_wep (h : a.wep = true) : a.id = a.keyId := by
  rw [Args.id, if_neg (by simp [h])]

/-- The frame of a key that a caller hands over. -/
theorem builtFor_of_caller (ha : a.OfCaller) (h : loadKey a = some f) {c : Cipher}
    (hc : a.cipher = some c) (hdata : a.data = some data) : BuiltFor a f data := by
  obtain ⟨hle, hwepLe⟩ := keyLen_le ha hc
  have hid := ha.id_lt
  constructor
  · -- the three copies
    intro x hx start bytes hx'
    subst hx'
    rw [(loadKey_eq h).2, Args.body, hdata] at hx
    simp only [List.mem_append] at hx
    rcases hx with hkey | htx | hrx
    · by_cases hwep : a.wep = true
      · have := hwepLe hwep
        rw [if_pos hwep] at hkey
        obtain ⟨-, rfl, rfl⟩ := write_mem_copy.1 hkey
        rw [ByteMemory.length_bytes, keyOffset, FRAME_DESC_SZ, SET_KEY_SIZE]
        omega
      · rw [if_neg hwep] at hkey
        obtain ⟨-, rfl, rfl⟩ := write_mem_copy.1 hkey
        rw [ByteMemory.length_bytes, keyOffset, FRAME_DESC_SZ, SET_KEY_SIZE]
        omega
    · obtain ⟨-, rfl, rfl⟩ := write_mem_copy.1 htx
      rw [ByteMemory.length_bytes]
      decide
    · obtain ⟨-, rfl, rfl⟩ := write_mem_copy.1 hrx
      rw [ByteMemory.length_bytes]
      decide
  · -- a TKIP key has 32 bytes, with the MIC keys
    intro htkip
    have hlen : 32 = a.keyLen.toNat := Option.some_inj.1 (ha.2 .tkip htkip)
    have hwep : ¬ a.wep = true := by simp [Args.wep, htkip, Cipher.isWep]
    rw [(loadKey_eq h).2, Args.body, hdata]
    simp only [hwep, Bool.false_eq_true, if_false, allInBounds_append, allInBounds_copy, ← hlen]
    decide
  · intro hwep
    have := hwepLe hwep
    have hmem {i j : ℕ} (hi : i < 4) (hj : j < 32) := mem_keyOffset h hdata hi hj
    simp only [hwep, if_true, id_of_wep hwep] at hmem hid
    refine ⟨fun j hj => ?_, ?_, fun i hi hne j hj => ?_⟩
    · rw [hmem hid (by omega), show keyOffset a.keyId.toNat (1 + j) =
        keyOffset a.keyId.toNat 1 + j from (Nat.add_assoc _ _ _).symm,
        ByteMemory.copy_add _ (by omega)]
    · rw [hmem hid (by decide), ByteMemory.copy_of_lt _ (by simp [keyOffset])]
    · rw [hmem hi hj, ByteMemory.copy, if_neg]
      simp only [keyOffset]
      omega
  · intro hwep i hi j hj
    rw [mem_keyOffset h hdata hi hj, ByteMemory.copy]
    simp only [hwep, Bool.false_eq_true, if_false, keyOffset, FRAME_DESC_SZ]
    by_cases hin : i = 0 ∧ j < a.keyLen.toNat
    · obtain ⟨rfl, hlt⟩ := hin
      rw [if_pos (by omega), if_pos ⟨rfl, hlt⟩]
      congr 1
      omega
    · rw [if_neg (by omega), if_neg hin]
  · intro _ j hj
    rw [mem_eq h hdata]
    constructor
    · have hlt : TX_MIC_KEY + j < RX_MIC_KEY := by
        rw [TX_MIC_KEY, RX_MIC_KEY]
        omega
      rw [ByteMemory.copy_of_lt _ hlt, ByteMemory.copy_add _ hj]
    · rw [ByteMemory.copy_add _ hj]

/-- What the frame of a call says: the key id, the type and the kind of cipher can be read back from
its fifth word, and a key that was handed over is where it should be. -/
theorem built_of_caller (ha : a.OfCaller) (h : loadKey a = some f) :
    readBack f.word4 = (a.id.toNat, a.keyType, Kind.of a.cipher) ∧
      ∀ c data, a.cipher = some c → a.data = some data → BuiltFor a f data := by
  constructor
  · rw [(loadKey_eq h).1, keyDescriptor_eq ha]
    exact readBack_keyWord ha.id_lt
  · intro c data hc hdata
    exact builtFor_of_caller ha h hc hdata

end Built

/-! ## A TKIP key -/

/-- A group key with the key id 1. -/
def tkipGroup : Args where
  data := some fun i => BitVec.ofNat 8 (i + 1)
  keyLen := 32
  keyType := .group
  keyId := 1
  cipher := some .tkip
  staId := 0
  vifType := .station
  vapId := 0
  maxStations := 4
  alloc := true

/-- It is put into the first row. -/
theorem built_tkipGroup : ∃ f, loadKey tkipGroup = some f ∧
    readBack f.word4 = (1, .group, .tkip) ∧
    BuiltFor tkipGroup f fun i => BitVec.ofNat 8 (i + 1) := by
  obtain ⟨hword, hbuilt⟩ := built_of_caller (a := tkipGroup) (by decide) rfl
  exact ⟨_, rfl, hword, hbuilt _ _ rfl rfl⟩

/-- The row of its key id is empty. -/
theorem not_forall_faithful :
    ¬ ∀ (a : Args) (f : Frame), a.OfCaller → loadKey a = some f → Faithful a f := by
  intro hall
  have hfaithful := hall tkipGroup _ (by decide) rfl
  have hrow := hfaithful.row _ rfl 1 (by decide) 0 (by decide)
  exact absurd hrow (by decide)

end LoadKey
