import RsiDriver.Boot.Fsm
import RsiDriver.ToMathlib.ByteMemory

/-!
# Loading a firmware image

`rsi_load_9116_firmware` (`rsi_91x_hal.c`) hands a firmware image to the device. An image that
starts with 0x5aa5 begins with a table of up to seven chunks, each with a length and a destination;
the chunks follow one after the other. The loop over the table ends at the entry that is marked as
the last one, and nothing else ends it. It keeps the status of the chunk that it has written last.

`load_data_master_write` is an arbitrary function here; it reads the bytes that it is handed. The
build has neither `CONFIG_SECURE_FW_LOAD` nor a firmware in flash. What becomes of the version that
is read, and the reset of an SDIO device behind a successful load, are left out.

## Main results

* `loadsTable_iff`: which images are loaded as their table says.
-/

namespace Boot

/-- `RSI_DEV_9113`, `RSI_DEV_9116`, `RSI_DEV_9117`, `RSI_DEV_917` -/
inductive DeviceModel
  | dev9113
  | dev9116
  | dev9117
  | dev917
  deriving DecidableEq, Repr

/-- `struct firmware`; behind the image stands what follows it in memory. -/
structure FwImage where
  data : ByteMemory
  size : ℕ

/-- `struct bootload_entry` -/
structure BootloadEntry where
  control : BitVec 32
  dstAddr : BitVec 32
  deriving DecidableEq, Repr, Inhabited

/-- `control & RSI_BL_CTRL_LEN_MASK` -/
def BootloadEntry.len (entry : BootloadEntry) : ℕ := (entry.control &&& 0xffffff).toNat

/-- `control & RSI_BL_CTRL_LAST_ENTRY` -/
def BootloadEntry.isLast (entry : BootloadEntry) : Bool := entry.control.getLsbD 31

/-- `struct bootload_ds` -/
structure BootloadDs where
  fixedPattern : BitVec 16
  offset : BitVec 16
  reserved : BitVec 32
  blEntry : List BootloadEntry
  deriving DecidableEq, Repr

/-- `sizeof(struct bootload_ds)` -/
def BOOTLOAD_DS_SIZE : ℕ := 64

/-- The table in front of an image. -/
def FwImage.bootloadDs (image : FwImage) : BootloadDs where
  fixedPattern := image.data.le16 0
  offset := image.data.le16 2
  reserved := image.data.le32 4
  blEntry := (List.range 7).map fun k => ⟨image.data.le32 (8 + 8 * k), image.data.le32 (12 + 8 * k)⟩

/-- A call of `load_data_master_write`: the destination, the bytes of the image, the block size. -/
structure MasterWrite where
  address : BitVec 32
  range : ByteRange
  blockSize : ℕ
  deriving DecidableEq, Repr

/-- What a load did: the bytes of the image that were read, the calls of `load_data_master_write`,
and the status; `none` if the loop went on behind the table. -/
structure Load where
  reads : List ByteRange
  writes : List MasterWrite
  status : Option ℤ
  deriving DecidableEq, Repr

/-- `-EIO` -/
def EIO : ℤ := -5

/-- What the driver finds: its device, what the accesses to the registers return, the firmware
files, and what each call of `load_data_master_write` returns. -/
structure FwEnv where
  deviceModel : DeviceModel
  coexMode : Fin 8
  /-- The host interface is SDIO and not USB. -/
  sdio : Bool
  /-- What `master_reg_write` returns for `MEM_ACCESS_CTRL_FROM_HOST`. -/
  accessRam : ℤ
  /-- `REG_CHIP_REV`, if it can be read -/
  chipRev : Option (BitVec 32)
  requestFirmware : String → Option FwImage
  written : ℕ → ℤ

/-- The names in `metadata` -/
def metadataNames : List String :=
  ["pmemdata_dummy", "pmemdata", "pmemdata_wlan_bt_classic", "pmemdata_wlan_zigb",
    "pmemdata_wlan_bt_classic", "pmemdata_dummy", "pmemdata_zigb_coordinator",
    "pmemdata_zigb_router"]

/-- The names in `metadata_1p5` -/
def metadata1p5Names : List String :=
  ["pmemdata_dummy", "pmemdata_1p5", "pmemdata_wlan_bt_classic_1p5", "pmemdata_dummy",
    "pmemdata_wlan_bt_classic_1p5", "pmemdata_dummy", "pmemdata_dummy", "pmemdata_dummy"]

/-- `address` of every entry of `metadata`, `metadata_1p5` and `metadata_9117` -/
def METADATA_ADDRESS : BitVec 32 := 0

namespace FwEnv

variable (env : FwEnv)

/-- `metadata_p->name`; `none` if the chip revision cannot be read. -/
def metadataName : Option String :=
  match env.deviceModel with
  | .dev9117 | .dev917 => some "pmemdata_wlan_bt_9117"
  | .dev9113 | .dev9116 => env.chipRev.map fun chipRev =>
    if chipRev &&& 0xff = 0x15 then metadata1p5Names.getD env.coexMode ""
    else metadataNames.getD env.coexMode ""

/-- `rsi_load_9116_firmware` up to `request_firmware`. -/
def openFirmware : Except ℤ FwImage :=
  if env.accessRam < 0 then .error EIO
  else
    match env.metadataName with
    | none => .error EIO
    | some name =>
      match env.requestFirmware name with
      | none => .error EINVAL
      | some image => .ok image

/-- Where the version of the LMAC firmware stands in an image. -/
def versionOffset : ℕ :=
  match env.deviceModel with
  | .dev9117 => 0x22c0 + 0x80
  | .dev917 => 0x40
  | .dev9113 | .dev9116 => 0x22c0

def blockSize : ℕ := if env.sdio then 256 else 252

/-- The `do … while (1)` over the table, from entry `ii` on; `cursor` is `firmware_ptr`. The debug
message reads four bytes at the cursor. -/
def loadChunks (ii cursor : ℕ) : List BootloadEntry → Load
  | [] => ⟨[], [], none⟩
  | entry :: entries =>
    let write : MasterWrite := ⟨entry.dstAddr, ⟨cursor, entry.len⟩, env.blockSize⟩
    if entry.isLast then ⟨[⟨cursor, 4⟩, write.range], [write], some (env.written ii)⟩
    else
      let rest := loadChunks (ii + 1) (cursor + entry.len) entries
      ⟨⟨cursor, 4⟩ :: write.range :: rest.reads, write :: rest.writes, rest.status⟩

/-- `rsi_load_9116_firmware` from `request_firmware` on. -/
def loadImage (image : FwImage) : Load :=
  -- `sizeof(struct lmac_version_info)`, and the first two bytes
  let reads : List ByteRange := [⟨env.versionOffset, 8⟩, ⟨0, 2⟩]
  if image.data.le16 0 = 0x5aa5 then
    let load := env.loadChunks 0 image.bootloadDs.offset.toNat image.bootloadDs.blEntry
    ⟨reads ++ ⟨0, BOOTLOAD_DS_SIZE⟩ :: load.reads, load.writes, load.status⟩
  else
    -- the whole image, rounded up to four bytes
    let write : MasterWrite := ⟨METADATA_ADDRESS, ⟨0, (image.size + 3) / 4 * 4⟩, env.blockSize⟩
    ⟨reads ++ [write.range], [write], some (env.written 0)⟩

/-- `rsi_load_9116_firmware` -/
def load9116Firmware : Load :=
  match env.openFirmware with
  | .error status => ⟨[], [], some status⟩
  | .ok image => env.loadImage image

end FwEnv

/-! ## What the table says -/

/-- Entry `n` is the first one that is marked as the last one. -/
structure LastAt (entries : List BootloadEntry) (n : ℕ) : Prop where
  lt : n < entries.length
  isLast : (entries.getD n default).isLast = true
  before : ∀ k < n, (entries.getD k default).isLast = false

/-- The bytes of chunk `k` follow those of the chunks before. -/
def chunkStart (cursor : ℕ) (entries : List BootloadEntry) (k : ℕ) : ℕ :=
  cursor + ((entries.take k).map BootloadEntry.len).sum

/-- The write that entry `k` asks for. -/
def chunkAt (blockSize cursor : ℕ) (entries : List BootloadEntry) (k : ℕ) : MasterWrite where
  address := (entries.getD k default).dstAddr
  range := ⟨chunkStart cursor entries k, (entries.getD k default).len⟩
  blockSize := blockSize

/-- **An image is loaded as its table says**: only bytes of the image are read and only entries of
the table, the chunks up to the last one are written, and 0 is returned only if each of the writes
has returned 0. -/
structure LoadsTable (env : FwEnv) (image : FwImage) (load : Load) : Prop where
  inside : ∀ range ∈ load.reads, range.Within image.size
  ends : load.status.isSome = true
  writes : ∃ n, LastAt image.bootloadDs.blEntry n ∧
    load.writes = (List.range (n + 1)).map
      (chunkAt env.blockSize image.bootloadDs.offset.toNat image.bootloadDs.blEntry)
  status : load.status = some 0 → ∀ k < load.writes.length, env.written k = 0

/-- The image has its version and its table, one of the seven entries is marked as the last one,
each chunk up to that one has its bytes (and the four that are printed) inside the image, and no
write fails before one that succeeds at last. -/
structure TableFits (env : FwEnv) (image : FwImage) : Prop where
  version : env.versionOffset + 8 ≤ image.size
  table : BOOTLOAD_DS_SIZE ≤ image.size
  chunks : ∃ n, LastAt image.bootloadDs.blEntry n ∧
    (∀ k ≤ n, chunkStart image.bootloadDs.offset.toNat image.bootloadDs.blEntry k +
      max 4 (image.bootloadDs.blEntry.getD k default).len ≤ image.size) ∧
    (env.written n = 0 → ∀ k < n, env.written k = 0)

/-! ## The loop over the table -/

theorem lastAt_cons {entry : BootloadEntry} {entries : List BootloadEntry} {n : ℕ} :
    LastAt (entry :: entries) n ↔
      (entry.isLast = true ∧ n = 0) ∨
        (entry.isLast = false ∧ ∃ m, n = m + 1 ∧ LastAt entries m) := by
  constructor
  · intro h
    cases n with
    | zero => exact .inl ⟨h.isLast, rfl⟩
    | succ m =>
      refine .inr ⟨h.before 0 (Nat.succ_pos m), m, rfl, ?_, h.isLast, fun k hk => ?_⟩
      · exact Nat.lt_of_succ_lt_succ h.lt
      · exact h.before (k + 1) (Nat.succ_lt_succ hk)
  · rintro (⟨hlast, rfl⟩ | ⟨hnot, m, rfl, h⟩)
    · exact ⟨Nat.succ_pos _, hlast, fun k hk => absurd hk (Nat.not_lt_zero k)⟩
    · refine ⟨Nat.succ_lt_succ h.lt, h.isLast, fun k hk => ?_⟩
      cases k with
      | zero => exact hnot
      | succ k => exact h.before k (Nat.lt_of_succ_lt_succ hk)

/-- There is only one first entry. -/
theorem LastAt.unique {entries : List BootloadEntry} {m n : ℕ} (hm : LastAt entries m)
    (hn : LastAt entries n) : m = n := by
  rcases Nat.lt_trichotomy m n with hlt | heq | hlt
  · have := hn.before m hlt
    rw [hm.isLast] at this
    cases this
  · exact heq
  · have := hm.before n hlt
    rw [hn.isLast] at this
    cases this

theorem chunkAt_cons_succ (blockSize cursor : ℕ) (entry : BootloadEntry)
    (entries : List BootloadEntry) (k : ℕ) :
    chunkAt blockSize cursor (entry :: entries) (k + 1) =
      chunkAt blockSize (cursor + entry.len) entries k := by
  simp [chunkAt, chunkStart, Nat.add_assoc]

/-- What is read for one chunk. -/
def chunkReads (write : MasterWrite) : List ByteRange := [⟨write.range.start, 4⟩, write.range]

namespace FwEnv

variable (env : FwEnv)

/-- A table with a last entry: its chunks are written, and the status is that of the last one. -/
theorem loadChunks_of_lastAt {entries : List BootloadEntry} {n : ℕ} (h : LastAt entries n)
    (ii cursor : ℕ) :
    env.loadChunks ii cursor entries =
      ⟨((List.range (n + 1)).map (chunkAt env.blockSize cursor entries)).flatMap chunkReads,
        (List.range (n + 1)).map (chunkAt env.blockSize cursor entries),
        some (env.written (ii + n))⟩ := by
  induction entries generalizing n ii cursor with
  | nil => exact absurd h.lt (Nat.not_lt_zero n)
  | cons entry entries ih =>
    rw [loadChunks]
    rcases lastAt_cons.1 h with ⟨hlast, rfl⟩ | ⟨hnot, m, rfl, hrest⟩
    · rw [if_pos hlast]
      rfl
    · rw [if_neg (by rw [hnot]; exact Bool.false_ne_true), ih hrest]
      simp only [List.range_succ_eq_map (n := m + 1), List.flatMap_cons, List.map_cons,
        List.map_map, Function.comp_def, Nat.succ_eq_add_one, chunkAt_cons_succ,
        Nat.add_right_comm ii 1 m, Nat.add_assoc ii m 1]
      rfl

/-- A table without one: the loop goes on behind the table. -/
theorem loadChunks_of_not_lastAt {entries : List BootloadEntry} (h : ∀ n, ¬ LastAt entries n)
    (ii cursor : ℕ) : (env.loadChunks ii cursor entries).status = none := by
  induction entries generalizing ii cursor with
  | nil => rfl
  | cons entry entries ih =>
    have hnot : entry.isLast = false := by
      cases hlast : entry.isLast with
      | false => rfl
      | true => exact absurd (lastAt_cons.2 (.inl ⟨hlast, rfl⟩)) (h 0)
    rw [loadChunks, if_neg (by rw [hnot]; exact Bool.false_ne_true)]
    exact ih (fun n hn => h (n + 1) (lastAt_cons.2 (.inr ⟨hnot, n, rfl, hn⟩))) _ _

theorem load9116Firmware_of_openFirmware {env : FwEnv} {image : FwImage}
    (hopen : env.openFirmware = .ok image) : env.load9116Firmware = env.loadImage image := by
  rw [load9116Firmware, hopen]

/-- What is read of an image with a table and of the chunk behind it. -/
theorem forall_within_iff (env : FwEnv) (image : FwImage) (chunks : List MasterWrite) :
    (∀ range ∈ ([⟨env.versionOffset, 8⟩, ⟨0, 2⟩] : List ByteRange) ++
        ⟨0, BOOTLOAD_DS_SIZE⟩ :: chunks.flatMap chunkReads, range.Within image.size) ↔
      env.versionOffset + 8 ≤ image.size ∧ BOOTLOAD_DS_SIZE ≤ image.size ∧
        ∀ chunk ∈ chunks, chunk.range.start + max 4 chunk.range.size ≤ image.size := by
  have hsize : BOOTLOAD_DS_SIZE = 64 := rfl
  simp only [List.cons_append, List.nil_append, List.mem_cons, List.mem_flatMap, chunkReads,
    List.not_mem_nil, or_false, forall_eq_or_imp, ByteRange.Within, hsize]
  constructor
  · rintro ⟨hversion, -, htable, hchunks⟩
    refine ⟨by omega, by omega, fun chunk hchunk => ?_⟩
    have h4 := hchunks ⟨chunk.range.start, 4⟩ ⟨chunk, hchunk, .inl rfl⟩
    have hlen := hchunks chunk.range ⟨chunk, hchunk, .inr rfl⟩
    dsimp only at h4
    omega
  · rintro ⟨hversion, htable, hchunks⟩
    refine ⟨.inr hversion, .inr (by omega), .inr (by omega), ?_⟩
    rintro range ⟨chunk, hchunk, rfl | rfl⟩
    · have := hchunks chunk hchunk
      refine .inr ?_
      dsimp only
      omega
    · have := hchunks chunk hchunk
      exact .inr (by omega)

/-- An image that starts with 0x5aa5 is loaded as its table says if and only if the table fits. -/
theorem loadsTable_iff {env : FwEnv} {image : FwImage} (hopen : env.openFirmware = .ok image)
    (hmagic : image.data.le16 0 = 0x5aa5) :
    LoadsTable env image env.load9116Firmware ↔ TableFits env image := by
  rw [load9116Firmware_of_openFirmware hopen, loadImage, if_pos hmagic]
  by_cases hlast : ∃ n, LastAt image.bootloadDs.blEntry n
  · obtain ⟨n, hn⟩ := hlast
    have hreads := forall_within_iff env image
      ((List.range (n + 1)).map
        (chunkAt env.blockSize image.bootloadDs.offset.toNat image.bootloadDs.blEntry))
    rw [env.loadChunks_of_lastAt hn, Nat.zero_add]
    constructor
    · intro hload
      obtain ⟨hversion, htable, hchunks⟩ := hreads.1 hload.inside
      refine ⟨hversion, htable, n, hn, fun k hk => ?_, fun hzero k hk => ?_⟩
      · exact hchunks _ (List.mem_map_of_mem (List.mem_range.2 (Nat.lt_succ_of_le hk)))
      · have hstatus := hload.status (congrArg some hzero) k
        simp only [List.length_map, List.length_range] at hstatus
        exact hstatus (Nat.lt_succ_of_lt hk)
    · rintro ⟨hversion, htable, m, hm, hchunks, hstatus⟩
      obtain rfl := hm.unique hn
      refine ⟨hreads.2 ⟨hversion, htable, ?_⟩, rfl, ⟨m, hm, rfl⟩, fun hzero k hk => ?_⟩
      · intro chunk hchunk
        obtain ⟨k, hk, rfl⟩ := List.mem_map.1 hchunk
        exact hchunks k (Nat.le_of_lt_succ (List.mem_range.1 hk))
      · have hlast : env.written m = 0 := Option.some.inj hzero
        simp only [List.length_map, List.length_range] at hk
        rcases Nat.lt_succ_iff_lt_or_eq.1 hk with hlt | rfl
        · exact hstatus hlast k hlt
        · exact hlast
  · -- no entry is marked: the loop does not end inside the table
    have hnone := env.loadChunks_of_not_lastAt (fun n hn => hlast ⟨n, hn⟩) 0
      image.bootloadDs.offset.toNat
    constructor
    · intro hload
      have hends := hload.ends
      dsimp only at hends
      rw [hnone] at hends
      cases hends
    · intro hfits
      obtain ⟨n, hn, -⟩ := hfits.chunks
      exact absurd ⟨n, hn⟩ hlast

/-- A table of two chunks of 16 bytes each; the second one is the last. -/
def twoChunks : List (BitVec 8) :=
  [0xa5, 0x5a, 64, 0, 0, 0, 0, 0, 16, 0, 0, 0, 0, 0, 0, 0, 16, 0, 0, 0x80, 16, 0, 0, 0]

def twoChunksImage : FwImage := ⟨.ofList twoChunks, 0x2400⟩

/-- An SDIO device of model 9116 whose firmware file is that image. -/
def sdioEnv (written : ℕ → ℤ) : FwEnv where
  deviceModel := .dev9116
  coexMode := ⟨1, by decide⟩
  sdio := true
  accessRam := 0
  chipRev := some 0
  requestFirmware := fun _ => some twoChunksImage
  written := written

theorem loadsTable_twoChunks :
    LoadsTable (sdioEnv fun _ => 0) twoChunksImage (sdioEnv fun _ => 0).load9116Firmware ↔
      TableFits (sdioEnv fun _ => 0) twoChunksImage :=
  loadsTable_iff rfl (by decide)

/-- The write of the first chunk fails, that of the second one succeeds, and 0 is returned. -/
theorem not_loadsTable : ¬ ∀ (env : FwEnv) (image : FwImage), env.openFirmware = .ok image →
    image.data.le16 0 = 0x5aa5 → LoadsTable env image env.load9116Firmware := by
  intro hall
  have hload := hall (sdioEnv fun k => if k = 0 then EIO else 0) twoChunksImage rfl (by decide)
  have hstatus := hload.status (by decide) 0 (by decide)
  exact absurd hstatus (by decide)

end FwEnv

end Boot
