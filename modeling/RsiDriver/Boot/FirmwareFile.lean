import RsiDriver.Boot.LoadFirmware

/-!
# The firmware file

`rsi_load_firmware` (`rsi_91x_hal.c`) gets a file from the kernel and has to release it. A watcher
counts: a file is requested while none is held, and released only while one is held. One path keeps
it: an RS9116 whose firmware is in flash, and whose header cannot be written.

## Main results

* `loadFirmware_entry`: in which runs the file is held at the end.
-/

namespace BootLoader

open Boot (EINVAL ENOMEM DeviceModel FwImage)
open Interaction Program
open MasterReg (FLASH_SIZE_ADDR)

/-- What becomes of the firmware file: whether it is held, and whether an image was found in flash
and the write of a header failed -/
structure Entry where
  held : Bool
  flashImage : Bool
  headerFailed : Bool
  deriving DecidableEq, Repr

namespace Entry

/-- A file is held once, and released only if it is held. -/
def step (entry : Entry) : Event signature → Option Entry
  | ⟨.requestFirmware _, (image : Option FwImage)⟩ =>
    if entry.held then none else some { entry with held := image.isSome }
  | ⟨.releaseFirmware, _⟩ => if entry.held then some { entry with held := false } else none
  | ⟨.masterRegRead addr, (val : Option (BitVec 32))⟩ =>
    if addr = RSI_FLASH_READ_COEX_IMAGE ∨ addr = RSI_FLASH_READ_WLAN_IMAGE then
      some { entry with flashImage := val == some FLASH_MAGIC }
    else some entry
  | ⟨.kzalloc, (found : Bool)⟩ => some { entry with headerFailed := entry.headerFailed || !found }
  | ⟨.masterAccessMsword _, (status : ℤ)⟩ | ⟨.writeRegMultiple .., (status : ℤ)⟩ =>
    some { entry with headerFailed := entry.headerFailed || decide (status < 0) }
  | _ => some entry

end Entry

theorem step_of_isCommand (entry : Entry) (op : Op) (ans : op.Ans) (h : op.IsCommand) :
    entry.step ⟨op, ans⟩ = some entry := by
  cases op with
  | masterRegRead addr =>
    obtain rfl | rfl := h
    · rfl
    · rfl
  | masterRegWrite | startTimer | stopTimer => rfl
  | _ => exact h.elim

namespace Adapter

variable (adapter : Adapter)

theorem blCmd_entry (entry : Entry) (cmd expResp : Char) :
    Ensures Entry.step entry (adapter.blCmd cmd expResp) fun _ entry' => entry' = entry :=
  (adapter.blCmd_uses cmd expResp).ensures_eq (step_of_isCommand entry)

theorem checkedCmd_entry {entry : Entry} {cmd : Host ℤ}
    (h : Ensures Entry.step entry cmd fun _ entry' => entry' = entry) :
    Ensures Entry.step entry
      (cmd >>= fun status => if status < 0 then blStopCmdTimer >>= fun _ => pure EINVAL else pure 0)
      fun _ entry' => entry' = entry := by
  rw [ensures_bind]
  refine h.mono fun status entry' hentry => ?_
  subst hentry
  split_ifs
  · exact fun _ => ⟨entry', rfl, rfl⟩
  · rfl

theorem autoFwUpgrade_entry (entry : Entry) (flashCapacity : BitVec 32) (image : ByteMemory)
    (contentSize : BitVec 32) :
    Ensures Entry.step entry (adapter.autoFwUpgrade flashCapacity image contentSize)
      fun _ entry' => entry' = entry := by
  have hloop (tempContentSize numFlash rounds index flashContent : ℕ) :
      Ensures Entry.step entry
        (adapter.flashLoop image tempContentSize numFlash rounds index flashContent)
        fun _ entry' => entry' = entry := by
    induction rounds generalizing index flashContent with
    | zero => rfl
    | succ rounds ih =>
      rw [flashLoop]
      split
      · rfl
      rw [ensures_bind, pingPongWrite, ensures_bind, ensures_loadDataMasterWrite]
      refine fun written => ⟨entry, rfl, ?_⟩
      split_ifs
      · rfl
      refine (checkedCmd_entry
        ((adapter.bankCmd_uses _).ensures_eq (step_of_isCommand entry))).mono
          fun status entry' hentry => ?_
      subst hentry
      split_ifs
      · rfl
      · exact ih _ _
  rw [autoFwUpgrade]
  dsimp only
  split_ifs
  · rfl
  · rfl
  · rfl
  · rfl
  rw [ensures_bind]
  refine (hloop ..).mono fun loaded entry' hentry => ?_
  subst hentry
  split_ifs
  · rfl
  · exact checkedCmd_entry (adapter.blCmd_entry _ _ _)

/-- A header that cannot be written is reported. -/
theorem blWriteHeader_entry (held flashImage : Bool) (image : ByteMemory) :
    Ensures Entry.step ⟨held, flashImage, false⟩ (adapter.blWriteHeader image)
      fun status entry' => entry' = ⟨held, flashImage, status != 0⟩ := by
  have hwrite (addr : BitVec 32) (header : List (BitVec 8)) :
      Ensures Entry.step ⟨held, flashImage, false⟩
        (writeRegMultiple addr header >>= fun status => pure (if status < 0 then EINVAL else 0))
        fun status entry' => entry' = ⟨held, flashImage, status != 0⟩ := by
    rw [ensures_bind, ensures_writeRegMultiple]
    intro status
    refine ⟨_, rfl, ?_⟩
    rw [ensures_pure]
    split_ifs with hneg <;> simp [hneg, EINVAL_ne_zero]
  have hheader (addr : BitVec 32) (header : List (BitVec 8)) :
      Ensures Entry.step ⟨held, flashImage, false⟩ (adapter.writeHeader addr header)
        fun status entry' => entry' = ⟨held, flashImage, status != 0⟩ := by
    rw [writeHeader]
    split_ifs
    · rw [ensures_bind, ensures_masterAccessMsword]
      intro status
      refine ⟨_, rfl, ?_⟩
      split_ifs with hneg
      · rw [ensures_pure]
        simp [hneg, EINVAL_ne_zero]
      · simp only [hneg, decide_false, Bool.or_false]
        exact hwrite _ _
    · exact hwrite _ _
  have halloc (addr : BitVec 32) (header : List (BitVec 8)) :
      Ensures Entry.step ⟨held, flashImage, false⟩
        (kzalloc >>= fun found => if found then adapter.writeHeader addr header else pure ENOMEM)
        fun status entry' => entry' = ⟨held, flashImage, status != 0⟩ := by
    rw [ensures_bind, ensures_kzalloc]
    intro found
    cases found with
    | false => exact ⟨_, rfl, rfl⟩
    | true => exact ⟨_, rfl, hheader _ _⟩
  rw [blWriteHeader]
  split_ifs
  · exact halloc _ _
  · exact hheader _ _
  · exact halloc _ _

theorem crcDiffers_uses : Uses Op.IsCommand adapter.crcDiffers := by
  refine Uses.bind (uses_request.2 trivial) fun checks => ?_
  refine Uses.bind (adapter.blWriteCmd_uses ..) fun result => ?_
  refine Uses.bind (uses_request.2 trivial) fun _ => ?_
  split_ifs
  · exact uses_pure _
  · exact Uses.bind (uses_request.2 trivial) fun _ => uses_pure _
  · exact uses_pure _

theorem crcDiffers_entry (entry : Entry) :
    Ensures Entry.step entry adapter.crcDiffers fun _ entry' => entry' = entry :=
  adapter.crcDiffers_uses.ensures_eq (step_of_isCommand entry)

theorem checkCrc_entry (entry : Entry) :
    Ensures Entry.step entry adapter.checkCrc fun _ entry' => entry' = entry := by
  rw [checkCrc, ensures_bind, ensures_masterRegWrite]
  refine fun status => ⟨entry, rfl, ?_⟩
  split_ifs
  · rfl
  · rw [ensures_bind]
    exact adapter.crcDiffers_entry entry

theorem load9116FlashFw_entry (entry : Entry) :
    Ensures Entry.step entry adapter.load9116FlashFw fun _ entry' => entry' = entry := by
  rw [load9116FlashFw, ensures_bind, ensures_masterRegWrite]
  refine fun status => ⟨entry, rfl, ?_⟩
  split_ifs
  · rfl
  · rw [ensures_bind]
    exact adapter.blCmd_entry entry _ _

/-- The file is released, and nothing else happens to it. -/
def Releases (entry entry' : Entry) : Prop := entry' = { entry with held := false }

theorem Releases.held {entry entry' : Entry} (h : Releases entry entry') : entry'.held = false := by
  rw [show entry' = { entry with held := false } from h]

theorem Releases.flashImage {entry entry' : Entry} (h : Releases entry entry') :
    entry'.flashImage = entry.flashImage := by
  rw [show entry' = { entry with held := false } from h]

theorem Releases.headerFailed {entry entry' : Entry} (h : Releases entry entry') :
    entry'.headerFailed = entry.headerFailed := by
  rw [show entry' = { entry with held := false } from h]

theorem fail_entry {entry : Entry} (h : entry.held = true) :
    Ensures Entry.step entry fail fun _ => Releases entry :=
  fun _ => ⟨_, by simp [Entry.step, h], rfl⟩

theorem success_entry {entry : Entry} (h : entry.held = true) :
    Ensures Entry.step entry success fun _ => Releases entry :=
  fun _ => ⟨_, by simp [Entry.step, h], rfl⟩

theorem startFlash9116_entry {entry : Entry} (h : entry.held = true) :
    Ensures Entry.step entry adapter.startFlash9116 fun _ => Releases entry := by
  rw [startFlash9116, ensures_bind]
  refine (adapter.load9116FlashFw_entry entry).mono fun status _ hentry => ?_
  subst hentry
  rw [ensures_bind]
  exact ensures_releaseFirmware.2 ⟨_, by simp [Entry.step, h], rfl⟩

theorem upgradeFlash9116_entry {entry : Entry} (h : entry.held = true) (image : FwImage) :
    Ensures Entry.step entry (adapter.upgradeFlash9116 image) fun _ => Releases entry := by
  rw [upgradeFlash9116, ensures_bind]
  refine (adapter.blCmd_entry entry _ _).mono fun status _ hburn => ?_
  subst hburn
  split_ifs
  · exact fail_entry h
  rw [ensures_bind]
  refine (adapter.autoFwUpgrade_entry _ _ _ _).mono fun upgraded _ hupgrade => ?_
  subst hupgrade
  split_ifs
  · exact fail_entry h
  rw [ensures_bind]
  refine (adapter.blCmd_entry _ _ _).mono fun polling _ hpolling => ?_
  subst hpolling
  split_ifs
  · exact fail_entry h
  · exact adapter.startFlash9116_entry h

theorem loadImageCmd_entry {entry : Entry} (h : entry.held = true) :
    Ensures Entry.step entry adapter.loadImageCmd fun _ => Releases entry := by
  rw [loadImageCmd, ensures_bind]
  refine (adapter.blCmd_entry entry _ _).mono fun status _ hentry => ?_
  subst hentry
  split_ifs
  · exact fail_entry h
  · exact success_entry h

theorem fwUpgrade_entry {entry : Entry} (h : entry.held = true) (flashCapacity : BitVec 32)
    (image : FwImage) :
    Ensures Entry.step entry (adapter.fwUpgrade flashCapacity image) fun _ => Releases entry := by
  rw [fwUpgrade, ensures_bind]
  refine (adapter.blCmd_entry entry _ _).mono fun status _ hburn => ?_
  subst hburn
  split_ifs
  · exact fail_entry h
  rw [ensures_bind]
  refine (adapter.autoFwUpgrade_entry _ _ _ _).mono fun upgraded _ hupgrade => ?_
  subst hupgrade
  split_ifs
  · exact adapter.loadImageCmd_entry h
  rw [ensures_bind]
  refine (adapter.blCmd_entry _ _ _).mono fun status _ hread => ?_
  subst hread
  split_ifs
  · exact fail_entry h
  · exact success_entry h

/-- The file of an RS9113 is released. -/
theorem loadFirmware9113_entry (flashImage : Bool) :
    Ensures Entry.step ⟨false, flashImage, false⟩ adapter.loadFirmware9113
      fun _ entry' => entry'.held = false := by
  rw [loadFirmware9113, ensures_bind]
  refine (adapter.blCmd_entry _ _ _).mono fun status _ hread => ?_
  subst hread
  split_ifs
  · rfl
  rw [ensures_bind]
  have hcapacity : Ensures Entry.step ⟨false, flashImage, false⟩ readFlashCapacity
      fun _ entry' => entry' = ⟨false, flashImage, false⟩ := by
    rw [readFlashCapacity, ensures_bind, ensures_masterRegRead]
    intro val
    cases val <;> exact ⟨_, rfl, rfl⟩
  refine hcapacity.mono fun flashCapacity _ hcap => ?_
  subst hcap
  split_ifs
  · rfl
  rw [ensures_bind, ensures_requestFirmware]
  intro image
  cases image with
  | none => exact ⟨_, rfl, rfl⟩
  | some image =>
    refine ⟨_, rfl, ?_⟩
    dsimp only
    rw [ensures_bind]
    refine (adapter.blWriteHeader_entry ..).mono fun header _ hheader => ?_
    subst hheader
    split_ifs
    · exact (fail_entry rfl).mono fun _ _ h => h.held
    rw [ensures_bind]
    refine (adapter.crcDiffers_entry _).mono fun differs _ hdiffers => ?_
    subst hdiffers
    split_ifs
    · exact (adapter.fwUpgrade_entry rfl _ _).mono fun _ _ h => h.held
    rw [ensures_bind]
    refine (adapter.blCmd_entry _ _ _).mono fun polling _ hpolling => ?_
    subst hpolling
    split_ifs
    · exact (fail_entry rfl).mono fun _ _ h => h.held
    · exact (adapter.loadImageCmd_entry rfl).mono fun _ _ h => h.held

/-- The file of an RS9116 stays held if there is an image in flash and the header fails. -/
theorem loadFlash9116_entry (flashDataStart : BitVec 32) :
    Ensures Entry.step ⟨false, flashDataStart == FLASH_MAGIC, false⟩
      (adapter.loadFlash9116 flashDataStart)
      fun _ entry' => entry'.held = (entry'.flashImage && entry'.headerFailed) := by
  rw [loadFlash9116, ensures_bind, ensures_requestFirmware]
  intro image
  cases image with
  | none => exact ⟨_, rfl, by simp⟩
  | some image =>
    refine ⟨_, rfl, ?_⟩
    dsimp only
    rw [ensures_bind]
    refine (adapter.blWriteHeader_entry ..).mono fun checked _ hheader => ?_
    subst hheader
    split_ifs with hmagic hchecked hchecked
    · rw [ensures_pure]
      simp [hmagic, hchecked]
    · rw [ensures_bind]
      have hzero : (checked != 0) = false := by simpa using hchecked
      rw [hzero]
      refine (adapter.checkCrc_entry _).mono fun differs _ hdiffers => ?_
      subst hdiffers
      split_ifs
      · exact (adapter.upgradeFlash9116_entry rfl _).mono fun _ _ h => by
          simp [h.held, h.headerFailed]
      · exact (adapter.startFlash9116_entry rfl).mono fun _ _ h => by
          simp [h.held, h.headerFailed]
    · exact (fail_entry rfl).mono fun _ _ h => by simp [h.held, h.flashImage, hmagic]
    · exact (adapter.upgradeFlash9116_entry rfl _).mono fun _ _ h => by
        simp [h.held, h.flashImage, hmagic]

/-- The builds that keep the firmware of an RS9116 in flash and may replace it -/
def upgradesFlash : Bool := adapter.devModel9116 && adapter.flashMode && !adapter.flashOnly

/-- The boot loader of a build that does not replace an image in flash -/
theorem loadFlashOnly_entry (entry : Entry) (flashDataStart : BitVec 32) :
    Ensures Entry.step entry (adapter.loadFlashOnly flashDataStart)
      fun _ entry' => entry' = entry := by
  rw [loadFlashOnly]
  split_ifs
  · rw [ensures_bind]
    exact adapter.load9116FlashFw_entry entry
  · rw [ensures_bind]
    refine (adapter.load9116FlashFw_entry entry).mono fun status _ hstatus => ?_
    subst hstatus
    rw [ensures_bind]
    exact adapter.blCmd_entry _ _ _
  · rfl

theorem loadRam9116_entry (entry : Entry) :
    Ensures Entry.step entry adapter.loadRam9116 fun _ entry' => entry' = entry := by
  rw [loadRam9116]
  split_ifs
  · exact fun _ => ⟨entry, rfl, rfl⟩
  rw [ensures_bind]
  refine (adapter.blCmd_entry entry _ _).mono fun polling _ hpolling => ?_
  subst hpolling
  split_ifs
  · rfl
  rw [ensures_bind, ensures_load9116Firmware]
  refine fun status => ⟨_, rfl, ?_⟩
  rw [ensures_bind]
  exact adapter.blCmd_entry _ _ _

/-- What is read of the flash is known to the watcher. -/
theorem readFlashStart_entry :
    Ensures Entry.step ⟨false, false, false⟩ adapter.readFlashStart fun start entry' =>
      entry' = ⟨false, adapter.flashMode && start == some FLASH_MAGIC, false⟩ := by
  rw [readFlashStart]
  split_ifs with hflash hcoex
  · exact ensures_masterRegRead.2 fun val => ⟨_, rfl, by simp [hflash]⟩
  · exact ensures_masterRegRead.2 fun val => ⟨_, rfl, by simp [hflash]⟩
  · simp [hflash]

/-- **When the firmware file is not released**: it is held at the end of a run exactly if the build
replaces images in flash, an image was found there, and the write of the header failed. It is never
requested while it is held, and never released while it is not. -/
theorem loadFirmware_entry :
    Ensures Entry.step ⟨false, false, false⟩ adapter.loadFirmware
      fun _ entry' => entry'.held =
        (adapter.upgradesFlash && (entry'.flashImage && entry'.headerFailed)) := by
  have hend (entry : Entry) (hheld : entry.held = false) (hheader : entry.headerFailed = false) :
      Ensures Entry.step entry blCmdFail fun _ entry' => entry'.held =
        (adapter.upgradesFlash && (entry'.flashImage && entry'.headerFailed)) := by
    rw [blCmdFail, ensures_bind]
    exact ensures_blStopCmdTimer.2 ⟨entry, rfl, by simp [hheld, hheader]⟩
  rw [loadFirmware, ensures_bind, ensures_blStartCmdTimer]
  refine fun checks => ⟨_, rfl, ?_⟩
  rw [ensures_bind]
  refine adapter.readFlashStart_entry.mono fun start _ hstart => ?_
  subst hstart
  cases start with
  | none => exact hend _ rfl rfl
  | some flashDataStart =>
    dsimp only
    rw [ensures_bind]
    refine ((pollRegister_uses (Or.inr rfl) _ _ _).ensures_eq (step_of_isCommand _)).mono
      fun polled _ hpolled => ?_
    subst hpolled
    obtain _ | ⟨_ | left, val⟩ := polled
    · exact hend _ rfl rfl
    · exact hend _ rfl rfl
    dsimp only
    rw [ensures_bind]
    refine ensures_blStopCmdTimer.2 ⟨_, rfl, ?_⟩
    rw [ensures_bind, ensures_masterRegWrite]
    refine fun status => ⟨_, rfl, ?_⟩
    split_ifs with hstatus hmodel hflash honly
    · simp
    · refine (adapter.loadFlashOnly_entry _ _).mono fun _ _ h => ?_
      subst h
      simp
    · have hupgrades : adapter.upgradesFlash = true := by
        simp [upgradesFlash, hmodel, hflash, honly]
      simpa [hflash, hupgrades] using adapter.loadFlash9116_entry flashDataStart
    · refine (adapter.loadRam9116_entry _).mono fun _ _ h => ?_
      subst h
      simp
    · refine (adapter.loadFirmware9113_entry _).mono fun _ _ h => ?_
      rw [h]
      simp [upgradesFlash, hmodel]

end Adapter

end BootLoader
