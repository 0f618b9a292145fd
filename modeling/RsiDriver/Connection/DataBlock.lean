import RsiDriver.Security.GroupKey
import RsiDriver.ToMathlib.TransitionSystem

/-!
# Blocking the data queues until authentication

`hw_data_qs_blocked` keeps data frames in the host, and a `BLOCK_HW_QUEUE` frame tells the device
to do the same. The queues are blocked when the station associates or leaves, and while it is off
the channel of its BSS; they are unblocked at once in an open BSS, else when a WEP key is installed
or the device confirms the last frame of the four-way handshake (`rsi_91x_mgmt.c`,
`rsi_91x_mac80211.c`; the build without `CONFIG_STA_PLUS_AP`).

Nothing records why the queues are blocked. A change to the channel of the BSS in the middle of the
handshake unblocks them, and so do a confirm that belongs to an earlier association, a WEP key
that is deleted or that the device did not take, and a station that joins an access point.

Runs are sequences of calls; which frames can be allocated, and what the functions that are not
modelled here return, are inputs of a call. The bit that says which association a confirm or a key
belongs to is not known to the driver.

## Main results

* `not_dataBlocked`: a run that unblocks the queues during the handshake;
* `deviceAgrees`: in every run, if the host does not block, the device was not told to;
* `dataBlocked_of_discipline`: the queues stay blocked until the station is authenticated if none of
  the calls above comes before.
-/

namespace Connection

open Tx (IfType)
open Security (KeyConf)

/-- `enum opmode` -/
inductive Opmode
  | ap
  | sta
  | p2pGo
  | p2pClient
  deriving DecidableEq, Repr

/-- The frames of the driver's own that the functions below queue. -/
inductive MgmtFrame
  /-- `BLOCK_HW_QUEUE`, to block or to unblock. -/
  | blockHwQueue (block : Bool)
  /-- `PEER_NOTIFY`, for `STA_CONNECTED` or `STA_DISCONNECTED`. -/
  | staNotify (opmode : Opmode) (connected : Bool)
  | autoRateRequest
  | radioCaps
  deriving DecidableEq, Repr

/-- `struct rsi_common` -/
structure Common where
  hwDataQsBlocked : Bool
  startBgscan : Bool
  eapol4Confirm : Bool
  minRate : BitVec 16
  mac80211CurChannel : BitVec 16
  bgscanEn : Bool
  /-- The frames queued so far. -/
  queued : List MgmtFrame
  deriving DecidableEq, Repr

namespace Common

/-- Queue a frame, if it can be allocated. -/
def send (c : Common) (frame : MgmtFrame) (alloc : Bool) : Common :=
  if alloc then { c with queued := c.queued ++ [frame] } else c

/-- `if (!rsi_send_block_unblock_frame(common, block)) common->hw_data_qs_blocked = block` -/
def blockQueues (c : Common) (block alloc : Bool) : Common :=
  if alloc then { c.send (.blockHwQueue block) true with hwDataQsBlocked := block } else c

/-- The frames about the peer that `rsi_inform_bss_status` sends when it is connected. -/
def notifyConnected (c : Common) (opmode : Opmode) (alloc : MgmtFrame → Bool) : Common :=
  let c := c.send (.staNotify opmode true) (alloc (.staNotify opmode true))
  if c.minRate = 0xffff then c.send .autoRateRequest (alloc .autoRateRequest) else c

/-- The rest of `rsi_inform_bss_status` for a connected peer. -/
def informConnected (c : Common) (opmode : Opmode) (assocCap : BitVec 16)
    (alloc : MgmtFrame → Bool) : Common :=
  let c := c.notifyConnected opmode alloc
  if opmode = .sta then
    let c := c.send .radioCaps (alloc .radioCaps)
    -- bit 4 of the capabilities is the privacy bit
    if assocCap.getLsbD 4 = true then c else c.blockQueues false (alloc (.blockHwQueue false))
  else if opmode = .ap ∧ c.hwDataQsBlocked = true then
    c.blockQueues false (alloc (.blockHwQueue false))
  else c

/-- The rest of `rsi_inform_bss_status` for a peer that left. -/
def informDisconnected (c : Common) (opmode : Opmode) (alloc : MgmtFrame → Bool) : Common :=
  let c := c.send (.staNotify opmode false) (alloc (.staNotify opmode false))
  if opmode = .sta then c.send (.blockHwQueue true) (alloc (.blockHwQueue true)) else c

/-- `rsi_inform_bss_status`. For a station the flag is set first, whatever becomes of the frames. -/
def informBssStatus (c : Common) (opmode : Opmode) (status : BitVec 8) (assocCap : BitVec 16)
    (alloc : MgmtFrame → Bool) : Common :=
  let c := if opmode = .sta then { c with hwDataQsBlocked := true } else c
  if status ≠ 0 then c.informConnected opmode assocCap alloc else c.informDisconnected opmode alloc

end Common

/-- What `rsi_channel_change` finds: the last interface, if there is one, the channel of the
connected BSS, what `rsi_band_check` and `rsi_set_channel` return, and whether the frames that block
and unblock can be allocated. -/
structure ChannelChange where
  vif : Option (IfType × Bool)
  channel : BitVec 16
  connectedChannel : BitVec 16
  bandStatus : Int
  channelStatus : Int
  allocBlock : Bool
  allocUnblock : Bool
  deriving DecidableEq, Repr

/-- `-EINVAL` -/
def EINVAL : Int := -22

namespace Common

/-- `rsi_channel_change`; the interface comes with its `bss_conf.assoc`. -/
def channelChange (c : Common) (ch : ChannelChange) : Int × Common :=
  match ch.vif with
  | none => (EINVAL, c)
  | some (type, assoc) =>
    let configured := ch.bandStatus = 0 ∧ ch.channelStatus = 0
    -- an access point does not block its queues
    if type = .ap ∨ type = .p2pGo then (if configured then 0 else EINVAL, c)
    else
      let c := { c with mac80211CurChannel := ch.channel }
      if assoc && c.bgscanEn then (0, c)
      else
        -- leaving the connected channel blocks, whether or not the channel can be set
        let c :=
          if assoc = true ∧ c.hwDataQsBlocked = false ∧ ch.connectedChannel ≠ ch.channel then
            c.blockQueues true ch.allocBlock
          else c
        if ¬ configured then (EINVAL, c)
        else if assoc = true ∧ c.hwDataQsBlocked = true ∧ ch.connectedChannel = ch.channel then
          (0, c.blockQueues false ch.allocUnblock)
        else (0, c)

end Common

/-- The key is a WEP key. -/
def isWep (key : KeyConf) : Bool := key.cipher == .wep40 || key.cipher == .wep104

namespace Common

/-- `rsi_hal_key_config`, for an installation as for a deletion. A WEP key of a station is loaded
twice: `pairwiseStatus` and `status` are what the two calls of `rsi_load_key` return. The key bytes
are an array in the key and never `NULL`. -/
def halKeyConfig (c : Common) (type : IfType) (key : KeyConf) (pairwiseStatus status : Int)
    (alloc : Bool) : Int × Common :=
  if type ≠ .ap ∧ type ≠ .p2pGo ∧ isWep key = true ∧ pairwiseStatus ≠ 0 then (pairwiseStatus, c)
  else if type = .station ∧ isWep key = true then
    (status, { c with startBgscan := true }.blockQueues false alloc)
  else (status, c)

/-- The `EAPOL4_CONFIRM` branch of `rsi_mgmt_pkt_recv`; `vif` is the type of `vifs[0]`, `none` is
a `NULL` dereference. -/
def eapol4ConfirmRecv (c : Common) (vif : Option IfType) (status : BitVec 8) (alloc : Bool) :
    Option Common :=
  if status = 0 then some c
  else
    match vif with
    | none => none
    | some type =>
      if type = .station then
        some ({ c with startBgscan := true, eapol4Confirm := true }.blockQueues false alloc)
      else some c

end Common

/-! ## Runs -/

/-- The driver in a run, with the history of its associations. -/
structure BlockSys where
  common : Common
  /-- The number of associations of the station so far. -/
  assocs : ℕ
  /-- The latest association is to a BSS with privacy, and nothing has authenticated it. -/
  awaiting : Bool

/-- The calls of a run. `assoc` is the association a confirm or a key belongs to; `install` says
whether the key is installed or deleted. -/
inductive BlockAct
  | informBssStatus (opmode : Opmode) (status : BitVec 8) (assocCap : BitVec 16)
      (alloc : MgmtFrame → Bool)
  | channelChange (ch : ChannelChange)
  | halKeyConfig (type : IfType) (key : KeyConf) (pairwiseStatus status : Int) (alloc : Bool)
      (install : Bool) (assoc : ℕ)
  | eapol4Confirm (vif : Option IfType) (status : BitVec 8) (alloc : Bool) (assoc : ℕ)

namespace BlockSys

/-- One call. -/
def step (s : BlockSys) : BlockAct → Option BlockSys
  | .informBssStatus opmode status assocCap alloc =>
    let common := s.common.informBssStatus opmode status assocCap alloc
    if opmode = .sta ∧ status ≠ 0 then some ⟨common, s.assocs + 1, assocCap.getLsbD 4⟩
    else some { s with common }
  | .channelChange ch => some { s with common := (s.common.channelChange ch).2 }
  | .halKeyConfig type key pairwiseStatus status alloc install assoc =>
    let r := s.common.halKeyConfig type key pairwiseStatus status alloc
    let installed := install && isWep key && type == .station && r.1 == 0 && assoc == s.assocs
    some { s with common := r.2, awaiting := s.awaiting && !installed }
  | .eapol4Confirm vif status alloc assoc =>
    (s.common.eapol4ConfirmRecv vif status alloc).map fun common =>
      { s with common, awaiting := s.awaiting && !(status != 0 && assoc == s.assocs) }

/-- No frame has been queued, and there has been no association. -/
structure Init (s : BlockSys) : Prop where
  queued : s.common.queued = []
  assocs : s.assocs = 0
  awaiting : s.awaiting = false

/-- The runs of the calls that block and unblock. -/
def system : TransitionSystem BlockSys BlockAct := ⟨Init, step⟩

end BlockSys

/-- The latest `BLOCK_HW_QUEUE` frame: whether it blocks. -/
def lastBlock (queued : List MgmtFrame) : Option Bool :=
  (queued.filterMap fun | .blockHwQueue block => some block | _ => none).getLast?

/-- Host and device do not disagree in the permissive direction. -/
def DeviceAgrees (c : Common) : Prop :=
  c.hwDataQsBlocked = false → lastBlock c.queued ≠ some true

/-- No data before authentication. -/
structure DataBlocked (s : BlockSys) : Prop where
  blocked : s.awaiting = true → s.common.hwDataQsBlocked = true
  device : DeviceAgrees s.common

namespace BlockSys

/-! ## Data before authentication -/

/-- The driver before the first association. -/
def start : BlockSys where
  common := ⟨false, false, false, 0xffff, 0, false, []⟩
  assocs := 0
  awaiting := false

theorem init_start : Init start := ⟨rfl, rfl, rfl⟩

/-- A change to channel 6, the channel of the BSS. -/
def toConnectedChannel : ChannelChange := ⟨some (.station, true), 6, 6, 0, 0, true, true⟩

/-- The station associates to a BSS with privacy and is told to tune to its channel. -/
def retunedSchedule : List BlockAct :=
  [.informBssStatus .sta 1 0x0011 fun _ => true, .channelChange toConnectedChannel]

/-- The queues are unblocked before the handshake is over. -/
theorem not_dataBlocked : ¬ ∀ s, system.Reachable s → DataBlocked s := by
  refine TransitionSystem.not_forall_reachable_of_run retunedSchedule init_start rfl fun h => ?_
  exact absurd (h.blocked rfl) (by decide)

end BlockSys

/-! ## Host and device -/

section Lemmas

variable {c : Common}

theorem lastBlock_concat_block (queued : List MgmtFrame) (block : Bool) :
    lastBlock (queued ++ [.blockHwQueue block]) = some block := by
  simp [lastBlock]

theorem lastBlock_concat_of_ne (queued : List MgmtFrame) {frame : MgmtFrame}
    (h : ∀ block, frame ≠ .blockHwQueue block) :
    lastBlock (queued ++ [frame]) = lastBlock queued := by
  cases frame with
  | blockHwQueue block => exact absurd rfl (h block)
  | staNotify | autoRateRequest | radioCaps => simp [lastBlock]

@[simp]
theorem Common.send_hwDataQsBlocked (c : Common) (frame : MgmtFrame) (alloc : Bool) :
    (c.send frame alloc).hwDataQsBlocked = c.hwDataQsBlocked := by
  cases alloc <;> rfl

@[simp]
theorem Common.blockQueues_hwDataQsBlocked (c : Common) (block alloc : Bool) :
    (c.blockQueues block alloc).hwDataQsBlocked = if alloc then block else c.hwDataQsBlocked := by
  cases alloc <;> rfl

theorem deviceAgrees_of_blocked (h : c.hwDataQsBlocked = true) : DeviceAgrees c :=
  fun hfalse => absurd (h.symm.trans hfalse) (by decide)

theorem DeviceAgrees.send (h : DeviceAgrees c) (frame : MgmtFrame)
    (hframe : ∀ block, frame ≠ .blockHwQueue block) (alloc : Bool) :
    DeviceAgrees (c.send frame alloc) := by
  cases alloc with
  | false => exact h
  | true =>
    intro hfalse
    show lastBlock (c.queued ++ [frame]) ≠ some true
    rw [lastBlock_concat_of_ne _ hframe]
    exact h hfalse

/-- The frame and the flag change together, or not at all. -/
theorem DeviceAgrees.blockQueues (h : DeviceAgrees c) (block alloc : Bool) :
    DeviceAgrees (c.blockQueues block alloc) := by
  cases alloc with
  | false => exact h
  | true =>
    intro hfalse
    show lastBlock (c.queued ++ [.blockHwQueue block]) ≠ some true
    rw [lastBlock_concat_block]
    have hblock : block = false := hfalse
    simp [hblock]

theorem Common.notifyConnected_hwDataQsBlocked (c : Common) (opmode : Opmode)
    (alloc : MgmtFrame → Bool) :
    (c.notifyConnected opmode alloc).hwDataQsBlocked = c.hwDataQsBlocked := by
  unfold notifyConnected
  dsimp only
  split_ifs <;> simp

theorem DeviceAgrees.notifyConnected (h : DeviceAgrees c) (opmode : Opmode)
    (alloc : MgmtFrame → Bool) : DeviceAgrees (c.notifyConnected opmode alloc) := by
  have hnotify := h.send (.staNotify opmode true) (by simp) (alloc (.staNotify opmode true))
  unfold Common.notifyConnected
  dsimp only
  split_ifs
  · exact hnotify.send .autoRateRequest (by simp) _
  · exact hnotify

theorem DeviceAgrees.informConnected (h : DeviceAgrees c) (opmode : Opmode) (assocCap : BitVec 16)
    (alloc : MgmtFrame → Bool) : DeviceAgrees (c.informConnected opmode assocCap alloc) := by
  have hnotify := h.notifyConnected opmode alloc
  have hcaps := hnotify.send .radioCaps (by simp) (alloc .radioCaps)
  unfold Common.informConnected
  dsimp only
  split_ifs
  · exact hcaps
  · exact hcaps.blockQueues _ _
  · exact hnotify.blockQueues _ _
  · exact hnotify

/-- A frame that blocks goes out only while the flag is set. -/
theorem DeviceAgrees.informDisconnected (h : DeviceAgrees c) {opmode : Opmode}
    (hflag : opmode = .sta → c.hwDataQsBlocked = true) (alloc : MgmtFrame → Bool) :
    DeviceAgrees (c.informDisconnected opmode alloc) := by
  unfold Common.informDisconnected
  dsimp only
  split_ifs with hsta
  · exact deviceAgrees_of_blocked (by simp [hflag hsta])
  · exact h.send (.staNotify opmode false) (by simp) _

theorem DeviceAgrees.informBssStatus (h : DeviceAgrees c) (opmode : Opmode) (status : BitVec 8)
    (assocCap : BitVec 16) (alloc : MgmtFrame → Bool) :
    DeviceAgrees (c.informBssStatus opmode status assocCap alloc) := by
  unfold Common.informBssStatus
  by_cases hsta : opmode = .sta
  · -- the flag is set before any frame goes out
    have hset : DeviceAgrees { c with hwDataQsBlocked := true } := deviceAgrees_of_blocked rfl
    simp only [if_pos hsta]
    split_ifs
    · exact hset.informConnected opmode assocCap alloc
    · exact hset.informDisconnected (fun _ => rfl) alloc
  · simp only [if_neg hsta]
    split_ifs
    · exact h.informConnected opmode assocCap alloc
    · exact h.informDisconnected (fun h => absurd h hsta) alloc

theorem DeviceAgrees.channelChange (h : DeviceAgrees c) (ch : ChannelChange) :
    DeviceAgrees (c.channelChange ch).2 := by
  unfold Common.channelChange
  split
  · exact h
  · next type assoc _ =>
    -- each of the two frames that may go out comes with its flag
    have htuned : DeviceAgrees { c with mac80211CurChannel := ch.channel } := h
    generalize ({ c with mac80211CurChannel := ch.channel } : Common) = d at htuned
    dsimp only
    have hleft : DeviceAgrees (if assoc = true ∧ d.hwDataQsBlocked = false ∧
        ch.connectedChannel ≠ ch.channel then d.blockQueues true ch.allocBlock else d) := by
      split_ifs
      · exact htuned.blockQueues _ _
      · exact htuned
    generalize (if assoc = true ∧ d.hwDataQsBlocked = false ∧ ch.connectedChannel ≠ ch.channel then
      d.blockQueues true ch.allocBlock else d) = e at hleft
    by_cases hap : type = .ap ∨ type = .p2pGo
    · rw [if_pos hap]
      exact h
    rw [if_neg hap]
    split_ifs
    · exact htuned
    · exact hleft.blockQueues _ _
    · exact hleft
    · exact hleft

theorem DeviceAgrees.halKeyConfig (h : DeviceAgrees c) (type : IfType) (key : KeyConf)
    (pairwiseStatus status : Int) (alloc : Bool) :
    DeviceAgrees (c.halKeyConfig type key pairwiseStatus status alloc).2 := by
  unfold Common.halKeyConfig
  split_ifs
  · exact h
  · exact DeviceAgrees.blockQueues (c := { c with startBgscan := true }) h _ _
  · exact h

theorem DeviceAgrees.eapol4ConfirmRecv (h : DeviceAgrees c) {vif : Option IfType}
    {status : BitVec 8} {alloc : Bool} {c' : Common}
    (heq : c.eapol4ConfirmRecv vif status alloc = some c') : DeviceAgrees c' := by
  unfold Common.eapol4ConfirmRecv at heq
  split_ifs at heq
  · obtain rfl := Option.some.inj heq
    exact h
  · split at heq
    · cases heq
    · split_ifs at heq <;> obtain rfl := Option.some.inj heq
      · exact DeviceAgrees.blockQueues
          (c := { c with startBgscan := true, eapol4Confirm := true }) h _ _
      · exact h

end Lemmas

namespace BlockSys

/-- Every call keeps host and device in agreement. -/
theorem deviceAgrees_step {s s' : BlockSys} {act : BlockAct} (h : DeviceAgrees s.common)
    (hstep : s.step act = some s') : DeviceAgrees s'.common := by
  cases act with
  | informBssStatus opmode status assocCap alloc =>
    have hinform := h.informBssStatus opmode status assocCap alloc
    unfold step at hstep
    dsimp only at hstep
    split_ifs at hstep <;> obtain rfl := Option.some.inj hstep <;> exact hinform
  | channelChange ch =>
    obtain rfl := Option.some.inj hstep
    exact h.channelChange ch
  | halKeyConfig type key pairwiseStatus status alloc install assoc =>
    obtain rfl := Option.some.inj hstep
    exact h.halKeyConfig type key pairwiseStatus status alloc
  | eapol4Confirm vif status alloc assoc =>
    obtain ⟨common, hrecv, rfl⟩ := Option.map_eq_some_iff.1 hstep
    exact h.eapol4ConfirmRecv hrecv

/-- In every run, while the host does not block, the last frame did not tell the device to. -/
theorem deviceAgrees {s : BlockSys} (h : system.Reachable s) : DeviceAgrees s.common := by
  refine h.invariant (fun s => DeviceAgrees s.common) (fun s hinit _ => ?_)
    fun _ _ _ hinv _ => deviceAgrees_step hinv
  simp [hinit.queued, lastBlock]

/-! ## Disciplined runs -/

end BlockSys

/-- The change ends on the channel of the connected BSS and can unblock the queues. -/
def ChannelChange.returns (ch : ChannelChange) (bgscanEn : Bool) : Bool :=
  ch.vif.any (fun (type, assoc) => type != .ap && type != .p2pGo && assoc) && !bgscanEn &&
    ch.bandStatus == 0 && ch.channelStatus == 0 && ch.connectedChannel == ch.channel &&
    ch.allocUnblock

namespace BlockSys

/-- A call that does not unblock the queues of a station that nothing has authenticated: no station
joins an access point, the channel of the BSS is not set, a WEP key that is configured is one of
this association, and is installed, and so is a confirm one of this association. -/
def stepOk (s : BlockSys) (act : BlockAct) : Bool :=
  !s.awaiting ||
    match act with
    | .informBssStatus opmode status _ alloc =>
      !(opmode == .ap && status != 0 && alloc (.blockHwQueue false))
    | .channelChange ch => !ch.returns s.common.bgscanEn
    | .halKeyConfig type key pairwiseStatus status alloc install assoc =>
      !(type == .station && isWep key && pairwiseStatus == 0 && alloc) ||
        install && status == 0 && assoc == s.assocs
    | .eapol4Confirm vif status alloc assoc =>
      !(vif == some .station && status != 0 && alloc) || assoc == s.assocs

/-- The discipline of the runs that send no data before authentication. -/
def BlockDiscipline (s : BlockSys) (act : BlockAct) : Prop := s.stepOk act = true

instance (s : BlockSys) (act : BlockAct) : Decidable (BlockDiscipline s act) :=
  inferInstanceAs (Decidable (s.stepOk act = true))

variable {s s' : BlockSys}

/-- After a station's call the queues are blocked, unless it joined an open BSS. -/
theorem informBssStatus_sta (c : Common) (status : BitVec 8) {assocCap : BitVec 16}
    (alloc : MgmtFrame → Bool) (h : status ≠ 0 → assocCap.getLsbD 4 = true) :
    (c.informBssStatus .sta status assocCap alloc).hwDataQsBlocked = true := by
  unfold Common.informBssStatus
  by_cases hstatus : status = 0
  · simp [hstatus, Common.informDisconnected]
  · rw [if_pos hstatus]
    simp [Common.informConnected, h hstatus, Common.notifyConnected_hwDataQsBlocked]

/-- Only a station that joins an access point unblocks in another mode. -/
theorem informBssStatus_of_ne {opmode : Opmode} (hsta : opmode ≠ .sta) (c : Common)
    {status : BitVec 8} {assocCap : BitVec 16} {alloc : MgmtFrame → Bool}
    (h : ¬ (opmode = .ap ∧ status ≠ 0 ∧ alloc (.blockHwQueue false) = true)) :
    (c.informBssStatus opmode status assocCap alloc).hwDataQsBlocked = c.hwDataQsBlocked := by
  unfold Common.informBssStatus
  rw [if_neg hsta]
  by_cases hstatus : status = 0
  · simp [hstatus, Common.informDisconnected, hsta]
  · rw [if_pos hstatus]
    unfold Common.informConnected
    dsimp only
    rw [if_neg hsta]
    split_ifs with hap
    · -- a station joined the access point, but there was no memory for the frame
      have halloc : alloc (.blockHwQueue false) = false :=
        Bool.not_eq_true _ ▸ fun halloc => h ⟨hap.1, hstatus, halloc⟩
      simp [halloc, Common.notifyConnected_hwDataQsBlocked]
    · exact Common.notifyConnected_hwDataQsBlocked ..

/-- A channel change leaves blocked queues alone, unless it returns to the channel of the BSS. -/
theorem channelChange_blocked {c : Common} (h : c.hwDataQsBlocked = true) {ch : ChannelChange}
    (hch : ch.returns c.bgscanEn = false) : (c.channelChange ch).2.hwDataQsBlocked = true := by
  unfold Common.channelChange
  split
  · exact h
  · next type assoc hvif =>
    by_cases hap : type = .ap ∨ type = .p2pGo
    · simp only [if_pos hap]
      exact h
    · simp only [if_neg hap, h, Bool.true_eq_false, false_and, and_false, if_false]
      split_ifs with hbgscan hreturn
      · rfl
      · -- the change returns, so there was no memory for the frame that unblocks
        obtain ⟨htype, htype'⟩ := not_or.1 hap
        have halloc : ch.allocUnblock = false := by
          simp only [ChannelChange.returns, hvif] at hch
          simp_all
        simp [halloc]
      · rfl
      · rfl

/-- Unless the first load of a WEP key fails, the second one decides. -/
theorem halKeyConfig_status (c : Common) (type : IfType) (key : KeyConf) (status : Int)
    (alloc : Bool) : (c.halKeyConfig type key 0 status alloc).1 = status := by
  unfold Common.halKeyConfig
  rw [if_neg (fun h => h.2.2.2 rfl)]
  split_ifs <;> rfl

/-- A WEP key is configured without an effect on the flag, or the association is authenticated. -/
theorem halKeyConfig_blocked {c : Common} (h : c.hwDataQsBlocked = true) {type : IfType}
    {key : KeyConf} {pairwiseStatus status : Int} {alloc : Bool}
    (hkey : (type == .station && isWep key && pairwiseStatus == 0 && alloc) = false) :
    (c.halKeyConfig type key pairwiseStatus status alloc).2.hwDataQsBlocked = true := by
  unfold Common.halKeyConfig
  split_ifs with hfailed hwep
  · exact h
  · -- the key was loaded, so there was no memory for the frame that unblocks
    obtain ⟨rfl, hwep⟩ := hwep
    have hloaded : pairwiseStatus = 0 := by
      by_contra hne
      exact hfailed ⟨by decide, by decide, hwep, hne⟩
    have halloc : alloc = false := by simpa [hwep, hloaded] using hkey
    simpa [halloc] using h
  · exact h

theorem eapol4ConfirmRecv_blocked {c c' : Common} (h : c.hwDataQsBlocked = true)
    {vif : Option IfType} {status : BitVec 8} {alloc : Bool}
    (hconfirm : (vif == some .station && status != 0 && alloc) = false)
    (heq : c.eapol4ConfirmRecv vif status alloc = some c') : c'.hwDataQsBlocked = true := by
  unfold Common.eapol4ConfirmRecv at heq
  split_ifs at heq with hstatus
  · obtain rfl := Option.some.inj heq
    exact h
  · split at heq
    · cases heq
    · split_ifs at heq with htype <;> obtain rfl := Option.some.inj heq
      · have halloc : alloc = false := by
          have hne : (status != 0) = true := bne_iff_ne.2 hstatus
          rw [htype, hne] at hconfirm
          simpa using hconfirm
        simpa [halloc] using h
      · exact h

/-- A call that keeps the discipline keeps the queues of an unauthenticated station blocked. -/
theorem blocked_step {act : BlockAct} (h : s.awaiting = true → s.common.hwDataQsBlocked = true)
    (hdisc : BlockDiscipline s act) (hstep : s.step act = some s') :
    s'.awaiting = true → s'.common.hwDataQsBlocked = true := by
  intro hawaiting
  unfold BlockDiscipline stepOk at hdisc
  cases act with
  | informBssStatus opmode status assocCap alloc =>
    unfold step at hstep
    dsimp only at hstep hdisc
    by_cases hassoc : opmode = .sta ∧ status ≠ 0
    · obtain ⟨rfl, hstatus⟩ := hassoc
      rw [if_pos ⟨rfl, hstatus⟩] at hstep
      obtain rfl := Option.some.inj hstep
      exact informBssStatus_sta s.common status alloc fun _ => hawaiting
    · rw [if_neg hassoc] at hstep
      obtain rfl := Option.some.inj hstep
      by_cases hsta : opmode = .sta
      · subst hsta
        exact informBssStatus_sta s.common status alloc fun hstatus => absurd ⟨rfl, hstatus⟩ hassoc
      · have hjoin : ¬ (opmode = .ap ∧ status ≠ 0 ∧ alloc (.blockHwQueue false) = true) := by
          rintro ⟨rfl, hstatus, halloc⟩
          have hne : (status != 0) = true := bne_iff_ne.2 hstatus
          have hawait : s.awaiting = true := hawaiting
          rw [hawait, hne, halloc] at hdisc
          cases hdisc
        exact (informBssStatus_of_ne hsta s.common hjoin).trans (h hawaiting)
  | channelChange ch =>
    obtain rfl := Option.some.inj hstep
    have hawait : s.awaiting = true := hawaiting
    rw [hawait] at hdisc
    exact channelChange_blocked (h hawait) (by simpa using hdisc)
  | halKeyConfig type key pairwiseStatus status alloc install assoc =>
    unfold step at hstep
    obtain rfl := Option.some.inj hstep
    dsimp only at hawaiting hdisc
    obtain ⟨hawait, hinstalled⟩ := Bool.and_eq_true_iff.1 hawaiting
    rw [hawait] at hdisc
    refine halKeyConfig_blocked (h hawait) ?_
    -- a successful installation would have ended the wait
    by_contra hkey
    rw [Bool.not_eq_false] at hkey
    simp only [hkey, Bool.not_true, Bool.false_or] at hdisc
    simp only [Bool.and_eq_true, beq_iff_eq] at hkey hdisc
    obtain ⟨⟨⟨rfl, hwep⟩, rfl⟩, -⟩ := hkey
    obtain ⟨⟨rfl, rfl⟩, rfl⟩ := hdisc
    have hresult := halKeyConfig_status s.common .station key 0 alloc
    simp [hwep, hresult] at hinstalled
  | eapol4Confirm vif status alloc assoc =>
    obtain ⟨common, hrecv, rfl⟩ := Option.map_eq_some_iff.1 hstep
    dsimp only at hawaiting hdisc
    obtain ⟨hawait, hconfirmed⟩ := Bool.and_eq_true_iff.1 hawaiting
    rw [hawait] at hdisc
    refine eapol4ConfirmRecv_blocked (h hawait) ?_ hrecv
    -- a confirm of this association would have ended the wait
    by_contra hconfirm
    rw [Bool.not_eq_false] at hconfirm
    simp only [hconfirm, Bool.not_true, Bool.false_or] at hdisc
    simp only [Bool.and_eq_true] at hconfirm
    rw [hconfirm.1.2, hdisc] at hconfirmed
    cases hconfirmed

/-- In every run that keeps the discipline, the queues are blocked until the station is
authenticated. -/
theorem dataBlocked_of_discipline (h : system.ReachableVia BlockDiscipline s) : DataBlocked s where
  blocked := by
    refine h.invariant (fun s => s.awaiting = true → s.common.hwDataQsBlocked = true)
      (fun s hinit hawaiting => ?_) fun _ _ _ => blocked_step
    simp [hinit.awaiting] at hawaiting
  device := deviceAgrees h.reachable

/-- The station associates to a BSS with privacy, scans on another channel, and a confirm of its
association comes. -/
def confirmedSchedule : List BlockAct :=
  [.informBssStatus .sta 1 0x0011 fun _ => true,
    .channelChange ⟨some (.station, true), 11, 6, 0, 0, true, true⟩,
    .eapol4Confirm (some .station) 1 true 1, .channelChange toConnectedChannel]

/-- The state at the end of `confirmedSchedule`. -/
def confirmedState : BlockSys := (system.runVia BlockDiscipline start confirmedSchedule).get rfl

/-- The queues are unblocked after the confirm. -/
theorem dataBlocked_confirmedState :
    confirmedState.common.hwDataQsBlocked = false ∧ DataBlocked confirmedState :=
  ⟨rfl, dataBlocked_of_discipline (TransitionSystem.reachableVia_get init_start rfl)⟩

end BlockSys

end Connection
