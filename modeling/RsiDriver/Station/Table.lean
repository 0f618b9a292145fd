import Mathlib.Data.List.Find
import RsiDriver.ToMathlib.SlotTable
import RsiDriver.ToMathlib.TransitionSystem
import RsiDriver.Tx.SkBuff

/-!
# The station table

`common->stations` holds the stations that joined the access point, and in a slot of its own the
peer of the station interface. `staAdd` and `staRemove` are `rsi_mac80211_sta_add` and
`rsi_mac80211_sta_remove` (`rsi_91x_mac80211.c`), as far as they touch the table and
`num_stations`; what they send, and the rates and capabilities they set, is left out.

Two paths lose track of the slots. `rsi_mac80211_add_interface` empties them when an access point
starts, without resetting `num_stations`, so the count stays too high and stations are refused
while slots are free. In the build with `CONFIG_STA_PLUS_AP` the slots start at 1, but
`num_stations` is compared with `max_stations`: one station more than there are slots is
accepted, and is put behind the last slot.

## Main results

* `not_tableOk`: an access point starts while a station is in the table, and the count is wrong;
* `tableOk_of_discipline`: the table is right in the runs in which an access point starts with an
  empty table and no new station joins a full one.
-/

namespace Station

open Tx (MacAddr IfType)
open SlotTable

/-- The builds that differ in the layout of the table. -/
inductive Build
  | standard
  /-- `CONFIG_STA_PLUS_AP` -/
  | staPlusAp
  deriving DecidableEq, Repr

/-- The first slot of a station that joined the access point. -/
def Build.firstSlot : Build → ℕ
  | .standard => 0
  | .staPlusAp => 1

/-- The slot of the peer of the station interface: `RSI_MAX_ASSOC_STAS`, or `STA_PEER`. -/
def Build.staPeer : Build → ℕ
  | .standard => 32
  | .staPlusAp => 0

/-- `rsi_max_ap_stas`, the possible values of `max_stations`. -/
def rsiMaxApStas : List ℕ := [32, 32, 32, 0, 4, 32, 0, 0, 4, 32, 0, 0, 1, 4, 0, 0]

/-- The interface types that have stations in the slots of the access point. -/
def isApType : IfType → Bool
  | .ap | .p2pGo => true
  | .station | .p2pClient | .other => false

/-- `struct ieee80211_sta` -/
structure Sta where
  addr : MacAddr
  aid : BitVec 16
  wme : Bool
  deriving DecidableEq, Repr

/-- `struct rsi_sta`; the arrays are indexed by access category and by TID. -/
structure RsiSta where
  sta : Option Sta
  staId : ℤ
  seqNo : Fin 4 → BitVec 16
  seqStart : Fin 4 → BitVec 16
  startTxAggr : Fin 16 → Bool

/-- The table of `struct rsi_common`. -/
structure Table where
  build : Build
  maxStations : ℕ
  /-- An index past the end of the array stands for the memory that follows it. -/
  stations : ℕ → RsiSta
  numStations : ℕ

/-- `-EOPNOTSUPP` -/
def EOPNOTSUPP : ℤ := -95

namespace Table

/-- The entry of a slot. -/
def entry (t : Table) (i : ℕ) : Option Sta := (t.stations i).sta

/-- The slots that the loops over the stations of the access point visit, in order. -/
def apSlots (t : Table) : List ℕ :=
  List.range' t.build.firstSlot (t.maxStations - t.build.firstSlot)

/-- Overwrite one slot. -/
def setSlot (t : Table) (i : ℕ) (r : RsiSta) : Table :=
  { t with stations := Function.update t.stations i r }

/-- The slot of the station with the address of `sta`. -/
def existing (t : Table) (addr : MacAddr) : Option ℕ := findKey t.apSlots t.entry Sta.addr addr

/-- `free_index` after the whole loop; without a free slot `i` has run to `max_stations`. -/
def freeIndex (t : Table) : ℕ := (t.apSlots.find? fun i => (t.entry i).isNone).getD t.maxStations

/-- What an access point writes into the slot of a station that joins. -/
def joined (r : RsiSta) (i : ℕ) (sta : Sta) : RsiSta :=
  { r with
    sta := some sta
    staId := i
    seqNo := fun _ => 1
    startTxAggr := fun _ => false }

/-- The access-point half of `rsi_mac80211_sta_add`. -/
def apAdd (t : Table) (sta : Sta) : ℤ × Table :=
  if t.maxStations ≤ t.numStations then (EOPNOTSUPP, t)
  else match t.existing sta.addr with
    | some i => (0, t.setSlot i (joined (t.stations i) i sta))
    | none =>
      let i := t.freeIndex
      (0, { t.setSlot i (joined (t.stations i) i sta) with numStations := t.numStations + 1 })

/-- The station half of `rsi_mac80211_sta_add`. -/
def staPeerAdd (t : Table) (sta : Sta) : Table :=
  let peer := t.build.staPeer
  t.setSlot peer
    { t.stations peer with
      sta := some sta
      staId := 0
      startTxAggr := fun _ => false
      seqStart := fun _ => 0 }

/-- `rsi_mac80211_sta_add` and its return code. -/
def staAdd (t : Table) (type : IfType) (sta : Sta) : ℤ × Table :=
  match type with
  | .ap | .p2pGo => t.apAdd sta
  | .station => (0, t.staPeerAdd sta)
  | .p2pClient | .other => (0, t)

/-- The access-point half of `rsi_mac80211_sta_remove`. -/
def apRemove (t : Table) (addr : MacAddr) : Table :=
  match t.existing addr with
  | none => t
  | some i =>
    { t.setSlot i { t.stations i with sta := none, staId := -1, seqNo := fun _ => 0 } with
      numStations := if 0 < t.numStations then t.numStations - 1 else t.numStations }

/-- The station half of `rsi_mac80211_sta_remove`. -/
def staPeerRemove (t : Table) : Table :=
  let peer := t.build.staPeer
  match t.entry peer with
  | none => t
  | some _ =>
    t.setSlot peer
      { t.stations peer with sta := none, staId := -1, startTxAggr := fun _ => false }

/-- `rsi_mac80211_sta_remove` -/
def staRemove (t : Table) (type : IfType) (addr : MacAddr) : Table :=
  match type with
  | .ap | .p2pGo => t.apRemove addr
  | .station => t.staPeerRemove
  | .p2pClient | .other => t

/-- The last paragraph of `rsi_mac80211_add_interface`: an access point empties its slots. -/
def addInterface (t : Table) (type : IfType) : Table :=
  match type with
  | .ap | .p2pGo =>
    { t with
      stations := fun i =>
        if i ∈ t.apSlots then { t.stations i with sta := none } else t.stations i }
  | .station | .p2pClient | .other => t

/-- `rsi_find_sta`: for the broadcast address, the first station there is. -/
def findSta (t : Table) (addr : MacAddr) : Option ℕ :=
  t.apSlots.find? fun i => (t.entry i).any fun sta => addr.isBroadcast || sta.addr == addr

end Table

/-! ## Runs -/

/-- The table and the addresses that were added to the access point and not removed since. -/
structure TableSys where
  table : Table
  members : List MacAddr

/-- Calls of mac80211. An interface is added as far as its last paragraph when `reached` holds. -/
inductive TableAct
  | staAdd (type : IfType) (sta : Sta)
  | staRemove (type : IfType) (addr : MacAddr)
  | addInterface (type : IfType) (reached : Bool)
  deriving DecidableEq

namespace TableSys

/-- One call. -/
def step (s : TableSys) : TableAct → Option TableSys
  | .staAdd type sta =>
    let (status, table) := s.table.staAdd type sta
    some ⟨table, if isApType type && status == 0 then s.members.insert sta.addr else s.members⟩
  | .staRemove type addr =>
    some ⟨s.table.staRemove type addr, if isApType type then s.members.erase addr else s.members⟩
  | .addInterface type reached =>
    some ⟨if reached then s.table.addInterface type else s.table, s.members⟩

/-- Runs start with an empty table. -/
def system : TransitionSystem TableSys TableAct where
  Init s := s.table.maxStations ∈ rsiMaxApStas ∧ (∀ i, s.table.entry i = none) ∧
    s.table.numStations = 0 ∧ s.members = []
  step := step

end TableSys

/-- The table is right, and so are the answers of the calls made on it. -/
structure TableOk (s : TableSys) : Prop where
  count : s.table.numStations = occupied s.table.apSlots s.table.entry
  distinct : DistinctKeys s.table.apSlots s.table.entry Sta.addr
  placed : ∀ i, i ≠ s.table.build.staPeer → s.table.entry i ≠ none →
    s.table.build.firstSlot ≤ i ∧ i < s.table.maxStations ∧ (s.table.stations i).staId = i
  reserved : s.table.build.staPeer ∉ s.table.apSlots
  /-- A unicast address is found exactly while it is a member, in the slot that holds it. -/
  found : ∀ addr, addr.isBroadcast = false → ∀ i,
    s.table.findSta addr = some i ↔
      addr ∈ s.members ∧ i ∈ s.table.apSlots ∧ ∃ sta ∈ s.table.entry i, sta.addr = addr
  member : ∀ addr ∈ s.members, ∃ i ∈ s.table.apSlots, ∃ sta ∈ s.table.entry i, sta.addr = addr
  refused : ∀ type sta, (s.table.staAdd type sta).1 ≠ 0 →
    (∀ i ∈ s.table.apSlots, s.table.entry i ≠ none) ∧ (s.table.staAdd type sta).2 = s.table
  unmatched : ∀ type addr, isApType type = true →
    (∀ i ∈ s.table.apSlots, ∀ sta ∈ s.table.entry i, sta.addr ≠ addr) →
      s.table.staRemove type addr = s.table
  unmatchedPeer : ∀ addr, s.table.entry s.table.build.staPeer = none →
    s.table.staRemove .station addr = s.table

/-- The condition on each step: an access point starts with an empty table, and a new station that
is not refused finds a free slot. -/
def TableDiscipline (s : TableSys) : TableAct → Prop
  | .addInterface type reached => reached = true → isApType type = true →
      ∀ i ∈ s.table.apSlots, s.table.entry i = none
  | .staAdd type sta => isApType type = true → s.table.numStations < s.table.maxStations →
      s.table.existing sta.addr = none → ∃ i ∈ s.table.apSlots, s.table.entry i = none
  | .staRemove _ _ => True

instance (s : TableSys) (a : TableAct) : Decidable (TableDiscipline s a) :=
  match a with
  | .addInterface _ _ =>
    inferInstanceAs (Decidable (_ = _ → _ = _ → ∀ i ∈ s.table.apSlots, s.table.entry i = none))
  | .staAdd _ sta =>
    inferInstanceAs (Decidable (_ = _ → _ < _ → s.table.existing sta.addr = none →
      ∃ i ∈ s.table.apSlots, s.table.entry i = none))
  | .staRemove _ _ => inferInstanceAs (Decidable True)

/-! ## The stations that are still counted -/

/-- A driver for one station beside Bluetooth: a single slot. -/
def TableSys.start : TableSys where
  table := ⟨.standard, 1, fun _ => ⟨none, 0, fun _ => 0, fun _ => 0, fun _ => false⟩, 0⟩
  members := []

theorem TableSys.init_start : TableSys.system.Init .start :=
  ⟨by decide, fun _ => rfl, rfl, rfl⟩

/-- A station joins, and the access point is started again. -/
def restartSchedule : List TableAct :=
  [.staAdd .ap ⟨0x020000000002, 1, true⟩, .addInterface .ap true]

/-- The driver counts a station in an empty table. -/
theorem not_tableOk : ¬ ∀ s, TableSys.system.Reachable s → TableOk s := by
  refine TransitionSystem.not_forall_reachable_of_run restartSchedule TableSys.init_start rfl
    fun hok => ?_
  have hcount := hok.count
  exact absurd hcount (by decide)

/-! ## The operations on the slots -/

namespace Table

/-- `t'` is `t` with one slot overwritten, whatever became of the count. -/
structure SlotSet (t t' : Table) (i : ℕ) (r : RsiSta) : Prop where
  build : t'.build = t.build
  maxStations : t'.maxStations = t.maxStations
  stations : t'.stations = Function.update t.stations i r

namespace SlotSet

variable {t t' : Table} {i j : ℕ} {r : RsiSta} (h : SlotSet t t' i r)

include h

theorem apSlots : t'.apSlots = t.apSlots := by
  rw [Table.apSlots, h.build, h.maxStations, Table.apSlots]

theorem entry : t'.entry = Function.update t.entry i r.sta := by
  funext k
  rw [Table.entry, h.stations]
  exact congrFun (Function.comp_update RsiSta.sta t.stations i r) k

theorem staId_self : (t'.stations i).staId = r.staId := by rw [h.stations, Function.update_self]

theorem staId_of_ne (hji : j ≠ i) : (t'.stations j).staId = (t.stations j).staId := by
  rw [h.stations, Function.update_of_ne hji]

end SlotSet

theorem mem_apSlots {t : Table} {i : ℕ} :
    i ∈ t.apSlots ↔ t.build.firstSlot ≤ i ∧ i < t.maxStations := by
  rw [apSlots, List.mem_range'_1]
  omega

theorem nodup_apSlots (t : Table) : t.apSlots.Nodup := List.nodup_range'

theorem findSta_of_unicast (t : Table) {addr : MacAddr} (h : addr.isBroadcast = false) :
    t.findSta addr = t.existing addr := by
  simp [findSta, existing, findKey, h]

/-- The slot of a free index is free. -/
theorem freeIndex_spec {t : Table} (h : ∃ i ∈ t.apSlots, t.entry i = none) :
    t.freeIndex ∈ t.apSlots ∧ t.entry t.freeIndex = none := by
  obtain ⟨i, hi, hfree⟩ := h
  cases hfind : t.apSlots.find? fun i => (t.entry i).isNone with
  | none =>
    have := List.find?_eq_none.1 hfind i hi
    simp [hfree] at this
  | some j =>
    have hj : t.freeIndex = j := by rw [freeIndex, hfind]; rfl
    rw [hj]
    exact ⟨List.mem_of_find?_eq_some hfind, by simpa using List.find?_some hfind⟩

/-- What an access point does with a station: nothing, or it puts the station into a slot that has
its address already, or into one that holds no station. -/
theorem apAdd_cases (t : Table) (sta : Sta) :
    (t.apAdd sta).2 = t ∨ ∃ i r, t.SlotSet (t.apAdd sta).2 i r ∧ r.sta = some sta ∧ r.staId = i ∧
      (t.existing sta.addr = some i ∨
        t.existing sta.addr = none ∧ (i ∈ t.apSlots → t.entry i = none)) := by
  by_cases hmax : t.maxStations ≤ t.numStations
  · exact .inl (by rw [apAdd, if_pos hmax])
  cases hexisting : t.existing sta.addr with
  | some i =>
    refine .inr ⟨i, joined (t.stations i) i sta, ?_, rfl, rfl, .inl rfl⟩
    simp only [apAdd, if_neg hmax, hexisting]
    exact ⟨rfl, rfl, rfl⟩
  | none =>
    refine .inr ⟨t.freeIndex, joined (t.stations t.freeIndex) t.freeIndex sta, ?_, rfl, rfl,
      .inr ⟨rfl, fun hmem => ?_⟩⟩
    · simp only [apAdd, if_neg hmax, hexisting]
      exact ⟨rfl, rfl, rfl⟩
    · cases hfind : t.apSlots.find? fun i => (t.entry i).isNone with
      | none =>
        rw [freeIndex, hfind] at hmem
        exact absurd (mem_apSlots.1 hmem).2 (Nat.lt_irrefl _)
      | some j =>
        have hj : t.freeIndex = j := by rw [freeIndex, hfind]; rfl
        rw [hj]
        simpa using List.find?_some hfind

theorem freeIndex_mem {t : Table} (h : t.freeIndex < t.maxStations) : t.freeIndex ∈ t.apSlots := by
  cases hfind : t.apSlots.find? fun i => (t.entry i).isNone with
  | none =>
    rw [freeIndex, hfind] at h
    exact absurd h (Nat.lt_irrefl _)
  | some j =>
    have hj : t.freeIndex = j := by rw [freeIndex, hfind]; rfl
    rw [hj]
    exact List.mem_of_find?_eq_some hfind

/-- A new station is put at the free index. -/
theorem entry_apAdd_freeIndex {t : Table} {sta : Sta} (hmax : t.numStations < t.maxStations)
    (hnew : t.existing sta.addr = none) : (t.apAdd sta).2.entry t.freeIndex = some sta := by
  simp only [apAdd, if_neg (Nat.not_le.2 hmax), hnew]
  show (Function.update t.stations t.freeIndex _ t.freeIndex).sta = some sta
  rw [Function.update_self]
  rfl

theorem staAdd_of_ap {type : IfType} (h : isApType type = true) (t : Table) (sta : Sta) :
    t.staAdd type sta = t.apAdd sta := by
  cases type with
  | ap | p2pGo => rfl
  | station | p2pClient | other => cases h

/-- A station that joins takes no slot away. -/
theorem entry_apAdd (t : Table) (sta : Sta) {i : ℕ} (h : t.entry i ≠ none) :
    (t.apAdd sta).2.entry i ≠ none := by
  obtain heq | ⟨j, r, hset, hsta, -, -⟩ := t.apAdd_cases sta
  · rwa [heq]
  · rw [hset.entry, hsta]
    by_cases hij : i = j
    · rw [hij, Function.update_self]
      exact Option.some_ne_none sta
    · rwa [Function.update_of_ne hij]

/-- A station that joins moves no other one. -/
theorem existing_apAdd (t : Table) (sta : Sta) {addr : MacAddr} {i : ℕ}
    (h : t.existing addr = some i) : (t.apAdd sta).2.existing addr = some i := by
  obtain heq | ⟨j, r, hset, hsta, -, hslot⟩ := t.apAdd_cases sta
  · rwa [heq]
  rw [← h, existing, hset.apSlots, hset.entry, hsta, existing]
  -- the address is found in the same slots as before
  refine List.find?_congr fun k hk => ?_
  by_cases hkj : k = j
  · subst hkj
    rw [Function.update_self, Option.any_some]
    obtain hexisting | ⟨hexisting, hfree⟩ := hslot
    · obtain ⟨-, b, hb, hkey⟩ := findKey_some hexisting
      rw [Option.mem_def.1 hb, Option.any_some, hkey]
    · rw [hfree hk, Option.any_none, beq_eq_false_iff_ne]
      rintro rfl
      rw [hexisting] at h
      cases h
  · rw [Function.update_of_ne hkj]

theorem staId_apAdd (t : Table) (sta : Sta)
    (h : ∀ i ∈ t.apSlots, t.entry i ≠ none → (t.stations i).staId = i) :
    ∀ i ∈ (t.apAdd sta).2.apSlots, (t.apAdd sta).2.entry i ≠ none →
      ((t.apAdd sta).2.stations i).staId = i := by
  obtain heq | ⟨j, r, hset, hsta, hid, -⟩ := t.apAdd_cases sta
  · rwa [heq]
  intro i hi hentry
  by_cases hij : i = j
  · rw [hij, hset.staId_self, hid]
  · rw [hset.entry, Function.update_of_ne hij] at hentry
    rw [hset.staId_of_ne hij]
    exact h i (hset.apSlots ▸ hi) hentry

theorem apSlots_apAdd (t : Table) (sta : Sta) : (t.apAdd sta).2.apSlots = t.apSlots := by
  obtain heq | ⟨j, r, hset, -⟩ := t.apAdd_cases sta
  · rw [heq]
  · exact hset.apSlots

theorem maxStations_staAdd (t : Table) (type : IfType) (sta : Sta) :
    (t.staAdd type sta).2.maxStations = t.maxStations := by
  cases type with
  | ap | p2pGo =>
    show (t.apAdd sta).2.maxStations = t.maxStations
    obtain heq | ⟨j, r, hset, -⟩ := t.apAdd_cases sta
    · rw [heq]
    · exact hset.maxStations
  | station | p2pClient | other => rfl

end Table

/-! ## The invariant of disciplined runs -/

/-- The members are the addresses in the slots of the access point, each in its own slot, and
`num_stations` counts them. -/
structure TableInv (s : TableSys) : Prop where
  max : s.table.maxStations ≤ 32
  count : s.table.numStations = occupied s.table.apSlots s.table.entry
  distinct : DistinctKeys s.table.apSlots s.table.entry Sta.addr
  placed : ∀ i, i ≠ s.table.build.staPeer → s.table.entry i ≠ none →
    i ∈ s.table.apSlots ∧ (s.table.stations i).staId = i
  members : ∀ addr, addr ∈ s.members ↔
    ∃ i ∈ s.table.apSlots, ∃ sta ∈ s.table.entry i, sta.addr = addr
  nodup : s.members.Nodup

namespace TableInv

variable {s : TableSys} (hinv : TableInv s)

include hinv

theorem reserved : s.table.build.staPeer ∉ s.table.apSlots := by
  have hmax := hinv.max
  rw [Table.mem_apSlots]
  cases hbuild : s.table.build with
  | standard => simp only [Build.staPeer, Build.firstSlot]; omega
  | staPlusAp => simp [Build.staPeer, Build.firstSlot]

/-- A refused call finds no free slot. -/
theorem refused {type : IfType} {sta : Sta} (h : (s.table.staAdd type sta).1 ≠ 0) :
    (∀ i ∈ s.table.apSlots, s.table.entry i ≠ none) ∧ (s.table.staAdd type sta).2 = s.table := by
  have hap (h : (s.table.apAdd sta).1 ≠ 0) :
      (∀ i ∈ s.table.apSlots, s.table.entry i ≠ none) ∧ (s.table.apAdd sta).2 = s.table := by
    by_cases hmax : s.table.maxStations ≤ s.table.numStations
    · refine ⟨full_of_occupied ?_, by rw [Table.apAdd, if_pos hmax]⟩
      rw [← hinv.count, Table.apSlots, List.length_range']
      omega
    · rw [Table.apAdd, if_neg hmax] at h
      split at h <;> exact absurd rfl h
  cases type with
  | ap | p2pGo => exact hap h
  | station | p2pClient | other => exact absurd rfl h

theorem tableOk : TableOk s where
  count := hinv.count
  distinct := hinv.distinct
  placed i hne hentry := by
    obtain ⟨hi, hid⟩ := hinv.placed i hne hentry
    obtain ⟨hfirst, hlt⟩ := Table.mem_apSlots.1 hi
    exact ⟨hfirst, hlt, hid⟩
  reserved := hinv.reserved
  found addr haddr i := by
    rw [s.table.findSta_of_unicast haddr, Table.existing, findKey_eq_some_iff hinv.distinct,
      hinv.members]
    exact ⟨fun h => ⟨⟨i, h⟩, h⟩, fun h => h.2⟩
  member addr h := (hinv.members addr).1 h
  refused _ _ h := hinv.refused h
  unmatched type addr htype hnone := by
    have hexisting : s.table.existing addr = none := findKey_eq_none_iff.2 hnone
    cases type with
    | ap | p2pGo => simp only [Table.staRemove, Table.apRemove, hexisting]
    | station | p2pClient | other => cases htype
  unmatchedPeer addr hnone := by simp only [Table.staRemove, Table.staPeerRemove, hnone]

/-- A station is put into a slot that is free or held by the same address. -/
theorem join {t' : Table} {i : ℕ} {r : RsiSta} {sta : Sta} (hset : s.table.SlotSet t' i r)
    (hr : r.sta = some sta ∧ r.staId = i) (hi : i ∈ s.table.apSlots)
    (hfresh : ∀ j ∈ s.table.apSlots, ∀ b ∈ s.table.entry j, b.addr = sta.addr → j = i)
    (hsame : ∀ b ∈ s.table.entry i, b.addr = sta.addr)
    (hnum : t'.numStations =
      occupied s.table.apSlots (Function.update s.table.entry i (some sta))) :
    TableInv ⟨t', s.members.insert sta.addr⟩ := by
  have hentry := hset.entry
  rw [hr.1] at hentry
  refine ⟨hset.maxStations ▸ hinv.max, ?_, ?_, fun j hne hj => ?_, fun addr => ?_,
    hinv.nodup.insert⟩ <;> simp only [hset.apSlots, hset.build, hentry] at *
  · exact hnum
  · exact hinv.distinct.insert hfresh
  · by_cases hji : j = i
    · -- the station that joins gets the index of its slot as its id
      subst hji
      exact ⟨hi, hset.staId_self.trans hr.2⟩
    · rw [Function.update_of_ne hji] at hj
      obtain ⟨hmem, hid⟩ := hinv.placed j hne hj
      exact ⟨hmem, (hset.staId_of_ne hji).trans hid⟩
  · rw [List.mem_insert_iff, hinv.members]
    constructor
    · rintro (rfl | ⟨j, hj, b, hb, hkey⟩)
      · exact ⟨i, hi, sta, Function.update_self .., rfl⟩
      · by_cases hji : j = i
        · subst hji
          exact ⟨j, hi, sta, Function.update_self .., (hsame b hb).symm.trans hkey⟩
        · exact ⟨j, hj, b, (Function.update_of_ne hji ..).trans hb, hkey⟩
    · rintro ⟨j, hj, b, hb, hkey⟩
      by_cases hji : j = i
      · rw [hji, Function.update_self] at hb
        obtain rfl : sta = b := by simpa using hb
        exact .inl hkey.symm
      · rw [Function.update_of_ne hji] at hb
        exact .inr ⟨j, hj, b, hb, hkey⟩

theorem apAdd {sta : Sta}
    (hdisc : s.table.numStations < s.table.maxStations → s.table.existing sta.addr = none →
      ∃ i ∈ s.table.apSlots, s.table.entry i = none) :
    TableInv ⟨(s.table.apAdd sta).2,
      if (s.table.apAdd sta).1 == 0 then s.members.insert sta.addr else s.members⟩ := by
  by_cases hmax : s.table.maxStations ≤ s.table.numStations
  · have hrefused : s.table.apAdd sta = (EOPNOTSUPP, s.table) := by rw [Table.apAdd, if_pos hmax]
    rw [hrefused]
    exact hinv
  · cases hexisting : s.table.existing sta.addr with
    | some i =>
      -- the address has a slot, in which the station is put again
      have hadd : s.table.apAdd sta =
          (0, s.table.setSlot i (Table.joined (s.table.stations i) i sta)) := by
        rw [Table.apAdd, if_neg hmax, hexisting]
      rw [hadd]
      obtain ⟨hi, b, hb, hkey⟩ := findKey_some hexisting
      refine hinv.join ⟨rfl, rfl, rfl⟩ ⟨rfl, rfl⟩ hi (fun j hj c hc hcKey => ?_) (fun c hc => ?_) ?_
      · exact hinv.distinct j hj i hi c hc b hb (hcKey.trans hkey.symm)
      · obtain rfl : b = c := Option.mem_unique hb hc
        exact hkey
      · exact hinv.count.trans (occupied_replace s.table.nodup_apSlots hi hb).symm
    | none =>
      -- the discipline gives a new address a free slot, so that the scan stops before the end
      obtain ⟨hi, hfree⟩ := Table.freeIndex_spec (hdisc (by omega) hexisting)
      have hadd : s.table.apAdd sta =
          (0, { s.table.setSlot s.table.freeIndex
              (Table.joined (s.table.stations s.table.freeIndex) s.table.freeIndex sta) with
            numStations := s.table.numStations + 1 }) := by
        rw [Table.apAdd, if_neg hmax, hexisting]
      rw [hadd]
      refine hinv.join ⟨rfl, rfl, rfl⟩ ⟨rfl, rfl⟩ hi (fun j hj c hc hcKey => ?_) (fun c hc => ?_) ?_
      · exact absurd hcKey (findKey_eq_none_iff.1 hexisting j hj c hc)
      · rw [hfree] at hc
        cases hc
      · rw [occupied_insert s.table.nodup_apSlots hi hfree, ← hinv.count]

/-- The slot of the station interface's peer is none of the access point's. -/
theorem setPeer {t' : Table} {r : RsiSta} (hset : s.table.SlotSet t' s.table.build.staPeer r)
    (hnum : t'.numStations = s.table.numStations) : TableInv ⟨t', s.members⟩ := by
  have hentry {i : ℕ} (hi : i ∈ s.table.apSlots) : t'.entry i = s.table.entry i := by
    have hne : i ≠ s.table.build.staPeer := fun h => hinv.reserved (h ▸ hi)
    rw [hset.entry, Function.update_of_ne hne]
  refine ⟨hset.maxStations ▸ hinv.max, ?_, ?_, fun i hne hi => ?_, fun addr => ?_, hinv.nodup⟩
  · show t'.numStations = occupied t'.apSlots t'.entry
    rw [hnum, hset.apSlots, hset.entry, occupied_update_of_notMem hinv.reserved, hinv.count]
  · show DistinctKeys t'.apSlots t'.entry Sta.addr
    rw [hset.apSlots]
    intro i hi j hj b hb c hc
    rw [hentry hi] at hb
    rw [hentry hj] at hc
    exact hinv.distinct i hi j hj b hb c hc
  · replace hne : i ≠ s.table.build.staPeer := hset.build ▸ hne
    replace hi : t'.entry i ≠ none := hi
    rw [hset.entry, Function.update_of_ne hne] at hi
    obtain ⟨hmem, hid⟩ := hinv.placed i hne hi
    exact ⟨hset.apSlots ▸ hmem, (hset.staId_of_ne hne).trans hid⟩
  · show addr ∈ s.members ↔ ∃ i ∈ t'.apSlots, ∃ sta ∈ t'.entry i, sta.addr = addr
    rw [hinv.members, hset.apSlots]
    refine exists_congr fun i => and_congr_right fun hi => ?_
    rw [hentry hi]

theorem staPeerRemove : TableInv ⟨s.table.staPeerRemove, s.members⟩ := by
  cases hentry : s.table.entry s.table.build.staPeer with
  | none => simpa only [Table.staPeerRemove, hentry] using hinv
  | some sta =>
    simp only [Table.staPeerRemove, hentry]
    exact hinv.setPeer ⟨rfl, rfl, rfl⟩ rfl

/-- A slot of the access point is emptied. -/
theorem leave {t' : Table} {i : ℕ} {r : RsiSta} {b : Sta} (hset : s.table.SlotSet t' i r)
    (hr : r.sta = none) (hi : i ∈ s.table.apSlots) (hb : b ∈ s.table.entry i)
    (hnum : t'.numStations + 1 = s.table.numStations) :
    TableInv ⟨t', s.members.erase b.addr⟩ := by
  have hentry := hset.entry
  rw [hr] at hentry
  have herase := occupied_erase s.table.nodup_apSlots hi hb
  have hcount := hinv.count
  refine ⟨hset.maxStations ▸ hinv.max, ?_, ?_, fun j hne hj => ?_, fun addr => ?_,
    hinv.nodup.erase _⟩ <;> simp only [hset.apSlots, hset.build, hentry] at *
  · omega
  · exact hinv.distinct.erase i
  · have hji : j ≠ i := by
      rintro rfl
      exact hj (Function.update_self ..)
    rw [Function.update_of_ne hji] at hj
    obtain ⟨hmem, hid⟩ := hinv.placed j hne hj
    exact ⟨hmem, (hset.staId_of_ne hji).trans hid⟩
  · rw [hinv.nodup.mem_erase_iff, hinv.members]
    constructor
    · -- a member with another address is in another slot
      rintro ⟨hne, j, hj, c, hc, rfl⟩
      have hji : j ≠ i := by
        rintro rfl
        exact hne (congrArg Sta.addr (Option.mem_unique hc hb))
      exact ⟨j, hj, c, (Function.update_of_ne hji ..).trans hc, rfl⟩
    · rintro ⟨j, hj, c, hc, rfl⟩
      have hji : j ≠ i := by
        rintro rfl
        rw [Function.update_self] at hc
        cases hc
      rw [Function.update_of_ne hji] at hc
      exact ⟨fun hkey => hji (hinv.distinct j hj i hi c hc b hb hkey), j, hj, c, hc, rfl⟩

theorem apRemove (addr : MacAddr) : TableInv ⟨s.table.apRemove addr, s.members.erase addr⟩ := by
  cases hexisting : s.table.existing addr with
  | none =>
    have hnot : addr ∉ s.members := by
      rw [hinv.members]
      rintro ⟨i, hi, b, hb, hkey⟩
      exact findKey_eq_none_iff.1 hexisting i hi b hb hkey
    rw [List.erase_of_not_mem hnot]
    simpa only [Table.apRemove, hexisting] using hinv
  | some i =>
    obtain ⟨hi, b, hb, rfl⟩ := findKey_some hexisting
    -- `num_stations` counts the slot, so that its guard against 0 holds
    have hpos : 0 < s.table.numStations := by
      have herase := occupied_erase s.table.nodup_apSlots hi hb
      rw [hinv.count]
      omega
    simp only [Table.apRemove, hexisting, if_pos hpos]
    exact hinv.leave ⟨rfl, rfl, rfl⟩ rfl hi hb (Nat.sub_add_cancel hpos)

/-- An access point that starts with empty slots leaves them as they are. -/
theorem addInterface {type : IfType}
    (hempty : isApType type = true → ∀ i ∈ s.table.apSlots, s.table.entry i = none) :
    TableInv ⟨s.table.addInterface type, s.members⟩ := by
  -- clearing the slots that are empty changes nothing
  have hap (hempty : ∀ i ∈ s.table.apSlots, s.table.entry i = none) :
      (fun i => if i ∈ s.table.apSlots then { s.table.stations i with sta := none }
        else s.table.stations i) = s.table.stations := by
    funext i
    split_ifs with hi
    · have hnone : (s.table.stations i).sta = none := hempty i hi
      rw [← hnone]
    · rfl
  cases type with
  | ap | p2pGo =>
    simp only [Table.addInterface, hap (hempty rfl)]
    exact hinv
  | station | p2pClient | other => exact hinv

end TableInv

theorem TableInv.init {s : TableSys} (h : TableSys.system.Init s) : TableInv s := by
  obtain ⟨hmax, hempty, hnum, hmembers⟩ := h
  refine ⟨?_, ?_, ?_, ?_, ?_, ?_⟩
  · have hbound : ∀ n ∈ rsiMaxApStas, n ≤ 32 := by decide
    exact hbound _ hmax
  · rw [hnum, occupied_eq_zero fun i _ => hempty i]
  · intro i _ j _ b hb
    rw [hempty i] at hb
    cases hb
  · exact fun i _ hi => absurd (hempty i) hi
  · intro addr
    simp [hmembers, hempty]
  · rw [hmembers]
    exact List.nodup_nil

/-- In every run in which an access point starts with an empty table and no new station joins a
full one, the table is right. -/
theorem tableOk_of_discipline {s : TableSys}
    (h : TableSys.system.ReachableVia TableDiscipline s) : TableOk s := by
  have hinv : TableInv s := by
    refine h.invariant TableInv (fun _ => .init) fun s a s' hinv hdisc hstep => ?_
    cases a with
    | staAdd type sta =>
      obtain rfl := Option.some.inj hstep
      cases type with
      | ap | p2pGo => exact hinv.apAdd (hdisc rfl)
      | station => exact hinv.setPeer ⟨rfl, rfl, rfl⟩ rfl
      | p2pClient | other => exact hinv
    | staRemove type addr =>
      obtain rfl := Option.some.inj hstep
      cases type with
      | ap | p2pGo => exact hinv.apRemove addr
      | station => exact hinv.staPeerRemove
      | p2pClient | other => exact hinv
    | addInterface type reached =>
      obtain rfl := Option.some.inj hstep
      cases reached with
      | true => exact hinv.addInterface (hdisc rfl)
      | false => exact hinv
  exact hinv.tableOk

/-- A station joins, is added again and leaves, another one joins, and the next one is refused. -/
def refusedSchedule : List TableAct :=
  [.addInterface .ap true, .staAdd .ap ⟨0x020000000002, 1, true⟩,
    .staAdd .station ⟨0x020000000009, 1, true⟩, .staRemove .ap 0x020000000002,
    .staAdd .ap ⟨0x020000000003, 1, true⟩, .staAdd .ap ⟨0x020000000004, 2, false⟩]

/-- The state at the end of `refusedSchedule`. -/
def refusedState : TableSys :=
  (TableSys.system.runVia TableDiscipline .start refusedSchedule).get rfl

/-- The discipline is kept by a run that fills the table. -/
theorem tableOk_refusedState : refusedState.members = [0x020000000003] ∧ TableOk refusedState :=
  ⟨rfl, tableOk_of_discipline (TransitionSystem.reachableVia_get TableSys.init_start rfl)⟩

end Station
