import RsiDriver.Station.Table

/-!
# The table of virtual interfaces

`adapter->vifs` holds the interfaces that mac80211 has added, and `sc_nvifs` counts them; most of
the driver takes `vifs[sc_nvifs - 1]` as the interface it works for. `addInterface` and
`removeInterface` are `rsi_mac80211_add_interface` and `rsi_mac80211_remove_interface`
(`rsi_91x_mac80211.c`), as far as they touch the table; the stations that an access point forgets
are in `Station.Table.addInterface`.

The standard build enters an interface behind the last one. With `CONFIG_STA_PLUS_AP` it is
entered at the first clear bit of `vif_bit_map`, but only until the first P2P interface comes up.

## Main results

* `not_vifsOk`: an interface stays in the table when its capabilities cannot be sent;
* `vifsOk_of_discipline`: the table is right in the runs that keep to `VifDiscipline`.
-/

namespace Interface

open SlotTable
open Station (Build EOPNOTSUPP)

/-- `enum nl80211_iftype` -/
inductive VifType
  | station
  | ap
  | p2pDevice
  | p2pGo
  | p2pClient
  | monitor
  | other
  deriving DecidableEq, Repr

/-- `enum opmode` -/
inductive OpMode
  | staOpmode
  | apOpmode
  | p2pGoOpmode
  | p2pClientOpmode
  deriving DecidableEq, Repr

/-- The mode in which the firmware runs an interface; other types are not supported. -/
def VifType.intfMode : VifType → Option OpMode
  | .station | .p2pDevice | .monitor => some .staOpmode
  | .ap => some .apOpmode
  | .p2pGo => some .p2pGoOpmode
  | .p2pClient => some .p2pClientOpmode
  | .other => none

/-- The types that set `p2p_enabled`. -/
def VifType.isP2p : VifType → Bool
  | .p2pDevice | .p2pGo | .p2pClient => true
  | .station | .ap | .monitor | .other => false

/-- The types whose entry `rsi_mac80211_remove_interface` clears. -/
def VifType.isRemoved : VifType → Bool
  | .station | .ap | .p2pClient | .p2pGo => true
  | .p2pDevice | .monitor | .other => false

/-- `enum vap_modes`, a set of two bits. -/
structure VapMode where
  apAlone : Bool
  staAlone : Bool
  deriving DecidableEq, Repr

namespace VapMode

/-- `NO_VAP` -/
def noVap : VapMode := ⟨false, false⟩

/-- Set the bit of an interface. -/
def add (m : VapMode) : VifType → VapMode
  | .station => { m with staAlone := true }
  | .ap => { m with apAlone := true }
  | _ => m

/-- The bit of an interface type is set. -/
def has (m : VapMode) : VifType → Bool
  | .station => m.staAlone
  | .ap => m.apAlone
  | _ => false

end VapMode

/-- `-EINVAL` -/
def EINVAL : ℤ := -22

/-- `-EPERM` -/
def EPERM : ℤ := -1

/-- A pointer to a `struct ieee80211_vif`. -/
abbrev Vif := ℕ

/-- The interfaces in `struct rsi_hw` and `struct rsi_common`. -/
structure Vifs where
  build : Build
  /-- `CONFIG_RSI_P2P` -/
  configP2p : Bool
  /-- `driver_mode` is `SNIFFER_MODE`. -/
  sniffer : Bool
  /-- `vif->type` -/
  type : Vif → VifType
  vifs : ℕ → Option Vif
  scNvifs : ℕ
  /-- `vif_info->vap_id` -/
  vapId : Vif → ℕ
  lastVapId : ℕ
  p2pEnabled : Bool
  vifBitMap : ℕ → Bool
  vapMode : VapMode

namespace Vifs

/-- `RSI_MAX_VIFS` -/
def maxVifs (s : Vifs) : ℕ :=
  match s.build with
  | .standard => 3
  | .staPlusAp => if s.configP2p then 3 else 2

/-- The indices of `vifs`. -/
def slots (s : Vifs) : List ℕ := List.range s.maxVifs

/-- The checks before the type of the interface is looked at. `assoc` is what `vifs[0]` says about
its association. -/
def refusal (s : Vifs) (vif : Vif) (assoc : Bool) : Option ℤ :=
  match s.build with
  | .standard =>
    if 0 < s.scNvifs then
      if !s.p2pEnabled && s.type vif != .p2pDevice then some EINVAL
      else if assoc then some EINVAL
      else none
    else none
  | .staPlusAp =>
    if s.type vif == .station && s.vapMode.staAlone then some EOPNOTSUPP else none

/-- Enter an interface behind the last one; a full table loses the last one. -/
def enterLast (s : Vifs) (vif : Vif) : Vifs :=
  if s.maxVifs ≤ s.scNvifs then
    { s with vifs := Function.update s.vifs (s.scNvifs - 1) (some vif) }
  else
    { s with vifs := Function.update s.vifs s.scNvifs (some vif), scNvifs := s.scNvifs + 1 }

/-- Enter an interface at a bit of `vif_bit_map`. -/
def enterAt (s : Vifs) (vif : Vif) (i : ℕ) : Vifs :=
  { s with
    vapId := Function.update s.vapId vif i
    vifs := Function.update s.vifs i (some vif)
    scNvifs := s.scNvifs + 1
    vifBitMap := Function.update s.vifBitMap i true
    vapMode := s.vapMode.add (s.type vif) }

/-- Set `p2p_enabled`. -/
def setP2pEnabled (s : Vifs) (p2p : Bool) : Vifs := { s with p2pEnabled := p2p }

/-- The first clear bit of `vif_bit_map`. -/
def clearBit (s : Vifs) : Option ℕ := s.slots.find? fun i => !s.vifBitMap i

/-- The `vap_id` of an interface once P2P is enabled. -/
def p2pVapId (s : Vifs) : OpMode → ℕ
  | .apOpmode | .p2pGoOpmode => s.lastVapId + 1
  | .staOpmode | .p2pClientOpmode => s.lastVapId

/-- Enter an interface into the table; `none` when `vif_bit_map` is full. -/
def enter (s : Vifs) (vif : Vif) (mode : OpMode) : Option Vifs :=
  match s.p2pEnabled, s.build with
  | false, .standard =>
    some { s.enterLast vif with vapId := Function.update s.vapId vif 0, lastVapId := 0 }
  | false, .staPlusAp => s.clearBit.map (s.enterAt vif)
  | true, _ =>
    some { s.enterLast vif with vapId := Function.update s.vapId vif (s.p2pVapId mode) }

/-- `rsi_mac80211_add_interface` and its return code; `setVap` is the return code of
`rsi_set_vap_capabilities`. -/
def addInterface (s : Vifs) (vif : Vif) (assoc : Bool) (setVap : ℤ) : ℤ × Vifs :=
  match s.refusal vif assoc with
  | some err => (err, s)
  | none =>
    match (s.type vif).intfMode with
    | none => (EINVAL, s)
    | some mode =>
      let s := s.setP2pEnabled (s.p2pEnabled || (s.type vif).isP2p)
      match s.enter vif mode with
      | none => (EPERM, s)
      | some s => if s.sniffer then (0, s) else (setVap, s)

/-- The modes of the interfaces in the table. -/
def describe (s : Vifs) : VapMode :=
  s.slots.foldl (fun m i => match s.vifs i with
    | none => m
    | some vif => m.add (s.type vif)) .noVap

/-- Clear the entry of an interface. -/
def clear (s : Vifs) (vif : Vif) (i : ℕ) : Vifs :=
  let s := { s with vifs := Function.update s.vifs i none }
  match s.build with
  | .standard => s
  | .staPlusAp =>
    { s with vifBitMap := Function.update s.vifBitMap (s.vapId vif) false, vapMode := s.describe }

/-- `rsi_mac80211_remove_interface` -/
def removeInterface (s : Vifs) (vif : Vif) : Vifs :=
  if s.scNvifs = 0 then s
  else
    match findKey s.slots s.vifs id vif with
    | none => s
    | some i =>
      let s := { s with scNvifs := s.scNvifs - 1 }
      -- for the other types the loop is left before the entry is cleared
      if (s.type vif).isRemoved then s.clear vif i else s

end Vifs

/-! ## Runs -/

/-- The table, and the interfaces that were added and not removed since. -/
structure VifSys where
  vifs : Vifs
  live : List Vif

/-- Calls of mac80211. -/
inductive VifAct
  | addInterface (vif : Vif) (assoc : Bool) (setVap : ℤ)
  | removeInterface (vif : Vif)
  deriving DecidableEq

namespace VifSys

/-- One call: mac80211 adds an interface that is not up, and removes one that is. -/
def step (s : VifSys) : VifAct → Option VifSys
  | .addInterface vif assoc setVap =>
    if vif ∈ s.live then none
    else
      let (status, vifs) := s.vifs.addInterface vif assoc setVap
      some ⟨vifs, if status == 0 then vif :: s.live else s.live⟩
  | .removeInterface vif =>
    if vif ∈ s.live then some ⟨s.vifs.removeInterface vif, s.live.erase vif⟩ else none

/-- Runs start with an empty table. -/
def system : TransitionSystem VifSys VifAct where
  Init s := (∀ i, s.vifs.vifs i = none) ∧ s.vifs.scNvifs = 0 ∧ s.vifs.p2pEnabled = false ∧
    (∀ i, s.vifs.vifBitMap i = false) ∧ s.vifs.vapMode = .noVap ∧ s.live = []
  step := step

end VifSys

/-- The table holds the live interfaces, and what is kept beside it agrees. -/
structure VifsOk (s : VifSys) : Prop where
  entries : ∀ vif, vif ∈ s.live ↔ ∃ i ∈ s.vifs.slots, s.vifs.vifs i = some vif
  count : s.vifs.scNvifs = s.live.length
  /-- No interface is entered twice. -/
  occupied : s.vifs.scNvifs = occupied s.vifs.slots s.vifs.vifs
  last : 0 < s.vifs.scNvifs → ∃ vif ∈ s.live, s.vifs.vifs (s.vifs.scNvifs - 1) = some vif
  bits : s.vifs.build = .staPlusAp →
    ∀ i ∈ s.vifs.slots, s.vifs.vifBitMap i = (s.vifs.vifs i).isSome
  mode : s.vifs.build = .staPlusAp → ∀ t, t = .station ∨ t = .ap →
    (s.vifs.vapMode.has t = true ↔ ∃ vif ∈ s.live, s.vifs.type vif = t)

/-- An interface of this type passes the checks that come before the table is touched. -/
def Vifs.Accepts (s : Vifs) (vif : Vif) (assoc : Bool) : Prop :=
  s.refusal vif assoc = none ∧ (s.type vif).intfMode ≠ none

instance (s : Vifs) (vif : Vif) (assoc : Bool) : Decidable (s.Accepts vif assoc) :=
  inferInstanceAs (Decidable (_ ∧ _))

/-- The firmware accepts an interface, or is not asked to. -/
def Vifs.Sent (s : Vifs) (setVap : ℤ) : Prop := s.sniffer = true ∨ setVap = 0

instance (s : Vifs) (setVap : ℤ) : Decidable (s.Sent setVap) :=
  inferInstanceAs (Decidable (_ ∨ _))

/-- The condition on each step. An interface that is entered is accepted by the firmware; the
standard build enters it into a free place, and the other build has no P2P interface. A removed
interface is of a type whose entry is cleared, and leaves `vifs[sc_nvifs - 1]` an interface. -/
def VifDiscipline (s : VifSys) : VifAct → Prop
  | .addInterface vif assoc setVap => s.vifs.Accepts vif assoc →
      (s.vifs.build = .standard → s.vifs.scNvifs < s.vifs.maxVifs ∧
        s.vifs.vifs s.vifs.scNvifs = none ∧ s.vifs.Sent setVap) ∧
      (s.vifs.build = .staPlusAp → (s.vifs.type vif).isP2p = false ∧
        (s.vifs.clearBit ≠ none → s.vifs.Sent setVap))
  | .removeInterface vif => (s.vifs.type vif).isRemoved = true ∧
      (1 < s.vifs.scNvifs → s.vifs.vifs (s.vifs.scNvifs - 2) ≠ none ∧
        s.vifs.vifs (s.vifs.scNvifs - 2) ≠ some vif)

instance (s : VifSys) (a : VifAct) : Decidable (VifDiscipline s a) :=
  match a with
  | .addInterface _ _ _ =>
    inferInstanceAs (Decidable (_ → (_ → _ < _ ∧ _ = _ ∧ _) ∧ (_ → _ = _ ∧ (_ → _))))
  | .removeInterface _ => inferInstanceAs (Decidable (_ ∧ (_ → _ ∧ _)))

/-! ## The interface that was not accepted -/

/-- The standard build; interface 2 is a P2P device, interface 3 a P2P client. -/
def VifSys.start : VifSys where
  vifs :=
    { build := .standard
      configP2p := false
      sniffer := false
      type := fun vif => if vif = 2 then .p2pDevice else if vif = 3 then .p2pClient else .station
      vifs := fun _ => none
      scNvifs := 0
      vapId := fun _ => 0
      lastVapId := 0
      p2pEnabled := false
      vifBitMap := fun _ => false
      vapMode := .noVap }
  live := []

theorem VifSys.init_start : VifSys.system.Init .start :=
  ⟨fun _ => rfl, rfl, rfl, fun _ => rfl, rfl, rfl⟩

/-- The capabilities of a station interface cannot be sent, for want of memory. -/
def failedSchedule : List VifAct := [.addInterface 1 false (-12)]

/-- The interface that mac80211 was told has failed is in the table. -/
theorem not_vifsOk : ¬ ∀ s, VifSys.system.Reachable s → VifsOk s := by
  refine TransitionSystem.not_forall_reachable_of_run failedSchedule VifSys.init_start rfl
    fun hok => ?_
  have hcount := hok.count
  exact absurd hcount (by decide)

/-! ## The entries -/

/-- The part of the invariant that both builds share. -/
structure EntriesInv (s : VifSys) : Prop where
  entries : ∀ vif, vif ∈ s.live ↔ ∃ i ∈ s.vifs.slots, s.vifs.vifs i = some vif
  distinct : DistinctKeys s.vifs.slots s.vifs.vifs id
  nodup : s.live.Nodup
  count : s.vifs.scNvifs = s.live.length
  occupied : s.vifs.scNvifs = occupied s.vifs.slots s.vifs.vifs
  last : 0 < s.vifs.scNvifs → s.vifs.vifs (s.vifs.scNvifs - 1) ≠ none

namespace Vifs

/-- `t'` is `t` with one place overwritten, whatever became of the count. -/
structure SlotSet (t t' : Vifs) (i : ℕ) (e : Option Vif) : Prop where
  build : t'.build = t.build
  configP2p : t'.configP2p = t.configP2p
  type : t'.type = t.type
  vifs : t'.vifs = Function.update t.vifs i e

theorem SlotSet.slots {t t' : Vifs} {i : ℕ} {e : Option Vif} (h : SlotSet t t' i e) :
    t'.slots = t.slots := by
  rw [Vifs.slots, Vifs.maxVifs, h.build, h.configP2p]
  rfl

theorem nodup_slots (s : Vifs) : s.slots.Nodup := List.nodup_range

theorem mem_slots {s : Vifs} {i : ℕ} : i ∈ s.slots ↔ i < s.maxVifs := List.mem_range

end Vifs

namespace EntriesInv

variable {s : VifSys} {t' : Vifs} {vif : Vif} {i : ℕ} (hinv : EntriesInv s)

include hinv

/-- An interface is entered into a free place. -/
theorem enter (hset : s.vifs.SlotSet t' i (some vif)) (hnew : vif ∉ s.live)
    (hi : i ∈ s.vifs.slots) (hfree : s.vifs.vifs i = none) (hnum : t'.scNvifs = s.vifs.scNvifs + 1)
    (hlast : t'.vifs s.vifs.scNvifs ≠ none) : EntriesInv ⟨t', vif :: s.live⟩ where
  entries v := by
    simp only [List.mem_cons, hinv.entries, hset.slots, hset.vifs]
    constructor
    · rintro (rfl | ⟨j, hj, hentry⟩)
      · exact ⟨i, hi, Function.update_self ..⟩
      · -- an interface that was there before is not in the free place
        have hji : j ≠ i := by
          rintro rfl
          exact absurd (hfree.symm.trans hentry) (by simp)
        exact ⟨j, hj, (Function.update_of_ne hji ..).trans hentry⟩
    · rintro ⟨j, hj, hentry⟩
      by_cases hji : j = i
      · rw [hji, Function.update_self] at hentry
        exact .inl (Option.some.inj hentry).symm
      · rw [Function.update_of_ne hji] at hentry
        exact .inr ⟨j, hj, hentry⟩
  distinct := by
    show DistinctKeys t'.slots t'.vifs id
    rw [hset.slots, hset.vifs]
    refine hinv.distinct.insert fun j hj v hv hkey => ?_
    obtain rfl : v = vif := hkey
    exact absurd ((hinv.entries v).2 ⟨j, hj, hv⟩) hnew
  nodup := List.nodup_cons.2 ⟨hnew, hinv.nodup⟩
  count := by
    show t'.scNvifs = s.live.length + 1
    rw [hnum, hinv.count]
  occupied := by
    show t'.scNvifs = SlotTable.occupied t'.slots t'.vifs
    rw [hset.slots, hset.vifs, occupied_insert s.vifs.nodup_slots hi hfree, hnum, hinv.occupied]
  last _ := by
    show t'.vifs (t'.scNvifs - 1) ≠ none
    rwa [hnum, Nat.add_sub_cancel]

/-- The entry of an interface is cleared. -/
theorem clear (hset : s.vifs.SlotSet t' i none) (hi : i ∈ s.vifs.slots)
    (hentry : s.vifs.vifs i = some vif) (hnum : t'.scNvifs = s.vifs.scNvifs - 1)
    (hlast : 1 < s.vifs.scNvifs → s.vifs.vifs (s.vifs.scNvifs - 2) ≠ none ∧
      s.vifs.vifs (s.vifs.scNvifs - 2) ≠ some vif) : EntriesInv ⟨t', s.live.erase vif⟩ where
  entries v := by
    simp only [hinv.nodup.mem_erase_iff, hinv.entries, hset.slots, hset.vifs]
    constructor
    · rintro ⟨hne, j, hj, hv⟩
      have hji : j ≠ i := by
        rintro rfl
        exact hne (Option.some.inj (hv.symm.trans hentry))
      exact ⟨j, hj, (Function.update_of_ne hji ..).trans hv⟩
    · rintro ⟨j, hj, hv⟩
      have hji : j ≠ i := by
        rintro rfl
        rw [Function.update_self] at hv
        cases hv
      rw [Function.update_of_ne hji] at hv
      exact ⟨fun hvif => hji (hinv.distinct j hj i hi v hv vif hentry hvif), j, hj, hv⟩
  distinct := by
    show DistinctKeys t'.slots t'.vifs id
    rw [hset.slots, hset.vifs]
    exact hinv.distinct.erase i
  nodup := hinv.nodup.erase _
  count := by
    show t'.scNvifs = (s.live.erase vif).length
    rw [hnum, hinv.count, List.length_erase_of_mem ((hinv.entries vif).2 ⟨i, hi, hentry⟩)]
  occupied := by
    show t'.scNvifs = SlotTable.occupied t'.slots t'.vifs
    have herase := occupied_erase s.vifs.nodup_slots hi hentry
    have hcount := hinv.occupied
    rw [hset.slots, hset.vifs]
    omega
  last hpos := by
    show t'.vifs (t'.scNvifs - 1) ≠ none
    replace hpos : 0 < t'.scNvifs := hpos
    obtain ⟨hsome, hne⟩ := hlast (by omega)
    have hidx : t'.scNvifs - 1 = s.vifs.scNvifs - 2 := by omega
    -- the place that is read last from now on is not the one that was cleared
    have hji : s.vifs.scNvifs - 2 ≠ i := by
      intro h
      exact hne (h ▸ hentry)
    rw [hidx, hset.vifs, Function.update_of_ne hji]
    exact hsome

end EntriesInv

/-! ## The bit map and the modes -/

namespace VapMode

theorem has_add {m : VapMode} {t u : VifType} (hu : u = .station ∨ u = .ap) :
    (m.add t).has u = true ↔ m.has u = true ∨ t = u := by
  rcases hu with rfl | rfl <;> cases t <;> simp [add, has]

theorem has_foldl_add {ts : ℕ → Option VifType} {is : List ℕ} {m : VapMode} {u : VifType}
    (hu : u = .station ∨ u = .ap) :
    (is.foldl (fun m i => match ts i with
      | none => m
      | some t => m.add t) m).has u = true ↔ m.has u = true ∨ ∃ i ∈ is, ts i = some u := by
  induction is generalizing m with
  | nil => simp
  | cons i is ih =>
    rw [List.foldl_cons, ih]
    cases h : ts i with
    | none => simp [h]
    | some t => simp [h, has_add hu, or_assoc]

end VapMode

namespace Vifs

/-- The modes describe the interfaces in the table. -/
theorem has_describe (s : Vifs) {t : VifType} (ht : t = .station ∨ t = .ap) :
    s.describe.has t = true ↔ ∃ i ∈ s.slots, ∃ vif, s.vifs i = some vif ∧ s.type vif = t := by
  have hdescribe : s.describe = s.slots.foldl (fun m i => match (s.vifs i).map s.type with
      | none => m
      | some t => m.add t) .noVap := by
    rw [describe]
    congr 1
    funext m i
    cases s.vifs i <;> rfl
  have hno : VapMode.noVap.has t = false := by rcases ht with rfl | rfl <;> rfl
  rw [hdescribe, VapMode.has_foldl_add ht, hno]
  simp

theorem slotSet_clear (s : Vifs) (vif : Vif) (i : ℕ) : s.SlotSet (s.clear vif i) i none := by
  rw [clear]
  split <;> exact ⟨rfl, rfl, rfl, rfl⟩

theorem scNvifs_clear (s : Vifs) (vif : Vif) (i : ℕ) : (s.clear vif i).scNvifs = s.scNvifs := by
  rw [clear]
  split <;> rfl

theorem clear_of_staPlusAp {s : Vifs} {vif : Vif} {i : ℕ} (h : s.build = .staPlusAp) :
    s.clear vif i =
      { s with
        vifs := Function.update s.vifs i none
        vifBitMap := Function.update s.vifBitMap (s.vapId vif) false
        vapMode := { s with vifs := Function.update s.vifs i none }.describe } := by
  rw [clear]
  split
  case h_1 hbuild => exact absurd (h.symm.trans hbuild) (by decide)
  case h_2 => rfl

theorem refusal_ne_zero {s : Vifs} {vif : Vif} {assoc : Bool} {err : ℤ}
    (h : s.refusal vif assoc = some err) : err ≠ 0 := by
  rw [refusal] at h
  split at h <;> split_ifs at h <;> cases h <;> decide

/-- The result of a call that enters the interface. -/
theorem addInterface_of_enter {s t : Vifs} {vif : Vif} {assoc : Bool} {setVap : ℤ} {mode : OpMode}
    (hrefusal : s.refusal vif assoc = none) (hmode : (s.type vif).intfMode = some mode)
    (henter : (s.setP2pEnabled (s.p2pEnabled || (s.type vif).isP2p)).enter vif mode = some t)
    (hsniffer : t.sniffer = s.sniffer) (hsent : s.Sent setVap) :
    s.addInterface vif assoc setVap = (0, t) := by
  simp only [addInterface, hrefusal, hmode, henter, hsniffer]
  rcases hsent with hsniff | rfl
  · rw [if_pos hsniff]
  · split_ifs <;> rfl

theorem enter_standard {s : Vifs} (hbuild : s.build = .standard) (hroom : s.scNvifs < s.maxVifs)
    (vif : Vif) (mode : OpMode) :
    ∃ t, s.enter vif mode = some t ∧ s.SlotSet t s.scNvifs (some vif) ∧
      t.scNvifs = s.scNvifs + 1 ∧ t.sniffer = s.sniffer := by
  have hlast : s.enterLast vif =
      { s with
        vifs := Function.update s.vifs s.scNvifs (some vif)
        scNvifs := s.scNvifs + 1 } := if_neg (Nat.not_le.2 hroom)
  cases hp2p : s.p2pEnabled with
  | false =>
    simp only [enter, hp2p, hbuild, hlast]
    exact ⟨_, rfl, ⟨hbuild.symm, rfl, rfl, rfl⟩, rfl, rfl⟩
  | true =>
    simp only [enter, hp2p, hlast]
    exact ⟨_, rfl, ⟨rfl, rfl, rfl, rfl⟩, rfl, rfl⟩

theorem enter_staPlusAp {s : Vifs} (hbuild : s.build = .staPlusAp) (hp2p : s.p2pEnabled = false)
    (vif : Vif) (mode : OpMode) : s.enter vif mode = s.clearBit.map (s.enterAt vif) := by
  simp only [enter, hp2p, hbuild]

/-- The first clear bit. -/
theorem clearBit_some {s : Vifs} {i : ℕ} (h : s.clearBit = some i) :
    i ∈ s.slots ∧ s.vifBitMap i = false ∧ ∀ j < i, s.vifBitMap j = true := by
  obtain ⟨hclear, hi, hbefore⟩ := List.find?_range_eq_some.1 h
  exact ⟨hi, by simpa using hclear, fun j hj => by simpa using hbefore j hj⟩

end Vifs

/-- With at most three places, an entry in the first free one leaves a gap only below the place
behind the last one. -/
theorem occupied_eq_or_ne_none {f : ℕ → Option Vif} {n i : ℕ} (hn : n ≤ 3) (hi : i < n)
    (hfree : f i = none) (hbefore : ∀ j < i, f j ≠ none)
    (hlast : 0 < occupied (List.range n) f → f (occupied (List.range n) f - 1) ≠ none) :
    occupied (List.range n) f = i ∨ f (occupied (List.range n) f) ≠ none := by
  obtain rfl | rfl | rfl : n = 1 ∨ n = 2 ∨ n = 3 := by omega
  all_goals
    obtain rfl | rfl | rfl : i = 0 ∨ i = 1 ∨ i = 2 := by omega
  all_goals
    cases h0 : f 0 <;> cases h1 : f 1 <;> cases h2 : f 2 <;>
      simp_all [occupied, List.range_succ]

/-- The part of the invariant for the build with `CONFIG_STA_PLUS_AP`. -/
structure BitInv (s : VifSys) : Prop where
  noP2p : s.vifs.p2pEnabled = false
  bits : ∀ i ∈ s.vifs.slots, s.vifs.vifBitMap i = (s.vifs.vifs i).isSome
  ids : ∀ i ∈ s.vifs.slots, ∀ vif ∈ s.vifs.vifs i, s.vifs.vapId vif = i
  mode : ∀ t, t = .station ∨ t = .ap →
    (s.vifs.vapMode.has t = true ↔ ∃ vif ∈ s.live, s.vifs.type vif = t)

namespace BitInv

variable {s : VifSys} {vif : Vif} {i : ℕ} (hinv : BitInv s)

include hinv

theorem enterAt (hentries : EntriesInv s) (hnew : vif ∉ s.live) :
    BitInv ⟨s.vifs.enterAt vif i, vif :: s.live⟩ where
  noP2p := hinv.noP2p
  bits j hj := by
    by_cases hji : j = i
    · subst hji
      simp [Vifs.enterAt]
    · simpa [Vifs.enterAt, hji] using hinv.bits j hj
  ids j hj v hv := by
    by_cases hji : j = i
    · subst hji
      obtain rfl : vif = v := by simpa [Vifs.enterAt] using hv
      simp [Vifs.enterAt]
    · replace hv : s.vifs.vifs j = some v := by simpa [Vifs.enterAt, hji] using hv
      have hne : v ≠ vif := by
        rintro rfl
        exact hnew ((hentries.entries v).2 ⟨j, hj, hv⟩)
      simpa [Vifs.enterAt, hne] using hinv.ids j hj v hv
  mode t ht := by
    simp only [Vifs.enterAt, VapMode.has_add ht, hinv.mode t ht, List.mem_cons, or_and_right,
      exists_or, exists_eq_left]
    exact or_comm

/-- The bit of an interface is cleared with its entry. -/
theorem clear {n : ℕ}
    (hentries : EntriesInv ⟨{ s.vifs with scNvifs := n }.clear vif i, s.live.erase vif⟩)
    (hbuild : s.vifs.build = .staPlusAp) (hi : i ∈ s.vifs.slots)
    (hentry : s.vifs.vifs i = some vif) :
    BitInv ⟨{ s.vifs with scNvifs := n }.clear vif i, s.live.erase vif⟩ := by
  -- the bit that is cleared is the one of the interface's own place
  have hid : s.vifs.vapId vif = i := hinv.ids i hi vif hentry
  have hmem := hentries.entries
  rw [Vifs.clear_of_staPlusAp (s := { s.vifs with scNvifs := n }) hbuild] at hmem ⊢
  refine ⟨hinv.noP2p, fun j hj => ?_, fun j hj v hv => ?_, fun t ht => ?_⟩
  · show Function.update s.vifs.vifBitMap (s.vifs.vapId vif) false j =
      (Function.update s.vifs.vifs i none j).isSome
    rw [hid]
    by_cases hji : j = i
    · rw [hji, Function.update_self, Function.update_self]
      rfl
    · rw [Function.update_of_ne hji, Function.update_of_ne hji]
      exact hinv.bits j hj
  · show s.vifs.vapId v = j
    replace hv : Function.update s.vifs.vifs i none j = some v := hv
    by_cases hji : j = i
    · rw [hji, Function.update_self] at hv
      cases hv
    · rw [Function.update_of_ne hji] at hv
      exact hinv.ids j hj v hv
  · refine (Vifs.has_describe _ ht).trans ?_
    constructor
    · rintro ⟨j, hj, v, hv, htype⟩
      exact ⟨v, (hmem v).2 ⟨j, hj, hv⟩, htype⟩
    · rintro ⟨v, hv, htype⟩
      obtain ⟨j, hj, hjv⟩ := (hmem v).1 hv
      exact ⟨j, hj, v, hjv, htype⟩

end BitInv

/-! ## The two calls -/

/-- The invariant of disciplined runs. -/
structure VifInv (s : VifSys) : Prop extends EntriesInv s where
  bit : s.vifs.build = .staPlusAp → BitInv s

namespace VifInv

variable {s : VifSys} {vif : Vif} (hinv : VifInv s)

include hinv

theorem vifsOk : VifsOk s where
  entries := hinv.entries
  count := hinv.count
  occupied := hinv.occupied
  last hpos := by
    obtain ⟨vif, hvif⟩ := Option.ne_none_iff_exists'.1 (hinv.last hpos)
    have hle := occupied_le s.vifs.slots s.vifs.vifs
    rw [← hinv.occupied, Vifs.slots, List.length_range] at hle
    exact ⟨vif, (hinv.entries vif).2 ⟨_, Vifs.mem_slots.2 (by omega), hvif⟩, hvif⟩
  bits hbuild := (hinv.bit hbuild).bits
  mode hbuild := (hinv.bit hbuild).mode

/-- The standard build enters an interface behind the last one, whatever happens to its
`vap_id`. -/
theorem enterLast {t' : Vifs} (hbuild : s.vifs.build = .standard) (hnew : vif ∉ s.live)
    (hroom : s.vifs.scNvifs < s.vifs.maxVifs) (hfree : s.vifs.vifs s.vifs.scNvifs = none)
    (hset : s.vifs.SlotSet t' s.vifs.scNvifs (some vif))
    (hnum : t'.scNvifs = s.vifs.scNvifs + 1) : VifInv ⟨t', vif :: s.live⟩ where
  toEntriesInv := by
    refine hinv.enter hset hnew (Vifs.mem_slots.2 hroom) hfree hnum ?_
    rw [hset.vifs, Function.update_self]
    exact Option.some_ne_none vif
  bit h := absurd (hbuild.symm.trans (hset.build.symm.trans h)) (by decide)

/-- The other build enters it at the first clear bit. -/
theorem enterAt {i : ℕ} (hbuild : s.vifs.build = .staPlusAp) (hnew : vif ∉ s.live)
    (hclear : s.vifs.clearBit = some i) : VifInv ⟨s.vifs.enterAt vif i, vif :: s.live⟩ := by
  obtain ⟨hi, hbit, hbefore⟩ := Vifs.clearBit_some hclear
  have hbits := (hinv.bit hbuild).bits
  have hfree : s.vifs.vifs i = none := by simpa [hbits i hi] using hbit
  have hlt := Vifs.mem_slots.1 hi
  have hthree : s.vifs.maxVifs ≤ 3 := by
    rw [Vifs.maxVifs]
    split
    · exact Nat.le_refl 3
    · split_ifs <;> decide
  -- a gap below the last entry may be filled: then the place behind the last one is in use
  have hgap := occupied_eq_or_ne_none hthree hlt hfree (fun j hj hnone => ?_) (by
    have hlast := hinv.last
    rwa [hinv.occupied] at hlast)
  · refine ⟨hinv.enter ⟨rfl, rfl, rfl, rfl⟩ hnew hi hfree rfl ?_,
      fun _ => (hinv.bit hbuild).enterAt hinv.toEntriesInv hnew⟩
    show Function.update s.vifs.vifs i (some vif) s.vifs.scNvifs ≠ none
    rw [hinv.occupied]
    by_cases hji : SlotTable.occupied s.vifs.slots s.vifs.vifs = i
    · rw [hji, Function.update_self]
      exact Option.some_ne_none vif
    · rw [Function.update_of_ne hji]
      exact hgap.resolve_left hji
  · have hset := hbits j (Vifs.mem_slots.2 (by omega))
    rw [hbefore j hj, hnone] at hset
    cases hset

theorem addInterface {assoc : Bool} {setVap : ℤ} (hnew : vif ∉ s.live)
    (hdisc : VifDiscipline s (.addInterface vif assoc setVap)) :
    VifInv ⟨(s.vifs.addInterface vif assoc setVap).2,
      if (s.vifs.addInterface vif assoc setVap).1 == 0 then vif :: s.live else s.live⟩ := by
  have hrefused {err : ℤ} (herr : err ≠ 0)
      (h : s.vifs.addInterface vif assoc setVap = (err, s.vifs)) :
      VifInv ⟨(s.vifs.addInterface vif assoc setVap).2,
        if (s.vifs.addInterface vif assoc setVap).1 == 0 then vif :: s.live else s.live⟩ := by
    rw [h, if_neg (by simpa using herr)]
    exact hinv
  cases hrefusal : s.vifs.refusal vif assoc with
  | some err =>
    exact hrefused (Vifs.refusal_ne_zero hrefusal) (by rw [Vifs.addInterface, hrefusal])
  | none =>
    cases hmode : (s.vifs.type vif).intfMode with
    | none =>
      refine hrefused (show EINVAL ≠ 0 by decide) ?_
      simp only [Vifs.addInterface, hrefusal, hmode]
    | some mode =>
      obtain ⟨hstandard, hplus⟩ := hdisc ⟨hrefusal, by simp [hmode]⟩
      cases hbuild : s.vifs.build with
      | standard =>
        obtain ⟨hroom, hfree, hsent⟩ := hstandard hbuild
        obtain ⟨t, henter, hset, hnum, hsniffer⟩ := Vifs.enter_standard
          (s := s.vifs.setP2pEnabled (s.vifs.p2pEnabled || (s.vifs.type vif).isP2p)) hbuild hroom
          vif mode
        rw [Vifs.addInterface_of_enter hrefusal hmode henter hsniffer hsent]
        exact hinv.enterLast hbuild hnew hroom hfree
          ⟨hset.build, hset.configP2p, hset.type, hset.vifs⟩ hnum
      | staPlusAp =>
        obtain ⟨hnoP2p, hsent⟩ := hplus hbuild
        have hp2p :
            s.vifs.setP2pEnabled (s.vifs.p2pEnabled || (s.vifs.type vif).isP2p) = s.vifs := by
          rw [hnoP2p, Bool.or_false]
          rfl
        have henter := Vifs.enter_staPlusAp hbuild (hinv.bit hbuild).noP2p vif mode
        -- without a clear bit the call is refused before anything is entered
        cases hclear : s.vifs.clearBit with
        | none =>
          rw [hclear] at henter
          refine hrefused (show EPERM ≠ 0 by decide) ?_
          simp only [Vifs.addInterface, hrefusal, hmode, hp2p, henter, Option.map_none]
        | some i =>
          rw [hclear, Option.map_some] at henter
          rw [Vifs.addInterface_of_enter hrefusal hmode
            ((congrArg (Vifs.enter · vif mode) hp2p).trans henter) rfl (hsent (by simp [hclear]))]
          exact hinv.enterAt hbuild hnew hclear

theorem removeInterface (hlive : vif ∈ s.live) (hdisc : VifDiscipline s (.removeInterface vif)) :
    VifInv ⟨s.vifs.removeInterface vif, s.live.erase vif⟩ := by
  obtain ⟨i, hi, hentry⟩ := (hinv.entries vif).1 hlive
  have hfind : findKey s.vifs.slots s.vifs.vifs id vif = some i :=
    (findKey_eq_some_iff hinv.distinct).2 ⟨hi, vif, hentry, rfl⟩
  have hpos : s.vifs.scNvifs ≠ 0 := by
    have hlen := List.length_pos_of_mem hlive
    have hcount := hinv.count
    omega
  simp only [Vifs.removeInterface, if_neg hpos, hfind, if_pos hdisc.1]
  have hset : s.vifs.SlotSet ({ s.vifs with scNvifs := s.vifs.scNvifs - 1 }.clear vif i) i none :=
    have hset := Vifs.slotSet_clear { s.vifs with scNvifs := s.vifs.scNvifs - 1 } vif i
    ⟨hset.build, hset.configP2p, hset.type, hset.vifs⟩
  have hclear := hinv.clear hset hi hentry (Vifs.scNvifs_clear ..) hdisc.2
  exact ⟨hclear, fun hbuild =>
    (hinv.bit (hset.build ▸ hbuild)).clear hclear (hset.build ▸ hbuild) hi hentry⟩

end VifInv

theorem VifInv.init {s : VifSys} (h : VifSys.system.Init s) : VifInv s := by
  obtain ⟨hempty, hnum, hp2p, hbits, hmode, hlive⟩ := h
  refine ⟨⟨fun vif => ?_, fun i _ j _ vif hvif => ?_, ?_, ?_, ?_, fun hpos => ?_⟩,
    fun _ => ⟨hp2p, fun i _ => ?_, fun i _ vif hvif => ?_, fun t ht => ?_⟩⟩
  · simp [hlive, hempty]
  · rw [hempty i] at hvif
    cases hvif
  · rw [hlive]
    exact List.nodup_nil
  · rw [hnum, hlive, List.length_nil]
  · rw [hnum, occupied_eq_zero fun i _ => hempty i]
  · omega
  · rw [hbits, hempty]
    rfl
  · rw [hempty i] at hvif
    cases hvif
  · rcases ht with rfl | rfl <;> simp [hmode, hlive, VapMode.noVap, VapMode.has]

/-- In every run that keeps to the discipline, the table holds the live interfaces. -/
theorem vifsOk_of_discipline {s : VifSys} (h : VifSys.system.ReachableVia VifDiscipline s) :
    VifsOk s := by
  have hinv : VifInv s := by
    refine h.invariant VifInv (fun _ => .init) fun s a s' hinv hdisc hstep => ?_
    cases a with
    | addInterface vif assoc setVap =>
      by_cases hlive : vif ∈ s.live
      · simp only [VifSys.system, VifSys.step, if_pos hlive, reduceCtorEq] at hstep
      · simp only [VifSys.system, VifSys.step, if_neg hlive, Option.some.injEq] at hstep
        exact hstep ▸ hinv.addInterface hlive hdisc
    | removeInterface vif =>
      by_cases hlive : vif ∈ s.live
      · simp only [VifSys.system, VifSys.step, if_pos hlive, Option.some.injEq] at hstep
        exact hstep ▸ hinv.removeInterface hlive hdisc
      · simp only [VifSys.system, VifSys.step, if_neg hlive, reduceCtorEq] at hstep
  exact hinv.vifsOk

/-- A station interface joins a P2P device and a P2P client, another one is refused, and they
leave in the reverse order. -/
def p2pSchedule : List VifAct :=
  [.addInterface 1 false 0, .addInterface 4 false 0, .addInterface 2 false 0,
    .addInterface 3 false 0, .removeInterface 3]

/-- The state at the end of `p2pSchedule`. -/
def p2pState : VifSys := (VifSys.system.runVia VifDiscipline .start p2pSchedule).get rfl

/-- The discipline is kept by a run with three interfaces. -/
theorem vifsOk_p2pState : p2pState.live = [2, 1] ∧ VifsOk p2pState :=
  ⟨rfl, vifsOk_of_discipline (TransitionSystem.reachableVia_get VifSys.init_start rfl)⟩

end Interface
