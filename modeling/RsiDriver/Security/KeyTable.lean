import RsiDriver.Security.GroupKey
import RsiDriver.Station.Table

/-!
# The key table of the firmware

Keys reach the firmware as `SET_KEY_REQ` frames. `loadKey`, `halKeyConfig` and `setKey` are
`rsi_load_key` (`rsi_91x_mgmt.c`), `rsi_hal_key_config` and `rsi_mac80211_set_key`
(`rsi_91x_mac80211.c`), as far as they queue such frames and set `common->key`; `staAdd` is
`rsi_mac80211_sta_add`, which loads a WEP key for a station that joins. One interface is followed,
so that `vifs[sc_nvifs - 1]` is the interface of the call.

The firmware is a table that the frames write to: a frame without any of the security bits clears
its entry, and every other frame is the new entry.

`DISABLE_KEY` takes the path of `SET_KEY`. The frame it queues carries the key, and the entry stays.

## Main results

* `not_keyTableOk`: a disabled key is still in the table;
* `keyTableOk_of_discipline`: in the runs that keep to `KeyTableDiscipline`, where no key is
  disabled, the table holds the installed keys.
-/

namespace Security

open Tx (MacAddr IfType)
open Station (Sta isApType)

/-- The type of a key: `RSI_PAIRWISE_KEY` or `RSI_GROUP_KEY`. -/
inductive KeyType
  | pairwise
  | group
  deriving DecidableEq, Repr

/-- `WLAN_CIPHER_SUITE_WEP40` or `WLAN_CIPHER_SUITE_WEP104` -/
def Cipher.isWep : Cipher → Bool
  | .wep40 | .wep104 => true
  | _ => false

/-- `struct ieee80211_key_conf` with the key itself. -/
structure Key extends KeyConf where
  keylen : ℕ
  /-- The bytes from `key->key` on. -/
  key : ℕ → BitVec 8

/-- Two keys are the same to the firmware. -/
def Key.Same (a b : Key) : Prop :=
  a.cipher = b.cipher ∧ a.keylen = b.keylen ∧ ∀ j < a.keylen, a.key j = b.key j

instance (a b : Key) : Decidable (a.Same b) := inferInstanceAs (Decidable (_ ∧ _ ∧ _))

/-- The type that `rsi_hal_key_config` gives a key. -/
def Key.keyType (k : Key) : KeyType := if k.pairwise then .pairwise else .group

/-- A `SET_KEY_REQ` frame, `struct rsi_set_key`. -/
structure SetKey where
  /-- Bit 1 of the descriptor. -/
  keyType : KeyType
  /-- `BIT(7)` of the descriptor: a group key of an access point. -/
  apGroup : Bool
  /-- `BIT(2)` -/
  wep : Bool
  /-- `BIT(3)` -/
  wep104 : Bool
  /-- `BIT(4)` -/
  sec : Bool
  /-- `BIT(5)` -/
  tkip : Bool
  /-- The two upper bits of the descriptor. -/
  keyId : BitVec 2
  /-- `desc_word[7]`, the station and the interface. -/
  peer : ℕ
  /-- `key[4][32]`, row by row. -/
  key : ℕ → BitVec 8
  txMicKey : ℕ → BitVec 8
  rxMicKey : ℕ → BitVec 8

/-- An index of the firmware's table. -/
structure KeyIndex where
  staId : ℕ
  vapId : ℕ
  keyType : KeyType
  keyId : ℕ
  deriving DecidableEq, Repr

namespace SetKey

/-- The entry that a frame is about. -/
def index (f : SetKey) : KeyIndex := ⟨f.peer % 256, f.peer / 256, f.keyType, f.keyId.toNat⟩

/-- A frame without a cipher. -/
def clears (f : SetKey) : Bool := !f.wep && !f.sec

/-- Where `rsi_load_key` puts the first byte of a key. -/
def offset (k : Key) : ℕ := if k.cipher.isWep then 32 * k.keyidx.toNat + 1 else 0

/-- The frame installs the key. -/
def Holds (f : SetKey) (k : Key) : Prop :=
  f.wep = k.cipher.isWep ∧ f.sec = !k.cipher.isWep ∧ f.tkip = (k.cipher == .tkip) ∧
    ∀ j < k.keylen, f.key (offset k + j) = k.key j

end SetKey

/-- The table after the frames, in order. -/
def replay (frames : List SetKey) : KeyIndex → Option SetKey :=
  frames.foldl (fun t f => Function.update t f.index (if f.clears then none else some f))
    fun _ => none

/-- A pointer to a `struct ieee80211_key_conf`. -/
abbrev KeyPtr := ℕ

/-- `-ENOMEM` -/
def ENOMEM : ℤ := -12

/-- The driver: one interface, its stations, and the frames that `rsi_load_key` has queued. -/
structure KeyHost where
  type : IfType
  vapId : BitVec 8
  conf : KeyPtr → Key
  table : Station.Table
  /-- `common->key` -/
  key : Option KeyPtr
  frames : List SetKey

namespace KeyHost

/-- The frame that `rsi_load_key` builds. The cipher `none` is `KEY_TYPE_CLEAR`. -/
def setKeyFrame (s : KeyHost) (data : Option (ℕ → BitVec 8)) (keyLen : ℕ) (keyType : KeyType)
    (keyId : BitVec 8) (cipher : Option Cipher) (staId : ℤ) : SetKey :=
  let wep := cipher.any Cipher.isWep
  let keyId := if keyType = .pairwise ∧ wep = false then 0 else keyId
  let copy (offset : ℕ) (len : ℕ) (j : ℕ) : BitVec 8 :=
    match data with
    | some data => if offset ≤ j ∧ j < offset + len then data (j - offset) else 0
    | none => 0
  { keyType
    apGroup := decide (keyType = .group) && isApType s.type
    wep
    wep104 := wep && decide (13 ≤ keyLen)
    sec := cipher.isSome && !wep
    tkip := cipher == some .tkip
    keyId := keyId.setWidth 2
    peer := (staId % 65536).toNat ||| s.vapId.toNat <<< 8
    -- twice the length of a WEP key is copied
    key := if wep then copy (32 * keyId.toNat + 1) (keyLen * 2) else copy 0 keyLen
    txMicKey := fun j => (data.map (· (16 + j))).getD 0
    rxMicKey := fun j => (data.map (· (24 + j))).getD 0 }

/-- `rsi_send_internal_mgmt_frame` -/
def queue (s : KeyHost) (f : SetKey) : KeyHost := { s with frames := s.frames ++ [f] }

/-- `rsi_load_key` and its return code. `alloc` tells whether `dev_alloc_skb` succeeds. -/
def loadKey (s : KeyHost) (data : Option (ℕ → BitVec 8)) (keyLen : ℕ) (keyType : KeyType)
    (keyId : BitVec 8) (cipher : Option Cipher) (staId : ℤ) (alloc : Bool) : ℤ × KeyHost :=
  if !alloc then (ENOMEM, s)
  else if keyType = .pairwise ∧ isApType s.type = true ∧ s.table.maxStations ≤ staId then (-1, s)
  else (0, s.queue (s.setKeyFrame data keyLen keyType keyId cipher staId))

/-- The call of `rsi_load_key` for a key that mac80211 handed over: all callers make it so. -/
def load (s : KeyHost) (key : Key) (keyType : KeyType) (staId : ℤ) (alloc : Bool) : ℤ × KeyHost :=
  s.loadKey (some key.key) key.keylen keyType key.keyidx (some key.cipher) staId alloc

/-- The station id under which `rsi_hal_key_config` loads a key of an access point. -/
def apStaId (s : KeyHost) (sta : Option MacAddr) : ℤ :=
  match sta.bind s.table.findSta with
  | some i => (s.table.stations i).staId
  | none => 0

/-- `rsi_hal_key_config` and its return code; `alloc0` and `alloc` are the allocations for the
extra frame of a WEP key and for the frame of the key. The unblocking of the data queues behind a
WEP key is left out. -/
def halKeyConfig (s : KeyHost) (k : KeyPtr) (sta : Option MacAddr) (alloc0 alloc : Bool) :
    ℤ × KeyHost :=
  let key := s.conf k
  if isApType s.type then
    { s with key := some k }.load key key.keyType (s.apStaId sta) alloc
  else if key.cipher.isWep then
    let (status, s) := s.load key .pairwise 0 alloc0
    if status ≠ 0 then (status, s) else s.load key key.keyType 0 alloc
  else s.load key key.keyType 0 alloc

/-- `rsi_mac80211_set_key` and its return code. -/
def setKey (s : KeyHost) (cmd : SetKeyCmd) (k : KeyPtr) (sta : Option MacAddr)
    (alloc0 alloc : Bool) : ℤ × KeyHost :=
  if (s.conf k).keyidx = RSI_AES_CMAC then (0, s)
  else
    match cmd with
    | .setKey | .disableKey => s.halKeyConfig k sta alloc0 alloc

/-- The station is put into a slot that it had not before. -/
def isNew (s : KeyHost) (sta : Sta) : Bool :=
  isApType s.type && decide (s.table.numStations < s.table.maxStations) &&
    (s.table.existing sta.addr).isNone

/-- The key that `rsi_mac80211_sta_add` loads for a new station. -/
def loadWepKey (s : KeyHost) (i : ℕ) (alloc : Bool) : KeyHost :=
  match s.key.map s.conf with
  | some key =>
    if key.cipher.isWep then (s.load key .pairwise i alloc).2 else s
  | none => s

/-- `rsi_mac80211_sta_add` -/
def staAdd (s : KeyHost) (sta : Sta) (alloc : Bool) : KeyHost :=
  let t := { s with table := (s.table.staAdd s.type sta).2 }
  if s.isNew sta then t.loadWepKey s.table.freeIndex alloc else t

/-! ## The indices of a key -/

/-- The station id of a key: that of its station on an access point. -/
def stationOf (s : KeyHost) : Option MacAddr → Option ℕ
  | some addr => if isApType s.type then s.table.existing addr else some 0
  | none => some 0

/-- The index of a key. The firmware has one pairwise key for a station, unless it is a WEP key. -/
def home (s : KeyHost) (p : KeyPtr × Option MacAddr) : Option KeyIndex :=
  let key := s.conf p.1
  (s.stationOf p.2).map fun staId =>
    { staId
      vapId := s.vapId.toNat
      keyType := key.keyType
      keyId := if key.pairwise && !key.cipher.isWep then 0 else key.keyidx.toNat }

/-- The index for unicast frames of a WEP key. -/
def wepIndex (s : KeyHost) (key : Key) (staId : ℕ) : KeyIndex :=
  ⟨staId, s.vapId.toNat, .pairwise, key.keyidx.toNat⟩

/-- A WEP key is also used for unicast frames: on an access point, the default keys for those of
any station. -/
def IsCopy (s : KeyHost) (key : Key) (i : KeyIndex) : Prop :=
  key.cipher.isWep = true ∧
    if isApType s.type then
      key.pairwise = false ∧ ∃ slot ∈ s.table.apSlots, s.table.entry slot ≠ none ∧
        i = s.wepIndex key slot
    else i = s.wepIndex key 0

end KeyHost

/-! ## Runs -/

/-- The driver, and what mac80211 knows about the keys. -/
structure KeyTableSys where
  host : KeyHost
  /-- The keys that were installed and not disabled since, with their stations. -/
  installed : List (KeyPtr × Option MacAddr)
  /-- The keys that were disabled and not installed since. -/
  disabled : List KeyPtr
  /-- The frames that `DISABLE_KEY` queued. -/
  deletes : List SetKey
  /-- The disabled keys that were read through `common->key`. -/
  staleUses : List KeyPtr

/-- Calls of mac80211. -/
inductive KeyTableAct
  | setKey (cmd : SetKeyCmd) (k : KeyPtr) (sta : Option MacAddr) (alloc0 alloc : Bool)
  | staAdd (sta : Sta) (alloc : Bool)
  deriving DecidableEq

namespace KeyTableSys

/-- One call. -/
def step (s : KeyTableSys) : KeyTableAct → Option KeyTableSys
  | .setKey .setKey k sta alloc0 alloc =>
    let (status, host) := s.host.setKey .setKey k sta alloc0 alloc
    if status = 0 then
      some { s with
        host
        installed := s.installed.insert (k, sta)
        disabled := s.disabled.filter (· ≠ k) }
    else some { s with host }
  | .setKey .disableKey k sta alloc0 alloc =>
    let (_, host) := s.host.setKey .disableKey k sta alloc0 alloc
    some { s with
      host
      installed := s.installed.erase (k, sta)
      disabled := k :: s.disabled
      deletes := s.deletes ++ host.frames.drop s.host.frames.length }
  | .staAdd sta alloc =>
    some { s with
      host := s.host.staAdd sta alloc
      staleUses := s.staleUses ++
        if s.host.isNew sta then s.host.key.toList.filter (· ∈ s.disabled) else [] }

/-- Runs start without stations and keys. -/
def system : TransitionSystem KeyTableSys KeyTableAct where
  Init s := s.host.table.maxStations ∈ Station.rsiMaxApStas ∧
    (∀ i, s.host.table.entry i = none) ∧ s.host.key = none ∧ s.host.frames = [] ∧
    s.installed = [] ∧ s.disabled = [] ∧ s.deletes = [] ∧ s.staleUses = []
  step := step

/-- The table of the firmware. -/
def table (s : KeyTableSys) : KeyIndex → Option SetKey := replay s.host.frames

end KeyTableSys

/-- The table holds the installed keys, and `DISABLE_KEY` has ended the use of the others. -/
structure KeyTableOk (s : KeyTableSys) : Prop where
  held : ∀ p ∈ s.installed, ∃ i f, s.host.home p = some i ∧ s.table i = some f ∧
    f.Holds (s.host.conf p.1)
  only : ∀ i f, s.table i = some f → ∃ p ∈ s.installed, f.Holds (s.host.conf p.1) ∧
    (s.host.home p = some i ∨ s.host.IsCopy (s.host.conf p.1) i)
  deletes : ∀ f ∈ s.deletes, f.clears = true
  fresh : s.staleUses = []

namespace KeyHost

/-- The key id of a frame can be told from two bits. -/
def KeyIdOk (key : Key) : Prop :=
  (key.pairwise = true ∧ key.cipher.isWep = false) ∨ key.keyidx.toNat < 4

/-- The station of a key is known to the driver. -/
def StationKnown (s : KeyHost) (sta : Option MacAddr) : Prop :=
  isApType s.type = true →
    (sta.all fun addr => !addr.isBroadcast && (s.table.existing addr).isSome) = true

/-- A key that is loaded twice. -/
def LoadsTwice (s : KeyHost) (key : Key) : Prop := isApType s.type = false ∧ key.cipher.isWep = true

instance (key : Key) : Decidable (KeyIdOk key) := inferInstanceAs (Decidable (_ ∨ _))

instance (s : KeyHost) (sta : Option MacAddr) : Decidable (s.StationKnown sta) :=
  inferInstanceAs (Decidable (_ → _ = _))

instance (s : KeyHost) (key : Key) : Decidable (s.LoadsTwice key) :=
  inferInstanceAs (Decidable (_ ∧ _))

end KeyHost

/-- No other key is overwritten at the index `i`. -/
def KeyTableSys.Spares (s : KeyTableSys) (key : Key) (i : Option KeyIndex) : Prop :=
  ∀ p ∈ s.installed, s.host.home p = i → (s.host.conf p.1).Same key

instance (s : KeyTableSys) (key : Key) (i : Option KeyIndex) : Decidable (s.Spares key i) :=
  inferInstanceAs (Decidable (∀ _ ∈ s.installed, _ → _))

/-- The condition on each step. No key is disabled. A key that is installed has a key id that the
frame can express, its station is known, it overwrites no other key, and both its frames are queued
or none. A WEP key that is loaded for a new station is an installed default key, and overwrites no
other key. -/
def KeyTableDiscipline (s : KeyTableSys) : KeyTableAct → Prop
  | .setKey .disableKey k _ _ _ => (s.host.conf k).keyidx = RSI_AES_CMAC
  | .setKey .setKey k sta alloc0 alloc =>
      (s.host.conf k).keyidx ≠ RSI_AES_CMAC ∧
      (s.host.LoadsTwice (s.host.conf k) → alloc0 = true → alloc = true) ∧
      (alloc = true → KeyHost.KeyIdOk (s.host.conf k) ∧ s.host.StationKnown sta ∧
        s.Spares (s.host.conf k) (s.host.home (k, sta)) ∧
        (s.host.LoadsTwice (s.host.conf k) →
          s.Spares (s.host.conf k) (some (s.host.wepIndex (s.host.conf k) 0))))
  | .staAdd sta alloc => s.host.isNew sta = true → alloc = true →
      s.host.table.freeIndex < s.host.table.maxStations →
      ∀ k ∈ s.host.key, (s.host.conf k).cipher.isWep = true →
        (s.host.conf k).pairwise = false ∧ k ∈ s.installed.map Prod.fst ∧
        s.Spares (s.host.conf k) (some (s.host.wepIndex (s.host.conf k) s.host.table.freeIndex))

instance (s : KeyTableSys) (a : KeyTableAct) : Decidable (KeyTableDiscipline s a) :=
  match a with
  | .setKey .disableKey _ _ _ _ => inferInstanceAs (Decidable (_ = _))
  | .setKey .setKey _ _ _ _ =>
    inferInstanceAs (Decidable (_ ≠ _ ∧ (_ → _ → _) ∧ (_ → _ ∧ _ ∧ _ ∧ (_ → _))))
  | .staAdd _ _ =>
    inferInstanceAs (Decidable (_ → _ → _ < _ → ∀ _ ∈ s.host.key, _ → _ ∧ _ ∧ _))

/-! ## The disabled key -/

/-- An interface of the given type; key 0 is a CCMP group key, key 1 a WEP default key. -/
def KeyTableSys.start (type : IfType) : KeyTableSys where
  host :=
    { type
      vapId := 0
      conf := fun k => if k = 1 then ⟨⟨.wep40, 0, false⟩, 5, fun _ => 0xaa⟩
        else ⟨⟨.ccmp, 1, false⟩, 16, fun _ => 0x55⟩
      table := ⟨.standard, 4, fun _ => ⟨none, 0, fun _ => 0, fun _ => 0, fun _ => false⟩, 0⟩
      key := none
      frames := [] }
  installed := []
  disabled := []
  deletes := []
  staleUses := []

theorem KeyTableSys.init_start (type : IfType) : KeyTableSys.system.Init (.start type) :=
  ⟨(by decide : 4 ∈ Station.rsiMaxApStas), fun _ => rfl, rfl, rfl, rfl, rfl, rfl, rfl⟩

/-- A group key is installed and disabled. -/
def disableSchedule : List KeyTableAct :=
  [.setKey .setKey 0 none true true, .setKey .disableKey 0 none true true]

/-- The disabled key is still in the table. -/
theorem not_keyTableOk : ¬ ∀ s, KeyTableSys.system.Reachable s → KeyTableOk s := by
  refine TransitionSystem.not_forall_reachable_of_run disableSchedule
    (KeyTableSys.init_start .station) rfl fun hok => ?_
  obtain ⟨p, hp, -⟩ := hok.only ⟨0, 0, .group, 1⟩ _ rfl
  cases hp

/-! ## The frame of a key -/

theorem replay_concat (frames : List SetKey) (f : SetKey) :
    replay (frames ++ [f]) =
      Function.update (replay frames) f.index (if f.clears then none else some f) := by
  rw [replay, List.foldl_append]
  rfl

/-- The same bytes at the same place are the same key. -/
theorem SetKey.Holds.of_same {f : SetKey} {a b : Key} (h : f.Holds a) (hsame : b.Same a)
    (hid : b.cipher.isWep = true → b.keyidx = a.keyidx) : f.Holds b := by
  obtain ⟨hwep, hsec, htkip, hkey⟩ := h
  obtain ⟨hcipher, hlen, hbytes⟩ := hsame
  have hoffset : offset b = offset a := by
    rw [offset, offset, hcipher]
    split_ifs with hw
    · rw [hid (hcipher ▸ hw)]
    · rfl
  refine ⟨hcipher ▸ hwep, hcipher ▸ hsec, hcipher ▸ htkip, fun j hj => ?_⟩
  rw [hoffset, hkey j (hlen ▸ hj), hbytes j hj]

theorem SetKey.Holds.not_clears {f : SetKey} {k : Key} (h : f.Holds k) : f.clears = false := by
  rw [clears, h.1, h.2.1]
  cases k.cipher.isWep <;> rfl

namespace KeyHost

variable {s : KeyHost} {key : Key} {kt : KeyType}

/-- The station and the interface can be read off the frame. -/
theorem peer_eq (staId : ℕ) (vapId : BitVec 8) (hsta : staId < 256) :
    ((staId : ℤ) % 65536).toNat ||| vapId.toNat <<< 8 = vapId.toNat * 256 + staId := by
  have hmod : ((staId : ℤ) % 65536).toNat = staId := by omega
  rw [hmod, Nat.or_comm, ← Nat.shiftLeft_add_eq_or_of_lt (by omega : staId < 2 ^ 8),
    Nat.shiftLeft_eq]

/-- The frame that `load` queues. -/
def keyFrame (s : KeyHost) (key : Key) (kt : KeyType) (staId : ℤ) : SetKey :=
  s.setKeyFrame (some key.key) key.keylen kt key.keyidx (some key.cipher) staId

/-- The key id that the frame carries. -/
theorem keyId_frame {id : ℕ} (hid : if kt = .pairwise ∧ key.cipher.isWep = false then id = 0
      else id = key.keyidx.toNat ∧ id < 4) (staId : ℤ) :
    (s.keyFrame key kt staId).keyId.toNat = id := by
  simp only [keyFrame, setKeyFrame, Option.any_some]
  split_ifs at hid ⊢ with h
  · rw [hid]
    rfl
  · rw [BitVec.toNat_setWidth, ← hid.1, Nat.mod_eq_of_lt hid.2]

/-- What the frame of a key says. -/
theorem index_frame {id staId : ℕ} (hsta : staId < 256)
    (hid : if kt = .pairwise ∧ key.cipher.isWep = false then id = 0
      else id = key.keyidx.toNat ∧ id < 4) :
    (s.keyFrame key kt staId).index = ⟨staId, s.vapId.toNat, kt, id⟩ := by
  have hpeer : (s.keyFrame key kt staId).peer = s.vapId.toNat * 256 + staId :=
    peer_eq staId s.vapId hsta
  rw [SetKey.index, keyId_frame hid, hpeer, KeyIndex.mk.injEq]
  refine ⟨by omega, by omega, rfl, rfl⟩

theorem holds_frame (staId : ℤ) : (s.keyFrame key kt staId).Holds key := by
  refine ⟨rfl, by simp [keyFrame, setKeyFrame], by simp [keyFrame, setKeyFrame], fun j hj => ?_⟩
  cases hwep : key.cipher.isWep with
  | true =>
    -- the frame of a WEP key holds it at the place of its key id
    have hin : 32 * key.keyidx.toNat + 1 ≤ 32 * key.keyidx.toNat + 1 + j ∧
        32 * key.keyidx.toNat + 1 + j < 32 * key.keyidx.toNat + 1 + key.keylen * 2 := by
      omega
    simp only [keyFrame, setKeyFrame, SetKey.offset, Option.any_some, hwep, Bool.true_eq_false,
      and_false, if_true, if_false, if_pos hin, Nat.add_sub_cancel_left]
  | false => simp [keyFrame, setKeyFrame, SetKey.offset, hwep, hj]

/-- A key is loaded or nothing happens. -/
theorem load_cases (s : KeyHost) (key : Key) (kt : KeyType) (staId : ℤ) (alloc : Bool) :
    ((s.load key kt staId alloc).1 ≠ 0 ∧ (s.load key kt staId alloc).2 = s) ∨
    (alloc = true ∧ (kt = .pairwise → isApType s.type = true → staId < s.table.maxStations) ∧
      s.load key kt staId alloc = (0, s.queue (s.keyFrame key kt staId))) := by
  unfold load loadKey
  split_ifs with halloc hsta
  · exact .inl ⟨(by decide : ENOMEM ≠ 0), rfl⟩
  · exact .inl ⟨(by decide : (-1 : ℤ) ≠ 0), rfl⟩
  · refine .inr ⟨by simpa using halloc, fun hkt hap => ?_, rfl⟩
    exact not_le.1 fun hle => hsta ⟨hkt, hap, hle⟩

theorem load_of_not_ap (hap : isApType s.type = false) (staId : ℤ) :
    s.load key kt staId true = (0, s.queue (s.keyFrame key kt staId)) := by
  simp [load, loadKey, hap, keyFrame]

/-! ## What a frame does to the table -/

/-- The installed key `p` is in the table at its index. -/
def Held (s : KeyHost) (p : KeyPtr × Option MacAddr) : Prop :=
  ∃ i f, s.home p = some i ∧ replay s.frames i = some f ∧ f.Holds (s.conf p.1)

/-- The key `p` belongs at the index `i`. -/
def Belongs (s : KeyHost) (p : KeyPtr × Option MacAddr) (i : KeyIndex) : Prop :=
  s.home p = some i ∨ s.IsCopy (s.conf p.1) i

/-- The table has the keys `held`, and none but the keys `only`. -/
structure Agrees (s : KeyHost) (held only : List (KeyPtr × Option MacAddr)) : Prop where
  held : ∀ p ∈ held, s.Held p
  only : ∀ i f, replay s.frames i = some f →
    ∃ p ∈ only, f.Holds (s.conf p.1) ∧ s.Belongs p i

/-- The key id in the index of a WEP key. -/
theorem keyId_home {s : KeyHost} {p : KeyPtr × Option MacAddr} {i : KeyIndex}
    (h : s.home p = some i) (hwep : (s.conf p.1).cipher.isWep = true) :
    i.keyId = (s.conf p.1).keyidx.toNat := by
  obtain ⟨n, -, rfl⟩ := Option.map_eq_some_iff.1 h
  simp [hwep]

variable {held only : List (KeyPtr × Option MacAddr)} {q : KeyPtr × Option MacAddr} {f : SetKey}

namespace Agrees

theorem mono {only' : List (KeyPtr × Option MacAddr)} (h : s.Agrees held only)
    (hsub : ∀ p ∈ only, p ∈ only') : s.Agrees held only' where
  held := h.held
  only i f hf := by
    obtain ⟨p, hp, hholds⟩ := h.only i f hf
    exact ⟨p, hsub p hp, hholds⟩

/-- A frame for the key `q`, which may overwrite keys of the same contents. -/
theorem queue (h : s.Agrees held only) (hq : q ∈ only) (hf : f.Holds (s.conf q.1))
    (hplace : s.Belongs q f.index)
    (hid : (s.conf q.1).cipher.isWep = true → f.index.keyId = (s.conf q.1).keyidx.toNat)
    (hspare : ∀ p ∈ held, s.home p = some f.index → (s.conf p.1).Same (s.conf q.1)) :
    (s.queue f).Agrees held only where
  held p hp := by
    obtain ⟨i, g, hhome, hg, hholds⟩ := h.held p hp
    by_cases hi : i = f.index
    · -- the key of `p` is overwritten, by the same bytes
      subst hi
      have hsame := hspare p hp hhome
      refine ⟨f.index, f, hhome, ?_, hf.of_same hsame fun hwep => ?_⟩
      · rw [KeyHost.queue, replay_concat, Function.update_self, hf.not_clears]
        rfl
      · -- a WEP key lies at the place of its key id in the frame
        have hkeyId := keyId_home hhome hwep
        exact BitVec.eq_of_toNat_eq (hkeyId.symm.trans (hid (hsame.1 ▸ hwep)))
    · refine ⟨i, g, hhome, ?_, hholds⟩
      rwa [KeyHost.queue, replay_concat, Function.update_of_ne hi]
  only i g hg := by
    rw [KeyHost.queue, replay_concat] at hg
    by_cases hi : i = f.index
    · subst hi
      rw [Function.update_self, hf.not_clears] at hg
      obtain rfl : f = g := by simpa using hg
      exact ⟨q, hq, hf, hplace⟩
    · rw [Function.update_of_ne hi] at hg
      exact h.only i g hg

theorem insert (h : s.Agrees held only) (hq : s.Held q) : s.Agrees (held.insert q) only where
  held p hp := by
    obtain rfl | hp := List.mem_insert_iff.1 hp
    · exact hq
    · exact h.held p hp
  only := h.only

end Agrees

theorem held_queue (hhome : s.home q = some f.index) (hf : f.Holds (s.conf q.1)) :
    (s.queue f).Held q := by
  refine ⟨f.index, f, hhome, ?_, hf⟩
  rw [queue, replay_concat, Function.update_self, hf.not_clears]
  rfl

/-- The frame of a key is about the index of the key. -/
theorem home_keyFrame {n : ℕ} (hid : KeyIdOk (s.conf q.1)) (hsta : s.stationOf q.2 = some n)
    (hn : n < 256) :
    s.home q = some (s.keyFrame (s.conf q.1) (s.conf q.1).keyType n).index := by
  have hkeyId : if (s.conf q.1).keyType = .pairwise ∧ (s.conf q.1).cipher.isWep = false
      then (if (s.conf q.1).pairwise && !(s.conf q.1).cipher.isWep then 0
        else (s.conf q.1).keyidx.toNat) = 0
      else (if (s.conf q.1).pairwise && !(s.conf q.1).cipher.isWep then 0
          else (s.conf q.1).keyidx.toNat) = (s.conf q.1).keyidx.toNat ∧
        (if (s.conf q.1).pairwise && !(s.conf q.1).cipher.isWep then 0
          else (s.conf q.1).keyidx.toNat) < 4 := by
    rw [KeyIdOk] at hid
    rw [Key.keyType]
    cases hpairwise : (s.conf q.1).pairwise <;> cases hwep : (s.conf q.1).cipher.isWep <;>
      simp_all
  rw [index_frame hn hkeyId, home, hsta]
  rfl

/-- The frame for unicast frames of a WEP key. -/
theorem index_wepFrame {n : ℕ} (hwep : key.cipher.isWep = true) (hid : KeyIdOk key)
    (hn : n < 256) : (s.keyFrame key .pairwise n).index = s.wepIndex key n := by
  have hlt : key.keyidx.toNat < 4 := by
    rw [KeyIdOk, hwep] at hid
    exact hid.resolve_left (by simp)
  exact index_frame hn (by simp [hwep, hlt])

/-! ## Installing a key -/

/-- The station id of a known station. -/
theorem apStaId_eq {sta : Option MacAddr} (hap : isApType s.type = true)
    (hmax : s.table.maxStations ≤ 32) (hknown : s.StationKnown sta)
    (hids : ∀ i ∈ s.table.apSlots, s.table.entry i ≠ none → (s.table.stations i).staId = i) :
    ∃ n < 256, s.stationOf sta = some n ∧ s.apStaId sta = n := by
  cases sta with
  | none => exact ⟨0, by decide, rfl, rfl⟩
  | some addr =>
    obtain ⟨hunicast, hsome⟩ :
        addr.isBroadcast = false ∧ (s.table.existing addr).isSome = true := by
      simpa using hknown hap
    obtain ⟨i, hi⟩ := Option.isSome_iff_exists.1 hsome
    obtain ⟨hmem, sta, hsta, -⟩ := SlotTable.findKey_some hi
    have hlt := (Station.Table.mem_apSlots.1 hmem).2
    refine ⟨i, by omega, by simp [stationOf, hap, hi], ?_⟩
    have hentry : s.table.entry i ≠ none := by rw [Option.mem_def.1 hsta]; simp
    rw [apStaId, Option.bind_some, s.table.findSta_of_unicast hunicast, hi]
    exact hids i hmem hentry

/-- What `rsi_hal_key_config` does on an access point. -/
theorem halKeyConfig_ap (hap : isApType s.type = true) (k : KeyPtr) (sta : Option MacAddr)
    (alloc0 alloc : Bool) :
    s.halKeyConfig k sta alloc0 alloc =
      { s with key := some k }.load (s.conf k) (s.conf k).keyType (s.apStaId sta) alloc := by
  simp only [halKeyConfig, hap, if_true]

/-- Away from an access point every key is one of the station 0. -/
theorem stationOf_of_not_ap (hap : isApType s.type = false) (sta : Option MacAddr) :
    s.stationOf sta = some 0 := by
  cases sta <;> simp [stationOf, hap]

namespace Agrees

/-- The frame of a key that overwrites no other one. -/
theorem install {n : ℕ} (h : s.Agrees held only) (hq : q ∈ only) (hid : KeyIdOk (s.conf q.1))
    (hsta : s.stationOf q.2 = some n) (hn : n < 256)
    (hspare : ∀ p ∈ held, s.home p = s.home q → (s.conf p.1).Same (s.conf q.1)) :
    (s.queue (s.keyFrame (s.conf q.1) (s.conf q.1).keyType n)).Agrees (held.insert q) only := by
  have hhome := home_keyFrame hid hsta hn
  refine (h.queue hq (holds_frame n) (.inl hhome) (keyId_home hhome) fun p hp heq => ?_).insert
    (held_queue hhome (holds_frame n))
  exact hspare p hp (heq.trans hhome.symm)

/-- The frame for unicast frames of a WEP key. -/
theorem copy {n : ℕ} (h : s.Agrees held only) (hq : q ∈ only) (hid : KeyIdOk (s.conf q.1))
    (hn : n < 256) (hcopy : s.IsCopy (s.conf q.1) (s.wepIndex (s.conf q.1) n))
    (hspare : ∀ p ∈ held, s.home p = some (s.wepIndex (s.conf q.1) n) →
      (s.conf p.1).Same (s.conf q.1)) :
    (s.queue (s.keyFrame (s.conf q.1) .pairwise n)).Agrees held only := by
  have hindex := index_wepFrame (s := s) hcopy.1 hid hn
  refine h.queue hq (holds_frame n) ?_ ?_ ?_ <;> rw [hindex]
  · exact .inr hcopy
  · exact fun _ => rfl
  · exact hspare

/-- A key is loaded to where it belongs, or nothing happens. -/
theorem load {staId : ℤ} {alloc : Bool} (h : s.Agrees held only) (hq : q ∈ only)
    (hok : alloc = true → KeyIdOk (s.conf q.1) ∧ (∃ n < 256, s.stationOf q.2 = some n ∧ staId = n) ∧
      ∀ p ∈ held, s.home p = s.home q → (s.conf p.1).Same (s.conf q.1)) :
    ((s.load (s.conf q.1) (s.conf q.1).keyType staId alloc).1 ≠ 0 ∧
      (s.load (s.conf q.1) (s.conf q.1).keyType staId alloc).2 = s) ∨
    ((s.load (s.conf q.1) (s.conf q.1).keyType staId alloc).1 = 0 ∧ alloc = true ∧
      (s.load (s.conf q.1) (s.conf q.1).keyType staId alloc).2.Agrees (held.insert q) only) := by
  refine (load_cases s (s.conf q.1) (s.conf q.1).keyType staId alloc).imp_right ?_
  rintro ⟨halloc, -, hload⟩
  obtain ⟨hid, ⟨n, hn, hsta, rfl⟩, hspare⟩ := hok halloc
  rw [hload]
  exact ⟨rfl, halloc, h.install hq hid hsta hn hspare⟩

/-- A WEP key of a station is loaded twice, first for unicast frames. -/
theorem halKeyConfig_wep {k : KeyPtr} {sta : Option MacAddr} {alloc0 alloc : Bool}
    (h : s.Agrees held held) (htwice : s.LoadsTwice (s.conf k))
    (hboth : alloc0 = true → alloc = true)
    (hok : alloc = true → KeyIdOk (s.conf k) ∧
      (∀ p ∈ held, s.home p = s.home (k, sta) → (s.conf p.1).Same (s.conf k)) ∧
      ∀ p ∈ held, s.home p = some (s.wepIndex (s.conf k) 0) → (s.conf p.1).Same (s.conf k)) :
    ((s.halKeyConfig k sta alloc0 alloc).1 ≠ 0 ∧
      (s.halKeyConfig k sta alloc0 alloc).2.Agrees held held) ∨
    ((s.halKeyConfig k sta alloc0 alloc).1 = 0 ∧ KeyIdOk (s.conf k) ∧
      (s.halKeyConfig k sta alloc0 alloc).2.Agrees (held.insert (k, sta))
        (held.insert (k, sta))) := by
  obtain ⟨hap, hwep⟩ := htwice
  have hins : s.Agrees held (held.insert (k, sta)) := h.mono fun p hp => List.mem_insert_of_mem hp
  have hmem : (k, sta) ∈ held.insert (k, sta) := List.mem_insert_self
  obtain ⟨hstatus, hsame⟩ | ⟨halloc0, -, hload0⟩ := load_cases s (s.conf k) .pairwise 0 alloc0
  · have hcall : s.halKeyConfig k sta alloc0 alloc = s.load (s.conf k) .pairwise 0 alloc0 := by
      simp only [KeyHost.halKeyConfig, hap, hwep, Bool.false_eq_true, if_false, if_true,
        if_pos hstatus]
    rw [hcall]
    exact .inl ⟨hstatus, hsame.symm ▸ h⟩
  · have hcall : s.halKeyConfig k sta alloc0 alloc =
        (s.queue (s.keyFrame (s.conf k) .pairwise 0)).load (s.conf k) (s.conf k).keyType 0
          alloc := by
      simp [KeyHost.halKeyConfig, hap, hwep, hload0]
    have halloc := hboth halloc0
    obtain ⟨hid, hspare, hspare0⟩ := hok halloc
    have hcopy : s.IsCopy (s.conf k) (s.wepIndex (s.conf k) 0) := ⟨hwep, by simp [hap]⟩
    have hfirst := hins.copy hmem hid (by decide) hcopy hspare0
    rw [hcall]
    refine (hfirst.load hmem fun _ => ⟨hid, ⟨0, by decide, stationOf_of_not_ap hap sta, rfl⟩,
      hspare⟩).imp (fun hfail => ?_) fun hdone => ⟨hdone.1, hid, hdone.2.2⟩
    -- the second frame does not fail where the first one was queued
    rw [halloc, load_of_not_ap (s := s.queue _) hap] at hfail
    exact absurd rfl hfail.1

/-- A call of `rsi_hal_key_config` installs the key or fails. -/
theorem halKeyConfig {k : KeyPtr} {sta : Option MacAddr} {alloc0 alloc : Bool}
    (h : s.Agrees held held) (hmax : s.table.maxStations ≤ 32)
    (hids : isApType s.type = true →
      ∀ i ∈ s.table.apSlots, s.table.entry i ≠ none → (s.table.stations i).staId = i)
    (hboth : s.LoadsTwice (s.conf k) → alloc0 = true → alloc = true)
    (hok : alloc = true → KeyIdOk (s.conf k) ∧ s.StationKnown sta ∧
      (∀ p ∈ held, s.home p = s.home (k, sta) → (s.conf p.1).Same (s.conf k)) ∧
      (s.LoadsTwice (s.conf k) → ∀ p ∈ held,
        s.home p = some (s.wepIndex (s.conf k) 0) → (s.conf p.1).Same (s.conf k))) :
    ((s.halKeyConfig k sta alloc0 alloc).1 ≠ 0 ∧
      (s.halKeyConfig k sta alloc0 alloc).2.Agrees held held) ∨
    ((s.halKeyConfig k sta alloc0 alloc).1 = 0 ∧ KeyIdOk (s.conf k) ∧
      (s.halKeyConfig k sta alloc0 alloc).2.Agrees (held.insert (k, sta))
        (held.insert (k, sta))) := by
  have hins : s.Agrees held (held.insert (k, sta)) := h.mono fun p hp => List.mem_insert_of_mem hp
  have hmem : (k, sta) ∈ held.insert (k, sta) := List.mem_insert_self
  cases hap : isApType s.type with
  | true =>
    rw [halKeyConfig_ap hap]
    refine (Agrees.load (s := { s with key := some k }) (q := (k, sta)) ⟨hins.held, hins.only⟩ hmem
      fun halloc => ?_).imp (fun hfail => ?_) fun hdone => ⟨hdone.1, (hok hdone.2.1).1, hdone.2.2⟩
    · obtain ⟨hid, hknown, hspare, -⟩ := hok halloc
      exact ⟨hid, apStaId_eq hap hmax hknown (hids hap), hspare⟩
    · refine ⟨hfail.1, ?_⟩
      rw [hfail.2]
      exact ⟨h.held, h.only⟩
  | false =>
    cases hwep : (s.conf k).cipher.isWep with
    | true =>
      have htwice : s.LoadsTwice (s.conf k) := ⟨hap, hwep⟩
      refine h.halKeyConfig_wep htwice (hboth htwice) fun halloc => ?_
      obtain ⟨hid, -, hspare, hspare0⟩ := hok halloc
      exact ⟨hid, hspare, hspare0 htwice⟩
    | false =>
      have hcall : s.halKeyConfig k sta alloc0 alloc =
          s.load (s.conf k) (s.conf k).keyType 0 alloc := by
        simp only [KeyHost.halKeyConfig, hap, hwep, Bool.false_eq_true, if_false]
      have hplace : ∃ n < 256, s.stationOf sta = some n ∧ (0 : ℤ) = n :=
        ⟨0, by decide, stationOf_of_not_ap hap sta, rfl⟩
      rw [hcall]
      refine (hins.load hmem fun halloc => ⟨(hok halloc).1, hplace, (hok halloc).2.2.1⟩).imp
        (fun hfail => ⟨hfail.1, ?_⟩) fun hdone => ⟨hdone.1, (hok hdone.2.1).1, hdone.2.2⟩
      rw [hfail.2]
      exact h

end Agrees

/-! ## A station joins -/

theorem home_setTable {t : Station.Table} (hexisting : isApType s.type = true →
      ∀ addr i, s.table.existing addr = some i → t.existing addr = some i) {i : KeyIndex}
    (h : s.home q = some i) : ({ s with table := t } : KeyHost).home q = some i := by
  obtain ⟨n, hn, rfl⟩ := Option.map_eq_some_iff.1 h
  refine Option.map_eq_some_iff.2 ⟨n, ?_, rfl⟩
  cases hsta : q.2 with
  | none =>
    rw [hsta] at hn
    exact hn
  | some addr =>
    simp only [hsta, stationOf] at hn ⊢
    split_ifs at hn ⊢ with hap
    · exact hexisting hap addr n hn
    · exact hn

/-- Stations that join move no key. -/
theorem Agrees.setTable {t : Station.Table} (h : s.Agrees held held)
    (hexisting : isApType s.type = true →
      ∀ addr i, s.table.existing addr = some i → t.existing addr = some i)
    (hentry : isApType s.type = true → ∀ i, s.table.entry i ≠ none → t.entry i ≠ none)
    (hslots : isApType s.type = true → t.apSlots = s.table.apSlots) :
    ({ s with table := t } : KeyHost).Agrees held held := by
  have hcopy {key : Key} {i : KeyIndex} (hp : s.IsCopy key i) :
      ({ s with table := t } : KeyHost).IsCopy key i := by
    obtain ⟨hwep, hp⟩ := hp
    refine ⟨hwep, ?_⟩
    split_ifs at hp with hap
    · obtain ⟨hgroup, slot, hslot, hslotEntry, hi⟩ := hp
      rw [if_pos hap]
      exact ⟨hgroup, slot, (hslots hap).symm ▸ hslot, hentry hap slot hslotEntry, hi⟩
    · rw [if_neg hap]
      exact hp
  constructor
  case held =>
    intro p hp
    obtain ⟨i, f, hi, hf⟩ := h.held p hp
    exact ⟨i, f, home_setTable hexisting hi, hf⟩
  case only =>
    intro i f hf
    obtain ⟨p, hp, hholds, hplace⟩ := h.only i f hf
    exact ⟨p, hp, hholds, hplace.imp (home_setTable hexisting) hcopy⟩

/-- The parts of the driver that `rsi_hal_key_config` leaves alone. -/
theorem halKeyConfig_frame (s : KeyHost) (k : KeyPtr) (sta : Option MacAddr)
    (alloc0 alloc : Bool) :
    ∃ key' frames', (s.halKeyConfig k sta alloc0 alloc).2 =
      { s with key := key', frames := frames' } ∧ (key' = s.key ∨ key' = some k) := by
  have hload (t : KeyHost) (key : Key) (kt : KeyType) (staId : ℤ) (alloc : Bool) :
      ∃ frames', (t.load key kt staId alloc).2 = { t with frames := frames' } := by
    obtain ⟨-, h⟩ | ⟨-, -, h⟩ := load_cases t key kt staId alloc
    · exact ⟨t.frames, h⟩
    · exact ⟨_, by rw [h]; rfl⟩
  cases hap : isApType s.type with
  | true =>
    rw [halKeyConfig_ap hap]
    obtain ⟨fs, h⟩ := hload { s with key := some k } (s.conf k) (s.conf k).keyType
      (s.apStaId sta) alloc
    exact ⟨some k, fs, h, .inr rfl⟩
  | false =>
    simp only [halKeyConfig, hap, Bool.false_eq_true, if_false]
    split_ifs
    · obtain ⟨fs, h⟩ := hload s (s.conf k) .pairwise 0 alloc0
      exact ⟨s.key, fs, h, .inl rfl⟩
    · obtain ⟨fs, h⟩ := hload s (s.conf k) .pairwise 0 alloc0
      rw [h]
      obtain ⟨fs', h'⟩ := hload { s with frames := fs } (s.conf k) (s.conf k).keyType 0 alloc
      exact ⟨s.key, fs', h', .inl rfl⟩
    · obtain ⟨fs, h⟩ := hload s (s.conf k) (s.conf k).keyType 0 alloc
      exact ⟨s.key, fs, h, .inl rfl⟩

end KeyHost

/-! ## The invariant of disciplined runs -/

/-- The table agrees with the installed keys, no key but that for management frames was disabled,
and the stations are where their ids say. -/
structure KeyTableInv (s : KeyTableSys) : Prop where
  agrees : s.host.Agrees s.installed s.installed
  max : s.host.table.maxStations ≤ 32
  ids : isApType s.host.type = true → ∀ i ∈ s.host.table.apSlots, s.host.table.entry i ≠ none →
    (s.host.table.stations i).staId = i
  idOk : ∀ p ∈ s.installed, KeyHost.KeyIdOk (s.host.conf p.1)
  installed : ∀ p ∈ s.installed, (s.host.conf p.1).keyidx ≠ RSI_AES_CMAC
  key : ∀ k ∈ s.host.key, (s.host.conf k).keyidx ≠ RSI_AES_CMAC
  disabled : ∀ k ∈ s.disabled, (s.host.conf k).keyidx = RSI_AES_CMAC
  deletes : s.deletes = []
  fresh : s.staleUses = []

namespace KeyTableInv

variable {s s' : KeyTableSys} (hinv : KeyTableInv s)

include hinv

theorem keyTableOk : KeyTableOk s where
  held := hinv.agrees.held
  only := hinv.agrees.only
  deletes f hf := by
    rw [hinv.deletes] at hf
    cases hf
  fresh := hinv.fresh

theorem setKey {k : KeyPtr} {sta : Option MacAddr} {alloc0 alloc : Bool}
    (hdisc : KeyTableDiscipline s (.setKey .setKey k sta alloc0 alloc))
    (hstep : s.step (.setKey .setKey k sta alloc0 alloc) = some s') : KeyTableInv s' := by
  obtain ⟨hcmac, hboth, hok⟩ := hdisc
  have hcall : s.host.setKey .setKey k sta alloc0 alloc = s.host.halKeyConfig k sta alloc0 alloc :=
    if_neg hcmac
  obtain ⟨key', frames', hframe, hkey⟩ := s.host.halKeyConfig_frame k sta alloc0 alloc
  have hagrees := hinv.agrees.halKeyConfig hinv.max hinv.ids hboth hok
  have hkeyOk : ∀ k' ∈ key', (s.host.conf k').keyidx ≠ RSI_AES_CMAC := by
    rcases hkey with rfl | rfl
    · exact hinv.key
    · intro k' hk'
      rw [← Option.some.inj hk']
      exact hcmac
  rw [hframe] at hagrees
  rcases hagrees with ⟨hstatus, hagrees⟩ | ⟨hstatus, hid, hagrees⟩
  · simp only [KeyTableSys.step, hcall, hframe, if_neg hstatus, Option.some.injEq] at hstep
    subst hstep
    exact { hinv with agrees := hagrees, key := hkeyOk }
  · simp only [KeyTableSys.step, hcall, hframe, if_pos hstatus, Option.some.injEq] at hstep
    subst hstep
    refine { hinv with
      agrees := hagrees, idOk := ?_, installed := ?_, key := hkeyOk, disabled := ?_ }
    · intro p hp
      obtain rfl | hp := List.mem_insert_iff.1 hp
      · exact hid
      · exact hinv.idOk p hp
    · intro p hp
      obtain rfl | hp := List.mem_insert_iff.1 hp
      · exact hcmac
      · exact hinv.installed p hp
    · intro k' hk'
      exact hinv.disabled k' (List.mem_of_mem_filter hk')

/-- Only the key for management frames is disabled, and it never reached the firmware. -/
theorem disableKey {k : KeyPtr} {sta : Option MacAddr} {alloc0 alloc : Bool}
    (hdisc : (s.host.conf k).keyidx = RSI_AES_CMAC)
    (hstep : s.step (.setKey .disableKey k sta alloc0 alloc) = some s') : KeyTableInv s' := by
  have hcall : s.host.setKey .disableKey k sta alloc0 alloc = (0, s.host) := if_pos hdisc
  -- it was not among the installed ones, so that nothing is taken away
  have herase : s.installed.erase (k, sta) = s.installed :=
    List.erase_of_not_mem fun hmem => hinv.installed _ hmem hdisc
  simp only [KeyTableSys.step, hcall, herase, List.drop_length, List.append_nil,
    Option.some.injEq] at hstep
  subst hstep
  refine { hinv with disabled := ?_ }
  intro k' hk'
  obtain rfl | hk' := List.mem_cons.1 hk'
  · exact hdisc
  · exact hinv.disabled k' hk'

/-- A station joins; its key is not loaded yet. -/
theorem join (sta : Sta) :
    KeyTableInv { s with
      host := { s.host with table := (s.host.table.staAdd s.host.type sta).2 } } where
  agrees := by
    refine hinv.agrees.setTable (fun hap addr i hi => ?_) (fun hap i hi => ?_) fun hap => ?_ <;>
      rw [Station.Table.staAdd_of_ap hap]
    · exact s.host.table.existing_apAdd sta hi
    · exact s.host.table.entry_apAdd sta hi
    · exact s.host.table.apSlots_apAdd sta
  max := by
    show (s.host.table.staAdd s.host.type sta).2.maxStations ≤ 32
    rw [Station.Table.maxStations_staAdd]
    exact hinv.max
  ids hap := by
    replace hap : isApType s.host.type = true := hap
    show ∀ i ∈ (s.host.table.staAdd s.host.type sta).2.apSlots, _
    rw [Station.Table.staAdd_of_ap hap]
    exact s.host.table.staId_apAdd sta (hinv.ids hap)
  idOk := hinv.idOk
  installed := hinv.installed
  key := hinv.key
  disabled := hinv.disabled
  deletes := hinv.deletes
  fresh := hinv.fresh

/-- The WEP key of a new station. -/
theorem loadWepKey {i : ℕ} {alloc : Bool}
    (hok : alloc = true → i < s.host.table.maxStations →
      ∀ k ∈ s.host.key, (s.host.conf k).cipher.isWep = true → ∃ sta', (k, sta') ∈ s.installed ∧
        s.host.IsCopy (s.host.conf k) (s.host.wepIndex (s.host.conf k) i) ∧
        s.Spares (s.host.conf k) (some (s.host.wepIndex (s.host.conf k) i)))
    (hap : isApType s.host.type = true) :
    KeyTableInv { s with host := s.host.loadWepKey i alloc } := by
  cases hkey : s.host.key with
  | none =>
    have hcall : s.host.loadWepKey i alloc = s.host := by simp [KeyHost.loadWepKey, hkey]
    rw [hcall]
    exact hinv
  | some k =>
    cases hwep : (s.host.conf k).cipher.isWep with
    | false =>
      have hcall : s.host.loadWepKey i alloc = s.host := by simp [KeyHost.loadWepKey, hkey, hwep]
      rw [hcall]
      exact hinv
    | true =>
      have hcall : s.host.loadWepKey i alloc =
          (s.host.load (s.host.conf k) .pairwise i alloc).2 := by
        simp [KeyHost.loadWepKey, hkey, hwep]
      rw [hcall]
      obtain ⟨-, hsame⟩ | ⟨halloc, hlt, hload⟩ :=
        KeyHost.load_cases s.host (s.host.conf k) .pairwise i alloc
      · rw [hsame]
        exact hinv
      · have hi : i < s.host.table.maxStations := by exact_mod_cast hlt rfl hap
        obtain ⟨sta', hmem, hcopy, hspare⟩ := hok halloc hi k hkey hwep
        have hmax := hinv.max
        have hid := hinv.idOk (k, sta') hmem
        rw [hload]
        exact { hinv with
          agrees := hinv.agrees.copy hmem hid (by omega) hcopy hspare
          key := hinv.key }

/-- No key of the interface is read after it was disabled. -/
theorem filter_disabled : s.host.key.toList.filter (· ∈ s.disabled) = [] := by
  rw [List.filter_eq_nil_iff]
  intro k hk hdis
  exact hinv.key k (Option.mem_toList.1 hk) (hinv.disabled k (by simpa using hdis))

theorem staAdd {sta : Sta} {alloc : Bool} (hdisc : KeyTableDiscipline s (.staAdd sta alloc))
    (hstep : s.step (.staAdd sta alloc) = some s') : KeyTableInv s' := by
  have hjoin := hinv.join sta
  simp only [KeyTableSys.step, hinv.filter_disabled, ite_self, List.append_nil,
    Option.some.injEq] at hstep
  subst hstep
  cases hnew : s.host.isNew sta with
  | false =>
    simp only [KeyHost.staAdd, hnew, Bool.false_eq_true, if_false]
    exact hjoin
  | true =>
    simp only [KeyHost.staAdd, hnew, if_true]
    have hnew' := hnew
    simp only [KeyHost.isNew, Bool.and_eq_true, decide_eq_true_eq, Option.isNone_iff_eq_none]
      at hnew'
    obtain ⟨⟨hap, hroom⟩, hexisting⟩ := hnew'
    refine hjoin.loadWepKey (fun halloc hlt k hk hwep => ?_) hap
    replace hlt : s.host.table.freeIndex < s.host.table.maxStations := by
      rwa [← Station.Table.maxStations_staAdd s.host.table s.host.type sta]
    obtain ⟨hgroup, hmem, hspare⟩ := hdisc hnew halloc hlt k hk hwep
    obtain ⟨⟨k', sta'⟩, hpair, rfl⟩ := List.mem_map.1 hmem
    refine ⟨sta', hpair, ⟨hwep, ?_⟩, fun p hp heq => ?_⟩
    · rw [if_pos hap]
      refine ⟨hgroup, s.host.table.freeIndex, ?_, ?_, rfl⟩ <;>
        simp only [Station.Table.staAdd_of_ap hap]
      · rw [Station.Table.apSlots_apAdd]
        exact Station.Table.freeIndex_mem hlt
      · rw [Station.Table.entry_apAdd_freeIndex hroom hexisting]
        exact Option.some_ne_none sta
    · -- a key in the table has kept its index
      obtain ⟨i, f, hi, -⟩ := hinv.agrees.held p hp
      have hsame := KeyHost.home_setTable (t := (s.host.table.staAdd s.host.type sta).2)
        (fun _ addr j hj => by
          rw [Station.Table.staAdd_of_ap hap]
          exact s.host.table.existing_apAdd sta hj) hi
      exact hspare p hp (hi.trans (hsame.symm.trans heq))

end KeyTableInv

theorem KeyTableInv.init {s : KeyTableSys} (h : KeyTableSys.system.Init s) : KeyTableInv s := by
  obtain ⟨hmax, hempty, hkey, hframes, hinstalled, hdisabled, hdeletes, hfresh⟩ := h
  have hbound : ∀ n ∈ Station.rsiMaxApStas, n ≤ 32 := by decide
  refine ⟨⟨?_, fun i f hf => ?_⟩, hbound _ hmax, fun _ i _ hi => absurd (hempty i) hi, ?_, ?_, ?_,
    ?_, hdeletes, hfresh⟩
  · simp [hinstalled]
  · rw [hframes] at hf
    cases hf
  · simp [hinstalled]
  · simp [hinstalled]
  · simp [hkey]
  · simp [hdisabled]

/-- In every run that keeps to the discipline, the firmware's table holds the installed keys. -/
theorem keyTableOk_of_discipline {s : KeyTableSys}
    (h : KeyTableSys.system.ReachableVia KeyTableDiscipline s) : KeyTableOk s := by
  have hinv : KeyTableInv s := by
    refine h.invariant KeyTableInv (fun _ => .init) fun s a s' hinv hdisc hstep => ?_
    cases a with
    | setKey cmd k sta alloc0 alloc =>
      cases cmd with
      | setKey => exact hinv.setKey hdisc hstep
      | disableKey => exact hinv.disableKey hdisc hstep
    | staAdd sta alloc => exact hinv.staAdd hdisc hstep
  exact hinv.keyTableOk

/-- An access point has a WEP default key that is loaded for the first station; then a group key
is installed, and a second station joins. -/
def wepSchedule : List KeyTableAct :=
  [.setKey .setKey 1 none true true, .staAdd ⟨0x020000000002, 1, true⟩ true,
    .setKey .setKey 0 none true true, .staAdd ⟨0x020000000003, 2, true⟩ true]

/-- The state at the end of `wepSchedule`. -/
def wepState : KeyTableSys :=
  (KeyTableSys.system.runVia KeyTableDiscipline (.start .ap) wepSchedule).get rfl

/-- The discipline is kept by a run with a WEP key. -/
theorem keyTableOk_wepState : wepState.installed = [(0, none), (1, none)] ∧
    KeyTableOk wepState :=
  ⟨rfl, keyTableOk_of_discipline
    (TransitionSystem.reachableVia_get (KeyTableSys.init_start .ap) rfl)⟩

end Security
