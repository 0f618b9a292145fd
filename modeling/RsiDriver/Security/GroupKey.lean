import RsiDriver.ToMathlib.BigEndian
import RsiDriver.Tx.SkBuff
import Mathlib.Logic.Function.Basic
import Mathlib.Tactic.SplitIfs

/-!
# Group keys and packet numbers

Each interface has one slot, in `struct vif_priv`, for the current group key and the last packet
number accepted under it, and for the key id and the last packet number of the previous key.
`setKey` is `rsi_mac80211_set_key` and `validatePn` is `rsi_validate_pn` (`rsi_91x_mac80211.c`, the
build without `CONFIG_STA_PLUS_AP` for a kernel from 4.0 on).

What `rsi_hal_key_config` answers is an input.
-/

namespace Security

open Tx (MacAddr IfType RSI_MAX_VIFS VifIndex)

/-- A packet number, `u8[IEEE80211_CCMP_PN_LEN]`, most significant byte first. -/
structure Pn where
  bytes : List (BitVec 8)
  length_eq : bytes.length = 6
  deriving DecidableEq, Repr

namespace Pn

/-- The number. -/
def val (pn : Pn) : ℕ := bigEndian pn.bytes

/-- `memset(pn, 0, IEEE80211_CCMP_PN_LEN)` -/
def zero : Pn := ⟨[0, 0, 0, 0, 0, 0], rfl⟩

/-- `memcmp(cur_pn, last_pn, IEEE80211_CCMP_PN_LEN) > 0` -/
def newer (cur last : Pn) : Bool := memcmp cur.bytes last.bytes == .gt

theorem newer_iff {cur last : Pn} : cur.newer last = true ↔ last.val < cur.val := by
  rw [newer, beq_iff_eq, memcmp_eq_gt_iff (cur.length_eq.trans last.length_eq.symm), val, val]

end Pn

/-- `key->cipher`, as far as the driver tells the values apart. -/
inductive Cipher
  | ccmp
  | ccmp256
  | tkip
  | aesCmac
  | wep40
  | wep104
  | other
  deriving DecidableEq, Repr

/-- `struct ieee80211_key_conf`; `pairwise` is `IEEE80211_KEY_FLAG_PAIRWISE`. -/
structure KeyConf where
  cipher : Cipher
  keyidx : BitVec 8
  pairwise : Bool
  deriving DecidableEq, Repr

/-- `struct ieee80211_key_seq`: `pn` is the number of a CCMP or CMAC key. -/
structure KeySeq where
  pn : Pn
  iv32 : BitVec 32
  iv16 : BitVec 16

/-- The TKIP sequence counter as the driver stores it. -/
def KeySeq.tkipPn (seq : KeySeq) : Pn where
  bytes := [(seq.iv32 >>> 24).setWidth 8, (seq.iv32 >>> 16).setWidth 8, (seq.iv32 >>> 8).setWidth 8,
    seq.iv32.setWidth 8, (seq.iv16 >>> 8).setWidth 8, seq.iv16.setWidth 8]
  length_eq := rfl

/-- `struct vif_priv`, the fields that belong to the group keys. -/
structure VifPriv where
  key : Option KeyConf
  rxBcmcPn : Pn
  rxBcmcPnPrev : Pn
  prevKeyid : BitVec 8
  rxPnValid : Bool
  deriving DecidableEq, Repr

/-- `struct ieee80211_vif` -/
structure Vif where
  type : IfType
  /-- `bss_conf.assoc` -/
  assoc : Bool
  /-- `bss_conf.bssid` -/
  bssid : MacAddr
  priv : VifPriv
  deriving DecidableEq, Repr

/-- `struct rsi_hw`, the interfaces, and the ciphers of `struct security_info`. -/
structure Adapter where
  vifs : VifIndex → Option Vif
  scNvifs : ℕ
  ptkCipher : Option Cipher
  gtkCipher : Option Cipher

/-- A protected frame: the two addresses, and the eight bytes that follow the 802.11 header. -/
structure Frame where
  addr1 : MacAddr
  addr2 : MacAddr
  hdr : Fin 8 → BitVec 8

namespace Frame

/-- `is_broadcast_ether_addr(hdr->addr1) || is_multicast_ether_addr(hdr->addr1)` -/
def isMulticast (f : Frame) : Bool := f.addr1.isBroadcast || f.addr1.isMulticast

/-- `KEYID_BITMASK(keyid_info)`; the byte is the same in both headers. -/
def keyid (f : Frame) : BitVec 8 := (f.hdr 3 &&& 0xc0) >>> 6

/-- `cur_pn`: a `struct dot11_ccmp_hdr` for CCMP and a `struct dot11_tkip_hdr` for anything else. -/
def pn (f : Frame) (cipher : Cipher) : Pn :=
  if cipher = .ccmp then ⟨[f.hdr 7, f.hdr 6, f.hdr 5, f.hdr 4, f.hdr 1, f.hdr 0], rfl⟩
  else ⟨[f.hdr 7, f.hdr 6, f.hdr 5, f.hdr 4, f.hdr 0, f.hdr 2], rfl⟩

end Frame

namespace Adapter

/-- Change the slot of one interface. -/
def modifyPriv (a : Adapter) (i : VifIndex) (g : VifPriv → VifPriv) : Adapter :=
  { a with
    vifs := Function.update a.vifs i ((a.vifs i).map fun vif => { vif with priv := g vif.priv }) }

@[simp]
theorem modifyPriv_self (a : Adapter) (i : VifIndex) (g : VifPriv → VifPriv) :
    (a.modifyPriv i g).vifs i = (a.vifs i).map fun vif => { vif with priv := g vif.priv } :=
  Function.update_self ..

theorem modifyPriv_of_ne (a : Adapter) {i j : VifIndex} (h : j ≠ i) (g : VifPriv → VifPriv) :
    (a.modifyPriv i g).vifs j = a.vifs j :=
  Function.update_of_ne h ..

end Adapter

/-! ## Installing and deleting keys -/

/-- `RSI_AES_CMAC`, a key index: that of the key that protects management frames. -/
def RSI_AES_CMAC : BitVec 8 := 4

/-- `enum set_key_cmd` -/
inductive SetKeyCmd
  | setKey
  | disableKey
  deriving DecidableEq, Repr

/-- The slot after a group key was installed: other ciphers than these leave it alone. -/
def VifPriv.install (priv : VifPriv) (key : KeyConf) (seq : KeySeq) : VifPriv :=
  match key.cipher with
  | .ccmp | .ccmp256 | .aesCmac =>
    { priv with rxBcmcPn := seq.pn, rxPnValid := true, key := some key }
  | .tkip => { priv with rxBcmcPn := seq.tkipPn, rxPnValid := true, key := some key }
  | .wep40 | .wep104 | .other => priv

/-- The slot after `DISABLE_KEY`, whichever key is deleted. -/
def VifPriv.disable (priv : VifPriv) : VifPriv :=
  match priv.key with
  | some key =>
    { priv with
      prevKeyid := key.keyidx
      rxBcmcPnPrev := priv.rxBcmcPn
      rxBcmcPn := .zero
      rxPnValid := false
      key := none }
  | none => { priv with rxBcmcPn := .zero, rxPnValid := false }

/-- The slot after `rsi_mac80211_set_key`. -/
def VifPriv.setKey (priv : VifPriv) (cmd : SetKeyCmd) (key : KeyConf) (seq : KeySeq)
    (halStatus : Int) : VifPriv :=
  match cmd with
  | .setKey => if halStatus ≠ 0 ∨ key.pairwise = true then priv else priv.install key seq
  | .disableKey => priv.disable

namespace Adapter

/-- `rsi_mac80211_set_key` for the interface `i`; `halStatus` is what `rsi_hal_key_config`
returns. -/
def setKey (a : Adapter) (i : VifIndex) (cmd : SetKeyCmd) (key : KeyConf) (seq : KeySeq)
    (halStatus : Int) : Int × Adapter :=
  if key.keyidx = RSI_AES_CMAC then (0, a)
  else
    match cmd with
    | .setKey =>
      if halStatus ≠ 0 then (halStatus, a)
      else if key.pairwise then (0, { a with ptkCipher := some key.cipher })
      else (0, { a with gtkCipher := some key.cipher }.modifyPriv i (·.install key seq))
    | .disableKey => (halStatus, a.modifyPriv i VifPriv.disable)

/-- `rsi_mac80211_set_key` changes the slot of its interface only. -/
theorem setKey_of_ne (a : Adapter) {i j : VifIndex} (h : i ≠ j) (cmd : SetKeyCmd) (key : KeyConf)
    (seq : KeySeq) (halStatus : Int) : (a.setKey j cmd key seq halStatus).2.vifs i = a.vifs i := by
  unfold setKey
  by_cases hkeyidx : key.keyidx = RSI_AES_CMAC
  · rw [if_pos hkeyidx]
  rw [if_neg hkeyidx]
  cases cmd with
  | setKey =>
    dsimp only
    split_ifs
    · rfl
    · rfl
    · exact modifyPriv_of_ne { a with gtkCipher := some key.cipher } h (·.install key seq)
  | disableKey => exact a.modifyPriv_of_ne h _

theorem setKey_self {a : Adapter} {j : VifIndex} {vif : Vif} (hvif : a.vifs j = some vif)
    (cmd : SetKeyCmd) {key : KeyConf} (hkeyidx : key.keyidx ≠ RSI_AES_CMAC) (seq : KeySeq)
    (halStatus : Int) :
    (a.setKey j cmd key seq halStatus).2.vifs j =
      some { vif with priv := vif.priv.setKey cmd key seq halStatus } := by
  unfold setKey VifPriv.setKey
  rw [if_neg hkeyidx]
  -- both sides go through the same tests
  cases cmd with
  | setKey =>
    dsimp only
    by_cases hstatus : halStatus ≠ 0
    · rw [if_pos hstatus, if_pos (.inl hstatus)]
      exact hvif
    · by_cases hpairwise : key.pairwise = true
      · rw [if_neg hstatus, if_pos hpairwise, if_pos (.inr hpairwise)]
        exact hvif
      · rw [if_neg hstatus, if_neg hpairwise, if_neg (by simp [hstatus, hpairwise])]
        simp [hvif]
  | disableKey => simp [hvif]

end Adapter

/-! ## Checking packet numbers -/

/-- The interface is the receiver of the frame: the first tests of the loop in
`rsi_validate_pn`. -/
def Vif.receives (vif : Vif) (f : Frame) : Bool :=
  (vif.type == .station || vif.type == .p2pClient) && vif.assoc && vif.bssid == f.addr2

/-- The check of a frame against a slot with the key `key`. A frame with an unknown key id is
reported as dropped, but the function still returns 0. -/
def VifPriv.checkPn (priv : VifPriv) (key : KeyConf) (f : Frame) : Int × VifPriv :=
  let curPn := f.pn key.cipher
  if f.keyid = key.keyidx then
    if curPn.newer priv.rxBcmcPn then (0, { priv with rxBcmcPn := curPn }) else (-1, priv)
  else if f.keyid = priv.prevKeyid then
    if curPn.newer priv.rxBcmcPnPrev then (0, { priv with rxBcmcPnPrev := curPn }) else (-1, priv)
  else (0, priv)

/-- The outcomes of the check. -/
theorem VifPriv.checkPn_cases (priv : VifPriv) (key : KeyConf) (f : Frame) :
    (f.keyid = key.keyidx ∧ (f.pn key.cipher).newer priv.rxBcmcPn = true ∧
      priv.checkPn key f = (0, { priv with rxBcmcPn := f.pn key.cipher })) ∨
    (f.keyid ≠ key.keyidx ∧ f.keyid = priv.prevKeyid ∧
      (f.pn key.cipher).newer priv.rxBcmcPnPrev = true ∧
      priv.checkPn key f = (0, { priv with rxBcmcPnPrev := f.pn key.cipher })) ∨
    (f.keyid ≠ key.keyidx ∧ f.keyid ≠ priv.prevKeyid ∧ priv.checkPn key f = (0, priv)) ∨
    priv.checkPn key f = (-1, priv) := by
  unfold checkPn
  dsimp only
  split_ifs with hcur hnewer hprev hnewer
  · exact .inl ⟨hcur, hnewer, rfl⟩
  · exact .inr (.inr (.inr rfl))
  · exact .inr (.inl ⟨hcur, hprev, hnewer, rfl⟩)
  · exact .inr (.inr (.inr rfl))
  · exact .inr (.inr (.inl ⟨hcur, hprev, rfl⟩))

namespace Adapter

/-- One round of the loop in `rsi_validate_pn`: a receiver without a valid key unsets what an
earlier round found. -/
def findRound (a : Adapter) (f : Frame) (found : Option (VifIndex × VifPriv × KeyConf))
    (i : VifIndex) : Option (VifIndex × VifPriv × KeyConf) :=
  match a.vifs i with
  | none => found
  | some vif =>
    if vif.receives f then
      if vif.priv.rxPnValid then vif.priv.key.map fun key => (i, vif.priv, key) else none
    else found

/-- The slot that `rsi_validate_pn` ends up with, and its key. The loop runs to `sc_nvifs`, the
number of interfaces, which are not always the first ones. -/
def findPriv (a : Adapter) (f : Frame) : Option (VifIndex × VifPriv × KeyConf) :=
  ((List.finRange RSI_MAX_VIFS).filter fun i => i.val < a.scNvifs).foldl (a.findRound f) none

/-- `rsi_validate_pn`; a frame is dropped when the result is negative. -/
def validatePn (a : Adapter) (f : Frame) : Int × Adapter :=
  if f.isMulticast then
    match a.findPriv f with
    | none => (1, a)
    | some (i, priv, key) =>
      ((priv.checkPn key f).1, a.modifyPriv i fun _ => (priv.checkPn key f).2)
  else (1, a)

/-- `priv` is the slot of the interface `i`, which receives the frame, and holds the valid key
`key`. -/
structure IsReceiver (a : Adapter) (f : Frame) (i : VifIndex) (priv : VifPriv) (key : KeyConf) :
    Prop where
  vif : ∃ vif, a.vifs i = some vif ∧ vif.receives f = true ∧ vif.priv = priv
  valid : priv.rxPnValid = true
  key : priv.key = some key

theorem IsReceiver.findRound {a : Adapter} {f : Frame}
    {found : Option (VifIndex × VifPriv × KeyConf)}
    (hfound : ∀ i priv key, found = some (i, priv, key) → a.IsReceiver f i priv key) (j : VifIndex)
    {i : VifIndex} {priv : VifPriv} {key : KeyConf}
    (h : a.findRound f found j = some (i, priv, key)) : a.IsReceiver f i priv key := by
  unfold Adapter.findRound at h
  split at h
  · exact hfound i priv key h
  · next vif hvif =>
    split_ifs at h with hreceives hvalid
    · obtain ⟨key', hkey, heq⟩ := Option.map_eq_some_iff.1 h
      obtain ⟨rfl, rfl, rfl⟩ : j = i ∧ vif.priv = priv ∧ key' = key := by simpa using heq
      exact ⟨⟨vif, hvif, hreceives, rfl⟩, hvalid, hkey⟩
    · exact hfound i priv key h

/-- What `rsi_validate_pn` finds is the slot of a receiver with a valid key. -/
theorem findPriv_spec {a : Adapter} {f : Frame} {i : VifIndex} {priv : VifPriv} {key : KeyConf}
    (h : a.findPriv f = some (i, priv, key)) : a.IsReceiver f i priv key := by
  unfold findPriv at h
  generalize (List.finRange RSI_MAX_VIFS).filter (fun i => i.val < a.scNvifs) = l at h
  have hnone : ∀ i priv key, (none : Option (VifIndex × VifPriv × KeyConf)) = some (i, priv, key) →
      a.IsReceiver f i priv key := by simp
  generalize (none : Option (VifIndex × VifPriv × KeyConf)) = found at h hnone
  induction l generalizing found with
  | nil => exact hnone i priv key h
  | cons j l ih => exact ih _ h fun i priv key hround => .findRound hnone j hround

end Adapter

end Security
