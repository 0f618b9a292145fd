import RsiDriver.Security.GroupKey
import RsiDriver.ToMathlib.TransitionSystem

/-!
# Replay protection of group-addressed frames

A protected multicast frame should be accepted only under the group key that is installed or under
its immediate predecessor, and only if its packet number is greater than all that were accepted
under that installation and than the receive sequence the installation started with. This should
survive re-keying and whatever happens to pairwise keys.

The slot cannot give that. Deleting any key empties it, and without a key every frame is accepted.
A key that is installed over another one leaves the key id and the number of some older key in
place of its predecessor's. A frame with a key id that is neither of the two is accepted, although
the driver reports it as dropped. The loop over the interfaces stops at their number, and a second
interface in the same BSS takes the check over.

Runs interleave calls of `rsi_mac80211_set_key` for CCMP and TKIP keys on any interface with
received frames; the history of one interface is followed.

## Main results

* `not_replayProtected`: a run that accepts a frame under no known key;
* `replayProtected_of_discipline`: the protection holds as long as each frame of the BSS is checked
  against the slot of the interface, and comes under its key or under a predecessor that was
  deleted before its successor was installed.
-/

namespace Security

open Tx (VifIndex)

/-- One installation of a group key. -/
structure Installation where
  keyidx : BitVec 8
  cipher : Cipher
  /-- The receive sequence that was handed over, and the numbers accepted since. -/
  seen : List ℕ
  deriving DecidableEq, Repr

namespace Installation

/-- The frame comes under this installation and is no replay. -/
def admits (g : Installation) (f : Frame) : Bool :=
  f.keyid == g.keyidx && g.seen.all (· < (f.pn g.cipher).val)

/-- The installation after it accepted the frame. -/
def push (g : Installation) (f : Frame) : Installation :=
  { g with seen := (f.pn g.cipher).val :: g.seen }

end Installation

/-- The receive sequence as a number. -/
def KeySeq.val (seq : KeySeq) (cipher : Cipher) : ℕ :=
  if cipher = .tkip then seq.iv32.toNat * 2 ^ 16 + seq.iv16.toNat else seq.pn.val

/-- An accepted frame, with the group key that was installed then and its predecessor. -/
structure Acceptance where
  frame : Frame
  current : Option Installation
  predecessor : Option Installation

/-- The frame was rightly accepted. -/
def Acceptance.allowed (e : Acceptance) : Bool :=
  e.current.any fun cur =>
    if e.frame.keyid = cur.keyidx then cur.admits e.frame
    else e.predecessor.any (·.admits e.frame)

/-- What happened to the group keys of one interface. -/
structure History where
  /-- The installations so far, latest first. -/
  groups : List Installation
  /-- The latest one has not been deleted. -/
  installed : Bool
  /-- When the latest one was installed, its predecessor, of the same cipher, had been deleted. -/
  handover : Bool
  accepted : List Acceptance

namespace History

/-- The history after a successful `SET_KEY` of a group key; `priv` is the slot before. -/
def install (h : History) (priv : VifPriv) (key : KeyConf) (seq : KeySeq) : History :=
  { h with
    groups := ⟨key.keyidx, key.cipher, [seq.val key.cipher]⟩ :: h.groups
    installed := true
    handover := priv.key.isNone && h.groups.head?.any (·.cipher == key.cipher) }

/-- The history after `DISABLE_KEY` of a group key. -/
def delete (h : History) (key : KeyConf) : History :=
  { h with installed := h.installed && !h.groups.head?.any (·.keyidx == key.keyidx) }

/-- The history after a call of `rsi_mac80211_set_key`. The key with index `RSI_AES_CMAC` protects
management frames and is no group key in this sense. -/
def setKey (h : History) (priv : VifPriv) (cmd : SetKeyCmd) (key : KeyConf) (seq : KeySeq)
    (halStatus : Int) : History :=
  if key.pairwise ∨ key.keyidx = RSI_AES_CMAC then h
  else
    match cmd with
    | .setKey => if halStatus = 0 then h.install priv key seq else h
    | .disableKey => h.delete key

/-- The installations after a frame was accepted. -/
def record (f : Frame) : List Installation → List Installation
  | [] => []
  | cur :: rest =>
    if f.keyid = cur.keyidx then cur.push f :: rest
    else
      match rest with
      | [] => [cur]
      | prev :: older => cur :: (if f.keyid = prev.keyidx then prev.push f else prev) :: older

theorem record_current {f : Frame} {cur : Installation} (h : f.keyid = cur.keyidx)
    (rest : List Installation) : record f (cur :: rest) = cur.push f :: rest :=
  if_pos h

theorem record_predecessor {f : Frame} {cur prev : Installation} (hcur : f.keyid ≠ cur.keyidx)
    (hprev : f.keyid = prev.keyidx) (older : List Installation) :
    record f (cur :: prev :: older) = cur :: prev.push f :: older := by
  rw [record, if_neg hcur, if_pos hprev]

/-- The history after a frame was accepted. -/
def accept (h : History) (f : Frame) : History :=
  { h with
    groups := record f h.groups
    accepted :=
      ⟨f, if h.installed then h.groups.head? else none, h.groups.tail.head?⟩ :: h.accepted }

end History

/-! ## Runs -/

/-- The interfaces, and the history of one of them. -/
structure KeySys where
  adapter : Adapter
  history : History

/-- What happens in a run. -/
inductive KeyAct
  | setKey (j : VifIndex) (cmd : SetKeyCmd) (key : KeyConf) (seq : KeySeq) (halStatus : Int)
  | frame (f : Frame)

namespace KeySys

variable (i : VifIndex)

/-- The frame is a multicast frame from the BSS of the interface `i`. -/
def monitors (s : KeySys) (f : Frame) : Bool :=
  f.isMulticast && (s.adapter.vifs i).any (·.receives f)

/-- One step of a run, followed on the interface `i`. -/
def step (s : KeySys) : KeyAct → Option KeySys
  | .setKey j cmd key seq halStatus =>
    match s.adapter.vifs j with
    | none => none
    | some vif =>
      if key.cipher = .ccmp ∨ key.cipher = .tkip then
        some {
          adapter := (s.adapter.setKey j cmd key seq halStatus).2
          history := if j = i then s.history.setKey vif.priv cmd key seq halStatus else s.history }
      else none
  | .frame f =>
    some {
      adapter := (s.adapter.validatePn f).2
      history :=
        if s.monitors i f ∧ 0 ≤ (s.adapter.validatePn f).1 then s.history.accept f
        else s.history }

/-- The slot of the interface is as `rsi_mac80211_add_interface` leaves it. -/
structure Init (s : KeySys) : Prop where
  key : ∀ vif, s.adapter.vifs i = some vif → vif.priv.key = none
  history : s.history = ⟨[], false, false, []⟩

/-- The runs, followed on the interface `i`. -/
def system : TransitionSystem KeySys KeyAct := ⟨Init i, step i⟩

/-- Every frame of the BSS that was accepted was rightly accepted. -/
def ReplayProtected (s : KeySys) : Prop := ∀ e ∈ s.history.accepted, e.allowed = true

/-! ## An unprotected frame -/

/-- One associated station interface without keys. -/
def start : KeySys where
  adapter :=
    { vifs := fun i =>
        if i = 0 then
          some ⟨.station, true, 0x020000000009, ⟨none, .zero, .zero, 0, false⟩⟩
        else none
      scNvifs := 1
      ptkCipher := none
      gtkCipher := none }
  history := ⟨[], false, false, []⟩

theorem init_start : Init 0 start where
  key vif h := by
    obtain rfl := Option.some.inj h
    rfl
  history := rfl

/-- The CCMP group key with this index. -/
def groupKey (keyidx : BitVec 8) : KeyConf := ⟨.ccmp, keyidx, false⟩

/-- A receive sequence of zero. -/
def zeroSeq : KeySeq := ⟨.zero, 0, 0⟩

/-- A broadcast CCMP frame of the BSS with the given key id and packet number. -/
def broadcast (keyid pn : BitVec 8) : Frame :=
  ⟨0xffffffffffff, 0x020000000009,
    fun i => if i.val = 0 then pn else if i.val = 3 then keyid <<< 6 else 0⟩

/-- A group key is installed, and a frame arrives with another key id. -/
def unknownSchedule : List KeyAct :=
  [.setKey 0 .setKey (groupKey 1) zeroSeq 0, .frame (broadcast 2 1)]

/-- The driver accepts a frame whose key id belongs to no key. -/
theorem not_replayProtected :
    ¬ ∀ i s, (system i).Reachable s → ReplayProtected s := by
  intro hall
  refine TransitionSystem.not_forall_reachable_of_run unknownSchedule init_start rfl (fun h => ?_)
    (hall 0)
  exact absurd (h _ (List.mem_singleton.2 rfl)) (by decide)

end KeySys

/-! ## Slot and history -/

/-- The installation has this key id, and `pn` is as great as everything it has seen. -/
structure Installation.Tracked (g : Installation) (keyidx : BitVec 8) (pn : Pn) : Prop where
  keyidx : keyidx = g.keyidx
  seen : ∀ p ∈ g.seen, p ≤ pn.val

/-- The slot reflects the history: a key in the slot is the latest installation, and the previous
key is its predecessor if that was deleted in time. Without a key, the latest installation has
become the previous one. -/
structure SlotInv (priv : VifPriv) (h : History) : Prop where
  sound : ∀ e ∈ h.accepted, e.allowed = true
  current : ∀ key, priv.key = some key → ∃ cur rest, h.groups = cur :: rest ∧
    h.installed = true ∧ cur.cipher = key.cipher ∧ cur.Tracked key.keyidx priv.rxBcmcPn ∧
    (h.handover = true → ∃ prev older, rest = prev :: older ∧ prev.cipher = key.cipher ∧
      prev.Tracked priv.prevKeyid priv.rxBcmcPnPrev)
  vacant : priv.key = none → ∀ last, h.groups.head? = some last →
    last.Tracked priv.prevKeyid priv.rxBcmcPnPrev

namespace Installation

/-- A number above the tracked one is new. -/
theorem Tracked.admits {g : Installation} {keyidx : BitVec 8} {pn : Pn} {f : Frame}
    (h : g.Tracked keyidx pn) (hkeyid : f.keyid = keyidx)
    (hnewer : (f.pn g.cipher).newer pn = true) : g.admits f = true := by
  rw [Installation.admits, Bool.and_eq_true, beq_iff_eq, List.all_eq_true]
  refine ⟨hkeyid.trans h.keyidx, fun p hp => ?_⟩
  have := h.seen p hp
  have := Pn.newer_iff.1 hnewer
  exact decide_eq_true (by omega)

/-- A new number is tracked once it was accepted. -/
theorem Tracked.push {g : Installation} {keyidx : BitVec 8} {pn : Pn} {f : Frame}
    (h : g.Tracked keyidx pn) (hnewer : (f.pn g.cipher).newer pn = true) :
    (g.push f).Tracked keyidx (f.pn g.cipher) where
  keyidx := h.keyidx
  seen p hp := by
    have hlt := Pn.newer_iff.1 hnewer
    rcases List.mem_cons.1 hp with rfl | hp
    · exact Nat.le_refl _
    · have := h.seen p hp
      omega

end Installation

/-- The bytes the driver stores for a TKIP key spell its sequence counter. -/
theorem KeySeq.tkipPn_val (seq : KeySeq) :
    seq.tkipPn.val = seq.iv32.toNat * 2 ^ 16 + seq.iv16.toNat := by
  have h32 := seq.iv32.isLt
  have h16 := seq.iv16.isLt
  simp only [tkipPn, Pn.val, bigEndian, List.length_cons, List.length_nil, BitVec.toNat_setWidth,
    BitVec.toNat_ushiftRight, Nat.shiftRight_eq_div_pow]
  omega

/-- Installing a key stores the receive sequence that was handed over. -/
theorem VifPriv.install_spec (priv : VifPriv) {key : KeyConf} (seq : KeySeq)
    (hcipher : key.cipher = .ccmp ∨ key.cipher = .tkip) :
    (priv.install key seq).key = some key ∧
      (priv.install key seq).rxBcmcPn.val = seq.val key.cipher ∧
      (priv.install key seq).prevKeyid = priv.prevKeyid ∧
      (priv.install key seq).rxBcmcPnPrev = priv.rxBcmcPnPrev := by
  rcases hcipher with h | h
  · simp [VifPriv.install, h, KeySeq.val]
  · simp [VifPriv.install, h, KeySeq.val, KeySeq.tkipPn_val]

namespace SlotInv

variable {priv : VifPriv} {h : History}

theorem install (hinv : SlotInv priv h) {key : KeyConf} (seq : KeySeq)
    (hcipher : key.cipher = .ccmp ∨ key.cipher = .tkip) :
    SlotInv (priv.install key seq) (h.install priv key seq) := by
  obtain ⟨hkey, hpn, hprevKeyid, hprev⟩ := priv.install_spec seq hcipher
  refine ⟨hinv.sound, fun key' hkey' => ?_, fun hnone => by simp [hkey] at hnone⟩
  obtain rfl : key = key' := Option.some.inj (hkey.symm.trans hkey')
  refine ⟨_, h.groups, rfl, rfl, rfl, ⟨rfl, fun p hp => ?_⟩, fun hhandover => ?_⟩
  · rw [List.mem_singleton.1 hp, hpn]
  · -- the predecessor was moved aside when it was deleted
    obtain ⟨hvacant, hpred⟩ := Bool.and_eq_true_iff.1 hhandover
    obtain ⟨prev, hhead, hcipher'⟩ := (Option.any_eq_true _ _).1 hpred
    obtain ⟨older, holder⟩ := List.head?_eq_some_iff.1 hhead
    refine ⟨prev, older, holder, by simpa using hcipher', ?_⟩
    rw [hprevKeyid, hprev]
    exact hinv.vacant (Option.isNone_iff_eq_none.1 hvacant) prev hhead

/-- Deleting any key moves the current one aside. -/
theorem disable (hinv : SlotInv priv h) {h' : History} (hgroups : h'.groups = h.groups)
    (haccepted : h'.accepted = h.accepted) : SlotInv priv.disable h' := by
  have hvacant : ∀ last, h.groups.head? = some last →
      last.Tracked priv.disable.prevKeyid priv.disable.rxBcmcPnPrev := by
    intro last hlast
    unfold VifPriv.disable
    cases hkey : priv.key with
    | none => exact hinv.vacant hkey last hlast
    | some key =>
      -- the key in the slot is the latest installation
      obtain ⟨cur, rest, hcur, -, -, htracked, -⟩ := hinv.current key hkey
      obtain rfl : cur = last := by simpa [hcur] using hlast
      exact htracked
  have hnone : priv.disable.key = none := by
    unfold VifPriv.disable
    split
    · rfl
    · assumption
  refine ⟨haccepted ▸ hinv.sound, fun key hkey => by simp [hnone] at hkey, fun _ => ?_⟩
  rw [hgroups]
  exact hvacant

/-- A frame under the current key, or under a predecessor that was deleted in time, is accepted
only if it is allowed. -/
theorem checkPn (hinv : SlotInv priv h) {key : KeyConf} {f : Frame} (hkey : priv.key = some key)
    (hkeyid : f.keyid = key.keyidx ∨ f.keyid = priv.prevKeyid ∧ h.handover = true) :
    SlotInv (priv.checkPn key f).2
      (if 0 ≤ (priv.checkPn key f).1 then h.accept f else h) := by
  obtain ⟨cur, rest, hgroups, hinstalled, hcipher, htracked, hprev⟩ := hinv.current key hkey
  rcases priv.checkPn_cases key f with ⟨hcur, hnewer, heq⟩ | ⟨hcur, hprevid, hnewer, heq⟩ |
    ⟨hcur, hprevid, -⟩ | heq
  · -- accepted under the current key
    rw [heq, if_pos (Int.le_refl 0)]
    rw [← hcipher] at hnewer
    have hcurid : f.keyid = cur.keyidx := hcur.trans htracked.keyidx
    refine ⟨fun e he => ?_, fun key' hkey' => ?_, fun hnone => by simp [hkey] at hnone⟩
    · rcases List.mem_cons.1 he with rfl | he
      · rw [Acceptance.allowed, hgroups, if_pos hinstalled]
        simpa [hcurid] using htracked.admits hcur hnewer
      · exact hinv.sound e he
    · obtain rfl : key = key' := Option.some.inj (hkey.symm.trans hkey')
      refine ⟨cur.push f, rest, ?_, hinstalled, hcipher, ?_, hprev⟩
      · rw [History.accept, hgroups, History.record_current hcurid]
      · rw [← hcipher]
        exact htracked.push hnewer
  · -- accepted under the previous key, which was deleted in time
    rw [heq, if_pos (Int.le_refl 0)]
    obtain ⟨-, hhandover⟩ := hkeyid.resolve_left hcur
    obtain ⟨prev, older, rfl, hprevcipher, hprevtracked⟩ := hprev hhandover
    rw [← hprevcipher] at hnewer
    have hcurid : f.keyid ≠ cur.keyidx := fun heq => hcur (heq.trans htracked.keyidx.symm)
    have hprevkey : f.keyid = prev.keyidx := hprevid.trans hprevtracked.keyidx
    refine ⟨fun e he => ?_, fun key' hkey' => ?_, fun hnone => by simp [hkey] at hnone⟩
    · rcases List.mem_cons.1 he with rfl | he
      · rw [Acceptance.allowed, hgroups, if_pos hinstalled]
        simpa [hcurid] using hprevtracked.admits hprevid hnewer
      · exact hinv.sound e he
    · obtain rfl : key = key' := Option.some.inj (hkey.symm.trans hkey')
      refine ⟨cur, prev.push f :: older, ?_, hinstalled, hcipher, htracked, fun _ =>
        ⟨prev.push f, older, rfl, hprevcipher, ?_⟩⟩
      · rw [History.accept, hgroups, History.record_predecessor hcurid hprevkey]
      · rw [← hprevcipher]
        exact hprevtracked.push hnewer
  · -- the discipline excludes other key ids
    exact absurd (hkeyid.resolve_left hcur).1 hprevid
  · -- the frame was dropped
    rw [heq, if_neg (show ¬ (0 : Int) ≤ -1 by decide)]
    exact hinv

theorem setKey (hinv : SlotInv priv h) (cmd : SetKeyCmd) {key : KeyConf} (seq : KeySeq)
    (hcipher : key.cipher = .ccmp ∨ key.cipher = .tkip) (hkeyidx : key.keyidx ≠ RSI_AES_CMAC)
    (halStatus : Int) :
    SlotInv (priv.setKey cmd key seq halStatus) (h.setKey priv cmd key seq halStatus) := by
  unfold VifPriv.setKey History.setKey
  cases cmd with
  | setKey =>
    by_cases hpairwise : key.pairwise = true
    · -- a pairwise key leaves the slot alone
      rw [if_pos (.inr hpairwise), if_pos (.inl hpairwise)]
      exact hinv
    · rw [if_neg (show ¬ (key.pairwise = true ∨ _) by simp [hpairwise, hkeyidx])]
      by_cases hstatus : halStatus = 0
      · rw [if_neg (by simp [hpairwise, hstatus])]
        simp only [hstatus, if_true]
        exact hinv.install seq hcipher
      · rw [if_pos (.inl hstatus)]
        simp only [hstatus, if_false]
        exact hinv
  | disableKey =>
    -- whichever key is deleted, the installations stay in the history
    refine hinv.disable ?_ ?_
    · split_ifs <;> rfl
    · split_ifs <;> rfl

end SlotInv

namespace KeySys

/-! ## Disciplined runs -/

/-- A step under which the slot protects the interface: a frame from its BSS is checked against its
slot, and comes under the key there, or under the previous key, which was deleted before the
present one was installed. -/
def stepOk (i : VifIndex) (s : KeySys) : KeyAct → Bool
  | .setKey .. => true
  | .frame f =>
    !s.monitors i f ||
      match s.adapter.findPriv f with
      | none => false
      | some (j, priv, key) =>
        j == i && (f.keyid == key.keyidx || f.keyid == priv.prevKeyid && s.history.handover)

/-- The discipline of the protected runs. -/
def KeyDiscipline (i : VifIndex) (s : KeySys) (act : KeyAct) : Prop := s.stepOk i act = true

instance (i : VifIndex) (s : KeySys) (act : KeyAct) : Decidable (KeyDiscipline i s act) :=
  inferInstanceAs (Decidable (s.stepOk i act = true))

/-- The accepted frames were allowed, and the slot of the interface reflects its history. -/
structure KeyInv (i : VifIndex) (s : KeySys) : Prop where
  sound : ReplayProtected s
  slot : ∀ vif, s.adapter.vifs i = some vif → SlotInv vif.priv s.history

variable {i : VifIndex} {s : KeySys}

theorem KeyInv.init (h : Init i s) : KeyInv i s where
  sound e he := by simp [h.history] at he
  slot vif hvif :=
    { sound := fun e he => by simp [h.history] at he
      current := fun key hkey => by simp [h.key vif hvif] at hkey
      vacant := fun _ last hlast => by simp [h.history] at hlast }

theorem KeyInv.setKey (hinv : KeyInv i s) {j : VifIndex} {vif : Vif}
    (hvif : s.adapter.vifs j = some vif) (cmd : SetKeyCmd) {key : KeyConf} (seq : KeySeq)
    (hcipher : key.cipher = .ccmp ∨ key.cipher = .tkip) (halStatus : Int) :
    KeyInv i {
      adapter := (s.adapter.setKey j cmd key seq halStatus).2
      history :=
        if j = i then s.history.setKey vif.priv cmd key seq halStatus else s.history } := by
  by_cases hji : j = i
  · subst hji
    rw [if_pos rfl]
    by_cases hkeyidx : key.keyidx = RSI_AES_CMAC
    · -- no group key: neither side moves
      unfold History.setKey Adapter.setKey
      rw [if_pos hkeyidx, if_pos (.inr hkeyidx)]
      exact hinv
    · have hslot := (hinv.slot vif hvif).setKey cmd seq hcipher hkeyidx halStatus
      refine ⟨hslot.sound, fun vif' hvif' => ?_⟩
      have hself := Adapter.setKey_self hvif cmd hkeyidx seq halStatus
      obtain rfl := Option.some.inj (hself.symm.trans hvif')
      exact hslot
  · rw [if_neg hji]
    refine ⟨hinv.sound, fun vif' hvif' => hinv.slot vif' ?_⟩
    rw [← s.adapter.setKey_of_ne (Ne.symm hji) cmd key seq halStatus]
    exact hvif'

theorem KeyInv.frame (hinv : KeyInv i s) {f : Frame} (hdisc : KeyDiscipline i s (.frame f)) :
    KeyInv i {
      adapter := (s.adapter.validatePn f).2
      history :=
        if s.monitors i f ∧ 0 ≤ (s.adapter.validatePn f).1 then s.history.accept f
        else s.history } := by
  unfold Adapter.validatePn
  by_cases hmulticast : f.isMulticast = true
  · rw [KeyDiscipline, stepOk] at hdisc
    rw [if_pos hmulticast]
    cases hfind : s.adapter.findPriv f with
    | none =>
      -- an unchecked frame did not come from the BSS of this interface
      rw [hfind] at hdisc
      have hother : s.monitors i f = false := by simpa using hdisc
      simp only [hother, Bool.false_eq_true, false_and, if_false]
      exact hinv
    | some found =>
      obtain ⟨j, priv, key⟩ := found
      obtain ⟨⟨vif, hvif, hreceives, rfl⟩, hvalid, hkey⟩ := Adapter.findPriv_spec hfind
      rw [hfind] at hdisc
      dsimp only at hdisc ⊢
      by_cases hji : j = i
      · subst hji
        have hmonitors : s.monitors j f = true := by simp [monitors, hmulticast, hvif, hreceives]
        have hkeyid : f.keyid = key.keyidx ∨
            f.keyid = vif.priv.prevKeyid ∧ s.history.handover = true := by
          simpa [hmonitors] using hdisc
        have hslot := (hinv.slot vif hvif).checkPn hkey hkeyid
        simp only [hmonitors, true_and]
        refine ⟨hslot.sound, fun vif' hvif' => ?_⟩
        rw [Adapter.modifyPriv_self, hvif] at hvif'
        obtain rfl := Option.some.inj hvif'
        exact hslot
      · -- another interface took the frame, so it did not come from this one's BSS
        have hother : s.monitors i f = false := by simpa [hji] using hdisc
        simp only [hother, Bool.false_eq_true, false_and, if_false]
        refine ⟨hinv.sound, fun vif' hvif' => hinv.slot vif' ?_⟩
        rwa [Adapter.modifyPriv_of_ne _ (Ne.symm hji)] at hvif'
  · -- unicast frames are not checked
    have hother : s.monitors i f = false := by simp [monitors, hmulticast]
    rw [if_neg hmulticast]
    simp only [hother, Bool.false_eq_true, false_and, if_false]
    exact hinv

/-- In every run that keeps the discipline, a frame of the BSS is accepted only under the installed
group key or its predecessor, with a new packet number. -/
theorem replayProtected_of_discipline (h : (system i).ReachableVia (KeyDiscipline i) s) :
    ReplayProtected s := by
  refine (h.invariant (KeyInv i) (fun _ => .init) fun s act s' hinv hdisc hstep => ?_).sound
  change step i s act = some s' at hstep
  cases act with
  | setKey j cmd key seq halStatus =>
    unfold step at hstep
    dsimp only at hstep
    split at hstep
    · cases hstep
    · next vif hvif =>
      by_cases hcipher : key.cipher = .ccmp ∨ key.cipher = .tkip
      · rw [if_pos hcipher] at hstep
        obtain rfl := Option.some.inj hstep
        exact hinv.setKey hvif cmd seq hcipher halStatus
      · simp [hcipher] at hstep
  | frame f =>
    obtain rfl := Option.some.inj hstep
    exact hinv.frame hdisc

/-- A pairwise key and a group key are installed, the group key is replaced, and frames arrive under
both group keys. -/
def rekeyedSchedule : List KeyAct :=
  [.setKey 0 .setKey ⟨.ccmp, 0, true⟩ zeroSeq 0, .setKey 0 .setKey (groupKey 1) zeroSeq 0,
    .frame (broadcast 1 5), .frame (broadcast 1 5), .setKey 0 .disableKey (groupKey 1) zeroSeq 0,
    .setKey 0 .setKey (groupKey 2) zeroSeq 0, .frame (broadcast 2 1), .frame (broadcast 1 5),
    .frame (broadcast 1 6)]

/-- The state at the end of `rekeyedSchedule`. -/
def rekeyedState : KeySys := ((system 0).runVia (KeyDiscipline 0) start rekeyedSchedule).get rfl

/-- Three frames are accepted and two replays are dropped, one of them under the previous key. -/
theorem replayProtected_rekeyedState :
    rekeyedState.history.accepted.length = 3 ∧ ReplayProtected rekeyedState :=
  ⟨by decide, replayProtected_of_discipline (TransitionSystem.reachableVia_get init_start rfl)⟩

end KeySys

end Security
