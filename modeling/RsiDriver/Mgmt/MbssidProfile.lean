import RsiDriver.Mgmt.MgmtPktToCore

/-!
# The profile of the connected SSID

A beacon of an access point with several BSSs sends their profiles in Multiple-BSSID elements.
`rsi_process_mbssid_parameters` compares the SSID of each with `common->ssid`, in the length that
the profile gives. This need not be the length of the SSID that is connected to: a profile whose
SSID is a prefix of it is taken too. The inner loop ends with the first profile that is taken, the
outer one goes on.

`BssProfile` is what a profile is in its own terms, and `IndexOk` says what index the driver should
have after a beacon.

## Main results

* `elemLoop_snd`: the loops choose the first profile that matches in the last element that has one;
* `choose_of_decides`, `decides_or_none`: the choice is the profile that decides, if there is one.
-/

namespace RxMgmt

open Access

/-! ## Choosing from groups -/

section Choice

variable {α β : Type*} (p : α → Bool) (index : α → β)

/-- The first of each group that satisfies `p`, where a later group decides against an earlier
one. -/
def choose (i : β) (groups : List (List α)) : β :=
  groups.foldl (fun i g => ((g.find? p).map index).getD i) i

/-- It is the first one in its group, and no later group has one. -/
def Decides (groups : List (List α)) (x : α) : Prop :=
  ∃ before g after, groups = before ++ g :: after ∧ g.find? p = some x ∧
    ∀ h ∈ after, ∀ y ∈ h, p y = false

variable {p index}

theorem choose_of_none {groups : List (List α)} (h : ∀ g ∈ groups, ∀ y ∈ g, p y = false) (i : β) :
    choose p index i groups = i := by
  induction groups generalizing i with
  | nil => rfl
  | cons g groups ih =>
    have hfind : g.find? p = none :=
      List.find?_eq_none.2 fun y hy => by simp [h g List.mem_cons_self y hy]
    rw [choose, List.foldl_cons, hfind]
    exact ih (fun g hg => h g (List.mem_cons_of_mem _ hg)) i

theorem choose_of_decides {groups : List (List α)} {x : α} (h : Decides p groups x) (i : β) :
    choose p index i groups = index x := by
  obtain ⟨before, g, after, rfl, hfind, hafter⟩ := h
  rw [choose, List.foldl_append, List.foldl_cons, hfind]
  exact choose_of_none hafter _

/-- Some element decides, or none satisfies `p`. The induction goes from the last group on. -/
theorem decides_or_none (groups : List (List α)) :
    (∃ x, Decides p groups x) ∨ ∀ g ∈ groups, ∀ y ∈ g, p y = false := by
  induction groups with
  | nil => exact .inr fun g hg => absurd hg List.not_mem_nil
  | cons g groups ih =>
    obtain ⟨x, before, g', after, rfl, hfind, hafter⟩ | hnone := ih
    · exact .inl ⟨x, g :: before, g', after, rfl, hfind, hafter⟩
    · cases hfind : g.find? p with
      | some x => exact .inl ⟨x, [], g, groups, rfl, hfind, hnone⟩
      | none =>
        refine .inr fun g' hg' y hy => ?_
        obtain rfl | hg' := List.mem_cons.1 hg'
        · simpa using List.find?_eq_none.1 hfind y hy
        · exact hnone g' hg' y hy

theorem Decides.mem {groups : List (List α)} {x : α} (h : Decides p groups x) :
    x ∈ groups.flatten ∧ p x = true := by
  obtain ⟨before, g, after, rfl, hfind, -⟩ := h
  refine ⟨List.mem_flatten.2 ⟨g, by simp, List.mem_of_find?_eq_some hfind⟩, ?_⟩
  exact List.find?_some hfind

end Choice

/-! ## Profiles -/

/-- A BSS that a beacon is about. -/
structure BssProfile where
  index : BitVec 8
  ssid : List (BitVec 8)
  deriving DecidableEq, Repr

section Profiles

variable (k : Cfg80211) (s : Adapter) (m : ByteMemory) (n : ℕ)

/-- The first element with an identifier among the elements of a profile. -/
def findElem (eid : BitVec 8) (profile : List (BitVec 8)) : Option ℕ :=
  let nt := ByteMemory.ofList profile
  (nt.elements 0 profile.length).find? fun p => nt p == eid

/-- The profile of a subelement: its Multiple-BSSID-Index element and its SSID element, whose
identifier is 0. -/
def bssProfile (profile : List (BitVec 8)) : BssProfile where
  index := ((findElem WLAN_EID_MULTI_BSSID_IDX profile).map fun p =>
    ByteMemory.ofList profile (p + 2)).getD 0
  ssid := ((findElem 0 profile).map fun p =>
    (ByteMemory.ofList profile).bytes (p + 2) ((ByteMemory.ofList profile).datalen p)).getD []

/-- A profile is well formed: behind its capability comes its SSID, and it has an index other than
0. -/
structure ProfileOk (profile : List (BitVec 8)) : Prop where
  ssid : ByteMemory.ofList profile 4 = 0
  ssid_complete : (ByteMemory.ofList profile).CompleteAt 4 profile.length
  ssid_le : (ByteMemory.ofList profile).datalen 4 ≤ 32
  index : ∃ p, findElem WLAN_EID_MULTI_BSSID_IDX profile = some p ∧
    1 ≤ (ByteMemory.ofList profile).datalen p ∧ ByteMemory.ofList profile (p + 2) ≠ 0

/-- The beacon has its SSID in front, and its Multiple-BSSID elements are well formed. -/
structure WellFormed : Prop where
  ssid : m 36 = 0
  profiles : ∀ e ∈ mbssidElems m n, ∀ sub ∈ subelems m e, startsProfile m sub = true →
    ProfileOk (ntProfile k m n e sub)

/-- The profiles of a Multiple-BSSID element. -/
def profilesOf (e : ℕ) : List BssProfile :=
  ((subelems m e).filter (startsProfile m)).map fun sub => bssProfile (ntProfile k m n e sub)

/-- The nontransmitted profiles, by Multiple-BSSID element. -/
def nonTxProfiles : List (List BssProfile) := (mbssidElems m n).map (profilesOf k m n)

/-- The SSID of the BSS that sends the beacon. -/
def txSsid : List (BitVec 8) := m.bytes 38 (m.datalen 36)

/-- The profiles of a beacon with Multiple-BSSID elements: that of the BSS that sends it, which has
the BSSID index 0, and those that it sends for others. -/
def profiles : List BssProfile :=
  if (mbssidElems m n).isEmpty then [] else ⟨0, txSsid m⟩ :: (nonTxProfiles k m n).flatten

/-- What the index has to be: that of a profile whose SSID is the one that is connected to, or what
it was if there is none. -/
structure IndexOk (index : BitVec 8) : Prop where
  found : (∃ x ∈ profiles k m n, x.ssid = s.ownSsid) →
    ∃ x ∈ profiles k m n, x.ssid = s.ownSsid ∧ x.index = index
  kept : (∀ x ∈ profiles k m n, x.ssid ≠ s.ownSsid) → index = s.ax.connectedNtProfileIndex

/-- The array `common->ssid` starts with the SSID of the profile. -/
def prefixMatches (x : BssProfile) : Bool := s.ssid.bytes 0 x.ssid.length == x.ssid

end Profiles

/-! ## The loops choose -/

section Loops

variable {k : Cfg80211} {s : Adapter} {m : ByteMemory} {n : ℕ} {e sub : ℕ}

/-- What `startsProfile` tests. -/
theorem startsProfile_iff :
    startsProfile m sub = true ↔
      m sub = 0 ∧ 4 ≤ m.datalen sub ∧ m (sub + 2) = WLAN_EID_NON_TX_BSSID_CAP ∧
        m (sub + 3) = 2 := by
  simp only [startsProfile, Bool.and_eq_true, beq_iff_eq, decide_eq_true_eq, and_assoc]

theorem isPrefix_ntProfile (hk : k.Contract) (hfit : m.datalen sub ≤ ieLen n) :
    m.bytes (sub + 2) (m.datalen sub) <+: ntProfile k m n e sub :=
  hk.isPrefix_mergeProfile m baselen (ieLen n) e sub (ieLen n) hfit

/-- The first bytes of a profile are those of its subelement. -/
theorem ntProfile_getElem (hk : k.Contract) (hfit : m.datalen sub ≤ ieLen n) {i : ℕ}
    (hi : i < m.datalen sub) :
    ByteMemory.ofList (ntProfile k m n e sub) i = m (sub + 2 + i) := by
  have hpre := isPrefix_ntProfile (e := e) hk hfit
  have hlen : i < (m.bytes (sub + 2) (m.datalen sub)).length := by
    rwa [ByteMemory.length_bytes]
  have hlt : i < (ntProfile k m n e sub).length := Nat.lt_of_lt_of_le hlen hpre.length_le
  have hholds := ByteMemory.holds_ofList (ntProfile k m n e sub)
  have hget := hholds i hlt
  rw [Nat.zero_add] at hget
  rw [hget, ← hpre.getElem hlen, ByteMemory.getElem_bytes]

theorem length_ntProfile_le (hk : k.Contract) : (ntProfile k m n e sub).length ≤ ieLen n :=
  hk.length_mergeProfile_le m baselen (ieLen n) e sub (ieLen n)

theorem le_length_ntProfile (hk : k.Contract) (hfit : m.datalen sub ≤ ieLen n) :
    m.datalen sub ≤ (ntProfile k m n e sub).length := by
  have hle := (isPrefix_ntProfile (e := e) hk hfit).length_le
  rwa [ByteMemory.length_bytes] at hle

/-- A profile starts with its capability, an element of two bytes. -/
structure StartsWithCap (profile : List (BitVec 8)) : Prop where
  cap : ByteMemory.ofList profile 0 = WLAN_EID_NON_TX_BSSID_CAP
  len : (ByteMemory.ofList profile).datalen 0 = 2
  le : 4 ≤ profile.length

theorem startsWithCap (hk : k.Contract) (hfit : m.datalen sub ≤ ieLen n)
    (h : startsProfile m sub = true) : StartsWithCap (ntProfile k m n e sub) := by
  obtain ⟨-, hlen, hcap, htwo⟩ := startsProfile_iff.1 h
  refine ⟨?_, ?_, Nat.le_trans hlen (le_length_ntProfile hk hfit)⟩
  · rw [ntProfile_getElem hk hfit (by omega), Nat.add_zero]
    exact hcap
  · rw [ByteMemory.datalen, Nat.zero_add, ntProfile_getElem hk hfit (by omega)]
    exact congrArg BitVec.toNat htwo

variable {profile : List (BitVec 8)}

/-- The elements of a profile behind its capability. -/
theorem StartsWithCap.elements_eq (h : StartsWithCap profile) :
    (ByteMemory.ofList profile).elements 0 profile.length =
      0 :: (ByteMemory.ofList profile).elements 4 profile.length := by
  have hcomplete : (ByteMemory.ofList profile).CompleteAt 0 profile.length := by
    rw [ByteMemory.CompleteAt, h.len]
    exact h.le
  rw [ByteMemory.elements_cons hcomplete, h.len]

/-- An element that is not the capability is looked for behind it. -/
theorem StartsWithCap.findElem_eq (h : StartsWithCap profile) {eid : BitVec 8}
    (hne : eid ≠ WLAN_EID_NON_TX_BSSID_CAP) :
    findElem eid profile =
      ((ByteMemory.ofList profile).elements 4 profile.length).find? fun p =>
        ByteMemory.ofList profile p == eid := by
  have hskip : (ByteMemory.ofList profile 0 == eid) = false := by
    rw [h.cap]
    exact beq_false_of_ne hne.symm
  rw [findElem, h.elements_eq, List.find?_cons, hskip]

/-- The SSID of a well-formed profile is where `rsi_process_mbssid_parameters` looks for it. -/
theorem ProfileOk.ssid_eq (hcap : StartsWithCap profile) (h : ProfileOk profile) :
    (bssProfile profile).ssid = (ByteMemory.ofList profile).bytes 6 (ntSsidLen profile) := by
  have hfind : findElem 0 profile = some 4 := by
    rw [hcap.findElem_eq (by decide), ByteMemory.elements_cons h.ssid_complete, List.find?_cons,
      h.ssid]
    rfl
  rw [bssProfile, hfind]
  rfl

theorem ProfileOk.length_ssid (hcap : StartsWithCap profile) (h : ProfileOk profile) :
    (bssProfile profile).ssid.length = ntSsidLen profile := by
  rw [h.ssid_eq hcap, ByteMemory.length_bytes]

/-- The index of a well-formed profile is the one that is found. -/
theorem ProfileOk.multiBssidIdx_eq (hk : k.Contract) (h : ProfileOk profile) :
    multiBssidIdx k profile = some (bssProfile profile).index := by
  obtain ⟨p, hfind, hlen, hne⟩ := h.index
  have hfound : k.findIe WLAN_EID_MULTI_BSSID_IDX (ByteMemory.ofList profile) 0 profile.length =
      some p := by
    rw [hk.findIe_eq, Nat.zero_add]
    exact hfind
  have hvalid : ¬ ((ByteMemory.ofList profile).datalen p < 1 ∨
      ByteMemory.ofList profile (p + 2) = 0) := by
    rintro (hlt | hzero)
    · omega
    · exact hne hzero
  rw [multiBssidIdx, hfound, Option.bind_some, if_neg hvalid, bssProfile, hfind]
  rfl

theorem ProfileOk.ssidMatches_eq (hcap : StartsWithCap profile) (h : ProfileOk profile) :
    ssidMatches s profile = prefixMatches s (bssProfile profile) := by
  rw [ssidMatches, prefixMatches, h.length_ssid hcap, h.ssid_eq hcap]

/-- A round on a well-formed profile takes it if its SSID matches. -/
theorem subelemRound_snd (hk : k.Contract) (hfit : m.datalen sub ≤ ieLen n)
    (hstart : startsProfile m sub = true) (h : ProfileOk (ntProfile k m n e sub)) :
    (subelemRound k s m n e sub).2 =
      if prefixMatches s (bssProfile (ntProfile k m n e sub)) then
        some (bssProfile (ntProfile k m n e sub)).index
      else none := by
  have hcap := startsWithCap (e := e) hk hfit hstart
  rw [subelemRound, if_pos hstart]
  simp only [h.multiBssidIdx_eq hk, h.ssidMatches_eq hcap]

/-- The inner loop takes the first profile that matches. -/
theorem subelemLoop_snd (hk : k.Contract) {subs : List ℕ}
    (hfit : ∀ sub ∈ subs, m.datalen sub ≤ ieLen n)
    (hok : ∀ sub ∈ subs, startsProfile m sub = true → ProfileOk (ntProfile k m n e sub)) :
    (subelemLoop k s m n e subs).2 =
      (((subs.filter (startsProfile m)).map fun sub =>
        bssProfile (ntProfile k m n e sub)).find? (prefixMatches s)).map BssProfile.index := by
  induction subs with
  | nil => rfl
  | cons sub subs ih =>
    have ih := ih (fun sub hsub => hfit sub (List.mem_cons_of_mem _ hsub))
      (fun sub hsub => hok sub (List.mem_cons_of_mem _ hsub))
    cases hstart : startsProfile m sub with
    | false =>
      have hround : (subelemRound k s m n e sub).2 = none := by
        rw [subelemRound, if_neg (by simp [hstart])]
      rw [subelemLoop, hround, List.filter_cons_of_neg (by simp [hstart])]
      exact ih
    | true =>
      have hround := subelemRound_snd (s := s) hk (hfit sub List.mem_cons_self) hstart
        (hok sub List.mem_cons_self hstart)
      rw [subelemLoop, hround, List.filter_cons_of_pos hstart, List.map_cons, List.find?_cons]
      cases prefixMatches s (bssProfile (ntProfile k m n e sub)) with
      | true => rfl
      | false => exact ih

/-- The loops choose the first profile that matches in the last element that has one. -/
theorem elemLoop_snd (hk : k.Contract) {es : List ℕ}
    (hfit : ∀ e ∈ es, ∀ sub ∈ subelems m e, m.datalen sub ≤ ieLen n)
    (hok : ∀ e ∈ es, ∀ sub ∈ subelems m e, startsProfile m sub = true →
      ProfileOk (ntProfile k m n e sub)) (index : BitVec 8) :
    (elemLoop k s m n index es).2 =
      choose (prefixMatches s) BssProfile.index index (es.map (profilesOf k m n)) := by
  induction es generalizing index with
  | nil => rfl
  | cons e es ih =>
    have hinner := subelemLoop_snd (s := s) hk (hfit e List.mem_cons_self)
      (hok e List.mem_cons_self)
    rw [elemLoop, hinner, List.map_cons, choose, List.foldl_cons]
    exact ih (fun e he => hfit e (List.mem_cons_of_mem _ he))
      (fun e he => hok e (List.mem_cons_of_mem _ he)) _

end Loops

end RxMgmt
