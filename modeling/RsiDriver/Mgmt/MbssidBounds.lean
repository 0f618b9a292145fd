import RsiDriver.Mgmt.MbssidProfile
import RsiDriver.Twt.Agreement

/-!
# Beacons and TWT frames within bounds

`rsi_mgmt_pkt_to_core` looks at the frame control field of every frame that has a byte, at the
elements of a beacon and at the fields of an action frame, and does not ask for the length of the
frame: `ie_len` of a beacon of fewer than 36 bytes is a large number. The SSID of a profile may be
longer than the 32 bytes of `common->ssid` that it is compared with.

## Main results

* `mgmtFrameOk_iff`: a frame is parsed within bounds and to the right profile if and only if its
  sizes are in order and the profile that decides, if there is one, is the right one.
-/

namespace RxMgmt

open Access

/-! ## Sizes -/

section Sizes

variable (k : Cfg80211) (s : Adapter) (m : ByteMemory) (n : ℕ)

/-- The subelement starts a profile with an index whose SSID agrees with `common->ssid`. -/
def Taken (e sub : ℕ) : Bool :=
  startsProfile m sub && (multiBssidIdx k (ntProfile k m n e sub)).isSome &&
    ssidMatches s (ntProfile k m n e sub)

/-- There is a buffer for the profile, and its SSID is one of at most 32 bytes if it has an
index. -/
def SubelemFits (e sub : ℕ) : Prop :=
  startsProfile m sub = true →
    s.kmalloc = true ∧
      ((multiBssidIdx k (ntProfile k m n e sub)).isSome = true →
        ntSsidLen (ntProfile k m n e sub) ≤ 32)

/-- This holds of the subelements up to the first profile that is taken. -/
def SubelemsFit (e : ℕ) : List ℕ → Prop
  | [] => True
  | sub :: subs =>
    SubelemFits k s m n e sub ∧ (Taken k s m n e sub = false → SubelemsFit e subs)

/-- A beacon has its fixed part; its first Multiple-BSSID element is not an empty one at the end of
the frame; and the profiles fit, unless the beacon has the SSID that is connected to. -/
def BeaconFits : Prop :=
  baselen ≤ n ∧ ∀ elem, (mbssidElems m n).head? = some elem →
    elem + 2 < n ∧
      (ownBeacon s m = false → ∀ e ∈ mbssidElems m n, SubelemsFit k s m n e (subelems m e))

/-- A TWT setup frame has the fields that are looked at: the command, the flow id of a session that
is active already, or all fields up to the mantissa. -/
def SetupFits : Prop :=
  if s.twt.twtSessionInProgress then 43 ≤ n
  else
    s.twt.apSupportTwt = true →
      31 ≤ n ∧ ((twtElement m).setupCommand = Twt.TWT_SETUP_CMD_ACCEPT →
        if s.twt.twtSessionActive then
          32 ≤ n ∧ (s.twt.twtActiveSessionFlowId = (twtElement m).flowId → 43 ≤ n)
        else 43 ≤ n)

/-- An action frame has its category, and a TWT frame its action and what belongs to it. -/
def ActionFits : Prop :=
  25 ≤ n ∧ (m 24 = WLAN_CATEGORY_S1G →
    26 ≤ n ∧ (m 25 = WLAN_S1G_TWT_SETUP → SetupFits s m n) ∧
      (m 25 = WLAN_S1G_TWT_TEARDOWN → s.twt.twtSessionActive = true → 27 ≤ n))

/-- The sizes in a copied frame are in order. -/
def CopyFits : Prop :=
  2 ≤ n ∧ (isBeacon m = true → BeaconFits k s m n) ∧
    (isBeacon m = false → isAction m = true → ActionFits s m n)

end Sizes

section Bounds

variable {k : Cfg80211} {s : Adapter} {m : ByteMemory} {n : ℕ} {e sub : ℕ}

@[simp]
theorem size_skb : Obj.size s n .skb = n := rfl

@[simp]
theorem size_ssid : Obj.size s n .ssid = 32 := rfl

theorem skb_inBounds {i : ℕ} : (skb i).InBounds (Obj.size s n) ↔ i < n := by
  rw [skb, inBounds_byte, size_skb]

theorem ieLen_of_le (h : baselen ≤ n) (hn : n < 2 ^ 16) : ieLen n = n - baselen := by
  rw [baselen] at h
  rw [ieLen, baselen, BitVec.toNat_sub, BitVec.toNat_ofNat, BitVec.toNat_ofNat,
    Nat.mod_eq_of_lt hn]
  omega

/-- The subtraction wraps for a frame without a fixed part. -/
theorem ieLen_of_lt (h : n < baselen) : ieLen n = 2 ^ 16 + n - baselen := by
  rw [baselen] at h
  rw [ieLen, baselen, BitVec.toNat_sub, BitVec.toNat_ofNat, BitVec.toNat_ofNat,
    Nat.mod_eq_of_lt (by omega)]
  omega

/-- The elements that the kernel is handed lie in the frame if the frame has a fixed part. -/
theorem ies_inBounds (hn : n < 2 ^ 16) :
    (Access.read Obj.skb ⟨baselen, ieLen n⟩).InBounds (Obj.size s n) ↔ baselen ≤ n := by
  rw [inBounds_read, size_skb]
  by_cases h : baselen ≤ n
  · rw [ieLen_of_le h hn]
    omega
  · rw [ieLen_of_lt (by omega), baselen]
    rw [baselen] at h
    omega

/-- A Multiple-BSSID element lies in the frame. -/
theorem completeAt_of_mem_mbssidElems (h : baselen ≤ n) (hn : n < 2 ^ 16)
    (he : e ∈ mbssidElems m n) : baselen ≤ e ∧ e + 2 + m.datalen e ≤ n := by
  have hmem := (List.mem_filter.1 he).1
  rw [ieLen_of_le h hn, Nat.add_sub_cancel' h] at hmem
  exact ByteMemory.completeAt_of_mem_elements hmem

/-- A subelement lies in its element. -/
theorem completeAt_of_mem_subelems (hsub : sub ∈ subelems m e) :
    e + 3 ≤ sub ∧ sub + 2 + m.datalen sub ≤ e + 2 + m.datalen e :=
  ByteMemory.completeAt_of_mem_elements hsub

/-- The data of a subelement have room in `nt_profile`. -/
theorem datalen_le_ieLen (h : baselen ≤ n) (hn : n < 2 ^ 16) (he : e ∈ mbssidElems m n)
    (hsub : sub ∈ subelems m e) : m.datalen sub ≤ ieLen n := by
  have hele := completeAt_of_mem_mbssidElems h hn he
  have hsub := completeAt_of_mem_subelems hsub
  rw [ieLen_of_le h hn]
  omega

variable {profile : List (BitVec 8)}

/-- The index that is found is not the capability, so that there is an element at 4. -/
theorem StartsWithCap.ssid_complete (hk : k.Contract) (hcap : StartsWithCap profile)
    (h : (multiBssidIdx k profile).isSome = true) : 6 + ntSsidLen profile ≤ profile.length := by
  have hfind : findElem WLAN_EID_MULTI_BSSID_IDX profile ≠ none := by
    intro hnone
    rw [multiBssidIdx, hk.findIe_eq, Nat.zero_add] at h
    rw [findElem] at hnone
    rw [hnone] at h
    exact Bool.noConfusion h
  rw [hcap.findElem_eq (by decide)] at hfind
  have hne : (ByteMemory.ofList profile).elements 4 profile.length ≠ [] := by
    intro hnil
    rw [hnil] at hfind
    exact hfind rfl
  exact ByteMemory.completeAt_of_elements_ne_nil hne

/-- The index is read inside the bytes that were merged. -/
theorem multiBssidIdxAccesses_inBounds (hk : k.Contract)
    (hle : profile.length ≤ Obj.size s n .ntProfile) :
    AllInBounds (Obj.size s n) (multiBssidIdxAccesses k profile) := by
  rw [multiBssidIdxAccesses, allInBounds_cons, inBounds_read]
  refine ⟨by omega, ?_⟩
  split
  · exact allInBounds_nil
  · rename_i index hfind
    rw [hk.findIe_eq, Nat.zero_add] at hfind
    have hmem := ByteMemory.completeAt_of_mem_elements (List.mem_of_find?_eq_some hfind)
    have hcomplete : index + 2 + (ByteMemory.ofList profile).datalen index ≤ profile.length :=
      hmem.2
    rw [allInBounds_cons, inBounds_byte, allInBounds_ite]
    refine ⟨by omega, fun _ => allInBounds_nil, fun hlen => ?_⟩
    rw [allInBounds_cons, inBounds_byte]
    exact ⟨by omega, allInBounds_nil⟩

/-- The comparison stays in the profile; it stays in `common->ssid` if the SSID is not too long. -/
theorem ssidAccesses_inBounds (hlen : 6 + ntSsidLen profile ≤ Obj.size s n .ntProfile) :
    AllInBounds (Obj.size s n) (ssidAccesses profile) ↔ ntSsidLen profile ≤ 32 := by
  simp only [ssidAccesses, allInBounds_cons, allInBounds_nil, inBounds_byte, inBounds_read,
    size_ssid, and_true]
  omega

theorem subelemRound_inBounds (hk : k.Contract) (h : baselen ≤ n) (hn : n < 2 ^ 16)
    (he : e ∈ mbssidElems m n) (hsub : sub ∈ subelems m e) :
    AllInBounds (Obj.size s n) (subelemRound k s m n e sub).1 ↔ SubelemFits k s m n e sub := by
  rw [subelemRound, SubelemFits]
  cases hstart : startsProfile m sub with
  | false => exact iff_of_true allInBounds_nil fun htrue => Bool.noConfusion htrue
  | true =>
    have hfit := datalen_le_ieLen h hn he hsub
    have hcap := startsWithCap (e := e) hk hfit hstart
    have hle : (ntProfile k m n e sub).length ≤ ieLen n := length_ntProfile_le hk
    have hpos : 4 ≤ ieLen n := Nat.le_trans hcap.le hle
    have hies := (ies_inBounds (s := s) hn).2 h
    cases hkmalloc : s.kmalloc with
    | false =>
      -- `memset` of a buffer that was not allocated
      have hsize : Obj.size s n .ntProfile = 0 := by rw [Obj.size, hkmalloc]; rfl
      have hbad : ¬ (Access.write Obj.ntProfile 0 (List.replicate (ieLen n) 0)).InBounds
          (Obj.size s n) := by
        rw [inBounds_write, List.length_replicate, hsize]
        omega
      refine iff_of_false (fun hall => hbad ?_) (fun hfits => Bool.noConfusion (hfits rfl).1)
      simp only [if_true] at hall
      split at hall
      · exact (allInBounds_cons.1 hall).1
      · exact (allInBounds_cons.1 hall).1
    | true =>
      have hsize : Obj.size s n .ntProfile = ieLen n := by rw [Obj.size, hkmalloc]; rfl
      have hcopied : AllInBounds (Obj.size s n)
          ([.write .ntProfile 0 (List.replicate (ieLen n) 0), .read .skb ⟨baselen, ieLen n⟩,
            .write .ntProfile 0 (ntProfile k m n e sub)] ++
              multiBssidIdxAccesses k (ntProfile k m n e sub)) := by
        rw [allInBounds_append]
        refine ⟨?_, multiBssidIdxAccesses_inBounds hk (by rw [hsize]; exact hle)⟩
        rw [allInBounds_cons, allInBounds_cons, allInBounds_cons, inBounds_write, inBounds_write,
          List.length_replicate, hsize]
        exact ⟨by omega, hies, by omega, allInBounds_nil⟩
      simp only [if_true, true_imp_iff, true_and]
      cases hidx : multiBssidIdx k (ntProfile k m n e sub) with
      | none => exact iff_of_true hcopied fun hsome => Bool.noConfusion hsome
      | some index =>
        have hssid := hcap.ssid_complete hk (by rw [hidx]; rfl)
        refine allInBounds_append.trans ((and_iff_right hcopied).trans ?_)
        refine (ssidAccesses_inBounds (by rw [hsize]; omega)).trans ?_
        exact ⟨fun h _ => h, fun h => h rfl⟩

/-- The inner loop goes on behind a profile that is not taken. -/
theorem subelemRound_snd_eq_none_iff :
    (subelemRound k s m n e sub).2 = none ↔ Taken k s m n e sub = false := by
  rw [subelemRound, Taken]
  cases startsProfile m sub with
  | false => exact iff_of_true rfl rfl
  | true =>
    simp only [if_true, Bool.true_and]
    cases multiBssidIdx k (ntProfile k m n e sub) with
    | none => simp
    | some index => cases ssidMatches s (ntProfile k m n e sub) <;> simp

theorem subelemLoop_inBounds (hk : k.Contract) (h : baselen ≤ n) (hn : n < 2 ^ 16)
    (he : e ∈ mbssidElems m n) {subs : List ℕ} (hsubs : ∀ sub ∈ subs, sub ∈ subelems m e) :
    AllInBounds (Obj.size s n) (subelemLoop k s m n e subs).1 ↔ SubelemsFit k s m n e subs := by
  induction subs with
  | nil => exact iff_of_true allInBounds_nil trivial
  | cons sub subs ih =>
    have ih := ih fun sub hsub => hsubs sub (List.mem_cons_of_mem _ hsub)
    have hround := subelemRound_inBounds (s := s) hk h hn he (hsubs sub List.mem_cons_self)
    have hnone : (subelemRound k s m n e sub).2 = none ↔ Taken k s m n e sub = false :=
      subelemRound_snd_eq_none_iff
    rw [subelemLoop, SubelemsFit]
    cases hsnd : (subelemRound k s m n e sub).2 with
    | some index =>
      have htaken : Taken k s m n e sub ≠ false := by
        rw [Ne, ← hnone, hsnd]
        exact Option.some_ne_none index
      refine hround.trans ⟨fun hfit => ⟨hfit, fun hnot => absurd hnot htaken⟩, fun hfit => hfit.1⟩
    | none =>
      refine allInBounds_append.trans (and_congr hround (ih.trans ?_))
      exact ⟨fun hfit _ => hfit, fun hfit => hfit (hnone.1 hsnd)⟩

theorem elemLoop_inBounds (hk : k.Contract) (h : baselen ≤ n) (hn : n < 2 ^ 16)
    {es : List ℕ} (hes : ∀ e ∈ es, e ∈ mbssidElems m n) (index : BitVec 8) :
    AllInBounds (Obj.size s n) (elemLoop k s m n index es).1 ↔
      ∀ e ∈ es, SubelemsFit k s m n e (subelems m e) := by
  induction es generalizing index with
  | nil => exact iff_of_true allInBounds_nil fun e he => absurd he List.not_mem_nil
  | cons e es ih =>
    have he := hes e List.mem_cons_self
    have hinner := subelemLoop_inBounds (s := s) hk h hn he fun _ hsub => hsub
    have hele := completeAt_of_mem_mbssidElems h hn he
    have hdata : (Access.read Obj.skb ⟨e + 3, m.datalen e - 1⟩).InBounds (Obj.size s n) := by
      rw [inBounds_read, size_skb]
      omega
    rw [elemLoop, List.forall_mem_cons]
    refine allInBounds_append.trans (and_congr ?_ (ih (fun e he => hes e ?_) _))
    · exact allInBounds_cons.trans ((and_iff_right hdata).trans hinner)
    · exact List.mem_cons_of_mem _ he

theorem periodicity_inBounds (hk : k.Contract) (h : baselen ≤ n) (hn : n < 2 ^ 16) :
    AllInBounds (Obj.size s n) (periodicity k m n).1 := by
  rw [periodicity]
  split
  · exact allInBounds_nil
  · rename_i e hfind
    rw [hk.findExtElem_eq, ieLen_of_le h hn, Nat.add_sub_cancel' h] at hfind
    have hmem := ByteMemory.completeAt_of_mem_elements (List.mem_of_find?_eq_some hfind)
    have hcomplete : e + 2 + m.datalen e ≤ n := hmem.2
    split
    · rw [allInBounds_cons, allInBounds_cons, skb_inBounds, skb_inBounds]
      exact ⟨by omega, by omega, allInBounds_nil⟩
    · rw [allInBounds_cons, skb_inBounds]
      exact ⟨by omega, allInBounds_nil⟩

theorem processMbssidParameters_inBounds (hk : k.Contract) (h : baselen ≤ n) (hn : n < 2 ^ 16)
    (ax : AxParams) :
    AllInBounds (Obj.size s n) (processMbssidParameters k s m n ax).1 ↔
      ∀ e ∈ mbssidElems m n, SubelemsFit k s m n e (subelems m e) := by
  have hies := (ies_inBounds (s := s) hn).2 h
  have hconfig := periodicity_inBounds (s := s) (m := m) hk h hn
  have hloop := elemLoop_inBounds (s := s) hk h hn (fun e (he : e ∈ mbssidElems m n) => he)
    ax.connectedNtProfileIndex
  rw [processMbssidParameters]
  refine allInBounds_append.trans ((and_iff_right ?_).trans ?_)
  · exact allInBounds_cons.2 ⟨hies, hconfig⟩
  · exact allInBounds_cons.trans ((and_iff_right hies).trans hloop)

/-- The first Multiple-BSSID element is the one that `process_rx_mgmt_beacon` finds. -/
theorem findIe_mbssid (hk : k.Contract) :
    k.findIe WLAN_EID_MULTIPLE_BSSID m baselen (ieLen n) = (mbssidElems m n).head? := by
  rw [hk.findIe_eq, mbssidElems, List.head?_filter]

/-- If there is a Multiple-BSSID element, the element in front of the beacon is complete. -/
theorem completeAt_ssid (h : baselen ≤ n) (hn : n < 2 ^ 16) (hne : mbssidElems m n ≠ []) :
    38 + m.datalen 36 ≤ n := by
  have helems : m.elements baselen n ≠ [] := by
    intro hnil
    rw [mbssidElems, ieLen_of_le h hn, Nat.add_sub_cancel' h, hnil] at hne
    exact hne rfl
  exact ByteMemory.completeAt_of_elements_ne_nil helems

theorem processRxMgmtBeacon_inBounds (hk : k.Contract) (hn : n < 2 ^ 16) :
    AllInBounds (Obj.size s n) (processRxMgmtBeacon k s m n).1 ↔ BeaconFits k s m n := by
  rw [processRxMgmtBeacon, BeaconFits, findIe_mbssid hk]
  by_cases h : baselen ≤ n
  · have hies := (ies_inBounds (s := s) hn).2 h
    cases helem : (mbssidElems m n).head? with
    | none => exact iff_of_true (allInBounds_cons.2 ⟨hies, allInBounds_nil⟩) ⟨h, nofun⟩
    | some elem =>
      have hne : mbssidElems m n ≠ [] := by
        intro hnil
        rw [hnil] at helem
        exact nomatch helem
      have hfront := completeAt_ssid h hn hne
      have hbase : 36 ≤ n := h
      -- the lengths are compared first, so that the SSID of the beacon is there
      have hcompared : AllInBounds (Obj.size s n)
          (if s.ssidLen = (m 37).toNat then
            [.read .ssid ⟨0, s.ssidLen⟩, .read .skb ⟨38, s.ssidLen⟩] else []) := by
        have hssid := s.ssidLen_le
        rw [allInBounds_ite]
        refine ⟨fun heq => ?_, fun _ => allInBounds_nil⟩
        have hlen : s.ssidLen = m.datalen 36 := heq
        rw [allInBounds_cons, allInBounds_cons, inBounds_read, inBounds_read, size_ssid, size_skb]
        exact ⟨by omega, by omega, allInBounds_nil⟩
      have hheader (l : List (Access Obj)) (hl : AllInBounds (Obj.size s n) l) :
          AllInBounds (Obj.size s n) ([.read .skb ⟨baselen, ieLen n⟩, .read .skb ⟨16, 6⟩,
            skb (elem + 2), skb 37] ++ l) ↔ elem + 2 < n := by
        rw [allInBounds_append, and_iff_left hl, allInBounds_cons, allInBounds_cons,
          allInBounds_cons, allInBounds_cons, and_iff_right hies, inBounds_read, skb_inBounds,
          skb_inBounds, size_skb]
        exact ⟨fun h => h.2.1, fun h => ⟨by omega, h, by omega, allInBounds_nil⟩⟩
      have hfirst : (∀ x, some elem = some x → x + 2 < n ∧
          (ownBeacon s m = false → ∀ e ∈ mbssidElems m n, SubelemsFit k s m n e (subelems m e))) ↔
          elem + 2 < n ∧
          (ownBeacon s m = false → ∀ e ∈ mbssidElems m n, SubelemsFit k s m n e (subelems m e)) :=
        ⟨fun h => h elem rfl, by rintro h x ⟨⟩; exact h⟩
      rw [hfirst, and_iff_right h]
      cases hown : ownBeacon s m with
      | true =>
        refine (hheader _ hcompared).trans ⟨fun h => ⟨h, nofun⟩, fun h => h.1⟩
      | false =>
        refine allInBounds_append.trans (and_congr (hheader _ hcompared) ?_)
        refine (processMbssidParameters_inBounds hk h hn _).trans ?_
        exact ⟨fun h _ => h, fun h => h rfl⟩
  · -- the kernel is handed more than the frame has
    have hies := mt (ies_inBounds (s := s) hn).1 h
    refine iff_of_false (fun hall => hies ?_) (fun hfits => h hfits.1)
    cases helem : (mbssidElems m n).head? with
    | none =>
      rw [helem] at hall
      exact (allInBounds_cons.1 hall).1
    | some elem =>
      rw [helem] at hall
      cases hown : ownBeacon s m with
      | true =>
        rw [hown] at hall
        exact (allInBounds_cons.1 hall).1
      | false =>
        rw [hown] at hall
        exact (allInBounds_cons.1 hall).1

theorem processSetupResp_inBounds :
    AllInBounds (Obj.size s n) processSetupResp ↔ 43 ≤ n := by
  rw [processSetupResp, allInBounds_cons, inBounds_read, size_skb]
  simp only [allInBounds_nil, and_true]
  omega

theorem twtSetupAccesses_inBounds :
    AllInBounds (Obj.size s n) (twtSetupAccesses s.twt m) ↔ SetupFits s m n := by
  rw [twtSetupAccesses, SetupFits]
  cases s.twt.twtSessionInProgress with
  | true => exact processSetupResp_inBounds
  | false =>
    cases s.twt.apSupportTwt with
    | false => exact iff_of_true allInBounds_nil nofun
    | true =>
      simp only [Bool.false_eq_true, if_false, if_true, true_imp_iff, allInBounds_cons,
        allInBounds_ite, allInBounds_nil, implies_true, and_true, skb_inBounds,
        processSetupResp_inBounds, inBounds_read, size_skb]
      refine and_congr ⟨by omega, by omega⟩ (imp_congr_right fun _ => ?_)
      cases s.twt.twtSessionActive with
      | true =>
        simp only [true_imp_iff, not_true_eq_false, false_imp_iff, and_true, if_true,
          Decidable.not_not]
        constructor
        · rintro ⟨hflow, hother, hsame⟩
          exact ⟨by omega, hsame⟩
        · rintro ⟨hflow, hsame⟩
          exact ⟨by omega, fun _ => ⟨by omega, by omega⟩, hsame⟩
      | false => simp

theorem actionAccesses_inBounds :
    AllInBounds (Obj.size s n) (actionAccesses s.twt m) ↔ ActionFits s m n := by
  have hteardown : AllInBounds (Obj.size s n) (twtTeardownAccesses s.twt) ↔
      (s.twt.twtSessionActive = true → 27 ≤ n) := by
    rw [twtTeardownAccesses, allInBounds_ite]
    simp only [allInBounds_cons, allInBounds_nil, skb_inBounds, and_true, implies_true]
    exact Iff.rfl
  have hne : WLAN_S1G_TWT_TEARDOWN ≠ WLAN_S1G_TWT_SETUP := by decide
  simp only [actionAccesses, ActionFits, allInBounds_cons, allInBounds_ite, allInBounds_nil,
    skb_inBounds, twtSetupAccesses_inBounds, hteardown, implies_true, and_true]
  refine and_congr Iff.rfl (imp_congr_right fun _ =>
    and_congr Iff.rfl (and_congr_right fun _ => ?_))
  exact ⟨fun h ht => h (by rw [ht]; exact hne) ht, fun h _ ht => h ht⟩

/-- The copy of a frame is parsed within bounds if and only if its sizes are in order. -/
theorem parseCopy_inBounds (hk : k.Contract) (hpos : 0 < n) (hn : n < 2 ^ 16) :
    AllInBounds (Obj.size s n) (parseCopy k s m n).accesses ↔ CopyFits k s m n := by
  have hheader : AllInBounds (Obj.size s n) [skb 0, .read .skb ⟨0, 2⟩] ↔ 2 ≤ n := by
    rw [allInBounds_cons, allInBounds_cons, skb_inBounds, inBounds_read, size_skb]
    simp only [allInBounds_nil, and_true]
    omega
  rw [parseCopy, CopyFits]
  cases hbeacon : isBeacon m with
  | true =>
    simp only [if_true, true_imp_iff, Bool.true_eq_false, false_imp_iff, and_true]
    rw [allInBounds_append, hheader, processRxMgmtBeacon_inBounds hk hn]
  | false =>
    simp only [Bool.false_eq_true, if_false, false_imp_iff, true_and, true_imp_iff]
    cases isAction m with
    | true =>
      simp only [if_true, true_imp_iff]
      rw [allInBounds_append, hheader, actionAccesses_inBounds]
    | false =>
      simp only [Bool.false_eq_true, if_false, false_imp_iff, and_true]
      exact hheader

end Bounds

/-! ## The index -/

section Index

variable (k : Cfg80211) (s : Adapter) (m : ByteMemory) (n : ℕ)

/-- The profile that decides is the right one: its SSID has the length of the one that is connected
to, or another profile with that SSID has its index, or there is none and the index is what it
was. -/
def DeciderOk : Prop :=
  ∀ x, Decides (prefixMatches s) (nonTxProfiles k m n) x →
    x.ssid.length = s.ssidLen ∨
      (∃ y ∈ (nonTxProfiles k m n).flatten, y.ssid = s.ownSsid ∧ y.index = x.index) ∨
      (∀ y ∈ (nonTxProfiles k m n).flatten, y.ssid ≠ s.ownSsid) ∧
        x.index = s.ax.connectedNtProfileIndex

variable {k s m n}

/-- The first element of the beacon is compared with the SSID in both length and contents. -/
theorem ownBeacon_iff : ownBeacon s m = true ↔ txSsid m = s.ownSsid := by
  rw [ownBeacon, Bool.and_eq_true, decide_eq_true_eq, beq_iff_eq, txSsid, Adapter.ownSsid]
  constructor
  · rintro ⟨hlen, heq⟩
    rw [heq, hlen]
    rfl
  · intro heq
    have hlen := congrArg List.length heq
    rw [ByteMemory.length_bytes, ByteMemory.length_bytes] at hlen
    refine ⟨hlen.symm, ?_⟩
    rw [← heq, hlen]

/-- What the index becomes. -/
theorem processRxMgmtBeacon_index (hk : k.Contract) (h : baselen ≤ n) (hn : n < 2 ^ 16)
    (hwf : WellFormed k m n) :
    (processRxMgmtBeacon k s m n).2.connectedNtProfileIndex =
      if mbssidElems m n = [] then s.ax.connectedNtProfileIndex
      else if ownBeacon s m then 0
      else choose (prefixMatches s) BssProfile.index s.ax.connectedNtProfileIndex
        (nonTxProfiles k m n) := by
  rw [processRxMgmtBeacon, findIe_mbssid hk]
  cases helems : mbssidElems m n with
  | nil => rfl
  | cons elem es =>
    rw [List.head?_cons, if_neg (List.cons_ne_nil elem es)]
    cases ownBeacon s m with
    | true => rfl
    | false =>
      exact elemLoop_snd hk (fun e he sub hsub => datalen_le_ieLen h hn he hsub) hwf.profiles _

/-- A profile with the SSID that is connected to matches. -/
theorem prefixMatches_of_eq {x : BssProfile} (h : x.ssid = s.ownSsid) :
    prefixMatches s x = true := by
  rw [prefixMatches, beq_iff_eq, h, Adapter.ownSsid, ByteMemory.length_bytes]

/-- A profile that matches in the right length has the SSID that is connected to. -/
theorem eq_of_prefixMatches {x : BssProfile} (h : prefixMatches s x = true)
    (hlen : x.ssid.length = s.ssidLen) : x.ssid = s.ownSsid := by
  rw [prefixMatches, beq_iff_eq, hlen] at h
  exact h.symm

/-- The index that the loops choose is right if and only if the profile that decides is. -/
theorem indexOk_choose_iff (hne : mbssidElems m n ≠ []) (hown : txSsid m ≠ s.ownSsid) :
    IndexOk k s m n (choose (prefixMatches s) BssProfile.index s.ax.connectedNtProfileIndex
      (nonTxProfiles k m n)) ↔ DeciderOk k s m n := by
  have hprofiles : profiles k m n = ⟨0, txSsid m⟩ :: (nonTxProfiles k m n).flatten := by
    rw [profiles, if_neg (by simpa using hne)]
  -- the BSS that sends the beacon is another one
  have hexists : (∃ x ∈ profiles k m n, x.ssid = s.ownSsid) ↔
      ∃ x ∈ (nonTxProfiles k m n).flatten, x.ssid = s.ownSsid := by
    rw [hprofiles]
    simp only [List.mem_cons, exists_eq_or_imp]
    exact or_iff_right hown
  have hforall : (∀ x ∈ profiles k m n, x.ssid ≠ s.ownSsid) ↔
      ∀ x ∈ (nonTxProfiles k m n).flatten, x.ssid ≠ s.ownSsid := by
    rw [hprofiles, List.forall_mem_cons]
    exact and_iff_right hown
  constructor
  · intro hok x hx
    have hindex : choose (prefixMatches s) BssProfile.index s.ax.connectedNtProfileIndex
        (nonTxProfiles k m n) = x.index := choose_of_decides hx _
    rw [hindex] at hok
    by_cases hfound : ∃ y ∈ profiles k m n, y.ssid = s.ownSsid
    · obtain ⟨y, hy, hssid, hyindex⟩ := hok.found hfound
      rw [hprofiles] at hy
      obtain rfl | hy := List.mem_cons.1 hy
      · exact absurd hssid hown
      · exact .inr (.inl ⟨y, hy, hssid, hyindex⟩)
    · have hnone : ∀ y ∈ profiles k m n, y.ssid ≠ s.ownSsid :=
        fun y hy hssid => hfound ⟨y, hy, hssid⟩
      exact .inr (.inr ⟨hforall.1 hnone, hok.kept hnone⟩)
  · intro hok
    obtain ⟨x, hx⟩ | hnone := decides_or_none (p := prefixMatches s) (nonTxProfiles k m n)
    · rw [choose_of_decides hx]
      obtain ⟨hmem, hmatch⟩ := hx.mem
      have hin {y : BssProfile} (hy : y ∈ (nonTxProfiles k m n).flatten) : y ∈ profiles k m n := by
        rw [hprofiles]
        exact List.mem_cons_of_mem _ hy
      obtain hlen | ⟨y, hy, hssid, hindex⟩ | ⟨hother, hindex⟩ := hok x hx
      · have hssid := eq_of_prefixMatches hmatch hlen
        exact ⟨fun _ => ⟨x, hin hmem, hssid, rfl⟩, fun hall => absurd hssid (hall x (hin hmem))⟩
      · exact ⟨fun _ => ⟨y, hin hy, hssid, hindex⟩, fun hall => absurd hssid (hall y (hin hy))⟩
      · refine ⟨fun hfound => ?_, fun _ => hindex⟩
        obtain ⟨y, hy, hssid⟩ := hexists.1 hfound
        exact absurd hssid (hother y hy)
    · rw [choose_of_none hnone]
      refine ⟨fun hfound => ?_, fun _ => rfl⟩
      obtain ⟨y, hy, hssid⟩ := hexists.1 hfound
      obtain ⟨g, hg, hyg⟩ := List.mem_flatten.1 hy
      have hmatch := prefixMatches_of_eq hssid
      rw [hnone g hg y hyg] at hmatch
      exact nomatch hmatch

/-- The index after a beacon is right if and only if the profile that decides is, unless the beacon
itself has the SSID. -/
theorem indexOk_iff (hk : k.Contract) (h : baselen ≤ n) (hn : n < 2 ^ 16)
    (hwf : WellFormed k m n) :
    IndexOk k s m n (processRxMgmtBeacon k s m n).2.connectedNtProfileIndex ↔
      (ownBeacon s m = false → DeciderOk k s m n) := by
  rw [processRxMgmtBeacon_index hk h hn hwf]
  by_cases hnil : mbssidElems m n = []
  · have hprofiles : profiles k m n = [] := by rw [profiles, hnil]; rfl
    have hgroups : nonTxProfiles k m n = [] := by rw [nonTxProfiles, hnil]; rfl
    rw [if_pos hnil]
    refine iff_of_true ⟨fun hfound => ?_, fun _ => rfl⟩ fun _ x hx => ?_
    · obtain ⟨y, hy, -⟩ := hfound
      rw [hprofiles] at hy
      exact absurd hy List.not_mem_nil
    · have hmem := hx.mem.1
      rw [hgroups] at hmem
      exact absurd hmem List.not_mem_nil
  · rw [if_neg hnil]
    cases hown : ownBeacon s m with
    | true =>
      have hssid := ownBeacon_iff.1 hown
      have hmem : ⟨0, txSsid m⟩ ∈ profiles k m n := by
        rw [profiles, if_neg (by simpa using hnil)]
        exact List.mem_cons_self
      refine iff_of_true ⟨fun _ => ⟨_, hmem, hssid, rfl⟩, fun hall => ?_⟩ nofun
      exact absurd hssid (hall _ hmem)
    | false =>
      have hssid : txSsid m ≠ s.ownSsid := fun heq => by
        rw [ownBeacon_iff.2 heq] at hown
        exact nomatch hown
      refine (indexOk_choose_iff hnil hssid).trans ⟨fun h _ => h, fun h => h rfl⟩

end Index

/-! ## Received frames -/

section Frames

variable (k : Cfg80211) (s : Adapter) (msg behind : ByteMemory)

/-- The frame is parsed within bounds: the parsers stay inside the copy, `common->ssid` and
`nt_profile`; and a beacon whose Multiple-BSSID elements are well formed leaves the right index. -/
structure MgmtFrameOk : Prop where
  inBounds : AllInBounds (Obj.size s (copyLen msg)) (mgmtPktToCore k s msg behind).accesses
  index : ¬ Dropped s msg → isBeacon (copied msg behind) = true →
    WellFormed k (copied msg behind) (copyLen msg) →
      IndexOk k s (copied msg behind) (copyLen msg)
        (mgmtPktToCore k s msg behind).ax.connectedNtProfileIndex

/-- The frame is dropped, or its sizes are in order and the profile that decides is the right
one. -/
def FrameFits : Prop :=
  Dropped s msg ∨
    CopyFits k s (copied msg behind) (copyLen msg) ∧
      (isBeacon (copied msg behind) = true →
        WellFormed k (copied msg behind) (copyLen msg) →
          ownBeacon s (copied msg behind) = false →
            DeciderOk k s (copied msg behind) (copyLen msg))

variable {k s msg behind}

/-- A frame that is copied has a byte, and no more than 4095. -/
theorem copyLen_bounds (h : ¬ Dropped s msg) : 0 < copyLen msg ∧ copyLen msg < 2 ^ 16 := by
  have hlen : Recv.msgLen msg < 2 ^ 16 := (Rx.length msg 0).isLt
  have hpad : ¬ Recv.msgLen msg ≤ (msg 4).toNat := fun hle => h (.inr (.inr (.inl hle)))
  rw [copyLen]
  omega

/-- **Beacons and TWT frames.** A frame is parsed within bounds and to the right profile if and only
if its sizes are in order and the profile that decides, if there is one, is the right one. -/
theorem mgmtFrameOk_iff (hk : k.Contract) :
    MgmtFrameOk k s msg behind ↔ FrameFits k s msg behind := by
  by_cases hdrop : Dropped s msg
  · refine iff_of_true ⟨?_, fun h => absurd hdrop h⟩ (.inl hdrop)
    rw [mgmtPktToCore, if_pos hdrop]
    exact allInBounds_nil
  · obtain ⟨hpos, hn⟩ := copyLen_bounds hdrop
    have hcore : mgmtPktToCore k s msg behind =
        parseCopy k s (copied msg behind) (copyLen msg) := by
      rw [mgmtPktToCore, if_neg hdrop]
    have hbounds := parseCopy_inBounds (k := k) (s := s) (m := copied msg behind) hk hpos hn
    have hindex (hfits : CopyFits k s (copied msg behind) (copyLen msg))
        (hbeacon : isBeacon (copied msg behind) = true)
        (hwf : WellFormed k (copied msg behind) (copyLen msg)) :
        IndexOk k s (copied msg behind) (copyLen msg)
          (mgmtPktToCore k s msg behind).ax.connectedNtProfileIndex ↔
          (ownBeacon s (copied msg behind) = false →
            DeciderOk k s (copied msg behind) (copyLen msg)) := by
      have hbase := (hfits.2.1 hbeacon).1
      have hax : (parseCopy k s (copied msg behind) (copyLen msg)).ax =
          (processRxMgmtBeacon k s (copied msg behind) (copyLen msg)).2 := by
        rw [parseCopy, if_pos hbeacon]
      rw [hcore, hax]
      exact indexOk_iff hk hbase hn hwf
    constructor
    · rintro ⟨hin, hok⟩
      rw [hcore] at hin
      have hfits := hbounds.1 hin
      exact .inr ⟨hfits, fun hbeacon hwf =>
        (hindex hfits hbeacon hwf).1 (hok hdrop hbeacon hwf)⟩
    · rintro (h | ⟨hfits, hdecider⟩)
      · exact absurd h hdrop
      · refine ⟨?_, fun _ hbeacon hwf => ?_⟩
        · rw [hcore]
          exact hbounds.2 hfits
        · exact (hindex hfits hbeacon hwf).2 (hdecider hbeacon hwf)

/-- The functions of the kernel, for profiles that are not split. -/
def unsplit : Cfg80211 where
  findIe eid m pos len := (m.elements pos (pos + len)).find? fun p => m p == eid
  findExtElem eid m pos len :=
    (m.elements pos (pos + len)).find? fun p => m p == 255 && m (p + 2) == eid &&
      decide (1 ≤ m.datalen p)
  mergeProfile m _ _ _ sub maxCopyLen :=
    if m.datalen sub ≤ maxCopyLen then m.bytes (sub + 2) (m.datalen sub) else []

theorem unsplit_contract : unsplit.Contract where
  findIe_eq _ _ _ _ := rfl
  findExtElem_eq _ _ _ _ := rfl
  length_mergeProfile_le m pos len elem sub maxCopyLen := by
    show (if _ then _ else _ : List (BitVec 8)).length ≤ maxCopyLen
    split
    · rwa [ByteMemory.length_bytes]
    · exact Nat.zero_le _
  isPrefix_mergeProfile m pos len elem sub maxCopyLen h := by
    show _ <+: (if _ then _ else _)
    exact ⟨[], by rw [if_pos h, List.append_nil]⟩

/-- A station that is connected to the SSID `a`, with TWT at rest. -/
def sampleAdapter : Adapter where
  scNvifs := 1
  ifaceDown := false
  alloc := true
  kmalloc := true
  ssid := .ofList [0x61]
  ssidLen := 1
  ssidLen_le := by decide
  ax := ⟨[], 0, 0, 1⟩
  twt := Twt.TwtSys.start.adapter

/-- The indication of a beacon without pad bytes: a length field, the type, the frame control field
and zeros up to the length. -/
def sampleBeacon (len : BitVec 8) : ByteMemory :=
  .ofList ([len, 0x40, 0x02] ++ List.replicate 13 0 ++ [0x80])

/-- A beacon of 38 bytes, which has an empty SSID, is parsed as it should be. -/
theorem mgmtFrameOk_sampleBeacon :
    MgmtFrameOk unsplit sampleAdapter (sampleBeacon 38) (.ofList []) := by
  have hlen : copyLen (sampleBeacon 38) = 38 := by decide
  have hnone : mbssidElems (copied (sampleBeacon 38) (.ofList [])) 38 = [] := by
    have hcomplete : (copied (sampleBeacon 38) (.ofList [])).CompleteAt 36 38 := by decide
    have hend : ¬ (copied (sampleBeacon 38) (.ofList [])).CompleteAt 38 38 := by decide
    have helems : (copied (sampleBeacon 38) (.ofList [])).elements 36 38 = [36] := by
      rw [ByteMemory.elements_cons hcomplete, ByteMemory.elements_nil]
      exact hend
    show List.filter _ ((copied (sampleBeacon 38) (.ofList [])).elements 36 38) = []
    rw [helems]
    rfl
  refine (mgmtFrameOk_iff unsplit_contract).2 (.inr ⟨?_, fun _ _ _ x hx => ?_⟩)
  · rw [hlen]
    refine ⟨by decide, fun _ => ⟨by decide, fun elem helem => ?_⟩, fun h => ?_⟩
    · rw [hnone] at helem
      exact nomatch helem
    · exact absurd h (by decide)
  · have hmem := hx.mem.1
    rw [hlen, nonTxProfiles, hnone] at hmem
    exact absurd hmem List.not_mem_nil

/-- The elements of a beacon of 30 bytes are looked for in 65530 bytes. -/
theorem not_mgmtFrameOk :
    ¬ ∀ k : Cfg80211, k.Contract → ∀ s msg behind, MgmtFrameOk k s msg behind := by
  intro h
  have hin := (h unsplit unsplit_contract sampleAdapter (sampleBeacon 30) (.ofList [])).inBounds
  have hdrop : ¬ Dropped sampleAdapter (sampleBeacon 30) := by decide
  have hlen : copyLen (sampleBeacon 30) = 30 := by decide
  rw [mgmtPktToCore, if_neg hdrop, hlen] at hin
  have hfits := (parseCopy_inBounds unsplit_contract (by decide) (by decide)).1 hin
  exact absurd (hfits.2.1 (by decide)).1 (by decide)

end Frames

end RxMgmt
