import RsiDriver.Mgmt.Indications
import RsiDriver.ToMathlib.Elements
import RsiDriver.Twt.Session

/-!
# Received management frames

`rsi_mgmt_pkt_to_core` copies an 802.11 management frame out of its indication and looks at two
kinds of frames before it gives the copy to mac80211. A beacon with Multiple-BSSID elements tells
the profiles of the access point: `rsi_process_mbssid_parameters` looks for the one with the SSID
that is connected to. A TWT action frame goes to the TWT session and not to mac80211.

The functions here give the accesses to the copy, to `common->ssid` and to `nt_profile`, and what
becomes of the Multiple-BSSID parameters. What a TWT frame does to the session is
`Twt.TwtAdapter.rxTwtSetup` and `Twt.TwtAdapter.rxTwtTeardown`; `twtSetupFrame` is the frame that
they are given. The build is that of kernels from 5.7 on with `CONFIG_TWT_SUPPORT`.

`cfg80211_find_ie`, `cfg80211_find_ext_elem` and `cfg80211_merge_profile` belong to the kernel.
-/

namespace RxMgmt

open Access

/-- What the parsers access. -/
inductive Obj
  /-- The data of the copied frame. -/
  | skb
  /-- `common->ssid` -/
  | ssid
  | ntProfile
  deriving DecidableEq, Repr

/-! ## The functions of the kernel -/

/-- Functions of cfg80211. An element is given by its position, a result that is `NULL` is none. -/
structure Cfg80211 where
  /-- `cfg80211_find_ie(eid, ies, len)` for the `len` bytes from a position on. -/
  findIe : BitVec 8 → ByteMemory → ℕ → ℕ → Option ℕ
  /-- `cfg80211_find_ext_elem(ext_eid, ies, len)` -/
  findExtElem : BitVec 8 → ByteMemory → ℕ → ℕ → Option ℕ
  /-- `cfg80211_merge_profile(ie, ielen, mbssid_elem, sub_elem, merged_ie, max_copy_len)`: the bytes
  that it writes to `merged_ie`, as many as it returns. -/
  mergeProfile : ByteMemory → ℕ → ℕ → ℕ → ℕ → ℕ → List (BitVec 8)

/-- What cfg80211 documents of them. -/
structure Cfg80211.Contract (k : Cfg80211) : Prop where
  /-- The first complete element with the identifier. -/
  findIe_eq : ∀ eid m pos len,
    k.findIe eid m pos len = (m.elements pos (pos + len)).find? fun p => m p == eid
  /-- The first complete element with the extended identifier. -/
  findExtElem_eq : ∀ eid m pos len,
    k.findExtElem eid m pos len =
      (m.elements pos (pos + len)).find? fun p => m p == 255 && m (p + 2) == eid &&
        decide (1 ≤ m.datalen p)
  /-- No more is written than there is room. -/
  length_mergeProfile_le : ∀ m pos len elem sub maxCopyLen,
    (k.mergeProfile m pos len elem sub maxCopyLen).length ≤ maxCopyLen
  /-- A profile starts with the data of its first subelement. -/
  isPrefix_mergeProfile : ∀ m pos len elem sub maxCopyLen, m.datalen sub ≤ maxCopyLen →
    m.bytes (sub + 2) (m.datalen sub) <+: k.mergeProfile m pos len elem sub maxCopyLen

/-! ## The state -/

/-- The Multiple-BSSID fields of `ax_params`. -/
structure AxParams where
  transmitterBssid : List (BitVec 8)
  mbssidMaskValue : BitVec 8
  connectedNtProfileIndex : BitVec 8
  profilePeriodicity : BitVec 8
  deriving DecidableEq, Repr

/-- What the parsers find. -/
structure Adapter where
  scNvifs : ℕ
  ifaceDown : Bool
  /-- `dev_alloc_skb` succeeds. -/
  alloc : Bool
  /-- `kmalloc` succeeds. -/
  kmalloc : Bool
  /-- The array `common->ssid` of 32 bytes, and what is behind it. -/
  ssid : ByteMemory
  ssidLen : ℕ
  /-- The length is that of an SSID of a scan request. -/
  ssidLen_le : ssidLen ≤ 32
  ax : AxParams
  twt : Twt.TwtAdapter

/-- The SSID that is connected to. -/
def Adapter.ownSsid (s : Adapter) : List (BitVec 8) := s.ssid.bytes 0 s.ssidLen

/-- One byte of the copied frame is read. -/
def skb (i : ℕ) : Access Obj := .byte .skb i

/-! ## Beacons -/

section Beacon

/-- `WLAN_EID_MULTIPLE_BSSID` -/
def WLAN_EID_MULTIPLE_BSSID : BitVec 8 := 71

/-- `WLAN_EID_NON_TX_BSSID_CAP` -/
def WLAN_EID_NON_TX_BSSID_CAP : BitVec 8 := 83

/-- `WLAN_EID_MULTI_BSSID_IDX` -/
def WLAN_EID_MULTI_BSSID_IDX : BitVec 8 := 85

/-- `WLAN_EID_EXT_MULTIPLE_BSSID_CONFIGURATION` -/
def WLAN_EID_EXT_MULTIPLE_BSSID_CONFIGURATION : BitVec 8 := 55

/-- `baselen`, the offset of `u.beacon.variable` in `struct ieee80211_mgmt`. -/
def baselen : ℕ := 36

/-- `ie_len`, an unsigned 16-bit difference. -/
def ieLen (n : ℕ) : ℕ := (BitVec.ofNat 16 n - BitVec.ofNat 16 baselen).toNat

variable (k : Cfg80211) (s : Adapter) (m : ByteMemory) (n : ℕ)

/-- The Multiple-BSSID elements, as `for_each_element_id` goes through them. -/
def mbssidElems : List ℕ :=
  (m.elements baselen (baselen + ieLen n)).filter fun e => m e == WLAN_EID_MULTIPLE_BSSID

/-- The subelements of a Multiple-BSSID element, as `for_each_element` goes through them. -/
def subelems (e : ℕ) : List ℕ := m.elements (e + 3) (e + 2 + m.datalen e)

/-- The subelement starts a profile. -/
def startsProfile (sub : ℕ) : Bool :=
  m sub == 0 && decide (4 ≤ m.datalen sub) && m (sub + 2) == WLAN_EID_NON_TX_BSSID_CAP &&
    m (sub + 3) == 2

/-- `nt_profile` after `cfg80211_merge_profile`. -/
def ntProfile (e sub : ℕ) : List (BitVec 8) :=
  k.mergeProfile m baselen (ieLen n) e sub (ieLen n)

/-- The BSSID index of a profile, if there is a valid Multiple-BSSID-Index element. -/
def multiBssidIdx (profile : List (BitVec 8)) : Option (BitVec 8) :=
  let nt := ByteMemory.ofList profile
  (k.findIe WLAN_EID_MULTI_BSSID_IDX nt 0 profile.length).bind fun index =>
    if nt.datalen index < 1 ∨ nt (index + 2) = 0 then none else some (nt (index + 2))

/-- `nt_profile[5]` -/
def ntSsidLen (profile : List (BitVec 8)) : ℕ := (ByteMemory.ofList profile 5).toNat

/-- `memcmp(common->ssid, &nt_profile[6], nt_profile[5])` is 0. -/
def ssidMatches (profile : List (BitVec 8)) : Bool :=
  s.ssid.bytes 0 (ntSsidLen profile) ==
    (ByteMemory.ofList profile).bytes 6 (ntSsidLen profile)

/-- The accesses for the index of a profile. -/
def multiBssidIdxAccesses (profile : List (BitVec 8)) : List (Access Obj) :=
  let nt := ByteMemory.ofList profile
  .read .ntProfile ⟨0, profile.length⟩ ::
    match k.findIe WLAN_EID_MULTI_BSSID_IDX nt 0 profile.length with
    | none => []
    | some index =>
      .byte .ntProfile (index + 1) ::
        if nt.datalen index < 1 then [] else [.byte .ntProfile (index + 2)]

/-- The accesses of the comparison of an SSID. -/
def ssidAccesses (profile : List (BitVec 8)) : List (Access Obj) :=
  [.byte .ntProfile 5, .read .ssid ⟨0, ntSsidLen profile⟩,
    .read .ntProfile ⟨6, ntSsidLen profile⟩]

/-- One round of the inner loop: the accesses, and the index if the profile is taken. -/
def subelemRound (e sub : ℕ) : List (Access Obj) × Option (BitVec 8) :=
  if startsProfile m sub then
    let profile := ntProfile k m n e sub
    let copied : List (Access Obj) :=
      [.write .ntProfile 0 (List.replicate (ieLen n) 0), .read .skb ⟨baselen, ieLen n⟩,
        .write .ntProfile 0 profile] ++ multiBssidIdxAccesses k profile
    match multiBssidIdx k profile with
    | none => (copied, none)
    | some index =>
      (copied ++ ssidAccesses profile, if ssidMatches s profile then some index else none)
  else ([], none)

/-- The inner loop, which ends with the first profile that is taken. -/
def subelemLoop (e : ℕ) : List ℕ → List (Access Obj) × Option (BitVec 8)
  | [] => ([], none)
  | sub :: subs =>
    let round := subelemRound k s m n e sub
    match round.2 with
    | some index => (round.1, some index)
    | none =>
      let rest := subelemLoop e subs
      (round.1 ++ rest.1, rest.2)

/-- The outer loop. The inner `break` does not end it: a later element decides against an earlier
one. -/
def elemLoop (index : BitVec 8) : List ℕ → List (Access Obj) × BitVec 8
  | [] => ([], index)
  | e :: es =>
    let inner := subelemLoop k s m n e (subelems m e)
    let rest := elemLoop (inner.2.getD index) es
    (.read .skb ⟨e + 3, m.datalen e - 1⟩ :: inner.1 ++ rest.1, rest.2)

/-- `profile_periodicity`, from the Multiple-BSSID-Configuration element. -/
def periodicity : List (Access Obj) × BitVec 8 :=
  match k.findExtElem WLAN_EID_EXT_MULTIPLE_BSSID_CONFIGURATION m baselen (ieLen n) with
  | none => ([], 1)
  | some e =>
    if 3 ≤ m.datalen e then ([skb (e + 1), skb (e + 4)], m (e + 4)) else ([skb (e + 1)], 1)

/-- `rsi_process_mbssid_parameters`. An element of fewer than two bytes has no subelements, so that
the test of its length leaves out nothing else. -/
def processMbssidParameters (ax : AxParams) : List (Access Obj) × AxParams :=
  let config := periodicity k m n
  let loop := elemLoop k s m n ax.connectedNtProfileIndex (mbssidElems m n)
  (.read .skb ⟨baselen, ieLen n⟩ :: config.1 ++ .read .skb ⟨baselen, ieLen n⟩ :: loop.1,
    { ax with profilePeriodicity := config.2, connectedNtProfileIndex := loop.2 })

/-- The SSID of the beacon is the one that is connected to. It is taken to be the first element. -/
def ownBeacon : Bool :=
  decide (s.ssidLen = (m 37).toNat) && s.ssid.bytes 0 s.ssidLen == m.bytes 38 s.ssidLen

/-- `process_rx_mgmt_beacon` -/
def processRxMgmtBeacon : List (Access Obj) × AxParams :=
  let find : Access Obj := .read .skb ⟨baselen, ieLen n⟩
  match k.findIe WLAN_EID_MULTIPLE_BSSID m baselen (ieLen n) with
  | none => ([find], s.ax)
  | some elem =>
    let ax :=
      { s.ax with
        transmitterBssid := m.bytes 16 6
        mbssidMaskValue := if 0 < (m (elem + 2)).toNat then m (elem + 2) else s.ax.mbssidMaskValue }
    let compared : List (Access Obj) :=
      if s.ssidLen = (m 37).toNat then
        [.read .ssid ⟨0, s.ssidLen⟩, .read .skb ⟨38, s.ssidLen⟩]
      else []
    let header := [find, .read .skb ⟨16, 6⟩, skb (elem + 2), skb 37] ++ compared
    if ownBeacon s m then
      (header,
        { ax with mbssidMaskValue := 0, connectedNtProfileIndex := 0, profilePeriodicity := 1 })
    else
      let rest := processMbssidParameters k s m n ax
      (header ++ rest.1, rest.2)

end Beacon

/-! ## TWT action frames -/

section TwtAction

variable (a : Twt.TwtAdapter) (m : ByteMemory)

/-- `MIN_802_11_HDR_LEN` -/
def MIN_802_11_HDR_LEN : ℕ := 24

/-- `WLAN_CATEGORY_S1G` -/
def WLAN_CATEGORY_S1G : BitVec 8 := 22

/-- `WLAN_S1G_TWT_SETUP` -/
def WLAN_S1G_TWT_SETUP : BitVec 8 := 6

/-- `WLAN_S1G_TWT_TEARDOWN` -/
def WLAN_S1G_TWT_TEARDOWN : BitVec 8 := 7

/-- `control_…` of the TWT element, byte 29 of the frame. -/
def twtControl : BitVec 8 := m 29

/-- `req_type_…` of the TWT element, the bytes 30 and 31. -/
def twtReqType : BitVec 16 := m.le16 30

/-- The TWT element of a setup frame. -/
def twtElement : Twt.TwtElement where
  eid := m 27
  elength := m 28
  controlNdpPi := (twtControl m).extractLsb' 0 1
  controlRespPmMode := (twtControl m).extractLsb' 1 1
  controlNegotiationType := (twtControl m).extractLsb' 2 2
  controlTwtInfoFrameDis := (twtControl m).extractLsb' 4 1
  controlWakeDurationUnit := (twtControl m).extractLsb' 5 1
  reqTypeTwtReq := (twtReqType m).extractLsb' 0 1
  reqTypeTwtSetupCommand := (twtReqType m).extractLsb' 1 3
  reqTypeTrigger := (twtReqType m).extractLsb' 4 1
  reqTypeImplicitTwt := (twtReqType m).extractLsb' 5 1
  reqTypeFlowType := (twtReqType m).extractLsb' 6 1
  reqTypeTwtFlowId := (twtReqType m).extractLsb' 7 3
  reqTypeTwtWiExp := (twtReqType m).extractLsb' 10 5
  reqTypeTwtProtection := (twtReqType m).extractLsb' 15 1
  targetWakeTime0 := m.le32 32
  targetWakeTime1 := m.le32 36
  nomMinWakeDuration := m 40
  wakeIntervalMantisa := m.le16 41
  twtChannel := m 43

/-- The setup frame that is handed on. -/
def twtSetupFrame : Twt.TwtSetupFrame := ⟨m 26, twtElement m⟩

/-- What `rsi_mgmt_process_twt_setup_resp` and the session details read: at the start
`validate_unsupported_twt_resp_params` reads the duration and the mantissa, and no field behind them
is read. -/
def processSetupResp : List (Access Obj) := [.read .skb ⟨26, 17⟩]

/-- The accesses for `WLAN_S1G_TWT_SETUP`, along the branches of `Twt.TwtAdapter.rxTwtSetup`. -/
def twtSetupAccesses : List (Access Obj) :=
  if a.twtSessionInProgress then processSetupResp
  else if a.apSupportTwt then
    -- the command is in the first byte of `req_type`
    skb 30 ::
      if (twtElement m).setupCommand = Twt.TWT_SETUP_CMD_ACCEPT then
        if a.twtSessionActive then
          .read .skb ⟨30, 2⟩ ::
            if a.twtActiveSessionFlowId ≠ (twtElement m).flowId then
              -- `send_twt_teardown_frame`
              [.read .skb ⟨30, 2⟩, skb 29]
            else processSetupResp
        else processSetupResp
      else []
  else []

/-- The accesses for `WLAN_S1G_TWT_TEARDOWN`. -/
def twtTeardownAccesses : List (Access Obj) := if a.twtSessionActive then [skb 26] else []

/-- The accesses for an action frame. -/
def actionAccesses : List (Access Obj) :=
  skb 24 ::
    if m 24 = WLAN_CATEGORY_S1G then
      skb 25 ::
        if m 25 = WLAN_S1G_TWT_SETUP then twtSetupAccesses a m
        else if m 25 = WLAN_S1G_TWT_TEARDOWN then twtTeardownAccesses a
        else []
    else []

end TwtAction

/-! ## `rsi_mgmt_pkt_to_core` -/

section ToCore

variable (k : Cfg80211) (s : Adapter)

/-- `ieee80211_is_beacon` -/
def isBeacon (m : ByteMemory) : Bool := m.le16 0 &&& 0x00fc == 0x0080

/-- `ieee80211_is_action` -/
def isAction (m : ByteMemory) : Bool := m.le16 0 &&& 0x00fc == 0x00d0

/-- What becomes of a frame. -/
structure Outcome where
  accesses : List (Access Obj)
  ax : AxParams
  /-- The copy goes on to mac80211 (`rsi_indicate_pkt_to_os`). -/
  indicated : Bool

/-- The copied frame of `n` bytes is looked at. -/
def parseCopy (m : ByteMemory) (n : ℕ) : Outcome :=
  -- `buffer[0]` and `frame_control`
  let header : List (Access Obj) := [skb 0, .read .skb ⟨0, 2⟩]
  if isBeacon m then
    let beacon := processRxMgmtBeacon k s m n
    ⟨header ++ beacon.1, beacon.2, true⟩
  else if isAction m then
    ⟨header ++ actionAccesses s.twt m, s.ax, !(m 24 == WLAN_CATEGORY_S1G)⟩
  else ⟨header, s.ax, true⟩

/-- The frame is not copied. -/
def Dropped (msg : ByteMemory) : Prop :=
  s.scNvifs = 0 ∨ s.ifaceDown = true ∨ Recv.msgLen msg ≤ (msg 4).toNat ∨ s.alloc = false

instance (msg : ByteMemory) : Decidable (Dropped s msg) :=
  inferInstanceAs (Decidable (s.scNvifs = 0 ∨ s.ifaceDown = true ∨
    Recv.msgLen msg ≤ (msg 4).toNat ∨ s.alloc = false))

/-- The number of bytes that are copied. -/
def copyLen (msg : ByteMemory) : ℕ := Recv.msgLen msg - (msg 4).toNat

/-- The copy of the frame in a new buffer; `behind` is what the buffer had before. -/
def copied (msg behind : ByteMemory) : ByteMemory :=
  behind.copy 0 (copyLen msg) fun i => msg (16 + (msg 4).toNat + i)

/-- `rsi_mgmt_pkt_to_core` -/
def mgmtPktToCore (msg behind : ByteMemory) : Outcome :=
  if Dropped s msg then ⟨[], s.ax, false⟩
  else parseCopy k s (copied msg behind) (copyLen msg)

end ToCore

/-- The size of the objects for a copy of `n` bytes. -/
def Obj.size (s : Adapter) (n : ℕ) : Obj → ℕ
  | .skb => n
  | .ssid => 32
  | .ntProfile => if s.kmalloc then ieLen n else 0

end RxMgmt
