import Mathlib.Data.Nat.Notation
import Mathlib.Data.Int.Notation
import Mathlib.Tactic.SplitIfs
import RsiDriver.Boot.Firmware
import RsiDriver.ToMathlib.TransitionSystem

/-!
# Programming the band and the channel width

`rsi_band_check` (`rsi_91x_mgmt.c`) writes the band, the channel width and the endpoint of a channel
to `common` and then sends the device what has changed: the programming of baseband and radio for
another endpoint, the boot-up parameters and the radio capabilities for another width. Each frame
needs memory, and a call ends at the first one for which there is none.

Of the frames the model has the descriptor words and which table of boot-up parameters goes along;
the parameters of the queues and of 802.11ax in the radio capabilities are left out. The two tables
for 20 MHz are marked as `VALID_20` and stay so. What the driver sends at the start, before the
first call, fits the defaults of `rsi_set_default_parameters`.

## Main results

* `corresponds_of_programmed`: the frames that were sent last fit the stored endpoint and width in
  the runs in which no frame is missed, and a call keeps that exactly when it misses none;
* `bandCheck_again`: a call for the channel of the call before sends nothing, whether or not that
  one had failed;
* `not_retriesUntilSuccess`: the band that is taken as programmed after a failure.
-/

namespace BandCheck

open Boot (DeviceModel FsmState ENOMEM)

/-! ## The frames -/

/-- `enum nl80211_band` -/
inductive Band
  | band2ghz
  | band5ghz
  | band60ghz
  | band6ghz
  | s1ghz
  | lc
  deriving DecidableEq, Repr

/-- `enum nl80211_chan_width` -/
inductive ChanWidth
  | width20NoHt
  | width20
  | width40
  | width80
  | width80p80
  | width160
  | width5
  | width10
  | width1
  | width2
  | width4
  | width8
  | width16
  | width320
  deriving DecidableEq, Repr

/-- `hw->conf.chandef`, with the centre frequency of its channel. -/
structure Chandef where
  width : ChanWidth
  centerFreq1 : ℕ
  chanCenterFreq : ℕ

/-- `conf_is_ht40_plus` -/
def Chandef.isHt40Plus (chandef : Chandef) : Bool :=
  chandef.width == .width40 && decide (chandef.chanCenterFreq < chandef.centerFreq1)

/-- `conf_is_ht40_minus` -/
def Chandef.isHt40Minus (chandef : Chandef) : Bool :=
  chandef.width == .width40 && decide (chandef.centerFreq1 < chandef.chanCenterFreq)

/-- `BW_20MHZ` -/
def BW_20MHZ : BitVec 8 := 0
/-- `BW_40MHZ` -/
def BW_40MHZ : BitVec 8 := 1
/-- `BW_10MHZ` -/
def BW_10MHZ : BitVec 8 := 2
/-- `BW_5MHZ` -/
def BW_5MHZ : BitVec 8 := 3

/-- `EP_2GHZ_20MHZ` -/
def EP_2GHZ_20MHZ : BitVec 8 := 0
/-- `EP_2GHZ_40MHZ` -/
def EP_2GHZ_40MHZ : BitVec 8 := 1
/-- `EP_5GHZ_20MHZ` -/
def EP_5GHZ_20MHZ : BitVec 8 := 2
/-- `EP_5GHZ_40MHZ` -/
def EP_5GHZ_40MHZ : BitVec 8 := 3

/-- The tables of boot-up parameters. `bootParams9117_20` is `boot_params_9116_20` with the clock
that a 9117 needs. -/
inductive BootupParams
  | bootParams20
  | bootParams40
  | bootParams9116_20
  | bootParams9117_20
  | bootParams9116_40
  deriving DecidableEq, Repr

/-- The frames with their descriptor words. -/
inductive Frame
  | bbpProgInTa (word3 word4 word7 : BitVec 16)
  | bootupParamsRequest (params : BootupParams) (word7 : BitVec 16)
  | radioCapabilities (word4 word5 word7 : BitVec 16)
  deriving DecidableEq, Repr

/-- The endpoint in a frame. -/
def Frame.endpoint? : Frame → Option (BitVec 16)
  | .bbpProgInTa _ word4 _ => some word4
  | _ => none

/-- The boot-up parameters in a frame. -/
def Frame.params? : Frame → Option BootupParams
  | .bootupParamsRequest params _ => some params
  | _ => none

/-- The clock and the width of the channel in a frame. -/
def Frame.clock? : Frame → Option (BitVec 16)
  | .radioCapabilities _ _ word7 => some word7
  | _ => none

/-! ## The driver -/

/-- What stays as it is: `adapter->device_model`, and `driver_mode` is `RF_EVAL_MODE_ON`. -/
structure Device where
  model : DeviceModel
  rfEvalMode : Bool

/-- `DEV_MODEL_9116` -/
def Device.model9116 (d : Device) : Bool := d.model != .dev9113

/-- `struct rsi_common`; the frames that were queued since the start, the last one first. -/
structure Common where
  band : Band
  channelWidth : BitVec 8
  endpoint : BitVec 8
  rfReset : Bool
  bbRfProgCount : BitVec 8
  queued : List Frame

/-- What a call finds: its argument, the configuration of mac80211 and of the RF evaluation mode,
and for which frames there is memory. -/
structure Env where
  band : Band
  chandef : Chandef
  /-- `adapter->per_params.per_ch_bw` -/
  perChBw : BitVec 16
  channel : BitVec 16
  fsmState : FsmState
  rfPwrMode : BitVec 16
  allocBbRf : Bool
  allocBootup : Bool
  allocRadioCaps : Bool

/-- `rsi_program_bb_rf` -/
def programBbRf (c : Common) (e : Env) : ℤ × Common :=
  if !e.allocBbRf then (ENOMEM, c)
  else
    -- `RF_RESET_ENABLE`; `PUT_BBP_RESET` and `BBP_REG_WRITE` are zero, `RSI_RF_TYPE` is one
    let word7 : BitVec 16 := (if c.rfReset then 0x8 else 0) ||| (1 <<< 4)
    (0, { c with
      rfReset := false
      bbRfProgCount := 1
      queued := .bbpProgInTa e.rfPwrMode (c.endpoint.setWidth 16) word7 :: c.queued })

/-- The table that `rsi_load_bootup_params` copies for a channel width. -/
def bootupParams (d : Device) (channelWidth : BitVec 8) : BootupParams :=
  if channelWidth = BW_40MHZ then
    if d.model9116 then .bootParams9116_40 else .bootParams40
  else
    match d.model with
    | .dev9113 => .bootParams20
    | .dev9116 => .bootParams9116_20
    | .dev9117 | .dev917 => .bootParams9117_20

/-- `rsi_load_bootup_params` -/
def loadBootupParams (d : Device) (c : Common) (e : Env) : ℤ × Common :=
  if !e.allocBootup then (ENOMEM, c)
  else
    -- `UMAC_CLK_40BW` and, the tables for 20 MHz being `VALID_20`, `UMAC_CLK_40MHZ`
    let word7 : BitVec 16 := 80
    (0, { c with queued := .bootupParamsRequest (bootupParams d c.channelWidth) word7 :: c.queued })

/-- `desc_word[7]` of the radio capabilities: the clock and the bit for 40 MHz. -/
def radioCapsClock (d : Device) (channelWidth : BitVec 8) : BitVec 16 :=
  let word7 : BitVec 16 := 0x1
  let word7 := if channelWidth = BW_40MHZ then word7 ||| 0x8 else word7
  if d.model = .dev9116 ∧ channelWidth = BW_20MHZ then word7 &&& ~~~0x3 else word7

/-- `desc_word[5]` of the radio capabilities: which half of a channel of 40 MHz is the primary
one. -/
def radioCapsHalf (d : Device) (c : Common) (e : Env) : BitVec 16 :=
  if c.channelWidth = BW_40MHZ then
    if !d.rfEvalMode then
      if e.fsmState = .macInitDone then
        -- `LOWER_20_ENABLE`, `UPPER_20_ENABLE` and `FULL40M_ENABLE`
        if e.chandef.isHt40Plus then 0x4000 ||| 0x4
        else if e.chandef.isHt40Minus then 0x2000 ||| 0x2
        else 0x1000 ||| 0x6
      else 0
    else if e.perChBw ≠ 0 then (e.perChBw <<< 12) ||| 0x6
    else 0
  else 0

/-- `rsi_load_radio_caps` -/
def loadRadioCaps (d : Device) (c : Common) (e : Env) : ℤ × Common :=
  if !e.allocRadioCaps then (ENOMEM, c)
  else
    let word4 := e.channel ||| (1 <<< 8)
    (0, { c with
      queued := .radioCapabilities word4 (radioCapsHalf d c e) (radioCapsClock d c.channelWidth) ::
        c.queued })

/-- The channel width of a configuration; `none` for one that the RF evaluation mode refuses. -/
def channelWidthOf (d : Device) (e : Env) : Option (BitVec 8) :=
  if d.rfEvalMode then
    match e.perChBw.toNat with
    | 0 => some BW_20MHZ
    | 1 | 2 | 4 | 6 => some BW_40MHZ
    | 5 => some BW_5MHZ
    | 7 => some BW_10MHZ
    | _ => none
  else if e.chandef.width = .width20NoHt ∨ e.chandef.width = .width20 then some BW_20MHZ
  else some BW_40MHZ

/-- The endpoint of a band and a channel width. -/
def endpointOf (band : Band) (channelWidth : BitVec 8) : BitVec 8 :=
  if band = .band2ghz then
    if channelWidth ≠ 0 then EP_2GHZ_40MHZ else EP_2GHZ_20MHZ
  else
    if channelWidth ≠ 0 then EP_5GHZ_40MHZ else EP_5GHZ_20MHZ

/-- The RF evaluation mode of a newer device leaves the frames to `set_per_configurations`. -/
def Device.skip (d : Device) : Bool := d.rfEvalMode && d.model9116

/-- Write `band`. -/
def Common.setBand (c : Common) (band : Band) : Common :=
  if c.band ≠ band then { c with rfReset := true, band } else c

/-- Write `channel_width` and `endpoint`. -/
def Common.setWidth (c : Common) (channelWidth : BitVec 8) : Common :=
  { c with channelWidth, endpoint := endpointOf c.band channelWidth }

/-- The frames for a channel width other than the previous one. -/
def sendWidth (d : Device) (prevBw : BitVec 8) (c : Common) (e : Env) : ℤ × Common :=
  if c.channelWidth ≠ prevBw then
    let (status, c) := loadBootupParams d c e
    if status ≠ 0 then (status, c) else loadRadioCaps d c e
  else (0, c)

/-- The frames for an endpoint and a channel width other than the previous ones. -/
def sendChanges (d : Device) (prevEp prevBw : BitVec 8) (c : Common) (e : Env) : ℤ × Common :=
  let (status, c) := if c.endpoint ≠ prevEp then programBbRf c e else (0, c)
  if status ≠ 0 then (status, c) else sendWidth d prevBw c e

/-- `rsi_band_check` -/
def bandCheck (d : Device) (c : Common) (e : Env) : ℤ × Common :=
  let prevBw := c.channelWidth
  let prevEp := c.endpoint
  let c := c.setBand e.band
  match channelWidthOf d e with
  | none => (-1, c)
  | some channelWidth =>
    let c := c.setWidth channelWidth
    if d.skip then (0, c) else sendChanges d prevEp prevBw c e

/-! ## What was sent last -/

/-- The last frames of each kind in a queue fit an endpoint and a channel width. -/
structure Fits (d : Device) (queued : List Frame) (endpoint channelWidth : BitVec 8) : Prop where
  bbRf : queued.findSome? Frame.endpoint? = some (endpoint.setWidth 16)
  bootup : queued.findSome? Frame.params? = some (bootupParams d channelWidth)
  radioCaps : queued.findSome? Frame.clock? = some (radioCapsClock d channelWidth)

/-- The last frames of each kind fit the stored endpoint and channel width. -/
def Corresponds (d : Device) (c : Common) : Prop := Fits d c.queued c.endpoint c.channelWidth

instance (d : Device) (queued : List Frame) (endpoint channelWidth : BitVec 8) :
    Decidable (Fits d queued endpoint channelWidth) :=
  decidable_of_iff (_ ∧ _ ∧ _) ⟨fun ⟨h₁, h₂, h₃⟩ => ⟨h₁, h₂, h₃⟩, fun h => ⟨h.1, h.2, h.3⟩⟩

instance (d : Device) (c : Common) : Decidable (Corresponds d c) :=
  inferInstanceAs (Decidable (Fits ..))

/-- The frames that lead from one endpoint and channel width to another one can be sent. -/
structure CanSend (d : Device) (endpoint channelWidth endpoint' channelWidth' : BitVec 8)
    (e : Env) : Prop where
  bbRf : endpoint' ≠ endpoint → e.allocBbRf = true
  bootup : bootupParams d channelWidth' ≠ bootupParams d channelWidth → e.allocBootup = true
  radioCaps : radioCapsClock d channelWidth' ≠ radioCapsClock d channelWidth →
    e.allocBootup = true ∧ e.allocRadioCaps = true

instance (d : Device) (ep bw ep' bw' : BitVec 8) (e : Env) :
    Decidable (CanSend d ep bw ep' bw' e) :=
  decidable_of_iff (_ ∧ _ ∧ _) ⟨fun ⟨h₁, h₂, h₃⟩ => ⟨h₁, h₂, h₃⟩, fun h => ⟨h.1, h.2, h.3⟩⟩

/-- A call misses no frame: it finds the memory for the frames of what it changes, and where it is
to skip the frames, there is nothing to change. -/
def Programmed (d : Device) (c : Common) (e : Env) : Prop :=
  ∀ channelWidth ∈ channelWidthOf d e,
    let endpoint := endpointOf e.band channelWidth
    if d.skip then
      endpoint = c.endpoint ∧ bootupParams d channelWidth = bootupParams d c.channelWidth ∧
        radioCapsClock d channelWidth = radioCapsClock d c.channelWidth
    else CanSend d c.endpoint c.channelWidth endpoint channelWidth e

instance (d : Device) (c : Common) (e : Env) : Decidable (Programmed d c e) :=
  inferInstanceAs (Decidable (∀ _ ∈ channelWidthOf d e, _))

/-! ## The calls -/

@[simp]
theorem setBand_band (c : Common) (band : Band) : (c.setBand band).band = band := by
  unfold Common.setBand
  split
  · rfl
  · next h => exact Decidable.not_not.1 h

@[simp]
theorem setBand_queued (c : Common) (band : Band) : (c.setBand band).queued = c.queued := by
  unfold Common.setBand
  split <;> rfl

@[simp]
theorem setBand_endpoint (c : Common) (band : Band) : (c.setBand band).endpoint = c.endpoint := by
  unfold Common.setBand
  split <;> rfl

@[simp]
theorem setBand_channelWidth (c : Common) (band : Band) :
    (c.setBand band).channelWidth = c.channelWidth := by
  unfold Common.setBand
  split <;> rfl

/-- A second call for the same band changes nothing. -/
theorem setBand_of_band_eq {c : Common} {band : Band} (h : c.band = band) : c.setBand band = c := by
  simp [Common.setBand, h]

/-- An endpoint does not lose anything in its word of the frame. -/
theorem setWidth_inj {a b : BitVec 8} : a.setWidth 16 = b.setWidth 16 ↔ a = b := by
  constructor
  · intro h
    have := congrArg BitVec.toNat h
    simp only [BitVec.toNat_setWidth] at this
    exact BitVec.eq_of_toNat_eq (by omega)
  · rintro rfl
    rfl

/-- Frames that fit an endpoint and a width fit others that mean the same to the device. -/
theorem Fits.iff {d : Device} {queued : List Frame} {ep bw : BitVec 8} (h : Fits d queued ep bw)
    (ep' bw' : BitVec 8) :
    Fits d queued ep' bw' ↔
      ep' = ep ∧ bootupParams d bw' = bootupParams d bw ∧
        radioCapsClock d bw' = radioCapsClock d bw := by
  constructor
  · intro h'
    refine ⟨setWidth_inj.1 (Option.some.inj (h'.bbRf.symm.trans h.bbRf)), ?_, ?_⟩
    · exact Option.some.inj (h'.bootup.symm.trans h.bootup)
    · exact Option.some.inj (h'.radioCaps.symm.trans h.radioCaps)
  · rintro ⟨rfl, h₂, h₃⟩
    exact ⟨h.bbRf, h₂ ▸ h.bootup, h₃ ▸ h.radioCaps⟩

/-- The programming of baseband and radio fits its own endpoint. -/
theorem Fits.bbpProgInTa {d : Device} {queued : List Frame} {ep bw : BitVec 8}
    (h : Fits d queued ep bw) (ep' : BitVec 8) (word3 word7 : BitVec 16) :
    Fits d (.bbpProgInTa word3 (ep'.setWidth 16) word7 :: queued) ep' bw :=
  ⟨rfl, h.bootup, h.radioCaps⟩

/-- The boot-up parameters alone fit a width that needs no other radio capabilities. -/
theorem Fits.bootupParamsRequest_iff {d : Device} {queued : List Frame} {ep bw : BitVec 8}
    (h : Fits d queued ep bw) (bw' : BitVec 8) (word7 : BitVec 16) :
    Fits d (.bootupParamsRequest (bootupParams d bw') word7 :: queued) ep bw' ↔
      radioCapsClock d bw' = radioCapsClock d bw := by
  constructor
  · intro h'
    exact Option.some.inj (h'.radioCaps.symm.trans h.radioCaps)
  · intro heq
    exact ⟨h.bbRf, rfl, heq ▸ h.radioCaps⟩

/-- Boot-up parameters and radio capabilities fit the width of both. -/
theorem Fits.radioCapabilities {d : Device} {queued : List Frame} {ep bw : BitVec 8}
    (h : Fits d queued ep bw) (bw' : BitVec 8) (word4 word5 word7 : BitVec 16) :
    Fits d (.radioCapabilities word4 word5 (radioCapsClock d bw') ::
      .bootupParamsRequest (bootupParams d bw') word7 :: queued) ep bw' :=
  ⟨h.bbRf, rfl, rfl⟩

/-- The frames for another width reach the device when there is memory for both, and a missing one
does no harm when it would tell nothing new. -/
theorem sendWidth_corresponds_iff {d : Device} {c : Common} {prevBw : BitVec 8}
    (h : Fits d c.queued c.endpoint prevBw) (e : Env) :
    Corresponds d (sendWidth d prevBw c e).2 ↔
      (bootupParams d c.channelWidth ≠ bootupParams d prevBw → e.allocBootup = true) ∧
      (radioCapsClock d c.channelWidth ≠ radioCapsClock d prevBw →
        e.allocBootup = true ∧ e.allocRadioCaps = true) := by
  unfold sendWidth
  by_cases hbw : c.channelWidth = prevBw
  · -- nothing is sent, and nothing has changed
    subst hbw
    rw [if_neg (not_not.2 rfl)]
    refine iff_of_true h ?_
    simp
  rw [if_pos hbw]
  cases hboot : e.allocBootup with
  | false =>
    have hcall : loadBootupParams d c e = (ENOMEM, c) := by simp [loadBootupParams, hboot]
    have hne : ENOMEM ≠ 0 := by decide
    simp only [hcall, if_pos hne]
    refine (h.iff _ _).trans ?_
    simp
  | true =>
    cases hcaps : e.allocRadioCaps with
    | false =>
      simp only [loadBootupParams, hboot, loadRadioCaps, hcaps, Bool.not_true, Bool.not_false,
        Bool.false_eq_true, if_false, ne_eq, not_true_eq_false, if_true]
      refine (h.bootupParamsRequest_iff _ _).trans ?_
      simp
    | true =>
      simp only [loadBootupParams, hboot, loadRadioCaps, hcaps, Bool.not_true,
        Bool.false_eq_true, if_false, ne_eq, not_true_eq_false]
      exact iff_of_true (h.radioCapabilities _ _ _ _)
        ⟨fun _ => trivial, fun _ => ⟨trivial, trivial⟩⟩

/-- The frames of a call reach the device exactly when there is memory for all that is needed. -/
theorem sendChanges_corresponds_iff {d : Device} {c : Common} {prevEp prevBw : BitVec 8}
    (h : Fits d c.queued prevEp prevBw) (e : Env) :
    Corresponds d (sendChanges d prevEp prevBw c e).2 ↔
      CanSend d prevEp prevBw c.endpoint c.channelWidth e := by
  unfold sendChanges
  by_cases hep : c.endpoint = prevEp
  · subst hep
    simp only [ne_eq, not_true_eq_false, if_false]
    refine (sendWidth_corresponds_iff h e).trans ?_
    exact ⟨fun ⟨h₁, h₂⟩ => ⟨fun hne => absurd rfl hne, h₁, h₂⟩, fun h' => ⟨h'.bootup, h'.radioCaps⟩⟩
  rw [if_pos hep]
  cases hbb : e.allocBbRf with
  | false =>
    -- the call ends with the old programming in the device and the new endpoint in `common`
    have hcall : programBbRf c e = (ENOMEM, c) := by simp [programBbRf, hbb]
    have hne : ENOMEM ≠ 0 := by decide
    simp only [hcall, if_pos hne]
    refine iff_of_false (fun h' => hep ?_) (fun h' => ?_)
    · exact ((h.iff _ _).1 h').1
    · exact Bool.false_ne_true (hbb.symm.trans (h'.bbRf hep))
  | true =>
    have hcall : (programBbRf c e).1 = 0 := by simp [programBbRf, hbb]
    have hfits : Fits d (programBbRf c e).2.queued (programBbRf c e).2.endpoint prevBw := by
      simpa [programBbRf, hbb] using h.bbpProgInTa c.endpoint _ _
    have hwidth : (programBbRf c e).2.channelWidth = c.channelWidth := by
      simp [programBbRf, hbb]
    simp only [hcall, ne_eq, not_true_eq_false, if_false]
    refine (sendWidth_corresponds_iff hfits e).trans ?_
    rw [hwidth]
    exact ⟨fun ⟨h₁, h₂⟩ => ⟨fun _ => hbb, h₁, h₂⟩, fun h' => ⟨h'.bootup, h'.radioCaps⟩⟩

/-- A call keeps the last frames in step with the stored state exactly when it misses no frame. -/
theorem bandCheck_corresponds_iff {d : Device} {c : Common} (h : Corresponds d c) (e : Env) :
    Corresponds d (bandCheck d c e).2 ↔ Programmed d c e := by
  unfold bandCheck Programmed
  cases hwidth : channelWidthOf d e with
  | none =>
    -- only the band is stored, and no frame tells it
    have hc : Corresponds d (c.setBand e.band) := by simpa [Corresponds] using h
    simpa using hc
  | some channelWidth =>
    -- before anything is sent the frames fit what was stored before
    have hfits : Fits d ((c.setBand e.band).setWidth channelWidth).queued c.endpoint
        c.channelWidth := by
      rw [Common.setWidth, setBand_queued]
      exact h
    simp only [Option.mem_def, Option.some.injEq, forall_eq']
    split
    · refine (hfits.iff _ _).trans ?_
      simp [Common.setWidth]
    · refine (sendChanges_corresponds_iff hfits e).trans ?_
      simp [Common.setWidth]

/-- Sending leaves band, width and endpoint alone. -/
theorem sendChanges_stored (d : Device) (prevEp prevBw : BitVec 8) (c : Common) (e : Env) :
    (sendChanges d prevEp prevBw c e).2.band = c.band ∧
      (sendChanges d prevEp prevBw c e).2.channelWidth = c.channelWidth ∧
      (sendChanges d prevEp prevBw c e).2.endpoint = c.endpoint := by
  have hbb : (programBbRf c e).2.band = c.band ∧
      (programBbRf c e).2.channelWidth = c.channelWidth ∧
      (programBbRf c e).2.endpoint = c.endpoint := by
    unfold programBbRf
    split <;> exact ⟨rfl, rfl, rfl⟩
  have hwidth (c : Common) : (sendWidth d prevBw c e).2.band = c.band ∧
      (sendWidth d prevBw c e).2.channelWidth = c.channelWidth ∧
      (sendWidth d prevBw c e).2.endpoint = c.endpoint := by
    unfold sendWidth loadBootupParams loadRadioCaps
    split_ifs <;> exact ⟨rfl, rfl, rfl⟩
  unfold sendChanges
  by_cases hep : c.endpoint = prevEp
  · rw [if_neg (not_not.2 hep)]
    exact hwidth c
  -- for another endpoint the baseband comes first, and the width only if that succeeds
  rw [if_pos hep]
  dsimp only
  split
  · exact hbb
  · obtain ⟨h₁, h₂, h₃⟩ := hwidth (programBbRf c e).2
    exact ⟨h₁.trans hbb.1, h₂.trans hbb.2.1, h₃.trans hbb.2.2⟩

/-- What a call stores, unless it refuses the width. -/
theorem bandCheck_stored {d : Device} {e : Env} {channelWidth : BitVec 8}
    (hwidth : channelWidthOf d e = some channelWidth) (c : Common) :
    (bandCheck d c e).2.band = e.band ∧ (bandCheck d c e).2.channelWidth = channelWidth ∧
      (bandCheck d c e).2.endpoint = endpointOf e.band channelWidth := by
  have hset : ((c.setBand e.band).setWidth channelWidth).endpoint =
      endpointOf e.band channelWidth := by
    simp [Common.setWidth]
  unfold bandCheck
  simp only [hwidth]
  split
  · exact ⟨setBand_band c e.band, rfl, hset⟩
  · obtain ⟨h₁, h₂, h₃⟩ := sendChanges_stored d c.endpoint c.channelWidth
      ((c.setBand e.band).setWidth channelWidth) e
    exact ⟨h₁.trans (setBand_band c e.band), h₂, h₃.trans hset⟩

/-- A call for the channel of the call before sends nothing and reports success, whatever became of
the frames of that one. -/
theorem bandCheck_again {d : Device} {e e' : Env} (c : Common) (hwidth : channelWidthOf d e ≠ none)
    (hband : e'.band = e.band) (hsame : channelWidthOf d e' = channelWidthOf d e) :
    bandCheck d (bandCheck d c e).2 e' = (0, (bandCheck d c e).2) := by
  obtain ⟨channelWidth, hw⟩ := Option.ne_none_iff_exists'.1 hwidth
  obtain ⟨hb, hcw, hep⟩ := bandCheck_stored hw c
  generalize (bandCheck d c e).2 = c' at hb hcw hep ⊢
  -- the stored state is already the one that the second call comes to
  have hset : (c'.setBand e'.band).setWidth channelWidth = c' := by
    rw [setBand_of_band_eq (hb.trans hband.symm), Common.setWidth, ← hcw]
    rw [← hb, ← hcw] at hep
    rw [← hep]
  unfold bandCheck
  simp only [hsame.trans hw, hset]
  split
  · rfl
  · simp [sendChanges, sendWidth]

/-! ## Runs -/

/-- The driver after the start: `rsi_load_bootup_params`, `rsi_load_radio_caps` and
`rsi_program_bb_rf` have sent the defaults; the band may be the one of the card-ready indication. -/
def Started (d : Device) (c : Common) : Prop :=
  c.channelWidth = BW_20MHZ ∧ c.endpoint = EP_2GHZ_20MHZ ∧ Corresponds d c

instance (d : Device) (c : Common) : Decidable (Started d c) :=
  inferInstanceAs (Decidable (_ ∧ _ ∧ _))

/-- Calls of `rsi_band_check`, one after the other. -/
def system (d : Device) : TransitionSystem Common Env where
  Init := Started d
  step c e := some (bandCheck d c e).2

/-- Band and width are programmed again until it succeeds. -/
def RetriesUntilSuccess (d : Device) : Prop :=
  ∀ c, (system d).Reachable c → ∀ e, (bandCheck d c e).1 = 0 → Corresponds d (bandCheck d c e).2

/-- In the runs that miss no frame the frames that were sent last fit the stored endpoint and width,
and they do so behind the next call exactly when that call misses none either. -/
theorem corresponds_of_programmed {d : Device} {c : Common}
    (h : (system d).ReachableVia (Programmed d) c) :
    Corresponds d c ∧ ∀ e, Corresponds d (bandCheck d c e).2 ↔ Programmed d c e := by
  have hc : Corresponds d c := by
    refine h.invariant (Corresponds d) (fun c hinit => hinit.2.2) fun c e c' hinv hprog hstep => ?_
    obtain rfl := Option.some.inj hstep
    exact (bandCheck_corresponds_iff hinv e).2 hprog
  exact ⟨hc, bandCheck_corresponds_iff hc⟩

/-- A 9116 outside the RF evaluation mode. -/
def demoDevice : Device := ⟨.dev9116, false⟩

/-- The driver behind the initialisation. -/
def demoCommon : Common where
  band := .band2ghz
  channelWidth := BW_20MHZ
  endpoint := EP_2GHZ_20MHZ
  rfReset := false
  bbRfProgCount := 1
  queued := [.bbpProgInTa 0 0 0x18, .radioCapabilities 0x101 0 0,
    .bootupParamsRequest .bootParams9116_20 80]

/-- A call for a channel of 20 MHz; memory as told. -/
def demoEnv (band : Band) (alloc : Bool) : Env where
  band := band
  chandef := ⟨.width20, 5180, 5180⟩
  perChBw := 0
  channel := 36
  fsmState := .macInitDone
  rfPwrMode := 0
  allocBbRf := alloc
  allocBootup := alloc
  allocRadioCaps := alloc

/-- The same for the primary channel below of 40 MHz. -/
def demoWide (band : Band) : Env :=
  { demoEnv band true with chandef := ⟨.width40, 5190, 5180⟩ }

theorem started_demoCommon : Started demoDevice demoCommon := by decide

/-- To 5 GHz and to 40 MHz, and back. -/
theorem corresponds_demo :
    Corresponds demoDevice (((system demoDevice).runVia (Programmed demoDevice) demoCommon
      [demoEnv .band5ghz true, demoWide .band5ghz, demoEnv .band2ghz true]).get (by decide)) :=
  (corresponds_of_programmed (TransitionSystem.reachableVia_get started_demoCommon _)).1

/-- There is no memory to program 5 GHz. The next call for the same channel is the first one that
returns 0, and the device is still programmed for 2.4 GHz. -/
theorem not_retriesUntilSuccess : ¬ RetriesUntilSuccess demoDevice := by
  intro h
  have hreach : (system demoDevice).Reachable
      (bandCheck demoDevice demoCommon (demoEnv .band5ghz false)).2 :=
    .step (.init started_demoCommon) trivial rfl
  exact absurd (h _ hreach (demoEnv .band5ghz true) (by decide)) (by decide)

end BandCheck
