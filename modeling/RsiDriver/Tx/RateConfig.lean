import Mathlib.Data.Nat.Notation
import Mathlib.Tactic.SplitIfs
import RsiDriver.ToMathlib.TransitionSystem

/-!
# The configured rates

The rates that go into the descriptor of a data frame are set far away from it: by the parameters of
the module (`rsi_91x_init`), through debugfs (`rsi_set_gi_ltf`, `rsi_set_ax_rate`), by the rate mask
of mac80211, and by the configuration of the interface (`rsi_set_min_rate`). Word 4 of the
descriptor leaves 14 bits for a rate; the two bits above are those of the vap id.

The parameters of a transmission are shifted into a word and not masked, and the test of
`rsi_set_gi_ltf` for a range (`gi_ltf < 0 && gi_ltf > 3`) never fires. The model has a kernel from
5.10 on.

## Main results

* `RateConf.small_rateField_iff`: which parameters stay within 14 bits;
* `RateConf.inv_of_reachableVia`: with such parameters and rates from the tables, every configured
  rate does.
-/

namespace Tx

/-- The two bits of the vap id are clear. -/
def Small (x : BitVec 16) : Prop := x &&& 0xc000 = 0#16

instance (x : BitVec 16) : Decidable (Small x) := inferInstanceAs (Decidable (_ = _))

theorem small_or {x y : BitVec 16} : Small (x ||| y) ↔ Small x ∧ Small y := by
  have hmask : (x ||| y) &&& 0xc000 = x &&& 0xc000 ||| y &&& 0xc000 := by
    rw [BitVec.and_comm, BitVec.and_or_distrib_left, BitVec.and_comm x, BitVec.and_comm y]
  show (x ||| y) &&& 0xc000 = 0#16 ↔ _
  rw [hmask, BitVec.or_eq_zero_iff]
  rfl

/-- A masked number stays within the mask. -/
theorem small_and {x mask : BitVec 16} (h : Small mask) : Small (x &&& mask) := by
  show x &&& mask &&& 0xc000 = 0
  rw [BitVec.and_assoc, h]
  exact BitVec.and_zero

/-- The rates of a table are looked at one after the other. -/
theorem small_of_all {table : List (BitVec 16)} (h : table.all (decide <| Small ·) = true) :
    ∀ r ∈ table, Small r := by
  intro r hr
  exact of_decide_eq_true (List.all_eq_true.1 h r hr)

/-- `rsi_rates`, the `hw_value` of each -/
def rsiRates : List (BitVec 16) :=
  [0x0, 0x2, 0x4, 0x6, 0x8b, 0x8f, 0x8a, 0x8e, 0x89, 0x8d, 0x88, 0x8c]

/-- `rsi_mcsrates` -/
def rsiMcsrates : List (BitVec 16) := [0x100, 0x101, 0x102, 0x103, 0x104, 0x105, 0x106, 0x107]

/-- `rsi_he_rates` -/
def rsiHeRates : List (BitVec 16) :=
  [0x400, 0x400, 0x401, 0x402, 0x403, 0x404, 0x405, 0x406, 0x407]

/-- The rate of the lowest bit of `bitmap` that has one in the table. -/
def lowestRate (table : List (BitVec 16)) (bitmap : BitVec 32) : Option (BitVec 16) :=
  (table.zipIdx.find? fun r => bitmap.getLsbD r.2).map Prod.fst

/-- The configuration of the rates. The two tables change while the driver runs. -/
structure RateConf where
  nominalPe : BitVec 8
  giLtf : BitVec 8
  dcm : BitVec 8
  codingType : BitVec 8
  axRate : BitVec 16
  /-- `adapter->rate_field_params`, a number that went through `cpu_to_le16` -/
  rateFieldParams : BitVec 16
  ax11Enabled : Bool
  enableErSu : Bool
  configErSu : BitVec 8
  fixedRateEn : Bool
  fixedRate : BitVec 16
  /-- No rate is set by `rsi_set_min_rate` if this is `0xffff`. -/
  minRate : BitVec 16
  mcsrates : List (BitVec 16)
  heRates : List (BitVec 16)
  deriving DecidableEq, Repr

/-- What changes the rates. -/
inductive RateAct
  /-- `rsi_91x_init`, with the parameters of the module -/
  | init (giLtf nominalPe dcm codingType configErSu : BitVec 8)
  /-- `rsi_update_ax_capabilities` -/
  | updateAxCapabilities
  /-- `rsi_set_gi_ltf`, with the number that was written to the file -/
  | setGiLtf (value : BitVec 64)
  /-- `rsi_set_ax_rate` -/
  | setAxRate (value : BitVec 64)
  /-- `rsi_set_config_er_su` -/
  | setConfigErSu (value : BitVec 64)
  /-- `rsi_mac80211_set_rate_mask`; `beyond` is what stands behind a table. -/
  | setRateMask (mcs : BitVec 8) (legacy heMcs : BitVec 16) (band5GHz japan14 : Bool)
      (beyond : BitVec 16)
  /-- `rsi_set_min_rate`, with `rate_bitmap` -/
  | setMinRate (bitmap : BitVec 32) (isHt : Bool)
  /-- The interface is taken down or the channel is changed. -/
  | resetMinRate
  /-- A change of the association -/
  | assoc (heSupport enableErSu : Bool)
  /-- `rsi_send_auto_rate_request` overwrites the first entries of the tables. -/
  | autoRate

/-- `rate_type` of `rsi_get_rate_code` -/
inductive RateType
  | legacy
  | mcs
  | he
  deriving DecidableEq, Repr

namespace RateConf

/-- The parameters of a transmission in one word. -/
def rateField (nominalPe giLtf dcm codingType : BitVec 8) : BitVec 16 :=
  nominalPe.setWidth 16 <<< 5 ||| giLtf.setWidth 16 <<< 11 ||| dcm.setWidth 16 <<< 13 |||
    codingType.setWidth 16 <<< 9

/-- `common->fixed_rate = ax_rate | rate_field_params` -/
def withFixedRate (c : RateConf) : RateConf :=
  { c with fixedRate := c.axRate ||| c.rateFieldParams }

/-- `rsi_get_rate_code`; `none` stands for an index behind the table. -/
def getRateCode (c : RateConf) (bitmap : BitVec 16) (band5GHz : Bool) (type : RateType) :
    Option (BitVec 16) :=
  if bitmap &&& (bitmap - 1) ≠ 0 then some 0xff
  else
    let i := ((List.range 16).find? fun i => bitmap.getLsbD i).getD 16
    match type with
    | .mcs => c.mcsrates[i]?
    | .he => c.heRates[i]?.map (· ||| c.rateFieldParams)
    | .legacy => rsiRates[if band5GHz then i + 4 else i]?

/-- The legacy rates are cut down to the highest one. -/
def highestBit (legacy : BitVec 16) : BitVec 16 :=
  match ((List.range 12).reverse.find? fun i => legacy.getLsbD i) with
  | some i => BitVec.twoPow 16 i
  | none => legacy

/-- The rate that a mask selects; the outer `none` is a mask that is refused. -/
def maskRate (c : RateConf) (mcs : BitVec 8) (legacy heMcs : BitVec 16) (band5GHz : Bool) :
    Option (Option (BitVec 16)) :=
  if mcs ≠ 0xff then some (c.getRateCode (mcs.setWidth 16) band5GHz .mcs)
  else if c.ax11Enabled = true ∧ heMcs ≠ 0xff then some (c.getRateCode heMcs band5GHz .he)
  else if c.ax11Enabled = false ∧ heMcs ≠ 0xff ∧ heMcs ≠ 0 then none
  else some (c.getRateCode (highestBit legacy) band5GHz .legacy)

/-- The mask allows every rate. -/
def enableAutoRate (mcs : BitVec 8) (legacy heMcs : BitVec 16) (band5GHz : Bool) : Bool :=
  mcs == 0xff && legacy == (if band5GHz then 0xff else 0xfff) && (heMcs == 0xff || heMcs == 0)

/-- `rsi_mac80211_set_rate_mask` for an associated interface -/
def setRateMask (c : RateConf) (mcs : BitVec 8) (legacy heMcs : BitVec 16)
    (band5GHz japan14 : Bool) (beyond : BitVec 16) : RateConf :=
  if enableAutoRate mcs legacy heMcs band5GHz then { c with fixedRateEn := false }
  else
    match c.maskRate mcs legacy heMcs band5GHz with
    | none => c
    | some rate =>
      let rate := rate.getD beyond
      if rate = 0xff then c
      -- only the two lowest rates on channel 14 in Japan
      else if japan14 = true ∧ 2 < rate.toNat then c
      else { c with fixedRateEn := true, fixedRate := rate }

/-- `rsi_set_ax_rate` -/
def setAxRate (c : RateConf) (value : BitVec 64) : RateConf :=
  if c.ax11Enabled then
    let axRate := if 7 < value.toNat then 0 else value
    -- in `ER_SU_ONLY` mode there is no rate above MCS2
    let code : BitVec 16 :=
      if c.enableErSu = true ∧ c.configErSu = 2 ∧ 2 < axRate.toNat then 0x402
      else axRate.setWidth 16 &&& 0x7 ||| 0x400
    { c with axRate := code, fixedRateEn := true }.withFixedRate
  else c

/-- One change. -/
def step (c : RateConf) : RateAct → Option RateConf
  | .init giLtf nominalPe dcm codingType configErSu =>
    some { c with
      giLtf := giLtf, nominalPe := nominalPe, dcm := dcm, codingType := codingType
      configErSu := configErSu
      rateFieldParams := rateField nominalPe giLtf dcm codingType }
  | .updateAxCapabilities => some { c with axRate := 0x400 }
  | .setGiLtf value =>
    -- the test of the range never fires, and eight bits of the number are kept
    some { c with
      giLtf := value.setWidth 8
      rateFieldParams := rateField c.nominalPe (value.setWidth 8) c.dcm c.codingType }.withFixedRate
  | .setAxRate value => some (c.setAxRate value)
  | .setConfigErSu value => some { c with configErSu := value.setWidth 8 }
  | .setRateMask mcs legacy heMcs band5GHz japan14 beyond =>
    some (c.setRateMask mcs legacy heMcs band5GHz japan14 beyond)
  | .setMinRate bitmap isHt =>
    let ht := if isHt then lowestRate c.mcsrates (bitmap >>> 12) else none
    some { c with minRate := (ht.or (lowestRate rsiRates (bitmap &&& 0xfff))).getD 0xffff }
  | .resetMinRate => some { c with minRate := 0xffff }
  | .assoc heSupport enableErSu =>
    some { c with ax11Enabled := heSupport, enableErSu := enableErSu }
  | .autoRate =>
    some { c with
      mcsrates := (c.mcsrates.set 0 0x8b).set 1 0x8a
      heRates := (c.heRates.set 0 0x8b).set 1 0x8a }

/-- The driver before `rsi_91x_init`. -/
def unset : RateConf :=
  ⟨0, 0, 0, 0, 0, 0, false, false, 0, false, 0, 0xffff, rsiMcsrates, rsiHeRates⟩

/-- The changes of the rates. -/
def system : TransitionSystem RateConf RateAct := ⟨(· = unset), step⟩

/-- The parameters stay within the bits of the rate, and a rate is one of a table. -/
def Fits (c : RateConf) : RateAct → Prop
  | .init giLtf _ dcm codingType _ =>
    giLtf &&& 0x18 = 0 ∧ dcm &&& 0x6 = 0 ∧ codingType &&& 0x60 = 0
  | .setGiLtf value => value &&& 0x18 = 0
  | .setRateMask mcs legacy heMcs band5GHz _ _ =>
    c.maskRate mcs legacy heMcs band5GHz ≠ some none
  | _ => True

instance (c : RateConf) (act : RateAct) : Decidable (c.Fits act) := by
  cases act <;> unfold Fits <;> infer_instance

/-- Which parameters stay within the bits of the rate. -/
theorem small_rateField_iff (nominalPe giLtf dcm codingType : BitVec 8) :
    Small (rateField nominalPe giLtf dcm codingType) ↔
      giLtf &&& 0x18 = 0 ∧ dcm &&& 0x6 = 0 ∧ codingType &&& 0x60 = 0 := by
  have hpe : ∀ x : BitVec 8, Small (x.setWidth 16 <<< 5) := by decide
  have hgi : ∀ x : BitVec 8, Small (x.setWidth 16 <<< 11) ↔ x &&& 0x18 = 0 := by decide
  have hdcm : ∀ x : BitVec 8, Small (x.setWidth 16 <<< 13) ↔ x &&& 0x6 = 0 := by decide
  have hcoding : ∀ x : BitVec 8, Small (x.setWidth 16 <<< 9) ↔ x &&& 0x60 = 0 := by decide
  rw [rateField, small_or, small_or, small_or, hgi, hdcm, hcoding]
  simp [hpe, and_assoc]

/-- Everything that a rate is made of stays within 14 bits. -/
structure Inv (c : RateConf) : Prop where
  dcm : c.dcm &&& 0x6 = 0
  codingType : c.codingType &&& 0x60 = 0
  rateFieldParams : Small c.rateFieldParams
  axRate : Small c.axRate
  fixedRate : Small c.fixedRate
  minRate : Small c.minRate ∨ c.minRate = 0xffff
  mcsrates : ∀ r ∈ c.mcsrates, Small r
  heRates : ∀ r ∈ c.heRates, Small r

theorem small_rsiRates : ∀ r ∈ rsiRates, Small r := small_of_all rfl

theorem inv_unset : unset.Inv where
  dcm := rfl
  codingType := rfl
  rateFieldParams := rfl
  axRate := rfl
  fixedRate := rfl
  minRate := .inr rfl
  mcsrates := small_of_all rfl
  heRates := small_of_all rfl

theorem Inv.withFixedRate {c : RateConf} (h : c.Inv) : c.withFixedRate.Inv :=
  { h with fixedRate := small_or.2 ⟨h.axRate, h.rateFieldParams⟩ }

theorem small_of_lowestRate {table : List (BitVec 16)} {bitmap : BitVec 32} {r : BitVec 16}
    (htable : ∀ r ∈ table, Small r) (h : lowestRate table bitmap = some r) : Small r := by
  obtain ⟨⟨rate, i⟩, hfind, rfl⟩ := Option.map_eq_some_iff.1 h
  apply htable
  exact List.fst_mem_of_mem_zipIdx (List.mem_of_find?_eq_some hfind)

/-- `rsi_get_rate_code` answers with a rate of a table, or with the code of an invalid mask. -/
theorem Inv.small_of_getRateCode {c : RateConf} (h : c.Inv) {bitmap : BitVec 16} {band5GHz : Bool}
    {type : RateType} {r : BitVec 16} (hr : c.getRateCode bitmap band5GHz type = some r) :
    Small r := by
  unfold getRateCode at hr
  split at hr
  · obtain rfl := Option.some.inj hr
    rfl
  · cases type with
    | legacy => exact small_rsiRates r (List.mem_of_getElem? hr)
    | mcs => exact h.mcsrates r (List.mem_of_getElem? hr)
    | he =>
      obtain ⟨rate, hget, rfl⟩ := Option.map_eq_some_iff.1 hr
      exact small_or.2 ⟨h.heRates rate (List.mem_of_getElem? hget), h.rateFieldParams⟩

theorem Inv.small_of_maskRate {c : RateConf} (h : c.Inv) {mcs : BitVec 8}
    {legacy heMcs : BitVec 16} {band5GHz : Bool} {r : BitVec 16}
    (hr : c.maskRate mcs legacy heMcs band5GHz = some (some r)) : Small r := by
  unfold maskRate at hr
  split_ifs at hr <;> exact h.small_of_getRateCode (Option.some.inj hr)

/-- The lowest rate of a peer comes from a table, or none is set. -/
theorem Inv.minRate_of_lowest {c : RateConf} (h : c.Inv) (bitmap : BitVec 32) (isHt : Bool) :
    Small (((if isHt then lowestRate c.mcsrates (bitmap >>> 12) else none).or
        (lowestRate rsiRates (bitmap &&& 0xfff))).getD 0xffff) ∨
      ((if isHt then lowestRate c.mcsrates (bitmap >>> 12) else none).or
        (lowestRate rsiRates (bitmap &&& 0xfff))).getD 0xffff = 0xffff := by
  cases hrate : (if isHt then lowestRate c.mcsrates (bitmap >>> 12) else none).or
      (lowestRate rsiRates (bitmap &&& 0xfff)) with
  | none => exact .inr rfl
  | some r =>
    left
    show Small r
    obtain hht | ⟨-, hlegacy⟩ := Option.or_eq_some_iff.1 hrate
    · split at hht
      · exact small_of_lowestRate h.mcsrates hht
      · cases hht
    · exact small_of_lowestRate small_rsiRates hlegacy

theorem Inv.setRateMask {c : RateConf} (h : c.Inv) {mcs : BitVec 8} {legacy heMcs : BitVec 16}
    {band5GHz japan14 : Bool} {beyond : BitVec 16}
    (hfits : c.maskRate mcs legacy heMcs band5GHz ≠ some none) :
    (c.setRateMask mcs legacy heMcs band5GHz japan14 beyond).Inv := by
  unfold RateConf.setRateMask
  split
  · exact { h with }
  · cases hrate : c.maskRate mcs legacy heMcs band5GHz with
    | none => exact h
    | some rate =>
      match rate, hrate with
      | none, hrate => exact absurd hrate hfits
      | some rate, hrate =>
        dsimp only [Option.getD_some]
        split_ifs
        · exact h
        · exact h
        · exact { h with fixedRate := h.small_of_maskRate hrate }

theorem Inv.setAxRate {c : RateConf} (h : c.Inv) (value : BitVec 64) : (c.setAxRate value).Inv := by
  unfold RateConf.setAxRate
  split
  · refine Inv.withFixedRate { h with axRate := ?_ }
    dsimp only
    generalize (if 7 < value.toNat then 0 else value) = rate
    split
    · exact rfl
    · exact small_or.2 ⟨small_and rfl, rfl⟩
  · exact h

/-- Overwriting the first entries of a table. -/
theorem small_of_mem_set {table : List (BitVec 16)} (htable : ∀ r ∈ table, Small r) {r : BitVec 16}
    (hr : r ∈ (table.set 0 0x8b).set 1 0x8a) : Small r := by
  obtain hr | rfl := List.mem_or_eq_of_mem_set hr
  · obtain hr | rfl := List.mem_or_eq_of_mem_set hr
    · exact htable r hr
    · rfl
  · rfl

/-- One change keeps the rates within 14 bits. -/
theorem Inv.step {c c' : RateConf} {act : RateAct} (h : c.Inv) (hfits : c.Fits act)
    (hstep : c.step act = some c') : c'.Inv := by
  cases act with
  | init giLtf nominalPe dcm codingType configErSu =>
    obtain rfl := Option.some.inj hstep
    obtain ⟨hgi, hdcm, hcoding⟩ := hfits
    exact { h with
      dcm := hdcm, codingType := hcoding
      rateFieldParams := (small_rateField_iff ..).2 ⟨hgi, hdcm, hcoding⟩ }
  | updateAxCapabilities =>
    obtain rfl := Option.some.inj hstep
    have hrate : Small 0x400 := rfl
    exact { h with axRate := hrate }
  | setGiLtf value =>
    obtain rfl := Option.some.inj hstep
    have hgi : value.setWidth 8 &&& 0x18 = 0 := by
      have hwidth := congrArg (BitVec.setWidth 8) (show value &&& 0x18 = 0 from hfits)
      rwa [BitVec.setWidth_and] at hwidth
    exact Inv.withFixedRate { h with
      rateFieldParams := (small_rateField_iff ..).2 ⟨hgi, h.dcm, h.codingType⟩ }
  | setAxRate value =>
    obtain rfl := Option.some.inj hstep
    exact h.setAxRate value
  | setConfigErSu value =>
    obtain rfl := Option.some.inj hstep
    exact { h with }
  | setRateMask mcs legacy heMcs band5GHz japan14 beyond =>
    obtain rfl := Option.some.inj hstep
    exact h.setRateMask hfits
  | setMinRate bitmap isHt =>
    obtain rfl := Option.some.inj hstep
    exact { h with minRate := h.minRate_of_lowest bitmap isHt }
  | resetMinRate =>
    obtain rfl := Option.some.inj hstep
    exact { h with minRate := .inr rfl }
  | assoc heSupport enableErSu =>
    obtain rfl := Option.some.inj hstep
    exact { h with }
  | autoRate =>
    obtain rfl := Option.some.inj hstep
    exact { h with
      mcsrates := fun r hr => small_of_mem_set h.mcsrates hr
      heRates := fun r hr => small_of_mem_set h.heRates hr }

theorem inv_of_reachableVia {c : RateConf} (h : system.ReachableVia Fits c) : c.Inv :=
  h.invariant Inv (fun _ hinit => hinit ▸ inv_unset) fun _ _ _ hinv hfits hstep =>
    hinv.step hfits hstep

end RateConf

end Tx
