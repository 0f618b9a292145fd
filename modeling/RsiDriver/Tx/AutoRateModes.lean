import RsiDriver.Tx.AutoRateTable

/-!
# The modes of an auto-rate request

The mode is selected by two flags of 8 bits, and the four fastest rates are beyond the eighth bit. A
mask with one of these and no slower OFDM rate gets the mode of the other rates. Otherwise the mode
leaves a fixed set of bits, whose rates the moderate rate of the mode cuts in two.

## Main results

* `mode_eq_maskMode`: the mode is the one of all rates;
* `firstRates_eq`: what the first half lists before it is padded;
* `exists_cut`: the moderate rate cuts what is listed in front of the end of the first half.
-/

namespace Tx

/-! ## The first half -/

/-- The MCS table is the one of the driver, or has been overwritten. -/
def RateConf.TablesOk (c : RateConf) : Prop :=
  c.mcsrates = rsiMcsrates ∨
    c.mcsrates = [RSI_RATE_6, RSI_RATE_12, 0x102, 0x103, 0x104, 0x105, 0x106, 0x107]

theorem RateConf.TablesOk.forAutoRate {c : RateConf} (h : c.TablesOk) (req : AutoRateReq) :
    (c.forAutoRate req).TablesOk := by
  unfold RateConf.forAutoRate
  split_ifs
  · exact h
  · refine Or.inr ?_
    rcases h with h | h <;> rw [h] <;> rfl

theorem RateConf.tablesOk_of_reachable {c : RateConf} (h : RateConf.system.Reachable c) :
    c.TablesOk := by
  refine h.invariant RateConf.TablesOk (fun c hinit => hinit ▸ Or.inl rfl) ?_
  intro c act c' hinv _ hstep
  cases act with
  | autoRate =>
    obtain rfl := Option.some.inj hstep
    refine Or.inr ?_
    rcases hinv with h | h <;> rw [h] <;> rfl
  | setAxRate value =>
    obtain rfl := Option.some.inj hstep
    unfold RateConf.setAxRate
    split_ifs <;> exact hinv
  | setRateMask mcs legacy heMcs band5GHz japan14 beyond =>
    obtain rfl := Option.some.inj hstep
    unfold RateConf.setRateMask
    split
    · exact hinv
    · split
      · exact hinv
      · dsimp only
        split_ifs <;> exact hinv
  | init | updateAxCapabilities | setGiLtf | setConfigErSu | setMinRate | resetMinRate | assoc =>
    obtain rfl := Option.some.inj hstep
    exact hinv

section FirstHalf

variable {c : RateConf} {req : AutoRateReq}

/-- What `bitrate` holds. -/
def RateConf.listedBitrates (c : RateConf) (req : AutoRateReq) : List (BitVec 16) :=
  c.topRates req ++ if req.mode = .n then (c.mcsrates.take 7).reverse else req.selectedRates

theorem RateConf.TablesOk.top (h : c.TablesOk) : c.mcsrates.getD 7 0 = 0x107 := by
  rcases h with h | h <;> rw [h] <;> rfl

theorem selectedRates_mem : ∀ r ∈ req.selectedRates, r ∈ stdRates := by
  intro r hr
  rw [req.selectedRates_eq] at hr
  have htable : (fastestFirst.map Prod.fst).all (stdRates.contains ·) = true := by decide
  have hmem := List.all_eq_true.1 htable r
    (List.Sublist.subset (List.filter_sublist.map Prod.fst) hr)
  exact List.contains_iff_mem.1 hmem

/-- The entries of the kept rates, from the table of entries. -/
theorem flatMap_codesOf (isHe : Bool) (p : ℕ → Bool) (l : List (BitVec 16 × ℕ)) :
    ((l.filter fun r => p r.2).map Prod.fst).flatMap (codesOf isHe) =
      ((l.flatMap fun r => (codesOf isHe r.1).map (·, r.2)).filter fun r => p r.2).map
        Prod.fst := by
  induction l with
  | nil => rfl
  | cons r l ih =>
    rw [List.flatMap_cons, List.filter_append, List.map_append, ← ih, List.filter_cons]
    cases hp : p r.2 with
    | false =>
      have hnone : ((codesOf isHe r.1).map (·, r.2)).filter (fun r => p r.2) = [] := by
        simp [List.filter_map, Function.comp_def, hp]
      rw [hnone]
      rfl
    | true =>
      have hall : ((codesOf isHe r.1).map (·, r.2)).filter (fun r => p r.2) =
          (codesOf isHe r.1).map (·, r.2) := by
        simp [List.filter_map, Function.comp_def, hp]
      rw [hall, List.map_map]
      simp [Function.comp_def]

/-- N mode needs HT. -/
theorem isHt_of_mode (h : req.mode = .n) : req.isHt = true := by
  unfold AutoRateReq.mode at h
  cases hht : req.isHt with
  | true => rfl
  | false =>
    simp only [hht, Bool.false_eq_true, if_false] at h
    split_ifs at h

theorem firstRates_eq (h : c.TablesOk) :
    c.firstRates req = ⟨c.listedRates req, c.listedBitrates req⟩ := by
  by_cases hmode : req.mode = .n
  · have hht := isHt_of_mode hmode
    have hsize : c.tableSz req = 9 + if c.ax11Enabled then 1 else 0 := by
      rw [RateConf.tableSz, hmode]
      rfl
    unfold RateConf.firstRates RateConf.listedRates RateConf.listedBitrates RateConf.topRates
      AutoRateFill.fillHt
    simp only [hmode, hht, hsize, if_true]
    rcases h with h | h <;> rw [h] <;> cases req.isSgi <;> cases c.ax11Enabled <;> rfl
  · unfold RateConf.firstRates RateConf.listedRates RateConf.listedBitrates RateConf.topRates
    simp only [hmode, if_false]
    rw [AutoRateFill.fillLegacy_eq _ selectedRates_mem, req.selectedRates_eq, flatMap_codesOf]
    unfold AutoRateFill.fillHt codesFirst
    cases req.isHt <;> cases req.isSgi <;> rfl

/-! ### Modes -/

theorem setWidth_and_eq_zero_iff (x mask : BitVec 32) (hmask : mask.toNat < 256) :
    (x &&& mask).setWidth 8 = 0 ↔ x &&& mask = 0 := by
  have hlt : (x &&& mask).toNat < 2 ^ 8 := by
    rw [BitVec.toNat_and]
    exact Nat.lt_of_le_of_lt Nat.and_le_right hmask
  rw [← BitVec.toNat_inj, ← BitVec.toNat_inj, BitVec.toNat_setWidth, Nat.mod_eq_of_lt hlt]
  rfl

theorem bMode_eq_zero_iff : req.bMode = 0 ↔ req.rateBitmap &&& 0xf = 0 :=
  setWidth_and_eq_zero_iff _ _ (by decide)

/-- The eight bits of the flag leave four rates. -/
theorem gMode_eq_zero_iff : req.gMode = 0 ↔ req.rateBitmap &&& 0xf0 = 0 := by
  have hmask : req.gMode = (req.rateBitmap &&& 0xf0).setWidth 8 := by
    unfold AutoRateReq.gMode
    rw [BitVec.setWidth_and, BitVec.setWidth_and]
    rfl
  rw [hmask]
  exact setWidth_and_eq_zero_iff _ _ (by decide)

/-- A mask with an OFDM rate has one of the four slowest. -/
def AutoRateReq.LowOfdm (req : AutoRateReq) : Prop :=
  req.rateBitmap &&& 0xff0 ≠ 0 → req.rateBitmap &&& 0xf0 ≠ 0

instance : Decidable req.LowOfdm := inferInstanceAs (Decidable (_ → _))

theorem gMode_eq_zero_iff_of_lowOfdm (hofdm : req.LowOfdm) :
    req.gMode = 0 ↔ req.rateBitmap &&& 0xff0 = 0 := by
  rw [gMode_eq_zero_iff]
  refine ⟨fun hlow => ?_, fun hall => ?_⟩
  · by_contra hne
    exact hofdm hne hlow
  · have hsplit : req.rateBitmap &&& 0xf0 = req.rateBitmap &&& 0xff0 &&& 0xf0 := by
      rw [BitVec.and_assoc]
      rfl
    rw [hsplit, hall]
    exact BitVec.zero_and

theorem mode_eq_maskMode (hofdm : req.LowOfdm) : req.mode = req.maskMode := by
  simp only [AutoRateReq.mode, AutoRateReq.maskMode, ne_eq, bMode_eq_zero_iff,
    gMode_eq_zero_iff_of_lowOfdm hofdm]

/-- A mask without OFDM rates. -/
theorem getLsbD_of_ofdm_eq_zero (h : req.rateBitmap &&& 0xff0 = 0) {i : ℕ} (hlow : 4 ≤ i)
    (hhigh : i < 12) : req.rateBitmap.getLsbD i = false := by
  have hmask : (0xff0 : BitVec 32).getLsbD i = true := by
    have hall : ∀ i < 12, 4 ≤ i → (0xff0 : BitVec 32).getLsbD i = true := by decide
    exact hall i hhigh hlow
  have hbit := congrArg (·.getLsbD i) h
  rw [BitVec.getLsbD_and, hmask, Bool.and_true] at hbit
  exact hbit.trans BitVec.getLsbD_zero

/-- A mask without rates of 802.11b. -/
theorem getLsbD_of_b_eq_zero (h : req.rateBitmap &&& 0xf = 0) {i : ℕ} (hi : i < 4) :
    req.rateBitmap.getLsbD i = false := by
  have hmask : (0xf : BitVec 32).getLsbD i = true := by
    have hall : ∀ i < 4, (0xf : BitVec 32).getLsbD i = true := by decide
    exact hall i hi
  have hbit := congrArg (·.getLsbD i) h
  rw [BitVec.getLsbD_and, hmask, Bool.and_true] at hbit
  exact hbit.trans BitVec.getLsbD_zero

/-! ### The kept rates -/

/-- The bits that the mode leaves. -/
def AutoRateReq.modeBits (req : AutoRateReq) : List ℕ :=
  match req.mode with
  | .bgn | .bg => [0, 1, 4, 6, 7, 8, 9, 10, 11]
  | .gn | .g => [4, 6, 7, 8, 9, 10, 11]
  | .b => if req.japan14 then [0, 1] else [0, 1, 2, 3]
  | .n | .noRates => []

theorem getLsbD_of_and {x mask : BitVec 32} {i : ℕ} (h : (x &&& mask).getLsbD i = true) :
    x.getLsbD i = true ∧ mask.getLsbD i = true := by
  rw [BitVec.getLsbD_and, Bool.and_eq_true] at h
  exact h

/-- The kept bits are bits of the mask, without 9 Mbps and, in some modes, 5.5 and 11 Mbps. -/
theorem rateBitmap_of_kept {i : ℕ} (h : req.keptBitmap.getLsbD i = true) :
    req.rateBitmap.getLsbD i = true ∧ (~~~0x20 : BitVec 32).getLsbD i = true ∧
      (req.mode = .bgn ∨ req.mode = .bg ∨ req.mode = .b ∧ req.japan14 = true →
        (~~~0xc : BitVec 32).getLsbD i = true) := by
  unfold AutoRateReq.keptBitmap at h
  dsimp only at h
  split at h
  · obtain ⟨h, hslow⟩ := getLsbD_of_and h
    exact ⟨(getLsbD_of_and h).1, (getLsbD_of_and h).2, fun _ => hslow⟩
  · obtain ⟨h, hslow⟩ := getLsbD_of_and h
    exact ⟨(getLsbD_of_and h).1, (getLsbD_of_and h).2, fun _ => hslow⟩
  · split_ifs at h with hjapan
    · obtain ⟨h, hslow⟩ := getLsbD_of_and h
      exact ⟨(getLsbD_of_and h).1, (getLsbD_of_and h).2, fun _ => hslow⟩
    · refine ⟨(getLsbD_of_and h).1, (getLsbD_of_and h).2, ?_⟩
      rintro (hmode | hmode | ⟨-, hjp⟩)
      · simp_all
      · simp_all
      · exact absurd hjp hjapan
  · refine ⟨(getLsbD_of_and h).1, (getLsbD_of_and h).2, ?_⟩
    rintro (hmode | hmode | ⟨hmode, -⟩) <;> simp_all

/-- The mode tells which rates the mask has. -/
theorem mode_spec :
    match req.mode with
    | .bgn => req.gMode ≠ 0 ∧ req.bMode ≠ 0 ∧ req.isHt = true
    | .bg => req.gMode ≠ 0 ∧ req.bMode ≠ 0 ∧ req.isHt = false
    | .gn => req.gMode ≠ 0 ∧ req.bMode = 0 ∧ req.isHt = true
    | .g => req.gMode ≠ 0 ∧ req.bMode = 0 ∧ req.isHt = false
    | .b => req.gMode = 0 ∧ req.bMode ≠ 0
    | .n => req.gMode = 0 ∧ req.bMode = 0 ∧ req.isHt = true
    | .noRates => req.gMode = 0 ∧ req.bMode = 0 ∧ req.isHt = false := by
  unfold AutoRateReq.mode
  split_ifs <;> simp_all

/-- Without the slip of the flag, the mode leaves the bits that it names. -/
theorem mem_modeBits_of_kept (hofdm : req.LowOfdm) {i : ℕ} (hi : i < 12)
    (h : req.keptBitmap.getLsbD i = true) : i ∈ req.modeBits := by
  obtain ⟨hbit, h9, hslow⟩ := rateBitmap_of_kept h
  have hne9 : i ≠ 5 := by
    rintro rfl
    exact absurd h9 (by decide)
  have hne2 (hmode : req.mode = .bgn ∨ req.mode = .bg ∨ req.mode = .b ∧ req.japan14 = true) :
      i ≠ 2 ∧ i ≠ 3 := by
    refine ⟨?_, ?_⟩ <;> rintro rfl <;> exact absurd (hslow hmode) (by decide)
  have hofdmBit (hg : req.gMode = 0) : ¬ 4 ≤ i := by
    intro hlow
    rw [getLsbD_of_ofdm_eq_zero ((gMode_eq_zero_iff_of_lowOfdm hofdm).1 hg) hlow hi] at hbit
    exact Bool.false_ne_true hbit
  have hbBit (hb : req.bMode = 0) : 4 ≤ i := by
    by_contra hlow
    rw [getLsbD_of_b_eq_zero (bMode_eq_zero_iff.1 hb) (by omega)] at hbit
    exact Bool.false_ne_true hbit
  have hspec := @mode_spec req
  unfold AutoRateReq.modeBits
  cases hmode : req.mode <;> simp only [hmode] at hspec hne2 ⊢
  case bgn | bg =>
    have hne := hne2 (by simp)
    simp only [List.mem_cons, List.not_mem_nil, or_false]
    omega
  case gn | g =>
    have hlow := hbBit hspec.2.1
    simp only [List.mem_cons, List.not_mem_nil, or_false]
    omega
  case b =>
    have hlow := hofdmBit hspec.1
    cases hjp : req.japan14 with
    | true =>
      have hne := hne2 (by simp [hjp])
      simp only [if_true, List.mem_cons, List.not_mem_nil, or_false]
      omega
    | false =>
      simp only [Bool.false_eq_true, if_false, List.mem_cons, List.not_mem_nil, or_false]
      omega
  case n | noRates => exact absurd (hbBit hspec.2.1) (hofdmBit hspec.1)

/-! ### The cut at the moderate rate -/

/-- The entries of some bits, and the rates. -/
def codesAmong (isHe : Bool) (bits : List ℕ) : List (BitVec 16 × ℕ) :=
  (codesFirst isHe).filter fun r => r.2 ∈ bits

def ratesAmong (bits : List ℕ) : List (BitVec 16 × ℕ) :=
  fastestFirst.filter fun r => r.2 ∈ bits

/-- Both tables are cut at the moderate rate. -/
structure CutsAt (moderate : BitVec 16) (above below above' below' : List (BitVec 16 × ℕ)) :
    Prop where
  fast : ∀ r ∈ above, moderate.toNat < rateSpeed r.1
  slow : ∀ r ∈ below, rateSpeed r.1 ≤ moderate.toNat
  fast' : ∀ r ∈ above', moderate < r.1
  slow' : ∀ r ∈ below', r.1 ≤ moderate
  bits : above'.map Prod.snd = above.map Prod.snd
  sublist : (below'.map Prod.snd).Sublist (below.map Prod.snd)
  subset : ∀ r ∈ below, r.2 ∈ below'.map Prod.snd

/-- The bits of a mode cut both tables. -/
structure Cuts (isHe : Bool) (bits : List ℕ) (moderate : BitVec 16)
    (above below above' below' : List (BitVec 16 × ℕ)) : Prop where
  codes : codesAmong isHe bits = above ++ below
  rates : ratesAmong bits = above' ++ below'
  cutsAt : CutsAt moderate above below above' below'

/-- What is left to check if the tables are split by the moderate rate. -/
theorem cuts_filter {isHe : Bool} {bits : List ℕ} {moderate : BitVec 16}
    {above below above' below' : List (BitVec 16 × ℕ)}
    (habove : above = (codesAmong isHe bits).filter fun r => moderate.toNat < rateSpeed r.1)
    (hbelow : below = (codesAmong isHe bits).filter fun r => ¬ moderate.toNat < rateSpeed r.1)
    (habove' : above' = (ratesAmong bits).filter fun r => moderate < r.1)
    (hbelow' : below' = (ratesAmong bits).filter fun r => ¬ moderate < r.1)
    (hcodes : codesAmong isHe bits = above ++ below) (hrates : ratesAmong bits = above' ++ below')
    (hbits : above'.map Prod.snd = above.map Prod.snd)
    (hsub : (below'.map Prod.snd).Sublist (below.map Prod.snd))
    (hsubset : ∀ r ∈ below, r.2 ∈ below'.map Prod.snd) :
    Cuts isHe bits moderate above below above' below' where
  codes := hcodes
  rates := hrates
  cutsAt := {
    fast := by
      subst habove
      intro r hr
      exact of_decide_eq_true (List.mem_filter.1 hr).2
    slow := by
      subst hbelow
      intro r hr
      exact Nat.le_of_not_lt (of_decide_eq_true (List.mem_filter.1 hr).2)
    fast' := by
      subst habove'
      intro r hr
      exact of_decide_eq_true (List.mem_filter.1 hr).2
    slow' := by
      subst hbelow'
      intro r hr
      exact BitVec.not_lt.1 (of_decide_eq_true (List.mem_filter.1 hr).2)
    bits := hbits
    sublist := hsub
    subset := hsubset }

/-- The bits of a mode cut the tables in front of the end of the first half. Only in B mode there
may be more entries than the first half has. -/
theorem exists_cuts (hmode : req.mode ≠ .n) (hrates : req.mode ≠ .noRates) (isHe : Bool) :
    ∃ above below above' below',
      Cuts isHe req.modeBits req.moderateRate above below above' below' ∧
      (if req.isHt then 2 else 0) + above.length < req.mode.tableSz ∧
      (if req.isHt then 2 else 0) + (above ++ below).length ≤
        max (req.mode.tableSz + if isHe then 1 else 0) 6 := by
  have hspec := @mode_spec req
  unfold AutoRateReq.modeBits AutoRateReq.moderateRate
  cases hm : req.mode <;> simp only [hm] at hspec hmode hrates ⊢
  case bgn | bg | gn | g =>
    rw [hspec.2.2]
    cases isHe <;>
      exact ⟨_, _, _, _, cuts_filter rfl rfl rfl rfl (by decide) (by decide) (by decide) (by decide)
        (by decide), by decide, by decide⟩
  case b =>
    cases req.japan14 <;> cases isHe <;> cases req.isHt <;>
      exact ⟨_, _, _, _, cuts_filter rfl rfl rfl rfl (by decide) (by decide) (by decide) (by decide)
        (by decide), by decide, by decide⟩
  case n => exact absurd rfl hmode
  case noRates => exact absurd rfl hrates

/-- What the first half lists, cut at the moderate rate. -/
structure Cut (c : RateConf) (req : AutoRateReq) (above below above' below' : List (BitVec 16)) :
    Prop where
  listed : c.listedRates req = above ++ below
  bitrates : c.listedBitrates req = above' ++ below'
  fast : ∀ r ∈ above, req.moderateSpeed < rateSpeed r
  slow : ∀ r ∈ below, rateSpeed r ≤ req.moderateSpeed
  fast' : ∀ r ∈ above', req.moderateRate < r
  slow' : ∀ r ∈ below', r ≤ req.moderateRate
  length : above'.length = above.length
  shorter : below'.length ≤ below.length
  nil : below' = [] → below = []
  room : above.length < c.tableSz req
  fits : above.length + below.length ≤ max (c.tableSz req) 6
  sorted : ((above ++ below).map rateSpeed).Pairwise (· ≥ ·)

theorem mem_topRates (h : c.TablesOk) {r : BitVec 16} (hr : r ∈ c.topRates req) :
    req.isHt = true ∧ (r = 0x107 ∨ r = 0x107 ||| SGI_BIT) := by
  unfold RateConf.topRates at hr
  rw [h.top] at hr
  cases hht : req.isHt with
  | false => simp [hht] at hr
  | true =>
    cases hsgi : req.isSgi <;> simp [hht, hsgi] at hr
    · exact ⟨rfl, Or.inl hr⟩
    · exact ⟨rfl, hr.symm⟩

theorem length_topRates : (c.topRates req).length ≤ if req.isHt then 2 else 0 := by
  unfold RateConf.topRates
  cases req.isHt <;> cases req.isSgi <;> simp

theorem sorted_topRates (h : c.TablesOk) :
    ((c.topRates req).map rateSpeed).Pairwise (· ≥ ·) := by
  unfold RateConf.topRates
  rw [h.top]
  cases req.isHt <;> cases req.isSgi <;> decide

/-- The rates that a bit keeps, in the order of their table. -/
def keptOf (req : AutoRateReq) (l : List (BitVec 16 × ℕ)) : List (BitVec 16) :=
  (l.filter fun r => req.keptBitmap.getLsbD r.2).map Prod.fst

theorem keptOf_append (l l' : List (BitVec 16 × ℕ)) :
    keptOf req (l ++ l') = keptOf req l ++ keptOf req l' := by
  rw [keptOf, List.filter_append, List.map_append, keptOf, keptOf]

theorem mem_keptOf {l : List (BitVec 16 × ℕ)} {r : BitVec 16} (h : r ∈ keptOf req l) :
    ∃ i, (r, i) ∈ l ∧ req.keptBitmap.getLsbD i = true := by
  obtain ⟨⟨r', i⟩, hmem, rfl⟩ := List.mem_map.1 h
  exact ⟨i, List.mem_filter.1 hmem⟩

/-- The number of kept rates is that of kept bits. -/
theorem length_keptOf (l : List (BitVec 16 × ℕ)) :
    (keptOf req l).length = (l.map Prod.snd).countP fun i => req.keptBitmap.getLsbD i := by
  rw [keptOf, List.length_map, ← List.countP_eq_length_filter, List.countP_map]
  rfl

theorem length_keptOf_le (req : AutoRateReq) (l : List (BitVec 16 × ℕ)) :
    (keptOf req l).length ≤ l.length := by
  rw [length_keptOf, ← List.length_map (f := Prod.snd)]
  exact List.countP_le_length

/-- Only bits of the mode are kept. -/
theorem keptOf_filter (hofdm : req.LowOfdm) {l : List (BitVec 16 × ℕ)} (h : ∀ r ∈ l, r.2 < 12) :
    keptOf req (l.filter fun r => r.2 ∈ req.modeBits) = keptOf req l := by
  unfold keptOf
  rw [List.filter_filter]
  refine congrArg (List.map Prod.fst) (List.filter_congr fun r hr => ?_)
  cases hkept : req.keptBitmap.getLsbD r.2 with
  | false => rfl
  | true =>
    have hmem := mem_modeBits_of_kept hofdm (h r hr) hkept
    simp [hmem]

theorem codesFirst_bits (isHe : Bool) : ∀ r ∈ codesFirst isHe, r.2 < 12 :=
  forall_mem_of_all (by cases isHe <;> decide)

theorem codesFirst_sorted (isHe : Bool) :
    ((codesFirst isHe).map fun r => rateSpeed r.1).Pairwise (· ≥ ·) := by
  cases isHe <;> decide

theorem codesFirst_speed (isHe : Bool) : ∀ r ∈ codesFirst isHe, rateSpeed r.1 ≤ 108 :=
  forall_mem_of_all (by cases isHe <;> decide)

theorem listedRates_eq (hmode : req.mode ≠ .n) :
    c.listedRates req = c.topRates req ++ keptOf req (codesFirst c.ax11Enabled) := by
  rw [RateConf.listedRates, if_neg hmode]
  rfl

theorem listedBitrates_eq (hmode : req.mode ≠ .n) :
    c.listedBitrates req = c.topRates req ++ keptOf req fastestFirst := by
  rw [RateConf.listedBitrates, if_neg hmode, req.selectedRates_eq]
  rfl

/-- The listed rates of the legacy modes are sorted by speed. -/
theorem sorted_listedRates (h : c.TablesOk) (hmode : req.mode ≠ .n) :
    ((c.listedRates req).map rateSpeed).Pairwise (· ≥ ·) := by
  rw [listedRates_eq hmode, List.map_append, List.pairwise_append]
  refine ⟨sorted_topRates h, ?_, ?_⟩
  · rw [keptOf, List.map_map]
    exact (codesFirst_sorted c.ax11Enabled).sublist (List.filter_sublist.map _)
  · intro v hv w hw
    obtain ⟨r, hr, rfl⟩ := List.mem_map.1 hv
    obtain ⟨r', hr', rfl⟩ := List.mem_map.1 hw
    obtain ⟨i, hmem, -⟩ := mem_keptOf hr'
    have hslow : rateSpeed r' ≤ 108 := codesFirst_speed c.ax11Enabled (r', i) hmem
    have hfast : 130 ≤ rateSpeed r := by
      rcases (mem_topRates h hr).2 with rfl | rfl <;> decide
    show rateSpeed r' ≤ rateSpeed r
    omega

/-- In the legacy modes the moderate rate cuts what the bits of the mode leave. -/
theorem exists_cut_legacy (h : c.TablesOk) (hofdm : req.LowOfdm) (hmode : req.mode ≠ .n)
    (hrates : req.mode ≠ .noRates) :
    ∃ above below above' below', Cut c req above below above' below' := by
  obtain ⟨above, below, above', below', hcuts, hroom, hfits⟩ :=
    exists_cuts hmode hrates c.ax11Enabled
  have hspeed : req.moderateSpeed = req.moderateRate.toNat := if_neg hmode
  have htop : (c.topRates req).length ≤ if req.isHt then 2 else 0 := length_topRates
  have hlow : req.moderateRate ≤ 0x48 := by
    unfold AutoRateReq.moderateRate
    cases hm : req.mode <;> first | exact absurd hm hmode | skip
    all_goals cases req.japan14 <;> decide
  have hcodes : keptOf req (codesFirst c.ax11Enabled) = keptOf req above ++ keptOf req below := by
    rw [← keptOf_append, ← hcuts.codes, codesAmong, keptOf_filter hofdm (codesFirst_bits _)]
  have hrates' : keptOf req fastestFirst = keptOf req above' ++ keptOf req below' := by
    rw [← keptOf_append, ← hcuts.rates, ratesAmong, keptOf_filter hofdm (by decide)]
  have hlisted : c.listedRates req = c.topRates req ++ keptOf req above ++ keptOf req below := by
    rw [listedRates_eq hmode, hcodes, List.append_assoc]
  refine ⟨c.topRates req ++ keptOf req above, keptOf req below,
    c.topRates req ++ keptOf req above', keptOf req below', hlisted, ?_, ?_, ?_, ?_, ?_, ?_, ?_, ?_,
    ?_, ?_, ?_⟩
  · rw [listedBitrates_eq hmode, hrates', List.append_assoc]
  · intro r hr
    rw [hspeed]
    rcases List.mem_append.1 hr with hr | hr
    · have hfast : 130 ≤ rateSpeed r := by
        rcases (mem_topRates h hr).2 with rfl | rfl <;> decide
      have hlow : req.moderateRate.toNat ≤ 0x48 := hlow
      omega
    · obtain ⟨i, hmem, -⟩ := mem_keptOf hr
      exact hcuts.cutsAt.fast (r, i) hmem
  · intro r hr
    rw [hspeed]
    obtain ⟨i, hmem, -⟩ := mem_keptOf hr
    exact hcuts.cutsAt.slow (r, i) hmem
  · intro r hr
    rcases List.mem_append.1 hr with hr | hr
    · have hfast : 0x48 < r := by
        rcases (mem_topRates h hr).2 with rfl | rfl <;> decide
      exact Nat.lt_of_le_of_lt hlow hfast
    · obtain ⟨i, hmem, -⟩ := mem_keptOf hr
      exact hcuts.cutsAt.fast' (r, i) hmem
  · intro r hr
    obtain ⟨i, hmem, -⟩ := mem_keptOf hr
    exact hcuts.cutsAt.slow' (r, i) hmem
  · rw [List.length_append, List.length_append, length_keptOf, length_keptOf, hcuts.cutsAt.bits]
  · rw [length_keptOf, length_keptOf]
    exact hcuts.cutsAt.sublist.countP_le
  · intro hnil
    refine List.eq_nil_iff_forall_not_mem.2 fun r hr => ?_
    obtain ⟨i, hmem, hkept⟩ := mem_keptOf hr
    obtain ⟨⟨r', i'⟩, hmem', rfl⟩ := List.mem_map.1 (hcuts.cutsAt.subset (r, i) hmem)
    have hr' : r' ∈ keptOf req below' :=
      List.mem_map.2 ⟨(r', i'), List.mem_filter.2 ⟨hmem', hkept⟩, rfl⟩
    rw [hnil] at hr'
    exact List.not_mem_nil hr'
  · rw [List.length_append]
    have hle := length_keptOf_le req above
    unfold RateConf.tableSz
    omega
  · rw [List.length_append]
    rw [List.length_append] at hfits
    have hle := length_keptOf_le req above
    have hle' := length_keptOf_le req below
    unfold RateConf.tableSz
    omega
  · rw [← hlisted]
    exact sorted_listedRates h hmode

/-- In N mode the moderate rate is MCS 4. -/
theorem exists_cut_n (h : c.TablesOk) (hmode : req.mode = .n) :
    ∃ above below above' below', Cut c req above below above' below' := by
  have hht := isHt_of_mode hmode
  have hlisted : c.listedRates req = c.topRates req ++ (c.mcsrates.take 7).reverse := by
    rw [RateConf.listedRates, if_pos hmode]
  have hbitrates : c.listedBitrates req = c.topRates req ++ (c.mcsrates.take 7).reverse := by
    rw [RateConf.listedBitrates, if_pos hmode]
  have hrate : req.moderateRate = 0x104 := by
    unfold AutoRateReq.moderateRate
    rw [hmode]
  have hspeed : req.moderateSpeed = 78 := by
    rw [AutoRateReq.moderateSpeed, if_pos hmode, hrate]
    rfl
  have hsize : 9 ≤ c.tableSz req := by
    unfold RateConf.tableSz
    rw [hmode]
    exact Nat.le_add_right ..
  have htop : c.topRates req = if req.isSgi then [0x307, 0x107] else [0x107] := by
    rw [RateConf.topRates, h.top, hht]
    cases req.isSgi <;> rfl
  refine ⟨c.topRates req ++ (c.mcsrates.take 7).reverse.take 2,
    (c.mcsrates.take 7).reverse.drop 2, c.topRates req ++ (c.mcsrates.take 7).reverse.take 2,
    (c.mcsrates.take 7).reverse.drop 2, ?_, ?_, ?_, ?_, ?_, ?_, rfl, Nat.le_refl _, id, ?_, ?_, ?_⟩
  · rw [hlisted, List.append_assoc, List.take_append_drop]
  · rw [hbitrates, List.append_assoc, List.take_append_drop]
  · rw [htop, hspeed]
    rcases h with h | h <;> rw [h] <;> cases req.isSgi <;> exact forall_mem_of_all (by decide)
  · rw [hspeed]
    rcases h with h | h <;> rw [h] <;> exact forall_mem_of_all (by decide)
  · rw [htop, hrate]
    rcases h with h | h <;> rw [h] <;> cases req.isSgi <;> exact forall_mem_of_all (by decide)
  · rw [hrate]
    rcases h with h | h <;> rw [h] <;> exact forall_mem_of_all (by decide)
  · refine Nat.lt_of_lt_of_le ?_ hsize
    rw [htop]
    rcases h with h | h <;> rw [h] <;> cases req.isSgi <;> decide
  · refine Nat.le_trans ?_ (Nat.le_trans hsize (Nat.le_max_left ..))
    rw [htop]
    rcases h with h | h <;> rw [h] <;> cases req.isSgi <;> decide
  · rw [htop]
    rcases h with h | h <;> rw [h] <;> cases req.isSgi <;> decide

/-- The moderate rate cuts what the first half lists. -/
theorem exists_cut (h : c.TablesOk) (hofdm : req.LowOfdm) (hrates : req.mode ≠ .noRates) :
    ∃ above below above' below', Cut c req above below above' below' := by
  by_cases hmode : req.mode = .n
  · exact exists_cut_n h hmode
  · exact exists_cut_legacy h hofdm hmode hrates

end FirstHalf

end Tx
