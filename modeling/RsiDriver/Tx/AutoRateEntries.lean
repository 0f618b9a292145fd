import Mathlib.Algebra.GroupWithZero.Nat
import Mathlib.Data.List.GetD
import RsiDriver.Tx.AutoRateModes

/-!
# The entries of an auto-rate table

The padding of the second half starts at the entry before the last rate, which is in front of the
table if there is one rate only; and the rate of the station is read in front of it if there is
none. With two rates, or with rates enough for aggregates, the whole table is written.

## Main results

* `Cut.isModerate`: the index is that of the fastest entry that is not above the moderate rate;
* `autoRateOk_of_listed`: the table is well formed if a mask with a rate from 24 Mbps on has an OFDM
  rate below, and there are rates enough to pad with.
-/

namespace Tx

section Table

variable {c : RateConf} {req : AutoRateReq}

/-! ## The moderate index -/

/-- The search stops at the first rate that is not above the moderate one. -/
theorem evaluateModerateRateindex_eq {xs ys : List (BitVec 16)} {m : BitVec 16} {size : ℕ}
    (hfast : ∀ r ∈ xs, m < r) (hslow : ys.headD 0 ≤ m) (hsize : xs.length < size) :
    evaluateModerateRateindex (xs ++ ys) m size = BitVec.ofNat 32 xs.length := by
  have hfind : (List.range size).find? (fun i => (xs ++ ys).getD i 0 ≤ m) = some xs.length := by
    refine List.find?_range_eq_some.2 ⟨?_, List.mem_range.2 hsize, fun j hj => ?_⟩
    · rw [List.getD_append_right _ _ _ _ (Nat.le_refl _), Nat.sub_self]
      cases ys with
      | nil => exact decide_eq_true hslow
      | cons y ys => exact decide_eq_true hslow
    · rw [List.getD_append _ _ _ _ hj, List.getD_eq_getElem _ _ hj]
      have hlt := hfast _ (List.getElem_mem hj)
      simpa using hlt
  rw [evaluateModerateRateindex, hfind]

/-- Without such a rate the index is that of the last entry. -/
theorem evaluateModerateRateindex_last {xs : List (BitVec 16)} {m : BitVec 16}
    (hfast : ∀ r ∈ xs, m < r) :
    evaluateModerateRateindex xs m xs.length = BitVec.ofNat 32 xs.length - 1 := by
  have hfind : (List.range xs.length).find? (fun i => xs.getD i 0 ≤ m) = none := by
    refine List.find?_range_eq_none.2 fun j hj => ?_
    rw [List.getD_eq_getElem _ _ hj]
    have hlt := hfast _ (List.getElem_mem hj)
    simpa using hlt
  rw [evaluateModerateRateindex, hfind]

theorem isModerate_of_cut {above below : List (BitVec 16)} {b last : BitVec 16} {n size m : ℕ}
    (hfast : ∀ r ∈ above, m < rateSpeed r) (hslow : rateSpeed b ≤ m)
    (hsorted : ∀ r ∈ below, rateSpeed r ≤ rateSpeed b) (hlast : last ∈ above ++ b :: below)
    (hsize : above.length < size) :
    IsModerate (((above ++ b :: below).take size ++ List.replicate n last).map rateSpeed) m
      above.length := by
  refine ⟨rateSpeed b, ?_, Or.inl ⟨hslow, ?_⟩⟩
  · rw [List.getElem?_map, List.getElem?_append_left (by simp; omega),
      List.getElem?_take_of_lt hsize, List.getElem?_append_right (Nat.le_refl _), Nat.sub_self]
    rfl
  · intro w hw hle
    obtain ⟨r, hr, rfl⟩ := List.mem_map.1 hw
    have hmem : r ∈ above ++ b :: below := by
      rcases List.mem_append.1 hr with hr | hr
      · exact List.mem_of_mem_take hr
      · rw [List.eq_of_mem_replicate hr]
        exact hlast
    rcases List.mem_append.1 hmem with hr | hr
    · exact absurd (hfast r hr) (Nat.not_lt.2 hle)
    · rcases List.mem_cons.1 hr with rfl | hr
      · exact Nat.le_refl _
      · exact hsorted r hr

theorem isModerate_last {xs : List (BitVec 16)} {m : ℕ} (hfast : ∀ r ∈ xs, m < rateSpeed r)
    (hpos : 0 < xs.length) : IsModerate (xs.map rateSpeed) m (xs.length - 1) := by
  have hlt : xs.length - 1 < xs.length := by omega
  refine ⟨rateSpeed xs[xs.length - 1], ?_, Or.inr ⟨?_, ?_⟩⟩
  · rw [List.getElem?_map, List.getElem?_eq_getElem hlt]
    rfl
  · rw [List.length_map]
    omega
  · intro w hw
    obtain ⟨r, hr, rfl⟩ := List.mem_map.1 hw
    exact hfast r hr

/-- The entries of a list and what it is padded with. -/
theorem forall_mem_append_replicate {p : BitVec 16 → Prop} {xs : List (BitVec 16)} {x : BitVec 16}
    (hxs : ∀ r ∈ xs, p r) (hx : p x) (n : ℕ) : ∀ r ∈ xs ++ List.replicate n x, p r := by
  intro r hr
  rcases List.mem_append.1 hr with hr | hr
  · exact hxs r hr
  · rw [List.eq_of_mem_replicate hr]
    exact hx

section Cut

variable {above below above' below' init init' : List (BitVec 16)} {last last' b : BitVec 16}
  {n : ℕ}

/-- If all listed rates are above the moderate one, its index is the last. -/
theorem Cut.index_of_nil (h : Cut c req above [] above' below')
    (hlast' : c.listedBitrates req = init' ++ [last'])
    (hn : n = c.tableSz req - (c.listedRates req).length) (hsize : c.tableSz req < 2 ^ 16) :
    evaluateModerateRateindex (c.listedBitrates req ++ List.replicate n last') req.moderateRate
      (c.tableSz req) = BitVec.ofNat 32 (c.tableSz req - 1) := by
  have hroom := h.room
  have hbelow' : below' = [] := List.length_eq_zero_iff.1 (Nat.le_zero.1 h.shorter)
  have hlisted := h.listed
  have hbitrates := h.bitrates
  rw [List.append_nil] at hlisted
  rw [hbelow', List.append_nil] at hbitrates
  have hlength : (above' ++ List.replicate n last').length = c.tableSz req := by
    rw [List.length_append, List.length_replicate, h.length, hn, hlisted]
    omega
  have hmem' : last' ∈ above' := by
    rw [← hbitrates, hlast']
    exact List.mem_append_right _ (List.mem_singleton_self _)
  rw [hbitrates, ← hlength, evaluateModerateRateindex_last]
  · rw [hlength]
    refine BitVec.eq_of_toNat_eq ?_
    have hone : (1 : BitVec 32).toNat = 1 := rfl
    simp only [BitVec.toNat_sub, BitVec.toNat_ofNat, hone]
    omega
  · exact forall_mem_append_replicate h.fast' (h.fast' _ hmem') n

/-- Otherwise it is that of the first rate which is not. -/
theorem Cut.index_of_cons (h : Cut c req above (b :: below) above' below') :
    evaluateModerateRateindex (c.listedBitrates req ++ List.replicate n last') req.moderateRate
      (c.tableSz req) = BitVec.ofNat 32 above.length := by
  have hbelow' : below' ≠ [] := fun hnil => List.cons_ne_nil _ _ (h.nil hnil)
  obtain ⟨b', bs', hcons⟩ := List.exists_cons_of_ne_nil hbelow'
  rw [h.bitrates, List.append_assoc, ← h.length]
  refine evaluateModerateRateindex_eq h.fast' ?_ (by rw [h.length]; exact h.room)
  rw [hcons]
  exact h.slow' b' (by rw [hcons]; exact List.mem_cons_self ..)

end Cut

/-- The index of a padded table is inside, and that of the moderate entry. -/
theorem Cut.isModerate {above below above' below' : List (BitVec 16)}
    (h : Cut c req above below above' below') (init init' : List (BitVec 16))
    {last last' : BitVec 16}
    (hlast : c.listedRates req = init ++ [last]) (hlast' : c.listedBitrates req = init' ++ [last'])
    (n : ℕ) (hn : n = c.tableSz req - (c.listedRates req).length) (hsize : c.tableSz req < 2 ^ 16) :
    ((evaluateModerateRateindex (c.listedBitrates req ++ List.replicate n last') req.moderateRate
      (c.tableSz req)).setWidth 16).toNat < c.tableSz req ∧
    IsModerate (((c.listedRates req).take (c.tableSz req) ++ List.replicate n last).map rateSpeed)
      req.moderateSpeed
      ((evaluateModerateRateindex (c.listedBitrates req ++ List.replicate n last') req.moderateRate
        (c.tableSz req)).setWidth 16).toNat := by
  have hroom := h.room
  have htoNat {k : ℕ} (hk : k < c.tableSz req) : ((BitVec.ofNat 32 k).setWidth 16).toNat = k := by
    simp only [BitVec.toNat_setWidth, BitVec.toNat_ofNat]
    omega
  have hmem : last ∈ c.listedRates req := by
    rw [hlast]
    exact List.mem_append_right _ (List.mem_singleton_self _)
  cases below with
  | nil =>
    rw [h.index_of_nil hlast' hn hsize, htoNat (by omega)]
    have hfast : ∀ r ∈ c.listedRates req, req.moderateSpeed < rateSpeed r := by
      rw [h.listed, List.append_nil]
      exact h.fast
    have hall := forall_mem_append_replicate
      (fun r hr => hfast r (List.mem_of_mem_take (i := c.tableSz req) hr)) (hfast last hmem) n
    have hlength : ((c.listedRates req).take (c.tableSz req) ++ List.replicate n last).length =
        c.tableSz req := by
      rw [List.length_append, List.length_take, List.length_replicate, hn]
      omega
    refine ⟨by omega, ?_⟩
    have hmoderate := isModerate_last hall (by omega)
    rw [hlength] at hmoderate
    exact hmoderate
  | cons b bs =>
    have hsorted := h.sorted
    rw [List.map_append, List.map_cons, List.pairwise_append, List.pairwise_cons] at hsorted
    rw [h.index_of_cons, htoNat hroom]
    rw [h.listed] at hmem ⊢
    exact ⟨hroom, isModerate_of_cut h.fast (h.slow b List.mem_cons_self)
      (fun r hr => hsorted.2.1.1 _ (List.mem_map_of_mem hr)) hmem hroom⟩

/-! ## The whole table -/

/-- There is a rate for the padding of the second half to start from, or nothing to pad with the
rates of the first half. -/
def RateConf.EnoughRates (c : RateConf) (req : AutoRateReq) : Prop :=
  1 < (c.listedRates req).length ∨
    (c.listedRates req).length = 1 ∧
      ((c.ax11Enabled && req.station) = true ∧ c.enableErSu = true ∧ c.configErSu = ER_SU_ONLY ∨
        c.tableSz req ≤ (AggrFill.count (c.ax11Enabled && req.station) req.isHt req.isSgi).1 +
          (AggrFill.count (c.ax11Enabled && req.station) req.isHt req.isSgi).2)

/-- Without rates there is nothing to list. -/
theorem listedRates_eq_nil (hofdm : req.LowOfdm) (hrates : req.mode = .noRates) :
    c.listedRates req = [] := by
  have hmode : req.mode ≠ .n := by
    rw [hrates]
    exact RateMode.noConfusion
  have hht : req.isHt = false := by
    have hspec := @mode_spec req
    rw [hrates] at hspec
    exact hspec.2.2
  have hbits : req.modeBits = [] := by
    unfold AutoRateReq.modeBits
    rw [hrates]
  have htop : c.topRates req = [] := by
    rw [RateConf.topRates, hht]
    rfl
  rw [listedRates_eq hmode, htop, ← keptOf_filter hofdm (codesFirst_bits _), hbits]
  simp [keptOf]

/-- A listed rate is one of the mask, or the fastest MCS, or, in N mode, any MCS. -/
theorem listed_of_mem (h : c.TablesOk) {r : BitVec 16} (hr : r ∈ c.listedRates req) :
    req.Listed c r := by
  by_cases hmode : req.mode = .n
  · rw [RateConf.listedRates, if_pos hmode] at hr
    rcases List.mem_append.1 hr with hr | hr
    · exact Or.inl (Or.inr (mem_topRates h hr))
    · exact Or.inr ⟨hmode, List.mem_of_mem_take (List.mem_reverse.1 hr)⟩
  · rw [listedRates_eq hmode] at hr
    rcases List.mem_append.1 hr with hr | hr
    · exact Or.inl (Or.inr (mem_topRates h hr))
    · obtain ⟨i, hmem, hkept⟩ := mem_keptOf hr
      have hentry : ∀ r ∈ codesFirst c.ax11Enabled, rsiRates[r.2]? = some r.1 :=
        forall_mem_of_all (by cases c.ax11Enabled <;> decide)
      have hzip : (r, i) ∈ rsiRates.zipIdx := List.mk_mem_zipIdx_iff_getElem?.2 (hentry _ hmem)
      refine Or.inl (Or.inl (List.mem_map.2 ⟨(r, i), List.mem_filter.2 ⟨hzip, ?_⟩, rfl⟩))
      exact (rateBitmap_of_kept hkept).1

theorem tableSz_le : c.tableSz req ≤ 12 := by
  unfold RateConf.tableSz
  cases req.mode <;> cases c.ax11Enabled <;> decide

theorem le_tableSz (hrates : req.mode ≠ .noRates) : 4 ≤ c.tableSz req := by
  unfold RateConf.tableSz
  cases hmode : req.mode <;> first | exact absurd hmode hrates | skip
  all_goals exact Nat.le_add_right_of_le (by decide)

theorem length_selectedRates : req.selectedRates.length ≤ 12 := by
  rw [req.selectedRates_eq, List.length_map]
  exact List.length_filter_le ..

/-- The second half is filled, and padded if there are rates enough. -/
theorem exists_aggr (hersu : ¬ ((c.ax11Enabled && req.station) = true ∧ c.enableErSu = true ∧
      2 < c.configErSu))
    (henough : c.EnoughRates req) {supported : List (BitVec 16)}
    (hsupported : supported.length = max (c.tableSz req) (c.listedRates req).length)
    (hroom : supported.length + 1 ≤ 2 * c.tableSz req) :
    ∃ f, (AggrFill.fill c (c.ax11Enabled && req.station) req.isHt req.isSgi (2 * c.tableSz req)
        supported).pad c (c.ax11Enabled && req.station)
        (2 * c.tableSz req - (AggrFill.fill c (c.ax11Enabled && req.station) req.isHt req.isSgi
          (2 * c.tableSz req) supported).supported.length)
        ((c.listedRates req).length - 1 - 1) = some f ∧
      supported <+: f.supported ∧ f.supported.length = 2 * c.tableSz req ∧ f.skipped = 0 := by
  obtain ⟨hpre, hlength, hskipped⟩ : (⟨supported, 0⟩ : AggrFill).ExtendsTo _ _ :=
    AggrFill.fill_extendsTo (fun hhe herr => hersu ⟨hhe, herr⟩) req.isHt req.isSgi
      (2 * c.tableSz req) supported
  have hsgi : (AggrFill.count (c.ax11Enabled && req.station) req.isHt req.isSgi).2 ≤ 1 := by
    unfold AggrFill.count
    split_ifs <;> decide
  have hsize := hlength
  rw [hsupported] at hsize
  dsimp only at hlength hpre
  have hstart : 2 * c.tableSz req - (AggrFill.fill c (c.ax11Enabled && req.station) req.isHt
        req.isSgi (2 * c.tableSz req) supported).supported.length = 0 ∨
      ((c.ax11Enabled && req.station) = true ∧ c.enableErSu = true ∧ c.configErSu = ER_SU_ONLY) ∨
      0 ≤ ((c.listedRates req).length - 1 - 1 : ℤ) ∧
        ((c.listedRates req).length - 1 - 1 : ℤ) < (AggrFill.fill c (c.ax11Enabled && req.station)
          req.isHt req.isSgi (2 * c.tableSz req) supported).supported.length := by
    rcases henough with hmany | ⟨hone, honly | hfull⟩
    · exact Or.inr (Or.inr ⟨by omega, by omega⟩)
    · exact Or.inr (Or.inl honly)
    · exact Or.inl (by omega)
  obtain ⟨f, hpad, hpre', hlength', hskipped'⟩ := AggrFill.pad_extendsTo hstart
  refine ⟨f, hpad, hpre.trans hpre', ?_, hskipped'.trans hskipped⟩
  omega

/-- A sorted list stays sorted if its last entry is repeated, wherever it is cut. -/
theorem sorted_padded {init : List (BitVec 16)} {last : BitVec 16}
    (h : ((init ++ [last]).map rateSpeed).Pairwise (· ≥ ·)) (size n : ℕ) :
    (((init ++ [last]).take size ++ List.replicate n last).map rateSpeed).Pairwise (· ≥ ·) := by
  rw [List.map_append, List.pairwise_append]
  refine ⟨h.sublist ((List.take_sublist ..).map _), ?_, ?_⟩
  · rw [List.map_replicate, List.pairwise_replicate]
    exact Or.inr (Nat.le_refl _)
  · intro v hv w hw
    obtain ⟨r, hr, rfl⟩ := List.mem_map.1 hv
    obtain ⟨r', hr', rfl⟩ := List.mem_map.1 hw
    rw [List.eq_of_mem_replicate hr']
    rw [List.map_append, List.pairwise_append] at h
    rcases List.mem_append.1 (List.mem_of_mem_take hr) with hr | hr
    · exact h.2.2 _ (List.mem_map_of_mem hr) _ (List.mem_singleton_self _)
    · exact Nat.le_of_eq (congrArg rateSpeed (List.mem_singleton.1 hr).symm)

/-- What is sent, if both halves are padded. -/
theorem autoRateFrame_eq (h : c.TablesOk) {init init' : List (BitVec 16)} {last last' : BitVec 16}
    (hlast : c.listedRates req = init ++ [last]) (hlast' : c.listedBitrates req = init' ++ [last'])
    {n : ℕ} (hn : n = c.tableSz req - (c.listedRates req).length) {f : AggrFill}
    (haggr : (AggrFill.fill c (c.ax11Enabled && req.station) req.isHt req.isSgi (2 * c.tableSz req)
        (c.listedRates req ++ List.replicate n last)).pad c (c.ax11Enabled && req.station)
        (2 * c.tableSz req - (AggrFill.fill c (c.ax11Enabled && req.station) req.isHt req.isSgi
          (2 * c.tableSz req) (c.listedRates req ++ List.replicate n last)).supported.length)
        ((c.listedRates req).length - 1 - 1) = some f) :
    ∃ r, c.autoRateFrame req = some r ∧ r.supportedRates = f.supported ∧ r.skipped = f.skipped ∧
      r.numSupportedRates = BitVec.ofNat 16 (2 * c.tableSz req) ∧
      r.moderateRateInx = (evaluateModerateRateindex
        (c.listedBitrates req ++ List.replicate n last') req.moderateRate
        (c.tableSz req)).setWidth 16 ∧
      r.bitrates = (c.listedBitrates req).length + n := by
  have hpad : (AutoRateFill.mk (c.listedRates req) (c.listedBitrates req)).pad
      (c.tableSz req - (c.listedRates req).length) =
        some ⟨c.listedRates req ++ List.replicate n last,
          c.listedBitrates req ++ List.replicate n last'⟩ := by
    rw [← hn, hlast, hlast', AutoRateFill.pad_append]
  have hmin : 0 ≤ ((c.listedRates req).length - 1 : ℤ) := by
    rw [hlast, List.length_append, List.length_singleton]
    omega
  have hread : (c.listedRates req ++ List.replicate n last)[
      ((c.listedRates req).length - 1 : ℤ).toNat]? = some last := by
    have hindex : ((c.listedRates req).length - 1 : ℤ).toNat = init.length := by
      rw [hlast, List.length_append, List.length_singleton]
      omega
    rw [hindex, hlast, List.append_assoc, List.getElem?_append_right (Nat.le_refl _), Nat.sub_self]
    rfl
  unfold RateConf.autoRateFrame
  simp only [firstRates_eq h, hpad, if_pos hmin, hread, haggr, Option.bind_eq_bind,
    Option.bind_some]
  exact ⟨_, rfl, rfl, rfl, rfl, rfl, by rw [List.length_append, List.length_replicate]⟩

/-- The table is well formed in every configuration that the driver reaches, if a mask with a rate
from 24 Mbps on has an OFDM rate below, and there are rates enough to pad with. -/
theorem autoRateOk_of_tablesOk (h : c.TablesOk) (hofdm : req.LowOfdm)
    (hersu : ¬ ((c.ax11Enabled && req.station) = true ∧ c.enableErSu = true ∧ 2 < c.configErSu))
    (henough : c.EnoughRates req) :
    ∃ r, c.autoRateFrame req = some r ∧ AutoRateOk c req (req.Listed c) r := by
  have hrates : req.mode ≠ .noRates := by
    intro hmode
    have hlength := henough
    rw [RateConf.EnoughRates, listedRates_eq_nil hofdm hmode] at hlength
    rcases hlength with h | ⟨h, -⟩ <;> exact absurd h (by decide)
  obtain ⟨above, below, above', below', hcut⟩ := exists_cut h hofdm hrates
  have hpos : c.listedRates req ≠ [] := by
    intro hnil
    rw [RateConf.EnoughRates, hnil] at henough
    rcases henough with h | ⟨h, -⟩ <;> exact absurd h (by decide)
  have hpos' : c.listedBitrates req ≠ [] := by
    intro hnil
    rw [hcut.bitrates, List.append_eq_nil_iff] at hnil
    have habove : above = [] := List.length_eq_zero_iff.1 (by rw [← hcut.length, hnil.1]; rfl)
    have hbelow := hcut.nil hnil.2
    exact hpos (by rw [hcut.listed, habove, hbelow]; rfl)
  obtain ⟨init, last, hlast⟩ := List.eq_nil_or_concat (c.listedRates req) |>.resolve_left hpos
  obtain ⟨init', last', hlast'⟩ :=
    List.eq_nil_or_concat (c.listedBitrates req) |>.resolve_left hpos'
  rw [List.concat_eq_append] at hlast hlast'
  have hsmall : c.tableSz req ≤ 12 := tableSz_le
  have hlarge := le_tableSz (c := c) hrates
  have hfits := hcut.fits
  rw [← List.length_append, ← hcut.listed] at hfits
  obtain ⟨n, hn⟩ : ∃ n, n = c.tableSz req - (c.listedRates req).length := ⟨_, rfl⟩
  have hsupported : (c.listedRates req ++ List.replicate n last).length =
      max (c.tableSz req) (c.listedRates req).length := by
    rw [List.length_append, List.length_replicate]
    omega
  obtain ⟨f, haggr, hpre, hlength, hskipped⟩ :=
    exists_aggr hersu henough hsupported (by omega)
  obtain ⟨r, hframe, hr, hrskipped, hrnum, hrmoderate, hrbitrates⟩ :=
    autoRateFrame_eq h hlast hlast' hn haggr
  have htake : r.supportedRates.take (c.tableSz req) =
      (c.listedRates req).take (c.tableSz req) ++ List.replicate n last := by
    obtain ⟨rest, hrest⟩ := hpre
    rw [hr, ← hrest, List.take_append_of_le_length (by omega), List.take_append]
    rw [List.take_of_length_le (l := List.replicate n last) (by rw [List.length_replicate]; omega)]
  have hmem : ∀ rate ∈ r.supportedRates.take (c.tableSz req), rate ∈ c.listedRates req := by
    intro rate hrate
    rw [htake] at hrate
    rcases List.mem_append.1 hrate with hrate | hrate
    · exact List.mem_of_mem_take hrate
    · rw [List.eq_of_mem_replicate hrate, hlast]
      exact List.mem_append_right _ (List.mem_singleton_self _)
  have hbitrates : (c.listedBitrates req).length ≤ (c.listedRates req).length := by
    have hshorter := hcut.shorter
    rw [hcut.bitrates, hcut.listed, List.length_append, List.length_append, hcut.length]
    omega
  refine ⟨r, hframe, ?inside, ?filled, mode_eq_maskMode hofdm, ?moderate,
    fun rate hrate => listed_of_mem h (hmem rate hrate), ?order, ⟨n, ?padded⟩⟩
  case inside =>
    have hselected := @length_selectedRates req
    rw [hr, hlength, hrbitrates]
    refine ⟨?_, ?_, ?_⟩ <;> omega
  case filled =>
    rw [hr, hrskipped, hrnum, BitVec.toNat_ofNat]
    refine ⟨hlength, hskipped, ?_⟩
    omega
  case moderate =>
    rw [htake, hrmoderate]
    exact hcut.isModerate init init' hlast hlast' n hn (by omega)
  case order =>
    have hsorted := hcut.sorted
    rw [← hcut.listed, hlast] at hsorted
    rw [htake, hlast]
    exact sorted_padded hsorted _ _
  case padded =>
    have hlastD : (c.listedRates req).getLastD 0 = last := by
      rw [hlast, List.getLastD_concat]
    rw [htake, hlastD]

/-- The table of a request is well formed, if a mask with a rate from 24 Mbps on has an OFDM rate
below, and there are rates enough to pad with. -/
theorem autoRateOk_of_listed (c : RateConf) (req : AutoRateReq) (hc : RateConf.system.Reachable c)
    (hofdm : req.LowOfdm)
    (hersu : ¬ ((c.ax11Enabled && req.station) = true ∧ c.enableErSu = true ∧ 2 < c.configErSu))
    (henough : (c.forAutoRate req).EnoughRates req) :
    ∃ r, c.sendAutoRateRequest req = some r ∧
      AutoRateOk (c.forAutoRate req) req (req.Listed (c.forAutoRate req)) r := by
  have htables := RateConf.tablesOk_of_reachable hc
  refine autoRateOk_of_tablesOk (htables.forAutoRate req) hofdm ?_ henough
  unfold RateConf.forAutoRate
  split_ifs
  · exact hersu
  · exact hersu

end Table

/-- A station in HT, and a mask with all rates. -/
def sampleBgnReq : AutoRateReq :=
  { sampleNReq with bitrateMask := 0xfff }

theorem autoRateOk_sampleBgnReq :
    ∃ r, RateConf.unset.sendAutoRateRequest sampleBgnReq = some r ∧
      AutoRateOk (RateConf.unset.forAutoRate sampleBgnReq) sampleBgnReq
        (sampleBgnReq.Listed (RateConf.unset.forAutoRate sampleBgnReq)) r :=
  autoRateOk_of_listed .unset sampleBgnReq (.init rfl) (by decide) (by decide)
    (Or.inl (by decide))

end Tx
