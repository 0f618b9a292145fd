import RsiDriver.Tx.AutoRate

/-!
# The table of an auto-rate request

The selected rates are those of the mask, the fastest first, and each has its entries in the first
half. The loops only add entries, up to the end of the half that they fill.

## Main results

* `selectedRates_eq`: the selected rates are those of the mask;
* `pad_extendsTo`: the second half is padded with what is written, or with ER-SU;
* `not_autoRateOk`: in N mode the first half lists all rates of HT.
-/

namespace Tx

/-! ## Rates -/

/-- The speed of a code in units of 500 kbps. -/
def rateSpeed (code : BitVec 16) : ℕ :=
  if code.getLsbD 8 then
    let std := (mcsStdRates.getD (code &&& 7).toNat 0).toNat
    if code &&& SGI_BIT ≠ 0 then std * 10 / 9 else std
  else (((stdRates.zip rsiRates).find? (·.2 == code)).map (·.1.toNat)).getD 0

/-- The legacy rates with their bits in a mask, the fastest first. -/
def fastestFirst : List (BitVec 16 × ℕ) :=
  [(0x6c, 11), (0x60, 10), (0x48, 9), (0x30, 8), (0x24, 7), (0x18, 6), (0x16, 3), (0x12, 5),
    (0x0c, 4), (0x0b, 2), (0x04, 1), (0x02, 0)]

/-- The entries of a rate in the first half: 12 Mbps has two in HE. -/
def codesOf (isHe : Bool) (std : BitVec 16) : List (BitVec 16) :=
  let code := rsiRates.getD ((stdRates.findIdx? (· == std)).getD 0) 0
  if isHe = true ∧ code = RSI_RATE_12 then [code, code] else [code]

/-- The same for the entries. -/
def codesFirst (isHe : Bool) : List (BitVec 16 × ℕ) :=
  fastestFirst.flatMap fun r => (codesOf isHe r.1).map (·, r.2)

/-- A check of all entries of a list. -/
theorem forall_mem_of_all {α : Type} {l : List α} {p : α → Prop} [DecidablePred p]
    (h : l.all (fun r => decide (p r)) = true) : ∀ r ∈ l, p r :=
  fun r hr => of_decide_eq_true (List.all_eq_true.1 h r hr)

instance antisymmGe : Std.Antisymm (α := BitVec 16) (· ≥ ·) :=
  ⟨fun _ _ h h' => BitVec.le_antisymm h' h⟩

instance totalGe : Std.Total (α := BitVec 16) (· ≥ ·) := ⟨fun _ _ => BitVec.le_total _ _⟩

instance isTransGe : IsTrans (BitVec 16) (· ≥ ·) := ⟨fun _ _ _ h h' => BitVec.le_trans h' h⟩

/-- The selected rates are those of the mask, the fastest first. -/
theorem AutoRateReq.selectedRates_eq (req : AutoRateReq) :
    req.selectedRates =
      (fastestFirst.filter fun r => req.keptBitmap.getLsbD r.2).map Prod.fst := by
  apply List.Perm.eq_of_pairwise' (r := (· ≥ ·))
  · exact List.pairwise_insertionSort _ _
  · have hsorted : (fastestFirst.map Prod.fst).Pairwise (· ≥ ·) := by decide
    exact hsorted.sublist (List.filter_sublist.map Prod.fst)
  · refine (List.perm_insertionSort _ _).trans ((List.Perm.filter _ ?_).map Prod.fst)
    decide

/-! ## The loops -/

theorem mapRates_of_mem {std : BitVec 16} (h : std ∈ stdRates) (offset : ℕ) :
    mapRates std offset = (true, (stdRates.findIdx? (· == std)).getD 0) := by
  simp only [stdRates, List.mem_cons, List.not_mem_nil, or_false] at h
  rcases h with rfl | rfl | rfl | rfl | rfl | rfl | rfl | rfl | rfl | rfl | rfl | rfl <;> rfl

namespace AutoRateFill

/-- Every rate of the list gets its entries. -/
theorem fillLegacy_eq (isHe : Bool) {rates : List (BitVec 16)} (h : ∀ r ∈ rates, r ∈ stdRates)
    (kk : ℕ) (f : AutoRateFill) :
    f.fillLegacy isHe rates kk =
      ⟨f.supported ++ rates.flatMap (codesOf isHe), f.bitrate ++ rates⟩ := by
  induction rates generalizing kk f with
  | nil => simp [fillLegacy]
  | cons r rates ih =>
    have hmem := fun r' hr' => h r' (List.mem_cons_of_mem r hr')
    simp only [fillLegacy, mapRates_of_mem (h r (List.mem_cons_self ..)), ih hmem,
      List.flatMap_cons, List.append_assoc, codesOf, List.cons_append, List.nil_append]

/-- The padding repeats the last entry. -/
theorem pad_append (count : ℕ) (xs ys : List (BitVec 16)) (a b : BitVec 16) :
    pad count ⟨xs ++ [a], ys ++ [b]⟩ =
      some ⟨xs ++ [a] ++ List.replicate count a, ys ++ [b] ++ List.replicate count b⟩ := by
  induction count generalizing xs ys with
  | zero => simp [pad]
  | succ count ih =>
    simp only [pad, List.getLast?_append, List.getLast?_singleton, Option.some_or,
      Option.bind_eq_bind, Option.bind_some]
    rw [ih (xs ++ [a]) (ys ++ [b])]
    simp [List.replicate_succ]

end AutoRateFill

namespace AggrFill

variable {c : RateConf} {f f' f'' : AggrFill} {len len' : ℕ}

/-- `f'` adds entries to `f`, up to `len`, and passes over none. -/
structure ExtendsTo (f f' : AggrFill) (len : ℕ) : Prop where
  isPrefix : f.supported <+: f'.supported
  length : f'.supported.length = len
  skipped : f'.skipped = f.skipped

theorem ExtendsTo.trans (h : f.ExtendsTo f' len) (h' : f'.ExtendsTo f'' len') :
    f.ExtendsTo f'' len' :=
  ⟨h.isPrefix.trans h'.isPrefix, h'.length, h'.skipped.trans h.skipped⟩

theorem extendsTo_refl (f : AggrFill) : f.ExtendsTo f f.supported.length :=
  ⟨List.prefix_rfl, rfl, rfl⟩

theorem extendsTo_append (f : AggrFill) (rate : BitVec 16) :
    f.ExtendsTo ⟨f.supported ++ [rate], f.skipped⟩ (f.supported.length + 1) :=
  ⟨List.prefix_append _ _, by simp, rfl⟩

theorem fillMcs_extendsTo (c : RateConf) (size k : ℕ) (f : AggrFill) :
    f.ExtendsTo (fillMcs c size k f)
      (max f.supported.length (min size (f.supported.length + k))) := by
  induction k generalizing f with
  | zero =>
    have hlen : max f.supported.length (min size (f.supported.length + 0)) =
        f.supported.length := by omega
    rw [hlen]
    exact f.extendsTo_refl
  | succ k ih =>
    rw [fillMcs]
    split_ifs with hroom
    · have hnext := (f.extendsTo_append (c.mcsrates.getD k 0)).trans (ih _)
      simp only [List.length_append, List.length_singleton] at hnext
      have hlen : max f.supported.length (min size (f.supported.length + (k + 1))) =
          max (f.supported.length + 1) (min size (f.supported.length + 1 + k)) := by omega
      rw [hlen]
      exact hnext
    · have hlen : max f.supported.length (min size (f.supported.length + (k + 1))) =
          f.supported.length := by omega
      rw [hlen]
      exact f.extendsTo_refl

/-- The HE table has an entry for each of the three settings. -/
theorem heEntry_ne_none (h : ¬ (c.enableErSu = true ∧ 2 < c.configErSu)) (k : ℕ) :
    heEntry c k ≠ none := by
  have hsetting : c.enableErSu = true → c.configErSu ≠ 0 →
      c.configErSu = ER_SU_ONLY ∨ c.configErSu = ERSU_HE_MIXED := by
    intro henable hne
    have hle : ¬ 2 < c.configErSu := fun hlt => h ⟨henable, hlt⟩
    have hcases : ∀ x : BitVec 8, x ≠ 0 → ¬ 2 < x → x = ER_SU_ONLY ∨ x = ERSU_HE_MIXED := by decide
    exact hcases _ hne hle
  simp only [heEntry]
  split_ifs with henable honly hmixed <;> first | exact Option.some_ne_none _ | skip
  exact absurd (hsetting henable.1 henable.2) (not_or.2 ⟨honly, hmixed⟩)

theorem fillHe_extendsTo (h : ¬ (c.enableErSu = true ∧ 2 < c.configErSu)) (size k : ℕ)
    (f : AggrFill) :
    f.ExtendsTo (fillHe c size k f)
      (max f.supported.length (min size (f.supported.length + k))) := by
  induction k generalizing f with
  | zero =>
    have hlen : max f.supported.length (min size (f.supported.length + 0)) =
        f.supported.length := by omega
    rw [hlen]
    exact f.extendsTo_refl
  | succ k ih =>
    rw [fillHe]
    split_ifs with hroom
    · obtain ⟨rate, hrate⟩ := Option.ne_none_iff_exists'.1 (heEntry_ne_none h k)
      have hnext := (f.extendsTo_append rate).trans (ih _)
      simp only [List.length_append, List.length_singleton] at hnext
      have hlen : max f.supported.length (min size (f.supported.length + (k + 1))) =
          max (f.supported.length + 1) (min size (f.supported.length + 1 + k)) := by omega
      rw [hlen, hrate]
      exact hnext
    · have hlen : max f.supported.length (min size (f.supported.length + (k + 1))) =
          f.supported.length := by omega
      rw [hlen]
      exact f.extendsTo_refl

/-- The rates of aggregates that there are: those of the table, and one with a short guard
interval. -/
def count (heStation isHt isSgi : Bool) : ℕ × ℕ :=
  if heStation then (9, if isSgi then 1 else 0)
  else if isHt then (8, if isSgi then 1 else 0)
  else (0, 0)

theorem fill_extendsTo {heStation : Bool}
    (h : heStation = true → ¬ (c.enableErSu = true ∧ 2 < c.configErSu)) (isHt isSgi : Bool)
    (size : ℕ) (supported : List (BitVec 16)) :
    (⟨supported, 0⟩ : AggrFill).ExtendsTo (fill c heStation isHt isSgi size supported)
      (max (supported.length + (count heStation isHt isSgi).2)
        (min size (supported.length + (count heStation isHt isSgi).2 +
          (count heStation isHt isSgi).1))) := by
  have hsgi (rate : BitVec 16) :
      (⟨supported, 0⟩ : AggrFill).ExtendsTo ⟨if isSgi then supported ++ [rate] else supported, 0⟩
        (supported.length + if isSgi then 1 else 0) := by
    cases isSgi with
    | false => exact extendsTo_refl ⟨supported, 0⟩
    | true => exact extendsTo_append ⟨supported, 0⟩ rate
  unfold fill count
  cases heStation with
  | true =>
    have hnext := fillHe_extendsTo (h rfl) size 9
      ⟨if isSgi then supported ++ [heSgi c] else supported, 0⟩
    rw [(hsgi _).length] at hnext
    exact (hsgi _).trans hnext
  | false =>
    cases isHt with
    | true =>
      have hnext := fillMcs_extendsTo c size 8
        ⟨if isSgi then supported ++ [c.mcsrates.getD 7 0 ||| SGI_BIT] else supported, 0⟩
      rw [(hsgi _).length] at hnext
      exact (hsgi _).trans hnext
    | false =>
      have hlen : max (supported.length + 0) (min size (supported.length + 0 + 0)) =
          supported.length := by omega
      simp only [Bool.false_eq_true, if_false]
      rw [hlen]
      exact extendsTo_refl ⟨supported, 0⟩

/-- The padding of the second half reads what is written, or nothing. -/
theorem pad_extendsTo {heStation : Bool} {n : ℕ} {last : ℤ} {f : AggrFill}
    (h : n = 0 ∨ (heStation = true ∧ c.enableErSu = true ∧ c.configErSu = ER_SU_ONLY) ∨
      0 ≤ last ∧ last < f.supported.length) :
    ∃ f', pad c heStation n last f = some f' ∧ f.ExtendsTo f' (f.supported.length + n) := by
  induction n generalizing last f with
  | zero => exact ⟨f, rfl, f.extendsTo_refl⟩
  | succ n ih =>
    rw [pad]
    split_ifs with honly hread
    · obtain ⟨f', hpad, hext⟩ := @ih last
        ⟨f.supported ++ [0x400 ||| c.rateFieldParams ||| ENABLE_ER_SU], f.skipped⟩
        (Or.inr (Or.inl honly))
      refine ⟨f', hpad, ?_⟩
      have hext := (f.extendsTo_append _).trans hext
      simp only [List.length_append, List.length_singleton] at hext
      rw [Nat.add_comm n 1, ← Nat.add_assoc]
      exact hext
    · have hlast : last.toNat < f.supported.length := by
        rcases h with h | h | h
        · omega
        · exact absurd h honly
        · omega
      rw [List.getElem?_eq_getElem hlast, Option.bind_eq_bind, Option.bind_some]
      obtain ⟨f', hpad, hext⟩ := @ih (last + 1)
        ⟨f.supported ++ [f.supported[last.toNat]], f.skipped⟩
        (Or.inr (Or.inr ⟨by omega, by rw [List.length_append, List.length_singleton]; omega⟩))
      refine ⟨f', hpad, ?_⟩
      have hext := (f.extendsTo_append _).trans hext
      simp only [List.length_append, List.length_singleton] at hext
      rw [Nat.add_comm n 1, ← Nat.add_assoc]
      exact hext
    · rcases h with h | h | h
      · omega
      · exact absurd h honly
      · exact absurd h.1 hread

end AggrFill

/-! ## What a table should be -/

/-- The rates of the mask. -/
def AutoRateReq.maskRates (req : AutoRateReq) : List (BitVec 16) :=
  (rsiRates.zipIdx.filter fun r => req.rateBitmap.getLsbD r.2).map Prod.fst

/-- The mode by all rates of the mask. -/
def AutoRateReq.maskMode (req : AutoRateReq) : RateMode :=
  if req.rateBitmap &&& 0xff0 ≠ 0 ∧ req.rateBitmap &&& 0xf ≠ 0 then
    if req.isHt then .bgn else .bg
  else if req.rateBitmap &&& 0xff0 ≠ 0 then if req.isHt then .gn else .g
  else if req.rateBitmap &&& 0xf ≠ 0 then .b
  else if req.isHt then .n
  else .noRates

/-- The moderate rate in units of 500 kbps. -/
def AutoRateReq.moderateSpeed (req : AutoRateReq) : ℕ :=
  if req.mode = .n then rateSpeed req.moderateRate else req.moderateRate.toNat

/-- The two rates of HT in front. -/
def RateConf.topRates (c : RateConf) (req : AutoRateReq) : List (BitVec 16) :=
  if req.isHt then
    (if req.isSgi then [c.mcsrates.getD 7 0 ||| SGI_BIT] else []) ++ [c.mcsrates.getD 7 0]
  else []

/-- The rates that the first half lists, the fastest first. -/
def RateConf.listedRates (c : RateConf) (req : AutoRateReq) : List (BitVec 16) :=
  c.topRates req ++
    if req.mode = .n then (c.mcsrates.take 7).reverse
    else ((codesFirst c.ax11Enabled).filter fun r => req.keptBitmap.getLsbD r.2).map Prod.fst

/-- Entry `i` is the fastest one that is not above `moderate`, or the last one. -/
def IsModerate (speeds : List ℕ) (moderate i : ℕ) : Prop :=
  ∃ v, speeds[i]? = some v ∧
    (v ≤ moderate ∧ (∀ w ∈ speeds, w ≤ moderate → w ≤ v) ∨
      i + 1 = speeds.length ∧ ∀ w ∈ speeds, moderate < w)

/-- The table `r` is well formed. `allowed` are the rates that the first half may list. -/
structure AutoRateOk (c : RateConf) (req : AutoRateReq) (allowed : BitVec 16 → Prop)
    (r : AutoRate) : Prop where
  inside : r.supportedRates.length ≤ 40 ∧ req.selectedRates.length ≤ 40 ∧ r.bitrates ≤ 20
  filled : r.supportedRates.length = 2 * c.tableSz req ∧ r.skipped = 0 ∧
    r.numSupportedRates.toNat = 2 * c.tableSz req
  mode : req.mode = req.maskMode
  moderate : r.moderateRateInx.toNat < c.tableSz req ∧
    IsModerate ((r.supportedRates.take (c.tableSz req)).map rateSpeed) req.moderateSpeed
      r.moderateRateInx.toNat
  rates : ∀ rate ∈ r.supportedRates.take (c.tableSz req), allowed rate
  order : ((r.supportedRates.take (c.tableSz req)).map rateSpeed).Pairwise (· ≥ ·)
  padded : ∃ n, r.supportedRates.take (c.tableSz req) =
    (c.listedRates req).take (c.tableSz req) ++
      List.replicate n ((c.listedRates req).getLastD 0)

/-- The rates of the mask and, with HT, the fastest MCS. -/
def AutoRateReq.MaskOrTop (req : AutoRateReq) (rate : BitVec 16) : Prop :=
  rate ∈ req.maskRates ∨ req.isHt = true ∧ (rate = 0x107 ∨ rate = 0x107 ||| SGI_BIT)

/-- The same, and in N mode all rates of the MCS table. -/
def AutoRateReq.Listed (c : RateConf) (req : AutoRateReq) (rate : BitVec 16) : Prop :=
  req.MaskOrTop rate ∨ req.mode = .n ∧ rate ∈ c.mcsrates

/-! ## N mode -/

/-- A station in HT, and a mask without legacy rates. -/
def sampleNReq : AutoRateReq where
  station := true
  band5GHz := false
  bitrateMask := 0
  vifHt := true
  vifSgi := true
  suppRates := 0
  htSupported := true
  htCap := 0x20
  featureBitmap9116 := 0
  bw40 := false
  countryJp := false
  curChannel := 1
  staId := 0

/-- The first half lists all rates of HT. -/
theorem not_autoRateOk : ¬ ∀ (c : RateConf) (req : AutoRateReq), RateConf.system.Reachable c →
    ∃ r, c.sendAutoRateRequest req = some r ∧
      AutoRateOk (c.forAutoRate req) req req.MaskOrTop r := by
  intro hall
  obtain ⟨r, hsent, hok⟩ := hall .unset sampleNReq (.init rfl)
  have hmcs6 : 0x106 ∈ r.supportedRates.take 9 := by
    obtain rfl := Option.some.inj (hsent.symm.trans rfl)
    decide
  have hallowed : sampleNReq.MaskOrTop 0x106 := hok.rates 0x106 hmcs6
  exact absurd hallowed (by unfold AutoRateReq.MaskOrTop; decide)

end Tx
