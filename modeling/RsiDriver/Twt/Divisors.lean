import Mathlib.Algebra.Order.Ring.Int
import RsiDriver.Twt.Exact

/-!
# Target wake time: divisors and percentages

The kernel stops on a division by zero, and the operands of the TWT computations come from user
space and from the access point. The divisors that a computation comes to are listed here, with the
terms of its percentages, which are differences and products of unsigned numbers.

Three divisors can be zero: the throughput of the device and the required wake duration, which are
what the user gives, and the intervals in ms, which are rounded down from microseconds. One
percentage can wrap: 100 less the tolerable deviation.

## Main results

* `useCaseBasedTwtParamsConfiguration_eq_none_iff`, `doesTwtResponseMatch_eq_none_iff`: the lists
  hold the divisors on which the functions stop;
* `arithmetic_ok_iff`: which configurations and responses are computed without a division by zero
  and without a wrap.
-/

namespace Twt

/-- The divisors that a computation comes to, and the terms of its percentages: each as it is
computed in 64 bits, and as it is meant. -/
structure Arithmetic where
  divisors : List (BitVec 64)
  terms : List (BitVec 64 × ℤ)

/-- No divisor is zero, and no term of a percentage wraps. -/
structure Arithmetic.Ok (arith : Arithmetic) : Prop where
  divisors : ∀ d ∈ arith.divisors, d ≠ 0
  terms : ∀ t ∈ arith.terms, (t.1.toNat : ℤ) = t.2

/-- A percentage of `n`: the factor and the product. -/
def percentTerms (n factor : BitVec 64) (percent : ℤ) : List (BitVec 64 × ℤ) :=
  [(factor, percent), (n * factor, n.toNat * percent)]

namespace TwtSelection

/-- `use_case_based_twt_params_configuration`, with `calculate_min_required_wake_dur`. -/
def configArithmetic (user : TwtSelection) (cfg : TwtConfig) : Arithmetic :=
  let maxAllowed := user.maxAllowedWakeInterval
  let device := user.deviceAvgThroughput.setWidth 64
  match user.calculateMinRequiredWakeDur maxAllowed with
  | none => ⟨[device], []⟩
  | some minWakeDuration =>
    let terms := percentTerms
      (user.expectedTxThroughput.setWidth 64 * maxAllowed.setWidth 64 / device)
      (100 + user.estimatedExtraWakeDurationPercent.setWidth 64)
      (100 + user.estimatedExtraWakeDurationPercent.toNat)
    if minWakeDuration > (maxAllowed >>> 1).setWidth 64 then ⟨[device], terms⟩
    else
      let perSp := (user.wakeDurationPerSp cfg minWakeDuration).1
      match numTwtServicePeriods minWakeDuration perSp with
      | none => ⟨[device, perSp.setWidth 64], terms⟩
      | some periods => ⟨[device, perSp.setWidth 64, periods.setWidth 64], terms⟩

/-- `does_twt_response_match_user_requirement`. The last percentage is listed also where the
comparison before it decides. -/
def matchArithmetic (user : TwtSelection) (cfg : TwtConfig) (el : TwtElement) : Arithmetic :=
  if el.reqTypeFlowType ≠ 0 then ⟨[], []⟩
  else
    let respTwtWi := el.wakeInterval >>> 10
    let respWakeDuration := (el.nomMinWakeDuration.setWidth 32 <<<
      if el.controlWakeDurationUnit ≠ 0 then 10 else 8) >>> 10
    let reqTwtWi := cfg.wakeInterval >>> 10
    let reqWakeDuration := (cfg.wakeDuration.setWidth 32 <<<
      if cfg.twtWakeDurationUnit ≠ 0 then 10 else 8) >>> 10
    let maxTwtWi := user.maxAllowedWakeInterval.setWidth 64
    let deviation := user.twtTolerableDeviation
    let percentAbove := 100 + deviation.setWidth 64
    let terms := percentTerms maxTwtWi percentAbove (100 + deviation.toNat)
    if respTwtWi > maxTwtWi * percentAbove / 100 ∨
        respWakeDuration.setWidth 64 > respTwtWi >>> 1 then ⟨[], terms⟩
    else if respTwtWi = 0 then ⟨[respTwtWi], terms⟩
    else if reqTwtWi = 0 then ⟨[respTwtWi, reqTwtWi], terms⟩
    else
      let required := reqWakeDuration.setWidth 64 * (maxTwtWi / reqTwtWi)
      ⟨[respTwtWi, reqTwtWi],
        terms ++ percentTerms required (percentBelow deviation) (100 - deviation.toNat) ++
          percentTerms required percentAbove (100 + deviation.toNat)⟩

/-! ## Lists and functions -/

variable {user : TwtSelection} {cfg : TwtConfig} {el : TwtElement}

/-- A widened divisor. -/
theorem setWidth_eq_zero_iff {v w : ℕ} (h : v ≤ w) {x : BitVec v} :
    x.setWidth w = 0 ↔ x = 0 := by
  rw [← BitVec.toNat_inj, ← BitVec.toNat_inj, BitVec.toNat_setWidth_of_le h]
  rfl

theorem numTwtServicePeriods_eq_none_iff {dur : BitVec 64} {perSp : BitVec 32} :
    numTwtServicePeriods dur perSp = none ↔ perSp.setWidth 64 = (0 : BitVec 64) := by
  constructor
  · intro hnone
    by_contra hperSp
    rw [numTwtServicePeriods, div64U64, if_neg hperSp] at hnone
    exact absurd hnone (Option.some_ne_none _)
  · intro hzero
    rw [numTwtServicePeriods, div64U64, if_pos hzero]
    rfl

/-- The number of service periods is never zero. -/
theorem numTwtServicePeriods_ne_zero {dur : BitVec 64} {perSp periods : BitVec 32}
    (h : numTwtServicePeriods dur perSp = some periods) : periods ≠ 0 := by
  obtain ⟨quotient, -, hperiods⟩ := Option.bind_eq_some_iff.1 h
  have hif : ∀ n : BitVec 32, (if n ≠ 0 then n else 1) ≠ 0 := by
    intro n
    split
    · assumption
    · decide
  rw [← Option.some.inj hperiods]
  exact hif _

theorem calculateMinRequiredWakeDur_eq_none_iff :
    user.calculateMinRequiredWakeDur user.maxAllowedWakeInterval = none ↔
      user.deviceAvgThroughput.setWidth 64 = (0 : BitVec 64) := by
  rw [setWidth_eq_zero_iff (by decide)]
  constructor
  · intro hnone
    by_contra hdevice
    obtain ⟨dur, hdur, -⟩ := calculateMinRequiredWakeDur_eq hdevice
    exact Option.some_ne_none dur (hdur.symm.trans hnone)
  · exact fun hdevice => calculateMinRequiredWakeDur_none hdevice _

/-- **Where the automatic configuration stops.** -/
theorem useCaseBasedTwtParamsConfiguration_eq_none_iff :
    user.useCaseBasedTwtParamsConfiguration cfg = none ↔
      0 ∈ (user.configArithmetic cfg).divisors := by
  have hdevice := @calculateMinRequiredWakeDur_eq_none_iff user
  cases hdur : user.calculateMinRequiredWakeDur user.maxAllowedWakeInterval with
  | none =>
    simp only [useCaseBasedTwtParamsConfiguration, configArithmetic, hdur, hdevice.1 hdur]
    simp
  | some dur =>
    have hne : user.deviceAvgThroughput.setWidth 64 ≠ (0 : BitVec 64) := fun hzero =>
      Option.some_ne_none dur (hdur.symm.trans (hdevice.2 hzero))
    by_cases hlong : dur > (user.maxAllowedWakeInterval >>> 1).setWidth 64
    · simp only [useCaseBasedTwtParamsConfiguration, configArithmetic, hdur, hlong, if_true,
        Option.bind_eq_bind, Option.bind_some, List.mem_singleton, hne.symm, iff_false]
      exact Option.some_ne_none _
    cases hperiods : numTwtServicePeriods dur (user.wakeDurationPerSp cfg dur).1 with
    | none =>
      simp only [useCaseBasedTwtParamsConfiguration, configArithmetic, hdur, hlong, if_false,
        Option.bind_eq_bind, Option.bind_some, hperiods, Option.bind_none,
        numTwtServicePeriods_eq_none_iff.1 hperiods]
      simp
    | some periods =>
      have hperSp : (user.wakeDurationPerSp cfg dur).1.setWidth 64 ≠ (0 : BitVec 64) := fun hzero =>
        Option.some_ne_none periods
          (hperiods.symm.trans (numTwtServicePeriods_eq_none_iff.2 hzero))
      have hpositive : periods.setWidth 64 ≠ (0 : BitVec 64) :=
        (setWidth_eq_zero_iff (by decide)).not.2 (numTwtServicePeriods_ne_zero hperiods)
      simp only [useCaseBasedTwtParamsConfiguration, configArithmetic, hdur, hlong, if_false,
        Option.bind_eq_bind, Option.bind_some, hperiods, div64U64, hpositive, List.mem_cons,
        List.not_mem_nil, or_false, hne.symm, hperSp.symm, hpositive.symm, iff_false]
      exact Option.some_ne_none _

/-- **Where the check of a response stops.** -/
theorem doesTwtResponseMatch_eq_none_iff :
    doesTwtResponseMatchUserRequirement user cfg el = none ↔
      0 ∈ (user.matchArithmetic cfg el).divisors := by
  by_cases hflow : el.reqTypeFlowType ≠ 0
  · rw [doesTwtResponseMatchUserRequirement, matchArithmetic, if_pos hflow, if_pos hflow]
    simp
  rw [doesTwtResponseMatchUserRequirement, matchArithmetic, if_neg hflow, if_neg hflow]
  dsimp only
  by_cases hrange : el.InRange user
  · have hin := (el.not_inRange_iff user).not.2 (not_not.2 hrange)
    rw [if_neg hin, if_neg hin, div64U64, div64U64]
    by_cases hresp : el.wakeInterval >>> 10 = 0
    · rw [if_pos hresp, if_pos hresp, hresp]
      simp
    rw [if_neg hresp, if_neg hresp]
    by_cases hreq : cfg.wakeInterval >>> 10 = 0
    · rw [if_pos hreq, if_pos hreq, hreq]
      simp
    · rw [if_neg hreq, if_neg hreq]
      simp only [List.mem_cons, List.not_mem_nil, or_false, Ne.symm hresp, Ne.symm hreq, iff_false]
      exact Option.some_ne_none _
  · have hout := (el.not_inRange_iff user).2 hrange
    rw [if_pos hout, if_pos hout]
    simp

/-! ## Percentages -/

/-- A percentage above 100, of a value that leaves nine bits. -/
theorem percentTerms_above {n : BitVec 64} (hn : n.toNat < 2 ^ 55) (x : BitVec 8) :
    ∀ t ∈ percentTerms n (100 + x.setWidth 64) (100 + x.toNat), (t.1.toNat : ℤ) = t.2 := by
  simp only [percentTerms, List.forall_mem_cons, toNat_percent, toNat_mul_percent hn]
  refine ⟨?_, ?_, fun t ht => absurd ht List.not_mem_nil⟩
  · push_cast
    rfl
  · push_cast
    rfl

/-- A percentage below 100 as the source widens it. -/
theorem toInt_percentBelow (deviation : BitVec 8) :
    (percentBelow deviation).toInt = 100 - deviation.toNat := by
  have hdeviation := deviation.isLt
  rw [percentBelow, BitVec.toInt_signExtend_of_le (by decide), BitVec.toInt_sub,
    BitVec.toInt_eq_toNat_of_lt (x := deviation.setWidth 32)
      (by rw [BitVec.toNat_setWidth_of_le (by decide)]; omega),
    BitVec.toNat_setWidth_of_le (by decide)]
  simp only [BitVec.reduceToInt, Int.bmod]
  omega

/-- 100 less a deviation is what is meant just when the deviation is no more than 100. -/
theorem toNat_percentBelow_iff (deviation : BitVec 8) :
    ((percentBelow deviation).toNat : ℤ) = 100 - deviation.toNat ↔ deviation.toNat ≤ 100 := by
  have hint := toInt_percentBelow deviation
  have hcond := BitVec.toInt_eq_toNat_cond (percentBelow deviation)
  have hlt := (percentBelow deviation).isLt
  have hdeviation := deviation.isLt
  split at hcond
  · omega
  · omega

theorem percentTerms_below_iff {n : BitVec 64} (hn : n.toNat < 2 ^ 55) (deviation : BitVec 8) :
    (∀ t ∈ percentTerms n (percentBelow deviation) (100 - deviation.toNat),
      (t.1.toNat : ℤ) = t.2) ↔ deviation.toNat ≤ 100 := by
  simp only [percentTerms, List.forall_mem_cons, toNat_percentBelow_iff]
  constructor
  · exact fun h => h.1
  · intro hle
    have hfactor : (percentBelow deviation).toNat = 100 - deviation.toNat := by
      have hint := (toNat_percentBelow_iff deviation).2 hle
      omega
    have hproduct : n.toNat * (100 - deviation.toNat) < 2 ^ 55 * 2 ^ 9 :=
      Nat.mul_lt_mul'' hn (by omega)
    refine ⟨hle, ?_, fun t ht => absurd ht List.not_mem_nil⟩
    rw [BitVec.toNat_mul_of_lt (by rwa [hfactor]), hfactor]
    push_cast [hle]
    rfl

/-! ## What is computed as it is meant -/

theorem requiredDuration_eq_zero_iff (h : user.deviceAvgThroughput ≠ 0) :
    user.requiredDuration = 0 ↔ user.defaultMinWakeDurationMs = 0 ∧
      user.expectedTxThroughput.toNat * user.maxInterval < user.deviceAvgThroughput.toNat := by
  have hdevice : 0 < user.deviceAvgThroughput.toNat :=
    Nat.pos_of_ne_zero fun hzero => h (BitVec.eq_of_toNat_eq hzero)
  rw [requiredDuration, Nat.max_eq_zero_iff, Nat.div_eq_zero_iff, ← BitVec.toNat_inj]
  generalize user.expectedTxThroughput.toNat * user.maxInterval = product
  -- the percentage is at least 100, so that only a quotient of zero is rounded to zero
  have hquotient : product / user.deviceAvgThroughput.toNat *
      (100 + user.estimatedExtraWakeDurationPercent.toNat) < 100 ↔
        product / user.deviceAvgThroughput.toNat = 0 := by
    constructor
    · intro hlt
      by_contra hne
      have hle := Nat.mul_le_mul (Nat.one_le_iff_ne_zero.2 hne)
        (Nat.le_add_right 100 user.estimatedExtraWakeDurationPercent.toNat)
      omega
    · intro hzero
      rw [hzero, Nat.zero_mul]
      decide
  have hsmall : product / user.deviceAvgThroughput.toNat = 0 ↔
      product < user.deviceAvgThroughput.toNat := by
    rw [Nat.div_eq_zero_iff]
    omega
  rw [hquotient, hsmall]
  simp

variable (user cfg) in
/-- **Which configurations are computed as they are meant.** -/
theorem configArithmetic_ok_iff :
    (user.configArithmetic cfg).Ok ↔ user.deviceAvgThroughput ≠ 0 ∧
      (user.defaultMinWakeDurationMs ≠ 0 ∨
        user.deviceAvgThroughput.toNat ≤ user.expectedTxThroughput.toNat * user.maxInterval) := by
  by_cases hdevice : user.deviceAvgThroughput = 0
  · -- the first division
    have hzero : (0 : BitVec 64) ∈ (user.configArithmetic cfg).divisors := by
      rw [configArithmetic, calculateMinRequiredWakeDur_none hdevice, hdevice]
      exact List.mem_singleton.2 rfl
    exact iff_of_false (fun hok => hok.divisors 0 hzero rfl) fun h => h.1 hdevice
  obtain ⟨dur, hdur, hrequired⟩ := calculateMinRequiredWakeDur_eq hdevice
  have hdivisor : user.deviceAvgThroughput.setWidth 64 ≠ (0 : BitVec 64) :=
    (setWidth_eq_zero_iff (by decide)).not.2 hdevice
  have hterms := percentTerms_above (n := user.expectedTxThroughput.setWidth 64 *
      user.maxAllowedWakeInterval.setWidth 64 / user.deviceAvgThroughput.setWidth 64)
    (by rw [toNat_throughput_div]; exact Nat.lt_trans throughput_div_lt (by decide))
    user.estimatedExtraWakeDurationPercent
  have hpositive : (user.defaultMinWakeDurationMs ≠ 0 ∨
      user.deviceAvgThroughput.toNat ≤ user.expectedTxThroughput.toNat * user.maxInterval) ↔
        dur.toNat ≠ 0 := by
    rw [hrequired, ne_eq, ne_eq, requiredDuration_eq_zero_iff hdevice, Decidable.not_and_iff_or_not,
      Nat.not_lt]
  rw [hpositive, and_iff_right hdevice, configArithmetic, hdur]
  dsimp only
  by_cases hlong : dur > (user.maxAllowedWakeInterval >>> 1).setWidth 64
  · -- the configuration is refused before the next division
    rw [if_pos hlong]
    refine iff_of_true ⟨List.forall_mem_singleton.2 hdivisor, hterms⟩ fun hzero => ?_
    rw [gt_iff_lt, BitVec.lt_def, hzero] at hlong
    exact Nat.not_lt_zero _ hlong
  rw [if_neg hlong]
  have hperSp : (user.wakeDurationPerSp cfg dur).1.setWidth 64 = (0 : BitVec 64) ↔
      dur.toNat = 0 := by
    rw [setWidth_eq_zero_iff (by decide), wakeDurationPerSp_eq_zero_iff]
  cases hperiods : numTwtServicePeriods dur (user.wakeDurationPerSp cfg dur).1 with
  | none =>
    have hzero := numTwtServicePeriods_eq_none_iff.1 hperiods
    refine iff_of_false (fun hok => ?_) (not_not.2 (hperSp.1 hzero))
    exact hok.divisors _ (List.mem_cons_of_mem _ (List.mem_singleton.2 rfl)) hzero
  | some periods =>
    have hne : (user.wakeDurationPerSp cfg dur).1.setWidth 64 ≠ (0 : BitVec 64) := fun hzero =>
      Option.some_ne_none periods (hperiods.symm.trans (numTwtServicePeriods_eq_none_iff.2 hzero))
    have hlast : periods.setWidth 64 ≠ (0 : BitVec 64) :=
      (setWidth_eq_zero_iff (by decide)).not.2 (numTwtServicePeriods_ne_zero hperiods)
    refine iff_of_true ⟨?_, hterms⟩ (hperSp.not.1 hne)
    exact List.forall_mem_cons.2
      ⟨hdivisor, List.forall_mem_cons.2 ⟨hne, List.forall_mem_singleton.2 hlast⟩⟩

/-- An interval in ms is zero just when it is shorter than one. -/
theorem respTwtWi_eq_zero_iff : el.wakeInterval >>> 10 = 0 ↔ el.interval < 1024 := by
  rw [← BitVec.toNat_inj, TwtElement.toNat_respTwtWi]
  show el.interval / 1024 = 0 ↔ el.interval < 1024
  omega

theorem reqTwtWi_eq_zero_iff : cfg.wakeInterval >>> 10 = 0 ↔ cfg.interval % 2 ^ 64 < 1024 := by
  rw [← BitVec.toNat_inj, TwtConfig.toNat_reqTwtWi]
  show cfg.interval % 2 ^ 64 / 1024 = 0 ↔ cfg.interval % 2 ^ 64 < 1024
  omega

variable (user) in
/-- The wake duration that a request has in the longest interval, and room for its percentages. -/
theorem toNat_requiredMs {w : ℕ} (duration : BitVec 8) (unit : BitVec w) (divisor : BitVec 64) :
    (((duration.setWidth 32 <<< if unit ≠ 0 then 10 else 8) >>> 10).setWidth 64 *
        (user.maxAllowedWakeInterval.setWidth 64 / divisor)).toNat =
      durationUs duration unit / 1024 * (user.maxInterval / divisor.toNat) ∧
    durationUs duration unit / 1024 * (user.maxInterval / divisor.toNat) < 2 ^ 55 := by
  have hduration := durationUs_lt duration unit
  have hle : user.maxInterval / divisor.toNat < 2 ^ 32 :=
    Nat.lt_of_le_of_lt (Nat.div_le_self _ _) user.maxInterval_lt
  have hfactor : (((duration.setWidth 32 <<< if unit ≠ 0 then 10 else 8) >>> 10).setWidth 64 :
      BitVec 64).toNat = durationUs duration unit / 1024 := by
    rw [BitVec.toNat_setWidth_of_le (by decide), toNat_durationMs]
  have hquotient : (user.maxAllowedWakeInterval.setWidth 64 / divisor).toNat =
      user.maxInterval / divisor.toNat := by
    rw [BitVec.toNat_udiv, toNat_maxTwtWi]
  have hproduct : durationUs duration unit / 1024 * (user.maxInterval / divisor.toNat) <
      2 ^ 8 * 2 ^ 32 :=
    Nat.mul_lt_mul'' (by omega) hle
  refine ⟨?_, by omega⟩
  rw [BitVec.toNat_mul_of_lt (by rw [hfactor, hquotient]; omega), hfactor, hquotient]

variable (user cfg el) in
/-- **Which responses are computed as they are meant**: the unannounced ones are refused at once,
the others need intervals of 1 ms at least. -/
theorem matchArithmetic_ok_iff :
    (user.matchArithmetic cfg el).Ok ↔
      (el.reqTypeFlowType = 0 → el.InRange user →
        1024 ≤ el.interval ∧ 1024 ≤ cfg.interval % 2 ^ 64 ∧
          user.twtTolerableDeviation.toNat ≤ 100) := by
  -- an unannounced flow is refused before anything is computed
  by_cases hflow : el.reqTypeFlowType ≠ 0
  · rw [matchArithmetic, if_pos hflow]
    exact iff_of_true ⟨by simp, by simp⟩ fun hzero => absurd hzero hflow
  have hterms := percentTerms_above (n := user.maxAllowedWakeInterval.setWidth 64)
    (Nat.lt_trans (by rw [toNat_maxTwtWi]; exact user.maxInterval_lt) (by decide))
    user.twtTolerableDeviation
  rw [matchArithmetic, if_neg hflow]
  dsimp only
  by_cases hrange : el.InRange user
  · rw [if_neg ((el.not_inRange_iff user).not.2 (not_not.2 hrange))]
    simp only [not_not.1 hflow, hrange, true_implies]
    by_cases hresp : el.wakeInterval >>> 10 = 0
    · rw [if_pos hresp]
      have hshort := respTwtWi_eq_zero_iff.1 hresp
      refine iff_of_false (fun hok => ?_) fun h => absurd h.1 (Nat.not_le.2 hshort)
      exact hok.divisors _ (List.mem_singleton.2 rfl) hresp
    rw [if_neg hresp, and_iff_right (Nat.not_lt.1 (respTwtWi_eq_zero_iff.not.1 hresp))]
    by_cases hreq : cfg.wakeInterval >>> 10 = 0
    · rw [if_pos hreq]
      have hshort := reqTwtWi_eq_zero_iff.1 hreq
      refine iff_of_false (fun hok => ?_) fun h => absurd h.1 (Nat.not_le.2 hshort)
      exact hok.divisors _ (List.mem_cons_of_mem _ (List.mem_singleton.2 rfl)) hreq
    rw [if_neg hreq, and_iff_right (Nat.not_lt.1 (reqTwtWi_eq_zero_iff.not.1 hreq))]
    obtain ⟨hproduct, hrequired⟩ := toNat_requiredMs user cfg.wakeDuration cfg.twtWakeDurationUnit
      (cfg.wakeInterval >>> 10)
    rw [← hproduct] at hrequired
    -- of the three percentages only the lower one can wrap
    rw [← percentTerms_below_iff hrequired user.twtTolerableDeviation]
    constructor
    · intro hok t ht
      exact hok.terms t (List.mem_append_left _ (List.mem_append_right _ ht))
    · intro hbelow
      refine ⟨List.forall_mem_cons.2 ⟨hresp, List.forall_mem_singleton.2 hreq⟩, ?_⟩
      exact List.forall_mem_append.2 ⟨List.forall_mem_append.2 ⟨hterms, hbelow⟩,
        percentTerms_above hrequired user.twtTolerableDeviation⟩
  · rw [if_pos ((el.not_inRange_iff user).2 hrange)]
    refine iff_of_true ⟨fun d hd => absurd hd List.not_mem_nil, hterms⟩ fun _ h => absurd h hrange

variable (user) in
/-- A supported response with an interval below 1 ms is in the range of every user. -/
theorem inRange_of_short {autoConfigEnable : Bool} {fr : TwtSetupFrame}
    (hsupported : validateUnsupportedTwtRespParams autoConfigEnable fr = false)
    (hshort : fr.twtElement.interval < 1024) : fr.twtElement.InRange user := by
  obtain ⟨-, -, -, -, -, -, -, hduration⟩ :=
    (validateUnsupportedTwtRespParams_eq_false_iff autoConfigEnable fr).1 hsupported
  rw [TwtElement.InRange]
  omega

end TwtSelection

/-- A user who expects 10 of 50, every 100 ms. -/
def moderateUser : TwtSelection := ⟨1, 10, 100, 100, 50, 10, 20, 1024, 8, 1⟩

/-- A response with the wake interval `mantissa * 2 ^ exponent`, and 256 microseconds awake. -/
def announcedResponse (mantissa : BitVec 16) (exponent : BitVec 5) : TwtSetupFrame where
  dialogToken := 1
  twtElement :=
    { TwtConfig.baseElement with
      reqTypeTwtReq := 0
      reqTypeTwtSetupCommand := 4
      reqTypeTwtWiExp := exponent
      nomMinWakeDuration := 1
      wakeIntervalMantisa := mantissa }

/-- A request of the interval `mantissa * 1024`. -/
def requestOf (mantissa : BitVec 16) : TwtConfig :=
  ⟨88, 0, 10, 0xFF, mantissa, 0xFFFF, 1, 0, 0, 0, 0, 0, 0, 1, 3, 10, 1, 1, 0, 100, 1⟩

end Twt
