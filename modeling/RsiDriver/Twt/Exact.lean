import Mathlib.Algebra.GroupWithZero.Nat
import Mathlib.Algebra.Order.Floor.Div
import RsiDriver.Twt.Params

/-!
# Target wake time: the parameters in unbounded numbers

The quantities that the automatic configuration and the checks of a response are about, as natural
numbers: intervals and durations without a width, and quotients that are rounded as the comments of
the source say. Each is related to what the driver computes in 32 or 64 bits.

## Main results

* `TwtSelection.calculateMinRequiredWakeDur_eq`, `numTwtServicePeriods_eq`: the automatic
  configuration computes the required wake duration and the number of service periods without a
  loss, if it does not divide by zero;
* `TwtElement.toNat_wakeInterval`, `TwtConfig.toNat_wakeInterval`: the interval of a response always
  fits in 64 bits, that of a request is taken modulo `2 ^ 64`.
-/

namespace Twt

/-! ## Products -/

/-- A product of two widened values does not wrap if it is wide enough for both. -/
theorem toNat_mul_setWidth {u v w : ℕ} (h : u + v ≤ w) (x : BitVec u) (y : BitVec v) :
    (x.setWidth w * y.setWidth w).toNat = x.toNat * y.toNat := by
  have hx : (x.setWidth w).toNat = x.toNat := BitVec.toNat_setWidth_of_le (by omega)
  have hy : (y.setWidth w).toNat = y.toNat := BitVec.toNat_setWidth_of_le (by omega)
  have hproduct : x.toNat * y.toNat < 2 ^ w := calc
    x.toNat * y.toNat < 2 ^ u * 2 ^ v := Nat.mul_lt_mul'' x.isLt y.isLt
    _ = 2 ^ (u + v) := (Nat.pow_add 2 u v).symm
    _ ≤ 2 ^ w := Nat.pow_le_pow_right Nat.two_pos h
  rw [BitVec.toNat_mul_of_lt (by rwa [hx, hy]), hx, hy]

/-- A percentage of up to 355 in 64 bits. -/
theorem toNat_percent (x : BitVec 8) : (100 + x.setWidth 64 : BitVec 64).toNat = 100 + x.toNat := by
  have hx := x.isLt
  simp only [BitVec.toNat_add, BitVec.toNat_setWidth, BitVec.reduceToNat]
  omega

/-- A percentage of a value that leaves nine bits. -/
theorem toNat_mul_percent {n : BitVec 64} (hn : n.toNat < 2 ^ 55) (x : BitVec 8) :
    (n * (100 + x.setWidth 64)).toNat = n.toNat * (100 + x.toNat) := by
  have hx := x.isLt
  have hproduct : n.toNat * (100 + x.toNat) < 2 ^ 55 * 2 ^ 9 :=
    Nat.mul_lt_mul'' hn (by omega)
  rw [BitVec.toNat_mul_of_lt (by rwa [toNat_percent]), toNat_percent]

/-! ## The automatic configuration -/

namespace TwtSelection

variable (user : TwtSelection)

/-- The longest wake interval that the latencies allow, in ms. -/
def maxInterval : ℕ :=
  if user.txLatency ≠ 0 then
    min (min user.rxLatency.toNat user.txLatency.toNat) user.defaultWakeIntervalMs.toNat
  else min user.rxLatency.toNat user.defaultWakeIntervalMs.toNat

/-- The wake duration that the expected throughput needs in this interval, in ms. -/
def requiredDuration : ℕ :=
  max user.defaultMinWakeDurationMs.toNat
    (user.expectedTxThroughput.toNat * user.maxInterval / user.deviceAvgThroughput.toNat *
      (100 + user.estimatedExtraWakeDurationPercent.toNat) / 100)

/-- The longest wake duration of a service period, in ms. -/
def durationCap (cfg : TwtConfig) : ℕ :=
  if 4 * user.expectedTxThroughput.toNat < user.deviceAvgThroughput.toNat ∨
      cfg.twtWakeDurationUnit = 1 then 63 else 255

/-- The number of service periods in the longest interval. -/
def servicePeriods (cfg : TwtConfig) : ℕ := user.requiredDuration ⌈/⌉ user.durationCap cfg

theorem toNat_minOf2 (x y : BitVec 32) : (minOf2 x y).toNat = min x.toNat y.toNat := by
  simp only [minOf2, gt_iff_lt, BitVec.lt_def]
  split <;> omega

theorem toNat_minOf3 (x y z : BitVec 32) :
    (minOf3 x y z).toNat = min (min x.toNat y.toNat) z.toNat := by
  simp only [minOf3, gt_iff_lt, BitVec.lt_def]
  split <;> split <;> omega

theorem toNat_maxAllowedWakeInterval :
    user.maxAllowedWakeInterval.toNat = user.maxInterval := by
  rw [maxAllowedWakeInterval, maxInterval]
  split
  · exact toNat_minOf3 _ _ _
  · exact toNat_minOf2 _ _

theorem maxInterval_lt : user.maxInterval < 2 ^ 32 := by
  rw [← toNat_maxAllowedWakeInterval]
  exact user.maxAllowedWakeInterval.isLt

theorem durationCap_pos (cfg : TwtConfig) : 0 < user.durationCap cfg := by
  rw [durationCap]
  split <;> decide

variable {user}

/-- The quotient that the extra percentage is put on. -/
theorem throughput_div_lt :
    user.expectedTxThroughput.toNat * user.maxInterval / user.deviceAvgThroughput.toNat <
      2 ^ 48 := by
  have hproduct : user.expectedTxThroughput.toNat * user.maxInterval < 2 ^ 16 * 2 ^ 32 :=
    Nat.mul_lt_mul'' user.expectedTxThroughput.isLt user.maxInterval_lt
  exact Nat.lt_of_le_of_lt (Nat.div_le_self _ _) hproduct

theorem calculateMinRequiredWakeDur_none (h : user.deviceAvgThroughput = 0)
    (maxAllowed : BitVec 32) : user.calculateMinRequiredWakeDur maxAllowed = none := by
  simp [calculateMinRequiredWakeDur, div64U64, h]

/-- The quotient of the throughputs as `calculate_min_required_wake_dur` computes it. -/
theorem toNat_throughput_div :
    (user.expectedTxThroughput.setWidth 64 * user.maxAllowedWakeInterval.setWidth 64 /
        user.deviceAvgThroughput.setWidth 64).toNat =
      user.expectedTxThroughput.toNat * user.maxInterval / user.deviceAvgThroughput.toNat := by
  rw [BitVec.toNat_udiv, toNat_mul_setWidth (by decide), toNat_maxAllowedWakeInterval,
    BitVec.toNat_setWidth_of_le (by decide)]

/-- **The required wake duration** is computed without a loss. -/
theorem calculateMinRequiredWakeDur_eq (h : user.deviceAvgThroughput ≠ 0) :
    ∃ dur, user.calculateMinRequiredWakeDur user.maxAllowedWakeInterval = some dur ∧
      dur.toNat = user.requiredDuration := by
  have hdevice : user.deviceAvgThroughput.setWidth 64 ≠ 0 := by
    intro hzero
    apply h
    apply BitVec.eq_of_toNat_eq
    have hnat := congrArg BitVec.toNat hzero
    rwa [BitVec.toNat_setWidth_of_le (by decide)] at hnat
  rw [calculateMinRequiredWakeDur, div64U64, if_neg hdevice]
  refine ⟨_, rfl, ?_⟩
  -- neither the product nor the percentage needs more than 64 bits
  have hscaled : (user.expectedTxThroughput.setWidth 64 *
        user.maxAllowedWakeInterval.setWidth 64 / user.deviceAvgThroughput.setWidth 64 *
        (100 + user.estimatedExtraWakeDurationPercent.setWidth 64) / 100).toNat =
      user.expectedTxThroughput.toNat * user.maxInterval / user.deviceAvgThroughput.toNat *
        (100 + user.estimatedExtraWakeDurationPercent.toNat) / 100 := by
    have hsmall := @throughput_div_lt user
    rw [BitVec.toNat_udiv, toNat_mul_percent (by rw [toNat_throughput_div]; omega),
      toNat_throughput_div]
    rfl
  have hleast : (user.defaultMinWakeDurationMs.setWidth 64).toNat =
      user.defaultMinWakeDurationMs.toNat := BitVec.toNat_setWidth_of_le (by decide)
  rw [requiredDuration, ← hscaled, ← hleast]
  simp only [BitVec.lt_def]
  split <;> omega

/-- The comparison of the throughputs, in 32 bits. -/
theorem fastDevice_iff (user : TwtSelection) :
    user.deviceAvgThroughput.setWidth 32 > user.expectedTxThroughput.setWidth 32 <<< 2 ↔
      4 * user.expectedTxThroughput.toNat < user.deviceAvgThroughput.toNat := by
  have htx := user.expectedTxThroughput.isLt
  rw [gt_iff_lt, BitVec.lt_def, BitVec.toNat_shiftLeft, BitVec.toNat_setWidth_of_le (by decide),
    BitVec.toNat_setWidth_of_le (by decide), Nat.shiftLeft_eq, Nat.mod_eq_of_lt (by omega),
    Nat.mul_comm]

/-- The duration of one service period is the required one, up to the cap. -/
theorem toNat_wakeDurationPerSp (cfg : TwtConfig) (dur : BitVec 64) :
    (user.wakeDurationPerSp cfg dur).1.toNat = min dur.toNat (user.durationCap cfg) := by
  simp only [wakeDurationPerSp, durationCap, user.fastDevice_iff]
  split
  · simp only [BitVec.lt_def, BitVec.reduceToNat]
    split
    · rw [BitVec.toNat_setWidth]
      omega
    · simp only [BitVec.reduceToNat]
      omega
  · simp only [BitVec.lt_def, BitVec.reduceToNat]
    split
    · rw [BitVec.toNat_setWidth]
      omega
    · simp only [BitVec.reduceToNat]
      omega

/-- A service period takes no time only if none is required. -/
theorem wakeDurationPerSp_eq_zero_iff (cfg : TwtConfig) (dur : BitVec 64) :
    (user.wakeDurationPerSp cfg dur).1 = 0 ↔ dur.toNat = 0 := by
  have hcap := user.durationCap_pos cfg
  rw [← BitVec.toNat_inj, toNat_wakeDurationPerSp]
  show min dur.toNat (user.durationCap cfg) = 0 ↔ dur.toNat = 0
  omega

theorem numTwtServicePeriods_none (dur : BitVec 64) : numTwtServicePeriods dur 0 = none := by
  simp [numTwtServicePeriods, div64U64]

/-- A quotient that is rounded up by the remainder. -/
theorem div_add_mod_ne_zero (n : ℕ) {d : ℕ} (hd : 0 < d) :
    n / d + (if n % d ≠ 0 then 1 else 0) = n ⌈/⌉ d := by
  rw [Nat.ceilDiv_eq_add_pred_div]
  have hsplit := Nat.div_add_mod n d
  have hmod := Nat.mod_lt n hd
  symm
  by_cases hrest : n % d = 0
  · rw [if_neg (not_not.2 hrest), Nat.add_zero]
    apply Nat.div_eq_of_lt_le
    · rw [Nat.mul_comm]; omega
    · rw [Nat.succ_mul, Nat.mul_comm]; omega
  · rw [if_pos hrest]
    apply Nat.div_eq_of_lt_le
    · rw [Nat.succ_mul, Nat.mul_comm]; omega
    · rw [Nat.succ_mul, Nat.succ_mul, Nat.mul_comm]; omega

/-- **The number of service periods** is rounded up, and at least one. -/
theorem numTwtServicePeriods_eq {dur : BitVec 64} {perSp : BitVec 32} (hdur : dur.toNat < 2 ^ 32)
    (hperSp : perSp ≠ 0) :
    ∃ periods, numTwtServicePeriods dur perSp = some periods ∧
      periods.toNat = max 1 (dur.toNat ⌈/⌉ perSp.toNat) := by
  have hwide : (perSp.setWidth 64).toNat = perSp.toNat := BitVec.toNat_setWidth_of_le (by decide)
  have hpos : 0 < perSp.toNat :=
    Nat.pos_of_ne_zero fun hzero => hperSp (BitVec.eq_of_toNat_eq hzero)
  have hdivisor : perSp.setWidth 64 ≠ 0 := by
    intro hzero
    rw [hzero] at hwide
    exact absurd hwide.symm (Nat.ne_of_gt hpos)
  have hrest : (dur % perSp.setWidth 64 ≠ 0) ↔ dur.toNat % perSp.toNat ≠ 0 := by
    rw [ne_eq, ← BitVec.toNat_inj, BitVec.toNat_umod, hwide]
    rfl
  have hle : dur.toNat / perSp.toNat ≤ dur.toNat := Nat.div_le_self _ _
  -- a remainder counts as one more period
  have hrounded : ((dur / perSp.setWidth 64 +
      if dur % perSp.setWidth 64 ≠ 0 then 1 else 0).setWidth 32).toNat =
        dur.toNat ⌈/⌉ perSp.toNat := by
    have hceil : dur.toNat ⌈/⌉ perSp.toNat ≤ dur.toNat := by
      rw [ceilDiv_le_iff_le_mul hpos]
      exact Nat.le_mul_of_pos_left _ hpos
    have hsum := div_add_mod_ne_zero dur.toNat hpos
    simp only [BitVec.toNat_setWidth, BitVec.toNat_add, BitVec.toNat_udiv, hwide, hrest]
    split at hsum
    · rename_i hne
      rw [if_pos hne]
      simp only [BitVec.reduceToNat]
      omega
    · rename_i heq
      rw [if_neg heq]
      simp only [BitVec.reduceToNat]
      omega
  rw [numTwtServicePeriods, div64U64, if_neg hdivisor]
  refine ⟨_, rfl, ?_⟩
  rw [← hrounded]
  generalize (dur / perSp.setWidth 64 +
    if dur % perSp.setWidth 64 ≠ 0 then 1 else 0).setWidth 32 = periods
  -- and there is at least one
  by_cases hzero : periods = 0
  · rw [if_neg (not_not.2 hzero), hzero]
    rfl
  · have hne : periods.toNat ≠ 0 := fun h => hzero (BitVec.eq_of_toNat_eq h)
    rw [if_pos hzero]
    omega

end TwtSelection

/-! ## Intervals and durations -/

/-- The wake interval of a response in microseconds. -/
def TwtElement.interval (el : TwtElement) : ℕ :=
  el.wakeIntervalMantisa.toNat * 2 ^ el.reqTypeTwtWiExp.toNat

/-- The wake interval of a request in microseconds. -/
def TwtConfig.interval (cfg : TwtConfig) : ℕ :=
  cfg.wakeIntMantissa.toNat * 2 ^ (cfg.wakeIntExp.toNat % 64)

/-- A wake duration in microseconds. -/
def durationUs {w : ℕ} (duration : BitVec 8) (unit : BitVec w) : ℕ :=
  duration.toNat * if unit ≠ 0 then 1024 else 256

theorem toNat_one_shiftLeft {k : ℕ} (hk : k < 64) : ((1 : BitVec 64) <<< k).toNat = 2 ^ k := by
  have hpow : 2 ^ k < 2 ^ 64 := Nat.pow_lt_pow_right (by decide) hk
  rw [BitVec.toNat_shiftLeft, Nat.shiftLeft_eq]
  simp only [BitVec.reduceToNat, Nat.one_mul]
  exact Nat.mod_eq_of_lt hpow

theorem TwtElement.interval_lt (el : TwtElement) : el.interval < 2 ^ 48 := by
  have hpow : 2 ^ el.reqTypeTwtWiExp.toNat < 2 ^ 32 :=
    Nat.pow_lt_pow_right (by decide) el.reqTypeTwtWiExp.isLt
  exact Nat.mul_lt_mul'' (c := 2 ^ 16) (d := 2 ^ 32) el.wakeIntervalMantisa.isLt hpow

theorem TwtElement.toNat_wakeInterval (el : TwtElement) :
    el.wakeInterval.toNat = el.interval := by
  have hexp : el.reqTypeTwtWiExp.toNat < 64 := Nat.lt_trans el.reqTypeTwtWiExp.isLt (by decide)
  have hmantissa : (el.wakeIntervalMantisa.setWidth 64).toNat = el.wakeIntervalMantisa.toNat :=
    BitVec.toNat_setWidth_of_le (by decide)
  have hlt : el.interval < 2 ^ 64 := Nat.lt_trans el.interval_lt (by decide)
  rw [interval] at hlt
  rw [wakeInterval, interval, BitVec.toNat_mul_of_lt, toNat_one_shiftLeft hexp, hmantissa]
  rwa [toNat_one_shiftLeft hexp, hmantissa]

theorem TwtConfig.toNat_wakeInterval (cfg : TwtConfig) :
    cfg.wakeInterval.toNat = cfg.interval % 2 ^ 64 := by
  rw [wakeInterval, interval, BitVec.toNat_mul,
    toNat_one_shiftLeft (Nat.mod_lt _ (by decide)), BitVec.toNat_setWidth_of_le (by decide)]

/-- A wake duration in ms, as the checks of a response compute it. -/
theorem toNat_durationMs {w : ℕ} (duration : BitVec 8) (unit : BitVec w) :
    ((duration.setWidth 32 <<< if unit ≠ 0 then 10 else 8) >>> 10).toNat =
      durationUs duration unit / 1024 := by
  have hduration := duration.isLt
  rw [BitVec.toNat_ushiftRight, BitVec.toNat_shiftLeft, BitVec.toNat_setWidth_of_le (by decide),
    Nat.shiftLeft_eq, Nat.shiftRight_eq_div_pow, durationUs]
  split
  · omega
  · omega

/-- A wake duration in microseconds, as the checks of a response compute it. -/
theorem toNat_wakeDurationUs {w : ℕ} (duration : BitVec 8) (unit : BitVec w) :
    (duration.setWidth 32 * if unit ≠ 0 then 1024 else 256 : BitVec 32).toNat =
      durationUs duration unit := by
  have hduration := duration.isLt
  rw [BitVec.toNat_mul, BitVec.toNat_setWidth_of_le (by decide), durationUs]
  split
  · simp only [BitVec.reduceToNat]
    omega
  · simp only [BitVec.reduceToNat]
    omega

theorem durationUs_lt {w : ℕ} (duration : BitVec 8) (unit : BitVec w) :
    durationUs duration unit < 2 ^ 18 := by
  have hduration := duration.isLt
  rw [durationUs]
  split <;> omega

/-! ## The checks of a response -/

/-- **Which responses are supported.** -/
theorem validateUnsupportedTwtRespParams_eq_false_iff (autoConfigEnable : Bool)
    (fr : TwtSetupFrame) :
    validateUnsupportedTwtRespParams autoConfigEnable fr = false ↔
      ¬ (fr.twtElement.reqTypeTwtReq = 1 ∧ fr.twtElement.setupCommand < 3) ∧
      ¬ (autoConfigEnable = true ∧ fr.twtElement.reqTypeFlowType ≠ 0) ∧
      fr.dialogToken = 1 ∧ fr.twtElement.controlNegotiationType = 0 ∧
      fr.twtElement.reqTypeTwtProtection = 0 ∧ fr.twtElement.nomMinWakeDuration ≠ 0 ∧
      fr.twtElement.wakeIntervalMantisa ≠ 0 ∧
      durationUs fr.twtElement.nomMinWakeDuration fr.twtElement.controlWakeDurationUnit ≤
        fr.twtElement.interval := by
  have hlong : fr.twtElement.wakeDurationUs.setWidth 64 > fr.twtElement.wakeInterval ↔
      fr.twtElement.interval <
        durationUs fr.twtElement.nomMinWakeDuration fr.twtElement.controlWakeDurationUnit := by
    rw [gt_iff_lt, BitVec.lt_def, TwtElement.toNat_wakeInterval,
      BitVec.toNat_setWidth_of_le (by decide), TwtElement.wakeDurationUs, toNat_wakeDurationUs]
  simp only [validateUnsupportedTwtRespParams, hlong]
  split_ifs <;> simp_all [and_assoc]

/-- The tolerance of the wake interval in ms. -/
def TwtSelection.tolerableInterval (user : TwtSelection) : ℕ :=
  user.maxInterval * (100 + user.twtTolerableDeviation.toNat) / 100

/-- The interval and the duration of a response are in the range that the user tolerates. -/
def TwtElement.InRange (el : TwtElement) (user : TwtSelection) : Prop :=
  el.interval / 1024 ≤ user.tolerableInterval ∧
    durationUs el.nomMinWakeDuration el.controlWakeDurationUnit / 1024 ≤ el.interval / 1024 / 2

theorem TwtSelection.toNat_maxTwtWi (user : TwtSelection) :
    (user.maxAllowedWakeInterval.setWidth 64).toNat = user.maxInterval := by
  rw [BitVec.toNat_setWidth_of_le (by decide), toNat_maxAllowedWakeInterval]

theorem TwtSelection.toNat_maxTwtWi_mul (user : TwtSelection) (x : BitVec 8) :
    (user.maxAllowedWakeInterval.setWidth 64 * (100 + x.setWidth 64)).toNat =
      user.maxInterval * (100 + x.toNat) := by
  have hlt := user.maxInterval_lt
  rw [toNat_mul_percent (by rw [toNat_maxTwtWi]; omega), toNat_maxTwtWi]

theorem TwtElement.toNat_respTwtWi (el : TwtElement) :
    (el.wakeInterval >>> 10).toNat = el.interval / 1024 := by
  rw [BitVec.toNat_ushiftRight, toNat_wakeInterval, Nat.shiftRight_eq_div_pow]

theorem TwtConfig.toNat_reqTwtWi (cfg : TwtConfig) :
    (cfg.wakeInterval >>> 10).toNat = cfg.interval % 2 ^ 64 / 1024 := by
  rw [BitVec.toNat_ushiftRight, toNat_wakeInterval, Nat.shiftRight_eq_div_pow]

/-- The test of the range as `does_twt_response_match_user_requirement` makes it. -/
theorem TwtElement.not_inRange_iff (el : TwtElement) (user : TwtSelection) :
    (el.wakeInterval >>> 10 > user.maxAllowedWakeInterval.setWidth 64 *
        (100 + user.twtTolerableDeviation.setWidth 64) / 100 ∨
      ((el.nomMinWakeDuration.setWidth 32 <<< if el.controlWakeDurationUnit ≠ 0 then 10 else 8) >>>
        10).setWidth 64 > el.wakeInterval >>> 10 >>> 1) ↔ ¬ el.InRange user := by
  rw [InRange, TwtSelection.tolerableInterval, Decidable.not_and_iff_or_not, Nat.not_le, Nat.not_le]
  refine or_congr ?_ ?_
  · rw [gt_iff_lt, BitVec.lt_def, toNat_respTwtWi, BitVec.toNat_udiv,
      TwtSelection.toNat_maxTwtWi_mul]
    rfl
  · rw [gt_iff_lt, BitVec.lt_def, BitVec.toNat_setWidth_of_le (by decide), toNat_durationMs,
      BitVec.toNat_ushiftRight, toNat_respTwtWi, Nat.shiftRight_eq_div_pow]

end Twt
