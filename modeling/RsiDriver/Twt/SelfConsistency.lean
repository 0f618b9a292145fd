import RsiDriver.Twt.Agreement
import RsiDriver.Twt.Divisors

/-!
# Target wake time: the automatic configuration asks for what it accepts

`use_case_based_twt_params_configuration` splits the required wake duration over service periods and
the longest wake interval over the same number, and stores both in the widths of a TWT element. A
grant of just that is put through other computations with other roundings.

The durations survive: a period is at most 63 ms in units of 256 microseconds, or 255 ms in units of
1024. The interval of a period is stored in 16 bits, and is truncated from 65536 ms on. The check of
a grant subtracts the tolerable deviation from 100 without a sign, and above 100 it refuses every
grant.

## Main results

* `storedConfig_spec`: what is stored, in unbounded numbers;
* `doesTwtResponseMatch_echo`: how the check decides on a grant of what was asked for;
* `selfConsistent_iff`: which configurations lose nothing, and are satisfied with what they ask for.
-/

namespace Twt

/-- The unit of a wake duration in microseconds. -/
def unitUs {w : ℕ} (unit : BitVec w) : ℕ := if unit ≠ 0 then 1024 else 256

/-- `cfg` holds what was computed for `user` with `periods` service periods: their wake durations
add up to the required one but for a unit each, and their intervals to the longest one but for 1 ms
each. -/
structure NothingLost (user : TwtSelection) (cfg : TwtConfig) (periods : ℕ) : Prop where
  duration_le : durationUs cfg.wakeDuration cfg.twtWakeDurationUnit * periods ≤
    user.requiredDuration * 1024
  lt_duration : user.requiredDuration * 1024 <
    durationUs cfg.wakeDuration cfg.twtWakeDurationUnit * periods +
      unitUs cfg.twtWakeDurationUnit * periods
  interval_le : cfg.wakeIntMantissa.toNat * periods ≤ user.maxInterval
  lt_interval : user.maxInterval < cfg.wakeIntMantissa.toNat * periods + periods

/-- A grant of just what the element `request` asks for. -/
structure Echoes (request : TwtElement) (fr : TwtSetupFrame) : Prop where
  dialogToken : fr.dialogToken = 1
  setupCommand : fr.twtElement.setupCommand = TWT_SETUP_CMD_ACCEPT
  exponent : fr.twtElement.reqTypeTwtWiExp = request.reqTypeTwtWiExp
  mantissa : fr.twtElement.wakeIntervalMantisa = request.wakeIntervalMantisa
  duration : fr.twtElement.nomMinWakeDuration = request.nomMinWakeDuration
  unit : fr.twtElement.controlWakeDurationUnit = request.controlWakeDurationUnit
  flowType : fr.twtElement.reqTypeFlowType = request.reqTypeFlowType
  trigger : fr.twtElement.reqTypeTrigger = request.reqTypeTrigger
  implicit : fr.twtElement.reqTypeImplicitTwt = request.reqTypeImplicitTwt
  negotiationType : fr.twtElement.controlNegotiationType = request.controlNegotiationType
  protection : fr.twtElement.reqTypeTwtProtection = request.reqTypeTwtProtection

/-- A grant `fr` passes the two checks, and is not answered by a teardown. -/
structure Satisfies (user : TwtSelection) (cfg : TwtConfig) (fr : TwtSetupFrame) : Prop where
  supported : validateUnsupportedTwtRespParams true fr = false
  inTolerance : doesTwtResponseMatchUserRequirement user cfg fr.twtElement = some true
  noTeardown : ∀ (a : TwtAdapter) (o : Outcomes), a.twtAutoConfigEnable = true →
    a.userTwtAutoConfig = user → a.rsiTwtConfig = cfg →
      ∃ a', a.mgmtProcessTwtSetupResp o fr = some a' ∧ a'.teardowns = a.teardowns

/-- **Self-consistency**: nothing is lost, and whoever grants what is asked for satisfies the
user. -/
structure SelfConsistent (user : TwtSelection) (cfg : TwtConfig) (periods : ℕ) : Prop where
  nothingLost : NothingLost user cfg periods
  echo : ∀ request fr, cfg.setupElement false none = some request → Echoes request fr →
    Satisfies user cfg fr

/-! ## The number of service periods -/

namespace TwtSelection

/-- A quotient that is rounded up does not change if the divisor is cut to the dividend. -/
theorem ceilDiv_min {n d : ℕ} (hn : 0 < n) (hd : 0 < d) : n ⌈/⌉ min n d = n ⌈/⌉ d := by
  rcases Nat.le_total n d with hle | hle
  · rw [Nat.min_eq_left hle, Nat.ceilDiv_eq_add_pred_div, Nat.ceilDiv_eq_add_pred_div,
      Nat.div_eq_of_lt_le (k := 1) (by omega) (by omega),
      Nat.div_eq_of_lt_le (k := 1) (by omega) (by omega)]
  · rw [Nat.min_eq_right hle]

variable {user : TwtSelection} {cfg cfg' : TwtConfig}

theorem requiredDuration_le_mul :
    user.requiredDuration ≤ user.durationCap cfg * user.servicePeriods cfg :=
  (ceilDiv_le_iff_le_mul (user.durationCap_pos cfg)).1 (Nat.le_refl _)

theorem servicePeriods_le : user.servicePeriods cfg ≤ user.requiredDuration := by
  rw [servicePeriods, ceilDiv_le_iff_le_mul (user.durationCap_pos cfg)]
  exact Nat.le_mul_of_pos_left _ (user.durationCap_pos cfg)

theorem servicePeriods_pos (h : 0 < user.requiredDuration) : 0 < user.servicePeriods cfg := by
  apply Nat.pos_of_ne_zero
  intro hzero
  have hle := @requiredDuration_le_mul user cfg
  rw [hzero, Nat.mul_zero] at hle
  omega

/-! ## What is stored -/

/-- What an accepted configuration has computed. -/
structure Stored (user : TwtSelection) (cfg cfg' : TwtConfig) : Prop where
  positive : 0 < user.requiredDuration
  half : user.requiredDuration ≤ user.maxInterval / 2
  duration : cfg'.wakeDuration.toNat = user.requiredDuration * 1024 /
    (user.servicePeriods cfg * unitUs cfg'.twtWakeDurationUnit)
  mantissa : cfg'.wakeIntMantissa.toNat = user.maxInterval / user.servicePeriods cfg % 2 ^ 16
  unit : cfg'.twtWakeDurationUnit = 0 ∨ cfg'.twtWakeDurationUnit = 1
  fields : ∃ perSp mantissa, cfg' = user.storedConfig cfg cfg'.twtWakeDurationUnit perSp mantissa
  computed : ∃ dur periods,
    user.calculateMinRequiredWakeDur user.maxAllowedWakeInterval = some dur ∧
      dur.toNat = user.requiredDuration ∧
      numTwtServicePeriods dur (user.wakeDurationPerSp cfg dur).1 = some periods ∧
      periods.toNat = user.servicePeriods cfg

variable (cfg) in
/-- The number of service periods that is computed for the required duration. -/
theorem servicePeriods_spec (dur : BitVec 64) (hsmall : dur.toNat < 2 ^ 32)
    (hdur : dur.toNat = user.requiredDuration) (hperSp : (user.wakeDurationPerSp cfg dur).1 ≠ 0) :
    0 < user.requiredDuration ∧ ∃ periods,
      numTwtServicePeriods dur (user.wakeDurationPerSp cfg dur).1 = some periods ∧
        periods.toNat = user.servicePeriods cfg := by
  have hpositive : 0 < user.requiredDuration := by
    apply Nat.pos_of_ne_zero
    intro hzero
    exact hperSp ((wakeDurationPerSp_eq_zero_iff cfg dur).2 (hdur.trans hzero))
  have hcount := @servicePeriods_pos user cfg hpositive
  obtain ⟨periods, hperiods, hnumber⟩ := numTwtServicePeriods_eq hsmall hperSp
  rw [toNat_wakeDurationPerSp, hdur, ceilDiv_min hpositive (user.durationCap_pos cfg)] at hnumber
  refine ⟨hpositive, periods, hperiods, ?_⟩
  rw [servicePeriods] at hcount ⊢
  omega

variable (cfg) in
/-- The unit goes with the length of a service period. -/
theorem wakeDurationPerSp_unit (dur : BitVec 64) (hdur : dur.toNat = user.requiredDuration)
    (hpositive : 0 < user.requiredDuration) :
    (user.wakeDurationPerSp cfg dur).2 = 0 ∧
        user.requiredDuration ≤ 63 * user.servicePeriods cfg ∨
      (user.wakeDurationPerSp cfg dur).2 = 1 ∧
        user.requiredDuration ≤ 255 * user.servicePeriods cfg := by
  have hcap := @requiredDuration_le_mul user cfg
  have hperiods := @servicePeriods_pos user cfg hpositive
  have hshort : dur < 64 ↔ user.requiredDuration < 64 := by
    rw [BitVec.lt_def, hdur]
    rfl
  simp only [wakeDurationPerSp, durationCap, user.fastDevice_iff, hshort] at hcap ⊢
  split at hcap
  · rename_i hslow
    rw [if_pos hslow]
    exact Or.inl ⟨rfl, hcap⟩
  · rename_i hfast
    rw [if_neg hfast]
    by_cases hfew : user.requiredDuration < 64
    · rw [if_pos hfew]
      exact Or.inl ⟨rfl, Nat.le_trans (Nat.le_of_lt_succ hfew) (Nat.le_mul_of_pos_right _ hperiods)⟩
    · rw [if_neg hfew]
      exact Or.inr ⟨rfl, hcap⟩

/-- The wake duration of a service period in its unit, if it is short enough for eight bits. -/
theorem toNat_storedDuration {dur : BitVec 64} {periods : BitVec 32} {unit : BitVec 8}
    (hdur : dur.toNat < 2 ^ 32)
    (hunit : unit = 0 ∧ dur.toNat ≤ 63 * periods.toNat ∨
      unit = 1 ∧ dur.toNat ≤ 255 * periods.toNat) :
    ((((dur <<< 10 / periods.setWidth 64).setWidth 32 : BitVec 32) >>>
        if unit ≠ 0 then 10 else 8).setWidth 8 : BitVec 8).toNat =
      dur.toNat * 1024 / (periods.toNat * unitUs unit) := by
  have hquotient : (dur <<< 10 / periods.setWidth 64).toNat = dur.toNat * 1024 / periods.toNat := by
    rw [BitVec.toNat_udiv, BitVec.toNat_shiftLeft, Nat.shiftLeft_eq, Nat.mod_eq_of_lt (by omega),
      BitVec.toNat_setWidth_of_le (by decide)]
  have hlt : ∀ k, dur.toNat ≤ k * periods.toNat →
      dur.toNat * 1024 / periods.toNat ≤ k * 1024 := by
    intro k hk
    apply Nat.div_le_of_le_mul
    calc dur.toNat * 1024 ≤ k * periods.toNat * 1024 := Nat.mul_le_mul_right _ hk
      _ = periods.toNat * (k * 1024) := by rw [Nat.mul_comm k, Nat.mul_assoc]
  rw [← Nat.div_div_eq_div_mul, BitVec.toNat_setWidth, BitVec.toNat_ushiftRight,
    BitVec.toNat_setWidth, hquotient, Nat.shiftRight_eq_div_pow]
  rcases hunit with ⟨rfl, hshort⟩ | ⟨rfl, hlong⟩
  · have hle := hlt 63 hshort
    show dur.toNat * 1024 / periods.toNat % 2 ^ 32 / 2 ^ 8 % 2 ^ 8 =
      dur.toNat * 1024 / periods.toNat / 256
    omega
  · have hle := hlt 255 hlong
    show dur.toNat * 1024 / periods.toNat % 2 ^ 32 / 2 ^ 10 % 2 ^ 8 =
      dur.toNat * 1024 / periods.toNat / 1024
    omega

/-- **What an accepted configuration stores.** -/
theorem storedConfig_spec
    (h : user.useCaseBasedTwtParamsConfiguration cfg = some (some cfg')) :
    Stored user cfg cfg' := by
  by_cases hdevice : user.deviceAvgThroughput = 0
  · rw [useCaseBasedTwtParamsConfiguration, calculateMinRequiredWakeDur_none hdevice] at h
    exact absurd h.symm (Option.some_ne_none _)
  obtain ⟨dur, hdur, hrequired⟩ := calculateMinRequiredWakeDur_eq hdevice
  have hmax := user.maxInterval_lt
  have hhalf : ((user.maxAllowedWakeInterval >>> 1).setWidth 64 : BitVec 64).toNat =
      user.maxInterval / 2 := by
    rw [BitVec.toNat_setWidth_of_le (by decide), BitVec.toNat_ushiftRight,
      toNat_maxAllowedWakeInterval, Nat.shiftRight_eq_div_pow]
  rw [useCaseBasedTwtParamsConfiguration] at h
  simp only [hdur, Option.bind_eq_bind, Option.bind_some] at h
  by_cases hlong : dur > (user.maxAllowedWakeInterval >>> 1).setWidth 64
  · rw [if_pos hlong] at h
    exact absurd (Option.some.inj h).symm (Option.some_ne_none _)
  rw [if_neg hlong] at h
  rw [gt_iff_lt, BitVec.lt_def, hhalf, hrequired, Nat.not_lt] at hlong
  have hsmall : dur.toNat < 2 ^ 32 := by omega
  -- without a required duration the division by that of a service period stops
  have hperSp : (user.wakeDurationPerSp cfg dur).1 ≠ 0 := by
    intro hzero
    rw [hzero, numTwtServicePeriods_none] at h
    exact absurd h.symm (Option.some_ne_none _)
  obtain ⟨hpositive, periods, hperiods, hservice⟩ :=
    servicePeriods_spec cfg dur hsmall hrequired hperSp
  have hne : periods.setWidth 64 ≠ (0 : BitVec 64) := by
    intro hzero
    have hnat := congrArg BitVec.toNat hzero
    rw [BitVec.toNat_setWidth_of_le (by decide), hservice] at hnat
    exact absurd hnat (Nat.ne_of_gt (servicePeriods_pos hpositive))
  rw [hperiods, Option.bind_some, div64U64, if_neg hne, Option.bind_some] at h
  obtain rfl := Option.some.inj (Option.some.inj h)
  have hunit := wakeDurationPerSp_unit cfg dur hrequired hpositive
  refine
    { positive := hpositive
      half := hlong
      duration := ?_
      mantissa := ?_
      unit := hunit.imp And.left And.left
      fields := ⟨_, _, rfl⟩
      computed := ⟨dur, periods, hdur, hrequired, hperiods, hservice⟩ }
  · rw [← hservice, ← hrequired] at hunit
    rw [← hservice, ← hrequired]
    exact toNat_storedDuration hsmall hunit
  · show (((user.maxAllowedWakeInterval.setWidth 64 / periods.setWidth 64 : BitVec 64).setWidth 32 :
      BitVec 32).setWidth 16 : BitVec 16).toNat = _
    rw [BitVec.toNat_setWidth, BitVec.toNat_setWidth, BitVec.toNat_udiv, toNat_maxTwtWi,
      BitVec.toNat_setWidth_of_le (by decide), hservice, Nat.mod_mod_of_dvd _ (by decide)]

/-! ## Nothing is lost -/

namespace Stored

theorem unitUs_pos {w : ℕ} (unit : BitVec w) : 0 < unitUs unit := by
  rw [unitUs]
  split <;> decide

/-- The durations lose less than a unit each. -/
theorem duration_bounds (h : Stored user cfg cfg') :
    durationUs cfg'.wakeDuration cfg'.twtWakeDurationUnit * user.servicePeriods cfg ≤
        user.requiredDuration * 1024 ∧
      user.requiredDuration * 1024 <
        durationUs cfg'.wakeDuration cfg'.twtWakeDurationUnit * user.servicePeriods cfg +
          unitUs cfg'.twtWakeDurationUnit * user.servicePeriods cfg := by
  have hproduct : durationUs cfg'.wakeDuration cfg'.twtWakeDurationUnit *
      user.servicePeriods cfg = cfg'.wakeDuration.toNat *
        (user.servicePeriods cfg * unitUs cfg'.twtWakeDurationUnit) := by
    rw [Nat.mul_comm (user.servicePeriods cfg), ← Nat.mul_assoc]
    rfl
  have hunit : 0 < user.servicePeriods cfg * unitUs cfg'.twtWakeDurationUnit :=
    Nat.mul_pos (servicePeriods_pos h.positive) (unitUs_pos _)
  rw [hproduct, h.duration, Nat.mul_comm (unitUs _)]
  constructor
  · exact Nat.div_mul_le_self _ _
  · rw [← Nat.add_one_mul, Nat.mul_comm (_ + 1)]
    exact Nat.lt_mul_div_succ _ hunit

/-- The interval is stored as it is. -/
theorem mantissa_eq (h : Stored user cfg cfg')
    (hfits : user.maxInterval / user.servicePeriods cfg < 2 ^ 16) :
    cfg'.wakeIntMantissa.toNat = user.maxInterval / user.servicePeriods cfg := by
  rw [h.mantissa, Nat.mod_eq_of_lt hfits]

/-- **Nothing is lost just when the interval of a period fits in 16 bits.** -/
theorem nothingLost_iff (h : Stored user cfg cfg') :
    NothingLost user cfg' (user.servicePeriods cfg) ↔
      user.maxInterval / user.servicePeriods cfg < 2 ^ 16 := by
  have hperiods := @servicePeriods_pos user cfg h.positive
  constructor
  · intro hnothing
    have hlt := hnothing.lt_interval
    rw [← Nat.add_one_mul] at hlt
    -- the mantissa is one of 16 bits, and the interval of a period is not above it
    have hquotient := Nat.div_lt_of_lt_mul (Nat.mul_comm _ (user.servicePeriods cfg) ▸ hlt)
    have hmantissa := cfg'.wakeIntMantissa.isLt
    omega
  · intro hfits
    obtain ⟨hle, hlt⟩ := h.duration_bounds
    refine ⟨hle, hlt, ?_, ?_⟩
    · rw [h.mantissa_eq hfits]
      exact Nat.div_mul_le_self _ _
    · rw [h.mantissa_eq hfits, ← Nat.add_one_mul, Nat.mul_comm]
      exact Nat.lt_mul_div_succ _ hperiods

/-! ## What is asked for -/

/-- The wake duration is 1 ms at least, and about half the interval at most. -/
theorem request_bounds (h : Stored user cfg cfg')
    (hfits : user.maxInterval / user.servicePeriods cfg < 2 ^ 16) :
    1024 ≤ durationUs cfg'.wakeDuration cfg'.twtWakeDurationUnit ∧
      2 * durationUs cfg'.wakeDuration cfg'.twtWakeDurationUnit <
        (cfg'.wakeIntMantissa.toNat + 1) * 1024 ∧
      cfg'.wakeIntMantissa.toNat ≤ user.maxInterval := by
  have hperiods := @servicePeriods_pos user cfg h.positive
  have hfew := @servicePeriods_le user cfg
  have hhalf := h.half
  obtain ⟨hle, hlt⟩ := h.duration_bounds
  have hmantissa := h.mantissa_eq hfits
  refine ⟨?_, ?_, by rw [hmantissa]; exact Nat.div_le_self _ _⟩
  · -- a period is 1 ms at least, and its duration a multiple of the unit
    rw [← Nat.add_mul] at hlt
    have hmore : 1024 * user.servicePeriods cfg < (durationUs cfg'.wakeDuration
        cfg'.twtWakeDurationUnit + unitUs cfg'.twtWakeDurationUnit) * user.servicePeriods cfg := by
      omega
    have hless := Nat.lt_of_mul_lt_mul_right hmore
    rcases h.unit with hunit | hunit
    · rw [hunit] at hless ⊢
      simp only [durationUs, unitUs, ne_eq, not_true_eq_false, if_false] at hless ⊢
      omega
    · rw [hunit] at hless ⊢
      have hone : (1 : BitVec 8) ≠ 0 := by decide
      simp only [durationUs, unitUs, if_pos hone] at hless ⊢
      omega
  · have hmax := Nat.lt_mul_div_succ user.maxInterval hperiods
    rw [← hmantissa] at hmax
    apply Nat.lt_of_mul_lt_mul_left (a := user.servicePeriods cfg)
    calc user.servicePeriods cfg * (2 * durationUs cfg'.wakeDuration cfg'.twtWakeDurationUnit)
        = 2 * (durationUs cfg'.wakeDuration cfg'.twtWakeDurationUnit *
            user.servicePeriods cfg) := by rw [Nat.mul_left_comm, Nat.mul_comm _ (durationUs _ _)]
      _ ≤ user.maxInterval * 1024 := by omega
      _ < user.servicePeriods cfg * (cfg'.wakeIntMantissa.toNat + 1) * 1024 :=
          Nat.mul_lt_mul_of_pos_right hmax (by decide)
      _ = user.servicePeriods cfg * ((cfg'.wakeIntMantissa.toNat + 1) * 1024) :=
          Nat.mul_assoc _ _ _

/-- The fields that the automatic configuration fixes. -/
theorem fixed_fields (h : Stored user cfg cfg') :
    cfg'.twtEnable = 1 ∧ cfg'.reqType = TWT_SETUP_CMD_SUGGEST ∧ cfg'.wakeIntExp = 10 ∧
      cfg'.triggeredTwt = 0 ∧ cfg'.implicitTwt = 1 ∧ cfg'.unAnnouncedTwt = 0 ∧
      cfg'.negotiationType = 0 ∧ cfg'.twtProtection = 0 := by
  obtain ⟨perSp, mantissa, hcfg⟩ := h.fields
  rw [hcfg]
  exact ⟨rfl, rfl, rfl, rfl, rfl, rfl, rfl, rfl⟩

/-- The element of the setup frame. -/
theorem setupElement_eq (h : Stored user cfg cfg') :
    cfg'.setupElement false none = some { cfg'.requestElement with
      reqTypeTwtWiExp := cfg'.wakeIntExp.setWidth 5
      nomMinWakeDuration := cfg'.wakeDuration
      wakeIntervalMantisa := cfg'.wakeIntMantissa } := by
  have henable : cfg'.twtEnable ≠ 0 := by
    rw [h.fixed_fields.1]
    decide
  rw [TwtConfig.setupElement, if_pos henable]
  rfl

variable {fr : TwtSetupFrame} {request : TwtElement}

/-- A grant has the interval and the duration of the request. -/
theorem echo_interval (h : Stored user cfg cfg')
    (hrequest : cfg'.setupElement false none = some request) (hecho : Echoes request fr) :
    fr.twtElement.interval = cfg'.wakeIntMantissa.toNat * 1024 ∧
      durationUs fr.twtElement.nomMinWakeDuration fr.twtElement.controlWakeDurationUnit =
        durationUs cfg'.wakeDuration cfg'.twtWakeDurationUnit := by
  rw [h.setupElement_eq] at hrequest
  obtain rfl := Option.some.inj hrequest
  refine ⟨?_, ?_⟩
  · rw [TwtElement.interval, hecho.mantissa, hecho.exponent]
    dsimp only
    rw [h.fixed_fields.2.2.1]
    rfl
  · rw [hecho.duration, hecho.unit]
    show durationUs cfg'.wakeDuration (cfg'.twtWakeDurationUnit.setWidth 1) = _
    rcases h.unit with hunit | hunit
    · rw [hunit]
      rfl
    · rw [hunit]
      rfl

/-- The flags of the request. -/
theorem echo_flags (h : Stored user cfg cfg')
    (hrequest : cfg'.setupElement false none = some request) (hecho : Echoes request fr) :
    fr.twtElement.reqTypeFlowType = 0 ∧ fr.twtElement.controlNegotiationType = 0 ∧
      fr.twtElement.reqTypeTwtProtection = 0 ∧ flagsDiffer cfg' fr.twtElement = false := by
  obtain ⟨-, -, -, htrigger, himplicit, hflow, hnegotiation, hprotection⟩ := h.fixed_fields
  rw [h.setupElement_eq] at hrequest
  obtain rfl := Option.some.inj hrequest
  rw [flagsDiffer, hecho.flowType, hecho.negotiationType, hecho.protection, hecho.trigger,
    hecho.implicit]
  dsimp only [TwtConfig.requestElement]
  rw [htrigger, himplicit, hflow, hnegotiation, hprotection]
  exact ⟨rfl, rfl, rfl, rfl⟩

/-- A grant of what was asked for is supported. -/
theorem echo_supported (h : Stored user cfg cfg')
    (hfits : user.maxInterval / user.servicePeriods cfg < 2 ^ 16)
    (hrequest : cfg'.setupElement false none = some request) (hecho : Echoes request fr) :
    validateUnsupportedTwtRespParams true fr = false := by
  obtain ⟨hflow, hnegotiation, hprotection, -⟩ := h.echo_flags hrequest hecho
  obtain ⟨hinterval, hduration⟩ := h.echo_interval hrequest hecho
  obtain ⟨hlong, hshort, -⟩ := h.request_bounds hfits
  rw [validateUnsupportedTwtRespParams_eq_false_iff]
  refine ⟨?_, not_and_of_not_right _ (not_not.2 hflow), hecho.dialogToken, hnegotiation,
    hprotection, ?_, ?_, ?_⟩
  · rw [hecho.setupCommand]
    exact not_and_of_not_right _ (by decide)
  · intro hzero
    rw [durationUs, hzero, show (0 : BitVec 8).toNat = 0 from rfl, Nat.zero_mul] at hduration
    omega
  · intro hzero
    rw [TwtElement.interval, hzero, show (0 : BitVec 16).toNat = 0 from rfl, Nat.zero_mul]
      at hinterval
    omega
  · rw [hinterval, hduration]
    omega

/-- It is in the range of the user. -/
theorem echo_inRange (h : Stored user cfg cfg')
    (hfits : user.maxInterval / user.servicePeriods cfg < 2 ^ 16)
    (hrequest : cfg'.setupElement false none = some request) (hecho : Echoes request fr) :
    fr.twtElement.InRange user := by
  obtain ⟨hinterval, hduration⟩ := h.echo_interval hrequest hecho
  obtain ⟨-, hshort, hle⟩ := h.request_bounds hfits
  have htolerable : user.maxInterval ≤ user.tolerableInterval := by
    rw [TwtSelection.tolerableInterval, Nat.le_div_iff_mul_le (by decide)]
    exact Nat.mul_le_mul_left _ (Nat.le_add_right 100 _)
  rw [TwtElement.InRange, hinterval, hduration]
  omega

end Stored

/-- A number never exceeds the upper percentage of itself. -/
theorem not_abovePercentage {n : BitVec 64} (hn : n.toNat < 2 ^ 55) (deviation : BitVec 8) :
    ¬ n > n * (100 + deviation.setWidth 64) / 100 := by
  have hdeviation := deviation.isLt
  rw [gt_iff_lt, BitVec.lt_def, BitVec.toNat_udiv, toNat_mul_percent (by omega), Nat.not_lt]
  show n.toNat ≤ n.toNat * (100 + deviation.toNat) / 100
  rw [Nat.le_div_iff_mul_le (by decide)]
  exact Nat.mul_le_mul_left _ (Nat.le_add_right 100 _)

/-- Above 100 the lower percentage wraps: a positive number times a factor that is a little less
than `2 ^ 64` is a little less than `2 ^ 64` too. -/
theorem mul_percentBelow_wraps {n : BitVec 64} (hn : n.toNat < 2 ^ 55) (hpositive : 0 < n.toNat)
    {deviation : BitVec 8} (hlarge : 100 < deviation.toNat) :
    n.toNat * (percentBelow deviation).toNat % 2 ^ 64 =
      2 ^ 64 - n.toNat * (deviation.toNat - 100) := by
  have hdeviation := deviation.isLt
  have hfactor : (percentBelow deviation).toNat + (deviation.toNat - 100) = 2 ^ 64 := by
    have hint := toInt_percentBelow deviation
    have hcond := BitVec.toInt_eq_toNat_cond (percentBelow deviation)
    split at hcond
    · omega
    · omega
  have hexcess : n.toNat * (deviation.toNat - 100) ≤ n.toNat * 155 :=
    Nat.mul_le_mul_left _ (by omega)
  have hleast : n.toNat * 1 ≤ n.toNat * (deviation.toNat - 100) :=
    Nat.mul_le_mul_left _ (by omega)
  have hsum : n.toNat * (percentBelow deviation).toNat +
      n.toNat * (deviation.toNat - 100) = (n.toNat - 1) * 2 ^ 64 + 2 ^ 64 := by
    rw [← Nat.mul_add, hfactor, ← Nat.add_one_mul, Nat.sub_add_cancel hpositive]
  generalize n.toNat * (percentBelow deviation).toNat = product at hsum ⊢
  omega

/-- So a number is below its lower percentage just when that has wrapped. -/
theorem belowPercentage_iff {n : BitVec 64} (hn : n.toNat < 2 ^ 55) (hpositive : 0 < n.toNat)
    (deviation : BitVec 8) :
    n < n * percentBelow deviation / 100 ↔ ¬ deviation.toNat ≤ 100 := by
  have hdeviation := deviation.isLt
  rw [BitVec.lt_def, BitVec.toNat_udiv, BitVec.toNat_mul]
  show n.toNat < n.toNat * (percentBelow deviation).toNat % 2 ^ 64 / 100 ↔ _
  by_cases hle : deviation.toNat ≤ 100
  · have hfactor : (percentBelow deviation).toNat = 100 - deviation.toNat := by
      have hint := (toNat_percentBelow_iff deviation).2 hle
      omega
    have hproduct : n.toNat * (100 - deviation.toNat) ≤ n.toNat * 100 :=
      Nat.mul_le_mul_left _ (Nat.sub_le _ _)
    rw [hfactor, Nat.mod_eq_of_lt (by omega)]
    omega
  · have hexcess : n.toNat * (deviation.toNat - 100) ≤ n.toNat * 155 :=
      Nat.mul_le_mul_left _ (by omega)
    rw [mul_percentBelow_wraps hn hpositive (Nat.not_le.1 hle)]
    omega

/-- A value is between its two percentages just when the lower one does not wrap. -/
theorem between_percentages {n : BitVec 64} (hn : n.toNat < 2 ^ 55) (hpositive : 0 < n.toNat)
    (deviation : BitVec 8) :
    (!(decide (n < n * percentBelow deviation / 100) ||
      decide (n > n * (100 + deviation.setWidth 64) / 100))) = decide (deviation.toNat ≤ 100) := by
  have hbelow := belowPercentage_iff hn hpositive deviation
  rw [decide_eq_false (not_abovePercentage hn deviation), Bool.or_false]
  by_cases hle : deviation.toNat ≤ 100
  · rw [decide_eq_false (hbelow.not.2 (not_not.2 hle)), decide_eq_true hle]
    rfl
  · rw [decide_eq_true (hbelow.2 hle), decide_eq_false hle]
    rfl

/-- The interval of the request in ms. -/
theorem Stored.toNat_reqTwtWi (h : Stored user cfg cfg') :
    (cfg'.wakeInterval >>> 10).toNat = cfg'.wakeIntMantissa.toNat := by
  have hmantissa := cfg'.wakeIntMantissa.isLt
  have hcfg : cfg'.interval = cfg'.wakeIntMantissa.toNat * 1024 := by
    rw [TwtConfig.interval, h.fixed_fields.2.2.1]
    rfl
  rw [TwtConfig.toNat_reqTwtWi, hcfg]
  omega

/-- The grant has the same interval in ms. -/
theorem Stored.echo_respTwtWi (h : Stored user cfg cfg')
    (hrequest : cfg'.setupElement false none = some request) (hecho : Echoes request fr) :
    fr.twtElement.wakeInterval >>> 10 = cfg'.wakeInterval >>> 10 := by
  apply BitVec.eq_of_toNat_eq
  rw [h.toNat_reqTwtWi, TwtElement.toNat_respTwtWi, (h.echo_interval hrequest hecho).1,
    Nat.mul_div_cancel _ (by decide)]

/-- And the same duration in ms. -/
theorem Stored.echo_durationMs (h : Stored user cfg cfg')
    (hrequest : cfg'.setupElement false none = some request) (hecho : Echoes request fr) :
    (fr.twtElement.nomMinWakeDuration.setWidth 32 <<<
        if fr.twtElement.controlWakeDurationUnit ≠ 0 then 10 else 8) >>> 10 =
      ((cfg'.wakeDuration.setWidth 32 <<<
        if cfg'.twtWakeDurationUnit ≠ 0 then 10 else 8) >>> 10 : BitVec 32) := by
  apply BitVec.eq_of_toNat_eq
  rw [toNat_durationMs, toNat_durationMs, (h.echo_interval hrequest hecho).2]

/-- The quotient of the intervals of the longest and of the asked-for period fits in 32 bits. -/
theorem Stored.setWidth_quotient (h : Stored user cfg cfg') :
    ((user.maxAllowedWakeInterval.setWidth 64 / cfg'.wakeInterval >>> 10).setWidth 32 :
      BitVec 32).setWidth 64 =
        user.maxAllowedWakeInterval.setWidth 64 / cfg'.wakeInterval >>> 10 := by
  apply BitVec.eq_of_toNat_eq
  rw [BitVec.toNat_setWidth_of_le (by decide), BitVec.toNat_setWidth, BitVec.toNat_udiv,
    toNat_maxTwtWi, h.toNat_reqTwtWi]
  exact Nat.mod_eq_of_lt (Nat.lt_of_le_of_lt (Nat.div_le_self _ _) user.maxInterval_lt)

/-- **How the check decides on a grant of what was asked for.** -/
theorem doesTwtResponseMatch_echo (h : Stored user cfg cfg')
    (hfits : user.maxInterval / user.servicePeriods cfg < 2 ^ 16)
    (hrequest : cfg'.setupElement false none = some request) (hecho : Echoes request fr) :
    doesTwtResponseMatchUserRequirement user cfg' fr.twtElement =
      some (decide (user.twtTolerableDeviation.toNat ≤ 100)) := by
  obtain ⟨hflow, -, -, -⟩ := h.echo_flags hrequest hecho
  obtain ⟨hlong, hshort, hle⟩ := h.request_bounds hfits
  have hin := (fr.twtElement.not_inRange_iff user).not.2
    (not_not.2 (h.echo_inRange hfits hrequest hecho))
  have hreq := h.toNat_reqTwtWi
  have hwide := h.setWidth_quotient
  have hne : cfg'.wakeInterval >>> 10 ≠ 0 := by
    intro hzero
    rw [hzero, show (0 : BitVec 64).toNat = 0 from rfl] at hreq
    omega
  -- both count the same number of periods, of the same duration
  have hpositive : 0 < user.maxInterval / cfg'.wakeIntMantissa.toNat :=
    Nat.div_pos hle (by omega)
  have hperiods : (user.maxAllowedWakeInterval.setWidth 64 / cfg'.wakeInterval >>> 10).setWidth 32 ≠
      (0 : BitVec 32) := by
    intro hzero
    have hnat := congrArg BitVec.toNat (hwide.symm.trans (congrArg (BitVec.setWidth 64) hzero))
    rw [BitVec.toNat_udiv, hreq, toNat_maxTwtWi] at hnat
    exact absurd hnat (Nat.ne_of_gt hpositive)
  obtain ⟨hproduct, hsmall⟩ := toNat_requiredMs user cfg'.wakeDuration cfg'.twtWakeDurationUnit
    (cfg'.wakeInterval >>> 10)
  rw [doesTwtResponseMatchUserRequirement, if_neg (not_not.2 hflow)]
  dsimp only
  rw [if_neg hin, h.echo_respTwtWi hrequest hecho, div64U64, if_neg hne]
  simp only [Option.bind_eq_bind, Option.bind_some]
  rw [if_pos hperiods, hwide, h.echo_durationMs hrequest hecho, BitVec.mul_comm]
  refine congrArg some (between_percentages ?_ ?_ user.twtTolerableDeviation)
  · rwa [hproduct]
  · rw [hproduct, hreq]
    exact Nat.mul_pos (Nat.div_pos hlong (by decide)) hpositive

end TwtSelection

/-! ## No teardown -/

namespace TwtAdapter

variable {a : TwtAdapter} {o : Outcomes} {fr : TwtSetupFrame}

theorem teardowns_sendSetupDetails (a : TwtAdapter) :
    (a.sendSetupDetails o fr).teardowns = a.teardowns := by
  rw [sendSetupDetails]
  split
  · rfl
  · rfl

/-- A grant in tolerance of a suggestion is not answered by a teardown. -/
theorem mgmtProcessTwtSetupResp_inTolerance (hauto : a.twtAutoConfigEnable = true)
    (hreq : a.rsiTwtConfig.reqType = TWT_SETUP_CMD_SUGGEST)
    (hcmd : fr.twtElement.setupCommand = TWT_SETUP_CMD_ACCEPT)
    (hsupported : validateUnsupportedTwtRespParams true fr = false)
    (htolerance : suggestOutOfTol true a.userTwtAutoConfig a.rsiTwtConfig fr.twtElement =
      some false) :
    ∃ a', a.mgmtProcessTwtSetupResp o fr = some a' ∧ a'.teardowns = a.teardowns := by
  obtain ⟨hauto', huser', hcfg', hteardowns, -⟩ := a.stopRetries_spec
  have hsuggest : ¬ (a.stopRetries.rsiTwtConfig.reqType ≠ TWT_SETUP_CMD_REQUEST ∧
      a.stopRetries.rsiTwtConfig.reqType ≠ TWT_SETUP_CMD_SUGGEST ∧
        a.stopRetries.rsiTwtConfig.reqType ≠ TWT_SETUP_CMD_DEMAND) := by
    rw [hcfg', hreq]
    decide
  have hother : ¬ a.stopRetries.rsiTwtConfig.reqType = TWT_SETUP_CMD_REQUEST := by
    rw [hcfg', hreq]
    decide
  have hresp : a.stopRetries.respByReqType o fr = some (a.stopRetries.respAccepted o fr) := by
    rw [respByReqType, if_neg hsuggest, if_pos (Or.inl hcmd), if_neg hother, hcfg', if_pos hreq,
      respToSuggest, hauto', hauto, huser', hcfg', htolerance]
    simp only [Option.map_some, Bool.false_eq_true, if_false, if_pos hcmd]
  rw [mgmtProcessTwtSetupResp, hauto', hauto, hsupported, if_neg Bool.false_ne_true, hresp]
  refine ⟨_, rfl, ?_⟩
  show (sendSetupDetails _ o fr).teardowns = a.teardowns
  rw [teardowns_sendSetupDetails]
  exact hteardowns

end TwtAdapter

/-! ## The configuration and the check together -/

section Consistency

variable {user : TwtSelection} {cfg cfg' : TwtConfig} {fr : TwtSetupFrame} {request : TwtElement}

/-- A grant of what was asked for satisfies the user. -/
theorem TwtSelection.Stored.echo_satisfies (h : Stored user cfg cfg')
    (hfits : user.maxInterval / user.servicePeriods cfg < 2 ^ 16)
    (hdeviation : user.twtTolerableDeviation.toNat ≤ 100)
    (hrequest : cfg'.setupElement false none = some request) (hecho : Echoes request fr) :
    Satisfies user cfg' fr := by
  have hsupported := h.echo_supported hfits hrequest hecho
  have hmatch : doesTwtResponseMatchUserRequirement user cfg' fr.twtElement = some true := by
    rw [doesTwtResponseMatch_echo h hfits hrequest hecho, decide_eq_true hdeviation]
  obtain ⟨-, -, -, hflags⟩ := h.echo_flags hrequest hecho
  refine ⟨hsupported, hmatch, fun a o hauto huser hcfg => ?_⟩
  have hreq : a.rsiTwtConfig.reqType = TWT_SETUP_CMD_SUGGEST := by
    rw [hcfg]
    exact h.fixed_fields.2.1
  have htolerance : suggestOutOfTol true a.userTwtAutoConfig a.rsiTwtConfig fr.twtElement =
      some false := by
    rw [suggestOutOfTol, huser, hcfg, hflags, if_neg Bool.false_ne_true, if_pos rfl, hmatch]
    rfl
  exact TwtAdapter.mgmtProcessTwtSetupResp_inTolerance hauto hreq hecho.setupCommand hsupported
    htolerance

/-- The grant that an access point makes of a request. -/
def grantOf (request : TwtElement) : TwtSetupFrame :=
  ⟨1, { request with reqTypeTwtSetupCommand := 4 }⟩

theorem echoes_grantOf (request : TwtElement) : Echoes request (grantOf request) :=
  ⟨rfl, rfl, rfl, rfl, rfl, rfl, rfl, rfl, rfl, rfl, rfl⟩

/-- The interval of a service period fits in 16 bits just when more than one period is needed for
every 65536 ms. -/
theorem TwtSelection.Stored.interval_lt_iff (h : Stored user cfg cfg') :
    user.maxInterval / user.servicePeriods cfg < 2 ^ 16 ↔
      user.durationCap cfg * (user.maxInterval / 65536) < user.requiredDuration := by
  rw [Nat.div_lt_iff_lt_mul (servicePeriods_pos h.positive), Nat.mul_comm,
    ← Nat.div_lt_iff_lt_mul (by decide), ← Nat.not_le, ← Nat.not_le, servicePeriods,
    ceilDiv_le_iff_le_mul (user.durationCap_pos cfg)]
  exact Iff.rfl

/-- **Which accepted configurations are self-consistent**: those that need more wake duration than
one service period for every 65536 ms, of a user who tolerates a deviation of 100 percent at
most. -/
theorem selfConsistent_iff (user : TwtSelection) (cfg cfg' : TwtConfig)
    (h : user.useCaseBasedTwtParamsConfiguration cfg = some (some cfg')) :
    SelfConsistent user cfg' (user.servicePeriods cfg) ↔
      user.durationCap cfg * (user.maxInterval / 65536) < user.requiredDuration ∧
        user.twtTolerableDeviation.toNat ≤ 100 := by
  have hstored := TwtSelection.storedConfig_spec h
  rw [← hstored.interval_lt_iff]
  constructor
  · intro hconsistent
    have hfits := hstored.nothingLost_iff.1 hconsistent.nothingLost
    refine ⟨hfits, ?_⟩
    -- the grant that repeats the request is one of those that have to be accepted
    have hecho := echoes_grantOf { cfg'.requestElement with
      reqTypeTwtWiExp := cfg'.wakeIntExp.setWidth 5
      nomMinWakeDuration := cfg'.wakeDuration
      wakeIntervalMantisa := cfg'.wakeIntMantissa }
    have hmatch := (hconsistent.echo _ _ hstored.setupElement_eq hecho).inTolerance
    rw [TwtSelection.doesTwtResponseMatch_echo hstored hfits hstored.setupElement_eq hecho]
      at hmatch
    exact of_decide_eq_true (Option.some.inj hmatch)
  · rintro ⟨hfits, hdeviation⟩
    exact ⟨hstored.nothingLost_iff.2 hfits, fun request fr hrequest hecho =>
      hstored.echo_satisfies hfits hdeviation hrequest hecho⟩

end Consistency

/-- What `moderateUser` is given. -/
theorem selfConsistent_moderateUser :
    SelfConsistent moderateUser
      (((moderateUser.useCaseBasedTwtParamsConfiguration (requestOf 0)).get rfl).get rfl)
      (moderateUser.servicePeriods (requestOf 0)) :=
  (selfConsistent_iff moderateUser (requestOf 0) _ rfl).2 ⟨by decide, by decide⟩

/-- A user with latencies of 70 s, and one who tolerates a deviation of 150 percent. -/
def patientUser : TwtSelection := ⟨1, 1, 70000, 70000, 10000, 10, 20, 70000, 8, 1⟩

def tolerantUser : TwtSelection := { moderateUser with twtTolerableDeviation := 150 }

/-- The interval of the one loses its upper bits, and the other refuses what was asked for. -/
theorem not_selfConsistent :
    (¬ ∀ user cfg cfg', user.useCaseBasedTwtParamsConfiguration cfg = some (some cfg') →
      0 < user.expectedTxThroughput.toNat → 0 < user.deviceAvgThroughput.toNat →
        0 < user.rxLatency.toNat → 0 < user.txLatency.toNat →
          NothingLost user cfg' (user.servicePeriods cfg)) ∧
    ¬ ∀ user cfg cfg', user.useCaseBasedTwtParamsConfiguration cfg = some (some cfg') →
      0 < user.expectedTxThroughput.toNat → 0 < user.deviceAvgThroughput.toNat →
        0 < user.rxLatency.toNat → 0 < user.txLatency.toNat →
          ∀ request fr, cfg'.setupElement false none = some request → Echoes request fr →
            Satisfies user cfg' fr := by
  constructor
  · intro hall
    have hnothing := hall patientUser (requestOf 0) _ rfl (by decide) (by decide) (by decide)
      (by decide)
    rw [(TwtSelection.storedConfig_spec rfl).nothingLost_iff] at hnothing
    exact absurd hnothing (by decide)
  · intro hall
    have hsatisfies := hall tolerantUser (requestOf 0) _ rfl (by decide) (by decide) (by decide)
      (by decide) _ _ rfl (echoes_grantOf _)
    have hmatch := hsatisfies.inTolerance
    rw [TwtSelection.doesTwtResponseMatch_echo (TwtSelection.storedConfig_spec rfl) (by decide) rfl
      (echoes_grantOf _)] at hmatch
    exact absurd hmatch (by decide)

end Twt
