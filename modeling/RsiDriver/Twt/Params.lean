import RsiDriver.Twt.Frames

/-!
# Target wake time: checks and computations on the parameters

What the driver computes from a user configuration and from a response, without reading or writing
any state: the parameters of the automatic configuration, the validity check of a response, and the
checks that a response is within what the user asked for. The arithmetic keeps the widths of the
source; a division by zero, on which the kernel stops, is `none`.
-/

namespace Twt

/-- `div64_u64`. -/
def div64U64 (dividend divisor : BitVec 64) : Option (BitVec 64) :=
  if divisor = 0 then none else some (dividend / divisor)

/-- `MIN_OF_2`. -/
def minOf2 (x y : BitVec 32) : BitVec 32 := if x > y then y else x

/-- `MIN_OF_3`. -/
def minOf3 (a b c : BitVec 32) : BitVec 32 :=
  if a > b then (if b > c then c else b) else if a > c then c else a

/-! ## The automatic configuration -/

namespace TwtSelection

/-- The longest wake interval that the latencies allow, in ms. -/
def maxAllowedWakeInterval (user : TwtSelection) : BitVec 32 :=
  if user.txLatency ≠ 0 then minOf3 user.rxLatency user.txLatency user.defaultWakeIntervalMs
  else minOf2 user.rxLatency user.defaultWakeIntervalMs

/-- `calculate_min_required_wake_dur`. -/
def calculateMinRequiredWakeDur (user : TwtSelection) (maxAllowedWakeIntervalMs : BitVec 32) :
    Option (BitVec 64) := do
  let dur ← div64U64
    (user.expectedTxThroughput.setWidth 64 * maxAllowedWakeIntervalMs.setWidth 64)
    (user.deviceAvgThroughput.setWidth 64)
  let dur := dur * (100 + user.estimatedExtraWakeDurationPercent.setWidth 64) / 100
  let least := user.defaultMinWakeDurationMs.setWidth 64
  return if dur < least then least else dur

/-- The wake duration of one service period in ms, and its unit. Once the unit is 1, a renewed
configuration always falls back to 0. -/
def wakeDurationPerSp (user : TwtSelection) (cfg : TwtConfig) (minWakeDuration : BitVec 64) :
    BitVec 32 × BitVec 8 :=
  if user.deviceAvgThroughput.setWidth 32 > user.expectedTxThroughput.setWidth 32 <<< 2
      ∨ cfg.twtWakeDurationUnit = 1 then
    (if minWakeDuration < 64 then minWakeDuration.setWidth 32 else 63, 0)
  else
    (if minWakeDuration < 256 then minWakeDuration.setWidth 32 else 255,
      if minWakeDuration < 64 then 0 else 1)

/-- The number of service periods that make up the wake duration. -/
def numTwtServicePeriods (minWakeDuration : BitVec 64) (perSp : BitVec 32) :
    Option (BitVec 32) := do
  let periods ← div64U64 minWakeDuration (perSp.setWidth 64)
  let rest := if minWakeDuration % perSp.setWidth 64 ≠ 0 then 1 else 0
  let periods := (periods + rest).setWidth 32
  return if periods ≠ 0 then periods else 1

/-- The configuration that `use_case_based_twt_params_configuration` stores. -/
def storedConfig (user : TwtSelection) (cfg : TwtConfig) (unit : BitVec 8)
    (wakeDurationPerSp wakeIntMantissa : BitVec 32) : TwtConfig :=
  { cfg with
    twtWakeDurationUnit := unit
    wakeDuration := (wakeDurationPerSp >>> if unit ≠ 0 then 10 else 8).setWidth 8
    wakeIntMantissa := wakeIntMantissa.setWidth 16
    wakeIntExp := 0xA
    wakeIntExpTol := 0xFF
    wakeIntMantissaTol := 0xFFFF
    implicitTwt := 1
    unAnnouncedTwt := 0
    triggeredTwt := 0
    twtChannel := 0
    twtProtection := 0
    restrictTxOutsideTsp := 1
    twtRetryLimit := 3
    twtRetryInterval := 10
    reqType := TWT_SETUP_CMD_SUGGEST
    negotiationType := 0
    twtFlowId := 0
    twtEnable := 1
    rxLatency := user.rxLatency
    beaconWakeUpCountAfterSp := user.beaconWakeUpCountAfterSp }

/-- `use_case_based_twt_params_configuration`: the configuration after it; inside, `none` is the
return code -1, before anything is written. -/
def useCaseBasedTwtParamsConfiguration (user : TwtSelection) (cfg : TwtConfig) :
    Option (Option TwtConfig) := do
  let maxAllowed := user.maxAllowedWakeInterval
  let minWakeDuration ← user.calculateMinRequiredWakeDur maxAllowed
  if minWakeDuration > (maxAllowed >>> 1).setWidth 64 then
    return none
  else
    let (perSp, unit) := user.wakeDurationPerSp cfg minWakeDuration
    let periods ← numTwtServicePeriods minWakeDuration perSp
    let perSp ← div64U64 (minWakeDuration <<< 10) (periods.setWidth 64)
    let mantissa := maxAllowed.setWidth 64 / periods.setWidth 64
    return some (user.storedConfig cfg unit (perSp.setWidth 32) (mantissa.setWidth 32))

end TwtSelection

/-! ## Checks of a response -/

/-- The wake interval of a response in microseconds, as the checks compute it. -/
def TwtElement.wakeInterval (el : TwtElement) : BitVec 64 :=
  el.wakeIntervalMantisa.setWidth 64 * ((1 : BitVec 64) <<< el.reqTypeTwtWiExp.toNat)

/-- The wake duration of a response in microseconds. -/
def TwtElement.wakeDurationUs (el : TwtElement) : BitVec 32 :=
  el.nomMinWakeDuration.setWidth 32 * if el.controlWakeDurationUnit ≠ 0 then 1024 else 256

/-- The wake interval that the user asked for. The exponent is a whole byte, of which the shift
uses six bits. -/
def TwtConfig.wakeInterval (cfg : TwtConfig) : BitVec 64 :=
  cfg.wakeIntMantissa.setWidth 64 * ((1 : BitVec 64) <<< (cfg.wakeIntExp.toNat % 64))

/-- The wake duration that the user asked for. -/
def TwtConfig.wakeDurationUs (cfg : TwtConfig) : BitVec 32 :=
  cfg.wakeDuration.setWidth 32 * if cfg.twtWakeDurationUnit ≠ 0 then 1024 else 256

/-- `validate_unsupported_twt_resp_params`: the response is one the driver does not support. -/
def validateUnsupportedTwtRespParams (autoConfigEnable : Bool) (fr : TwtSetupFrame) : Bool :=
  let el := fr.twtElement
  if el.reqTypeTwtReq = 1 ∧ el.setupCommand < 3 then true
  else if autoConfigEnable ∧ el.reqTypeFlowType ≠ 0 then true
  else if fr.dialogToken ≠ 1 then true
  else if el.controlNegotiationType ≠ 0 then true
  else if el.reqTypeTwtProtection ≠ 0 then true
  else
    el.nomMinWakeDuration == 0 || el.wakeIntervalMantisa == 0 ||
      decide (el.wakeDurationUs.setWidth 64 > el.wakeInterval)

/-- 100 less a percentage, as the source widens it: the `int` difference may be negative. -/
def percentBelow (deviation : BitVec 8) : BitVec 64 :=
  (100 - deviation.setWidth 32 : BitVec 32).signExtend 64

/-- `does_twt_response_match_user_requirement`. -/
def doesTwtResponseMatchUserRequirement (user : TwtSelection) (cfg : TwtConfig) (el : TwtElement) :
    Option Bool :=
  if el.reqTypeFlowType ≠ 0 then some false
  else
    let respTwtWi := el.wakeInterval >>> 10
    let respWakeDuration := (el.nomMinWakeDuration.setWidth 32 <<<
      if el.controlWakeDurationUnit ≠ 0 then 10 else 8) >>> 10
    let reqTwtWi := cfg.wakeInterval >>> 10
    let reqWakeDuration := (cfg.wakeDuration.setWidth 32 <<<
      if cfg.twtWakeDurationUnit ≠ 0 then 10 else 8) >>> 10
    let maxTwtWi := user.maxAllowedWakeInterval.setWidth 64
    let percentAbove := 100 + user.twtTolerableDeviation.setWidth 64
    let maxTwtWiTol := maxTwtWi * percentAbove / 100
    if respTwtWi > maxTwtWiTol ∨ respWakeDuration.setWidth 64 > respTwtWi >>> 1 then some false
    else do
      let periods ← div64U64 maxTwtWi respTwtWi
      let periods := periods.setWidth 32
      let periods := if periods ≠ 0 then periods else 1
      let total := periods.setWidth 64 * respWakeDuration.setWidth 64
      let required ← div64U64 maxTwtWi reqTwtWi
      let required := reqWakeDuration.setWidth 64 * required
      return !(decide (total < required * percentBelow user.twtTolerableDeviation / 100) ||
        decide (total > required * percentAbove / 100))

/-- The three flags of the response differ from those that the user asked for. -/
def flagsDiffer (cfg : TwtConfig) (el : TwtElement) : Bool :=
  el.reqTypeTrigger.setWidth 8 != cfg.triggeredTwt &&& 1 ||
    el.reqTypeImplicitTwt.setWidth 8 != cfg.implicitTwt &&& 1 ||
    el.reqTypeFlowType.setWidth 8 != cfg.unAnnouncedTwt &&& 1

/-- A value is off `wanted` by more than `tol`, downwards not below zero. -/
def outOfTol (value wanted tol : ℕ) : Bool :=
  decide (value < if wanted > tol then wanted - tol else 0) || decide (value > wanted + tol)

/-- The test of `rsi_mgmt_process_twt_setup_resp` on a response to a suggestion: it is out of
tolerance. -/
def suggestOutOfTol (autoConfigEnable : Bool) (user : TwtSelection) (cfg : TwtConfig)
    (el : TwtElement) : Option Bool :=
  if flagsDiffer cfg el then some true
  else if autoConfigEnable then (doesTwtResponseMatchUserRequirement user cfg el).map (!·)
  else some <|
    outOfTol el.nomMinWakeDuration.toNat cfg.wakeDuration.toNat cfg.wakeDurationTol.toNat ||
      outOfTol el.reqTypeTwtWiExp.toNat cfg.wakeIntExp.toNat cfg.wakeIntExpTol.toNat ||
      outOfTol el.wakeIntervalMantisa.toNat cfg.wakeIntMantissa.toNat cfg.wakeIntMantissaTol.toNat

/-- The test of `rsi_mgmt_process_twt_setup_resp` on a response to a demand: it is not what was
demanded. -/
def demandNotMatched (cfg : TwtConfig) (el : TwtElement) : Bool :=
  el.wakeDurationUs != cfg.wakeDurationUs || el.wakeInterval != cfg.wakeInterval ||
    flagsDiffer cfg el

/-- The decision on an `ACCEPT`: the response is supported and in keeping with the request. -/
def acceptsResp (autoConfigEnable : Bool) (user : TwtSelection) (cfg : TwtConfig)
    (fr : TwtSetupFrame) : Bool :=
  !validateUnsupportedTwtRespParams autoConfigEnable fr &&
    if cfg.reqType = TWT_SETUP_CMD_REQUEST then true
    else if cfg.reqType = TWT_SETUP_CMD_SUGGEST then
      suggestOutOfTol autoConfigEnable user cfg fr.twtElement == some false
    else if cfg.reqType = TWT_SETUP_CMD_DEMAND then !demandNotMatched cfg fr.twtElement
    else false

end Twt
