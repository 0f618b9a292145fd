import RsiDriver.Twt.SelfConsistency

/-!
# Target wake time: the `TWT_CONFIG` frame of an agreement

`send_twt_session_details_to_lmac` tells the LMAC of the session that a response grants. It computes
the wake interval a third time, after the validity check and the check of the request, and shifts
an `int` where the other two shift 64 bits: for the exponent 31 the product is negative, and what is
sent is not the interval that was checked. The receive latency less the interval is taken without a
sign, so a latency below the interval becomes a large one.

## Main results

* `toNat_detailsWakeInterval_iff`: the encoder and the checks use the same interval just when the
  exponent is not 31;
* `rxLatencyWords_iff`: the words of the latency are as they should be just when it is not below the
  interval;
* `encodesAgreement_iff`: which accepted responses are encoded as they were agreed on.
-/

namespace Twt

/-- `frame` is the agreement on `el`: the interval in microseconds in its two words, the duration in
microseconds, and the fields of the response. With the automatic configuration the latency that is
left after one interval, in units of 100 ms, is in the words 3 and 5. -/
structure EncodesAgreement (autoConfigEnable : Bool) (cfg : TwtConfig) (el : TwtElement)
    (frame : TwtSessionConfig) : Prop where
  interval : frame.twtWakeInterval0.toNat + 2 ^ 32 * frame.twtWakeInterval1.toNat = el.interval
  duration : frame.twtNomWakeDur.toNat =
    durationUs el.nomMinWakeDuration el.controlWakeDurationUnit
  flowId : frame.twtFlowId = el.reqTypeTwtFlowId
  exponent : frame.twtWakeInterExpo = el.reqTypeTwtWiExp
  request : frame.twtReq = el.reqTypeTwtReq
  command : frame.twtSetupCommand = el.reqTypeTwtSetupCommand
  trigger : frame.twtTrigger = el.reqTypeTrigger
  implicit : frame.twtImplicit = el.reqTypeImplicitTwt
  flowType : frame.twtFlowType = el.reqTypeFlowType
  protection : frame.twtProtection = el.reqTypeTwtProtection
  negotiationType : frame.twtNegotiationType.setWidth 2 = el.controlNegotiationType
  targetWakeTime : frame.targetWakeTime0 = el.targetWakeTime0 ∧
    frame.targetWakeTime1 = el.targetWakeTime1
  rxLatency : autoConfigEnable = true →
    frame.frameDesc3.toNat + 2 ^ 16 * frame.frameDesc5.toNat =
      if el.interval / 1024 ≤ cfg.rxLatency.toNat then
        (cfg.rxLatency.toNat - el.interval / 1024) / 100
      else 0
  sameInterval : detailsWakeInterval el = el.wakeInterval

variable {cfg : TwtConfig} {el : TwtElement}

/-! ## The interval -/

/-- The two halves of a value. -/
theorem toNat_halves {w : ℕ} (x : BitVec (w + w)) :
    (x.setWidth w).toNat + 2 ^ w * ((x >>> w).setWidth w).toNat = x.toNat := by
  have hx := x.isLt
  have hhigh : x.toNat / 2 ^ w < 2 ^ w := by
    rw [Nat.div_lt_iff_lt_mul (Nat.two_pow_pos w), ← Nat.pow_add]
    exact hx
  rw [BitVec.toNat_setWidth, BitVec.toNat_setWidth, BitVec.toNat_ushiftRight,
    Nat.shiftRight_eq_div_pow, Nat.mod_eq_of_lt hhigh]
  exact Nat.mod_add_div _ _

/-- Below 31 the `int` stays positive. -/
theorem toNat_int_shiftLeft {k : ℕ} (hk : k < 31) :
    (((1 : BitVec 32) <<< k).signExtend 64).toNat = 2 ^ k := by
  have hpow : 2 ^ k < 2 ^ 31 := Nat.pow_lt_pow_right (by decide) hk
  have hshift : ((1 : BitVec 32) <<< k).toNat = 2 ^ k := by
    rw [BitVec.toNat_shiftLeft, Nat.shiftLeft_eq, show (1 : BitVec 32).toNat = 1 from rfl,
      Nat.one_mul, Nat.mod_eq_of_lt (by omega)]
  have hmsb : ((1 : BitVec 32) <<< k).msb = false := by
    rw [BitVec.msb_eq_decide, hshift]
    exact decide_eq_false (Nat.not_le.2 hpow)
  rw [BitVec.signExtend_eq_setWidth_of_msb_false hmsb, BitVec.toNat_setWidth_of_le (by decide),
    hshift]

theorem toNat_detailsWakeInterval (h : el.reqTypeTwtWiExp ≠ 31) :
    (detailsWakeInterval el).toNat = el.interval := by
  have hexp : el.reqTypeTwtWiExp.toNat < 31 := by
    have hlt := el.reqTypeTwtWiExp.isLt
    have hne : el.reqTypeTwtWiExp.toNat ≠ 31 := fun heq => h (BitVec.eq_of_toNat_eq heq)
    omega
  have hmantissa : (el.wakeIntervalMantisa.setWidth 64).toNat = el.wakeIntervalMantisa.toNat :=
    BitVec.toNat_setWidth_of_le (by decide)
  have hlt : el.interval < 2 ^ 64 := Nat.lt_trans el.interval_lt (by decide)
  rw [TwtElement.interval] at hlt
  rw [detailsWakeInterval, TwtElement.interval, BitVec.toNat_mul_of_lt, toNat_int_shiftLeft hexp,
    hmantissa]
  rwa [toNat_int_shiftLeft hexp, hmantissa]

/-- At 31 the product is what is missing to `2 ^ 64`. -/
theorem toNat_detailsWakeInterval_31 (h : el.reqTypeTwtWiExp = 31)
    (hmantissa : el.wakeIntervalMantisa ≠ 0) :
    (detailsWakeInterval el).toNat + el.interval = 2 ^ 64 := by
  have hpositive : el.wakeIntervalMantisa.toNat ≠ 0 := fun heq =>
    hmantissa (BitVec.eq_of_toNat_eq heq)
  have hlt := el.wakeIntervalMantisa.isLt
  have hfactor : (((1 : BitVec 32) <<< (31 : BitVec 5).toNat).signExtend 64).toNat =
      2 ^ 64 - 2 ^ 31 := by decide
  rw [detailsWakeInterval, TwtElement.interval, h, BitVec.toNat_mul, hfactor,
    BitVec.toNat_setWidth_of_le (by decide), show (31 : BitVec 5).toNat = 31 from rfl]
  omega

/-- **Where the encoder and the checks use the same interval.** -/
theorem toNat_detailsWakeInterval_iff (hmantissa : el.wakeIntervalMantisa ≠ 0) :
    (detailsWakeInterval el).toNat = el.interval ↔ el.reqTypeTwtWiExp ≠ 31 := by
  constructor
  · intro heq h
    have hsum := toNat_detailsWakeInterval_31 h hmantissa
    have hlt := el.interval_lt
    omega
  · exact toNat_detailsWakeInterval

/-! ## The latency -/

/-- **Where the words of the latency are as they should be.** A latency below the interval never
gives zero by chance. -/
theorem rxLatencyWords_iff (h : el.reqTypeTwtWiExp ≠ 31) :
    ((detailsRxLatency cfg el).setWidth 16 : BitVec 16).toNat +
        2 ^ 16 * ((detailsRxLatency cfg el >>> 16).setWidth 16 : BitVec 16).toNat =
      (if el.interval / 1024 ≤ cfg.rxLatency.toNat then
        (cfg.rxLatency.toNat - el.interval / 1024) / 100
      else 0) ↔ el.interval / 1024 ≤ cfg.rxLatency.toNat := by
  have hlatency := cfg.rxLatency.isLt
  have hinterval := el.interval_lt
  have hms : (detailsWakeInterval el / 1024).toNat = el.interval / 1024 := by
    rw [BitVec.toNat_udiv, toNat_detailsWakeInterval h]
    rfl
  have hvalue : (detailsRxLatency cfg el).toNat =
      (2 ^ 64 - el.interval / 1024 + cfg.rxLatency.toNat) % 2 ^ 64 / 100 % 2 ^ 32 := by
    rw [detailsRxLatency, BitVec.toNat_setWidth, BitVec.toNat_udiv, BitVec.toNat_sub, hms,
      BitVec.toNat_setWidth_of_le (by decide)]
    rfl
  rw [toNat_halves (w := 16) (detailsRxLatency cfg el), hvalue]
  split
  · rename_i hle
    refine iff_of_true ?_ hle
    omega
  · -- the difference has wrapped
    rename_i hshort
    refine iff_of_false ?_ hshort
    omega

/-! ## The frame of an accepted response -/

/-- The frame carries the fields of the response, and the rest depends on the exponent and the
latency. -/
theorem encodesAgreement_setupDetails_iff {autoConfigEnable : Bool}
    (hmantissa : el.wakeIntervalMantisa ≠ 0) (hnegotiation : el.controlNegotiationType = 0) :
    EncodesAgreement autoConfigEnable cfg el (setupDetails autoConfigEnable cfg el) ↔
      el.reqTypeTwtWiExp ≠ 31 ∧
        (autoConfigEnable = true → el.interval / 1024 ≤ cfg.rxLatency.toNat) := by
  have hsame : detailsWakeInterval el = el.wakeInterval ↔ el.reqTypeTwtWiExp ≠ 31 := by
    rw [← toNat_detailsWakeInterval_iff hmantissa, ← BitVec.toNat_inj,
      TwtElement.toNat_wakeInterval]
  constructor
  · intro h
    have hexp := hsame.1 h.sameInterval
    refine ⟨hexp, fun hauto => (rxLatencyWords_iff hexp).1 ?_⟩
    have hwords := h.rxLatency hauto
    subst hauto
    exact hwords
  · rintro ⟨hexp, hlatency⟩
    -- what is not computed is copied
    exact
      { interval := (toNat_halves (w := 32) (detailsWakeInterval el)).trans
          (toNat_detailsWakeInterval hexp)
        duration := toNat_wakeDurationUs _ _
        flowId := rfl
        exponent := rfl
        request := rfl
        command := rfl
        trigger := rfl
        implicit := rfl
        flowType := rfl
        protection := rfl
        negotiationType := by
          rw [hnegotiation, setupDetails, hnegotiation]
          rfl
        targetWakeTime := ⟨rfl, rfl⟩
        rxLatency := by
          intro hauto
          subst hauto
          exact (rxLatencyWords_iff hexp).2 (hlatency rfl)
        sameInterval := hsame.2 hexp }

theorem supported_of_acceptsResp {autoConfigEnable : Bool} {user : TwtSelection} {cfg : TwtConfig}
    {fr : TwtSetupFrame} (h : acceptsResp autoConfigEnable user cfg fr = true) :
    validateUnsupportedTwtRespParams autoConfigEnable fr = false := by
  rw [acceptsResp, Bool.and_eq_true, Bool.not_eq_true'] at h
  exact h.1

namespace TwtAdapter

variable {a a' : TwtAdapter} {o : Outcomes} {fr : TwtSetupFrame}

/-- What an accepted grant sends to the LMAC. -/
theorem configs_of_accepted (hcmd : fr.twtElement.setupCommand = TWT_SETUP_CMD_ACCEPT)
    (haccept : acceptsResp a.twtAutoConfigEnable a.userTwtAutoConfig a.rsiTwtConfig fr = true)
    (hskb : o.configSkb = true) (hproc : a.mgmtProcessTwtSetupResp o fr = some a') :
    a'.configs =
      a.configs ++ [setupDetails a.twtAutoConfigEnable a.rsiTwtConfig fr.twtElement] := by
  obtain ⟨hauto, huser, hcfg, -, hconfigs⟩ := a.stopRetries_spec
  have hsupported := supported_of_acceptsResp haccept
  rw [mgmtProcessTwtSetupResp, hauto, hsupported, if_neg Bool.false_ne_true] at hproc
  obtain ⟨rsp, hrsp, rfl⟩ := Option.map_eq_some_iff.1 hproc
  have hdecision := respByReqType_accept hcmd (by rwa [hauto]) hrsp
  rw [hauto, huser, hcfg, if_pos haccept] at hdecision
  subst hdecision
  show (sendSetupDetails _ o fr).configs = _
  rw [sendSetupDetails, if_pos hskb, ← hconfigs, ← hauto, ← hcfg]

end TwtAdapter

/-- **Which accepted responses are encoded as they were agreed on**: those with an exponent below
31, and with the automatic configuration with an interval that the receive latency leaves room for.
-/
theorem encodesAgreement_iff {a a' : TwtAdapter} {o : Outcomes} {fr : TwtSetupFrame}
    (hcmd : fr.twtElement.setupCommand = TWT_SETUP_CMD_ACCEPT)
    (haccept : acceptsResp a.twtAutoConfigEnable a.userTwtAutoConfig a.rsiTwtConfig fr = true)
    (hskb : o.configSkb = true) (hproc : a.mgmtProcessTwtSetupResp o fr = some a') :
    (∃ frame, a'.configs = a.configs ++ [frame] ∧
      EncodesAgreement a.twtAutoConfigEnable a.rsiTwtConfig fr.twtElement frame) ↔
      fr.twtElement.reqTypeTwtWiExp ≠ 31 ∧
        (a.twtAutoConfigEnable = true →
          fr.twtElement.interval / 1024 ≤ a.rsiTwtConfig.rxLatency.toNat) := by
  obtain ⟨-, -, -, hnegotiation, -, -, hmantissa, -⟩ :=
    (validateUnsupportedTwtRespParams_eq_false_iff _ _).1 (supported_of_acceptsResp haccept)
  rw [TwtAdapter.configs_of_accepted hcmd haccept hskb hproc,
    ← encodesAgreement_setupDetails_iff hmantissa hnegotiation]
  constructor
  · rintro ⟨frame, hframe, hencodes⟩
    obtain rfl := List.singleton_inj.1 (List.append_cancel_left hframe)
    exact hencodes
  · exact fun hencodes => ⟨_, rfl, hencodes⟩

/-- A driver that has sent `cfg` for `user`. -/
def negotiating (autoConfigEnable : Bool) (user : TwtSelection) (cfg : TwtConfig) : TwtAdapter :=
  { TwtSys.start.adapter with
    twtSessionInProgress := true
    userTwtAutoConfig := user
    rsiTwtConfig := cfg
    twtAutoConfigEnable := autoConfigEnable }

/-- The grant of an interval of `mantissa` ms. -/
def grantOfMs (mantissa : BitVec 16) : TwtSetupFrame :=
  grantOf
    { (requestOf mantissa).requestElement with
      reqTypeTwtWiExp := 10
      nomMinWakeDuration := 88
      wakeIntervalMantisa := mantissa }

/-- The grant of what was asked for. -/
theorem encodesAgreement_grant :
    ∃ frame, (((negotiating true moderateUser (requestOf 100)).mgmtProcessTwtSetupResp .good
        (grantOfMs 100)).get rfl).configs = [frame] ∧
      EncodesAgreement true (requestOf 100) (grantOfMs 100).twtElement frame :=
  (encodesAgreement_iff (a := negotiating true moderateUser (requestOf 100)) (o := .good) rfl
    (by decide) rfl rfl).2 ⟨by decide, fun _ => by decide⟩

/-- A grant of `2 ^ 31` microseconds, and one in tolerance that is longer than the latency. -/
theorem not_encodesAgreement :
    (¬ ∀ (a a' : TwtAdapter) (o : Outcomes) (fr : TwtSetupFrame),
      fr.twtElement.setupCommand = TWT_SETUP_CMD_ACCEPT →
      acceptsResp a.twtAutoConfigEnable a.userTwtAutoConfig a.rsiTwtConfig fr = true →
      o.configSkb = true → a.mgmtProcessTwtSetupResp o fr = some a' →
      a.twtAutoConfigEnable = false →
        ∃ frame, a'.configs = a.configs ++ [frame] ∧
          EncodesAgreement a.twtAutoConfigEnable a.rsiTwtConfig fr.twtElement frame) ∧
    ¬ ∀ (a a' : TwtAdapter) (o : Outcomes) (fr : TwtSetupFrame),
      fr.twtElement.setupCommand = TWT_SETUP_CMD_ACCEPT →
      acceptsResp a.twtAutoConfigEnable a.userTwtAutoConfig a.rsiTwtConfig fr = true →
      o.configSkb = true → a.mgmtProcessTwtSetupResp o fr = some a' →
      fr.twtElement.reqTypeTwtWiExp ≠ 31 →
        ∃ frame, a'.configs = a.configs ++ [frame] ∧
          EncodesAgreement a.twtAutoConfigEnable a.rsiTwtConfig fr.twtElement frame := by
  constructor
  · intro hall
    obtain ⟨frame, hframe, hencodes⟩ := hall
      (negotiating false moderateUser { sampleConfig with reqType := TWT_SETUP_CMD_REQUEST }) _
      .good (announcedResponse 1 31) rfl (by decide) rfl rfl rfl
    exact absurd hencodes.sameInterval (by decide)
  · intro hall
    obtain ⟨frame, hframe, hencodes⟩ := hall (negotiating true moderateUser (requestOf 100)) _
      .good (grantOfMs 110) rfl (by decide) rfl rfl (by decide)
    obtain rfl := List.singleton_inj.1 (List.append_cancel_left hframe)
    exact absurd (hencodes.rxLatency rfl) (by decide)

end Twt
