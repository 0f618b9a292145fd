import Mathlib.Tactic.ByContra
import RsiDriver.Tx.AutoRateTable

/-!
# The fixed rate

`rsi_mac80211_set_rate_mask` takes one rate from a mask. It looks at the rates of HT first, then at
those of HE, then at the legacy ones, and reads the code of the rate from a table at the index of
the only bit that is set. The scan for this bit ends at 16 if there is none, which is behind each of
the tables, and the first two entries of the tables of HT and HE belong to the auto-rate request as
well.

## Main results

* `setRateMask_conf`: the configuration after a call is the one of `RateConf.setRateMask`;
* `not_rateMaskOk`: a mask without rates of HT reads behind the table;
* `rateMaskOk_iff`: the masks for which the fixed rate is one of the mask.
-/

namespace Tx

/-- `common->fixedrate_mask`, with the configuration of the rates. -/
structure MaskState where
  conf : RateConf
  fixedrateMask2GHz : BitVec 32
  fixedrateMask5GHz : BitVec 32
deriving DecidableEq

/-- A call of `rsi_mac80211_set_rate_mask`. -/
structure MaskCall where
  /-- `BSS_ASSOC` -/
  assoc : Bool
  band5GHz : Bool
  /-- `ht_mcs[0]`, `legacy` and `he_mcs[0]` of the band -/
  mcs : BitVec 8
  legacy : BitVec 32
  heMcs : BitVec 16
  /-- Channel 14 in Japan -/
  japan14 : Bool
  /-- What stands behind a table. -/
  beyond : BitVec 16
  /-- The update frame gets its buffer. -/
  alloc : Bool
deriving DecidableEq

/-- What is returned. `rejected` is the 0 that follows the message about the region. -/
inductive MaskResult
  | ok
  | rejected
  | einval
  | enomem
deriving DecidableEq

/-- What a call does: the state after it, what it returns, the fixed rate in the update frame if
there is one, and whether the index of the table is inside. -/
structure MaskOutcome where
  state : MaskState
  result : MaskResult
  update : Option (Bool × BitVec 16)
  inRange : Bool
deriving DecidableEq

namespace MaskState

variable (s : MaskState) (call : MaskCall)

/-- `common->fixedrate_mask[band] = 0` -/
def clearMask (band5GHz : Bool) : MaskState :=
  if band5GHz then { s with fixedrateMask5GHz := 0 } else { s with fixedrateMask2GHz := 0 }

/-- `rsi_send_vap_dynamic_update` -/
def sendVapDynamicUpdate (alloc : Bool) : MaskOutcome :=
  if alloc then ⟨s, .ok, some (s.conf.fixedRateEn, s.conf.fixedRate), true⟩
  else ⟨s, .enomem, none, true⟩

/-- What follows the code of the rate; `none` is an index behind the table. -/
def setFixedRate (rate : Option (BitVec 16)) : MaskOutcome :=
  let code := rate.getD call.beyond
  if code = 0xff then ⟨s, .einval, none, rate.isSome⟩
  else if call.japan14 = true ∧ 2 < code.toNat then ⟨s, .rejected, none, rate.isSome⟩
  else
    { ({ s with conf := { s.conf with fixedRateEn := true, fixedRate := code } } :
        MaskState).sendVapDynamicUpdate call.alloc with inRange := rate.isSome }

/-- `rsi_mac80211_set_rate_mask` -/
def setRateMask : MaskOutcome :=
  if call.assoc = false then ⟨s, .einval, none, true⟩
  else
    let s := s.clearMask call.band5GHz
    let legacy := call.legacy.setWidth 16
    if RateConf.enableAutoRate call.mcs legacy call.heMcs call.band5GHz then
      ({ s with conf := { s.conf with fixedRateEn := false } } : MaskState).sendVapDynamicUpdate
        call.alloc
    else
      match s.conf.maskRate call.mcs legacy call.heMcs call.band5GHz with
      | none => ⟨s, .einval, none, true⟩
      | some rate => s.setFixedRate call rate

/-- The configuration after a call is the one of `RateConf.setRateMask`. -/
theorem setRateMask_conf (hassoc : call.assoc = true) :
    (s.setRateMask call).state.conf = s.conf.setRateMask call.mcs (call.legacy.setWidth 16)
      call.heMcs call.band5GHz call.japan14 call.beyond := by
  have hclear : (s.clearMask call.band5GHz).conf = s.conf := by
    unfold clearMask
    split_ifs <;> rfl
  have hsend (s : MaskState) : (s.sendVapDynamicUpdate call.alloc).state = s := by
    unfold sendVapDynamicUpdate
    split_ifs <;> rfl
  unfold setRateMask RateConf.setRateMask
  rw [hassoc, if_neg (Bool.noConfusion)]
  dsimp only
  rw [hclear]
  split_ifs
  · rw [hsend]
  · cases hrate : s.conf.maskRate call.mcs (call.legacy.setWidth 16) call.heMcs call.band5GHz with
    | none => exact hclear
    | some rate =>
      dsimp only [setFixedRate]
      split_ifs
      · exact hclear
      · exact hclear
      · rw [hsend, hclear]

/-! ## Runs -/

/-- What changes the state: a mask, or another change of the rates. -/
inductive Act
  | mask (call : MaskCall)
  | conf (act : RateAct)

/-- One change. -/
def step (s : MaskState) : Act → Option MaskState
  | .mask call => some (s.setRateMask call).state
  -- the masks are calls
  | .conf (.setRateMask ..) => none
  | .conf act => (s.conf.step act).map ({ s with conf := · })

def system : TransitionSystem MaskState Act := ⟨(· = ⟨.unset, 0, 0⟩), step⟩

/-- The tables of HT and HE, which are overwritten together, and the parameters of a transmission,
which leave the lowest five bits. -/
structure Inv (s : MaskState) : Prop where
  tables : s.conf.mcsrates = rsiMcsrates ∧ s.conf.heRates = rsiHeRates ∨
    s.conf.mcsrates = (rsiMcsrates.set 0 RSI_RATE_6).set 1 RSI_RATE_12 ∧
      s.conf.heRates = (rsiHeRates.set 0 RSI_RATE_6).set 1 RSI_RATE_12
  params : s.conf.rateFieldParams &&& 0x1f = 0
  masks : s.fixedrateMask2GHz = 0 ∧ s.fixedrateMask5GHz = 0

theorem Inv.clearMask {s : MaskState} (h : s.Inv) (band5GHz : Bool) : s.clearMask band5GHz = s := by
  obtain ⟨conf, mask2GHz, mask5GHz⟩ := s
  obtain ⟨rfl, rfl⟩ : mask2GHz = 0 ∧ mask5GHz = 0 := h.masks
  cases band5GHz <;> rfl

theorem rateField_and (nominalPe giLtf dcm codingType : BitVec 8) :
    RateConf.rateField nominalPe giLtf dcm codingType &&& 0x1f = 0 := by
  have hpe : ∀ x : BitVec 8, x.setWidth 16 <<< 5 &&& 0x1f = (0 : BitVec 16) := by decide
  have hgi : ∀ x : BitVec 8, x.setWidth 16 <<< 11 &&& 0x1f = (0 : BitVec 16) := by decide
  have hdcm : ∀ x : BitVec 8, x.setWidth 16 <<< 13 &&& 0x1f = (0 : BitVec 16) := by decide
  have hcoding : ∀ x : BitVec 8, x.setWidth 16 <<< 9 &&& 0x1f = (0 : BitVec 16) := by decide
  have hor (x y : BitVec 16) : (x ||| y) &&& 0x1f = x &&& 0x1f ||| y &&& 0x1f := by
    rw [BitVec.and_comm, BitVec.and_or_distrib_left, BitVec.and_comm x, BitVec.and_comm y]
  rw [RateConf.rateField, hor, hor, hor, hpe, hgi, hdcm, hcoding]
  rfl

/-- A mask changes neither the tables nor the parameters. -/
theorem Inv.setRateMask {s : MaskState} (h : s.Inv) (call : MaskCall) :
    (s.setRateMask call).state.Inv := by
  have hsend {s : MaskState} (h : s.Inv) : (s.sendVapDynamicUpdate call.alloc).state.Inv := by
    unfold sendVapDynamicUpdate
    split_ifs <;> exact h
  unfold MaskState.setRateMask
  dsimp only
  rw [h.clearMask]
  split_ifs
  · exact h
  · exact hsend ⟨h.tables, h.params, h.masks⟩
  · split
    · exact h
    · unfold setFixedRate
      dsimp only
      split_ifs
      · exact h
      · exact h
      · exact hsend ⟨h.tables, h.params, h.masks⟩

theorem Inv.step {s s' : MaskState} {act : Act} (h : s.Inv) (hstep : s.step act = some s') :
    s'.Inv := by
  cases act with
  | mask call =>
    obtain rfl := Option.some.inj hstep
    exact h.setRateMask call
  | conf act =>
    cases act with
    | setRateMask => cases hstep
    | autoRate =>
      obtain rfl := Option.some.inj hstep
      refine ⟨Or.inr ⟨?_, ?_⟩, h.params, h.masks⟩
      · show (s.conf.mcsrates.set 0 _).set 1 _ = _
        rcases h.tables with ⟨hmcs, -⟩ | ⟨hmcs, -⟩ <;> rw [hmcs] <;> rfl
      · show (s.conf.heRates.set 0 _).set 1 _ = _
        rcases h.tables with ⟨-, hhe⟩ | ⟨-, hhe⟩ <;> rw [hhe] <;> rfl
    | setAxRate value =>
      obtain rfl := Option.some.inj hstep
      unfold RateConf.setAxRate
      split
      · exact ⟨h.tables, h.params, h.masks⟩
      · exact h
    | init =>
      obtain rfl := Option.some.inj hstep
      exact ⟨h.tables, rateField_and .., h.masks⟩
    | setGiLtf =>
      obtain rfl := Option.some.inj hstep
      exact ⟨h.tables, rateField_and .., h.masks⟩
    | updateAxCapabilities | setConfigErSu | setMinRate | resetMinRate | assoc =>
      obtain rfl := Option.some.inj hstep
      exact ⟨h.tables, h.params, h.masks⟩

theorem inv_of_reachable {s : MaskState} (h : system.Reachable s) : s.Inv :=
  h.invariant Inv (fun _ hinit => hinit ▸ ⟨Or.inl ⟨rfl, rfl⟩, rfl, rfl, rfl⟩)
    fun _ _ _ hinv _ hstep => hinv.step hstep

end MaskState

/-! ## What a mask should do -/

/-- The legacy rates of a band, with their speeds. -/
def bandRates (band5GHz : Bool) : List (BitVec 16 × BitVec 16) :=
  (stdRates.zip rsiRates).drop (if band5GHz then 4 else 0)

/-- `rate` is the code of a rate of the mask: that of HT if the mask restricts HT, that of HE if it
restricts HE, and otherwise the fastest legacy one. -/
def MaskCall.Selected (call : MaskCall) (c : RateConf) (rate : BitVec 16) : Prop :=
  if call.mcs ≠ 0xff then ∃ i < 8, call.mcs.getLsbD i = true ∧ rate = 0x100 + BitVec.ofNat 16 i
  else if c.ax11Enabled = true ∧ call.heMcs ≠ 0xff then
    ∃ i < 16, call.heMcs.getLsbD i = true ∧
      rate = (0x400 + BitVec.ofNat 16 i) ||| c.rateFieldParams
  else
    ∃ i std, (bandRates call.band5GHz)[i]? = some (std, rate) ∧ call.legacy.getLsbD i = true ∧
      ∀ j r, (bandRates call.band5GHz)[j]? = some r → call.legacy.getLsbD j = true → r.1 ≤ std

/-- The mask allows every rate. -/
def MaskCall.full (call : MaskCall) : Bool :=
  RateConf.enableAutoRate call.mcs (call.legacy.setWidth 16) call.heMcs call.band5GHz

/-- A call disables the fixed rate, sets it to a rate of the mask, or leaves everything. -/
structure RateMaskOk (s : MaskState) (call : MaskCall) : Prop where
  inRange : (s.setRateMask call).inRange = true
  chosen : (s.setRateMask call).result = .ok →
    call.full = true ∧ (s.setRateMask call).state.conf.fixedRateEn = false ∨
      (s.setRateMask call).state.conf.fixedRateEn = true ∧
        call.Selected s.conf (s.setRateMask call).state.conf.fixedRate
  kept : (s.setRateMask call).result ≠ .ok →
    (s.setRateMask call).state = s ∧ (s.setRateMask call).update = none

/-- A bitmap with several bits is refused. The only bit of another one needs an entry in its table,
which is refused on channel 14 in Japan, or is right, or is set already if there is no buffer. -/
def MaskState.BitOk (s : MaskState) (call : MaskCall) (bitmap : BitVec 16)
    (entry : ℕ → Option (BitVec 16)) (right : ℕ → Prop) : Prop :=
  bitmap &&& (bitmap - 1) ≠ 0 ∨
    ∃ i rate, bitmap.getLsbD i = true ∧ entry i = some rate ∧
      (call.japan14 = true ∧ 2 < rate.toNat ∨
        if call.alloc then right i else s.conf.fixedRateEn = true ∧ s.conf.fixedRate = rate)

/-- The calls that do what they should: the entries of MCS 0 and 1 have not been overwritten, the
rate of HE is MCS 0, and no rate of 802.11b is faster than the legacy rate with the highest bit. -/
def MaskState.MaskFits (s : MaskState) (call : MaskCall) : Prop :=
  call.assoc = true →
    if call.full = true then call.alloc = true ∨ s.conf.fixedRateEn = false
    else if call.mcs ≠ 0xff then
      s.BitOk call (call.mcs.setWidth 16) (s.conf.mcsrates[·]?)
        fun i => 2 ≤ i ∨ s.conf.mcsrates = rsiMcsrates
    else if s.conf.ax11Enabled = true ∧ call.heMcs ≠ 0xff then
      s.BitOk call call.heMcs (fun i => s.conf.heRates[i]?.map (· ||| s.conf.rateFieldParams))
        fun i => i = 0 ∧ s.conf.heRates = rsiHeRates
    else if s.conf.ax11Enabled = false ∧ call.heMcs ≠ 0xff ∧ call.heMcs ≠ 0 then True
    else
      s.BitOk call (RateConf.highestBit (call.legacy.setWidth 16))
        (fun i => rsiRates[if call.band5GHz then i + 4 else i]?)
        fun i => call.band5GHz = true ∨ i ≠ 4 ∧ i ≠ 5 ∨ call.legacy.getLsbD 3 = false

/-! ## The scan for the bit -/

/-- Where the scan ends. -/
def bitIndex (bitmap : BitVec 16) : ℕ :=
  ((List.range 16).find? fun i => bitmap.getLsbD i).getD 16

/-- A bitmap that passes the test of the code has one bit at most. -/
theorem eq_of_getLsbD {bitmap : BitVec 16} (h : bitmap &&& (bitmap - 1) = 0) {i j : ℕ}
    (hi : bitmap.getLsbD i = true) (hj : bitmap.getLsbD j = true) : i = j := by
  have hne : bitmap.toNat ≠ 0 := by
    intro hzero
    rw [BitVec.getLsbD, hzero, Nat.zero_testBit] at hi
    exact Bool.false_ne_true hi
  have hand : bitmap.toNat &&& (bitmap.toNat - 1) = 0 := by
    have hnat := congrArg BitVec.toNat h
    have hone : (1 : BitVec 16) ≤ bitmap := Nat.one_le_iff_ne_zero.2 hne
    rw [BitVec.toNat_and, BitVec.toNat_sub_of_le hone] at hnat
    exact hnat
  obtain ⟨k, hk⟩ := (Nat.and_sub_one_eq_zero_iff_isPowerOfTwo hne).1 hand
  rw [BitVec.getLsbD, hk, Nat.testBit_two_pow, decide_eq_true_eq] at hi hj
  exact hi.symm.trans hj

theorem bitIndex_eq {bitmap : BitVec 16} (h : bitmap &&& (bitmap - 1) = 0) {i : ℕ}
    (hi : bitmap.getLsbD i = true) : bitIndex bitmap = i := by
  have hlt : i < 16 := BitVec.lt_of_getLsbD hi
  unfold bitIndex
  cases hfind : (List.range 16).find? fun i => bitmap.getLsbD i with
  | none =>
    have hnone := List.find?_eq_none.1 hfind i (List.mem_range.2 hlt)
    exact absurd hi hnone
  | some j => exact eq_of_getLsbD h (List.find?_some hfind) hi

/-- Without a bit the scan ends behind the tables. -/
theorem bitIndex_of_none {bitmap : BitVec 16} (h : ∀ i, bitmap.getLsbD i = false) :
    bitIndex bitmap = 16 := by
  have hfind : ((List.range 16).find? fun i => bitmap.getLsbD i) = none := by
    refine List.find?_eq_none.2 fun i _ => ?_
    rw [h i]
    exact Bool.false_ne_true
  rw [bitIndex, hfind]
  rfl

section Iff

variable {s : MaskState} {call : MaskCall}

/-- What is left of a call with a mask that is not full. -/
theorem setRateMask_of_not_full (h : s.Inv) (hassoc : call.assoc = true)
    (hfull : call.full = false) :
    s.setRateMask call =
      match s.conf.maskRate call.mcs (call.legacy.setWidth 16) call.heMcs call.band5GHz with
      | none => ⟨s, .einval, none, true⟩
      | some rate => s.setFixedRate call rate := by
  have hauto : ¬ RateConf.enableAutoRate call.mcs (call.legacy.setWidth 16) call.heMcs
      call.band5GHz = true := Bool.eq_false_iff.1 hfull
  unfold MaskState.setRateMask
  rw [if_neg (by rw [hassoc]; exact Bool.noConfusion)]
  dsimp only
  rw [h.clearMask, if_neg hauto]

/-- A call whose table has no entry at the index. -/
theorem not_rateMaskOk_of_none (hcall : s.setRateMask call = s.setFixedRate call none) :
    ¬ RateMaskOk s call := by
  intro hok
  have hrange := hok.inRange
  rw [hcall] at hrange
  unfold MaskState.setFixedRate MaskState.sendVapDynamicUpdate at hrange
  dsimp only at hrange
  split_ifs at hrange <;> exact Bool.false_ne_true hrange

/-- A call that takes the code of an entry: on channel 14 in Japan it is rejected, and without a
buffer the rate is set and the error is returned. -/
theorem rateMaskOk_some_iff {rate : BitVec 16} (hne : rate ≠ 0xff) (hfull : call.full = false)
    (hcall : s.setRateMask call = s.setFixedRate call (some rate)) :
    RateMaskOk s call ↔ call.japan14 = true ∧ 2 < rate.toNat ∨
      if call.alloc then call.Selected s.conf rate
      else s.conf.fixedRateEn = true ∧ s.conf.fixedRate = rate := by
  unfold MaskState.setFixedRate at hcall
  rw [Option.getD_some, if_neg hne] at hcall
  by_cases hjapan : call.japan14 = true ∧ 2 < rate.toNat
  · rw [if_pos hjapan] at hcall
    refine ⟨fun _ => Or.inl hjapan, fun _ => ⟨?_, fun hok => ?_, fun _ => ?_⟩⟩ <;> rw [hcall] at *
    · rfl
    · cases hok
    · exact ⟨rfl, rfl⟩
  · rw [if_neg hjapan, MaskState.sendVapDynamicUpdate] at hcall
    rw [or_iff_right hjapan]
    cases halloc : call.alloc with
    | true =>
      rw [halloc, if_pos rfl] at hcall
      refine ⟨fun hok => ?_, fun hsel => ⟨?_, fun _ => Or.inr ?_, fun hnok => ?_⟩⟩
      · have hchosen := hok.chosen
        rw [hcall] at hchosen
        rcases hchosen rfl with ⟨hauto, -⟩ | ⟨-, hsel⟩
        · rw [hfull] at hauto
          cases hauto
        · exact hsel
      · rw [hcall]
        rfl
      · rw [hcall]
        exact ⟨rfl, hsel⟩
      · rw [hcall] at hnok
        exact absurd rfl hnok
    | false =>
      rw [halloc, if_neg Bool.false_ne_true] at hcall
      refine ⟨fun hok => ?_, fun hset => ⟨?_, fun hok => ?_, fun _ => ?_⟩⟩
      · have hkept := hok.kept
        rw [hcall] at hkept
        obtain ⟨hstate, -⟩ := hkept fun hok => MaskResult.noConfusion hok
        have hconf := congrArg MaskState.conf hstate
        exact ⟨(congrArg RateConf.fixedRateEn hconf).symm, (congrArg RateConf.fixedRate hconf).symm⟩
      · rw [hcall]
        rfl
      · rw [hcall] at hok
        cases hok
      · rw [hcall]
        obtain ⟨hen, hrate⟩ := hset
        refine ⟨?_, rfl⟩
        rw [← hen, ← hrate]

/-- The scan, the table and what is set, in one step. -/
theorem rateMaskOk_iff_bitOk (h : s.Inv) (hassoc : call.assoc = true) (hfull : call.full = false)
    {bitmap : BitVec 16} {entry : ℕ → Option (BitVec 16)} {right : ℕ → Prop}
    (hrate : s.conf.maskRate call.mcs (call.legacy.setWidth 16) call.heMcs call.band5GHz =
      some (if bitmap &&& (bitmap - 1) ≠ 0 then some 0xff else entry (bitIndex bitmap)))
    (hbeyond : entry 16 = none)
    (hright : ∀ i r, bitmap &&& (bitmap - 1) = 0 → bitmap.getLsbD i = true → entry i = some r →
      r ≠ 0xff ∧ (call.Selected s.conf r ↔ right i)) :
    RateMaskOk s call ↔ s.BitOk call bitmap entry right := by
  have hcall := setRateMask_of_not_full h hassoc hfull
  rw [hrate] at hcall
  by_cases hone : bitmap &&& (bitmap - 1) = 0
  · rw [if_neg (not_not.2 hone)] at hcall
    unfold MaskState.BitOk
    rw [or_iff_right (not_not.2 hone)]
    by_cases hbit : ∃ i, bitmap.getLsbD i = true
    · obtain ⟨i, hi⟩ := hbit
      rw [bitIndex_eq hone hi] at hcall
      have hunique (j : ℕ) (hj : bitmap.getLsbD j = true) : j = i := eq_of_getLsbD hone hj hi
      cases hentry : entry i with
      | none =>
        rw [hentry] at hcall
        refine iff_of_false (not_rateMaskOk_of_none hcall) ?_
        rintro ⟨j, r, hj, hget, -⟩
        rw [hunique j hj, hentry] at hget
        cases hget
      | some r =>
        obtain ⟨hne, hsel⟩ := hright i r hone hi hentry
        rw [hentry] at hcall
        rw [rateMaskOk_some_iff hne hfull hcall, hsel]
        refine ⟨fun hset => ⟨i, r, hi, hentry, hset⟩, ?_⟩
        rintro ⟨j, r', hj, hget, hset⟩
        obtain rfl := hunique j hj
        obtain rfl := Option.some.inj (hentry.symm.trans hget)
        exact hset
    · have hnone (i : ℕ) : bitmap.getLsbD i = false :=
        Bool.eq_false_iff.2 fun hi => hbit ⟨i, hi⟩
      rw [bitIndex_of_none hnone, hbeyond] at hcall
      refine iff_of_false (not_rateMaskOk_of_none hcall) ?_
      rintro ⟨i, -, hi, -⟩
      exact hbit ⟨i, hi⟩
  · -- more than one bit: the code 0xff is taken for an error
    rw [if_pos hone] at hcall
    refine iff_of_true ⟨?_, fun hok => ?_, fun _ => ?_⟩ (Or.inl hone) <;> rw [hcall] at *
    · rfl
    · cases hok
    · exact ⟨rfl, rfl⟩

/-! ## The three tables -/

/-- MCS `i` is entry `i`, unless it has been overwritten. -/
theorem selected_ht_iff (h : s.Inv) (hmcs : call.mcs ≠ 0xff) {i : ℕ} {rate : BitVec 16}
    (hi : (call.mcs.setWidth 16).getLsbD i = true) (hentry : s.conf.mcsrates[i]? = some rate) :
    rate ≠ 0xff ∧ (call.Selected s.conf rate ↔ 2 ≤ i ∨ s.conf.mcsrates = rsiMcsrates) := by
  rw [BitVec.getLsbD_setWidth, Bool.and_eq_true] at hi
  have hlt : i < 8 := BitVec.lt_of_getLsbD hi.2
  have hselected : rate = 0x100 + BitVec.ofNat 16 i → call.Selected s.conf rate := by
    intro hrate
    rw [MaskCall.Selected, if_pos hmcs]
    exact ⟨i, hlt, hi.2, hrate⟩
  have hcodes : ∀ i < 8, 0x100 + BitVec.ofNat 16 i ≠ 0xff := by decide
  rcases h.tables with ⟨htable, -⟩ | ⟨htable, -⟩
  · have hall : ∀ i < 8, rsiMcsrates[i]? = some (0x100 + BitVec.ofNat 16 i) := by decide
    rw [htable, hall i hlt] at hentry
    obtain rfl := Option.some.inj hentry
    exact ⟨hcodes i hlt, iff_of_true (hselected rfl) (Or.inr htable)⟩
  · have hall : ∀ i < 8, ((rsiMcsrates.set 0 RSI_RATE_6).set 1 RSI_RATE_12)[i]? =
        some (if 2 ≤ i then 0x100 + BitVec.ofNat 16 i else 0x8b - BitVec.ofNat 16 i) := by decide
    rw [htable, hall i hlt] at hentry
    obtain rfl := Option.some.inj hentry
    by_cases hlow : 2 ≤ i
    · rw [if_pos hlow] at hselected ⊢
      exact ⟨hcodes i hlt, iff_of_true (hselected rfl) (Or.inl hlow)⟩
    · -- the rates of 6 and 12 Mbps
      have hlegacy : ∀ i < 2, 0x8b - BitVec.ofNat 16 i ≠ 0xff ∧
          ∀ j < 8, 0x8b - BitVec.ofNat 16 i ≠ 0x100 + BitVec.ofNat 16 j := by decide
      obtain ⟨hne, hother⟩ := hlegacy i (by omega)
      rw [if_neg hlow]
      refine ⟨hne, iff_of_false ?_ ?_⟩
      · rw [MaskCall.Selected, if_pos hmcs]
        rintro ⟨j, hj, -, hrate⟩
        exact hother j hj hrate
      · rintro (h2 | huntouched)
        · exact hlow h2
        · rw [htable] at huntouched
          exact absurd huntouched (by decide)

/-- The parameters of a transmission leave the lowest bits of a rate. -/
theorem and_of_or {params : BitVec 16} (hparams : params &&& 0x1f = 0) (x : BitVec 16) :
    (x ||| params) &&& 0x1f = x &&& 0x1f := by
  rw [BitVec.and_comm, BitVec.and_or_distrib_left, BitVec.and_comm _ params, hparams,
    BitVec.and_comm]
  exact BitVec.or_zero

theorem ne_of_or {x y params : BitVec 16} (hparams : params &&& 0x1f = 0)
    (hne : x &&& 0x1f ≠ y &&& 0x1f) : x ||| params ≠ y ||| params := by
  intro heq
  have hand := congrArg (· &&& 0x1f) heq
  rw [and_of_or hparams, and_of_or hparams] at hand
  exact hne hand

/-- Only MCS 0 is where it should be. -/
theorem selected_he_iff (h : s.Inv) (hmcs : call.mcs = 0xff) (hax : s.conf.ax11Enabled = true)
    (hhe : call.heMcs ≠ 0xff) (hone : call.heMcs &&& (call.heMcs - 1) = 0) {i : ℕ}
    {rate : BitVec 16} (hi : call.heMcs.getLsbD i = true)
    (hentry : s.conf.heRates[i]?.map (· ||| s.conf.rateFieldParams) = some rate) :
    rate ≠ 0xff ∧ (call.Selected s.conf rate ↔ i = 0 ∧ s.conf.heRates = rsiHeRates) := by
  obtain ⟨x, hx, rfl⟩ := Option.map_eq_some_iff.1 hentry
  have hselected : call.Selected s.conf (x ||| s.conf.rateFieldParams) ↔
      x ||| s.conf.rateFieldParams = (0x400 + BitVec.ofNat 16 i) ||| s.conf.rateFieldParams := by
    rw [MaskCall.Selected, if_neg (not_not.2 hmcs), if_pos ⟨hax, hhe⟩]
    refine ⟨?_, fun hrate => ⟨i, BitVec.lt_of_getLsbD hi, hi, hrate⟩⟩
    rintro ⟨j, -, hj, hrate⟩
    rwa [eq_of_getLsbD hone hi hj]
  have hlen : i < 9 := by
    have hlt := (List.getElem?_eq_some_iff.1 hx).1
    rcases h.tables with ⟨-, htable⟩ | ⟨-, htable⟩ <;> rw [htable] at hlt <;> exact hlt
  have hcode {x : BitVec 16} (hx : x &&& 0x1f ≠ 0x1f) : x ||| s.conf.rateFieldParams ≠ 0xff := by
    intro heq
    rw [← and_of_or h.params x, heq] at hx
    exact hx rfl
  rw [hselected]
  rcases h.tables with ⟨-, htable⟩ | ⟨-, htable⟩
  · -- entry `i` is MCS `i - 1`
    have hall : ∀ i < 9, rsiHeRates[i]? = some (0x400 + BitVec.ofNat 16 (i - 1)) ∧
        (0x400 + BitVec.ofNat 16 (i - 1)) &&& 0x1f ≠ 0x1f ∧
        (0 < i → (0x400 + BitVec.ofNat 16 (i - 1)) &&& 0x1f ≠
          (0x400 + BitVec.ofNat 16 i) &&& 0x1f) := by decide
    obtain ⟨hget, hlow, hother⟩ := hall i hlen
    rw [htable, hget] at hx
    obtain rfl := Option.some.inj hx
    refine ⟨hcode hlow, ?_⟩
    rcases Nat.eq_zero_or_pos i with rfl | hpos
    · exact iff_of_true rfl ⟨rfl, htable⟩
    · refine iff_of_false (ne_of_or h.params (hother hpos)) ?_
      rintro ⟨hzero, -⟩
      exact Nat.ne_of_gt hpos hzero
  · have hall : ∀ i < 9, ((rsiHeRates.set 0 RSI_RATE_6).set 1 RSI_RATE_12)[i]? =
        some (if i < 2 then 0x8b - BitVec.ofNat 16 i else 0x400 + BitVec.ofNat 16 (i - 1)) ∧
        (if i < 2 then 0x8b - BitVec.ofNat 16 i else 0x400 + BitVec.ofNat 16 (i - 1)) &&& 0x1f ≠
          (0x1f : BitVec 16) ∧
        (if i < 2 then 0x8b - BitVec.ofNat 16 i else 0x400 + BitVec.ofNat 16 (i - 1)) &&& 0x1f ≠
          (0x400 + BitVec.ofNat 16 i) &&& 0x1f := by decide
    obtain ⟨hget, hlow, hother⟩ := hall i hlen
    rw [htable, hget] at hx
    obtain rfl := Option.some.inj hx
    refine ⟨hcode hlow, iff_of_false (ne_of_or h.params hother) ?_⟩
    rintro ⟨-, huntouched⟩
    rw [htable] at huntouched
    exact absurd huntouched (by decide)

/-- The highest of the twelve bits, or a bitmap without any of them. -/
theorem highestBit_spec {legacy : BitVec 16} {i : ℕ}
    (hi : (RateConf.highestBit legacy).getLsbD i = true) :
    12 ≤ i ∨ legacy.getLsbD i = true ∧ ∀ j < 12, legacy.getLsbD j = true → j ≤ i := by
  unfold RateConf.highestBit at hi
  cases hfind : (List.range 12).reverse.find? fun i => legacy.getLsbD i with
  | none =>
    rw [hfind] at hi
    refine Or.inl (Nat.le_of_not_lt fun hlt => ?_)
    exact List.find?_eq_none.1 hfind i (List.mem_reverse.2 (List.mem_range.2 hlt)) hi
  | some t =>
    rw [hfind] at hi
    dsimp only at hi
    rw [BitVec.getLsbD_twoPow, Bool.and_eq_true, decide_eq_true_eq, decide_eq_true_eq] at hi
    obtain rfl : t = i := hi.2
    refine Or.inr ⟨List.find?_some hfind, fun j hj hbit => ?_⟩
    obtain ⟨-, before, after, hlist, hbefore⟩ := List.find?_eq_some_iff_append.1 hfind
    have hmem : j ∈ (List.range 12).reverse := List.mem_reverse.2 (List.mem_range.2 hj)
    have hsorted : (List.range 12).reverse.Pairwise (· > ·) := by decide
    rw [hlist, List.pairwise_append, List.pairwise_cons] at hsorted
    rw [hlist] at hmem
    rcases List.mem_append.1 hmem with hmem | hmem
    · have hnot := hbefore j hmem
      rw [hbit] at hnot
      cases hnot
    · rcases List.mem_cons.1 hmem with rfl | hmem
      · exact Nat.le_refl _
      · exact Nat.le_of_lt (hsorted.2.1.1 j hmem)

/-- The rates of a band start at an offset of the table. -/
theorem bandRates_getElem? {band5GHz : Bool} {j : ℕ} {r : BitVec 16 × BitVec 16} :
    (bandRates band5GHz)[j]? = some r ↔ j + (if band5GHz then 4 else 0) < 12 ∧
      r = (stdRates.getD (j + if band5GHz then 4 else 0) 0,
        rsiRates.getD (j + if band5GHz then 4 else 0) 0) := by
  have hall : ∀ k < 12, (stdRates.zip rsiRates)[k]? =
      some (stdRates.getD k 0, rsiRates.getD k 0) := by decide
  rw [bandRates, List.getElem?_drop, Nat.add_comm]
  by_cases hlt : j + (if band5GHz then 4 else 0) < 12
  · rw [hall _ hlt, Option.some_inj, eq_comm]
    exact ⟨fun h => ⟨hlt, h⟩, And.right⟩
  · rw [List.getElem?_eq_none (Nat.le_of_not_lt hlt)]
    refine iff_of_false (fun h => ?_) fun h => hlt h.1
    cases h

/-- The legacy rates are sorted but for 11 Mbps. -/
theorem stdRates_le {a b : ℕ} (h : a ≤ b) (hb : b < 12) :
    stdRates.getD a 0 ≤ stdRates.getD b 0 ∨ a = 3 ∧ (b = 4 ∨ b = 5) := by
  have hall : ∀ b < 12, ∀ a ≤ b, stdRates.getD a 0 ≤ stdRates.getD b 0 ∨
      a = 3 ∧ (b = 4 ∨ b = 5) := by decide
  exact hall b hb a h

/-- The legacy rate with the highest bit is the fastest one, unless that is 11 Mbps. -/
theorem selected_legacy_iff (hmcs : call.mcs = 0xff)
    (hhe : ¬ (s.conf.ax11Enabled = true ∧ call.heMcs ≠ 0xff)) {i : ℕ} {rate : BitVec 16}
    (hi : (RateConf.highestBit (call.legacy.setWidth 16)).getLsbD i = true)
    (hentry : rsiRates[if call.band5GHz then i + 4 else i]? = some rate) :
    rate ≠ 0xff ∧ (call.Selected s.conf rate ↔
      call.band5GHz = true ∨ i ≠ 4 ∧ i ≠ 5 ∨ call.legacy.getLsbD 3 = false) := by
  obtain ⟨off, hoff⟩ : ∃ off, off = if call.band5GHz then 4 else 0 := ⟨_, rfl⟩
  have hindex : (if call.band5GHz then i + 4 else i) = i + off := by
    rw [hoff]
    split_ifs <;> rfl
  rw [hindex] at hentry
  have hlt : i + off < 12 := (List.getElem?_eq_some_iff.1 hentry).1
  have hcodes : ∀ a < 12, rsiRates[a]? = some (rsiRates.getD a 0) ∧ rsiRates.getD a 0 ≠ 0xff ∧
      ∀ b < 12, rsiRates.getD a 0 = rsiRates.getD b 0 → a = b := by decide
  obtain ⟨hget, hne, hinj⟩ := hcodes _ hlt
  rw [hget] at hentry
  obtain rfl := Option.some.inj hentry
  have hwidth {j : ℕ} (hj : j < 12) :
      (call.legacy.setWidth 16).getLsbD j = call.legacy.getLsbD j := by
    rw [BitVec.getLsbD_setWidth, decide_eq_true (by omega), Bool.true_and]
  obtain ⟨hbit, hhighest⟩ := (highestBit_spec hi).resolve_left (by omega)
  rw [hwidth (by omega)] at hbit
  refine ⟨hne, ?_⟩
  rw [MaskCall.Selected, if_neg (not_not.2 hmcs), if_neg hhe]
  simp only [bandRates_getElem?, ← hoff]
  constructor
  · rintro ⟨i', std, ⟨hlt', hrate⟩, -, hfastest⟩
    obtain ⟨rfl, hcode⟩ := Prod.mk.inj hrate
    obtain rfl : i = i' := by
      have heq := hinj _ hlt' hcode
      omega
    -- 11 Mbps is faster than 6 and 9 Mbps
    by_contra hslow
    rw [not_or, not_or, Bool.not_eq_true, Bool.not_eq_false, not_and_or, not_not, not_not] at hslow
    obtain ⟨hband, h45, h3⟩ := hslow
    rw [hband, if_neg Bool.false_ne_true] at hoff
    subst hoff
    have hle := hfastest 3 _ ⟨by decide, rfl⟩ h3
    rcases h45 with rfl | rfl <;> exact absurd hle (by decide)
  · intro hright
    refine ⟨i, _, ⟨hlt, rfl⟩, hbit, ?_⟩
    rintro j r ⟨hj, rfl⟩ hbitj
    have hle := hhighest j (by omega) ((hwidth (by omega)).trans hbitj)
    rcases stdRates_le (Nat.add_le_add_right hle off) hlt with hsorted | ⟨h3, h45⟩
    · exact hsorted
    · exfalso
      cases hband : call.band5GHz with
      | true =>
        rw [hband, if_pos rfl] at hoff
        omega
      | false =>
        rw [hband, if_neg Bool.false_ne_true] at hoff
        rw [hband] at hright
        obtain rfl : j = 3 := by omega
        rw [hbitj] at hright
        rcases hright with h | h | h
        · cases h
        · omega
        · cases h

/-- A mask with all rates. -/
theorem rateMaskOk_full_iff (h : s.Inv) (hassoc : call.assoc = true) (hfull : call.full = true) :
    RateMaskOk s call ↔ call.alloc = true ∨ s.conf.fixedRateEn = false := by
  have hcall : s.setRateMask call =
      ({ s with conf := { s.conf with fixedRateEn := false } } : MaskState).sendVapDynamicUpdate
        call.alloc := by
    unfold MaskState.setRateMask
    rw [if_neg (by rw [hassoc]; exact Bool.noConfusion)]
    dsimp only
    rw [h.clearMask]
    exact if_pos hfull
  unfold MaskState.sendVapDynamicUpdate at hcall
  cases halloc : call.alloc with
  | true =>
    rw [halloc, if_pos rfl] at hcall
    refine iff_of_true ⟨?_, fun _ => Or.inl ⟨hfull, ?_⟩, fun hnok => ?_⟩ (Or.inl rfl)
    · rw [hcall]
    · rw [hcall]
    · rw [hcall] at hnok
      exact absurd rfl hnok
  | false =>
    rw [halloc, if_neg Bool.false_ne_true] at hcall
    rw [or_iff_right Bool.false_ne_true]
    refine ⟨fun hok => ?_, fun hen => ⟨?_, fun hok => ?_, fun _ => ?_⟩⟩
    · have hkept := hok.kept
      rw [hcall] at hkept
      obtain ⟨hstate, -⟩ := hkept fun hok => MaskResult.noConfusion hok
      exact (congrArg (fun s => s.conf.fixedRateEn) hstate).symm
    · rw [hcall]
    · rw [hcall] at hok
      cases hok
    · rw [hcall, ← hen]
      exact ⟨rfl, rfl⟩

/-- A call does what it should exactly for the masks that fit. -/
theorem rateMaskOk_iff (s : MaskState) (call : MaskCall) (h : MaskState.system.Reachable s) :
    RateMaskOk s call ↔ s.MaskFits call := by
  have hinv := MaskState.inv_of_reachable h
  have hlength : s.conf.mcsrates.length = 8 ∧ s.conf.heRates.length = 9 := by
    rcases hinv.tables with ⟨hmcs, hhe⟩ | ⟨hmcs, hhe⟩ <;> rw [hmcs, hhe] <;> exact ⟨rfl, rfl⟩
  unfold MaskState.MaskFits
  cases hassoc : call.assoc with
  | false =>
    have hcall : s.setRateMask call = ⟨s, .einval, none, true⟩ := by
      unfold MaskState.setRateMask
      exact if_pos hassoc
    refine iff_of_true ⟨?_, fun hok => ?_, fun _ => ?_⟩ fun h => Bool.noConfusion h
    · rw [hcall]
    · rw [hcall] at hok
      cases hok
    · rw [hcall]
      exact ⟨rfl, rfl⟩
  | true =>
    rw [imp_iff_right rfl]
    by_cases hfull : call.full = true
    · rw [if_pos hfull]
      exact rateMaskOk_full_iff hinv hassoc hfull
    rw [if_neg hfull]
    have hfull := Bool.eq_false_iff.2 hfull
    by_cases hmcs : call.mcs ≠ 0xff
    · -- the rates of HT
      rw [if_pos hmcs]
      refine rateMaskOk_iff_bitOk hinv hassoc hfull ?_ ?_ ?_
      · rw [RateConf.maskRate, if_pos hmcs]
        rfl
      · exact List.getElem?_eq_none (by rw [hlength.1]; decide)
      · exact fun i r _ hi hentry => selected_ht_iff hinv hmcs hi hentry
    rw [if_neg hmcs]
    by_cases hhe : s.conf.ax11Enabled = true ∧ call.heMcs ≠ 0xff
    · -- the rates of HE
      rw [if_pos hhe]
      refine rateMaskOk_iff_bitOk hinv hassoc hfull ?_ ?_ ?_
      · rw [RateConf.maskRate, if_neg hmcs, if_pos hhe]
        rfl
      · rw [List.getElem?_eq_none (by rw [hlength.2]; decide)]
        rfl
      · exact fun i r hone hi hentry =>
          selected_he_iff hinv (not_not.1 hmcs) hhe.1 hhe.2 hone hi hentry
    rw [if_neg hhe]
    by_cases hno : s.conf.ax11Enabled = false ∧ call.heMcs ≠ 0xff ∧ call.heMcs ≠ 0
    · -- rates of HE without HE
      rw [if_pos hno]
      have hcall := setRateMask_of_not_full hinv hassoc hfull
      rw [RateConf.maskRate, if_neg hmcs, if_neg hhe, if_pos hno] at hcall
      refine iff_of_true ⟨?_, fun hok => ?_, fun _ => ?_⟩ trivial
      · rw [hcall]
      · rw [hcall] at hok
        cases hok
      · rw [hcall]
        exact ⟨rfl, rfl⟩
    · -- the legacy rates
      rw [if_neg hno]
      refine rateMaskOk_iff_bitOk hinv hassoc hfull ?_ ?_ ?_
      · rw [RateConf.maskRate, if_neg hmcs, if_neg hhe, if_neg hno]
        rfl
      · exact List.getElem?_eq_none (by cases call.band5GHz <;> decide)
      · exact fun i r _ hi hentry => selected_legacy_iff (not_not.1 hmcs) hhe hi hentry

end Iff

/-! ## A mask without rates of HT -/

/-- The legacy rate of 6 Mbps. -/
def sampleMaskCall : MaskCall where
  assoc := true
  band5GHz := false
  mcs := 0
  legacy := 0x10
  heMcs := 0
  japan14 := false
  beyond := 0
  alloc := true

theorem not_rateMaskOk : ¬ ∀ (s : MaskState) (call : MaskCall), MaskState.system.Reachable s →
    (call.mcs ≠ 0 ∨ call.legacy &&& 0xfff ≠ 0 ∨ call.heMcs ≠ 0) → RateMaskOk s call := by
  intro hall
  have hok := hall ⟨.unset, 0, 0⟩ sampleMaskCall (.init rfl) (by decide)
  exact absurd hok.inRange (by decide)

/-- All OFDM rates: 54 Mbps is the fastest. -/
theorem rateMaskOk_sampleMaskCall :
    RateMaskOk ⟨.unset, 0, 0⟩ { sampleMaskCall with mcs := 0xff, legacy := 0xff0 } := by
  refine (rateMaskOk_iff _ _ (.init rfl)).2 fun _ => Or.inr ⟨11, 0x8c, rfl, rfl, Or.inr ?_⟩
  exact Or.inr (Or.inl ⟨by decide, by decide⟩)

end Tx
