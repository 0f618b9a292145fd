import RsiDriver.Mgmt.Indications

/-!
# Reading inside the frame

The parsers take the length field of the device for the number of bytes that they copy, and offsets
behind the descriptor for bytes that the frame has. Only the confirms of a baseband read test the
length at all, against 0. `SizesOk` says of a frame what keeps its parser inside the frame and
inside the destinations.

The loop over the real-time statistics reads the type of the next record before it tests whether
there is one. Records are delivered as they should be, but a frame that is nothing but complete
records is always read behind its end.

## Main results

* `parsedOk_iff`: a frame is parsed within bounds if and only if its sizes are in order;
* `statsLoop_toApp`: a concatenation of complete records is delivered record by record;
* `not_inBounds_of_records`: such a frame is read behind its end.
-/

namespace Recv

open Access

/-! ## The statistics loop -/

/-- A record of the length that belongs to its type. -/
def Complete (r : List (BitVec 8)) : Prop :=
  ∃ t, r.head?.bind StatType.ofByte = some t ∧ r.length = t.length

/-- The frame is made of these records. -/
structure IsRecords (m : ByteMemory) (rs : List (List (BitVec 8))) : Prop where
  complete : ∀ r ∈ rs, Complete r
  length_eq : rs.flatten.length = msgLen m
  holds : m.Holds 16 rs.flatten

/-- The loop does not take this for another record: there is no more than the loop counts as the
descriptor, or it starts with a type that is not known. -/
def EndsLoop (rest : List (BitVec 8)) : Prop :=
  rest ≠ [] ∧ (rest.length ≤ 16 ∨ rest.head?.bind StatType.ofByte = none)

/-- From `p` on the frame has complete records, and then something that ends the loop. -/
def RecordsThenRest (m : ByteMemory) (p : ℕ) : Prop :=
  ∃ (rs : List (List (BitVec 8))) (rest : List (BitVec 8)),
    (∀ r ∈ rs, Complete r) ∧ EndsLoop rest ∧
    p + (rs.flatten ++ rest).length = 16 + msgLen m ∧ m.Holds p (rs.flatten ++ rest)

/-- The frame as an object. -/
@[simp]
theorem size_frame (len : ℕ) : Obj.size len .frame = 16 + len := rfl

section StatsLoop

variable {m : ByteMemory} {p : ℕ} {r rest : List (BitVec 8)} {rs : List (List (BitVec 8))}

/-- The first byte of what stands at a place. -/
theorem ofByte_of_holds (h : m.Holds p r) (hr : r ≠ []) :
    StatType.ofByte (m p) = r.head?.bind StatType.ofByte := by
  cases r with
  | nil => exact absurd rfl hr
  | cons b r =>
    have hb : m p = b := h.apply (i := 0) (Nat.zero_lt_succ _)
    rw [hb]
    rfl

theorem Complete.ne_nil (h : Complete r) : r ≠ [] := by
  rintro rfl
  obtain ⟨t, ht, -⟩ := h
  exact nomatch ht

/-- A record that stands at `p` is read with its type. -/
theorem Complete.ofByte (h : Complete r) (hp : m.Holds p r) :
    ∃ t, StatType.ofByte (m p) = some t ∧ r.length = t.length := by
  obtain ⟨t, ht, hlen⟩ := id h
  exact ⟨t, (ofByte_of_holds hp h.ne_nil).trans ht, hlen⟩

/-- `next_stat` has reached `msg_len`. -/
theorem statsLoop_of_le (h : msgLen m ≤ p) : statsLoop m p = .quiet [] := by
  rw [statsLoop, if_neg (Nat.not_lt.2 h)]

theorem statsLoop_of_invalid (h : StatType.ofByte (m p) = none) : statsLoop m p = .quiet [] := by
  rw [statsLoop]
  split
  · rw [h]
  · rfl

/-- One round. -/
theorem statsLoop_of_lt {t : StatType} (h : p < msgLen m) (ht : StatType.ofByte (m p) = some t) :
    statsLoop m p =
      ⟨statRound m t p ++ (statsLoop m (p + t.length)).accesses,
        m.bytes p t.length :: (statsLoop m (p + t.length)).toApp⟩ := by
  rw [statsLoop, if_pos h, ht]

/-- **Delivery.** Every record of a concatenation is sent to the application once, in order. -/
theorem statsLoop_toApp (hrs : ∀ r ∈ rs, Complete r) (hp : m.Holds p rs.flatten)
    (hend : p + rs.flatten.length = 16 + msgLen m) : (statsLoop m p).toApp = rs := by
  induction rs generalizing p with
  | nil =>
    rw [List.flatten_nil, List.length_nil] at hend
    rw [statsLoop_of_le (by omega)]
    rfl
  | cons r rs ih =>
    rw [List.flatten_cons, ByteMemory.holds_append] at hp
    rw [List.flatten_cons, List.length_append] at hend
    obtain ⟨t, ht, hlen⟩ := (hrs r List.mem_cons_self).ofByte hp.1
    -- a record is longer than the descriptor, so that `next_stat` has not reached `msg_len`
    have hlt : p < msgLen m := by
      have := t.le_length
      omega
    rw [statsLoop_of_lt hlt ht, ← hlen, hp.1.bytes_eq]
    have hrest := ih (fun r hr => hrs r (List.mem_cons_of_mem _ hr)) hp.2 (by omega)
    exact congrArg (r :: ·) hrest

/-- The round of a record stays in bounds if a byte follows the record. -/
theorem statRound_inBounds (t : StatType) :
    AllInBounds (Obj.size (msgLen m)) (statRound m t p) ↔ p + t.length < 16 + msgLen m := by
  have hdest : t.dest.size (msgLen m) = t.length := by cases t <;> rfl
  have hpos := t.le_length
  simp only [statRound, msg, allInBounds_cons, allInBounds_append, allInBounds_copy,
    allInBounds_nil, inBounds_write, inBounds_byte, List.length_replicate, hdest, size_frame,
    and_true]
  omega

/-- The loop stays in bounds on complete records that something else follows. -/
theorem statsLoop_inBounds_of_records (hrs : ∀ r ∈ rs, Complete r) (hrest : EndsLoop rest)
    (hend : p + (rs.flatten ++ rest).length = 16 + msgLen m)
    (hp : m.Holds p (rs.flatten ++ rest)) :
    AllInBounds (Obj.size (msgLen m)) (statsLoop m p).accesses := by
  induction rs generalizing p with
  | nil =>
    rw [List.flatten_nil, List.nil_append] at hend hp
    obtain ⟨hne, hshort | hinvalid⟩ := hrest
    · rw [statsLoop_of_le (by omega)]
      exact allInBounds_nil
    · rw [statsLoop_of_invalid ((ofByte_of_holds hp hne).trans hinvalid)]
      exact allInBounds_nil
  | cons r rs ih =>
    rw [List.flatten_cons, List.append_assoc] at hp hend
    rw [ByteMemory.holds_append] at hp
    rw [List.length_append] at hend
    obtain ⟨t, ht, hlen⟩ := (hrs r List.mem_cons_self).ofByte hp.1
    have hpos : 0 < rest.length := List.length_pos_iff.2 hrest.1
    have htail : rest.length ≤ (rs.flatten ++ rest).length := by
      rw [List.length_append]
      exact Nat.le_add_left _ _
    have hlt : p < msgLen m := by
      have := t.le_length
      omega
    rw [statsLoop_of_lt hlt ht, ← hlen, allInBounds_append]
    constructor
    · exact (statRound_inBounds t).2 (by omega)
    · exact ih (fun r hr => hrs r (List.mem_cons_of_mem _ hr)) (by omega) hp.2

/-- What the frame has from `p` on. -/
theorem holds_bytes (m : ByteMemory) (p n : ℕ) : m.Holds p (m.bytes p n) :=
  ByteMemory.holds_of_bytes_eq (by rw [ByteMemory.length_bytes])

/-- Where the loop stops without a round, the rest of the frame ends it. -/
theorem recordsThenRest_nil (hp : p < 16 + msgLen m)
    (h : msgLen m ≤ p ∨ StatType.ofByte (m p) = none) : RecordsThenRest m p := by
  have hlen : (m.bytes p (16 + msgLen m - p)).length = 16 + msgLen m - p := m.length_bytes _ _
  have hne : m.bytes p (16 + msgLen m - p) ≠ [] := List.length_pos_iff.1 (by omega)
  have hholds := holds_bytes m p (16 + msgLen m - p)
  refine ⟨[], m.bytes p (16 + msgLen m - p), by simp, ⟨hne, ?_⟩, ?_, hholds⟩
  · obtain hle | hinvalid := h
    · exact .inl (by omega)
    · exact .inr ((ofByte_of_holds hholds hne).symm.trans hinvalid)
  · rw [List.flatten_nil, List.nil_append, hlen]
    omega

/-- A record in front. -/
theorem RecordsThenRest.cons {t : StatType} (ht : StatType.ofByte (m p) = some t)
    (h : RecordsThenRest m (p + t.length)) : RecordsThenRest m p := by
  obtain ⟨rs, rest, hrs, hrest, hend, hp⟩ := h
  have hlen : (m.bytes p t.length).length = t.length := m.length_bytes _ _
  have hne : m.bytes p t.length ≠ [] := by
    have := t.le_length
    exact List.length_pos_iff.1 (by omega)
  have hholds := holds_bytes m p t.length
  have hcomplete : Complete (m.bytes p t.length) :=
    ⟨t, (ofByte_of_holds hholds hne).symm.trans ht, hlen⟩
  refine ⟨m.bytes p t.length :: rs, rest, ?_, hrest, ?_, ?_⟩
  · rintro r (_ | ⟨_, hr⟩)
    · exact hcomplete
    · exact hrs r hr
  · rw [List.flatten_cons, List.append_assoc, List.length_append, hlen]
    omega
  · rw [List.flatten_cons, List.append_assoc, ByteMemory.holds_append, hlen]
    exact ⟨hholds, hp⟩

/-- The induction goes with the loop: each round in bounds gives a record, and the byte that it
reads last is the first one of what follows. -/
theorem recordsThenRest_of_inBounds {p : ℕ} (hp : p < 16 + msgLen m)
    (h : AllInBounds (Obj.size (msgLen m)) (statsLoop m p).accesses) : RecordsThenRest m p := by
  by_cases hlt : p < msgLen m
  · cases ht : StatType.ofByte (m p) with
    | none => exact recordsThenRest_nil hp (.inr ht)
    | some t =>
      rw [statsLoop_of_lt hlt ht, allInBounds_append] at h
      have hnext := (statRound_inBounds t).1 h.1
      have := t.le_length
      exact (recordsThenRest_of_inBounds hnext h.2).cons ht
  · exact recordsThenRest_nil hp (.inl (Nat.le_of_not_lt hlt))
termination_by msgLen m - p

/-- The case `REAL_TIME_STATS_RESP_FRAME` stays in bounds if and only if something that is not a
record follows the complete records of the frame. -/
theorem realTimeStats_inBounds :
    AllInBounds (Obj.size (msgLen m)) (realTimeStats m).accesses ↔ RecordsThenRest m 16 := by
  rw [realTimeStats, allInBounds_cons, msg, inBounds_byte]
  constructor
  · rintro ⟨hfirst, hloop⟩
    exact recordsThenRest_of_inBounds hfirst hloop
  · rintro ⟨rs, rest, hrs, hrest, hend, hp⟩
    have hpos : 0 < rest.length := List.length_pos_iff.2 hrest.1
    rw [List.length_append] at hend
    constructor
    · show 16 < 16 + msgLen m
      omega
    · exact statsLoop_inBounds_of_records hrs hrest (by rwa [List.length_append]) hp

/-- The loop reads the byte behind the last record. -/
theorem not_inBounds_of_records (hrs : ∀ r ∈ rs, Complete r) (hne : rs ≠ [])
    (hp : m.Holds p rs.flatten) (hend : p + rs.flatten.length = 16 + msgLen m) :
    ¬ AllInBounds (Obj.size (msgLen m)) (statsLoop m p).accesses := by
  induction rs generalizing p with
  | nil => exact absurd rfl hne
  | cons r rs ih =>
    rw [List.flatten_cons, ByteMemory.holds_append] at hp
    rw [List.flatten_cons, List.length_append] at hend
    obtain ⟨t, ht, hlen⟩ := (hrs r List.mem_cons_self).ofByte hp.1
    have hlt : p < msgLen m := by
      have := t.le_length
      omega
    rw [statsLoop_of_lt hlt ht, allInBounds_append, statRound_inBounds, ← hlen]
    rintro ⟨hround, hloop⟩
    cases rs with
    | nil =>
      rw [List.flatten_nil, List.length_nil] at hend
      omega
    | cons r' rs =>
      exact ih (fun r hr => hrs r (List.mem_cons_of_mem _ hr)) (List.cons_ne_nil _ _) hp.2
        (by omega) hloop

end StatsLoop

/-! ## Sizes -/

section Sizes

variable (s : Adapter) (m : ByteMemory)

/-- The sizes of a confirm are in order. -/
def TaConfirm.Fits : TaConfirm → Prop
  -- a baseband read fits into 1024 words
  | .bbProgValuesRequest | .bbBufProgValuesReq | .socRegOps => msgLen m ≤ 2048
  -- a MAC address stands at the bytes 21 to 26, the RF type at byte 17
  | .eepromRead =>
    msgLen m ≠ 0 → m 16 = Boot.MAGIC_WORD →
      (s.fsmState = .eepromReadMacAddr → 11 ≤ msgLen m) ∧
        (s.fsmState = .eepromReadRfType → 2 ≤ msgLen m)
  | .scanRequest => s.chanSelected → s.idx.toNat < MAX_NUM_CHANS → 3 ≤ msgLen m
  | .statsRequest => msgLen m ≤ 180
  | .diagToolCmd | .getRssiFrame => 2 ≤ msgLen m
  | .wakeupSleepRequest | .other => True

/-- The sizes of the second card-ready indication of a newer device are in order: it has the byte
with the magic word, and if it has that word, the byte of the address that shows whether there is
one, the address and the band if there is, and the efuse map if the descriptor says so. -/
def CardReadyFits : Prop :=
  1 ≤ msgLen m ∧
    (m 16 = Boot.MAGIC_WORD →
      6 ≤ msgLen m ∧
      (macAddrValid m = true → 10 ≤ msgLen m) ∧
      (macAddrTooHigh m = false →
        (macAddrValid m = true → 12 ≤ msgLen m) ∧ (efuseValid m = true → 30 ≤ msgLen m)))

/-- The sizes of an indication are in order. -/
def MgmtInd.Fits : MgmtInd → Prop
  | .taConfirmType => (TaConfirm.ofSubType (m 15)).Fits s m
  | .cardReadyInd =>
    s.fsmState = .commonDevParamsSent → s.model9116 = true → CardReadyFits m
  | .txStatusInd =>
    m 15 = NULLDATA_CONFIRM → s.vifType ≠ some .station → (m 13).toNat ≤ RSI_MAX_ASSOC_STAS
  | .realTimeStatsRespFrame => RecordsThenRest m 16
  | .rxDot11Mgmt | .sleepNotifyInd | .hwBmissEvent | .fwErrorStateInd | .disablePsFromLmac
  | .wowlanWakeupReason | .other => True

/-- The sizes of a Bluetooth frame of the management queue are in order. -/
def BtMsg.Fits : BtMsg → Prop
  | .btE2eStat => BT_STATS_SIZE ≤ msgLen m
  | .btPer => if s.bbReadCmd then msgLen m ≤ 256 else BT_STATS_SIZE ≤ msgLen m
  | .statusByte => 1 ≤ msgLen m
  | .ignored | .other => True

/-- The sizes of a frame are in order. -/
def SizesOk : Packet → Prop
  | .mgmt m => (MgmtInd.ofMsgType (m 2)).Fits s m
  | .bt m =>
    s.btDeviceReady = true → Rx.queueno m 0 = Rx.RSI_BT_MGMT_Q →
      (BtMsg.ofMsgType (m 14)).Fits s m

end Sizes

/-! ## The handlers -/

section Handlers

variable {s : Adapter} {m : ByteMemory}

theorem msg_inBounds {len i : ℕ} : (msg i).InBounds (Obj.size len) ↔ i < 16 + len := by
  rw [msg, inBounds_byte, size_frame]

theorem bbRfReadCfm_inBounds :
    AllInBounds (Obj.size (msgLen m)) (bbRfReadCfm m) ↔ msgLen m ≤ 2048 := by
  have hsize : Obj.size (msgLen m) .bbRfRead = 2048 := rfl
  rw [bbRfReadCfm, allInBounds_ite, allInBounds_copy, size_frame, hsize]
  simp only [allInBounds_nil, implies_true, and_true]
  omega

theorem statsCfm_inBounds :
    AllInBounds (Obj.size (msgLen m)) (statsCfm m) ↔ msgLen m ≤ 180 := by
  have hsize : Obj.size (msgLen m) .staInfo = 180 := rfl
  rw [statsCfm, allInBounds_cons, allInBounds_copy, inBounds_write, List.length_replicate,
    size_frame, hsize]
  omega

theorem scanCfm_inBounds :
    AllInBounds (Obj.size (msgLen m)) (scanCfm s) ↔ TaConfirm.Fits s m .scanRequest := by
  have hsize : Obj.size (msgLen m) .rsiSurvey = MAX_NUM_CHANS := rfl
  rw [scanCfm, allInBounds_cons, allInBounds_ite]
  simp only [allInBounds_cons, allInBounds_nil, inBounds_read, inBounds_entry, msg_inBounds,
    size_frame, hsize, TaConfirm.Fits, implies_true, and_true]
  constructor
  · rintro ⟨-, h⟩ hsel hidx
    have := (h ⟨hsel, hidx⟩).2.2
    omega
  · intro h
    refine ⟨by omega, fun hcond => ?_⟩
    have := h hcond.1 hcond.2
    exact ⟨by omega, hcond.2, by omega⟩

theorem eepromReadCfm_inBounds :
    AllInBounds (Obj.size (msgLen m)) (eepromReadCfm s m) ↔ TaConfirm.Fits s m .eepromRead := by
  have hsize : Obj.size (msgLen m) .macAddr = 6 := rfl
  simp only [eepromReadCfm, TaConfirm.Fits, allInBounds_ite, allInBounds_cons, allInBounds_nil,
    allInBounds_copy, inBounds_read, msg_inBounds, size_frame, hsize, implies_true, and_true]
  constructor
  · rintro ⟨hmac, hother⟩ hlen hmagic
    constructor
    · intro hfsm
      have := ((hmac hfsm).2.2 hlen).2 hmagic
      omega
    · intro hfsm
      have hne : s.fsmState ≠ .eepromReadMacAddr := by simp [hfsm]
      have := ((hother hne hfsm).2.2 hlen).2 hmagic
      omega
  · intro h
    constructor
    · intro hfsm
      refine ⟨by omega, trivial, fun hlen => ⟨by omega, fun hmagic => ?_⟩⟩
      have := (h hlen hmagic).1 hfsm
      omega
    · intro _ hfsm
      refine ⟨by omega, trivial, fun hlen => ⟨by omega, fun hmagic => ?_⟩⟩
      have := (h hlen hmagic).2 hfsm
      omega

theorem handleTaConfirm_inBounds :
    AllInBounds (Obj.size (msgLen m)) (handleTaConfirm s m) ↔
      (TaConfirm.ofSubType (m 15)).Fits s m := by
  have hrssi : Obj.size (msgLen m) .rxRssi = 2 := rfl
  have hheader : AllInBounds (Obj.size (msgLen m)) [msg 15, .read .frame ⟨0, 2⟩] := by
    simp only [allInBounds_cons, allInBounds_nil, msg_inBounds, inBounds_read, size_frame, and_true]
    omega
  rw [handleTaConfirm, allInBounds_append, and_iff_right hheader]
  cases TaConfirm.ofSubType (m 15) with
  | bbProgValuesRequest => exact bbRfReadCfm_inBounds
  | bbBufProgValuesReq => exact bbRfReadCfm_inBounds
  | socRegOps => exact bbRfReadCfm_inBounds
  | scanRequest => exact scanCfm_inBounds
  | eepromRead => exact eepromReadCfm_inBounds
  | statsRequest => exact statsCfm_inBounds
  | wakeupSleepRequest =>
    simp only [TaConfirm.Fits, allInBounds_cons, allInBounds_nil, inBounds_read, size_frame,
      and_true, iff_true]
    omega
  | diagToolCmd =>
    simp only [TaConfirm.Fits, allInBounds_cons, allInBounds_nil, msg_inBounds, and_true]
    omega
  | getRssiFrame =>
    rw [allInBounds_copy, size_frame, hrssi, TaConfirm.Fits]
    omega
  | other => simp [TaConfirm.Fits]

theorem readMacAddr_inBounds :
    AllInBounds (Obj.size (msgLen m)) (readMacAddr m) ↔
      1 ≤ msgLen m ∧
        (m 16 = Boot.MAGIC_WORD →
          6 ≤ msgLen m ∧ (macAddrValid m = true →
            10 ≤ msgLen m ∧ (macAddrTooHigh m = false → 12 ≤ msgLen m))) := by
  have hsize : Obj.size (msgLen m) .macAddr = 6 := rfl
  simp only [readMacAddr, allInBounds_cons, allInBounds_ite, allInBounds_append, allInBounds_nil,
    allInBounds_copy, msg_inBounds, size_frame, hsize, implies_true, true_and, and_true,
    Bool.not_eq_true]
  -- each check of the length, and then the ones that are made behind it
  refine and_congr (by omega) (imp_congr_right fun _ => ?_)
  refine and_congr (by omega) (imp_congr_right fun _ => ?_)
  exact and_congr (by omega) (imp_congr_right fun _ => by omega)

/-- The last field of the efuse map ends at byte 46. -/
theorem efuseFields_inBounds :
    AllInBounds (Obj.size (msgLen m)) efuseFields ↔ 30 ≤ msgLen m := by
  simp only [efuseFields, List.map_cons, List.map_nil, allInBounds_cons, allInBounds_nil,
    inBounds_read, size_frame, and_true]
  omega

theorem readEfuse_inBounds :
    AllInBounds (Obj.size (msgLen m)) (readEfuse m) ↔
      1 ≤ msgLen m ∧ (efuseValid m = true → 30 ≤ msgLen m) := by
  have hmagic : efuseValid m = true → m 16 = Boot.MAGIC_WORD := by
    intro h
    rw [efuseValid, Bool.and_eq_true, beq_iff_eq] at h
    exact h.1
  simp only [readEfuse, allInBounds_cons, allInBounds_ite, allInBounds_nil, msg_inBounds,
    efuseFields_inBounds, implies_true, and_true]
  constructor
  · rintro ⟨hfirst, h⟩
    exact ⟨by omega, fun hvalid => (h (hmagic hvalid)).2 hvalid⟩
  · rintro ⟨hfirst, h⟩
    exact ⟨by omega, fun _ => ⟨by omega, h⟩⟩

theorem macAddrValid_of_tooHigh (h : macAddrTooHigh m = true) : macAddrValid m = true := by
  simp only [macAddrTooHigh, Bool.and_eq_true] at h
  exact h.1.1.1

theorem handleCardReady_inBounds :
    AllInBounds (Obj.size (msgLen m)) (handleCardReady s m) ↔
      MgmtInd.Fits s m .cardReadyInd := by
  have hreg : AllInBounds (Obj.size (msgLen m)) [Access.read .frame ⟨8, 4⟩] := by
    simp only [allInBounds_cons, allInBounds_nil, inBounds_read, size_frame, and_true]
    omega
  by_cases hfsm : s.fsmState = .commonDevParamsSent
  · cases hmodel : s.model9116 with
    | false =>
      rw [handleCardReady, hfsm]
      simp only [MgmtInd.Fits, hmodel, if_false, hreg, Bool.false_eq_true, false_imp_iff,
        implies_true]
    | true =>
      have hefuse : efuseValid m = true → m 16 = Boot.MAGIC_WORD := by
        intro h
        rw [efuseValid, Bool.and_eq_true, beq_iff_eq] at h
        exact h.1
      simp only [handleCardReady, hfsm, hmodel, if_true, allInBounds_ite, allInBounds_append,
        readMacAddr_inBounds, readEfuse_inBounds, hreg, and_true, MgmtInd.Fits, CardReadyFits,
        true_imp_iff, Bool.not_eq_true]
      cases hhigh : macAddrTooHigh m with
      | false => grind
      | true =>
        have hvalid := macAddrValid_of_tooHigh hhigh
        grind
  · have hquiet : AllInBounds (Obj.size (msgLen m)) (handleCardReady s m) := by
      rw [handleCardReady]
      split
      · rw [allInBounds_cons, msg_inBounds]
        exact ⟨by omega, allInBounds_nil⟩
      · exact absurd ‹_› hfsm
      · exact allInBounds_nil
    exact iff_of_true hquiet fun h => absurd h hfsm

theorem txStatusInd_inBounds :
    AllInBounds (Obj.size (msgLen m)) (txStatusInd s m) ↔ MgmtInd.Fits s m .txStatusInd := by
  have hsize : Obj.size (msgLen m) .stations = RSI_MAX_ASSOC_STAS + 1 := rfl
  simp only [txStatusInd, allInBounds_cons, allInBounds_append, allInBounds_ite, allInBounds_nil,
    msg_inBounds, inBounds_entry, hsize, implies_true, and_true, MgmtInd.Fits, nullDataSta]
  constructor
  · rintro ⟨-, -, h⟩ hnull hvif
    have := (h hnull).2.2
    rw [if_neg hvif] at this
    omega
  · intro h
    refine ⟨by omega, fun _ => by omega, fun hnull => ⟨by omega, by omega, ?_⟩⟩
    split
    · exact Nat.lt_succ_self _
    · exact Nat.lt_succ_of_le (h hnull ‹_›)

/-- The copy of an 802.11 frame ends where the frame ends. -/
theorem mgmtPktToCore_inBounds :
    AllInBounds (Obj.size (msgLen m)) (mgmtPktToCore s m) := by
  rw [mgmtPktToCore, allInBounds_cons, msg_inBounds, allInBounds_ite]
  refine ⟨by omega, fun _ => allInBounds_nil, fun h => ?_⟩
  simp only [not_or, Nat.not_le] at h
  have hskb (n : ℕ) : Obj.size (msgLen m) (.skb n) = n := rfl
  rw [allInBounds_append, allInBounds_copy, size_frame, hskb]
  simp only [allInBounds_cons, allInBounds_nil, msg_inBounds, and_true]
  omega

theorem mgmtPktRecv_inBounds :
    AllInBounds (Obj.size (msgLen m)) (mgmtPktRecv s m).accesses ↔
      (MgmtInd.ofMsgType (m 2)).Fits s m := by
  have hheader : AllInBounds (Obj.size (msgLen m)) [Access.read .frame ⟨0, 2⟩, msg 2] := by
    simp only [allInBounds_cons, allInBounds_nil, msg_inBounds, inBounds_read, size_frame, and_true]
    omega
  -- the bytes 2, 12 and 15 lie in the descriptor
  have hdesc {i : ℕ} (hi : i < 16) {l : List (Access Obj)}
      (hl : AllInBounds (Obj.size (msgLen m)) l) :
      AllInBounds (Obj.size (msgLen m)) (msg i :: l) :=
    allInBounds_cons.2 ⟨msg_inBounds.2 (by omega), hl⟩
  have hlast : AllInBounds (Obj.size (msgLen m)) [msg 15] := hdesc (by decide) allInBounds_nil
  rw [mgmtPktRecv]
  cases MgmtInd.ofMsgType (m 2) with
  | taConfirmType =>
    exact allInBounds_append.trans ((and_iff_right hheader).trans handleTaConfirm_inBounds)
  | cardReadyInd =>
    exact allInBounds_append.trans ((and_iff_right hheader).trans handleCardReady_inBounds)
  | txStatusInd =>
    exact allInBounds_append.trans ((and_iff_right hheader).trans txStatusInd_inBounds)
  | realTimeStatsRespFrame =>
    exact allInBounds_append.trans ((and_iff_right hheader).trans realTimeStats_inBounds)
  | rxDot11Mgmt =>
    exact iff_of_true (allInBounds_append.2 ⟨hheader, mgmtPktToCore_inBounds⟩) trivial
  | sleepNotifyInd =>
    refine iff_of_true (allInBounds_append.2 ⟨hheader, ?_⟩) trivial
    exact hdesc (by decide) (hdesc (by decide) allInBounds_nil)
  | hwBmissEvent => exact iff_of_true (allInBounds_append.2 ⟨hheader, hlast⟩) trivial
  | fwErrorStateInd => exact iff_of_true (allInBounds_append.2 ⟨hheader, hlast⟩) trivial
  | disablePsFromLmac => exact iff_of_true (allInBounds_append.2 ⟨hheader, hlast⟩) trivial
  | wowlanWakeupReason => exact iff_of_true (allInBounds_append.2 ⟨hheader, hlast⟩) trivial
  | other => exact iff_of_true hheader trivial

theorem toStack_inBounds : AllInBounds (Obj.size (msgLen m)) (toStack s m) := by
  have hskb (n : ℕ) : Obj.size (msgLen m) (.skb n) = n := rfl
  rw [toStack, allInBounds_ite]
  refine ⟨fun _ => ?_, fun _ => allInBounds_nil⟩
  rw [allInBounds_append, allInBounds_copy, size_frame, hskb]
  simp only [allInBounds_cons, allInBounds_nil, msg_inBounds, and_true]
  omega

theorem btMgmt_inBounds :
    AllInBounds (Obj.size (msgLen m)) ((btMgmt s m).getD (toStack s m)) ↔
      (BtMsg.ofMsgType (m 14)).Fits s m := by
  have hstats : Obj.size (msgLen m) .btStats = BT_STATS_SIZE := rfl
  have hdata : Obj.size (msgLen m) .bbRfParamsBt = 256 := rfl
  have hstatus : Obj.size (msgLen m) .status = 1 := rfl
  -- the copy of the statistics does not depend on the length field
  have hcopy : AllInBounds (Obj.size (msgLen m)) (copy m .frame 16 BT_STATS_SIZE .btStats 0) ↔
      BT_STATS_SIZE ≤ msgLen m := by
    rw [allInBounds_copy, size_frame, hstats, BT_STATS_SIZE]
    omega
  rw [btMgmt]
  cases BtMsg.ofMsgType (m 14) with
  | ignored => exact iff_of_true allInBounds_nil trivial
  | btE2eStat => exact hcopy
  | btPer =>
    cases hcmd : s.bbReadCmd with
    | true =>
      simp only [if_true, Option.getD_some, BtMsg.Fits, hcmd]
      rw [allInBounds_copy, size_frame, hdata]
      omega
    | false =>
      simp only [Bool.false_eq_true, if_false, Option.getD_some, BtMsg.Fits, hcmd]
      exact hcopy
  | statusByte =>
    rw [Option.getD_some, allInBounds_copy, size_frame, hstatus, BtMsg.Fits]
    omega
  | other => exact iff_of_true toStack_inBounds trivial

theorem hciRecvPkt_inBounds :
    AllInBounds (Obj.size (msgLen m)) (hciRecvPkt s m) ↔ SizesOk s (.bt m) := by
  have hheader : AllInBounds (Obj.size (msgLen m))
      [Access.read .frame ⟨0, 2⟩, .read .frame ⟨0, 2⟩] := by
    simp only [allInBounds_cons, allInBounds_nil, inBounds_read, size_frame, and_true]
    omega
  have htype : (msg 14).InBounds (Obj.size (msgLen m)) := msg_inBounds.2 (by omega)
  rw [hciRecvPkt, SizesOk]
  by_cases hready : s.btDeviceReady = false
  · rw [if_pos hready, allInBounds_append, and_iff_right hheader, allInBounds_cons]
    exact iff_of_true ⟨htype, allInBounds_nil⟩ fun h => Bool.noConfusion (hready.symm.trans h)
  · rw [if_neg hready]
    rw [Bool.not_eq_false] at hready
    by_cases hqueue : Rx.queueno m 0 = Rx.RSI_BT_MGMT_Q
    · rw [if_pos hqueue, allInBounds_append, and_iff_right hheader, allInBounds_cons,
        and_iff_right htype, btMgmt_inBounds]
      exact ⟨fun h _ _ => h, fun h => h hready hqueue⟩
    · rw [if_neg hqueue, allInBounds_append]
      exact iff_of_true ⟨hheader, toStack_inBounds⟩ fun _ h => absurd h hqueue

end Handlers

/-! ## Frames -/

/-- The frame is parsed within bounds: the parser stays inside the frame and the destinations, and
if the frame is one of real-time statistics that is made of complete records, each of them is
delivered, once and in order. -/
structure ParsedOk (s : Adapter) (f : Packet) : Prop where
  inBounds : AllInBounds (Obj.size (msgLen f.mem)) (recvPkt s f).accesses
  records : ∀ m, f = .mgmt m → MgmtInd.ofMsgType (m 2) = .realTimeStatsRespFrame →
    ∀ rs, IsRecords m rs → (recvPkt s f).toApp = rs

/-- Records are delivered in any case. -/
theorem recvPkt_toApp (s : Adapter) {m : ByteMemory}
    (ht : MgmtInd.ofMsgType (m 2) = .realTimeStatsRespFrame) {rs : List (List (BitVec 8))}
    (hrs : IsRecords m rs) : (recvPkt s (.mgmt m)).toApp = rs := by
  rw [recvPkt, mgmtPktRecv, ht]
  exact statsLoop_toApp hrs.complete hrs.holds (by rw [hrs.length_eq])

/-- Statistics that are nothing but complete records are read behind the end of the frame. -/
theorem not_parsedOk_of_isRecords (s : Adapter) {m : ByteMemory}
    (ht : MgmtInd.ofMsgType (m 2) = .realTimeStatsRespFrame) {rs : List (List (BitVec 8))}
    (hne : rs ≠ []) (hrs : IsRecords m rs) : ¬ ParsedOk s (.mgmt m) := by
  intro h
  have hbounds := h.inBounds
  rw [Packet.mem, recvPkt, mgmtPktRecv, ht] at hbounds
  have hstats := (allInBounds_append.1 hbounds).2
  rw [realTimeStats, allInBounds_cons] at hstats
  exact not_inBounds_of_records hrs.complete hne hrs.holds (by rw [hrs.length_eq]) hstats.2

/-- A station that runs. -/
def sampleAdapter : Adapter :=
  ⟨.macInitDone, true, some .station, false, 0, 0, 1, false, true, false, true⟩

/-- One record of received frames, of 24 bytes. -/
def sampleRecord : List (BitVec 8) := 0x82 :: List.replicate 23 0

/-- The frame `REAL_TIME_STATS_RESP_FRAME` with this record: a length of 24 in the first word. -/
def sampleStatsFrame : ByteMemory :=
  .ofList ([24, 0x40, 0x2e] ++ List.replicate 13 0 ++ sampleRecord)

theorem isRecords_sampleStatsFrame : IsRecords sampleStatsFrame [sampleRecord] := by
  refine ⟨?_, by decide, ?_⟩
  · rintro r (_ | ⟨_, hr⟩)
    · exact ⟨.rx, by decide, by decide⟩
    · exact nomatch hr
  · have h := ByteMemory.holds_ofList ([24, 0x40, 0x2e] ++ List.replicate 13 0 ++ sampleRecord)
    exact (ByteMemory.holds_append.1 h).2

end Recv
