import RsiDriver.Tx.Headroom
import RsiDriver.Tx.RateConfig

/-!
# The fields of a data descriptor

`rsi_prepare_data_desc` puts several numbers into one word of the descriptor by shifting them and
joining them with `|`. Nothing is masked but the tid and the priority, so the device reads back what
was put in only if each number stays within its bits.

## Main results

* `decodes_iff`: for which frames and which selected rate the fields read back;
* `RateConf.decodes_iff_of_reachableVia`: with the rates that `RateConf.Fits` allows it depends on
  the frame alone.
-/

namespace Tx

/-! ## Words of shifted numbers -/

theorem small_iff {x : BitVec 16} : Small x ↔ x &&& 0x3fff = x := by
  constructor
  · intro h
    have hsplit : x = x &&& 0x3fff ||| x &&& 0xc000 := by
      rw [← BitVec.and_or_distrib_left]
      exact (BitVec.and_allOnes (x := x)).symm
    rw [show x &&& 0xc000 = 0#16 from h, BitVec.or_zero] at hsplit
    exact hsplit.symm
  · intro h
    rw [← h]
    exact small_and rfl

theorem Small.ushiftRight {x : BitVec 16} (h : Small x) : x >>> 14 = 0 := by
  rw [← small_iff.1 h, BitVec.ushiftRight_and_distrib]
  exact BitVec.and_zero

/-- Word 4, the rate. -/
theorem rateWord_and (rate : BitVec 16) (vapId : BitVec 8) :
    (rate ||| vapId.setWidth 16 <<< 14) &&& 0x3fff = rate ↔ Small rate := by
  have hvap : ∀ v : BitVec 8, v.setWidth 16 <<< 14 &&& 0x3fff = 0#16 := by decide
  rw [small_iff, BitVec.and_comm, BitVec.and_or_distrib_left, BitVec.and_comm _ (_ <<< _), hvap,
    BitVec.or_zero, BitVec.and_comm]

/-- Word 4, the vap id. -/
theorem rateWord_shift {rate : BitVec 16} (h : Small rate) (vapId : BitVec 8) :
    (rate ||| vapId.setWidth 16 <<< 14) >>> 14 = vapId.setWidth 16 ↔ vapId.toNat < 4 := by
  have hvap : ∀ v : BitVec 8, v.setWidth 16 <<< 14 >>> 14 = v.setWidth 16 ↔ v.toNat < 4 := by
    decide
  have hrate : rate >>> 14 = 0#16 := h.ushiftRight
  rw [BitVec.ushiftRight_or_distrib, hrate, ← hvap, BitVec.zero_or]

/-- Word 0, the length. -/
theorem lengthWord_and (n : ℕ) (queue : BitVec 3) :
    ((BitVec.ofNat 16 n ||| queue.setWidth 16 <<< 12) &&& 0xfff).toNat = n ↔ n < 4096 := by
  have hqueue : ∀ q : BitVec 3, q.setWidth 16 <<< 12 &&& 0xfff = 0#16 := by decide
  have hlow : (BitVec.ofNat 16 n &&& 0xfff).toNat = n % 4096 := by
    rw [BitVec.toNat_and, BitVec.toNat_ofNat]
    show n % 2 ^ 16 &&& 2 ^ 12 - 1 = _
    rw [Nat.and_two_pow_sub_one_eq_mod]
    omega
  rw [BitVec.and_comm, BitVec.and_or_distrib_left, BitVec.and_comm _ (_ <<< _), hqueue,
    BitVec.or_zero, BitVec.and_comm, hlow]
  omega

/-- Word 0, the queue. -/
theorem lengthWord_shift {n : ℕ} (hn : n < 4096) (queue : BitVec 3) :
    (BitVec.ofNat 16 n ||| queue.setWidth 16 <<< 12) >>> 12 &&& 7 = queue.setWidth 16 := by
  have hqueue : ∀ q : BitVec 3, q.setWidth 16 <<< 12 >>> 12 &&& 7 = q.setWidth 16 := by decide
  have hlow : BitVec.ofNat 16 n >>> 12 = 0#16 := by
    apply BitVec.eq_of_toNat_eq
    rw [BitVec.toNat_ushiftRight, BitVec.toNat_ofNat, Nat.shiftRight_eq_div_pow]
    show n % 2 ^ 16 / 2 ^ 12 = 0
    omega
  rw [BitVec.ushiftRight_or_distrib, hlow, BitVec.zero_or, hqueue]

/-- Four bits of the priority are kept. -/
theorem setWidth_and_priority (priority : BitVec 32) :
    (priority &&& 0xf).setWidth 16 = (priority.setWidth 4).setWidth 16 := by
  apply BitVec.eq_of_toNat_eq
  rw [BitVec.toNat_setWidth, BitVec.toNat_and, BitVec.toNat_setWidth, BitVec.toNat_setWidth]
  show (priority.toNat &&& 2 ^ 4 - 1) % 2 ^ 16 = priority.toNat % 2 ^ 4 % 2 ^ 16
  rw [Nat.and_two_pow_sub_one_eq_mod]

/-- Word 7: the tid, the priority and the station. -/
theorem descStation_fields (a : Adapter) (skb : SkBuff) (vif : Vif) (d : FrameDesc) :
    ((descStation a skb vif d).w7 >>> 4 &&& 0xf).toNat = skb.txParams.tid.toNat % 16 ∧
      ((descStation a skb vif d).w7 &&& 0xf).toNat = (eapolPriority a skb vif).toNat % 16 ∧
      ((descStation a skb vif d).w7 >>> 8).toNat = skb.txParams.staId.toNat := by
  have htid : ∀ t : BitVec 8, ((t &&& 0xf).setWidth 16 <<< 4 >>> 4 &&& 0xf).toNat = t.toNat % 16 ∧
      (t &&& 0xf).setWidth 16 <<< 4 &&& 0xf = 0#16 ∧
      (t &&& 0xf).setWidth 16 <<< 4 >>> 8 = 0#16 := by decide
  have hprio : ∀ p : BitVec 4, p.setWidth 16 >>> 4 &&& 0xf = 0#16 ∧
      (p.setWidth 16 &&& 0xf).toNat = p.toNat ∧ p.setWidth 16 >>> 8 = 0#16 := by decide
  -- the station id is a signed char
  have hsta : ∀ s : BitVec 8, s.signExtend 16 <<< 8 >>> 4 &&& 0xf = 0#16 ∧
      s.signExtend 16 <<< 8 &&& 0xf = 0#16 ∧
      (s.signExtend 16 <<< 8 >>> 8).toNat = s.toNat := by decide
  have hand : ∀ x y z : BitVec 16,
      (x ||| y ||| z) &&& 0xf = x &&& 0xf ||| y &&& 0xf ||| z &&& 0xf := by
    intro x y z
    simp only [BitVec.and_comm _ 0xf, BitVec.and_or_distrib_left]
  obtain ⟨ht1, ht2, ht3⟩ := htid skb.txParams.tid
  obtain ⟨hp1, hp2, hp3⟩ := hprio ((eapolPriority a skb vif).setWidth 4)
  obtain ⟨hs1, hs2, hs3⟩ := hsta skb.txParams.staId
  simp only [descStation, setWidth_and_priority, BitVec.ushiftRight_or_distrib, hand]
  rw [hp1, hs1, ht2, hs2, ht3, hp3]
  simp only [BitVec.or_zero, BitVec.zero_or, ht1, hp2, hs3]
  simp

/-! ## What is put in -/

/-- The rate that is selected for a frame to `dest`: a fixed one for the multicast frames of an
access point and for EAPOL frames, else the one that the user or the interface has configured. -/
def selectedRate (a : Adapter) (vif : Vif) (dest : MacAddr) (protocol : BitVec 16) : BitVec 16 :=
  if (dest.isBroadcast || dest.isMulticast) = true ∧ (vif.type = .ap ∨ vif.type = .p2pGo) then
    (if a.band = 1 then 0x8b else 0) -- `RSI_RATE_6`, `RSI_RATE_1`
  else if isEapol vif.type protocol = true then
    if vif.type = .station then
      ((a.stations RSI_MAX_ASSOC_STAS).sta.map (·.minSupportedRate)).getD 0
    else 0
  else if a.fixedRateEn = true then a.fixedRate
  else if a.minRate ≠ 0xffff then
    (if a.sgi ∧ a.minRate &&& 0x100 ≠ 0 then a.minRate ||| 0x200 else a.minRate)
  else 0

/-- `RSI_WIFI_MGMT_Q` for the frames of the EAPOL handshake of a station, else `RSI_WIFI_DATA_Q` -/
def queueNumber (a : Adapter) (vif : Vif) (protocol : BitVec 16) : BitVec 3 :=
  if isEapol vif.type protocol = true ∧ vif.type = .station ∧ a.eapol4Confirm = false then 4 else 5

/-- The fields of the descriptor in front of `skb'` read back what `rsi_prepare_data_desc` was
given: the vap id, the rate, the length, the queue, the tid, the priority and the station. -/
structure Decodes (a : Adapter) (vif : Vif) (skb skb' : SkBuff) : Prop where
  vapId : skb'.word 8 >>> 14 = vif.vapId.setWidth 16
  rate : skb'.word 8 &&& 0x3fff = selectedRate a vif (dataDest skb 0) skb.protocol
  length : (skb'.word 0 &&& 0xfff).toNat = skb'.len - FRAME_DESC_SZ
  queue : skb'.word 0 >>> 12 &&& 7 = (queueNumber a vif skb.protocol).setWidth 16
  tid : (skb'.word 14 >>> 4 &&& 0xf).toNat = skb.txParams.tid.toNat
  priority : (skb'.word 14 &&& 0xf).toNat = skb'.priority.toNat
  staId : (skb'.word 14 >>> 8).toNat = skb.txParams.staId.toNat

/-- Each number that goes into the descriptor of a frame stays within its bits. A frame without QoS
has tid 16. -/
structure FieldsFit (a : Adapter) (vif : Vif) (skb : SkBuff) : Prop where
  vapId : vif.vapId.toNat < 4
  length : skb.len + dataHeaderSize a.usbFullSpeed skb - FRAME_DESC_SZ < 4096
  tid : skb.txParams.tid.toNat < 16
  priority : (eapolPriority a skb vif).toNat < 16

/-! ## What the descriptor holds -/

/-- A descriptor word is two bytes of the header. -/
theorem word_writeDesc (skb : SkBuff) {headerSize : ℕ} (hsize : FRAME_DESC_SZ ≤ headerSize)
    (d : FrameDesc) {i : ℕ} (hi : i < 8) :
    (skb.writeDesc headerSize d).word (2 * i) = d.words.toList.getD i 0 := by
  have hbytes : ∀ x : BitVec 16, (x >>> (8 * 1)).setWidth 8 ++ (x >>> (8 * 0)).setWidth 8 = x := by
    intro x
    apply BitVec.eq_of_toNat_eq
    simp only [BitVec.toNat_append, BitVec.toNat_setWidth, BitVec.toNat_ushiftRight,
      Nat.shiftRight_eq_div_pow]
    rw [← Nat.shiftLeft_add_eq_or_of_lt (by omega), Nat.shiftLeft_eq]
    have := x.isLt
    omega
  have hdesc : FRAME_DESC_SZ = 16 := rfl
  simp only [SkBuff.word, SkBuff.writeDesc]
  rw [if_pos (by omega), if_pos (by omega), FrameDesc.byteAt, FrameDesc.byteAt,
    if_pos (by omega), if_pos (by omega)]
  rw [show (2 * i + 1) / 2 = i by omega, show (2 * i + 1) % 2 = 1 by omega,
    show 2 * i / 2 = i by omega, show 2 * i % 2 = 0 by omega]
  exact hbytes _

section Words

variable (a : Adapter) (skb : SkBuff) (headerSize : ℕ) (vif : Vif) (d : FrameDesc)

@[simp]
theorem descBroadcast_w0 : (descBroadcast a skb headerSize vif d).w0 = d.w0 := by
  unfold descBroadcast
  split <;> rfl

@[simp]
theorem descBroadcast_w7 : (descBroadcast a skb headerSize vif d).w7 = d.w7 := by
  unfold descBroadcast
  split <;> rfl

@[simp]
theorem descRate_w0 : (descRate a vif d).w0 = d.w0 := by
  unfold descRate
  split_ifs <;> rfl

@[simp]
theorem descMinRate_w0 : (descMinRate a d).w0 = d.w0 := by
  unfold descMinRate
  split <;> rfl

@[simp]
theorem descQos_w4 : (descQos a skb headerSize vif d).w4 = d.w4 := by
  unfold descQos
  split_ifs <;> rfl

@[simp]
theorem descEncrypt_w4 : (descEncrypt skb d).w4 = d.w4 := by
  unfold descEncrypt
  dsimp only
  generalize (if skb.txParams.encapOffload then _ else _ : Bool) = encrypt
  split <;> rfl

@[simp]
theorem descLength_w4 : (descLength a skb headerSize d).w4 = d.w4 := by
  unfold descLength
  split_ifs <;> rfl

theorem descLength_w0 : (descLength a skb headerSize d).w0 =
    BitVec.ofNat 16 (skb.len - FRAME_DESC_SZ) ||| 5 <<< 12 := by
  unfold descLength
  split_ifs <;> rfl

/-- The frames of the handshake go to the management queue. -/
theorem descEapol_w0 : (descEapol a skb headerSize vif d).w0 =
    if isEapol vif.type skb.protocol = true ∧ vif.type = .station ∧ a.eapol4Confirm = false then
      BitVec.ofNat 16 (skb.len - FRAME_DESC_SZ) ||| 4 <<< 12
    else d.w0 := by
  unfold descEapol
  by_cases heapol : isEapol vif.type skb.protocol = true
  · rw [if_pos heapol]
    simp only [heapol, true_and]
  · rw [if_neg heapol, if_neg fun h => heapol h.1]

theorem dataDesc_w0 : (dataDesc a skb headerSize vif).w0 =
    BitVec.ofNat 16 (skb.len - FRAME_DESC_SZ) |||
      (queueNumber a vif skb.protocol).setWidth 16 <<< 12 := by
  show (descBroadcast a skb headerSize vif _).w0 = _
  rw [descBroadcast_w0]
  show (descEapol a skb headerSize vif _).w0 = _
  rw [descEapol_w0, descRate_w0, descMinRate_w0, descLength_w0, queueNumber]
  split <;> rfl

theorem descMinRate_w4 : (descMinRate a d).w4 =
    if a.minRate ≠ 0xffff then
      (if a.sgi ∧ a.minRate &&& 0x100 ≠ 0 then a.minRate ||| 0x200 else a.minRate)
    else d.w4 := by
  unfold descMinRate
  split <;> rfl

theorem descRate_w4 :
    (descRate a vif d).w4 = if a.fixedRateEn = true then a.fixedRate else d.w4 := by
  unfold descRate
  split_ifs <;> rfl

theorem descEapol_w4 : (descEapol a skb headerSize vif d).w4 =
    if isEapol vif.type skb.protocol = true then
      if vif.type = .station then
        ((a.stations RSI_MAX_ASSOC_STAS).sta.map (·.minSupportedRate)).getD 0
      else 0
    else d.w4 := by
  unfold descEapol
  split <;> rfl

theorem descBroadcast_w4 : (descBroadcast a skb headerSize vif d).w4 =
    if ((dataDest skb headerSize).isBroadcast || (dataDest skb headerSize).isMulticast) = true ∧
        (vif.type = .ap ∨ vif.type = .p2pGo) then
      (if a.band = 1 then 0x8b else 0)
    else d.w4 := by
  unfold descBroadcast
  by_cases hdest :
    ((dataDest skb headerSize).isBroadcast || (dataDest skb headerSize).isMulticast) = true
  · rw [if_pos hdest]
    simp only [hdest, true_and]
  · rw [if_neg hdest, if_neg fun h => hdest h.1]

theorem dataDesc_w4 : (dataDesc a skb headerSize vif).w4 =
    selectedRate a vif (dataDest skb headerSize) skb.protocol ||| vif.vapId.setWidth 16 <<< 14 := by
  show (descBroadcast a skb headerSize vif _).w4 ||| _ = _
  rw [descBroadcast_w4]
  show (if _ then _ else (descEapol a skb headerSize vif _).w4) ||| _ = _
  rw [descEapol_w4, descRate_w4, descMinRate_w4, descLength_w4, descEncrypt_w4, descQos_w4]
  rfl

theorem dataDesc_w7_fields :
    ((dataDesc a skb headerSize vif).w7 >>> 4 &&& 0xf).toNat = skb.txParams.tid.toNat % 16 ∧
      ((dataDesc a skb headerSize vif).w7 &&& 0xf).toNat =
        (eapolPriority a skb vif).toNat % 16 ∧
      ((dataDesc a skb headerSize vif).w7 >>> 8).toNat = skb.txParams.staId.toNat := by
  have hw7 : ∀ d, (descVap skb headerSize vif (descBroadcast a skb headerSize vif d)).w7 = d.w7 :=
    descBroadcast_w7 a skb headerSize vif
  rw [dataDesc, hw7]
  exact descStation_fields a skb vif _

end Words

/-! ## The descriptor of an accepted frame -/

/-- An accepted frame is the pushed frame with its descriptor filled. -/
theorem prepareDataDesc_ready {a a' : Adapter} {skb skb' : SkBuff}
    (h : prepareDataDesc a skb = .ready a' skb') :
    ∃ vif pushed, sourceVif a skb = some vif ∧
      skb.PushedBy pushed (dataHeaderSize a.usbFullSpeed skb) ∧
      skb' = fillDataDesc a (pushed.withHdrSize (dataHeaderSize a.usbFullSpeed skb))
        (dataHeaderSize a.usbFullSpeed skb) vif := by
  unfold prepareDataDesc at h
  rcases pushDataHeader_cases a.usbFullSpeed skb with
    ⟨-, rejected, _, -, -, heq⟩ | ⟨-, -, heq⟩ | ⟨-, -, pushed, hpushed, heq⟩
  · rw [heq] at h
    cases h
  · rw [heq] at h
    cases h
  · rw [heq] at h
    dsimp only at h
    rw [dataVif_of_pushedBy hpushed] at h
    cases hvif : sourceVif a skb with
    | none =>
      rw [hvif] at h
      cases h
    | some vif =>
      rw [hvif] at h
      dsimp only at h
      cases hfault : dataDescFault a (pushed.withHdrSize (HEADER_SIZE + _)) vif with
      | some fault =>
        rw [hfault] at h
        cases h
      | none =>
        rw [hfault] at h
        cases h
        exact ⟨vif, pushed, rfl, hpushed, rfl⟩

/-- The frame is sent to the destination that it had before the push. -/
theorem dataDest_of_pushedBy {skb skb' : SkBuff} {n : ℕ} (h : skb.PushedBy skb' n) (size : ℕ) :
    dataDest (skb'.withHdrSize size) n = dataDest skb 0 := by
  have hdest : (skb'.withHdrSize size).hDest n = skb.hDest 0 := h.addrAt 0
  have haddr1 : (skb'.withHdrSize size).addr1 n = skb.addr1 0 := h.addrAt 4
  have hencap : (skb'.withHdrSize size).txParams.encapOffload = skb.txParams.encapOffload := by
    rw [← h.txParams]
    rfl
  rw [dataDest, dataDest, hdest, haddr1, hencap]

theorem word_fillDataDesc (a : Adapter) (skb : SkBuff) {headerSize : ℕ}
    (hsize : FRAME_DESC_SZ ≤ headerSize) (vif : Vif) {i : ℕ} (hi : i < 8) :
    (fillDataDesc a skb headerSize vif).word (2 * i) =
      (dataDesc a skb headerSize vif).words.toList.getD i 0 :=
  word_writeDesc (setPowerMgmt a skb headerSize vif) hsize _ hi

/-- What the device reads in front of an accepted frame. -/
structure Words (a : Adapter) (vif : Vif) (skb skb' : SkBuff) : Prop where
  len : skb'.len = skb.len + dataHeaderSize a.usbFullSpeed skb
  priority : skb'.priority = eapolPriority a skb vif
  w0 : skb'.word 0 = BitVec.ofNat 16 (skb'.len - FRAME_DESC_SZ) |||
    (queueNumber a vif skb.protocol).setWidth 16 <<< 12
  w4 : skb'.word 8 = selectedRate a vif (dataDest skb 0) skb.protocol |||
    vif.vapId.setWidth 16 <<< 14
  tid : (skb'.word 14 >>> 4 &&& 0xf).toNat = skb.txParams.tid.toNat % 16
  w7Priority : (skb'.word 14 &&& 0xf).toNat = skb'.priority.toNat % 16
  staId : (skb'.word 14 >>> 8).toNat = skb.txParams.staId.toNat

theorem words_of_ready {a a' : Adapter} {skb skb' : SkBuff} {vif : Vif}
    (h : prepareDataDesc a skb = .ready a' skb') (hvif : sourceVif a skb = some vif) :
    Words a vif skb skb' := by
  obtain ⟨vif', pushed, hvif', hpushed, rfl⟩ := prepareDataDesc_ready h
  obtain rfl : vif = vif' := Option.some.inj (hvif.symm.trans hvif')
  have hroom : FRAME_DESC_SZ ≤ dataHeaderSize a.usbFullSpeed skb :=
    Nat.le_trans (by decide) (Nat.le_add_right HEADER_SIZE _)
  have hdest := dataDest_of_pushedBy hpushed (dataHeaderSize a.usbFullSpeed skb)
  generalize hsize : dataHeaderSize a.usbFullSpeed skb = size at *
  obtain ⟨htid, hprio, hsta⟩ := dataDesc_w7_fields a (pushed.withHdrSize size) size vif
  have hw : ∀ {i : ℕ}, i < 8 → (fillDataDesc a (pushed.withHdrSize size) size vif).word (2 * i) =
      (dataDesc a (pushed.withHdrSize size) size vif).words.toList.getD i 0 :=
    word_fillDataDesc a _ hroom vif
  have hlen : (fillDataDesc a (pushed.withHdrSize size) size vif).len = pushed.len :=
    fillDataDesc_len ..
  have hw7 : (fillDataDesc a (pushed.withHdrSize size) size vif).word 14 =
      (dataDesc a (pushed.withHdrSize size) size vif).w7 := hw (i := 7) (by decide)
  have hpriority : eapolPriority a (pushed.withHdrSize size) vif = eapolPriority a skb vif := by
    show eapolPriority a pushed vif = _
    rw [eapolPriority, hpushed.protocol, hpushed.priority]
    rfl
  have htxTid : (pushed.withHdrSize size).txParams.tid = skb.txParams.tid := by
    rw [← hpushed.txParams]
    rfl
  have htxSta : (pushed.withHdrSize size).txParams.staId = skb.txParams.staId := by
    rw [← hpushed.txParams]
    rfl
  refine ⟨?_, hpriority, ?_, ?_, ?_, ?_, ?_⟩
  · rw [hlen, hpushed.len, hsize]
  · rw [hlen, ← hpushed.protocol]
    exact (hw (i := 0) (by decide)).trans (dataDesc_w0 a (pushed.withHdrSize size) size vif)
  · rw [← hdest, ← hpushed.protocol]
    exact (hw (i := 4) (by decide)).trans (dataDesc_w4 a (pushed.withHdrSize size) size vif)
  · rw [hw7, htid, htxTid]
  · rw [hw7, hprio]
    rfl
  · rw [hw7, hsta, htxSta]

/-- The fields of an accepted frame read back if and only if the rate and everything else stays
within its bits. -/
theorem decodes_iff {a a' : Adapter} {skb skb' : SkBuff} {vif : Vif}
    (h : prepareDataDesc a skb = .ready a' skb') (hvif : sourceVif a skb = some vif) :
    Decodes a vif skb skb' ↔
      Small (selectedRate a vif (dataDest skb 0) skb.protocol) ∧ FieldsFit a vif skb := by
  have hw := words_of_ready h hvif
  constructor
  · intro hd
    have hrate : Small (selectedRate a vif (dataDest skb 0) skb.protocol) := by
      rw [← rateWord_and _ vif.vapId, ← hw.w4]
      exact hd.rate
    refine ⟨hrate, ?_, ?_, ?_, ?_⟩
    · rw [← rateWord_shift hrate, ← hw.w4]
      exact hd.vapId
    · rw [← hw.len, ← lengthWord_and _ (queueNumber a vif skb.protocol), ← hw.w0]
      exact hd.length
    · have := hw.tid.symm.trans hd.tid
      omega
    · have := hw.w7Priority.symm.trans hd.priority
      rw [← hw.priority]
      omega
  · rintro ⟨hrate, hfit⟩
    have hlen : skb'.len - FRAME_DESC_SZ < 4096 := hw.len ▸ hfit.length
    refine ⟨?_, ?_, ?_, ?_, ?_, ?_, hw.staId⟩
    · rw [hw.w4]
      exact (rateWord_shift hrate _).2 hfit.vapId
    · rw [hw.w4]
      exact (rateWord_and _ _).2 hrate
    · rw [hw.w0]
      exact (lengthWord_and _ _).2 hlen
    · rw [hw.w0]
      exact lengthWord_shift hlen _
    · rw [hw.tid, Nat.mod_eq_of_lt hfit.tid]
    · have hprio := hfit.priority
      rw [← hw.priority] at hprio
      rw [hw.w7Priority, Nat.mod_eq_of_lt hprio]

/-! ## The configured rates -/

namespace RateConf

/-- The driver with these rates. -/
def on (c : RateConf) (a : Adapter) : Adapter :=
  { a with
    minRate := c.minRate, fixedRateEn := c.fixedRateEn, fixedRate := c.fixedRate
    enableErSu := c.enableErSu, configErSu := c.configErSu
    axParams := { a.axParams with
      ax11Enabled := c.ax11Enabled, codingType := c.codingType, nominalPe := c.nominalPe
      giLtf := c.giLtf, dcm := c.dcm } }

/-- An EAPOL frame of a station goes out at the lowest rate of its peer. -/
def PeerRateFits (a : Adapter) (vif : Vif) (skb : SkBuff) : Prop :=
  isEapol vif.type skb.protocol = true ∧ vif.type = .station →
    Small (((a.stations RSI_MAX_ASSOC_STAS).sta.map (·.minSupportedRate)).getD 0)

/-- With rates within 14 bits the selected rate is one too, if that of the peer is. -/
theorem Inv.small_selectedRate_iff {c : RateConf} (h : c.Inv) (a : Adapter) (vif : Vif)
    (skb : SkBuff) (dest : MacAddr) :
    Small (selectedRate (c.on a) vif dest skb.protocol) ↔ PeerRateFits a vif skb := by
  unfold selectedRate
  split
  next hmulticast =>
    -- an access point is not a station
    obtain ⟨-, htype⟩ := hmulticast
    refine ⟨fun _ hsta => ?_, fun _ => ?_⟩
    · rw [hsta.2] at htype
      simp at htype
    · split <;> rfl
  split
  next heapol =>
    split
    next hsta => exact ⟨fun hrate _ => hrate, fun hpeer => hpeer ⟨heapol, hsta⟩⟩
    next hsta => exact ⟨fun _ hpeer => absurd hpeer.2 hsta, fun _ => rfl⟩
  next heapol =>
    refine ⟨fun _ hpeer => absurd hpeer.1 heapol, fun _ => ?_⟩
    split
    · exact h.fixedRate
    · split
      next hset =>
        -- a rate is set, so it is one of a table
        have hmin : Small c.minRate := h.minRate.resolve_right hset
        split
        · exact small_or.2 ⟨hmin, rfl⟩
        · exact hmin
      · rfl

/-- With parameters and rates that fit, an accepted frame reads back if and only if what comes from
the frame itself and from its peer fits. -/
theorem decodes_iff_of_reachableVia {c : RateConf} (hc : system.ReachableVia Fits c)
    {a a' : Adapter} {skb skb' : SkBuff} {vif : Vif}
    (h : prepareDataDesc (c.on a) skb = .ready a' skb') (hvif : sourceVif a skb = some vif) :
    Decodes (c.on a) vif skb skb' ↔ PeerRateFits a vif skb ∧ FieldsFit a vif skb := by
  rw [decodes_iff h hvif, (inv_of_reachableVia hc).small_selectedRate_iff]
  exact and_congr_right fun _ => ⟨fun hfit => { hfit with }, fun hfit => { hfit with }⟩

/-- The module with its default parameters; on an 11ax connection the guard interval and a rate are
set through debugfs. -/
def schedule (giLtf : BitVec 64) : List RateAct :=
  [.init 3 2 0 0 0, .updateAxCapabilities, .assoc true false, .setGiLtf giLtf, .setAxRate 7]

def afterDefaults : RateConf := (system.runVia Fits unset (schedule 2)).get rfl

/-- A data frame of a station that reads back. -/
theorem decodes_iff_afterDefaults :
    ∃ a' skb', prepareDataDesc (afterDefaults.on Adapter.stationUp)
        (Adapter.qosData (Adapter.localAddr 1)) = .ready a' skb' ∧
      ∃ vif, sourceVif (afterDefaults.on Adapter.stationUp)
          (Adapter.qosData (Adapter.localAddr 1)) = some vif ∧
        (Decodes (afterDefaults.on Adapter.stationUp) vif (Adapter.qosData (Adapter.localAddr 1))
            skb' ↔
          PeerRateFits Adapter.stationUp vif (Adapter.qosData (Adapter.localAddr 1)) ∧
            FieldsFit Adapter.stationUp vif (Adapter.qosData (Adapter.localAddr 1))) :=
  ⟨_, _, rfl, _, rfl,
    decodes_iff_of_reachableVia (TransitionSystem.reachableVia_get rfl rfl) rfl rfl⟩

/-- The setter takes 8 for a guard interval. -/
def afterGuard : RateConf := (system.run unset (schedule 8)).get rfl

/-- The frames of vap 0 then carry the vap id 1. -/
theorem not_decodes : ¬ ∀ c, system.Reachable c →
    ∀ (a a' : Adapter) (skb skb' : SkBuff) (vif : Vif),
      prepareDataDesc (c.on a) skb = .ready a' skb' → sourceVif a skb = some vif →
        Decodes (c.on a) vif skb skb' := by
  intro hall
  have hguard := hall afterGuard (TransitionSystem.reachable_get rfl rfl) Adapter.stationUp _
    (Adapter.qosData (Adapter.localAddr 1)) _ _ rfl rfl
  have hrate := ((decodes_iff rfl rfl).1 hguard).1
  exact absurd hrate (by decide)

end RateConf

end Tx
