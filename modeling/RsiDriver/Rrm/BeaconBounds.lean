import RsiDriver.Rrm.Requests

/-!
# What the parser of beacon requests reads

`rsi_rrm_parse_beacon_req` (`rsi_91x_rrm.c`) takes a beacon request apart: a fixed part, and a list
of elements from the byte 47 of the frame on. The loop over the elements counts from behind the
header and compares what it has counted with the length of the whole frame, so that the end of a
list is 24 bytes away from where the loop looks for it.

## Main results

* `parse_eq_of_reads`: what the parser returns is decided by the bytes that it reads;
* `bounded_iff`: the frames on which the parser ends, stays inside the frame and inside its fields;
* `exact_iff`: those of them that are not a list of elements, which are the frames that are parsed
  as they should be.
-/

namespace Rrm

/-! ## The reads -/

/-- What one round of the loop reads. -/
def elemReads (frm : ByteMemory) (index : ℕ) : List ByteRange :=
  let optElemLen := (frm (index + 1)).toNat
  let content : List ByteRange :=
    if frm index = SSID_ELEM_ID then [⟨24 + (index + 2), optElemLen⟩]
    -- the length is read once more
    else if frm index = BEACON_REPORT_INFO then
      [⟨24 + (index + 1), 1⟩, ⟨24 + index, optElemLen + 2⟩]
    else if frm index = REPORTING_DETAIL then [⟨24 + (index + 2), 1⟩]
    else []
  ⟨24 + index, 1⟩ :: ⟨24 + (index + 1), 1⟩ :: content

/-- What the loop reads in at most `fuel` rounds. -/
def optReads (skb : Skb) (params : BeaconMeasParams) : ℕ → BitVec 8 → List ByteRange
  | 0, _ => []
  | fuel + 1, index =>
    if index.toNat < skb.len then
      elemReads skb.frm index.toNat ++
        match nextIndex skb params index with
        | some index => optReads skb params fuel index
        | none => []
    else []

/-- The parameters in front of the loop -/
def Skb.beaconParams (skb : Skb) : BeaconMeasParams :=
  ⟨measParams skb.frm, skb.frm 16, skb.frm.bytes 17 6, none, none, none⟩

/-- What the fixed part is read from -/
def fixedReads : List ByteRange := [⟨26, 1⟩, ⟨32, 4⟩, ⟨36, 2⟩, ⟨38, 2⟩, ⟨40, 1⟩, ⟨41, 6⟩]

/-- What `rsi_rrm_parse_beacon_req` reads of the frame. -/
def beaconReads (skb : Skb) : List ByteRange :=
  if skb.len < RRM_MIN_BEACON_FRM_LEN then []
  else fixedReads ++ optReads skb skb.beaconParams 256 23

/-- The element at an index, with what the parser takes of it, lies inside the frame, and its
content fits into the field that it is copied to. -/
def ElemInside (skb : Skb) (index : ℕ) : Prop :=
  let optElemLen := (skb.frm (index + 1)).toNat
  index + 26 ≤ skb.len ∧
    (skb.frm index = SSID_ELEM_ID → index + 26 + optElemLen ≤ skb.len ∧ optElemLen ≤ SSID_LEN) ∧
    (skb.frm index = BEACON_REPORT_INFO →
      index + 26 + optElemLen ≤ skb.len ∧ optElemLen + 2 ≤ BCN_RPT_INFO_LEN) ∧
    (skb.frm index = REPORTING_DETAIL → index + 27 ≤ skb.len)

/-- The element at an index is of a kind that the parser takes. -/
def Taken (skb : Skb) (index : ℕ) : Prop :=
  skb.frm index = SSID_ELEM_ID ∨ skb.frm index = BEACON_REPORT_INFO ∨
    skb.frm index = REPORTING_DETAIL

/-- **The elements from an index on stay inside the frame** until the index has left it or an
element of another kind has ended the loop. -/
inductive StaysInside (skb : Skb) : BitVec 8 → Prop
  | past {index : BitVec 8} (hlen : skb.len ≤ index.toNat) : StaysInside skb index
  | refused {index : BitVec 8} (helem : ElemInside skb index.toNat)
      (hother : ¬ Taken skb index.toNat) : StaysInside skb index
  | taken {index : BitVec 8} (helem : ElemInside skb index.toNat) (hkind : Taken skb index.toNat)
      (hnext : StaysInside skb (index + 2 + skb.frm (index.toNat + 1))) : StaysInside skb index

section Walk

variable {skb : Skb} {params params₀ : BeaconMeasParams} {index : BitVec 8} {i fuel : ℕ}

theorem ElemInside.lt {index : ℕ} (h : ElemInside skb index) : index < skb.len := by
  have hroom := h.1
  omega

variable (params) in
/-- A round whose reads are inside the frame, and that does not write past a field. -/
theorem elemInside_iff : ElemInside skb i ↔
    (∀ range ∈ elemReads skb.frm i, range.Within skb.len) ∧
      optElem skb.frm i params ≠ .overrun := by
  have hkinds : SSID_ELEM_ID ≠ BEACON_REPORT_INFO ∧ SSID_ELEM_ID ≠ REPORTING_DETAIL ∧
      BEACON_REPORT_INFO ≠ REPORTING_DETAIL := by decide
  obtain ⟨hne₁, hne₂, hne₃⟩ := hkinds
  simp only [ElemInside, elemReads, optElem, List.forall_mem_cons, ByteRange.Within, SSID_LEN,
    BCN_RPT_INFO_LEN]
  generalize (skb.frm (i + 1)).toNat = optElemLen
  by_cases hssid : skb.frm i = SSID_ELEM_ID
  · -- the SSID is copied by its length
    simp only [hssid, hne₁, hne₂, if_true]
    by_cases hlong : 32 < optElemLen
    · simp [hlong]
    · simp [hlong]; omega
  by_cases hinfo : skb.frm i = BEACON_REPORT_INFO
  · simp only [hinfo, hne₁.symm, hne₃, if_true, if_false]
    by_cases hlong : 64 < optElemLen + 2
    · simp [hlong]; omega
    · simp [hlong]; omega
  by_cases hdetail : skb.frm i = REPORTING_DETAIL
  · simp [hdetail, hne₂.symm, hne₃.symm]; omega
  · simp [hssid, hinfo, hdetail]; omega

variable (params) in
/-- An element of another kind ends the parser. -/
theorem optElem_of_not_taken (h : ¬ Taken skb i) :
    optElem skb.frm i params = .err EOPNOTSUPP := by
  rw [Taken, not_or, not_or] at h
  simp only [optElem, h.1, h.2.1, h.2.2, if_false, ite_self]

/-- An element of the three kinds is taken, unless its content does not fit. -/
theorem optElem_of_taken (h : Taken skb i) (hfits : optElem skb.frm i params ≠ .overrun) :
    ∃ params', optElem skb.frm i params = .ok params' := by
  revert hfits
  simp only [optElem]
  rcases h with h | h | h
  · simp only [h, if_true]
    split
    · exact fun hover => absurd rfl hover
    · exact fun _ => ⟨_, rfl⟩
  · have hne : BEACON_REPORT_INFO ≠ SSID_ELEM_ID := by decide
    simp only [h, hne, if_true, if_false]
    split
    · exact fun hover => absurd rfl hover
    · exact fun _ => ⟨_, rfl⟩
  · have hne : REPORTING_DETAIL ≠ SSID_ELEM_ID ∧ REPORTING_DETAIL ≠ BEACON_REPORT_INFO := by decide
    simp only [h, hne.1, hne.2, if_true, if_false]
    exact fun _ => ⟨_, rfl⟩

theorem nextIndex_of_ok {params' : BeaconMeasParams} (hlt : index.toNat < skb.len)
    (h : optElem skb.frm index.toNat params = .ok params') :
    nextIndex skb params₀ index = some (index + 2 + skb.frm (index.toNat + 1)) := by
  have hok : (optElem skb.frm index.toNat params₀).isOk = true := by
    rw [isOk_optElem _ _ params₀ params, h]
    rfl
  rw [nextIndex, if_pos ⟨hlt, hok⟩]

theorem mem_optReads {fuel : ℕ} {range : ByteRange} (hlt : index.toNat < skb.len)
    (h : range ∈ elemReads skb.frm index.toNat) :
    range ∈ optReads skb params₀ (fuel + 1) index := by
  rw [optReads, if_pos hlt]
  exact List.mem_append_left _ h

/-- The reads of a round that takes its element. -/
theorem optReads_of_ok {params' : BeaconMeasParams} (hlt : index.toNat < skb.len)
    (h : optElem skb.frm index.toNat params = .ok params') (fuel : ℕ) :
    optReads skb params₀ (fuel + 1) index = elemReads skb.frm index.toNat ++
      optReads skb params₀ fuel (index + 2 + skb.frm (index.toNat + 1)) := by
  rw [optReads, if_pos hlt, nextIndex_of_ok hlt h]

/-! ## What is not read makes no difference -/

/-- The bytes of a range are the same in both frames. -/
def SameIn (skb skb' : Skb) (range : ByteRange) : Prop :=
  ∀ a, range.start ≤ a → a < range.start + range.size → skb'.data a = skb.data a

variable {skb' : Skb}

theorem SameIn.frm {a : ℕ} (h : SameIn skb skb' ⟨24 + a, 1⟩) : skb'.frm a = skb.frm a :=
  h (24 + a) (Nat.le_refl _) (Nat.lt_succ_self _)

theorem SameIn.bytes {a n : ℕ} (h : SameIn skb skb' ⟨24 + a, n⟩) :
    skb'.frm.bytes a n = skb.frm.bytes a n := by
  apply List.map_congr_left
  intro j hj
  rw [List.mem_range] at hj
  exact h (24 + (a + j)) (by simp only; omega) (by simp only; omega)

theorem optElem_eq_of_reads (h : ∀ range ∈ elemReads skb.frm i, SameIn skb skb' range) :
    optElem skb'.frm i params = optElem skb.frm i params := by
  simp only [elemReads, List.forall_mem_cons] at h
  obtain ⟨hid, hlength, hcontent⟩ := h
  simp only [optElem, hid.frm, hlength.frm]
  by_cases hssid : skb.frm i = SSID_ELEM_ID
  · rw [if_pos hssid, List.forall_mem_singleton] at hcontent
    rw [if_pos hssid, if_pos hssid, hcontent.bytes]
  rw [if_neg hssid] at hcontent
  rw [if_neg hssid, if_neg hssid]
  by_cases hinfo : skb.frm i = BEACON_REPORT_INFO
  · rw [if_pos hinfo, List.forall_mem_cons, List.forall_mem_singleton] at hcontent
    rw [if_pos hinfo, if_pos hinfo, hcontent.2.bytes]
  rw [if_neg hinfo] at hcontent
  rw [if_neg hinfo, if_neg hinfo]
  by_cases hdetail : skb.frm i = REPORTING_DETAIL
  · rw [if_pos hdetail, List.forall_mem_singleton] at hcontent
    rw [if_pos hdetail, if_pos hdetail, hcontent.frm]
  · rw [if_neg hdetail, if_neg hdetail]

theorem optElems_eq_of_reads (hlen : skb'.len = skb.len) (fuel : ℕ)
    (h : ∀ range ∈ optReads skb params₀ fuel index, SameIn skb skb' range) :
    optElems skb' fuel index params = optElems skb fuel index params := by
  induction fuel generalizing index params with
  | zero => rfl
  | succ fuel ih =>
    rw [optElems, optElems, hlen]
    by_cases hlt : index.toNat < skb.len
    · have hround : ∀ range ∈ elemReads skb.frm index.toNat, SameIn skb skb' range :=
        fun range hrange => h range (mem_optReads hlt hrange)
      have hlength : SameIn skb skb' ⟨24 + (index.toNat + 1), 1⟩ := by
        apply hround
        simp [elemReads]
      rw [if_pos hlt, if_pos hlt, optElem_eq_of_reads hround, hlength.frm]
      cases hok : optElem skb.frm index.toNat params with
      | ok params' =>
        rw [optReads_of_ok hlt hok] at h
        exact ih fun range hrange => h range (List.mem_append_right _ hrange)
      | err | overrun | spins => rfl
    · rw [if_neg hlt, if_neg hlt]

/-- **What the parser returns is decided by the bytes that it reads.** -/
theorem parse_eq_of_reads (hlen : skb'.len = skb.len)
    (h : ∀ range ∈ beaconReads skb, SameIn skb skb' range) :
    rrmParseBeaconReq skb' = rrmParseBeaconReq skb := by
  rw [rrmParseBeaconReq, rrmParseBeaconReq, hlen]
  by_cases hshort : skb.len < RRM_MIN_BEACON_FRM_LEN
  · rw [if_pos hshort, if_pos hshort]
  rw [if_neg hshort, if_neg hshort]
  rw [beaconReads, if_neg hshort, List.forall_mem_append] at h
  obtain ⟨hfixed, hopt⟩ := h
  -- the fixed part, field by field; the bytes 3 to 7 are skipped
  have hat : ∀ a, a = 2 ∨ 8 ≤ a ∧ a < 23 → skb'.frm a = skb.frm a := by
    intro a ha
    simp only [fixedReads, List.forall_mem_cons] at hfixed
    obtain ⟨h₁, h₂, h₃, h₄, h₅, h₆, -⟩ := hfixed
    show skb'.data (24 + a) = skb.data (24 + a)
    rcases ha with rfl | ⟨hlow, hhigh⟩
    · exact h₁ 26 (Nat.le_refl _) (by decide)
    · rcases Nat.lt_or_ge a 12 with hlt | hge
      · exact h₂ _ (by simp only; omega) (by simp only; omega)
      rcases Nat.lt_or_ge a 14 with hlt | hge
      · exact h₃ _ (by simp only; omega) (by simp only; omega)
      rcases Nat.lt_or_ge a 16 with hlt | hge
      · exact h₄ _ (by simp only; omega) (by simp only; omega)
      rcases Nat.lt_or_ge a 17 with hlt | hge
      · exact h₅ _ (by simp only; omega) (by simp only; omega)
      · exact h₆ _ (by simp only; omega) (by simp only; omega)
  have hparams : skb'.beaconParams = skb.beaconParams := by
    have hmac : skb'.frm.bytes 17 6 = skb.frm.bytes 17 6 := by
      apply List.map_congr_left
      intro j hj
      rw [List.mem_range] at hj
      exact hat _ (Or.inr ⟨by omega, by omega⟩)
    simp [Skb.beaconParams, measParams, ByteMemory.le16, hat, hmac]
  show optElems skb' 256 23 skb'.beaconParams = optElems skb 256 23 skb.beaconParams
  rw [hparams]
  exact optElems_eq_of_reads hlen 256 hopt

/-! ## The walk over the elements -/

/-- A loop that ends and reads inside the frame has walked inside it. -/
theorem staysInside_of_reads (fuel : ℕ) (hreturns : (optElems skb fuel index params).returns = true)
    (hreads : ∀ range ∈ optReads skb params₀ fuel index, range.Within skb.len) :
    StaysInside skb index := by
  induction fuel generalizing index params with
  | zero => exact absurd hreturns (by simp [optElems, ParseResult.returns])
  | succ fuel ih =>
    by_cases hlt : index.toNat < skb.len
    · have hround : ∀ range ∈ elemReads skb.frm index.toNat, range.Within skb.len :=
        fun range hrange => hreads range (mem_optReads hlt hrange)
      rw [optElems, if_pos hlt] at hreturns
      have hfits : optElem skb.frm index.toNat params ≠ .overrun := by
        intro hover
        rw [hover] at hreturns
        exact absurd hreturns (by simp [ParseResult.bind, ParseResult.returns])
      have helem := (elemInside_iff _).2 ⟨hround, hfits⟩
      by_cases hkind : Taken skb index.toNat
      · obtain ⟨params', hok⟩ := optElem_of_taken hkind hfits
        rw [hok] at hreturns
        rw [optReads_of_ok hlt hok] at hreads
        exact .taken helem hkind
          (ih hreturns fun range hrange => hreads range (List.mem_append_right _ hrange))
      · exact .refused helem hkind
    · exact .past (Nat.not_lt.1 hlt)

/-- The reads of a walk inside the frame. -/
theorem StaysInside.reads (h : StaysInside skb index) (params₀ : BeaconMeasParams) (fuel : ℕ) :
    ∀ range ∈ optReads skb params₀ fuel index, range.Within skb.len := by
  induction fuel generalizing index with
  | zero => exact fun range hrange => absurd hrange List.not_mem_nil
  | succ fuel ih =>
    by_cases hlt : index.toNat < skb.len
    · cases h with
      | past hlen => exact absurd hlt (Nat.not_lt.2 hlen)
      | refused helem hother =>
        have herr := optElem_of_not_taken params₀ hother
        have hnext : nextIndex skb params₀ index = none := by
          rw [nextIndex, herr]
          simp [ParseResult.isOk]
        rw [optReads, if_pos hlt, hnext, List.append_nil]
        exact (elemInside_iff params₀).1 helem |>.1
      | taken helem hkind hnext =>
        obtain ⟨hround, hfits⟩ := (elemInside_iff params₀).1 helem
        obtain ⟨params', hok⟩ := optElem_of_taken hkind hfits
        rw [optReads_of_ok hlt hok]
        exact List.forall_mem_append.2 ⟨hround, ih hnext⟩
    · rw [optReads, if_neg hlt]
      exact fun range hrange => absurd hrange List.not_mem_nil

/-- A walk inside the frame comes to an end. -/
theorem StaysInside.returns (h : StaysInside skb index) (params : BeaconMeasParams) :
    ∃ fuel, (optElems skb fuel index params).returns = true := by
  induction h generalizing params with
  | past hlen =>
    refine ⟨1, ?_⟩
    rw [optElems, if_neg (Nat.not_lt.2 hlen)]
    rfl
  | @refused index helem hother =>
    refine ⟨1, ?_⟩
    rw [optElems, if_pos helem.lt, optElem_of_not_taken _ hother]
    rfl
  | @taken index helem hkind hnext ih =>
    obtain ⟨params', hok⟩ := optElem_of_taken hkind ((elemInside_iff params).1 helem).2
    obtain ⟨fuel, hreturns⟩ := ih params'
    refine ⟨fuel + 1, ?_⟩
    rw [optElems, if_pos helem.lt, hok]
    exact hreturns

/-- A walk inside the frame does not write past a field. -/
theorem StaysInside.ne_overrun (h : StaysInside skb index) (params : BeaconMeasParams)
    (fuel : ℕ) : optElems skb fuel index params ≠ .overrun := by
  induction fuel generalizing index params with
  | zero => exact fun hover => by cases hover
  | succ fuel ih =>
    rw [optElems]
    split
    · rename_i hlt
      cases h with
      | past hlen => exact absurd hlt (Nat.not_lt.2 hlen)
      | refused helem hother =>
        rw [optElem_of_not_taken _ hother]
        exact fun hover => by cases hover
      | taken helem hkind hnext =>
        obtain ⟨params', hok⟩ :=
          optElem_of_taken hkind ((elemInside_iff params).1 helem).2
        rw [hok]
        exact ih hnext params'
    · exact fun hover => by cases hover

/-- 256 rounds are enough. -/
theorem StaysInside.returns_256 (h : StaysInside skb index) (params : BeaconMeasParams) :
    (optElems skb 256 index params).returns = true := by
  cases hend : optElems skb 256 index params with
  | ok | err => rfl
  | overrun => exact absurd hend (h.ne_overrun params 256)
  | spins =>
    obtain ⟨fuel, hreturns⟩ := h.returns params
    rw [optElems_spins hend] at hreturns
    exact absurd hreturns (by simp [ParseResult.returns])

end Walk

/-- **A frame is parsed within its bounds**: the parser ends, writes into its fields and reads
inside the frame. -/
def Bounded (skb : Skb) : Prop :=
  (rrmParseBeaconReq skb).returns = true ∧ ∀ range ∈ beaconReads skb, range.Within skb.len

/-- **Which frames are parsed within their bounds.** -/
theorem bounded_iff (skb : Skb) :
    Bounded skb ↔ skb.len < RRM_MIN_BEACON_FRM_LEN ∨ 49 ≤ skb.len ∧ StaysInside skb 23 := by
  rw [Bounded, rrmParseBeaconReq, beaconReads]
  by_cases hshort : skb.len < RRM_MIN_BEACON_FRM_LEN
  · simp [hshort, ParseResult.returns]
  simp only [hshort, if_false, false_or]
  constructor
  · rintro ⟨hreturns, hreads⟩
    rw [List.forall_mem_append] at hreads
    have hwalk := staysInside_of_reads 256 hreturns hreads.2
    have hfixed : (⟨41, 6⟩ : ByteRange).Within skb.len := hreads.1 _ (by simp [fixedReads])
    refine ⟨?_, hwalk⟩
    -- the fixed part ends at 47, where the loop looks for the two bytes of an element
    have hmin : 47 ≤ skb.len := by
      rcases hfixed with hempty | hin
      · exact absurd hempty (by decide)
      · exact hin
    have hfirst : (23 : BitVec 8).toNat = 23 := rfl
    cases hwalk with
    | past hlen => omega
    | refused helem hother => exact helem.1
    | taken helem hkind hnext => exact helem.1
  · rintro ⟨hlen, hwalk⟩
    refine ⟨hwalk.returns_256 _, List.forall_mem_append.2 ⟨?_, hwalk.reads _ 256⟩⟩
    simp only [fixedReads, List.forall_mem_cons, ByteRange.Within]
    simp
    omega

/-! ## Lists of elements -/

/-- An element of the optional part -/
structure OptElement where
  id : BitVec 8
  content : List (BitVec 8)
  deriving DecidableEq, Repr

/-- An element as it stands in a frame -/
def OptElement.bytes (elem : OptElement) : List (BitVec 8) :=
  elem.id :: BitVec.ofNat 8 elem.content.length :: elem.content

/-- An element of the three kinds, of a size that the field for it can hold -/
def OptElement.Admissible (elem : OptElement) : Prop :=
  elem.id = SSID_ELEM_ID ∧ elem.content.length ≤ SSID_LEN ∨
    elem.id = BEACON_REPORT_INFO ∧ elem.content.length + 2 ≤ BCN_RPT_INFO_LEN ∨
    elem.id = REPORTING_DETAIL ∧ elem.content.length = 1

/-- The optional part of the frame is a list of elements. -/
structure WellFormed (skb : Skb) (elems : List OptElement) : Prop where
  len : 47 ≤ skb.len
  admissible : ∀ elem ∈ elems, elem.Admissible
  bytes : skb.data.bytes 47 (skb.len - 47) = elems.flatMap OptElement.bytes

/-- The last element of a kind -/
def lastOf (id : BitVec 8) (elems : List OptElement) : Option OptElement :=
  (elems.filter fun elem => elem.id = id).getLast?

/-- The parameters that a list of elements asks for. -/
def expectedParams (skb : Skb) (elems : List OptElement) : BeaconMeasParams :=
  { skb.beaconParams with
    ssidIe := (lastOf SSID_ELEM_ID elems).map fun elem =>
      elem.content ++ List.replicate (SSID_LEN - elem.content.length) 0
    bcnRptInfo := (lastOf BEACON_REPORT_INFO elems).map OptElement.bytes
    rptDetail := (lastOf REPORTING_DETAIL elems).bind fun elem => elem.content.head? }

/-- **A list of elements is parsed as such**: each field is the last element of its kind. -/
def Exact (skb : Skb) : Prop :=
  ∀ elems, WellFormed skb elems → rrmParseBeaconReq skb = .ok (expectedParams skb elems)

section Lists

variable {skb : Skb}

/-- An index of one byte never comes to the length of a long frame. -/
theorem optElems_not_ok (hlen : 256 ≤ skb.len) (fuel : ℕ) (index : BitVec 8)
    (params : BeaconMeasParams) : (optElems skb fuel index params).isOk = false := by
  induction fuel generalizing index params with
  | zero => rfl
  | succ fuel ih =>
    have hlt : index.toNat < skb.len := by
      have hbyte := index.isLt
      omega
    rw [optElems, if_pos hlt]
    cases optElem skb.frm index.toNat params with
    | ok params' => exact ih _ params'
    | err | overrun | spins => rfl

/-- The length of an element fits into its byte. -/
theorem OptElement.Admissible.content_lt {elem : OptElement} (h : elem.Admissible) :
    elem.content.length < 256 := by
  rcases h with ⟨-, h⟩ | ⟨-, h⟩ | ⟨-, h⟩
  · simp only [SSID_LEN] at h
    omega
  · simp only [BCN_RPT_INFO_LEN] at h
    omega
  · omega

/-- The element that stands at the index, and the list behind it. -/
theorem bytes_cons {elem : OptElement} {elems : List OptElement} {i : ℕ}
    (hbytes : skb.data.bytes (24 + i) (skb.len - (24 + i)) =
      (elem :: elems).flatMap OptElement.bytes) :
    24 + (i + 2 + elem.content.length) ≤ skb.len ∧ skb.frm i = elem.id ∧
      skb.frm (i + 1) = BitVec.ofNat 8 elem.content.length ∧
        skb.data.bytes (24 + (i + 2 + elem.content.length))
          (skb.len - (24 + (i + 2 + elem.content.length))) = elems.flatMap OptElement.bytes := by
  have htotal := congrArg List.length hbytes
  rw [ByteMemory.length_bytes, List.flatMap_cons, List.length_append] at htotal
  have hsize : elem.bytes.length = elem.content.length + 2 := rfl
  have hroom : 24 + (i + 2 + elem.content.length) ≤ skb.len := by omega
  have hsplit : skb.len - (24 + i) =
      elem.bytes.length + (skb.len - (24 + (i + 2 + elem.content.length))) := by omega
  rw [hsplit, ByteMemory.bytes_add, List.flatMap_cons] at hbytes
  obtain ⟨hhead, hrest⟩ := List.append_inj hbytes (ByteMemory.length_bytes _ _)
  have hstart : 24 + i + elem.bytes.length = 24 + (i + 2 + elem.content.length) := by omega
  rw [hstart] at hrest
  have helem : skb.data.Holds (24 + i) elem.bytes := ByteMemory.holds_of_bytes_eq hhead
  exact ⟨hroom, helem 0 (by omega), helem 1 (by omega), hrest⟩

/-- **In a short frame the loop walks over a list of elements to its end and on from there**, where
the frame is over. -/
theorem not_staysInside {elems : List OptElement} {i : ℕ} (hlen : skb.len < 280)
    (hi : 24 + i ≤ skb.len) (hadmissible : ∀ elem ∈ elems, elem.Admissible)
    (hbytes : skb.data.bytes (24 + i) (skb.len - (24 + i)) = elems.flatMap OptElement.bytes) :
    ¬ StaysInside skb (BitVec.ofNat 8 i) := by
  have hindex : (BitVec.ofNat 8 i).toNat = i := by
    rw [BitVec.toNat_ofNat]
    omega
  induction elems generalizing i with
  | nil =>
    have hend := congrArg List.length hbytes
    rw [ByteMemory.length_bytes, List.flatMap_nil, List.length_nil] at hend
    intro hwalk
    cases hwalk with
    | past hpast => omega
    | refused helem hother =>
      have hroom := helem.1
      omega
    | taken helem hkind hnext =>
      have hroom := helem.1
      omega
  | cons elem elems ih =>
    obtain ⟨hroom, hid, hlength, hrest⟩ := bytes_cons hbytes
    have hcontent := (hadmissible elem List.mem_cons_self).content_lt
    have hnextIndex : BitVec.ofNat 8 i + 2 + skb.frm (i + 1) =
        BitVec.ofNat 8 (i + 2 + elem.content.length) := by
      rw [hlength, BitVec.ofNat_add, BitVec.ofNat_add]
      rfl
    have hnext := ih (i := i + 2 + elem.content.length) (by omega)
      (fun e he => hadmissible e (List.mem_cons_of_mem _ he)) hrest
      (by rw [BitVec.toNat_ofNat]; omega)
    intro hwalk
    cases hwalk with
    | past hpast => omega
    | refused helem hother =>
      -- the element is of one of the three kinds
      apply hother
      rw [hindex, Taken, hid]
      rcases hadmissible elem List.mem_cons_self with ⟨h, -⟩ | ⟨h, -⟩ | ⟨h, -⟩
      · exact Or.inl h
      · exact Or.inr (Or.inl h)
      · exact Or.inr (Or.inr h)
    | taken helem hkind hwalk =>
      rw [hindex, hnextIndex] at hwalk
      exact hnext hwalk

/-- **A list of elements is never parsed as it should be.** -/
theorem WellFormed.not_bounded_and_exact {elems : List OptElement} (h : WellFormed skb elems) :
    ¬ (Bounded skb ∧ Exact skb) := by
  rintro ⟨hbounded, hexact⟩
  have hlen := h.len
  have hlong : ¬ skb.len < RRM_MIN_BEACON_FRM_LEN := by
    rw [RRM_MIN_BEACON_FRM_LEN]
    omega
  have hwalk := (bounded_iff skb).1 hbounded
  rcases hwalk with hshort | ⟨-, hwalk⟩
  · exact hlong hshort
  by_cases hwraps : 256 ≤ skb.len
  · -- the index wraps before it comes to the length
    have hok := congrArg ParseResult.isOk (hexact elems h)
    rw [rrmParseBeaconReq, if_neg hlong, optElems_not_ok hwraps] at hok
    exact Bool.false_ne_true hok
  · exact not_staysInside (i := 23) (by omega) (by omega) h.admissible h.bytes hwalk

/-- **Which frames are parsed as they should be**: those that are refused for their length, and
those whose elements stay inside the frame until one of another kind, or an index that has left the
frame, ends the loop. A list of elements is not among them. -/
theorem exact_iff (skb : Skb) :
    Bounded skb ∧ Exact skb ↔
      skb.len < RRM_MIN_BEACON_FRM_LEN ∨
        49 ≤ skb.len ∧ StaysInside skb 23 ∧ ∀ elems, ¬ WellFormed skb elems := by
  constructor
  · rintro ⟨hbounded, hexact⟩
    rcases (bounded_iff skb).1 hbounded with hshort | ⟨hlen, hwalk⟩
    · exact Or.inl hshort
    · exact Or.inr ⟨hlen, hwalk, fun elems h => h.not_bounded_and_exact ⟨hbounded, hexact⟩⟩
  · rintro (hshort | ⟨hlen, hwalk, hnone⟩)
    · refine ⟨(bounded_iff skb).2 (Or.inl hshort), fun elems h => ?_⟩
      have hmin := h.len
      rw [RRM_MIN_BEACON_FRM_LEN] at hshort
      omega
    · exact ⟨(bounded_iff skb).2 (Or.inr ⟨hlen, hwalk⟩), fun elems h => absurd h (hnone elems)⟩

/-- A request without elements, of 47 bytes. -/
theorem not_bounded_and_exact : ¬ ∀ skb : Skb, skb.len ≤ MAX_MGMT_PKT_SIZE →
    Bounded skb ∧ Exact skb := by
  intro hall
  have hframe := hall ⟨0, fun _ => 0, 47⟩ (by decide)
  have hempty : WellFormed ⟨0, fun _ => 0, 47⟩ [] :=
    ⟨Nat.le_refl _, fun elem helem => absurd helem List.not_mem_nil, rfl⟩
  exact hempty.not_bounded_and_exact hframe

end Lists

end Rrm
