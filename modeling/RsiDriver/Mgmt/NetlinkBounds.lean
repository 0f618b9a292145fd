import Mathlib.Tactic.SplitIfs
import RsiDriver.Mgmt.Netlink

/-!
# Commands that stay inside the message

A command of the application is handled as it should be if it takes no byte from behind the message
and puts none behind a destination, if it returns, if its frames say how long they are, and if
`rsi_do_master_ops` leaves the bus window as it was and frees its buffer. `Fits` says of a message
what it takes: that it is as long as the structure that the command copies, and that the counts in
it are no larger than the buffers.

## Main results

* `nlRecvMsg_iff`: a message is handled so if and only if it fits;
* `not_handled`: a read of the device memory with a count of 33.
-/

namespace Netlink

open Access

/-! ## The property -/

/-- The values that the window register was set to. -/
def windows (l : List MasterEvent) : List (BitVec 16) :=
  l.filterMap fun
    | .msword w => some w
    | .alloc | .free => none

/-- If the window was changed it was set back, and the buffer was freed. -/
def Restored (l : List MasterEvent) : Prop :=
  windows l ≠ [] → (windows l).getLast? = some 0x4105 ∧ l.count .alloc = l.count .free

instance (l : List MasterEvent) : Decidable (Restored l) := inferInstanceAs (Decidable (_ → _))

/-- The frame says how long it is. -/
def Sent.Ok (s : Sent) : Prop := s.lengthField = s.len - BbProg.FRAME_DESC_SZ

/-- The frame keeps to its buffer and says how long it is. -/
def FrameOk (f : BbProg.Frame) : Prop :=
  f.InBounds ∧ f.lengthField = f.len - BbProg.FRAME_DESC_SZ

/-- What was done for a message of `n` bytes. -/
structure Outcome.Ok (n : ℕ) (sdio : Bool) (o : Outcome) : Prop where
  accesses : AllInBounds (Obj.size n) o.accesses
  sent : ∀ s ∈ o.sent, s.Ok
  bbFrame : ∀ f ∈ o.bbFrame, FrameOk f
  restored : sdio = true → Restored o.master

/-- The call returns and did what it should. -/
def Handled (e : Env) (m : ByteMemory) (n : ℕ) : Prop :=
  ∃ o, nlRecvMsg e m = some o ∧ o.Ok n e.sdio

/-! ## What it takes -/

section Conditions

variable (e : Env) (m : ByteMemory) (n : ℕ)

/-- The count of an access to the device memory: 32 entries are read, eight bytes are written. On
SDIO there has to be a buffer for the answer. -/
def MasterFits : Prop :=
  e.tempBuf = true → ¬ (e.sdio = true ∧ e.mswordOk = false) →
    (m.le16 6 = MASTER_READ → noOfBytes m ≤ 32 ∧ (e.sdio = true → e.nlmsgNew = true)) ∧
      (m.le16 6 = MASTER_WRITE → noOfBytes m ≤ 8)

/-- The count of a baseband request. A frame for a register of the SoC never says its length. -/
def BbFits (a : BbProg.Adapter) (p : BbProg.BbRfParams) (alloc : Bool) : Prop :=
  (a.model9116 = true ∨ p.noOfValues.toNat < 255) ∧
    (alloc = true →
      match BbProg.Kind.ofType p.value with
      | .bb => p.noOfValues.toNat ≤ 200
      | .buf =>
        (p.softReset >>> 4 = 1 →
          p.value.toNat % 2 = 0 ∨ a.bbRfRw = true ∨ (p.noOfValues * 2).toNat ≤ 200) ∧
        (p.softReset >>> 4 = 2 → (p.noOfValues * 2 * 3 + 6).toNat ≤ 200)
      | .socWrite | .socRead => False
      | .invalid => True)

/-- The message fits the command. -/
def Fits : Cmd → Prop
  | .perReceive => e.macInitDone = true → 24 ≤ n
  | .updateWlanGainTable =>
    e.macInitDone = true → 20 ≤ n ∧ (e.acxModule = false → e.devAllocSkb = true →
      (payloadLen m = 0 ∨ 32 + payloadLen m ≤ n) ∧ payloadLen m < 4096)
  | .perTransmit => e.macInitDone = true → e.rfEvalMode = true → 32 + 56 ≤ n
  | .perPacket => 32 + 1548 ≤ n
  | .masterOps => 32 + 140 ≤ n ∧ MasterFits e m
  | .rsiSetBbRf => 32 + 2056 ≤ n ∧ BbFits e.adapter (bbRfParams m) e.devAllocSkb
  | .realTimeStats => e.model9117 = true → 24 ≤ n
  | .setBmissThreshold | .keepAlivePeriod => e.model9117 = true → 20 ≤ n
  | .filterBcast =>
    e.adapter.model9116 = true → 20 ≤ n ∧ (e.devAllocSkb = true →
      payloadLen m = 0 ∨ 32 + payloadLen m ≤ n ∧ payloadLen m ≤ 12)
  | .diagnosticReport => 24 ≤ n ∧ (e.nlmsgNew = true → (descWord m 3).toNat ≤ 4)
  | .diagToolUpdate => 24 ≤ n
  | .wlan9116Feature => 32 + 16 ≤ n
  | .rsiEfuseMap | .getRssi | .invalid => True

end Conditions

/-! ## Frames -/

section Frames

open BbProg (FRAME_DESC_SZ MGMT_Q)

variable {a : BbProg.Adapter} {num : BitVec 16}

/-- Twelve bits are below 4096. -/
theorem and_fff_lt (w : BitVec 16) : (w &&& 0xfff).toNat < 4096 := by
  rw [BitVec.toNat_and]
  exact Nat.lt_of_le_of_lt Nat.and_le_right (by decide)

/-- A length can be told from the first word if it has twelve bits. -/
theorem ofLength_ok {len : ℕ} (h : len < 2 ^ 16) : (Sent.ofLength len).Ok ↔ len < 4096 := by
  have hlen : (BitVec.ofNat 16 len).toNat = len := by
    rw [BitVec.toNat_ofNat]
    omega
  rw [Sent.Ok, Sent.lengthField, Sent.ofLength]
  dsimp only
  rw [Nat.add_sub_cancel]
  constructor
  · intro heq
    have := and_fff_lt (BitVec.ofNat 16 len ||| MGMT_Q)
    omega
  · intro hlt
    rw [BbProg.lengthField_or (by rw [hlen]; exact hlt), hlen]

theorem bbProgFrame_ok : FrameOk (BbProg.bbProgFrame a num) ↔ num.toNat ≤ 200 := by
  rw [FrameOk, BbProg.bbProgFrame_inBounds_iff]
  refine and_iff_left_of_imp fun h => ?_
  have hlen : (num * 2).toNat < 4096 := by
    rw [BitVec.toNat_mul]
    change num.toNat * 2 % 65536 < _
    omega
  change ((num * 2 ||| MGMT_Q) &&& 0xfff).toNat = (num * 2).toNat + FRAME_DESC_SZ - FRAME_DESC_SZ
  rw [BbProg.lengthField_or hlen, Nat.add_sub_cancel]

theorem directFrame_ok {noOfFields : BitVec 16} :
    FrameOk (BbProg.directFrame a num noOfFields) ↔
      a.bbRfRw = true ∨ (num * 2).toNat ≤ 200 := by
  cases hread : a.bbRfRw with
  | true =>
    have hok : FrameOk (BbProg.directFrame a num noOfFields) := by
      rw [BbProg.directFrame, if_neg (by rw [hread]; simp)]
      exact ⟨⟨IndexMoves.within_nil, Nat.le_add_right _ _⟩,
        show (MGMT_Q &&& 0xfff).toNat = FRAME_DESC_SZ - FRAME_DESC_SZ by decide⟩
    exact iff_of_true hok (.inl rfl)
  | false =>
    rw [BbProg.directFrame, if_pos hread, FrameOk, BbProg.Frame.InBounds]
    simp only [IndexMoves.within_nil, true_and, Bool.false_eq_true, false_or]
    constructor
    · intro h
      have := h.1
      simp only [FRAME_DESC_SZ] at this
      omega
    · intro h
      refine ⟨by simp only [FRAME_DESC_SZ]; omega, ?_⟩
      change ((num * 2 ||| MGMT_Q) &&& 0xfff).toNat = _
      rw [BbProg.lengthField_or (by omega), Nat.add_sub_cancel]

theorem indirectFrame_ok :
    FrameOk (BbProg.indirectFrame a num) ↔ (num * 2 * 3 + 6).toNat ≤ 200 := by
  rw [BbProg.indirectFrame, FrameOk, BbProg.Frame.InBounds]
  dsimp only
  rw [IndexMoves.within_segment]
  constructor
  · intro h
    have := h.1.2
    simp only [FRAME_DESC_SZ] at this
    omega
  · intro h
    refine ⟨⟨by simp only [BbProg.DATA_SIZE]; omega, by simp only [FRAME_DESC_SZ]; omega⟩, ?_⟩
    change ((num * 2 * 3 + 6 ||| MGMT_Q) &&& 0xfff).toNat = _
    rw [BbProg.lengthField_or (by omega), Nat.add_sub_cancel]

/-- The length field of this frame is 0, and eight bytes follow. -/
theorem socRegOpsFrame_not_ok (data : ℕ → BitVec 16) (write : Bool) :
    ¬ FrameOk (BbProg.socRegOpsFrame data write) := by
  rintro ⟨-, hlen⟩
  change (MGMT_Q &&& 0xfff).toNat = 8 + FRAME_DESC_SZ - FRAME_DESC_SZ at hlen
  exact absurd hlen (by decide)

/-- A baseband request returns, with a frame that is in order, if and only if its count fits. -/
theorem setBbRfValues_iff {p : BbProg.BbRfParams} {alloc : Bool} :
    (∃ o, BbProg.setBbRfValues a p alloc = some o ∧ ∀ f ∈ o.frame, FrameOk f) ↔
      BbFits a p alloc := by
  rw [BbFits, ← BbProg.printEnds_iff, BbProg.setBbRfValues]
  by_cases hends : a.model9116 = false ∧ ¬ BbProg.PrintEnds p.noOfValues
  · rw [if_pos hends]
    simp [hends.1, hends.2]
  · have hor : a.model9116 = true ∨ BbProg.PrintEnds p.noOfValues := by
      by_contra hnot
      rw [not_or, Bool.not_eq_true] at hnot
      exact hends hnot
    rw [if_neg hends, and_iff_right hor]
    dsimp only
    -- the buffer decides whether there is a frame, and the type which one it is
    cases alloc with
    | false =>
      refine iff_of_true ?_ (fun h => absurd h Bool.false_ne_true)
      cases BbProg.Kind.ofType p.value with
      | bb | socWrite | socRead | invalid => exact ⟨_, rfl, by simp⟩
      | buf =>
        simp only [Bool.false_eq_true, if_false]
        split_ifs <;> exact ⟨_, rfl, by simp⟩
    | true =>
      cases BbProg.Kind.ofType p.value with
      | bb => simp [bbProgFrame_ok]
      | buf =>
        by_cases h1 : p.softReset >>> 4 = 1
        · have h2 : ¬ p.softReset >>> 4 = 2 := by
            rw [h1]
            decide
          by_cases heven : p.value.toNat % 2 = 0 <;> simp [h1, directFrame_ok, heven]
        · by_cases h2 : p.softReset >>> 4 = 2
          · rw [if_neg h1, if_pos h2]
            simp [h2, indirectFrame_ok]
          · rw [if_neg h1, if_neg h2]
            refine iff_of_true ⟨_, rfl, by simp⟩ fun _ => ?_
            exact ⟨fun h => absurd h h1, fun h => absurd h h2⟩
      | socWrite | socRead => simp [socRegOpsFrame_not_ok]
      | invalid => simp

end Frames

/-! ## Access to the memory of the device -/

section MasterOps

variable {e : Env} {m : ByteMemory} {n : ℕ}

theorem masterRead_inBounds :
    AllInBounds (Obj.size n) (masterRead e m) ↔ noOfBytes m ≤ 32 := by
  have hbus : (if e.sdio = true then .write .tempBuf 0 (e.answer.bytes 0 256)
      else .write .tempBuf 0 (e.answer.bytes 0 (min (noOfBytes m) e.transferred)) :
        Access Obj).InBounds (Obj.size n) ↔
      (e.sdio = true ∨ min (noOfBytes m) e.transferred ≤ 1000) := by
    by_cases h : e.sdio = true
    · rw [if_pos h, inBounds_write, ByteMemory.length_bytes]
      exact iff_of_true (.inr (show 0 + 256 ≤ 1000 by decide)) (.inl h)
    · rw [if_neg h, inBounds_write, ByteMemory.length_bytes, or_iff_right h]
      change _ ∨ 0 + _ ≤ 1000 ↔ _
      omega
  rw [masterRead, allInBounds_cons, hbus, allInBounds_flatMap]
  constructor
  · rintro ⟨-, hloop⟩
    by_contra hlt
    -- the entry 32 is written
    have := hloop 32 (List.mem_range.2 (by omega))
    rw [allInBounds_cons, allInBounds_cons, inBounds_write] at this
    change _ ∧ (1 + 3 = 0 ∨ 4 * 32 + 4 ≤ 4 * 32) ∧ _ at this
    omega
  · intro hle
    refine ⟨.inr (by omega), fun i hi => ?_⟩
    have := List.mem_range.1 hi
    rw [allInBounds_cons, allInBounds_cons, inBounds_byte, inBounds_write]
    refine ⟨?_, .inr ?_, allInBounds_nil⟩
    · change i < 1000
      omega
    · change 4 * i + 4 ≤ 4 * 32
      omega

theorem masterWrite_inBounds :
    AllInBounds (Obj.size n) (masterWrite m) ↔ noOfBytes m ≤ 8 := by
  have htemp : Obj.size n .tempBuf = 1000 := rfl
  have hword : Obj.size n .writeData = 8 := rfl
  have hdata : Obj.size n .masterData = 128 := rfl
  rw [masterWrite, allInBounds_append, allInBounds_cons, allInBounds_append, allInBounds_copy,
    allInBounds_copy, allInBounds_flatMap, inBounds_write, List.length_replicate, htemp, hword,
    hdata]
  constructor
  · rintro ⟨⟨-, -, hcopy⟩, -⟩
    omega
  · intro hle
    refine ⟨by omega, fun i hi => ?_⟩
    have := List.mem_range.1 hi
    rw [allInBounds_cons, allInBounds_cons, inBounds_read, inBounds_write, htemp, hdata]
    exact ⟨.inr (by omega), .inr (by rw [List.length_singleton]; omega), allInBounds_nil⟩

/-- The end of the function sets the window back and frees the buffer. -/
theorem restored_end {l : List MasterEvent} (hsdio : e.sdio = true)
    (hcount : l.count .alloc = l.count .free + 1) : Restored (l ++ endMasterOps e) := by
  rw [endMasterOps, if_pos hsdio]
  intro _
  constructor
  · rw [windows, List.filterMap_append]
    exact List.getLast?_concat
  · simp [List.count_append, hcount]

/-- Without it the buffer is lost. -/
theorem not_restored {w : BitVec 16} : ¬ Restored [.alloc, .msword w] := by
  intro h
  have := (h (List.cons_ne_nil _ _)).2
  simp at this

/-- `rsi_do_master_ops` stays in bounds and restores the window if and only if the count fits. -/
theorem doMasterOps_iff :
    (AllInBounds (Obj.size n) (doMasterOps e m (m.le16 6)).1 ∧
      (e.sdio = true → Restored (doMasterOps e m (m.le16 6)).2)) ↔ MasterFits e m := by
  rw [MasterFits, doMasterOps]
  cases htemp : e.tempBuf with
  | false => exact iff_of_true ⟨allInBounds_nil, fun _ h => absurd rfl h⟩ (by simp)
  | true =>
    rw [if_neg (by simp)]
    dsimp only
    by_cases hfail : e.sdio = true ∧ e.mswordOk = false
    · rw [if_pos hfail, if_pos hfail.1]
      refine iff_of_true ⟨allInBounds_nil, fun h => restored_end h (by simp)⟩ ?_
      exact fun _ h => absurd hfail h
    · rw [if_neg hfail]
      have hne : MASTER_READ ≠ MASTER_WRITE := by decide
      by_cases hread : m.le16 6 = MASTER_READ
      · rw [if_pos hread, hread]
        cases hnew : e.nlmsgNew with
        | false =>
          -- the return without `end_master_ops`
          rw [if_pos rfl, masterRead_inBounds]
          constructor
          · rintro ⟨hle, hrest⟩ - -
            refine ⟨fun _ => ⟨hle, fun hsdio => ?_⟩, fun h => absurd h hne⟩
            have := hrest hsdio
            rw [if_pos hsdio] at this
            exact absurd this not_restored
          · intro h
            obtain ⟨hle, hnew⟩ := (h rfl hfail).1 rfl
            exact ⟨hle, fun hsdio => absurd (hnew hsdio) Bool.false_ne_true⟩
        | true =>
          rw [if_neg (by simp), masterRead_inBounds]
          refine ⟨fun h _ _ => ⟨fun _ => ⟨h.1, fun _ => rfl⟩, fun h => absurd h hne⟩,
            fun h => ⟨((h rfl hfail).1 rfl).1, fun hsdio => ?_⟩⟩
          rw [if_pos hsdio]
          exact restored_end hsdio (by simp)
      · rw [if_neg hread]
        by_cases hwrite : m.le16 6 = MASTER_WRITE
        · rw [if_pos hwrite, masterWrite_inBounds]
          refine ⟨fun h _ _ => ⟨fun h => absurd h hread, fun _ => h.1⟩,
            fun h => ⟨(h rfl hfail).2 hwrite, fun hsdio => restored_end hsdio ?_⟩⟩
          cases e.masterRegWriteAlloc <;> simp [hsdio]
        · rw [if_neg hwrite]
          refine iff_of_true ⟨allInBounds_nil, fun hsdio => ?_⟩
            fun _ _ => ⟨fun h => absurd h hread, fun h => absurd h hwrite⟩
          rw [if_pos hsdio]
          exact restored_end hsdio (by simp)

end MasterOps

/-! ## The commands -/

section Commands

variable {e : Env} {m : ByteMemory} {n : ℕ}

theorem ok_iff {l : List (Access Obj)} {sent : List Sent} {sdio : Bool} :
    (Outcome.mk l sent none []).Ok n sdio ↔ AllInBounds (Obj.size n) l ∧ ∀ s ∈ sent, s.Ok :=
  ⟨fun h => ⟨h.accesses, h.sent⟩,
    fun h => ⟨h.1, h.2, fun _ hf => absurd hf (by simp), fun _ hw => absurd rfl hw⟩⟩

/-- A command that returns and does nothing to the device memory. -/
theorem exists_ok_iff {l : List (Access Obj)} {sent : List Sent} {sdio : Bool} :
    (∃ o, some (Outcome.mk l sent none []) = some o ∧ o.Ok n sdio) ↔
      AllInBounds (Obj.size n) l ∧ ∀ s ∈ sent, s.Ok := by
  simp only [Option.some_inj, exists_eq_left', ok_iff]

/-- A command that has nothing to do. -/
theorem exists_ok_nil {sdio : Bool} :
    ∃ o, some (Outcome.mk [] [] none []) = some o ∧ o.Ok n sdio :=
  exists_ok_iff.2 ⟨allInBounds_nil, by simp⟩

/-- The frames with a fixed length say it. -/
theorem sendIf_ok {len : ℕ} (h : len < 4096) : ∀ s ∈ sendIf e (.ofLength len), s.Ok := by
  intro s hs
  obtain ⟨-, rfl⟩ : e.devAllocSkb = true ∧ s = .ofLength len := by
    cases halloc : e.devAllocSkb <;> simp_all [sendIf]
  exact (ofLength_ok (by omega)).2 h

theorem copyStruct_inBounds {k : ℕ} :
    AllInBounds (Obj.size n) (copyStruct m k) ↔ k = 0 ∨ 32 + k ≤ n := by
  rw [copyStruct, allInBounds_copy]
  change k = 0 ∨ 32 + k ≤ n ∧ 0 + k ≤ k ↔ _
  omega

theorem readDesc_inBounds {k : ℕ} (hk : k ≠ 0) :
    (readDesc k).InBounds (Obj.size n) ↔ 18 + 2 * k ≤ n := by
  rw [readDesc, inBounds_read]
  change 2 * k = 0 ∨ 18 + 2 * k ≤ n ↔ _
  omega

/-- The payload length is a number of 16 bits. -/
theorem payloadLen_lt : payloadLen m < 2 ^ 16 := (descWord m 1).isLt

theorem updateWlanGainTable_ok :
    AllInBounds (Obj.size n) (updateWlanGainTable e m).1 ∧
        (∀ s ∈ (updateWlanGainTable e m).2, s.Ok) ↔
      (e.acxModule = false → e.devAllocSkb = true →
        (payloadLen m = 0 ∨ 32 + payloadLen m ≤ n) ∧ payloadLen m < 4096) := by
  rw [updateWlanGainTable]
  by_cases hnot : e.acxModule = true ∨ e.devAllocSkb = false
  · rw [if_pos hnot]
    refine iff_of_true ⟨allInBounds_nil, by simp⟩ fun hacx halloc => ?_
    simp [hacx, halloc] at hnot
  · rw [if_neg hnot]
    obtain ⟨hacx, halloc⟩ : e.acxModule = false ∧ e.devAllocSkb = true := by simpa using hnot
    simp only [allInBounds_copy, List.mem_singleton, forall_eq, ofLength_ok payloadLen_lt, hacx,
      halloc, true_implies]
    refine and_congr_left' ?_
    change payloadLen m = 0 ∨ 32 + payloadLen m ≤ n ∧ 16 + payloadLen m ≤ 16 + payloadLen m ↔ _
    omega

theorem filterBroadcast_ok :
    AllInBounds (Obj.size n) (filterBroadcast e m).1 ∧ (∀ s ∈ (filterBroadcast e m).2, s.Ok) ↔
      (e.devAllocSkb = true → payloadLen m = 0 ∨ 32 + payloadLen m ≤ n ∧ payloadLen m ≤ 12) := by
  rw [filterBroadcast]
  cases halloc : e.devAllocSkb with
  | false => exact iff_of_true ⟨allInBounds_nil, by simp⟩ (by simp)
  | true =>
    have hzero : (Sent.ofLength 0).Ok := (ofLength_ok (by decide)).2 (by decide)
    rw [if_neg (by simp), allInBounds_copy]
    simp only [List.mem_singleton, forall_eq, hzero, and_true, true_implies]
    -- the copy starts behind the first two words of the descriptor
    change payloadLen m = 0 ∨ 32 + payloadLen m ≤ n ∧ 4 + payloadLen m ≤ 16 ↔ _
    omega

theorem diagnosticReport_inBounds :
    AllInBounds (Obj.size n) (diagnosticReport e m) ↔
      (e.nlmsgNew = true → (descWord m 3).toNat ≤ 4) := by
  rw [diagnosticReport]
  cases hnew : e.nlmsgNew with
  | false => exact iff_of_true allInBounds_nil (by simp)
  | true =>
    simp only [Bool.true_eq_false, if_false, allInBounds_cons, allInBounds_nil, and_true,
      inBounds_read, inBounds_write, ByteMemory.length_bytes, true_implies]
    change (_ ∨ 0 + _ ≤ 4) ∧ (_ ∨ 0 + (descWord m 3).toNat ≤ (descWord m 3).toNat) ↔ _
    omega

/-- Every command is handled as it should be if and only if the message fits it. -/
theorem command_iff (c : Cmd) :
    (∃ o, command e m c = some o ∧ o.Ok n e.sdio) ↔ Fits e m n c := by
  cases c with
  | perReceive =>
    simp only [command, Fits, exists_ok_iff, allInBounds_ite, allInBounds_cons,
      readDesc_inBounds (show 3 ≠ 0 by decide), allInBounds_nil]
    simp
  | updateWlanGainTable =>
    rw [command, Fits]
    cases e.macInitDone with
    | false => exact iff_of_true exists_ok_nil (by simp)
    | true =>
      simp only [if_true, exists_ok_iff, allInBounds_cons,
        readDesc_inBounds (show 1 ≠ 0 by decide), true_implies, and_assoc, updateWlanGainTable_ok]
  | perTransmit =>
    simp only [command, Fits, exists_ok_iff, allInBounds_ite, copyStruct_inBounds, allInBounds_nil]
    simp
  | perPacket =>
    simp only [command, Fits, exists_ok_iff, copyStruct_inBounds]
    simp
  | masterOps =>
    rw [Fits, ← doMasterOps_iff (n := n)]
    simp only [command, Option.some_inj, exists_eq_left']
    constructor
    · intro h
      have hacc := h.accesses
      rw [allInBounds_append, allInBounds_cons, copyStruct_inBounds] at hacc
      exact ⟨by omega, hacc.2.2, h.restored⟩
    · rintro ⟨hlen, hacc, hrest⟩
      refine ⟨?_, by simp, by simp, hrest⟩
      rw [allInBounds_append, allInBounds_cons, copyStruct_inBounds, inBounds_read]
      refine ⟨.inr hlen, .inr ?_, hacc⟩
      change 6 + 2 ≤ n
      omega
  | rsiSetBbRf =>
    rw [Fits, ← setBbRfValues_iff, command]
    constructor
    · rintro ⟨o, ho, hok⟩
      obtain ⟨o, hset, rfl⟩ := Option.map_eq_some_iff.1 ho
      have hacc := hok.accesses
      rw [copyStruct_inBounds] at hacc
      exact ⟨by omega, o, hset, hok.bbFrame⟩
    · rintro ⟨hlen, o, hset, hframe⟩
      refine ⟨_, by rw [hset, Option.map_some], ?_, by simp, hframe, fun _ hw => absurd rfl hw⟩
      rw [copyStruct_inBounds]
      exact .inr hlen
  | realTimeStats =>
    rw [command, Fits]
    cases e.model9117 with
    | false => exact iff_of_true exists_ok_nil (by simp)
    | true =>
      rw [if_pos rfl, exists_ok_iff, and_iff_left (sendIf_ok (show 0 < 4096 by decide)),
        allInBounds_cons, readDesc_inBounds (by decide), and_iff_left allInBounds_nil]
      simp
  | setBmissThreshold | keepAlivePeriod =>
    rw [command, Fits]
    cases e.model9117 with
    | false => exact iff_of_true exists_ok_nil (by simp)
    | true =>
      rw [if_pos rfl, exists_ok_iff, and_iff_left (sendIf_ok (show 6 < 4096 by decide)),
        allInBounds_cons, readDesc_inBounds (by decide), and_iff_left allInBounds_nil]
      simp
  | filterBcast =>
    rw [command, Fits]
    cases e.adapter.model9116 with
    | false => exact iff_of_true exists_ok_nil (by simp)
    | true =>
      simp only [if_true, exists_ok_iff, allInBounds_cons,
        readDesc_inBounds (show 1 ≠ 0 by decide), true_implies, and_assoc, filterBroadcast_ok]
  | diagnosticReport =>
    simp only [command, Fits, exists_ok_iff, allInBounds_cons,
      readDesc_inBounds (show 3 ≠ 0 by decide), diagnosticReport_inBounds]
    simp
  | diagToolUpdate =>
    rw [command, Fits, exists_ok_iff, and_iff_left (sendIf_ok (show 0 < 4096 by decide)),
      allInBounds_cons, readDesc_inBounds (by decide), and_iff_left allInBounds_nil]
  | wlan9116Feature =>
    rw [command, Fits, exists_ok_iff, and_iff_left (sendIf_ok (show 12 < 4096 by decide)),
      copyStruct_inBounds, or_iff_right (by decide)]
  | getRssi =>
    rw [command, Fits, exists_ok_iff]
    refine iff_of_true ⟨allInBounds_nil, ?_⟩ trivial
    split
    · exact sendIf_ok (by decide)
    · simp
  | rsiEfuseMap | invalid => exact iff_of_true exists_ok_nil trivial

theorem header_inBounds : AllInBounds (Obj.size n) header ↔ 18 ≤ n := by
  simp only [header, allInBounds_cons, allInBounds_nil, inBounds_read, and_true]
  change (4 = 0 ∨ 12 + 4 ≤ n) ∧ (2 = 0 ∨ 4 + 2 ≤ n) ∧ (2 = 0 ∨ 16 + 2 ≤ n) ↔ _
  omega

end Commands

/-! ## A message that is not handled as it should be -/

/-- A new device on SDIO where everything succeeds. -/
def sampleEnv : Env where
  macInitDone := true
  rfEvalMode := false
  model9117 := true
  acxModule := false
  adapter := ⟨false, 0, true⟩
  rssiRecent := false
  devAllocSkb := true
  nlmsgNew := true
  tempBuf := true
  sdio := true
  mswordOk := true
  masterRegWriteAlloc := true
  transferred := 0
  answer := fun _ => 0

/-- `MASTER_OPS` to read `count` bytes. -/
def masterReadMsg (count : ℕ) : ByteMemory
  | 4 => 1
  | 6 => 21
  | 16 => 0xA1
  | 36 => BitVec.ofNat 8 count
  | _ => 0

end Netlink
