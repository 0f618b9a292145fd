import RsiDriver.Tx.Ownership

/-!
# Headroom for the descriptor

Both descriptor functions push a header in two steps, 20 bytes and then the padding, and test the
headroom before each. `rsi_prepare_mgmt_desc` tests it for the padding. `rsi_prepare_data_desc`
tests it for the 20 bytes a second time: it rejects a frame whose headroom has room for the padded
header but not for 40 bytes, and `skb_push` panics if there is room for 40 bytes but not for the
padded header.

## Main results

* `pushSafe_mgmt`: the management header is pushed whenever there is room for it;
* `dataHeadroomSafe_iff`: for which frames that is so for the data header.
-/

namespace Tx

/-- A function has pushed a header of `size` bytes in front of the frame, or it has found that there
is no room for it and has not pushed more than there is room for. -/
structure PushSafe (skb : SkBuff) (size : ℕ) (r : Pushed) : Prop where
  pushed : ∀ skb' n, r = .pushed skb' n → n = size ∧ size ≤ skb.headroom ∧ skb.PushedBy skb' size
  noHeadroom : ∀ skb', r = .noHeadroom skb' →
    skb.headroom < size ∧ ∃ n, skb.PushedBy skb' n ∧ n ≤ skb.headroom
  noPanic : r ≠ .panic

/-- The function has found that there is no room. -/
def Pushed.isNoHeadroom : Pushed → Bool
  | .noHeadroom _ => true
  | .pushed _ _ | .panic => false

namespace PushSafe

variable {skb skb' : SkBuff} {size n : ℕ}

theorem of_pushed (h : skb.PushedBy skb' size) (hle : size ≤ skb.headroom) :
    PushSafe skb size (.pushed skb' size) where
  pushed _ _ heq := by
    cases heq
    exact ⟨rfl, hle, h⟩
  noHeadroom _ heq := by cases heq
  noPanic heq := by cases heq

theorem of_noHeadroom (h : skb.PushedBy skb' n) (hle : n ≤ skb.headroom)
    (hlt : skb.headroom < size) : PushSafe skb size (.noHeadroom skb') where
  pushed _ _ heq := by cases heq
  noHeadroom _ heq := by
    cases heq
    exact ⟨hlt, n, h, hle⟩
  noPanic heq := by cases heq

/-- A frame is rejected exactly when there is no room for the whole header. -/
theorem isNoHeadroom_iff {r : Pushed} (h : PushSafe skb size r) :
    r.isNoHeadroom = true ↔ skb.headroom < size := by
  match r, h with
  | .noHeadroom skb', h => exact ⟨fun _ => (h.noHeadroom skb' rfl).1, fun _ => rfl⟩
  | .pushed skb' n, h =>
    obtain ⟨-, hle, -⟩ := h.pushed skb' n rfl
    exact ⟨fun heq => (by cases heq), fun hlt => absurd hle (Nat.not_le.2 hlt)⟩
  | .panic, h => exact absurd rfl h.noPanic

end PushSafe

/-- `FRAME_DESC_SZ + sizeof(struct xtended_desc)` and the padding of a data frame -/
def dataHeaderSize (usbFullSpeed : Bool) (skb : SkBuff) : ℕ :=
  HEADER_SIZE + dataPadding usbFullSpeed skb

/-- The same for a management frame -/
def mgmtHeaderSize (skb : SkBuff) : ℕ := HEADER_SIZE + mgmtPadding skb

theorem pushSafe_mgmt (skb : SkBuff) : PushSafe skb (mgmtHeaderSize skb) (pushMgmtHeader skb) := by
  rcases pushMgmtHeader_cases skb with ⟨hlt, skb', n, h, hle, heq⟩ | ⟨hle, skb', h, heq⟩
  · rw [heq]
    exact .of_noHeadroom h hle hlt
  · rw [heq]
    exact .of_pushed h hle

/-- There is room for the padded header exactly when there is room for two unpadded ones. -/
def RoomAgrees (usbFullSpeed : Bool) (skb : SkBuff) : Prop :=
  2 * HEADER_SIZE ≤ skb.headroom ↔ dataHeaderSize usbFullSpeed skb ≤ skb.headroom

theorem pushSafe_data_iff (usbFullSpeed : Bool) (skb : SkBuff) :
    PushSafe skb (dataHeaderSize usbFullSpeed skb) (pushDataHeader usbFullSpeed skb) ↔
      RoomAgrees usbFullSpeed skb := by
  unfold RoomAgrees dataHeaderSize
  rcases pushDataHeader_cases usbFullSpeed skb with
    ⟨hlt, skb', n, h, hle, heq⟩ | ⟨hroom, hpanic, heq⟩ | ⟨hroom, hle, skb', h, heq⟩
  · -- rejected, as there is no room for 40 bytes
    rw [heq]
    constructor
    · intro hsafe
      have := (hsafe.noHeadroom skb' rfl).1
      omega
    · intro hiff
      exact .of_noHeadroom h hle (by omega)
  · rw [heq]
    constructor
    · intro hsafe
      exact absurd rfl hsafe.noPanic
    · intro hiff
      omega
  · rw [heq]
    constructor
    · intro _
      omega
    · intro _
      exact .of_pushed h hle

/-- **Headroom safety** of `rsi_prepare_data_desc`: it returns a negative error and has pushed no
more than there was room for, or it has pushed the whole header, which there was room for; and it
rejects a frame for lack of headroom only when there is no room for the whole header, as
`rsi_prepare_mgmt_desc` does for the same padding. -/
structure DataHeadroomSafe (a : Adapter) (skb : SkBuff) : Prop where
  push : PushSafe skb (dataHeaderSize a.usbFullSpeed skb) (pushDataHeader a.usbFullSpeed skb)
  ready : ∀ a' skb', prepareDataDesc a skb = .ready a' skb' →
    skb'.len = skb.len + dataHeaderSize a.usbFullSpeed skb ∧
      dataHeaderSize a.usbFullSpeed skb ≤ skb.headroom
  rejected : ∀ a' skb' status, prepareDataDesc a skb = .rejected a' skb' status →
    status < 0 ∧ ∃ n ≤ skb.headroom, skb'.len = skb.len + n
  noPanic : prepareDataDesc a skb ≠ .oops .skbUnderPanic
  asMgmt : dataPadding a.usbFullSpeed skb = mgmtPadding skb →
    (pushDataHeader a.usbFullSpeed skb).isNoHeadroom = (pushMgmtHeader skb).isNoHeadroom

@[simp]
theorem fillDataDesc_len (a : Adapter) (skb : SkBuff) (headerSize : ℕ) (vif : Vif) :
    (fillDataDesc a skb headerSize vif).len = skb.len := by
  unfold fillDataDesc setPowerMgmt
  split <;> rfl

/-- The faults behind the header are not those of `skb_push`. -/
theorem dataDescFault_ne (a : Adapter) (skb : SkBuff) (vif : Vif) :
    dataDescFault a skb vif ≠ some .skbUnderPanic := by
  unfold dataDescFault
  split_ifs <;> simp

/-- What the rest of the function does with the outcome of the pushes. -/
theorem prepareDataDesc_of_pushSafe {a : Adapter} {skb : SkBuff}
    (h : PushSafe skb (dataHeaderSize a.usbFullSpeed skb) (pushDataHeader a.usbFullSpeed skb)) :
    match prepareDataDesc a skb with
    | .ready _ skb' => skb'.len = skb.len + dataHeaderSize a.usbFullSpeed skb ∧
        dataHeaderSize a.usbFullSpeed skb ≤ skb.headroom
    | .rejected _ skb' status => status < 0 ∧ ∃ n ≤ skb.headroom, skb'.len = skb.len + n
    | .oops fault => fault ≠ .skbUnderPanic := by
  unfold prepareDataDesc
  cases hpush : pushDataHeader a.usbFullSpeed skb with
  | panic => exact absurd hpush h.noPanic
  | noHeadroom skb' =>
    obtain ⟨-, n, hn, hle⟩ := h.noHeadroom skb' hpush
    exact ⟨by decide, n, hle, hn.len⟩
  | pushed skb' n =>
    obtain ⟨rfl, hle, hn⟩ := h.pushed skb' n hpush
    dsimp only
    cases dataVif a (skb'.withHdrSize _) _ with
    | none => exact ⟨by decide, _, hle, hn.len⟩
    | some vif =>
      dsimp only
      cases hfault : dataDescFault a (skb'.withHdrSize _) vif with
      | none =>
        refine ⟨?_, hle⟩
        rw [fillDataDesc_len]
        exact hn.len
      | some fault =>
        rintro rfl
        exact dataDescFault_ne _ _ _ hfault

/-- The data descriptor is headroom-safe for exactly the frames whose headroom is on the same side
of 40 bytes as of the length of the padded header. -/
theorem dataHeadroomSafe_iff (a : Adapter) (skb : SkBuff) :
    DataHeadroomSafe a skb ↔ RoomAgrees a.usbFullSpeed skb := by
  rw [← pushSafe_data_iff]
  refine ⟨DataHeadroomSafe.push, fun hpush => ?_⟩
  have hres := prepareDataDesc_of_pushSafe hpush
  refine ⟨hpush, fun a' skb' heq => ?_, fun a' skb' status heq => ?_, fun heq => ?_, fun hpad => ?_⟩
  · rw [heq] at hres
    exact hres
  · rw [heq] at hres
    exact hres
  · rw [heq] at hres
    exact hres rfl
  · have hsize : dataHeaderSize a.usbFullSpeed skb = mgmtHeaderSize skb := by
      rw [dataHeaderSize, hpad, mgmtHeaderSize]
    rw [Bool.eq_iff_iff, hpush.isNoHeadroom_iff, (pushSafe_mgmt skb).isNoHeadroom_iff, hsize]

namespace Adapter

/-- A frame of 128 bytes with a headroom of 64 bytes: the aligned header has just room in it. -/
def tight : SkBuff := { qosData (localAddr 1) with data := 0x1040, headroom := 0x40, len := 128 }

/-- On full-speed USB the header of this frame is a byte longer, and `skb_push` panics. -/
theorem not_dataHeadroomSafe : ¬ ∀ (a : Adapter) (skb : SkBuff), DataHeadroomSafe a skb := by
  intro hall
  exact (hall { stationUp with usbFullSpeed := true } tight).noPanic rfl

end Adapter

end Tx
