import Mathlib.Tactic.SplitIfs
import RsiDriver.Mgmt.BbProg
import RsiDriver.ToMathlib.TransitionSystem

/-!
# The values of a baseband request

The frame of a request carries `Data[1]`, `Data[2]`, … in order, says how long it is, and is marked
as a read if and only if the request is one. The last point is about runs: the mark comes from
`bb_rf_rw`, which any request of an even type sets and only the three encoders clear.

A direct read asks for values and carries none.

## Main results

* `bbRfRw_eq_false`: no mark is left over as long as every request of an even type is served;
* `builtFor_of_reachable`: what the frame of a request says after such a run;
* `not_forall_carries`: the direct read.
-/

namespace BbProg

/-- The three encoders. -/
inductive Encoder
  | bb
  | direct
  | indirect
  deriving DecidableEq, Repr

/-- The encoder that serves a request. -/
def encoder (p : BbRfParams) : Option Encoder :=
  match Kind.ofType p.value with
  | .bb => some .bb
  | .buf =>
    if p.softReset >>> 4 = 1 then some .direct
    else if p.softReset >>> 4 = 2 then some .indirect
    else none
  | _ => none

/-- The number of words that stand for `num` values. -/
def Encoder.words (e : Encoder) (num : BitVec 16) : ℕ :=
  match e with
  | .bb | .direct => num.toNat
  | .indirect => 3 * num.toNat + 3

/-- The words of the array in the frame: 100 pairs, or 100 words. -/
def Encoder.room : Encoder → ℕ
  | .bb => 200
  | .direct | .indirect => 100

/-- `BB_READ_REQ` or `BUF_READ_REQ` -/
def IsRead (p : BbRfParams) : Prop := p.value = 0 ∨ p.value = 6

instance (p : BbRfParams) : Decidable (IsRead p) := inferInstanceAs (Decidable (_ ∨ _))

/-- The values of the request, from `Data[1]` on. -/
def values (e : Encoder) (p : BbRfParams) : List (BitVec 16) :=
  (List.range (e.words p.noOfValues)).map fun i => p.data (1 + i)

/-- What does not depend on the encoder: the buffer is kept to, the length field tells what follows
the descriptor, the frame is a read like the request, and the flags are used up. -/
structure WellFormed (p : BbRfParams) (f : Frame) (a : Adapter) : Prop where
  inBounds : f.InBounds
  lengthField : f.lengthField = f.len - FRAME_DESC_SZ
  read_iff : f.w7 &&& REG_READ ≠ 0 ↔ IsRead p
  consumed : a.bbRfRw = false ∧ a.softReset = 0

/-- The frame carries the values of the request. -/
def Carries (e : Encoder) (p : BbRfParams) (f : Frame) (a : Adapter) : Prop :=
  WellFormed p f a ∧ f.body p.data = values e p

/-- The frame as it is built for the request; of a direct frame this says only that a read has no
body. -/
structure BuiltFor (e : Encoder) (p : BbRfParams) (f : Frame) (a : Adapter) : Prop
    extends WellFormed p f a where
  bb : e = .bb → f.body p.data = values e p
  indirect : e = .indirect → f.body p.data = values e p
  direct_read : e = .direct → IsRead p → f.body p.data = []

/-! ## Runs -/

/-- One call of `rsi_set_bb_rf_values`. -/
structure Call where
  params : BbRfParams
  alloc : Bool

/-- The calls one after the other. The adapter starts with its flags clear. -/
def system : TransitionSystem Adapter Call where
  Init a := a.bbRfRw = false ∧ a.softReset = 0
  step a c := (setBbRfValues a c.params c.alloc).map (·.adapter)

/-- A request of an even type gets an encoder and a buffer. -/
def Served (_ : Adapter) (c : Call) : Prop :=
  c.params.value.toNat % 2 = 0 → (encoder c.params).isSome = true ∧ c.alloc = true

instance (a : Adapter) (c : Call) : Decidable (Served a c) :=
  inferInstanceAs (Decidable (_ → _))

/-- The adapter as the encoders see it. -/
def Adapter.marked (a : Adapter) (p : BbRfParams) : Adapter :=
  { a with
    bbRfRw := if p.value.toNat % 2 = 0 then true else a.bbRfRw
    softReset := p.softReset }

/-- The frame of an encoder. -/
def Encoder.frame (e : Encoder) (a : Adapter) (p : BbRfParams) : Frame :=
  match e with
  | .bb => bbProgFrame a p.noOfValues
  | .direct => directFrame a p.noOfValues p.noOfFields
  | .indirect => indirectFrame a p.noOfValues

/-- A request that is served. -/
theorem setBbRfValues_of_encoder {a : Adapter} {p : BbRfParams} {e : Encoder}
    (hprint : a.model9116 = true ∨ PrintEnds p.noOfValues) (he : encoder p = some e) :
    setBbRfValues a p true = some ⟨some (e.frame (a.marked p) p), (a.marked p).consumed, 0⟩ := by
  have hends : ¬ (a.model9116 = false ∧ ¬ PrintEnds p.noOfValues) := by
    rintro ⟨hmodel, hnot⟩
    rcases hprint with hnew | hends
    · rw [hmodel] at hnew
      exact Bool.false_ne_true hnew
    · exact hnot hends
  simp only [setBbRfValues]
  rw [if_neg hends]
  simp only [encoder] at he
  cases hkind : Kind.ofType p.value with
  | bb =>
    rw [hkind] at he
    obtain rfl : Encoder.bb = e := by simpa using he
    rfl
  | buf =>
    rw [hkind] at he
    dsimp only at he
    by_cases h1 : p.softReset >>> 4 = 1
    · obtain rfl : Encoder.direct = e := by simpa [h1] using he
      simp only [h1, if_true]
      rfl
    · by_cases h2 : p.softReset >>> 4 = 2
      · obtain rfl : Encoder.indirect = e := by simpa [h2] using he
        simp only [h2, if_true]
        rfl
      · rw [if_neg h1, if_neg h2] at he
        exact absurd he (by simp)
  | socWrite | socRead | invalid => simp [hkind] at he

/-- The mark after a call: a served request leaves none, and an odd one sets none. -/
theorem bbRfRw_of_served {a : Adapter} {c : Call} {o : Outcome} (ha : a.bbRfRw = false)
    (hs : Served a c) (h : setBbRfValues a c.params c.alloc = some o) :
    o.adapter.bbRfRw = false := by
  by_cases heven : c.params.value.toNat % 2 = 0
  · obtain ⟨henc, halloc⟩ := hs heven
    obtain ⟨e, he⟩ := Option.isSome_iff_exists.1 henc
    have hprint : a.model9116 = true ∨ PrintEnds c.params.noOfValues := by
      by_contra hnot
      rw [not_or, Bool.not_eq_true] at hnot
      simp [setBbRfValues, hnot.1, hnot.2] at h
    rw [halloc, setBbRfValues_of_encoder hprint he, Option.some_inj] at h
    rw [← h]
    rfl
  · -- every exit leaves the mark as it is or clears it
    simp only [setBbRfValues, heven, ha, Adapter.consumed] at h
    grind

/-- No mark is left over. -/
theorem bbRfRw_eq_false {a : Adapter} (h : system.ReachableVia Served a) : a.bbRfRw = false := by
  refine h.invariant (fun a => a.bbRfRw = false) (fun a ha => ha.1) ?_
  intro a c a' ha hs hstep
  obtain ⟨o, ho, rfl⟩ := Option.map_eq_some_iff.1 hstep
  exact bbRfRw_of_served ha hs ho

/-! ## What the frames say -/

/-- The values fit the frame. -/
def Fits (e : Encoder) (p : BbRfParams) : Prop := e.words p.noOfValues ≤ e.room

instance (e : Encoder) (p : BbRfParams) : Decidable (Fits e p) :=
  inferInstanceAs (Decidable (_ ≤ _))

/-- The read bit comes from `bb_rf_rw` alone. -/
theorem read_flags (a : Adapter) : (a.flags ||| RF_TYPE) &&& REG_READ ≠ 0 ↔ a.bbRfRw = true := by
  simp only [Adapter.flags]
  split_ifs with h1 h2 h3 h3 h2 h3 h3 <;> simp only [h3] <;> decide

/-- A body that is a segment of the data from `Data[1]` on. -/
theorem body_segment {f : Frame} {n : ℕ} (hmoves : f.moves = .segment 1 n)
    (hlen : f.len = 2 * n + FRAME_DESC_SZ) (data : ℕ → BitVec 16) :
    f.body data = (List.range n).map fun i => data (1 + i) := by
  rw [Frame.body, hlen, Nat.add_sub_cancel, Nat.mul_div_cancel_left n Nat.two_pos]
  apply List.map_congr_left
  intro i hi
  rw [hmoves, IndexMoves.apply_segment, if_pos (List.mem_range.1 hi)]

section Frames

variable {a : Adapter} {p : BbRfParams}

theorem toNat_mul_two {num : BitVec 16} (h : num.toNat ≤ 200) :
    (num * 2).toNat = 2 * num.toNat := by
  rw [BitVec.toNat_mul]
  change num.toNat * 2 % 65536 = _
  omega

theorem toNat_indirect {num : BitVec 16} (h : num.toNat ≤ 200) :
    (num * 2 * 3 + 6).toNat = 2 * (3 * num.toNat + 3) := by
  rw [BitVec.toNat_add, BitVec.toNat_mul, toNat_mul_two h]
  change (2 * num.toNat * 3 % 65536 + 6) % 65536 = _
  omega

/-- A frame with the length `len`, a segment of the data at most, and the flags of the adapter. -/
theorem wellFormed_of_len {f : Frame} {len : BitVec 16} {n : ℕ} (hlt : len.toNat < 4096)
    (hw0 : f.w0 = len ||| MGMT_Q) (hf : f.len = len.toNat + FRAME_DESC_SZ)
    (hroom : len.toNat ≤ 2 * f.room) (hmoves : f.moves = .segment 1 n) (hn : n ≤ f.room)
    (hsize : f.room ≤ 200) (hread : f.w7 &&& REG_READ ≠ 0 ↔ IsRead p) :
    WellFormed p f a.consumed where
  inBounds := by
    refine ⟨?_, by rw [hf]; omega⟩
    rw [hmoves, IndexMoves.within_segment, DATA_SIZE]
    omega
  lengthField := by rw [Frame.lengthField, hw0, lengthField_or hlt, hf, Nat.add_sub_cancel]
  read_iff := hread
  consumed := ⟨rfl, rfl⟩

/-- The types of the requests with an encoder. -/
theorem value_of_encoder {e : Encoder} (he : encoder p = some e) :
    p.value = 0 ∨ p.value = 1 ∨ p.value = 6 ∨ p.value = 7 := by
  by_contra hnot
  obtain ⟨h0, h1, h6, h7⟩ : p.value ≠ 0 ∧ p.value ≠ 1 ∧ p.value ≠ 6 ∧ p.value ≠ 7 := by
    simpa only [not_or] using hnot
  have hkind : Kind.ofType p.value ≠ .bb ∧ Kind.ofType p.value ≠ .buf := by
    simp only [Kind.ofType, h0, h1, h6, h7, or_self, if_false]
    split_ifs <;> simp
  simp only [encoder] at he
  cases h : Kind.ofType p.value <;> simp_all

/-- The mark that the encoder sees, if none was left over. -/
theorem bbRfRw_marked {e : Encoder} (ha : a.bbRfRw = false) (he : encoder p = some e) :
    (a.marked p).bbRfRw = true ↔ IsRead p := by
  rcases value_of_encoder he with h | h | h | h <;> simp [Adapter.marked, IsRead, h, ha]

/-- The frames of the encoders. -/
theorem builtFor_frame {e : Encoder} (ha : a.bbRfRw = false) (he : encoder p = some e)
    (hfit : Fits e p) : BuiltFor e p (e.frame (a.marked p) p) (a.marked p).consumed := by
  have hmark := bbRfRw_marked ha he
  cases e with
  | bb =>
    have hle : p.noOfValues.toNat ≤ 200 := hfit
    have hlen := toNat_mul_two hle
    have hmoves := moves_bbProgFrame_of_le (a.marked p) hle
    have hwf : WellFormed p (bbProgFrame (a.marked p) p.noOfValues) (a.marked p).consumed :=
      wellFormed_of_len (by omega) rfl rfl (by change _ ≤ 2 * 200; omega) hmoves hle
        (Nat.le_refl 200) ((read_flags _).trans hmark)
    have hbody := body_segment hmoves (by change (p.noOfValues * 2).toNat + 16 = _; rw [hlen]; rfl)
      p.data
    exact ⟨hwf, fun _ => hbody, fun h => (by cases h), fun h => (by cases h)⟩
  | direct =>
    have hle : p.noOfValues.toNat ≤ 100 := hfit
    have hlen := toNat_mul_two (Nat.le_trans hle (by decide))
    by_cases hread : IsRead p
    · -- the read: no body, and the mark is set in this branch
      have htrue := hmark.2 hread
      have hframe : Encoder.frame .direct (a.marked p) p =
          { w0 := MGMT_Q, w1 := 0x14, w4 := p.noOfValues, w5 := 1, w6 := p.noOfFields
            w7 := REG_READ ||| RF_TYPE, room := 100, len := FRAME_DESC_SZ } := by
        rw [Encoder.frame, directFrame, if_neg (by rw [htrue]; simp)]
      rw [hframe]
      exact
        { inBounds := ⟨IndexMoves.within_nil, Nat.le_add_right _ _⟩
          lengthField := (show (MGMT_Q &&& 0xfff).toNat = FRAME_DESC_SZ - FRAME_DESC_SZ by decide)
          read_iff := iff_of_true (show (REG_READ ||| RF_TYPE) &&& REG_READ ≠ 0 by decide) hread
          consumed := ⟨rfl, rfl⟩
          bb := fun h => (by cases h)
          indirect := fun h => (by cases h)
          direct_read := fun _ _ => (by simp [Frame.body]) }
    · have hfalse : (a.marked p).bbRfRw = false := by
        rw [← Bool.not_eq_true, hmark]
        exact hread
      have hwf : WellFormed p (Encoder.frame .direct (a.marked p) p) (a.marked p).consumed := by
        rw [Encoder.frame, directFrame, if_pos hfalse]
        exact wellFormed_of_len (by omega) rfl rfl (by change _ ≤ 2 * 100; omega)
          (show ([] : IndexMoves) = IndexMoves.segment 1 0 from rfl) (Nat.zero_le _)
          (show 100 ≤ 200 by decide) ((read_flags _).trans hmark)
      exact ⟨hwf, fun h => (by cases h), fun h => (by cases h), fun _ h => absurd h hread⟩
  | indirect =>
    have hle : 3 * p.noOfValues.toNat + 3 ≤ 100 := hfit
    have hlen : (p.noOfValues * 2 * 3 + 6).toNat = 2 * (3 * p.noOfValues.toNat + 3) :=
      toNat_indirect (by omega)
    have hmoves : (indirectFrame (a.marked p) p.noOfValues).moves =
        .segment 1 (3 * p.noOfValues.toNat + 3) := by
      change IndexMoves.segment 1 ((p.noOfValues * 2 * 3 + 6).toNat / 2) = _
      rw [hlen, Nat.mul_div_cancel_left _ Nat.two_pos]
    have hwf : WellFormed p (indirectFrame (a.marked p) p.noOfValues) (a.marked p).consumed :=
      wellFormed_of_len (by omega) rfl rfl (by change _ ≤ 2 * 100; omega) hmoves hle
        (show 100 ≤ 200 by decide) ((read_flags _).trans hmark)
    have hbody := body_segment hmoves
      (by change (p.noOfValues * 2 * 3 + 6).toNat + 16 = _; rw [hlen]; rfl) p.data
    exact ⟨hwf, fun h => (by cases h), fun _ => hbody, fun h => (by cases h)⟩

/-- A count that fits is small enough for the loop that prints the values. -/
theorem Fits.printEnds {e : Encoder} (h : Fits e p) : PrintEnds p.noOfValues := by
  rw [printEnds_iff]
  cases e with
  | bb | direct =>
    have : p.noOfValues.toNat ≤ _ := h
    simp only [Encoder.room] at this
    omega
  | indirect =>
    have : 3 * p.noOfValues.toNat + 3 ≤ 100 := h
    omega

/-- After any run in which the requests of an even type were served, the frame of a request whose
values fit is built as the request says. -/
theorem builtFor_of_reachable {e : Encoder} (h : system.ReachableVia Served a)
    (he : encoder p = some e) (hfit : Fits e p) :
    ∃ f a', setBbRfValues a p true = some ⟨some f, a', 0⟩ ∧ BuiltFor e p f a' :=
  ⟨_, _, setBbRfValues_of_encoder (.inr hfit.printEnds) he,
    builtFor_frame (bbRfRw_eq_false h) he hfit⟩

end Frames

/-! ## Requests -/

/-- The adapter as it is allocated. -/
def initial : Adapter := ⟨false, 0, true⟩

/-- A write of three values. -/
def bbWrite : BbRfParams := ⟨fun i => BitVec.ofNat 16 i, 0, 3, 1, 0⟩

/-- A read of three values. -/
def bbRead : BbRfParams := { bbWrite with value := 0 }

/-- A direct read of one value. -/
def directRead : BbRfParams := ⟨fun i => BitVec.ofNat 16 i, 0, 1, 6, 0x10⟩

/-- A read after a write. -/
theorem builtFor_bbRead :
    ∃ f a', setBbRfValues initial bbRead true = some ⟨some f, a', 0⟩ ∧
      BuiltFor .bb bbRead f a' := by
  have hinit : system.ReachableVia Served initial := .init ⟨rfl, rfl⟩
  have hwrite : system.step initial ⟨bbWrite, true⟩ = some initial := by decide
  exact builtFor_of_reachable (.step hinit (by decide) hwrite) (by decide) (by decide)

/-- The frame of a direct read carries nothing. -/
theorem not_forall_carries :
    ¬ ∀ (a : Adapter) (p : BbRfParams) (e : Encoder), system.Reachable a → encoder p = some e →
      Fits e p → ∃ f a', setBbRfValues a p true = some ⟨some f, a', 0⟩ ∧ Carries e p f a' := by
  intro hall
  obtain ⟨f, a', h, hc⟩ :=
    hall initial directRead .direct (.init ⟨rfl, rfl⟩) (by decide) (by decide)
  obtain rfl : directFrame (initial.marked directRead) 1 0 = f :=
    Option.some_inj.1 (congrArg Outcome.frame (Option.some_inj.1 h))
  exact absurd hc.2 (by decide)

end BbProg
