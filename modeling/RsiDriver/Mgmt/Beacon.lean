import Mathlib.Tactic.ByContra
import Mathlib.Tactic.SplitIfs
import RsiDriver.ToMathlib.ByteMemory

/-!
# The beacon frame

`rsi_prepare_beacon` (`rsi_91x_hal.c`) takes a beacon from mac80211 and puts a descriptor in front
of it. For an ACx module it first takes the country elements out of the beacon: a loop walks over
the elements behind the fixed part, and moves what stands behind a country element over it. The
index of the loop has eight bits, and the length of a beacon more.

The memory behind the beacon is part of the state, as the loop can read it; `strayed` notes that it
did.

## Main results

* `exists_bcnFrame`: every beacon is a list of elements, up to an incomplete one at its end;
* `strips_iff`: when the loop takes out the country elements and nothing else;
* `prepareBeacon_of_strips`: the frame that is then queued.
-/

namespace Beacon

/-- `BEACON_COUNTRY_IE` -/
def BEACON_COUNTRY_IE : BitVec 8 := 7

/-- `RSI_WIFI_DATA_Q << 12` with the length of a beacon. -/
def lengthWord (len : ℕ) : BitVec 16 := BitVec.ofNat 16 len ||| 5 <<< 12

/-- The state of the loop. -/
structure Strip where
  /-- The memory at `mac_bcn->data` -/
  mem : ByteMemory
  /-- `mac_bcn->len` -/
  len : ℕ
  index : BitVec 8
  descWord0 : BitVec 16
  /-- A byte behind the beacon was read. -/
  strayed : Bool

namespace Strip

/-- The id and the length byte at the index are read. -/
def look (s : Strip) : Strip :=
  { s with strayed := s.strayed || decide (s.len ≤ s.index.toNat + 1) }

/-- An element with `ieLen` bytes behind the length byte is taken out. -/
def cut (s : Strip) (ieLen : ℕ) : Strip :=
  { s with
    mem := s.mem.move s.index.toNat (s.index.toNat + (ieLen + 2))
      (s.len - (s.index.toNat + ieLen + 2))
    len := s.len - ieLen - 2
    descWord0 := lengthWord (s.len - ieLen - 2) }

/-- The index goes on behind the element. -/
def skip (s : Strip) (ieLen : BitVec 8) : Strip := { s with index := s.index + (2 + ieLen) }

end Strip

/-- What a turn of the loop comes to. -/
inductive Turn
  | done
  | next (s : Strip)
  /-- `memmove` with a negative length -/
  | oops

/-- One turn of `while (index < mac_bcn->len)`. -/
def turn (s : Strip) : Turn :=
  if s.len ≤ s.index.toNat then .done
  else
    let ieId := s.mem s.index.toNat
    let ieLen := s.mem (s.index.toNat + 1)
    if ieId = BEACON_COUNTRY_IE then
      -- `mac_bcn->len - (index + ie_len + 2)` is unsigned
      if s.len < s.index.toNat + ieLen.toNat + 2 then .oops else .next (s.look.cut ieLen.toNat)
    else .next (s.look.skip ieLen)

/-- The loop so far. -/
inductive Outcome
  | done (s : Strip)
  | more (s : Strip)
  | oops

/-- The loop, with at most `n` turns. -/
def turns : ℕ → Strip → Outcome
  | 0, s => .more s
  | n + 1, s =>
    match turn s with
    | .done => .done s
    | .oops => .oops
    | .next t => turns n t

/-- A byte behind the beacon was read or moved. -/
def Outcome.strayed : Outcome → Bool
  | .done s | .more s => s.strayed
  | .oops => true

/-! ## The function -/

/-- `conf_is_ht40_plus` and `conf_is_ht40_minus` -/
inductive Ht40
  | none
  | plus
  | minus
  deriving DecidableEq, Repr

/-- What `rsi_prepare_beacon` goes by. -/
structure BeaconConf where
  ht40 : Ht40
  /-- `common->band == NL80211_BAND_2GHZ` -/
  band2GHz : Bool
  p2pEnabled : Bool
  acxModule : Bool
  timOffset : ℕ
  deriving DecidableEq, Repr

/-- The words of the descriptor, for a beacon whose byte at `tim_offset + 2` is given. The frame
was cleared by `rsi_send_beacon`. -/
def descWords (conf : BeaconConf) (descWord0 : BitVec 16) (dtim : BitVec 8) :
    Vector (BitVec 16) 8 :=
  -- `MAC_BBP_INFO`, `NO_ACK_IND`, `BEACON_FRAME`, `INSERT_TSF`, `INSERT_SEQ_NO`
  let word3 : BitVec 16 := 0x8a05
  #v[descWord0, 0, 24 <<< 8,
    if dtim = 0 then word3 ||| 0xc00 else word3, -- `DTIM_BEACON`
    if conf.band2GHz ∧ ¬ conf.p2pEnabled then 0 else 0x8b, -- `RSI_RATE_1`, `RSI_RATE_6`
    match conf.ht40 with
    | .none => 0
    | .plus => 0x4004
    | .minus => 0x2002,
    0, 11] -- `BEACON_HW_Q`

/-- The results of `rsi_prepare_beacon`. -/
inductive BeaconResult
  /-- mac80211 has no beacon. -/
  | einval
  | ready (desc : Vector (BitVec 16) 8) (frame : List (BitVec 8))
  /-- The beacon is too long for the buffer, or `memmove` got a negative length. -/
  | overrun
  /-- The loop has not come to an end. -/
  | looping
  deriving DecidableEq

/-- The beacon behind the descriptor, in a buffer with room for `room` bytes. -/
def putBeacon (conf : BeaconConf) (room : ℕ) (dtim : BitVec 8) (s : Strip) : BeaconResult :=
  if room < s.len + 16 then .overrun
  else .ready (descWords conf s.descWord0 dtim) (s.mem.bytes 0 s.len)

/-- `rsi_prepare_beacon` with the memory and the length of the beacon that mac80211 returns, and
with at most `n` turns of the loop. -/
def prepareBeacon (conf : BeaconConf) (room : ℕ) (macBcn : Option (ByteMemory × ℕ)) (n : ℕ) :
    BeaconResult :=
  match macBcn with
  | none => .einval
  | some (mem, len) =>
    let s : Strip := ⟨mem, len, 36, lengthWord len, false⟩
    let dtim := mem (conf.timOffset + 2)
    if conf.acxModule then
      match turns n s with
      | .done s => putBeacon conf room dtim s
      | .more _ => .looping
      | .oops => .overrun
    else putBeacon conf room dtim s

/-! ## Elements -/

/-- An information element. -/
structure Ie where
  id : BitVec 8
  body : List (BitVec 8)
  length_lt : body.length < 256

/-- The bytes of an element: its id, its length and its body. -/
def Ie.bytes (e : Ie) : List (BitVec 8) := e.id :: BitVec.ofNat 8 e.body.length :: e.body

/-- A list of elements as it stands in a frame. -/
def ieBytes (es : List Ie) : List (BitVec 8) := es.flatMap Ie.bytes

/-- The elements that stay. -/
def kept (es : List Ie) : List Ie := es.filter fun e => e.id ≠ BEACON_COUNTRY_IE

/-- The elements that are taken out. -/
def countries (es : List Ie) : List Ie := es.filter fun e => e.id = BEACON_COUNTRY_IE

/-- The bytes are the beginning of an element. -/
def Truncated (l : List (BitVec 8)) : Prop := l ≠ [] ∧ ∀ n ∈ l[1]?, l.length < n.toNat + 2

/-- A beacon: the MAC header and the fixed parameters, the elements, and an incomplete element if
`rest` is not empty. -/
structure BcnFrame where
  header : List (BitVec 8)
  ies : List Ie
  rest : List (BitVec 8)
  length_header : header.length = 36
  truncated : rest ≠ [] → Truncated rest

namespace BcnFrame

variable (f : BcnFrame)

def bytes : List (BitVec 8) := f.header ++ ieBytes f.ies ++ f.rest

/-- The state in front of the loop, with the memory behind the beacon. -/
def start (behind : ByteMemory) : Strip where
  mem := behind.override f.bytes
  len := f.bytes.length
  index := 36
  descWord0 := lengthWord f.bytes.length
  strayed := false

/-- The length of the beacon without country elements and without the incomplete element. -/
def keptLen : ℕ := 36 + (ieBytes (kept f.ies)).length

/-- **The country elements are stripped**: for a list of complete elements the loop ends and leaves
the others in their order, the length is reduced by what was taken out, and the first word of the
descriptor carries it; with an incomplete element at the end no byte behind the beacon is read or
moved. -/
structure Strips (behind : ByteMemory) : Prop where
  complete : f.rest = [] → ∃ n t, turns n (f.start behind) = .done t ∧ t.strayed = false ∧
    t.mem.bytes 0 t.len = f.header ++ ieBytes (kept f.ies) ∧
    t.len + (ieBytes (countries f.ies)).length = f.bytes.length ∧
    (t.descWord0 &&& 0xfff).toNat = t.len
  truncated : f.rest ≠ [] → ∀ n, (turns n (f.start behind)).strayed = false

/-- The index of the loop does not wrap before it comes to the end of the beacon. -/
def NoWrap : Prop :=
  f.keptLen ≤ 255 ∧ ∀ id n body, f.rest = id :: n :: body → id ≠ BEACON_COUNTRY_IE →
    f.keptLen + 2 + n.toNat ≤ 255

/-- What is left of the beacon has at most 255 bytes, and an incomplete element has a length byte,
is not a country element, and would end within 255 bytes. -/
def Strippable : Prop :=
  f.keptLen ≤ 255 ∧ (f.rest = [] ∨ ∃ id n body, f.rest = id :: n :: body ∧
    id ≠ BEACON_COUNTRY_IE ∧ f.keptLen + 2 + n.toNat ≤ 255)

end BcnFrame

/-! ## Elements in memory -/

@[simp]
theorem Ie.length_bytes (e : Ie) : e.bytes.length = e.body.length + 2 := rfl

@[simp]
theorem ieBytes_nil : ieBytes [] = [] := rfl

@[simp]
theorem ieBytes_cons (e : Ie) (es : List Ie) : ieBytes (e :: es) = e.bytes ++ ieBytes es := by
  simp [ieBytes]

/-- The length byte of an element. -/
theorem Ie.toNat_length (e : Ie) : (BitVec.ofNat 8 e.body.length).toNat = e.body.length := by
  rw [BitVec.toNat_ofNat]
  exact Nat.mod_eq_of_lt e.length_lt

theorem length_kept_add_countries (es : List Ie) :
    (ieBytes (kept es)).length + (ieBytes (countries es)).length = (ieBytes es).length := by
  induction es with
  | nil => rfl
  | cons e es ih =>
    by_cases he : e.id = BEACON_COUNTRY_IE
    · have hkept : kept (e :: es) = kept es := List.filter_cons_of_neg (by simp [he])
      have hout : countries (e :: es) = e :: countries es := List.filter_cons_of_pos (by simp [he])
      rw [hkept, hout]
      simp only [ieBytes_cons, List.length_append]
      omega
    · have hkept : kept (e :: es) = e :: kept es := List.filter_cons_of_pos (by simp [he])
      have hout : countries (e :: es) = countries es := List.filter_cons_of_neg (by simp [he])
      rw [hkept, hout]
      simp only [ieBytes_cons, List.length_append]
      omega

/-- Every string of bytes is a list of elements, up to an incomplete one at its end. -/
theorem exists_ies : ∀ l : List (BitVec 8),
    ∃ es rest, l = ieBytes es ++ rest ∧ (rest ≠ [] → Truncated rest)
  | [] => ⟨[], [], rfl, fun h => absurd rfl h⟩
  | [x] => ⟨[], [x], rfl, fun h => ⟨h, by simp⟩⟩
  | x :: k :: l => by
    by_cases hk : k.toNat ≤ l.length
    · -- the first element is complete
      have hbody : (l.take k.toNat).length = k.toNat := List.length_take_of_le hk
      obtain ⟨es, rest, heq, hrest⟩ := exists_ies (l.drop k.toNat)
      refine ⟨⟨x, l.take k.toNat, by rw [hbody]; exact k.isLt⟩ :: es, rest, ?_, hrest⟩
      rw [ieBytes_cons, List.append_assoc, ← heq, Ie.bytes]
      simp [hbody]
    · refine ⟨[], x :: k :: l, rfl, fun h => ⟨h, ?_⟩⟩
      intro m hm
      obtain rfl : k = m := Option.some.inj hm
      simp only [List.length_cons]
      omega
termination_by l => l.length
decreasing_by
  simp only [List.length_drop, List.length_cons]
  omega

/-- Every beacon from the shortest one on. -/
theorem exists_bcnFrame (l : List (BitVec 8)) (h : 36 ≤ l.length) :
    ∃ f : BcnFrame, f.bytes = l := by
  obtain ⟨es, rest, heq, hrest⟩ := exists_ies (l.drop 36)
  refine ⟨⟨l.take 36, es, rest, List.length_take_of_le h, hrest⟩, ?_⟩
  rw [BcnFrame.bytes, List.append_assoc, ← heq]
  exact List.take_append_drop 36 l

/-! ## The loop -/

theorem turn_eq_done_iff {s : Strip} : turn s = .done ↔ s.len ≤ s.index.toNat := by
  unfold turn
  dsimp only
  split_ifs with h <;> simp [h]

/-- The loop has come to the element behind `pre`; `es` and `rest` are still to come. -/
structure At (pre : List (BitVec 8)) (es : List Ie) (rest : List (BitVec 8)) (s : Strip) :
    Prop where
  holds : s.mem.Holds 0 (pre ++ (ieBytes es ++ rest))
  len : s.len = pre.length + ((ieBytes es).length + rest.length)
  index : s.index.toNat = pre.length
  word : s.descWord0 = lengthWord s.len
  strayed : s.strayed = false

namespace At

variable {pre : List (BitVec 8)} {e : Ie} {es : List Ie} {rest : List (BitVec 8)} {s : Strip}

/-- The two bytes that the loop looks at. -/
theorem mem_eq (h : At pre (e :: es) rest s) :
    s.mem s.index.toNat = e.id ∧ (s.mem (s.index.toNat + 1)).toNat = e.body.length := by
  have hall := (ByteMemory.holds_append.1 h.holds).2
  rw [ieBytes_cons, List.append_assoc, ByteMemory.holds_append] at hall
  have hid := hall.1 0 (by simp)
  have hlen := hall.1 1 (by simp)
  rw [Nat.zero_add] at hid hlen
  rw [h.index]
  refine ⟨hid, ?_⟩
  rw [hlen]
  exact e.toNat_length

/-- The whole element stands in front of the end. -/
theorem len_eq (h : At pre (e :: es) rest s) :
    s.len = s.index.toNat + (e.body.length + 2) + ((ieBytes es).length + rest.length) := by
  rw [h.len, h.index, ieBytes_cons, List.length_append, e.length_bytes]
  omega

/-- The loop goes on, and it reads the element's own bytes. -/
theorem in_frame (h : At pre (e :: es) rest s) : ¬ s.len ≤ s.index.toNat ∧ s.look = s := by
  have hlen := h.len_eq
  have hbyte : ¬ s.len ≤ s.index.toNat + 1 := by omega
  refine ⟨by omega, ?_⟩
  simp [Strip.look, hbyte]

/-- A country element is taken out. -/
theorem turn_country (h : At pre (e :: es) rest s) (he : e.id = BEACON_COUNTRY_IE) :
    turn s = .next (s.cut e.body.length) ∧ At pre es rest (s.cut e.body.length) := by
  obtain ⟨hid, hieLen⟩ := h.mem_eq
  obtain ⟨hin, hlook⟩ := h.in_frame
  have hlen := h.len_eq
  constructor
  · have hmove : ¬ s.len < s.index.toNat + e.body.length + 2 := by omega
    simp only [turn, hin, hid, he, hieLen, hmove, hlook, if_true, if_false]
  · have hrest : s.len - (s.index.toNat + e.body.length + 2) = (ieBytes es ++ rest).length := by
      rw [List.length_append]
      omega
    have hholds := h.holds
    rw [ieBytes_cons, List.append_assoc, ← List.append_assoc] at hholds
    constructor
    · show (s.mem.move _ _ _).Holds 0 _
      rw [hrest, h.index, ← e.length_bytes]
      exact hholds.close_gap
    · show s.len - e.body.length - 2 = _
      rw [← h.index]
      omega
    · exact h.index
    · rfl
    · exact h.strayed

/-- The loop goes on behind another element, as long as the index does not wrap. -/
theorem turn_kept (h : At pre (e :: es) rest s) (he : e.id ≠ BEACON_COUNTRY_IE)
    (hwrap : pre.length + e.bytes.length ≤ 255) :
    ∃ t, turn s = .next t ∧ At (pre ++ e.bytes) es rest t := by
  obtain ⟨hid, hieLen⟩ := h.mem_eq
  obtain ⟨hin, hlook⟩ := h.in_frame
  have hlen := h.len_eq
  have hindex := h.index
  refine ⟨s.skip (s.mem (s.index.toNat + 1)), ?_, ?_, ?_, ?_, h.word, h.strayed⟩
  · simp only [turn, hin, hid, he, hlook, if_false]
  · have hholds := h.holds
    rwa [ieBytes_cons, List.append_assoc, ← List.append_assoc] at hholds
  · show s.len = _
    rw [hlen, hindex, List.length_append, e.length_bytes]
  · rw [e.length_bytes] at hwrap
    show (s.index + (2 + s.mem (s.index.toNat + 1))).toNat = _
    rw [List.length_append, e.length_bytes, BitVec.toNat_add, BitVec.toNat_add, hieLen]
    show (_ + (2 + _) % 2 ^ 8) % 2 ^ 8 = _
    omega

/-- The loop comes to the end of the list. -/
theorem turns_ies (h : At pre es rest s) (hwrap : pre.length + (ieBytes (kept es)).length ≤ 255) :
    ∃ t, At (pre ++ ieBytes (kept es)) [] rest t ∧
      ∀ n, turns (es.length + n) s = turns n t := by
  induction es generalizing pre s with
  | nil =>
    refine ⟨s, ?_, fun n => by rw [List.length_nil, Nat.zero_add]⟩
    rw [show ieBytes (kept []) = [] from rfl, List.append_nil]
    exact h
  | cons e es ih =>
    by_cases he : e.id = BEACON_COUNTRY_IE
    · have hkept : kept (e :: es) = kept es := List.filter_cons_of_neg (by simp [he])
      rw [hkept] at hwrap ⊢
      obtain ⟨hturn, ht⟩ := h.turn_country he
      obtain ⟨u, hu, hrun⟩ := ih ht hwrap
      refine ⟨u, hu, fun n => ?_⟩
      rw [List.length_cons, Nat.add_right_comm, turns, hturn]
      exact hrun n
    · have hkept : kept (e :: es) = e :: kept es := List.filter_cons_of_pos (by simp [he])
      rw [hkept, ieBytes_cons] at hwrap ⊢
      rw [List.length_append] at hwrap
      obtain ⟨t, hturn, ht⟩ := h.turn_kept he (by omega)
      obtain ⟨u, hu, hrun⟩ := ih ht (by rw [List.length_append]; omega)
      rw [List.append_assoc] at hu
      refine ⟨u, hu, fun n => ?_⟩
      rw [List.length_cons, Nat.add_right_comm, turns, hturn]
      exact hrun n

/-- Without an incomplete element the loop ends there. -/
theorem turn_end (h : At pre [] [] s) : turn s = .done := by
  have hlen := h.len
  rw [turn_eq_done_iff, h.index, hlen]
  exact Nat.le_refl _

/-- The two bytes of an incomplete element that the loop looks at. -/
theorem mem_rest {id k : BitVec 8} {body : List (BitVec 8)} (h : At pre [] (id :: k :: body) s) :
    s.mem s.index.toNat = id ∧ s.mem (s.index.toNat + 1) = k := by
  have hall := (ByteMemory.holds_append.1 h.holds).2
  have hid := hall 0 (by simp)
  have hlen := hall 1 (by simp)
  rw [Nat.zero_add] at hid hlen
  rw [h.index]
  exact ⟨hid, hlen⟩

/-- An incomplete element is skipped if the index does not wrap. -/
theorem turns_skip {id k : BitVec 8} {body : List (BitVec 8)} (h : At pre [] (id :: k :: body) s)
    (hid : id ≠ BEACON_COUNTRY_IE) (hshort : body.length < k.toNat)
    (hwrap : pre.length + 2 + k.toNat ≤ 255) : turns 2 s = .done (s.skip k) := by
  obtain ⟨hmem, hk⟩ := h.mem_rest
  have hlen := h.len
  have hindex := h.index
  simp only [ieBytes_nil, List.length_nil, List.length_cons, Nat.zero_add] at hlen
  have hin : ¬ s.len ≤ s.index.toNat := by omega
  have hbyte : ¬ s.len ≤ s.index.toNat + 1 := by omega
  have hlook : s.look = s := by simp [Strip.look, hbyte]
  have hturn : turn s = .next (s.skip k) := by
    simp only [turn, hin, hmem, hid, hk, hlook, if_false]
  have hend : turn (s.skip k) = .done := by
    rw [turn_eq_done_iff]
    show s.len ≤ (s.index + (2 + k)).toNat
    rw [BitVec.toNat_add, BitVec.toNat_add, hlen]
    show _ ≤ (_ + (2 + _) % 2 ^ 8) % 2 ^ 8
    omega
  simp only [turns, hturn, hend]

/-- An element without a length byte, or an incomplete country element, leads out of the beacon. -/
theorem strayed_of_rest (h : At pre [] rest s) (hrest : Truncated rest)
    (hbad : ∀ id k body, rest = id :: k :: body → id = BEACON_COUNTRY_IE) :
    (turns 1 s).strayed = true := by
  have hlen := h.len
  have hindex := h.index
  obtain ⟨hne, hshort⟩ := hrest
  match rest, hne with
  | [x], _ =>
    -- the length byte stands behind the beacon
    simp only [ieBytes_nil, List.length_nil, List.length_cons, Nat.zero_add] at hlen
    have hin : ¬ s.len ≤ s.index.toNat := by omega
    have hbyte : s.len ≤ s.index.toNat + 1 := by omega
    have hlook : s.look.strayed = true := by simp [Strip.look, hbyte]
    unfold turns turn
    dsimp only
    rw [if_neg hin]
    split_ifs
    · rfl
    · exact hlook
    · exact hlook
  | id :: k :: body, _ =>
    obtain ⟨hmem, hk⟩ := h.mem_rest
    have hcountry : id = BEACON_COUNTRY_IE := hbad id k body rfl
    have hshort := hshort k (by simp)
    simp only [ieBytes_nil, List.length_nil, List.length_cons, Nat.zero_add] at hlen hshort
    have hin : ¬ s.len ≤ s.index.toNat := by omega
    have hout : s.len < s.index.toNat + k.toNat + 2 := by omega
    have hturn : turn s = .oops := by
      simp only [turn, hin, hmem, hcountry, hk, hout, if_true, if_false]
    simp only [turns, hturn]
    rfl

end At

/-- The loop ends only with the index behind the beacon. -/
theorem len_le_of_done {n : ℕ} {s t : Strip} (h : turns n s = .done t) :
    t.len ≤ t.index.toNat := by
  induction n generalizing s with
  | zero => cases h
  | succ n ih =>
    rw [turns] at h
    cases hturn : turn s with
    | done =>
      rw [hturn] at h
      obtain rfl : s = t := Outcome.done.inj h
      exact turn_eq_done_iff.1 hturn
    | next u =>
      rw [hturn] at h
      exact ih h
    | oops =>
      rw [hturn] at h
      cases h

/-- Once the loop has strayed it stays so. -/
theorem strayed_turns_of_strayed {s : Strip} (h : s.strayed = true) (n : ℕ) :
    (turns n s).strayed = true := by
  induction n generalizing s with
  | zero => exact h
  | succ n ih =>
    have hlook : s.look.strayed = true := by simp [Strip.look, h]
    rw [turns]
    unfold turn
    dsimp only
    split_ifs
    · exact h
    · rfl
    · exact ih hlook
    · exact ih hlook

theorem strayed_turns_add {s : Strip} {n : ℕ} (h : (turns n s).strayed = true) (k : ℕ) :
    (turns (n + k) s).strayed = true := by
  induction n generalizing s with
  | zero =>
    rw [Nat.zero_add]
    exact strayed_turns_of_strayed h k
  | succ n ih =>
    rw [turns] at h
    rw [Nat.add_right_comm, turns]
    cases hturn : turn s with
    | done =>
      rw [hturn] at h
      exact h
    | next u =>
      rw [hturn] at h
      exact ih h
    | oops => rfl

/-- A loop that has come to its end goes no further. -/
theorem turns_add_of_done {s t : Strip} {n : ℕ} (h : turns n s = .done t) (k : ℕ) :
    turns (n + k) s = .done t := by
  induction n generalizing s with
  | zero => cases h
  | succ n ih =>
    rw [turns] at h
    rw [Nat.add_right_comm, turns]
    cases hturn : turn s with
    | done =>
      rw [hturn] at h
      exact h
    | next u =>
      rw [hturn] at h
      exact ih h
    | oops =>
      rw [hturn] at h
      cases h

/-- A loop that ends without having strayed has not strayed before. -/
theorem strayed_turns_of_done {s t : Strip} {n : ℕ} (h : turns n s = .done t)
    (ht : t.strayed = false) (k : ℕ) : (turns k s).strayed = false := by
  rw [Bool.eq_false_iff]
  intro hk
  have hend := strayed_turns_add hk n
  rw [Nat.add_comm, turns_add_of_done h k] at hend
  rw [show t.strayed = true from hend] at ht
  cases ht

/-! ## When the country elements are stripped -/

namespace BcnFrame

variable (f : BcnFrame) (behind : ByteMemory)

/-- The loop starts behind the fixed part. -/
theorem at_start : At f.header f.ies f.rest (f.start behind) := by
  constructor
  · rw [← List.append_assoc]
    exact ByteMemory.holds_override behind f.bytes
  · show f.bytes.length = _
    rw [bytes, List.append_assoc, List.length_append, List.length_append]
  · rw [f.length_header]
    rfl
  · rfl
  · rfl

/-- The length of the beacon in the first word of its descriptor. -/
theorem toNat_lengthWord {len : ℕ} (h : len ≤ 255) : (lengthWord len &&& 0xfff).toNat = len := by
  show (len % 2 ^ 16 ||| 5 * 2 ^ 12) &&& (2 ^ 12 - 1) = len
  rw [Nat.and_two_pow_sub_one_eq_mod, Nat.or_mod_two_pow, Nat.mul_mod_left, Nat.or_zero]
  omega

theorem length_header_kept : (f.header ++ ieBytes (kept f.ies)).length = f.keptLen := by
  rw [List.length_append, f.length_header]
  rfl

variable {f behind} in
/-- The loop ends only with an index of eight bits behind the beacon. -/
theorem keptLen_le_of_strips (hnil : f.rest = []) (h : f.Strips behind) : f.keptLen ≤ 255 := by
  obtain ⟨n, t, hdone, -, hbytes, -, -⟩ := h.complete hnil
  have hlen := congrArg List.length hbytes
  rw [ByteMemory.length_bytes, length_header_kept] at hlen
  have hend := len_le_of_done hdone
  have hindex := t.index.isLt
  omega

/-- The loop comes to the end of the elements. -/
theorem exists_at_rest (hlen : f.keptLen ≤ 255) :
    ∃ t, At (f.header ++ ieBytes (kept f.ies)) [] f.rest t ∧
      ∀ n, turns (f.ies.length + n) (f.start behind) = turns n t := by
  have hwrap : f.header.length + (ieBytes (kept f.ies)).length ≤ 255 := by
    rw [← List.length_append, f.length_header_kept]
    exact hlen
  exact (f.at_start behind).turns_ies hwrap

theorem strips_of_strippable (h : f.Strippable) : f.Strips behind := by
  obtain ⟨hlen, hrest⟩ := h
  have hkept := f.length_header_kept
  obtain ⟨t, ht, hrun⟩ := f.exists_at_rest behind hlen
  have htlen := ht.len
  rw [hkept] at htlen
  constructor
  · -- all elements are complete
    intro hnil
    rw [hnil] at ht htlen
    simp only [ieBytes_nil, List.length_nil, Nat.add_zero] at htlen
    refine ⟨f.ies.length + 1, t, ?_, ht.strayed, ?_, ?_, ?_⟩
    · rw [hrun, turns, ht.turn_end]
    · have hholds := ht.holds
      rw [ieBytes_nil, List.append_nil, List.append_nil] at hholds
      rw [htlen, ← hkept]
      exact hholds.bytes_eq
    · have hsum := length_kept_add_countries f.ies
      rw [htlen, bytes, hnil, List.append_nil, List.length_append, f.length_header, keptLen]
      omega
    · rw [ht.word]
      exact toNat_lengthWord (by omega)
  · intro hne
    rcases hrest with hnil | ⟨id, k, body, heq, hid, hwrap⟩
    · exact absurd hnil hne
    · -- the incomplete element is skipped
      obtain ⟨-, hshort⟩ := f.truncated hne
      rw [heq] at ht hshort
      have hshort := hshort k (by simp)
      simp only [List.length_cons] at hshort
      have hdone := ht.turns_skip hid (by omega) (by rw [hkept]; exact hwrap)
      rw [← hrun] at hdone
      exact strayed_turns_of_done hdone ht.strayed

variable {f behind} in
/-- The loop comes to an incomplete element, and strays if that is a country element or has no
length byte. -/
theorem strippable_of_strips (hdom : f.rest = [] ∨ f.NoWrap) (h : f.Strips behind) :
    f.Strippable := by
  by_cases hnil : f.rest = []
  · exact ⟨keptLen_le_of_strips hnil h, .inl hnil⟩
  · obtain ⟨hlen, hwrap⟩ := hdom.resolve_left hnil
    refine ⟨hlen, .inr ?_⟩
    obtain ⟨t, ht, hrun⟩ := f.exists_at_rest behind hlen
    by_contra hbad
    have hstray := ht.strayed_of_rest (f.truncated hnil) fun id k body heq => by
      by_contra hid
      exact hbad ⟨id, k, body, heq, hid, hwrap id k body heq hid⟩
    rw [← hrun, h.truncated hnil] at hstray
    cases hstray

/-- **Stripping**: what is enough, and what is necessary unless an incomplete element makes the
index wrap. -/
theorem strips_iff :
    (f.Strippable → f.Strips behind) ∧
      (f.rest = [] ∨ f.NoWrap → f.Strips behind → f.Strippable) := by
  constructor
  · exact f.strips_of_strippable behind
  · exact strippable_of_strips

/-- An element with a body of 218 bytes. -/
def longIe : Ie := ⟨221, List.replicate 218 0, by rw [List.length_replicate]; omega⟩

/-- A beacon of 256 bytes, with nothing to take out. -/
def long : BcnFrame where
  header := List.replicate 36 0
  ies := [longIe]
  rest := []
  length_header := List.length_replicate
  truncated h := absurd rfl h

/-- The loop does not come to an end behind it. -/
theorem not_strips : ¬ ∀ (f : BcnFrame) (behind : ByteMemory), f.Strips behind := by
  intro hall
  have hle := keptLen_le_of_strips (f := long) rfl (hall long fun _ => 0)
  have hkept : kept long.ies = [longIe] := rfl
  have hbody : longIe.body.length = 218 := List.length_replicate
  rw [keptLen, hkept, ieBytes_cons, ieBytes_nil, List.append_nil, Ie.length_bytes, hbody] at hle
  exact absurd hle (by decide)

variable {f behind}

/-- The frame that is queued for an ACx module: the header and the elements other than country
elements, with their length in the descriptor. -/
theorem prepareBeacon_of_strips {conf : BeaconConf} (hacx : conf.acxModule = true)
    (hnil : f.rest = []) (h : f.Strips behind) {room : ℕ} (hroom : f.keptLen + 16 ≤ room) :
    ∃ n word0, prepareBeacon conf room (some (behind.override f.bytes, f.bytes.length)) n =
        .ready (descWords conf word0 (behind.override f.bytes (conf.timOffset + 2)))
          (f.header ++ ieBytes (kept f.ies)) ∧
      (word0 &&& 0xfff).toNat = f.keptLen := by
  obtain ⟨n, t, hdone, -, hbytes, -, hword⟩ := h.complete hnil
  have hlen : t.len = f.keptLen := by
    have := congrArg List.length hbytes
    rwa [ByteMemory.length_bytes, length_header_kept] at this
  refine ⟨n, t.descWord0, ?_, hword.trans hlen⟩
  have hrun : turns n ⟨behind.override f.bytes, f.bytes.length, 36, lengthWord f.bytes.length,
    false⟩ = .done t := hdone
  rw [← hlen] at hroom
  simp only [prepareBeacon, hacx, if_true, hrun, putBeacon, Nat.not_lt.2 hroom, if_false, hbytes]

end BcnFrame

end Beacon
