import RsiDriver.Rx.Bounds

/-!
# Aggregated packets come back

The device writes several packets one behind the other into one transfer and fills the last block
with zeros. `Packet` is a packet as the device makes it, `stream` is the contents of the transfer,
and `RoundTrip` says that `rsi_read_pkt` undoes this: it passes on these packets in their order,
each once, to the handler of its queue.

The bytes behind the end of the transfer are arbitrary. A packet header has four bytes, and the loop
goes on as long as any byte is left: with one, two or three zeros behind the last packet, a part of
the header comes from behind the end. The place of the payload is computed in eight bits, so that
an extended descriptor of 240 bytes or more makes it wrap around.

## Main results

* `dispatch_delivery`: what the switch makes of one packet;
* `roundTrip_iff`: when the packets come back;
* `not_roundTrip`: one packet with two zeros behind it.
-/

namespace Rx

/-- What a handler is given: the packet from its descriptor on or, for `rsi_indicate_pkt_to_os`, the
data of the new buffer. -/
inductive Delivery
  | packet (handler : Handler) (bytes : List (BitVec 8))
  | payload (bytes : List (BitVec 8))
  deriving DecidableEq, Repr

/-- What the handler of a packet is given. -/
def Dispatch.delivery : Dispatch → Delivery
  | .handOn handler packet => .packet handler packet
  | .data _ skb => .payload skb.data

/-! ## What the device writes -/

/-- A packet for a queue that the build knows. -/
structure Packet (b : Build) where
  /-- The bytes between the header and the descriptor. -/
  filler : List (BitVec 8)
  desc : List (BitVec 8)
  /-- What the length field counts: for a data packet the extended descriptor and the payload. -/
  body : List (BitVec 8)
  padding : List (BitVec 8)
  route : Route
  desc_length : desc.length = FRAME_DESC_SZ
  route_eq : b.route (queueno (.ofList desc) 0) = some route
  body_length : body.length = (length (.ofList desc) 0).toNat
  ext_le : route = .data → (extendedDesc (.ofList desc) 0).toNat ≤ body.length
  actual_lt : 4 + filler.length + (desc ++ body).length + padding.length < 2 ^ 16

namespace Packet

variable {b : Build} (p : Packet b)

/-- The number of bytes of the packet. -/
def actualLength : ℕ := 4 + p.filler.length + (p.desc ++ p.body).length + p.padding.length

/-- The place of the descriptor in the packet. -/
def offset : ℕ := 4 + p.filler.length

/-- The size of the extended descriptor. -/
def ext : ℕ := (extendedDesc (.ofList p.desc) 0).toNat

/-- The bytes after the extended descriptor. -/
def payload : List (BitVec 8) := p.body.drop p.ext

/-- The bytes that are 256 places before the payload. -/
def wrapped : List (BitVec 8) :=
  ((p.desc ++ p.body).drop (p.ext + FRAME_DESC_SZ - 256)).take (p.body.length - p.ext)

/-- The bytes of the packet. -/
def encode : List (BitVec 8) :=
  ByteMemory.le16Bytes p.actualLength ++ (ByteMemory.le16Bytes p.offset ++
    (p.filler ++ ((p.desc ++ p.body) ++ p.padding)))

/-- What the handler of the packet is to be given. -/
def delivery : Delivery :=
  match p.route with
  | .handOn handler => .packet handler (p.desc ++ p.body)
  | .zigb => .packet .zigb (p.desc ++ p.body)
  | .data => .payload p.payload

theorem length_encode : p.encode.length = p.actualLength := by
  simp [encode, actualLength, ByteMemory.le16Bytes]
  omega

theorem actualLength_ge : 20 ≤ p.actualLength := by
  have hdesc := p.desc_length
  rw [FRAME_DESC_SZ] at hdesc
  rw [actualLength, List.length_append]
  omega

/-- Below 240 bytes of extended descriptor, the place of the payload does not wrap around. -/
theorem copied_eq_iff :
    ((p.desc ++ p.body).drop ((p.ext + 16) % 256)).take (p.body.length - p.ext) = p.payload ↔
      p.ext < 240 ∨ p.wrapped = p.payload := by
  -- `payload_offset` has eight bits, and 16 is added to the size
  have hlt : p.ext < 256 := (extendedDesc (.ofList p.desc) 0).isLt
  by_cases hsmall : p.ext < 240
  · have hdrop : (p.desc ++ p.body).drop (p.ext + 16) = p.payload := by
      rw [show p.ext + 16 = p.desc.length + p.ext by
        rw [p.desc_length, FRAME_DESC_SZ, Nat.add_comm], List.drop_length_add_append]
      rfl
    have hlen : p.payload.length = p.body.length - p.ext := List.length_drop
    rw [Nat.mod_eq_of_lt (by omega), hdrop, ← hlen, List.take_length]
    simp [hsmall]
  · have hmod : (p.ext + 16) % 256 = p.ext + FRAME_DESC_SZ - 256 := by
      rw [FRAME_DESC_SZ]
      omega
    rw [hmod, ← wrapped]
    simp [hsmall]

end Packet

/-- A transfer: the packets, and `pad` zeros up to the end of the last block. -/
def stream {b : Build} (ps : List (Packet b)) (pad : ℕ) : List (BitVec 8) :=
  ps.flatMap Packet.encode ++ List.replicate pad 0

theorem stream_cons {b : Build} (p : Packet b) (ps : List (Packet b)) (pad : ℕ) :
    stream (p :: ps) pad = p.encode ++ stream ps pad := by
  rw [stream, stream, List.flatMap_cons, List.append_assoc]

theorem length_stream_nil {b : Build} (pad : ℕ) :
    (stream ([] : List (Packet b)) pad).length = pad := List.length_replicate

theorem length_stream_cons {b : Build} (p : Packet b) (ps : List (Packet b)) (pad : ℕ) :
    (stream (p :: ps) pad).length = p.actualLength + (stream ps pad).length := by
  rw [stream_cons, List.length_append, p.length_encode]

/-- The packets come back: whatever stands behind the transfer, the call returns 0 and has passed on
these packets. -/
def RoundTrip (b : Build) (env : Env) (ps : List (Packet b)) (pad : ℕ) : Prop :=
  ∀ m : ByteMemory, m.Holds 0 (stream ps pad) →
    ∃ fuel o, readPkt b env m (stream ps pad).length fuel = some o ∧ o.status = 0 ∧
      o.dispatched.map Dispatch.delivery = ps.map Packet.delivery

/-! ## One packet -/

section OnePacket

variable {b : Build} {env : Env} {m : ByteMemory} {i : ℕ} {p : Packet b}

/-- The copy of a data packet at `i` holds its payload. -/
def DataOk (env : Env) (i : ℕ) (p : Packet b) : Prop :=
  p.route = .data → p.body ≠ [] ∧ env.alloc i = true ∧ (p.ext < 240 ∨ p.wrapped = p.payload)

theorem actualLength_eq (h : m.Holds i p.encode) : actualLength m i = p.actualLength :=
  (ByteMemory.holds_append.1 h).1.le16_toNat p.actual_lt

theorem offset_eq (h : m.Holds i p.encode) : offset m i = p.offset := by
  -- the second number of the header
  refine (ByteMemory.holds_append.1 (ByteMemory.holds_append.1 h).2).1.le16_toNat ?_
  have := p.actual_lt
  rw [Packet.offset]
  omega

theorem holds_desc (h : m.Holds i p.encode) : m.Holds (descOf m i) (p.desc ++ p.body) := by
  have hoffset := offset_eq h
  -- the header has two numbers, and the filler stands between it and the descriptor
  have hrest := (ByteMemory.holds_append.1 (ByteMemory.holds_append.1 h).2).2
  have hdesc := (ByteMemory.holds_append.1 (ByteMemory.holds_append.1 hrest).2).1
  have hplace : i + (ByteMemory.le16Bytes p.actualLength).length +
      (ByteMemory.le16Bytes p.offset).length + p.filler.length = descOf m i := by
    rw [descOf, hoffset, Packet.offset]
    simp only [ByteMemory.le16Bytes, List.length_cons, List.length_nil]
    omega
  rwa [hplace] at hdesc

/-- The fields of the descriptor are those of the packet. -/
theorem apply_desc (h : m.Holds i p.encode) {k : ℕ} (hk : k < 16) :
    m (descOf m i + k) = ByteMemory.ofList p.desc k := by
  have hdesc := (ByteMemory.holds_append.1 (holds_desc h)).1
  have := hdesc.eq_of_holds (ByteMemory.holds_ofList p.desc)
    (by rw [p.desc_length]; exact hk)
  rwa [Nat.zero_add] at this

theorem le16_desc (h : m.Holds i p.encode) :
    m.le16 (descOf m i) = (ByteMemory.ofList p.desc).le16 0 := by
  -- both bytes of the first word
  have hlow := apply_desc h (k := 0) (by decide)
  have hhigh := apply_desc h (k := 1) (by decide)
  rw [Nat.add_zero] at hlow
  rw [ByteMemory.le16, ByteMemory.le16, hlow, hhigh]

theorem queueno_eq (h : m.Holds i p.encode) :
    queueno m (descOf m i) = queueno (.ofList p.desc) 0 := by
  rw [queueno, queueno, le16_desc h]

theorem length_eq (h : m.Holds i p.encode) :
    (length m (descOf m i)).toNat = p.body.length := by
  rw [p.body_length, length, length, le16_desc h]

theorem extendedDesc_eq (h : m.Holds i p.encode) :
    (extendedDesc m (descOf m i)).toNat = p.ext := by
  rw [Packet.ext, extendedDesc, extendedDesc, apply_desc h (by decide)]

theorem headerOk_of_holds (h : m.Holds i p.encode) : HeaderOk m i := by
  refine .inr ⟨?_, ?_⟩
  · rw [actualLength_eq h]
    exact p.actualLength_ge
  · rw [offset_eq h]
    exact Nat.le_add_right _ _

/-- A packet that is handed on as it is: the descriptor, and as much as its length field says. -/
theorem handOn_of_holds (h : m.Holds i p.encode) (handler : Handler) :
    (handOn m (descOf m i) handler).1 = .handOn handler (p.desc ++ p.body) := by
  have hlen : FRAME_DESC_SZ + (length m (descOf m i)).toNat = (p.desc ++ p.body).length := by
    rw [length_eq h, List.length_append, p.desc_length]
  rw [handOn, hlen, (holds_desc h).bytes_eq]

variable (env) in
/-- The payload of a data packet. -/
theorem prepareSkb_of_holds (h : m.Holds i p.encode) (hext : p.ext ≤ p.body.length) :
    (∃ skb, (prepareSkb env m (descOf m i) (length m (descOf m i)).toNat
        (extendedDesc m (descOf m i)) (env.alloc i)).1 = some skb ∧ skb.data = p.payload) ↔
      p.body ≠ [] ∧ env.alloc i = true ∧ (p.ext < 240 ∨ p.wrapped = p.payload) := by
  -- a packet without a body is a dummy packet
  have hbody : (length m (descOf m i)).toNat = 0 ↔ p.body = [] := by
    rw [length_eq h, List.length_eq_zero_iff]
  have hsize : (payloadLen (length m (descOf m i)).toNat (extendedDesc m (descOf m i))).toNat =
      p.body.length - p.ext := by
    rw [payloadLen_of_le (length_le m _) (by rwa [length_eq h, extendedDesc_eq h]), length_eq h,
      extendedDesc_eq h]
  have hcopied : m.bytes (descOf m i + (payloadOffset (extendedDesc m (descOf m i))).toNat)
      (p.body.length - p.ext) =
        ((p.desc ++ p.body).drop ((p.ext + 16) % 256)).take (p.body.length - p.ext) := by
    rw [payloadOffset_toNat, extendedDesc_eq h]
    refine (holds_desc h).bytes_drop_take ?_
    -- also when it wraps around, the place is not behind the payload
    have hmod := Nat.mod_le (p.ext + 16) 256
    rw [List.length_append, p.desc_length, FRAME_DESC_SZ]
    omega
  unfold prepareSkb
  by_cases hempty : p.body = []
  · simp [hbody.2 hempty, hempty]
  · rw [if_neg (mt hbody.1 hempty)]
    cases halloc : env.alloc i with
    | false => simp
    | true => simp [hempty, hsize, hcopied, p.copied_eq_iff]

/-- What the switch makes of one packet: its handler is given what it is to be given, unless the
packet is a data packet whose copy fails or starts at the wrong place. -/
theorem dispatch_delivery (h : m.Holds i p.encode) :
    (∃ d, (dispatch b env m i (descOf m i) (extendedDesc m (descOf m i))).1 = some d ∧
        d.delivery = p.delivery) ↔ DataOk env i p := by
  have hroute : b.route (queueno m (descOf m i)) = some p.route := by
    rw [queueno_eq h, p.route_eq]
  unfold dispatch DataOk Packet.delivery
  rw [hroute]
  cases hp : p.route with
  | handOn handler => simp [handOn_of_holds h, Dispatch.delivery]
  | zigb => simp [handOn_of_holds h, Dispatch.delivery]
  | data =>
    have hskb := prepareSkb_of_holds env h (p.ext_le hp)
    constructor
    · rintro ⟨d, hd, hdelivery⟩ -
      obtain ⟨skb, hsome, rfl⟩ := Option.map_eq_some_iff.1 hd
      exact hskb.1 ⟨skb, hsome, Delivery.payload.inj hdelivery⟩
    · intro hok
      obtain ⟨skb, hsome, hdata⟩ := hskb.2 (hok rfl)
      refine ⟨.data (value m (descOf m i)) skb, ?_, congrArg Delivery.payload hdata⟩
      exact congrArg (Option.map (Dispatch.data _)) hsome

end OnePacket

/-! ## The loop over a transfer -/

section Loop

variable {b : Build} {env : Env} {m : ByteMemory} {pad : ℕ}

/-- The copies of all data packets hold their payloads; the first packet is at `i`. -/
def AllDataOk (env : Env) : ℕ → List (Packet b) → Prop
  | _, [] => True
  | i, p :: ps => DataOk env i p ∧ AllDataOk env (i + p.actualLength) ps

/-- The place behind the packets `ps`, the first of which is at `i`. -/
def endOf (i : ℕ) : List (Packet b) → ℕ
  | [] => i
  | p :: ps => endOf (i + p.actualLength) ps

/-- The loop ends at `i` without passing on another packet. -/
def Ends (b : Build) (env : Env) (m : ByteMemory) (i pad : ℕ) : Prop :=
  ∃ fuel ext o, readLoop b env m fuel i pad ext = some o ∧ o.status = 0 ∧ o.dispatched = []

/-- One turn of the loop at a packet that is there. -/
theorem readLoop_packet {i fuel : ℕ} {p : Packet b} {ps : List (Packet b)} {ext : BitVec 8}
    (h : m.Holds i (stream (p :: ps) pad)) :
    readLoop b env m (fuel + 1) i (stream (p :: ps) pad).length ext =
      match (dispatch b env m i (descOf m i) (extendedDesc m (descOf m i))).1 with
      | none => some ⟨EINVAL, [], headerAccesses m i ++ bodyAccesses b env m i⟩
      | some d =>
        if 0 < (stream ps pad).length then
          (readLoop b env m fuel (i + p.actualLength) (stream ps pad).length
            (nextExtendedDesc m (descOf m i) ext)).map
              (.after d (headerAccesses m i ++ bodyAccesses b env m i))
        else some ⟨0, [d], headerAccesses m i ++ bodyAccesses b env m i⟩ := by
  rw [stream_cons] at h
  have hp := (ByteMemory.holds_append.1 h).1
  -- what the turn takes off is the length of its packet
  have hrem : ((stream (p :: ps) pad).length : ℤ) - p.actualLength = (stream ps pad).length := by
    rw [length_stream_cons]
    omega
  rw [readLoop_succ, if_pos (headerOk_of_holds hp), actualLength_eq hp, hrem]
  cases (dispatch b env m i (descOf m i) (extendedDesc m (descOf m i))).1 with
  | none => rfl
  | some d => exact ite_congr (propext Int.natCast_pos) (fun _ => rfl) (fun _ => rfl)

/-- Behind the packets comes nothing only if there is no packet either. -/
theorem length_stream_eq_zero {ps : List (Packet b)} (h : (stream ps pad).length = 0) :
    ps = [] ∧ pad = 0 := by
  cases ps with
  | nil => exact ⟨rfl, by simpa [stream] using h⟩
  | cons p ps =>
    have := p.actualLength_ge
    rw [length_stream_cons] at h
    omega

/-- A run of the loop over a transfer that passes on the packets of the transfer. -/
theorem allDataOk_of_readLoop {ps : List (Packet b)} {i fuel : ℕ} {ext : BitVec 8} {o : Outcome}
    (h : m.Holds i (stream ps pad))
    (hrun : readLoop b env m fuel i (stream ps pad).length ext = some o) (hstatus : o.status = 0)
    (hdelivered : o.dispatched.map Dispatch.delivery = ps.map Packet.delivery) :
    AllDataOk env i ps ∧ (ps = [] ∨ 0 < pad → Ends b env m (endOf i ps) pad) := by
  induction ps generalizing i fuel ext o with
  -- nothing was to be passed on, so the loop has ended where it started
  | nil =>
    refine ⟨trivial, fun _ => ⟨fuel, ext, o, ?_, hstatus, List.map_eq_nil_iff.1 hdelivered⟩⟩
    rwa [length_stream_nil] at hrun
  | cons p ps ih =>
    cases fuel with
    | zero => cases hrun
    | succ fuel =>
      rw [readLoop_packet h] at hrun
      have hparts := h
      rw [stream_cons, ByteMemory.holds_append, p.length_encode] at hparts
      cases hd : (dispatch b env m i (descOf m i) (extendedDesc m (descOf m i))).1 with
      | none =>
        -- a failure does not return 0
        rw [hd] at hrun
        cases hrun
        exact absurd hstatus (show EINVAL ≠ 0 by decide)
      | some d =>
        rw [hd] at hrun
        dsimp only at hrun
        split at hrun
        -- the rest of the loop passes on the rest of the packets
        · obtain ⟨o', hrest, rfl⟩ := Option.map_eq_some_iff.1 hrun
          obtain ⟨hhead, htail⟩ := List.cons.inj hdelivered
          obtain ⟨hdata, hends⟩ := ih hparts.2 hrest hstatus htail
          refine ⟨⟨(dispatch_delivery hparts.1).1 ⟨d, hd, hhead⟩, hdata⟩, fun hpad => ?_⟩
          exact hends (hpad.elim (fun hnil => absurd hnil (List.cons_ne_nil _ _)) .inr)
        · -- the last packet, with nothing behind it
          rename_i hlast
          obtain ⟨rfl, rfl⟩ := length_stream_eq_zero (Nat.eq_zero_of_not_pos hlast)
          cases hrun
          obtain ⟨hhead, -⟩ := List.cons.inj hdelivered
          refine ⟨⟨(dispatch_delivery hparts.1).1 ⟨d, hd, hhead⟩, trivial⟩, fun hpad => ?_⟩
          exact hpad.elim (fun hnil => absurd hnil (List.cons_ne_nil _ _))
            (fun hpos => absurd hpos (Nat.lt_irrefl 0))

/-- The loop passes on the packets of a transfer, if it ends behind them. -/
theorem exists_readLoop_stream {ps : List (Packet b)} {i : ℕ} (h : m.Holds i (stream ps pad))
    (hdata : AllDataOk env i ps)
    (hends : ps = [] ∨ 0 < pad → ∀ ext, ∃ fuel o,
      readLoop b env m fuel (endOf i ps) pad ext = some o ∧ o.status = 0 ∧ o.dispatched = [])
    (ext : BitVec 8) :
    ∃ fuel o, readLoop b env m fuel i (stream ps pad).length ext = some o ∧ o.status = 0 ∧
      o.dispatched.map Dispatch.delivery = ps.map Packet.delivery := by
  induction ps generalizing i ext with
  | nil =>
    obtain ⟨fuel, o, hrun, hstatus, hnone⟩ := hends (.inl rfl) ext
    refine ⟨fuel, o, ?_, hstatus, ?_⟩
    · rwa [length_stream_nil]
    · rw [hnone]
      rfl
  | cons p ps ih =>
    have hparts := h
    rw [stream_cons, ByteMemory.holds_append, p.length_encode] at hparts
    obtain ⟨d, hd, hdelivery⟩ := (dispatch_delivery hparts.1).2 hdata.1
    by_cases hmore : 0 < (stream ps pad).length
    · have hends' : ps = [] ∨ 0 < pad → ∀ ext, ∃ fuel o,
          readLoop b env m fuel (endOf (i + p.actualLength) ps) pad ext = some o ∧
            o.status = 0 ∧ o.dispatched = [] := by
        intro hpad
        refine hends (.inr ?_)
        -- with no packet left, it is the zeros that keep the loop going
        rcases hpad with rfl | hpos
        · simpa [stream] using hmore
        · exact hpos
      obtain ⟨fuel, o, hrun, hstatus, hdelivered⟩ := ih hparts.2 hdata.2 hends'
        (nextExtendedDesc m (descOf m i) ext)
      refine ⟨fuel + 1, o.after d (headerAccesses m i ++ bodyAccesses b env m i), ?_, hstatus, ?_⟩
      · rw [readLoop_packet h, hd]
        dsimp only
        rw [if_pos hmore, hrun]
        rfl
      · exact congr (congrArg List.cons hdelivery) hdelivered
    · obtain ⟨rfl, -⟩ := length_stream_eq_zero (Nat.eq_zero_of_not_pos hmore)
      refine ⟨1, ⟨0, [d], headerAccesses m i ++ bodyAccesses b env m i⟩, ?_, rfl, ?_⟩
      · rw [readLoop_packet h, hd]
        exact if_neg hmore
      · exact congrArg (fun c => [c]) hdelivery

/-! ## Behind the packets -/

theorem holds_endOf {ps : List (Packet b)} {i : ℕ} (h : m.Holds i (stream ps pad)) :
    m.Holds (endOf i ps) (List.replicate pad 0) := by
  induction ps generalizing i with
  | nil => exact h
  | cons p ps ih =>
    rw [stream_cons, ByteMemory.holds_append, p.length_encode] at h
    exact ih h.2

theorem endOf_add (ps : List (Packet b)) (i : ℕ) :
    endOf i ps + pad = i + (stream ps pad).length := by
  induction ps generalizing i with
  | nil => rw [endOf, length_stream_nil]
  | cons p ps ih => rw [endOf, ih, length_stream_cons, Nat.add_assoc]

/-- A whole header of zeros ends the loop. -/
theorem readLoop_zeros {i : ℕ} (h : m.Holds i (List.replicate pad 0)) (hpad : 4 ≤ pad)
    (ext : BitVec 8) : readLoop b env m 1 i pad ext = some ⟨0, [], headerAccesses m i⟩ := by
  have hzero : ∀ k < 4, m (i + k) = 0 := by
    intro k hk
    have := h k (by rw [List.length_replicate]; omega)
    rwa [List.getElem_replicate] at this
  have hword : ∀ k < 3, m.le16 (i + k) = 0 := by
    intro k hk
    rw [ByteMemory.le16, Nat.add_assoc, hzero k (by omega), hzero (k + 1) (by omega)]
    rfl
  have hactual : actualLength m i = 0 := by
    rw [actualLength, show m.le16 i = 0 from hword 0 (by decide)]
    rfl
  -- the descriptor would start at the header, which has the number of the coex queue
  have hdesc : descOf m i = i := by
    rw [descOf, Rx.offset, hword 2 (by decide)]
    rfl
  have hqueue : queueno m (descOf m i) ≠ RSI_ZIGB_Q := by
    rw [hdesc, queueno, show m.le16 i = 0 from hword 0 (by decide)]
    decide
  have hheader : ¬ HeaderOk m i := by
    rintro (hq | ⟨hlong, -⟩)
    · exact hqueue hq
    · omega
  rw [readLoop_succ, if_neg hheader]

/-- The byte that fills the memory behind a transfer. -/
def fillByte : BitVec 8 := 0x10

/-- With less than a header of zeros, bytes behind the transfer can make up a packet. -/
theorem not_ends_of_fill {i : ℕ} (hfill : ∀ k, i + pad ≤ k → m k = fillByte) (hpad : pad < 4) :
    ¬ Ends b env m i pad := by
  rintro ⟨fuel, ext, o, hrun, hstatus, hnone⟩
  have hword : ∀ k, i + pad ≤ k → m.le16 k = 0x1010 := by
    intro k hk
    rw [ByteMemory.le16, hfill k hk, hfill (k + 1) (by omega)]
    rfl
  -- the upper byte of the offset is the last one of the header
  have hoffset : 4096 ≤ Rx.offset m i := by
    have hbyte : fillByte.toNat = 16 := rfl
    rw [Rx.offset, ByteMemory.toNat_le16, hfill (i + 2 + 1) (by omega), hbyte]
    omega
  have hqueue : queueno m (descOf m i) = RSI_ZIGB_Q := by
    rw [queueno, hword _ (by rw [descOf]; omega)]
    decide
  cases fuel with
  | zero => cases hrun
  | succ fuel =>
    rw [readLoop_succ, if_pos (.inl hqueue)] at hrun
    split at hrun
    · -- a build without ZigBee fails
      cases hrun
      exact absurd hstatus (show EINVAL ≠ 0 by decide)
    · -- another one passes the packet on
      split at hrun
      · obtain ⟨o', -, rfl⟩ := Option.map_eq_some_iff.1 hrun
        exact List.cons_ne_nil _ _ hnone
      · cases hrun
        exact List.cons_ne_nil _ _ hnone

/-- What has to hold for the packets to come back. -/
theorem RoundTrip.padding_and_data {ps : List (Packet b)} (h : RoundTrip b env ps pad) :
    (ps ≠ [] ∧ pad = 0 ∨ 4 ≤ pad) ∧ AllDataOk env 0 ps := by
  -- a memory that goes on with the same byte behind the transfer
  have hholds := ByteMemory.holds_override (fun _ => fillByte) (stream ps pad)
  obtain ⟨fuel, o, hrun, hstatus, hdelivered⟩ := h _ hholds
  obtain ⟨hdata, hends⟩ := allDataOk_of_readLoop hholds hrun hstatus hdelivered
  refine ⟨?_, hdata⟩
  by_cases hpad : 4 ≤ pad
  · exact .inr hpad
  · have hdone : ¬ (ps = [] ∨ 0 < pad) := by
      intro hmore
      refine not_ends_of_fill (fun k hk => ByteMemory.override_of_le _ ?_)
        (Nat.lt_of_not_le hpad) (hends hmore)
      rwa [endOf_add, Nat.zero_add] at hk
    rw [not_or] at hdone
    exact .inl ⟨hdone.1, Nat.eq_zero_of_not_pos hdone.2⟩

/-- **Round trip of an aggregated transfer**: the packets come back, whatever stands behind the
transfer, if and only if the zeros behind the last packet are none or make up a header, and the
copies of the data packets hold their payloads. -/
theorem roundTrip_iff (b : Build) (env : Env) (ps : List (Packet b)) (pad : ℕ) :
    RoundTrip b env ps pad ↔ (ps ≠ [] ∧ pad = 0 ∨ 4 ≤ pad) ∧ AllDataOk env 0 ps := by
  constructor
  · intro h
    exact h.padding_and_data
  · rintro ⟨hpad, hdata⟩
    intro m hholds
    refine exists_readLoop_stream hholds hdata (fun hmore ext => ?_) 0
    -- the loop comes to the zeros only if there are some
    have hzeros : 4 ≤ pad := by
      rcases hpad with ⟨hne, rfl⟩ | hzeros
      · exact hmore.elim (fun hnil => absurd hnil hne) (fun hpos => absurd hpos (Nat.lt_irrefl 0))
      · exact hzeros
    exact ⟨1, _, readLoop_zeros (holds_endOf hholds) hzeros ext, rfl, rfl⟩

end Loop

section Examples

/-- A management packet of 254 bytes. -/
def mgmtPacket : Packet defaultBuild where
  filler := []
  desc := [0, 0x40] ++ List.replicate 14 0
  body := []
  padding := List.replicate 234 0
  route := .handOn .mgmtPktRecv
  desc_length := rfl
  route_eq := by decide
  body_length := by decide
  ext_le := fun h => by cases h
  actual_lt := by
    rw [List.length_replicate]
    decide

/-- In a block of 256 bytes two zeros are left, and the bytes behind the block take part. -/
theorem not_roundTrip :
    ¬ ∀ (b : Build) (env : Env) (ps : List (Packet b)) (pad : ℕ), (∀ i, env.alloc i = true) →
      256 ∣ (stream ps pad).length → RoundTrip b env ps pad := by
  intro h
  have hlength : (stream [mgmtPacket] 2).length = 256 := by
    rw [length_stream_cons, length_stream_nil, Packet.actualLength, mgmtPacket,
      List.length_replicate]
    rfl
  have hback := h defaultBuild allocating [mgmtPacket] 2 (fun _ => rfl)
    ⟨1, hlength⟩
  rcases hback.padding_and_data.1 with ⟨-, htwo⟩ | hfour
  · exact absurd htwo (by decide)
  · exact absurd hfour (by decide)

end Examples

end Rx
