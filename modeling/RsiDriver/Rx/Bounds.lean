import Mathlib.Tactic.MkIffOfInductiveProp
import RsiDriver.Rx.ReadPkt

/-!
# Reading inside the receive buffer

`rsi_read_pkt` trusts the device. The length of the buffer only ends its loop: the position of the
descriptor, the length field and the size of the extended descriptor are not compared with it, and
the test of the header comes after the descriptor was read. A packet for the ZigBee module is not
tested at all, so that one of length 0 is dispatched for ever.

`SizesOk` says of the sizes in a buffer what keeps every read inside it: it goes through the packets
that the loop comes to.

## Main results

* `staysInside_iff`: the call returns and stays inside the buffer if and only if the sizes are in
  order;
* `not_staysInside`: a buffer that makes it read behind the end.
-/

namespace Rx

/-- `rsi_read_pkt` returns, and every byte that it reads or hands on lies inside the buffer. -/
def StaysInside (b : Build) (env : Env) (m : ByteMemory) (len : ℕ) : Prop :=
  ∃ fuel o, readPkt b env m len fuel = some o ∧ ∀ r ∈ o.accesses, r.Within len

/-! ## The sizes of a packet -/

section Sizes

variable (b : Build) (env : Env) (m : ByteMemory) (len : ℕ)

/-- The packet at `i` passes the test of its header. -/
def HeaderOk (i : ℕ) : Prop :=
  queueno m (descOf m i) = RSI_ZIGB_Q ∨ 20 ≤ actualLength m i ∧ 4 ≤ offset m i

/-- The packet at `i` has a handler in this build, and a data packet can be copied. -/
def Handled (i : ℕ) : Prop :=
  (b.route (queueno m (descOf m i))).isSome = true ∧
    (queueno m (descOf m i) = RSI_WIFI_DATA_Q →
      length m (descOf m i) ≠ 0 ∧ env.alloc i = true)

/-- The loop comes to a packet at this position. -/
inductive Reached : ℕ → Prop
  | start : Reached 0
  | next {i : ℕ} : Reached i → HeaderOk m i → Handled b env m i → i + actualLength m i < len →
      Reached (i + actualLength m i)

/-- The sizes of a packet that is passed on are in order: what its handler is given lies inside the
buffer. -/
@[mk_iff bodyFits_iff_and]
structure BodyFits (i : ℕ) : Prop where
  /-- The extended descriptor size is in the descriptor. -/
  extendedDesc : queueno m (descOf m i) = RSI_WIFI_DATA_Q ∨
    queueno m (descOf m i) = RSI_WIFI_MGMT_Q → descOf m i + 6 ≤ len
  /-- A packet that is handed on as it is. -/
  handedOn : ∀ handler, b.route (queueno m (descOf m i)) = some (.handOn handler) →
    descOf m i + 16 + (length m (descOf m i)).toNat ≤ len
  /-- The word of a data packet that tells the subframes of an A-MSDU apart. -/
  value : b.route (queueno m (descOf m i)) = some .data → descOf m i + 32 ≤ len
  /-- The payload of a data packet: the extended descriptor is part of the length, and
  `payload_offset` has eight bits. -/
  payload : b.route (queueno m (descOf m i)) = some .data → length m (descOf m i) ≠ 0 →
    env.alloc i = true →
    (Rx.extendedDesc m (descOf m i)).toNat ≤ (length m (descOf m i)).toNat ∧
      ((Rx.extendedDesc m (descOf m i)).toNat = (length m (descOf m i)).toNat ∨
        descOf m i + ((Rx.extendedDesc m (descOf m i)).toNat + 16) % 256 +
          ((length m (descOf m i)).toNat - (Rx.extendedDesc m (descOf m i)).toNat) ≤ len)
  /-- A packet for the ZigBee module has a type, may be handed on and is not empty. -/
  zigb : b.route (queueno m (descOf m i)) = some .zigb →
    0 < actualLength m i ∧ descOf m i + 16 ≤ len ∧
      (env.zbRecv i = true → descOf m i + 16 + (length m (descOf m i)).toNat ≤ len)

/-- The sizes in the buffer are in order: for every packet that the loop comes to, the header and
the first word of the descriptor lie inside the buffer, and if the header passes its test, so does
what is read or handed on after it. -/
def SizesOk : Prop :=
  ∀ i, Reached b env m len i →
    i + 4 ≤ len ∧ descOf m i + 2 ≤ len ∧ (HeaderOk m i → BodyFits b env m len i)

end Sizes

/-! ## One turn of the loop -/

section Turn

variable {b : Build} {env : Env} {m : ByteMemory} {len i : ℕ}

/-- What is read or handed on of the packet at `i` once its header passed the test. -/
def bodyAccesses (b : Build) (env : Env) (m : ByteMemory) (i : ℕ) : List ByteRange :=
  extendedDescAccesses m (descOf m i) ++
    (dispatch b env m i (descOf m i) (extendedDesc m (descOf m i))).2

/-- The size carried over from an earlier packet is not used. -/
theorem dispatch_nextExtendedDesc (desc : ℕ) (ext : BitVec 8) :
    dispatch b env m i desc (nextExtendedDesc m desc ext) =
      dispatch b env m i desc (extendedDesc m desc) := by
  by_cases hdata : queueno m desc = RSI_WIFI_DATA_Q
  -- a data packet brings its own size
  · rw [nextExtendedDesc, if_pos (.inl hdata)]
  -- only the data branch looks at the size
  · have hroute : b.route (queueno m desc) ≠ some .data := mt route_eq_data_iff.1 hdata
    unfold dispatch
    split <;> first | rfl | contradiction

theorem isSome_dispatch_iff (ext : BitVec 8) :
    (dispatch b env m i (descOf m i) ext).1.isSome = true ↔ Handled b env m i := by
  unfold Handled
  rw [← route_eq_data_iff (b := b)]
  unfold dispatch
  cases hroute : b.route (queueno m (descOf m i)) with
  | none => simp
  | some route =>
    cases route with
    | handOn handler => simp
    | zigb => simp
    | data =>
      -- a data packet needs a length and a buffer
      have hlen : (length m (descOf m i)).toNat = 0 ↔ length m (descOf m i) = 0 :=
        ⟨fun h => BitVec.eq_of_toNat_eq h, fun h => by rw [h]; rfl⟩
      unfold prepareSkb
      simp only [hlen]
      split_ifs with hzero halloc
      · simp [hzero]
      · simp [halloc]
      · simpa [halloc] using hzero

theorem extendedDescAccesses_within_iff (desc : ℕ) :
    (∀ r ∈ extendedDescAccesses m desc, r.Within len) ↔
      (queueno m desc = RSI_WIFI_DATA_Q ∨ queueno m desc = RSI_WIFI_MGMT_Q → desc + 6 ≤ len) := by
  unfold extendedDescAccesses
  split_ifs with hq
  · simp [hq, ByteRange.Within]
  · simp [hq]

/-- The payload of a data packet: a length that wraps around does not fit into any buffer. -/
theorem prepareSkb_within_iff (hlen : len < 2 ^ 31) (desc : ℕ) (ext : BitVec 8) (alloc : Bool) :
    (∀ r ∈ (prepareSkb env m desc (length m desc).toNat ext alloc).2, r.Within len) ↔
      (length m desc ≠ 0 → alloc = true →
        desc + 17 ≤ len ∧ ext.toNat ≤ (length m desc).toNat ∧
          (ext.toNat = (length m desc).toNat ∨
            desc + (ext.toNat + 16) % 256 + ((length m desc).toNat - ext.toNat) ≤ len)) := by
  have hzero : (length m desc).toNat = 0 ↔ length m desc = 0 :=
    ⟨fun h => BitVec.eq_of_toNat_eq h, fun h => by rw [h]; rfl⟩
  unfold prepareSkb
  simp only [hzero]
  -- a packet without a payload or a buffer is not read
  split_ifs with hlength halloc
  · simp [hlength]
  · simp [halloc]
  · have halloc' : alloc = true := Bool.not_eq_false _ ▸ halloc
    simp only [halloc', ne_eq, hlength, not_false_eq_true, forall_const, List.mem_cons,
      List.not_mem_nil, or_false, forall_eq_or_imp, forall_eq, ByteRange.Within, FRAME_DESC_SZ,
      payloadOffset_toNat]
    -- the size of the extended descriptor is taken off a length that may be less
    by_cases hext : ext.toNat ≤ (length m desc).toNat
    · rw [payloadLen_of_le (length_le m desc) hext]
      omega
    · have hwrap := le_payloadLen_of_lt (Nat.lt_of_not_le hext)
      omega

/-- What is read or handed on of a packet lies inside the buffer when its sizes are in order. -/
theorem bodyFits_iff (hlen : len < 2 ^ 31) :
    BodyFits b env m len i ↔
      (∀ r ∈ bodyAccesses b env m i, r.Within len) ∧
        (b.route (queueno m (descOf m i)) = some .zigb → 0 < actualLength m i) := by
  have hbody : (∀ r ∈ bodyAccesses b env m i, r.Within len) ↔
      (∀ r ∈ extendedDescAccesses m (descOf m i), r.Within len) ∧
        ∀ r ∈ (dispatch b env m i (descOf m i) (Rx.extendedDesc m (descOf m i))).2,
          r.Within len := List.forall_mem_append
  -- both sides field by field, for each case of the switch
  rw [hbody, extendedDescAccesses_within_iff, bodyFits_iff_and]
  unfold dispatch
  cases hroute : b.route (queueno m (descOf m i)) with
  | none => simp
  | some route =>
    cases route with
    | handOn handler =>
      simp [handOn, ByteRange.Within, FRAME_DESC_SZ]
      omega
    | zigb =>
      cases hrecv : env.zbRecv i with
      | false =>
        simp [ByteRange.Within]
        omega
      | true =>
        simp [handOn, ByteRange.Within, FRAME_DESC_SZ]
        omega
    | data =>
      rw [List.forall_mem_cons, prepareSkb_within_iff hlen]
      -- the byte with the signal strength comes before the word that is read first
      have hrssi : descOf m i + 32 ≤ len → descOf m i + 17 ≤ len := by omega
      simp +contextual [ByteRange.Within, hrssi]

instance : Decidable (HeaderOk m i) :=
  inferInstanceAs (Decidable (_ ∨ _))

/-- One turn of the loop, by the two conditions. -/
theorem readLoop_succ (fuel : ℕ) (rem : ℤ) (ext : BitVec 8) :
    readLoop b env m (fuel + 1) i rem ext =
      if HeaderOk m i then
        match (dispatch b env m i (descOf m i) (extendedDesc m (descOf m i))).1 with
        | none => some ⟨EINVAL, [], headerAccesses m i ++ bodyAccesses b env m i⟩
        | some d =>
          if 0 < rem - actualLength m i then
            (readLoop b env m fuel (i + actualLength m i) (rem - actualLength m i)
              (nextExtendedDesc m (descOf m i) ext)).map
                (.after d (headerAccesses m i ++ bodyAccesses b env m i))
          else some ⟨0, [d], headerAccesses m i ++ bodyAccesses b env m i⟩
      else some ⟨0, [], headerAccesses m i⟩ := by
  have hheader : (queueno m (descOf m i) ≠ RSI_ZIGB_Q ∧ (actualLength m i < 4 + FRAME_DESC_SZ ∨
      offset m i < 4)) ↔ ¬ HeaderOk m i := by
    unfold HeaderOk FRAME_DESC_SZ
    by_cases hq : queueno m (descOf m i) = RSI_ZIGB_Q
    · simp [hq]
    · simp only [hq, ne_eq, not_false_eq_true, true_and, false_or]
      omega
  rw [readLoop]
  by_cases hok : HeaderOk m i
  · rw [if_pos hok, if_neg (fun h => hheader.1 h hok)]
    dsimp only
    rw [dispatch_nextExtendedDesc, List.append_assoc]
    rfl
  · rw [if_neg hok, if_pos (hheader.2 hok)]

theorem headerAccesses_within_iff :
    (∀ r ∈ headerAccesses m i, r.Within len) ↔ i + 4 ≤ len ∧ descOf m i + 2 ≤ len := by
  simp [headerAccesses, ByteRange.Within]

/-- A packet that is passed on with a length of 0 comes again and again. -/
theorem readLoop_eq_none (hheader : HeaderOk m i) (hhandled : Handled b env m i)
    (hzero : actualLength m i = 0) {rem : ℤ} (hrem : 0 < rem) (fuel : ℕ) (ext : BitVec 8) :
    readLoop b env m fuel i rem ext = none := by
  -- neither `index` nor `rcv_pkt_len` changes
  obtain ⟨d, hd⟩ := Option.isSome_iff_exists.1
    ((isSome_dispatch_iff (extendedDesc m (descOf m i))).2 hhandled)
  induction fuel generalizing ext with
  | zero => rfl
  | succ fuel ih =>
    rw [readLoop_succ, if_pos hheader, hd, hzero]
    simp [hrem, ih]

/-- A packet that is passed on has a length, if its sizes are in order. -/
theorem actualLength_pos (hheader : HeaderOk m i) (hhandled : Handled b env m i)
    (hfits : BodyFits b env m len i) : 0 < actualLength m i := by
  rcases hheader with hq | ⟨hlong, -⟩
  · -- the build has a case for the queue, so it is the one of the ZigBee module
    have hroute := hhandled.1
    rw [hq] at hroute
    refine (hfits.zigb ?_).1
    rw [hq]
    exact route_zigb hroute
  · omega

/-- A turn reads its packet before anything else. -/
theorem turn_within {fuel : ℕ} {rem : ℤ} {ext : BitVec 8} {o : Outcome}
    (hrun : readLoop b env m (fuel + 1) i rem ext = some o)
    (hwithin : ∀ r ∈ o.accesses, r.Within len) :
    (∀ r ∈ headerAccesses m i, r.Within len) ∧
      (HeaderOk m i → ∀ r ∈ bodyAccesses b env m i, r.Within len) := by
  rw [readLoop_succ] at hrun
  by_cases hheaderOk : HeaderOk m i
  · rw [if_pos hheaderOk] at hrun
    have hboth : ∀ r ∈ headerAccesses m i ++ bodyAccesses b env m i, r.Within len := by
      split at hrun
      · cases hrun
        exact hwithin
      · split at hrun
        · -- the outcome of the rest of the loop comes behind what this turn read
          obtain ⟨o', -, rfl⟩ := Option.map_eq_some_iff.1 hrun
          exact (List.forall_mem_append.1 hwithin).1
        · cases hrun
          exact hwithin
    exact ⟨(List.forall_mem_append.1 hboth).1, fun _ => (List.forall_mem_append.1 hboth).2⟩
  · rw [if_neg hheaderOk] at hrun
    cases hrun
    exact ⟨hwithin, fun h => absurd h hheaderOk⟩

end Turn

/-! ## Whole buffers -/

section Buffer

variable {b : Build} {env : Env} {m : ByteMemory} {len : ℕ}

/-- With sizes in order, the loop ends from every packet on and stays inside the buffer. -/
theorem exists_readLoop (hlen : len < 2 ^ 31) (hok : SizesOk b env m len) (n : ℕ) {i : ℕ}
    (hi : Reached b env m len i) (hn : len - i < n) (ext : BitVec 8) :
    ∃ fuel o, readLoop b env m fuel i (len - i) ext = some o ∧
      ∀ r ∈ o.accesses, r.Within len := by
  -- on what is left of the buffer; every packet passed on makes it shorter
  induction n generalizing i ext with
  | zero => exact absurd hn (Nat.not_lt_zero _)
  | succ n ih =>
    obtain ⟨hhead, hdesc, hbody⟩ := hok i hi
    have hheader := headerAccesses_within_iff.2 ⟨hhead, hdesc⟩
    by_cases hheaderOk : HeaderOk m i
    · have hfits := hbody hheaderOk
      have hwithin := List.forall_mem_append.2 ⟨hheader, ((bodyFits_iff hlen).1 hfits).1⟩
      cases hd : (dispatch b env m i (descOf m i) (extendedDesc m (descOf m i))).1 with
      -- a packet that fails ends the loop
      | none =>
        refine ⟨1, ⟨EINVAL, [], headerAccesses m i ++ bodyAccesses b env m i⟩, ?_, hwithin⟩
        rw [readLoop_succ, if_pos hheaderOk, hd]
      | some d =>
        have hhandled : Handled b env m i :=
          (isSome_dispatch_iff _).1 (Option.isSome_iff_exists.2 ⟨d, hd⟩)
        have hpos := actualLength_pos hheaderOk hhandled hfits
        by_cases hnext : i + actualLength m i < len
        · -- the rest of the buffer is shorter
          obtain ⟨fuel, o, hrun, hrest⟩ := ih (hi.next hheaderOk hhandled hnext) (by omega)
            (nextExtendedDesc m (descOf m i) ext)
          refine ⟨fuel + 1, o.after d (headerAccesses m i ++ bodyAccesses b env m i), ?_,
            List.forall_mem_append.2 ⟨hwithin, hrest⟩⟩
          have hrem : ((len : ℤ) - i) - actualLength m i = len - (i + actualLength m i : ℕ) := by
            omega
          rw [readLoop_succ, if_pos hheaderOk, hd]
          dsimp only
          rw [if_pos (by omega), hrem, hrun]
          rfl
        -- the last packet
        · refine ⟨1, ⟨0, [d], headerAccesses m i ++ bodyAccesses b env m i⟩, ?_, hwithin⟩
          rw [readLoop_succ, if_pos hheaderOk, hd]
          exact if_neg (by omega)
    -- a header that fails its test ends the loop as well
    · refine ⟨1, ⟨0, [], headerAccesses m i⟩, ?_, hheader⟩
      rw [readLoop_succ, if_neg hheaderOk]

/-- A call that returns and stays inside goes through every packet it comes to. -/
theorem readLoop_of_reached (h : StaysInside b env m len) {i : ℕ} (hi : Reached b env m len i) :
    ∃ fuel ext o, readLoop b env m fuel i (len - i) ext = some o ∧
      ∀ r ∈ o.accesses, r.Within len := by
  -- on the way to the packet: a turn that goes on leaves the rest of the loop as a call
  induction hi with
  | start =>
    obtain ⟨fuel, o, hrun, hwithin⟩ := h
    refine ⟨fuel, 0, o, ?_, hwithin⟩
    simpa [readPkt] using hrun
  | @next i _ hheaderOk hhandled hnext ih =>
    obtain ⟨fuel, ext, o, hrun, hwithin⟩ := ih
    obtain ⟨d, hd⟩ := Option.isSome_iff_exists.1 ((isSome_dispatch_iff _).2 hhandled)
    cases fuel with
    | zero => cases hrun
    | succ fuel =>
      rw [readLoop_succ, if_pos hheaderOk, hd] at hrun
      dsimp only at hrun
      rw [if_pos (by omega)] at hrun
      obtain ⟨o', hrun', rfl⟩ := Option.map_eq_some_iff.1 hrun
      refine ⟨fuel, nextExtendedDesc m (descOf m i) ext, o', ?_,
        (List.forall_mem_append.1 hwithin).2⟩
      have hrem : ((len : ℤ) - i) - actualLength m i = len - (i + actualLength m i : ℕ) := by
        omega
      rw [← hrem]
      exact hrun'

/-- Every packet that a call comes to has its sizes in order, if the call stays inside. -/
theorem StaysInside.sizesOk (hlen : len < 2 ^ 31) (h : StaysInside b env m len) :
    SizesOk b env m len := by
  intro i hi
  obtain ⟨fuel, ext, o, hrun, hwithin⟩ := readLoop_of_reached h hi
  cases fuel with
  | zero => cases hrun
  | succ fuel =>
    obtain ⟨hheader, hbody⟩ := turn_within hrun hwithin
    obtain ⟨hhead, hdesc⟩ := headerAccesses_within_iff.1 hheader
    refine ⟨hhead, hdesc, fun hheaderOk => (bodyFits_iff hlen).2 ⟨hbody hheaderOk, ?_⟩⟩
    -- an empty packet for the ZigBee module would keep the call from returning
    intro hzigb
    refine Nat.pos_of_ne_zero fun hzero => ?_
    have hhandled : Handled b env m i := by
      refine ⟨by rw [hzigb]; rfl, fun hdata => ?_⟩
      rw [route_eq_data_iff.2 hdata] at hzigb
      cases hzigb
    rw [readLoop_eq_none hheaderOk hhandled hzero (by omega)] at hrun
    cases hrun

/-- With sizes in order, a call returns and stays inside. -/
theorem SizesOk.staysInside (hlen : len < 2 ^ 31) (hok : SizesOk b env m len) :
    StaysInside b env m len := by
  obtain ⟨fuel, o, hrun, hwithin⟩ := exists_readLoop hlen hok (len + 1) .start (by omega) 0
  refine ⟨fuel, o, ?_, hwithin⟩
  simpa [readPkt] using hrun

/-- **De-aggregation inside the buffer**: the call returns, and whatever it reads or hands on lies
inside the buffer, if and only if the sizes of the packets are in order. -/
theorem staysInside_iff (b : Build) (env : Env) (m : ByteMemory) (len : ℕ) (hlen : len < 2 ^ 31) :
    StaysInside b env m len ↔ SizesOk b env m len :=
  ⟨fun h => h.sizesOk hlen, fun hok => hok.staysInside hlen⟩

end Buffer

section Examples

/-- A management packet of 20 bytes: the header and a descriptor with nothing behind it. -/
def emptyMgmtPacket : ByteMemory := ByteMemory.ofList [20, 0, 4, 0, 0, 0x40]

/-- The sizes of a packet that fills its buffer are in order, so that it is read inside of it. -/
theorem staysInside_emptyMgmtPacket : StaysInside defaultBuild allocating emptyMgmtPacket 20 := by
  refine (staysInside_iff defaultBuild allocating emptyMgmtPacket 20 (by decide)).2 ?_
  intro i hi
  have hstart : i = 0 := by
    induction hi with
    | start => rfl
    | next _ _ _ hnext ih =>
      -- there is no room for a second packet
      subst ih
      exact absurd hnext (by decide)
  subst hstart
  refine ⟨by decide, by decide, fun _ => ⟨fun _ => by decide, fun _ _ => by decide, ?_, ?_, ?_⟩⟩
  · intro hdata
    exact absurd hdata (by decide)
  · intro hdata
    exact absurd hdata (by decide)
  · intro hzigb
    exact absurd hzigb (by decide)

/-- A packet whose header puts the descriptor 300 bytes away. -/
def farDescriptor : ByteMemory := ByteMemory.ofList [20, 0, 44, 1]

/-- In a buffer of 256 bytes that descriptor is read behind the end, and the packet is taken. -/
theorem not_staysInside :
    ¬ ∀ (b : Build) (env : Env) (m : ByteMemory) (len : ℕ), len < 2 ^ 31 →
      StaysInside b env m len := by
  intro h
  have hok := (h defaultBuild allocating farDescriptor 256 (by decide)).sizesOk (by decide)
  exact absurd (hok 0 .start).2.1 (by decide)

end Examples

end Rx
