import RsiDriver.Rx.ReadPkt
import RsiDriver.ToMathlib.TransitionSystem

/-!
# Subframes of an A-MSDU

The firmware takes an A-MSDU apart. Its first subframe comes with the MAC header, the others come
without it, and bits of the descriptor tell them apart; `rsi_read_pkt` keeps these in `amsdu_bit`.
`rsi_indicate_pkt_to_os` (`rsi_91x_mac80211.c`) stores the header of a first subframe in
`last_mac_hdr` and puts it in front of the later ones.

A packet that is no subframe does not change `amsdu_bit`; only the last subframe of an A-MSDU resets
it. When that one is lost, or dropped because the interface is down, the next ordinary packet is
taken for a subframe. `InTurn` is the order of packets in which this does not happen.

The system has the packets of several A-MSDUs, of which the subframes arrive in order. Which A-MSDU
a subframe belongs to is not known to the driver. Whether `rsi_validate_pn` admits a frame, and
what the kernel's `ieee80211_hdrlen` and the tests of the frame control field answer, are given.

## Main results

* `delivered_of_inTurn`: in a run whose packets come in turn, each is delivered as it should be,
  with room for the header and the header taken from a packet that has one;
* `not_delivered`: an ordinary packet after a lost last subframe.
-/

namespace Rx

/-- The number of bytes of `last_mac_hdr`. -/
def MAC_HDR_LEN : ℕ := 26

/-- `IEEE80211_CCMP_HDR_LEN` -/
def IEEE80211_CCMP_HDR_LEN : ℕ := 8

/-! ## `rsi_indicate_pkt_to_os` -/

/-- What the kernel's functions say of a frame. -/
structure Ieee80211 where
  /-- `ieee80211_hdrlen` -/
  hdrlen : List (BitVec 8) → ℕ
  /-- `ieee80211_has_protected` -/
  hasProtected : List (BitVec 8) → Bool
  /-- `ieee80211_is_frag` -/
  isFrag : List (BitVec 8) → Bool

/-- The state of the driver around the A-MSDU variables when a packet arrives. -/
structure Host where
  /-- The interface is not down, and there is a virtual interface. -/
  up : Bool
  /-- `rsi_is_cipher_wep` -/
  wep : Bool
  /-- `SNIFFER_MODE` -/
  sniffer : Bool
  /-- `rsi_validate_pn` -/
  validatePn : List (BitVec 8) → Bool

/-- The `n` bytes behind the header are taken out: the header is moved over them, and `skb_pull`
takes `n` bytes off if there are as many. -/
def stripIv (n hdrlen : ℕ) (data : List (BitVec 8)) : List (BitVec 8) :=
  if data.length < n then data
  else (data.take hdrlen ++ data.drop (hdrlen + n)).take (data.length - n)

/-- `rsi_fill_rx_status` on the data of the buffer; `none` when the frame is dropped. -/
def fillRxStatus (k : Ieee80211) (host : Host) (data : List (BitVec 8)) :
    Option (List (BitVec 8)) :=
  if k.hasProtected data = true then
    -- the IV of WEP has four bytes, the header of CCMP eight
    if host.wep = true then some (stripIv 4 (k.hdrlen data) data)
    else if host.sniffer = true then some data
    else if data.length < k.hdrlen data + IEEE80211_CCMP_HDR_LEN then none
    -- a replayed frame
    else if host.validatePn data = false then none
    else if k.isFrag data = true then some data
    else some (stripIv IEEE80211_CCMP_HDR_LEN (k.hdrlen data) data)
  else some data

/-- The rest of `rsi_indicate_pkt_to_os`: what the network stack is given. -/
def deliver (k : Ieee80211) (host : Host) (data : List (BitVec 8)) : Option (List (BitVec 8)) :=
  (fillRxStatus k host data).filter fun data => !(host.sniffer && decide (data.length ≤ 4))

/-- `amsdu_bit` and `last_mac_hdr` -/
structure Amsdu where
  amsduBit : ℕ
  lastMacHdr : List (BitVec 8)
  deriving DecidableEq, Repr

/-- What one call of `rsi_indicate_pkt_to_os` does with its packet. -/
structure Indication where
  /-- What the network stack is given. -/
  delivered : Option (List (BitVec 8))
  /-- The length of the packet that a header was copied from. -/
  copiedFrom : Option ℕ
  /-- The headroom of the packet that a header was pushed into. -/
  pushedInto : Option ℕ
  deriving DecidableEq, Repr

/-- `rsi_indicate_pkt_to_os`; `behind` is the memory that a header is copied from where the packet
is too short. -/
def indicatePktToOs (k : Ieee80211) (host : Host) (s : Amsdu) (skb : RxSkb) (behind : ByteMemory) :
    Amsdu × Indication :=
  if host.up = false then (s, ⟨none, none, none⟩)
  else if s.amsduBit = 1 then
    -- `memcpy` without a look at the length of the packet
    ({ s with lastMacHdr := (behind.override skb.data).bytes 0 MAC_HDR_LEN },
      ⟨deliver k host skb.data, some skb.data.length, none⟩)
  else if s.amsduBit = 2 then
    (s, ⟨deliver k host (s.lastMacHdr ++ skb.data), none, some skb.headroom⟩)
  else if s.amsduBit = 3 then
    -- the only place where `amsdu_bit` is reset
    (⟨0, List.replicate MAC_HDR_LEN 0⟩,
      ⟨deliver k host (s.lastMacHdr ++ skb.data), none, some skb.headroom⟩)
  else (s, ⟨deliver k host skb.data, none, none⟩)

/-- How `rsi_read_pkt` marks a data packet. -/
inductive Mark
  | ordinary
  | first
  | middle
  | last
  deriving DecidableEq, Repr

/-- The mark by the bits of `value`. -/
def markOf (value : BitVec 32) : Mark :=
  if value.getLsbD 25 = true then
    -- `BIT(22)` goes before `BIT(23)`
    if value.getLsbD 22 = true then .first
    else if value.getLsbD 23 = true then .last
    else .middle
  else .ordinary

/-- `amsdu_bit` after the descriptor was looked at. -/
def Mark.amsduBit (bit : ℕ) : Mark → ℕ
  | .ordinary => bit
  | .first => 1
  | .middle => 2
  | .last => 3

/-- The rest of the data branch of `rsi_read_pkt`, for the buffer made by `rsi_prepare_skb`. -/
def dataPkt (k : Ieee80211) (host : Host) (s : Amsdu) (value : BitVec 32) (skb : RxSkb)
    (behind : ByteMemory) : Amsdu × Indication :=
  indicatePktToOs k host { s with amsduBit := (markOf value).amsduBit s.amsduBit } skb behind

/-! ## Runs -/

/-- A data packet that `rsi_read_pkt` has taken out of a transfer. -/
structure Arrival (env : Env) where
  value : BitVec 32
  skb : RxSkb
  behind : ByteMemory
  host : Host
  /-- The A-MSDU that a subframe belongs to. -/
  amsdu : ℕ
  dispatched : ∃ b m i desc ext, (dispatch b env m i desc ext).1 = some (.data value skb)

variable {env : Env}

/-- The mark of the packet. -/
def Arrival.mark (a : Arrival env) : Mark := markOf a.value

/-- What is reported of a packet: what should be delivered, and what was done. -/
structure Report where
  expected : Option (List (BitVec 8))
  indication : Indication
  deriving DecidableEq, Repr

/-- The driver's variables with what has arrived so far. -/
structure AmsduSys where
  dev : Amsdu
  /-- The first subframe of each A-MSDU that has come. -/
  firsts : ℕ → Option (List (BitVec 8))
  /-- The last subframe of the A-MSDU has come. -/
  ended : ℕ → Bool
  /-- The A-MSDU whose header is stored. -/
  keeps : Option ℕ
  log : List Report

namespace AmsduSys

/-- The subframes of an A-MSDU arrive in order: its first one before all others, its last one after
them. -/
def InOrder (s : AmsduSys) (a : Arrival env) : Prop :=
  match a.mark with
  | .ordinary => True
  | .first => s.firsts a.amsdu = none
  | .middle | .last => (s.firsts a.amsdu).isSome = true ∧ s.ended a.amsdu = false

instance (s : AmsduSys) (a : Arrival env) : Decidable (s.InOrder a) := by
  unfold InOrder
  split <;> infer_instance

/-- What should be delivered for the packet: a middle or last subframe gets the header of the first
one. -/
def expected (k : Ieee80211) (s : AmsduSys) (a : Arrival env) : Option (List (BitVec 8)) :=
  if a.host.up = false then none
  else match a.mark with
    | .ordinary | .first => deliver k a.host a.skb.data
    | .middle | .last =>
      (s.firsts a.amsdu).bind fun first =>
        deliver k a.host (first.take MAC_HDR_LEN ++ a.skb.data)

/-- The A-MSDU whose header is stored after the packet. -/
def nextKeeps (s : AmsduSys) (a : Arrival env) : Option ℕ :=
  if a.host.up = false then s.keeps
  else match a.mark with
    | .ordinary => if s.dev.amsduBit = 1 then none else s.keeps
    | .first => some a.amsdu
    | .middle => s.keeps
    | .last => none

/-- The next packet. -/
def step (k : Ieee80211) (s : AmsduSys) (a : Arrival env) : Option AmsduSys :=
  if s.InOrder a then
    let (dev, indication) := dataPkt k a.host s.dev a.value a.skb a.behind
    some {
      dev := dev
      firsts := fun n =>
        if a.mark = .first ∧ n = a.amsdu then some a.skb.data else s.firsts n
      ended := fun n => if a.mark = .last ∧ n = a.amsdu then true else s.ended n
      keeps := s.nextKeeps a
      log := ⟨s.expected k a, indication⟩ :: s.log }
  else none

/-- Nothing has arrived yet. -/
def start : AmsduSys := ⟨⟨0, List.replicate MAC_HDR_LEN 0⟩, fun _ => none, fun _ => false, none, []⟩

/-- The system. -/
def system (k : Ieee80211) (env : Env) : TransitionSystem AmsduSys (Arrival env) :=
  ⟨fun s => s = start, step k⟩

/-- Each packet was delivered as it should be; a header was pushed only where there is room for it,
and copied only from a packet that has as many bytes. -/
def Delivered (s : AmsduSys) : Prop :=
  ∀ r ∈ s.log, r.indication.delivered = r.expected ∧
    (∀ n ∈ r.indication.pushedInto, MAC_HDR_LEN ≤ n) ∧
    ∀ n ∈ r.indication.copiedFrom, MAC_HDR_LEN ≤ n

/-- The packet comes in turn: while the interface is up, an ordinary packet does not come behind a
middle subframe or a last one that was dropped, a packet that a header is copied from has one, and a
later subframe comes while the header of its own A-MSDU is stored. -/
def InTurn (s : AmsduSys) (a : Arrival env) : Prop :=
  a.host.up = true →
    match a.mark with
    | .ordinary => s.dev.amsduBit = 0 ∨ s.dev.amsduBit = 1 ∧ MAC_HDR_LEN ≤ a.skb.data.length
    | .first => MAC_HDR_LEN ≤ a.skb.data.length
    | .middle | .last => s.keeps = some a.amsdu

instance (s : AmsduSys) (a : Arrival env) : Decidable (s.InTurn a) := by
  unfold InTurn
  split <;> infer_instance

/-! ## Invariant -/

section Invariant

variable {k : Ieee80211} {s : AmsduSys} {a : Arrival env}

/-- The buffer of a data packet has the headroom of `dev_alloc_skb`. -/
theorem headroom_eq (a : Arrival env) : a.skb.headroom = env.netSkbPad := by
  obtain ⟨b, m, i, desc, ext, h⟩ := a.dispatched
  unfold dispatch at h
  split at h
  · cases h
  · cases h
  · -- the data case, whose buffer comes from `rsi_prepare_skb`
    obtain ⟨skb, hskb, heq⟩ := Option.map_eq_some_iff.1 h
    obtain ⟨-, hsame⟩ := Dispatch.data.inj heq
    rw [← hsame]
    unfold prepareSkb at hskb
    split at hskb
    · cases hskb
    · split at hskb <;> cases hskb
      rfl
  · cases h

/-- A header fits into the headroom. -/
theorem header_le_headroom (hpad : 32 ≤ env.netSkbPad) : MAC_HDR_LEN ≤ a.skb.headroom := by
  rw [headroom_eq, MAC_HDR_LEN]
  omega

/-- A header is copied from the front of a packet that has one. -/
theorem header_eq (behind : ByteMemory) {data : List (BitVec 8)}
    (h : MAC_HDR_LEN ≤ data.length) :
    (behind.override data).bytes 0 MAC_HDR_LEN = data.take MAC_HDR_LEN := by
  -- the 26 bytes do not reach behind the packet
  have hholds := ByteMemory.holds_override behind data
  simpa using hholds.bytes_drop_take (k := 0) (by rwa [Nat.zero_add])

/-- What holds in a run whose packets come in turn. -/
structure Inv (s : AmsduSys) : Prop where
  /-- The stored header is that of the first subframe. -/
  header : ∀ n, s.keeps = some n → ∃ first, s.firsts n = some first ∧
    s.dev.lastMacHdr = first.take MAC_HDR_LEN
  delivered : s.Delivered

theorem inv_start : Inv start where
  header := fun _ h => by cases h
  delivered := fun _ h => absurd h List.not_mem_nil

/-- A packet that is reported as it should be keeps the reports in order. -/
theorem Delivered.cons {r : Report} {dev : Amsdu} {firsts : ℕ → Option (List (BitVec 8))}
    {ended : ℕ → Bool} {keeps : Option ℕ} (h : s.Delivered)
    (hr : r.indication.delivered = r.expected)
    (hpush : ∀ n ∈ r.indication.pushedInto, MAC_HDR_LEN ≤ n)
    (hcopy : ∀ n ∈ r.indication.copiedFrom, MAC_HDR_LEN ≤ n) :
    Delivered ⟨dev, firsts, ended, keeps, r :: s.log⟩ :=
  List.forall_mem_cons.2 ⟨⟨hr, hpush, hcopy⟩, h⟩

/-- The headers of the A-MSDUs that have begun stay as they are when another one begins. -/
theorem firsts_of_inOrder (horder : s.InOrder a) {n : ℕ} {first : List (BitVec 8)}
    (h : s.firsts n = some first) :
    (if a.mark = .first ∧ n = a.amsdu then some a.skb.data else s.firsts n) = some first := by
  -- a first subframe comes before all others of its A-MSDU
  rw [if_neg, h]
  rintro ⟨hmark, rfl⟩
  rw [InOrder, hmark] at horder
  rw [horder] at h
  cases h

/-- A packet that is dropped because the interface is down only changes `amsdu_bit`. -/
theorem inv_step_down (hs : Inv s) (hup : a.host.up = false) {s' : AmsduSys}
    (hstep : step k s a = some s') : Inv s' := by
  unfold step at hstep
  split at hstep
  · rename_i horder
    -- `amsdu_bit` is set before `rsi_indicate_pkt_to_os` looks at the interface
    have hdata : dataPkt k a.host s.dev a.value a.skb a.behind =
        ({ s.dev with amsduBit := (markOf a.value).amsduBit s.dev.amsduBit },
          ⟨none, none, none⟩) := if_pos hup
    rw [hdata, expected, if_pos hup, nextKeeps, if_pos hup] at hstep
    cases hstep
    constructor
    · intro n hn
      obtain ⟨first, hfirst, hheader⟩ := hs.header n hn
      exact ⟨first, firsts_of_inOrder horder hfirst, hheader⟩
    · refine hs.delivered.cons rfl ?_ ?_ <;> intro n hn <;> cases hn
  · cases hstep

/-- A first subframe stores its header. -/
theorem dataPkt_first (hup : a.host.up = true) (hmark : markOf a.value = .first)
    (hlen : MAC_HDR_LEN ≤ a.skb.data.length) :
    dataPkt k a.host s.dev a.value a.skb a.behind =
      (⟨1, a.skb.data.take MAC_HDR_LEN⟩,
        ⟨deliver k a.host a.skb.data, some a.skb.data.length, none⟩) := by
  simp [dataPkt, indicatePktToOs, hup, hmark, Mark.amsduBit, header_eq a.behind hlen]

/-- A middle subframe gets the stored header. -/
theorem dataPkt_middle (hup : a.host.up = true) (hmark : markOf a.value = .middle) :
    dataPkt k a.host s.dev a.value a.skb a.behind =
      (⟨2, s.dev.lastMacHdr⟩,
        ⟨deliver k a.host (s.dev.lastMacHdr ++ a.skb.data), none, some a.skb.headroom⟩) := by
  simp [dataPkt, indicatePktToOs, hup, hmark, Mark.amsduBit]

/-- A last subframe gets the stored header and closes the A-MSDU. -/
theorem dataPkt_last (hup : a.host.up = true) (hmark : markOf a.value = .last) :
    dataPkt k a.host s.dev a.value a.skb a.behind =
      (⟨0, List.replicate MAC_HDR_LEN 0⟩,
        ⟨deliver k a.host (s.dev.lastMacHdr ++ a.skb.data), none, some a.skb.headroom⟩) := by
  simp [dataPkt, indicatePktToOs, hup, hmark, Mark.amsduBit]

/-- An ordinary packet behind a first subframe overwrites the header. -/
theorem dataPkt_ordinary_open (hup : a.host.up = true) (hmark : markOf a.value = .ordinary)
    (hbit : s.dev.amsduBit = 1) :
    dataPkt k a.host s.dev a.value a.skb a.behind =
      (⟨1, (a.behind.override a.skb.data).bytes 0 MAC_HDR_LEN⟩,
        ⟨deliver k a.host a.skb.data, some a.skb.data.length, none⟩) := by
  simp [dataPkt, indicatePktToOs, hup, hmark, Mark.amsduBit, hbit]

/-- With no A-MSDU open an ordinary packet is left alone. -/
theorem dataPkt_ordinary_closed (hup : a.host.up = true) (hmark : markOf a.value = .ordinary)
    (hbit : s.dev.amsduBit = 0) :
    dataPkt k a.host s.dev a.value a.skb a.behind =
      (⟨0, s.dev.lastMacHdr⟩, ⟨deliver k a.host a.skb.data, none, none⟩) := by
  simp [dataPkt, indicatePktToOs, hup, hmark, Mark.amsduBit, hbit]

/-- A packet in turn that arrives while the interface is up. -/
theorem inv_step_up (hpad : 32 ≤ env.netSkbPad) (hs : Inv s) (hturn : s.InTurn a)
    (hup : a.host.up = true) {s' : AmsduSys} (hstep : step k s a = some s') : Inv s' := by
  have hnone : ∀ n ∈ (none : Option ℕ), MAC_HDR_LEN ≤ n := fun n hn => by cases hn
  have hsome {m : ℕ} (hm : MAC_HDR_LEN ≤ m) : ∀ n ∈ some m, MAC_HDR_LEN ≤ n := by
    intro n hn
    rwa [← Option.mem_some_iff.1 hn]
  have hroom := hsome (header_le_headroom (a := a) hpad)
  have hturn := hturn hup
  have hnotDown : ¬ a.host.up = false := by
    rw [hup]
    decide
  unfold step at hstep
  split at hstep
  · rename_i horder
    rw [expected, if_neg hnotDown, nextKeeps, if_neg hnotDown] at hstep
    cases hmark : a.mark with
    | ordinary =>
      rw [hmark] at hstep hturn
      rcases hturn with hbit | ⟨hbit, hlen⟩
      · rw [dataPkt_ordinary_closed hup hmark hbit, hbit] at hstep
        cases hstep
        refine ⟨fun n hn => ?_, hs.delivered.cons rfl hnone hnone⟩
        obtain ⟨first, hfirst, hheader⟩ := hs.header n hn
        exact ⟨first, by simpa using hfirst, hheader⟩
      · -- from now on no header is stored
        rw [dataPkt_ordinary_open hup hmark hbit, hbit] at hstep
        cases hstep
        exact ⟨fun n hn => (by cases hn), hs.delivered.cons rfl hnone (hsome hlen)⟩
    -- the header that is stored is that of this packet
    | first =>
      rw [hmark] at hstep hturn
      rw [dataPkt_first hup hmark hturn] at hstep
      cases hstep
      refine ⟨fun n hn => ?_, hs.delivered.cons rfl hnone (hsome hturn)⟩
      cases hn
      exact ⟨a.skb.data, if_pos ⟨rfl, rfl⟩, rfl⟩
    -- the stored header is that of the first subframe, and stays
    | middle =>
      rw [hmark] at hstep hturn
      obtain ⟨first, hfirst, hheader⟩ := hs.header _ hturn
      rw [dataPkt_middle hup hmark, hheader] at hstep
      cases hstep
      refine ⟨fun n hn => ?_, hs.delivered.cons (by rw [hfirst]; rfl) hroom hnone⟩
      obtain ⟨first', hfirst', hheader'⟩ := hs.header n hn
      exact ⟨first', by simpa using hfirst', by rw [← hheader, hheader']⟩
    -- the stored header is that of the first subframe, and is cleared
    | last =>
      rw [hmark] at hstep hturn
      obtain ⟨first, hfirst, hheader⟩ := hs.header _ hturn
      rw [dataPkt_last hup hmark, hheader] at hstep
      cases hstep
      exact ⟨fun n hn => (by cases hn), hs.delivered.cons (by rw [hfirst]; rfl) hroom hnone⟩
  · cases hstep

/-- What holds in every run whose packets come in turn. -/
theorem inv_of_inTurn (hpad : 32 ≤ env.netSkbPad)
    (h : (system k env).ReachableVia InTurn s) : Inv s := by
  refine h.invariant Inv ?_ ?_
  · rintro s rfl
    exact inv_start
  · intro s a s' hs hturn hstep
    cases hup : a.host.up with
    | false => exact inv_step_down hs hup hstep
    | true => exact inv_step_up hpad hs hturn hup hstep

end Invariant

/-- **A-MSDU subframe delivery**: when the subframes of each A-MSDU arrive in order and the packets
come in turn, ordinary packets and first subframes are delivered unchanged and every later subframe
behind the header of the first one. The header fits into the headroom of the buffer and is never
copied from a shorter packet. -/
theorem delivered_of_inTurn (k : Ieee80211) (env : Env) (hpad : 32 ≤ env.netSkbPad) (s : AmsduSys)
    (h : (system k env).ReachableVia InTurn s) : s.Delivered :=
  (inv_of_inTurn hpad h).delivered

section Examples

/-- What the kernel says of an unprotected data frame. -/
def dataFrame : Ieee80211 := ⟨fun _ => 24, fun _ => false, fun _ => false⟩

/-- A station that is connected. -/
def online : Host := ⟨true, false, false, fun _ => true⟩

/-- A data packet with an extended descriptor of 16 bytes that ends with the two bytes of the
marks. -/
def dataTransfer (marks : List (BitVec 8)) (data : List (BitVec 8)) : ByteMemory :=
  .ofList ([BitVec.ofNat 8 (16 + data.length), 0x50, 0, 0, 16] ++ List.replicate 25 0 ++ marks ++
    data)

/-- A MAC header, with `b` in the place of the sequence number. -/
def macHeader (b : BitVec 8) : List (BitVec 8) := [0x08, 0] ++ List.replicate 23 1 ++ [b]

/-- The first subframe of an A-MSDU: its header. -/
def firstSubframe : Arrival allocating where
  value := 0x02400000
  skb := ⟨macHeader 1, 64, 0, 6⟩
  behind := fun _ => 0
  host := online
  amsdu := 0
  dispatched := ⟨defaultBuild, dataTransfer [0x40, 2] (macHeader 1), 0, 0, 16, rfl⟩

/-- A middle subframe of the same A-MSDU. -/
def middleSubframe : Arrival allocating where
  value := 0x02000000
  skb := ⟨[7], 64, 0, 6⟩
  behind := fun _ => 0
  host := online
  amsdu := 0
  dispatched := ⟨defaultBuild, dataTransfer [0, 2] [7], 0, 0, 16, rfl⟩

/-- The last subframe of the same A-MSDU. -/
def lastSubframe : Arrival allocating where
  value := 0x02800000
  skb := ⟨[8], 64, 0, 6⟩
  behind := fun _ => 0
  host := online
  amsdu := 0
  dispatched := ⟨defaultBuild, dataTransfer [0x80, 2] [8], 0, 0, 16, rfl⟩

/-- An ordinary packet. -/
def ordinaryPacket : Arrival allocating where
  value := 0
  skb := ⟨macHeader 2, 64, 0, 6⟩
  behind := fun _ => 0
  host := online
  amsdu := 0
  dispatched := ⟨defaultBuild, dataTransfer [0, 0] (macHeader 2), 0, 0, 16, rfl⟩

/-- An A-MSDU with all its subframes and then an ordinary packet. -/
theorem delivered_wholeAmsdu :
    Delivered (((system dataFrame allocating).runVia InTurn start
      [firstSubframe, middleSubframe, lastSubframe, ordinaryPacket]).get (by decide)) :=
  delivered_of_inTurn dataFrame allocating (by decide) _
    (TransitionSystem.reachableVia_get rfl (by decide))

/-- The last subframe is lost: the ordinary packet after it gets the header of the first one. -/
theorem not_delivered :
    ¬ ∀ s, (system dataFrame allocating).Reachable s → s.Delivered := by
  intro h
  have hrun : ((system dataFrame allocating).run start
      [firstSubframe, middleSubframe, ordinaryPacket]).isSome = true := by decide
  have hdelivered := h _ (TransitionSystem.reachable_get rfl hrun)
  have hordinary := (hdelivered _ List.mem_cons_self).1
  exact absurd hordinary (by decide)

end Examples

end AmsduSys

end Rx
