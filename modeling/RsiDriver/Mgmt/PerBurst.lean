import Mathlib.Data.Int.Notation
import Mathlib.Logic.Function.Iterate
import RsiDriver.Boot.Firmware

/-!
# Bursts for the measurement of packet errors

In its RF evaluation mode the driver sends test packets (`rsi_91x_per.c`). A burst is a `do` loop
that sends one fragment per round; `start_per_tx` has that loop for packets without aggregation, and
`rsi_handle_ta_confirm` (`rsi_91x_mgmt.c`) has the same one for the confirm of `AMPDU_IND`.
`do_continuous_send` works out the length of a fragment and hands it to the device, unless its
buffer is full. The parameters are those that user space has sent last; nothing checks them.

What becomes of each fragment is an input. The contents of the packets, the frames that
`start_per_tx` sends before the burst, and a missing buffer on SDIO, which the driver does not look
at, are left out. A fragment that was handed to the device is not freed either.

## Main results

* `burstLoop_eq`, `burstLoop_stuck`: the rounds of the loop, and when there is no end to them;
* `startPerTx_returns`: `start_per_tx` always returns;
* `carriesBytes_iff`: which bursts end and carry the requested bytes;
* `not_forall_carriesBytes`: a burst that was disabled while its confirm was on its way.
-/

namespace PerBurst

open Boot (DeviceModel FsmState)

/-- What becomes of a fragment. -/
inductive Fate
  /-- `dev_alloc_skb` returns `NULL`. -/
  | noMemory
  /-- The status of the buffers cannot be read. -/
  | statusUnread
  /-- `PKT_BUFF_FULL` -/
  | bufferFull
  /-- `rsi_send_pkt` fails. -/
  | notWritten
  | sent
  deriving DecidableEq, Repr

/-- A fragment that `do_continuous_send` was called for: `length` and `len`, what became of it, and
whether its buffer was freed. -/
structure Fragment where
  length : BitVec 16
  len : BitVec 16
  fate : Fate
  freed : Bool
  deriving DecidableEq, Repr

/-- The fields of `struct rsi_per_params` that a burst reads. -/
structure PerParams where
  enable : BitVec 16
  pktLength : BitVec 16
  mode : BitVec 16
  channel : BitVec 16
  aggrEnable : BitVec 16
  aggrCount : BitVec 16
  deriving DecidableEq, Repr

/-- `tx_running` -/
inductive TxRunning
  | stopped
  | continuousRunning
  | burstRunning
  deriving DecidableEq, Repr

/-- `struct rsi_hw`, with the fragments of the present burst. -/
structure Adapter where
  noOfPerFragments : BitVec 16
  totalPerPktSent : BitVec 32
  txRunning : TxRunning
  fsmState : FsmState
  fragments : List Fragment

def PER_AGGR_LIMIT_PER_PKT : BitVec 16 := 1792
def PER_BURST_MODE : BitVec 16 := 0
def PER_CONT_MODE : BitVec 16 := 1

section

variable (p : PerParams) (outcomes : ℕ → Fate)

/-- The length of the next fragment. -/
def fragmentLength (noOfPerFragments : BitVec 16) : BitVec 16 :=
  if p.aggrEnable = 1 then
    if noOfPerFragments ≠ 1 then PER_AGGR_LIMIT_PER_PKT
    else p.pktLength - (p.aggrCount - 1) * PER_AGGR_LIMIT_PER_PKT
  else if 1536 < p.pktLength then 1536
  else p.pktLength

/-- `do_continuous_send` -/
def doContinuousSend (a : Adapter) : ℤ × Adapter :=
  let length := fragmentLength p a.noOfPerFragments
  let noOfPerFragments :=
    if p.aggrEnable = 1 then a.noOfPerFragments - 1 else a.noOfPerFragments
  -- `FRAME_DESC_SZ`, the extended descriptor, and the CRC that the device adds
  let len := length + 16 + 4 - 4
  let fate := outcomes a.fragments.length
  let a := { a with noOfPerFragments, fragments := a.fragments ++ [⟨length, len, fate, false⟩] }
  match fate with
  | .noMemory | .statusUnread | .notWritten => (-1, a)
  | .bufferFull => (0, a)
  | .sent => (0, { a with totalPerPktSent := a.totalPerPktSent + 1 })

/-- `rsi_start_per_burst`; no caller looks at what it returns. -/
def startPerBurst (a : Adapter) : Adapter :=
  if p.enable ≠ 0 then (doContinuousSend p outcomes a).2 else a

/-- The `do` loop of a burst; `none` when the fuel has run out. -/
def burstLoop : ℕ → BitVec 32 → Adapter → Option Adapter
  | 0, _, _ => none
  | fuel + 1, noOfFragments, a =>
    let (noOfFragments, a) :=
      if p.enable ≠ 0 then (noOfFragments - 1, startPerBurst p outcomes a) else (noOfFragments, a)
    if noOfFragments ≠ 0 ∧ p.aggrEnable ≠ 0 then burstLoop fuel noOfFragments a else some a

/-- A burst, with the counters as both handlers set them. -/
def burst (fuel : ℕ) (a : Adapter) : Option Adapter :=
  burstLoop p outcomes fuel (p.aggrCount.setWidth 32)
    { a with noOfPerFragments := p.aggrCount, fragments := [] }

/-- `AMPDU_IND` in `rsi_handle_ta_confirm` -/
def ampduInd (rfEvalMode : Bool) (fuel : ℕ) (a : Adapter) : Option Adapter :=
  if rfEvalMode then
    (burst p outcomes fuel a).map fun a =>
      { a with fsmState := .macInitDone, txRunning := .burstRunning }
  else some a

/-- What `start_per_tx` finds on its way to the burst. -/
structure StartInputs where
  deviceModel : DeviceModel
  disableProgramming : Bool
  bbReset : ℤ
  /-- What the wait for the channel returns. -/
  chanSet : ℤ
  heTbMu : ℤ

/-- `start_per_tx`, from `SEND_PER_CMD` on -/
def sendPerCmd (i : StartInputs) (fuel : ℕ) (a : Adapter) : Option (ℤ × Adapter) :=
  if p.pktLength = 0 then some (-1, a)
  else if (i.deviceModel = .dev9117 ∨ i.deviceModel = .dev917) ∧ i.heTbMu ≠ 0 then some (-1, a)
  else if p.mode = PER_CONT_MODE then
    -- a continuous transmission is one packet that the device repeats
    let (status, a) := doContinuousSend p outcomes { a with fragments := [] }
    if status ≠ 0 then some (-1, a) else some (0, { a with txRunning := .continuousRunning })
  else if p.mode = PER_BURST_MODE then
    -- the fragments of an aggregate wait for the confirm
    if p.aggrEnable = 1 then some (0, { a with fsmState := .ampduIndSent })
    else if a.fsmState = .macInitDone then
      (burst p outcomes fuel a).map fun a => (0, { a with txRunning := .burstRunning })
    else some (-1, a)
  else some (0, a)

/-- `start_per_tx` -/
def startPerTx (i : StartInputs) (fuel : ℕ) (a : Adapter) : Option (ℤ × Adapter) :=
  if p.enable ≠ 0 then
    if a.txRunning ≠ .stopped then some (-1, a)
    else if i.deviceModel ≠ .dev9113 ∧ i.disableProgramming then sendPerCmd p outcomes i fuel a
    else if p.channel = 0xff then
      if i.bbReset ≠ 0 then some (-1, a) else sendPerCmd p outcomes i fuel a
    else if p.channel ≠ 0 then
      if i.chanSet < 0 then some (i.chanSet, { a with fsmState := .scanCfm })
      else sendPerCmd p outcomes i fuel { a with fsmState := .macInitDone }
    else sendPerCmd p outcomes i fuel a
  else
    match a.txRunning with
    | .stopped => some (-1, a)
    | .continuousRunning | .burstRunning => some (0, { a with txRunning := .stopped })

end

/-! ## The rounds of a burst -/

variable {p : PerParams} {outcomes : ℕ → Fate}

/-- The burst comes to an end: it is enabled, or the loop is left behind its first round. -/
def Ends (p : PerParams) : Prop := p.enable ≠ 0 ∨ p.aggrEnable = 0 ∨ p.aggrCount = 0

/-- How many fragments a burst tries to send. With aggregation a count of 0 is counted down through
all 2^32 values. -/
def rounds (p : PerParams) : ℕ :=
  if p.enable = 0 then 0
  else if p.aggrEnable = 0 then 1
  else (p.aggrCount.setWidth 32 - 1).toNat + 1

/-- The loop with aggregation goes round as often as its counter says. -/
theorem burstLoop_eq (henable : p.enable ≠ 0) (haggr : p.aggrEnable ≠ 0) (fuel : ℕ)
    (noOfFragments : BitVec 32) (a : Adapter) :
    burstLoop p outcomes fuel noOfFragments a =
      if (noOfFragments - 1).toNat + 1 ≤ fuel then
        some ((startPerBurst p outcomes)^[(noOfFragments - 1).toNat + 1] a)
      else none := by
  induction fuel generalizing noOfFragments a with
  | zero => simp [burstLoop]
  | succ fuel ih =>
    rw [burstLoop]
    simp only [if_pos henable]
    by_cases hlast : noOfFragments - 1 = 0
    · have hround : (noOfFragments - 1).toNat = 0 := congrArg BitVec.toNat hlast
      rw [if_neg (fun hand => hand.1 hlast), hround, if_pos (Nat.le_add_left 1 fuel)]
      rfl
    · -- the counter is one lower in the next round
      have hpred : (noOfFragments - 1 - 1).toNat + 1 = (noOfFragments - 1).toNat := by
        have hpos : (noOfFragments - 1).toNat ≠ 0 := fun h => hlast (BitVec.eq_of_toNat_eq h)
        have hlt := (noOfFragments - 1).isLt
        rw [BitVec.toNat_sub (noOfFragments - 1) 1]
        simp only [BitVec.reduceToNat]
        omega
      rw [if_pos ⟨hlast, haggr⟩, ih, hpred]
      simp only [Nat.add_le_add_iff_right, Function.iterate_succ_apply]

/-- A disabled burst that waits for its counter never ends. -/
theorem burstLoop_stuck (henable : p.enable = 0) (haggr : p.aggrEnable ≠ 0)
    {noOfFragments : BitVec 32} (hcount : noOfFragments ≠ 0) (fuel : ℕ) (a : Adapter) :
    burstLoop p outcomes fuel noOfFragments a = none := by
  induction fuel with
  | zero => rfl
  | succ fuel ih =>
    rw [burstLoop]
    simp only [henable, ne_eq, not_true_eq_false, if_false]
    rw [if_pos ⟨hcount, haggr⟩, ih]

theorem setWidth_eq_zero_iff (n : BitVec 16) : n.setWidth 32 = 0 ↔ n = 0 := by
  have hwidth : (n.setWidth 32).toNat = n.toNat := BitVec.toNat_setWidth_of_le (by decide)
  constructor
  · intro h
    have hzero : (n.setWidth 32).toNat = 0 := congrArg BitVec.toNat h
    exact BitVec.eq_of_toNat_eq (hwidth.symm.trans hzero)
  · rintro rfl
    rfl

/-- The start of a burst -/
def Adapter.start (a : Adapter) (p : PerParams) : Adapter :=
  { a with noOfPerFragments := p.aggrCount, fragments := [] }

/-- A burst that ends has made its rounds. -/
theorem burst_eq (h : Ends p) (fuel : ℕ) (a : Adapter) :
    burst p outcomes (fuel + 1) a =
      if rounds p ≤ fuel + 1 then some ((startPerBurst p outcomes)^[rounds p] (a.start p))
      else none := by
  rw [burst, rounds]
  by_cases henable : p.enable = 0
  · have hend : ¬ (p.aggrCount.setWidth 32 ≠ 0 ∧ p.aggrEnable ≠ 0) := by
      rw [ne_eq, setWidth_eq_zero_iff]
      rintro ⟨hcount, haggr⟩
      exact h.elim (fun hne => hne henable) fun hor => hor.elim haggr hcount
    rw [burstLoop, if_pos henable]
    simp only [henable, ne_eq, not_true_eq_false, if_false]
    rw [if_neg hend, if_pos (Nat.zero_le _)]
    rfl
  · rw [if_neg henable]
    by_cases haggr : p.aggrEnable = 0
    · -- without aggregation the loop is left behind the first round
      rw [if_pos haggr, burstLoop]
      simp only [if_pos henable, haggr, ne_eq, not_true_eq_false, and_false, if_false]
      rw [if_pos (Nat.le_add_left 1 fuel)]
      rfl
    · rw [if_neg haggr, burstLoop_eq henable haggr]
      rfl

theorem burst_stuck (h : ¬ Ends p) (fuel : ℕ) (a : Adapter) : burst p outcomes fuel a = none := by
  simp only [Ends, not_or, ne_eq, not_not] at h
  exact burstLoop_stuck h.1 h.2.1 (mt (setWidth_eq_zero_iff _).1 h.2.2) fuel _

/-- `start_per_tx` always returns: its loop is for bursts that are enabled. -/
theorem startPerTx_returns (p : PerParams) (outcomes : ℕ → Fate) (i : StartInputs) (a : Adapter) :
    ∃ fuel, (startPerTx p outcomes i fuel a).isSome = true := by
  refine ⟨rounds p + 1, ?_⟩
  by_cases henable : p.enable = 0
  · simp only [startPerTx, henable, ne_eq, not_true_eq_false, if_false]
    cases a.txRunning <;> rfl
  have hsend (a : Adapter) : (sendPerCmd p outcomes i (rounds p + 1) a).isSome = true := by
    have hburst : (burst p outcomes (rounds p + 1) a).isSome = true := by
      rw [burst_eq (.inl henable), if_pos (Nat.le_succ _)]
      rfl
    unfold sendPerCmd
    -- one case for each way through the function; the burst is one of them
    repeat' split
    all_goals first
      | rfl
      | rw [Option.isSome_map]; exact hburst
  unfold startPerTx
  repeat' split
  all_goals first
    | rfl
    | exact hsend _

/-! ## The fragments -/

/-- The length of fragment `i` of a burst -/
def lengthAt (p : PerParams) (i : ℕ) : BitVec 16 :=
  fragmentLength p (p.aggrCount - BitVec.ofNat 16 i)

/-- Fragment `i` of a burst -/
def fragmentAt (p : PerParams) (outcomes : ℕ → Fate) (i : ℕ) : Fragment :=
  ⟨lengthAt p i, lengthAt p i + 16 + 4 - 4, outcomes i, false⟩

/-- Without aggregation the counter has no influence on the length. -/
theorem fragmentLength_of_ne (h : p.aggrEnable ≠ 1) (m n : BitVec 16) :
    fragmentLength p m = fragmentLength p n := by
  rw [fragmentLength, fragmentLength, if_neg h, if_neg h]

theorem doContinuousSend_fragments (a : Adapter) :
    (doContinuousSend p outcomes a).2.fragments = a.fragments ++
      [⟨fragmentLength p a.noOfPerFragments, fragmentLength p a.noOfPerFragments + 16 + 4 - 4,
        outcomes a.fragments.length, false⟩] := by
  unfold doContinuousSend
  dsimp only
  split <;> rfl

theorem doContinuousSend_noOfPerFragments (a : Adapter) (h : p.aggrEnable = 1) :
    (doContinuousSend p outcomes a).2.noOfPerFragments = a.noOfPerFragments - 1 := by
  unfold doContinuousSend
  simp only [if_pos h]
  split <;> rfl

/-- The fragments behind `i` rounds. -/
theorem fragments_iterate (outcomes : ℕ → Fate) (henable : p.enable ≠ 0) (i : ℕ) (a : Adapter) :
    ((startPerBurst p outcomes)^[i] (a.start p)).fragments =
        (List.range i).map (fragmentAt p outcomes) ∧
      (p.aggrEnable = 1 → ((startPerBurst p outcomes)^[i] (a.start p)).noOfPerFragments =
        p.aggrCount - BitVec.ofNat 16 i) := by
  induction i with
  | zero => simp [Adapter.start]
  | succ i ih =>
    rw [Function.iterate_succ_apply', startPerBurst, if_pos henable]
    generalize (startPerBurst p outcomes)^[i] (a.start p) = b at ih ⊢
    obtain ⟨hfragments, hcounter⟩ := ih
    constructor
    · -- the counter tells the length, and is not used without aggregation
      have hlength : fragmentLength p b.noOfPerFragments = lengthAt p i := by
        by_cases haggr : p.aggrEnable = 1
        · rw [hcounter haggr, lengthAt]
        · exact fragmentLength_of_ne haggr _ _
      rw [doContinuousSend_fragments, hfragments, hlength, List.length_map, List.length_range,
        List.range_succ, List.map_append]
      rfl
    · intro haggr
      have hsucc : BitVec.ofNat 16 (i + 1) = BitVec.ofNat 16 i + 1 := BitVec.ofNat_add i 1
      rw [doContinuousSend_noOfPerFragments _ haggr, hcounter haggr, hsucc, BitVec.sub_sub]

/-- The counter of the packets that were sent behind `i` rounds. -/
theorem totalPerPktSent_iterate (outcomes : ℕ → Fate) (henable : p.enable ≠ 0) (i : ℕ)
    (a : Adapter) :
    ((startPerBurst p outcomes)^[i] (a.start p)).totalPerPktSent = a.totalPerPktSent +
      BitVec.ofNat 32 (((List.range i).map (fragmentAt p outcomes)).countP (·.fate = .sent)) := by
  induction i with
  | zero => simp [Adapter.start]
  | succ i ih =>
    have hlength : ((startPerBurst p outcomes)^[i] (a.start p)).fragments.length = i := by
      rw [(fragments_iterate outcomes henable i a).1, List.length_map, List.length_range]
    have hfate : (fragmentAt p outcomes i).fate = outcomes i := rfl
    rw [Function.iterate_succ_apply', startPerBurst, if_pos henable, List.range_succ,
      List.map_append, List.countP_append, BitVec.ofNat_add, ← BitVec.add_assoc, ← ih]
    generalize (startPerBurst p outcomes)^[i] (a.start p) = b at hlength
    unfold doContinuousSend
    dsimp only
    -- only a fragment that was sent is counted
    rw [hlength]
    cases h : outcomes i <;> simp [hfate, h]

/-! ## Which bursts carry the requested bytes -/

/-- The fragments of a burst are as many as requested and make up the packet, each of them but the
last has the full length, their lengths fit 16 bits with the descriptor, those that were sent are
counted, and one that the device has refused is freed. -/
structure Exact (p : PerParams) (a b : Adapter) : Prop where
  count : p.aggrEnable = 1 → b.fragments.length = p.aggrCount.toNat
  bytes : p.enable ≠ 0 → p.aggrEnable = 1 →
    (b.fragments.map fun f => f.length.toNat).sum = p.pktLength.toNat
  whole : p.aggrEnable = 1 → ∀ f ∈ b.fragments.dropLast, f.length = PER_AGGR_LIMIT_PER_PKT
  unwrapped : ∀ f ∈ b.fragments, f.len.toNat = f.length.toNat + 16
  counted : b.totalPerPktSent =
    a.totalPerPktSent + BitVec.ofNat 32 (b.fragments.countP (·.fate = .sent))
  refused : ∀ f ∈ b.fragments, f.fate = .bufferFull → f.freed = true

/-- A burst ends, and it carries the requested bytes. -/
structure CarriesBytes (p : PerParams) (outcomes : ℕ → Fate) (a : Adapter) : Prop where
  ends : ∃ fuel, (burst p outcomes fuel a).isSome = true
  exact : ∀ fuel b, burst p outcomes fuel a = some b → Exact p a b

/-- A burst that ends is to be judged by its rounds. -/
theorem carriesBytes_iff_exact (h : Ends p) (a : Adapter) :
    CarriesBytes p outcomes a ↔
      Exact p a ((startPerBurst p outcomes)^[rounds p] (a.start p)) := by
  have hburst : burst p outcomes (rounds p + 1) a = _ := burst_eq h (rounds p) a
  rw [if_pos (Nat.le_succ _)] at hburst
  constructor
  · intro hcarries
    exact hcarries.exact _ _ hburst
  · intro hexact
    -- more fuel does not change where the burst ends
    refine ⟨⟨_, by rw [hburst]; rfl⟩, fun fuel b hb => ?_⟩
    cases fuel with
    | zero => exact absurd hb (by simp [burst, burstLoop])
    | succ fuel =>
      rw [burst_eq h] at hb
      split at hb
      · obtain rfl := Option.some.inj hb
        exact hexact
      · exact absurd hb (by simp)

/-- The descriptor fits behind the length in 16 bits. -/
theorem len_iff (length : BitVec 16) :
    (length + 16 + 4 - 4).toNat = length.toNat + 16 ↔ length.toNat + 16 < 2 ^ 16 := by
  rw [BitVec.add_sub_cancel, BitVec.toNat_add]
  simp only [BitVec.reduceToNat]
  omega

/-- The length of a fragment with aggregation. -/
theorem lengthAt_of_aggr (haggr : p.aggrEnable = 1) {i : ℕ} (hi : i < p.aggrCount.toNat) :
    lengthAt p i =
      if i + 1 = p.aggrCount.toNat then
        p.pktLength - (p.aggrCount - 1) * PER_AGGR_LIMIT_PER_PKT
      else PER_AGGR_LIMIT_PER_PKT := by
  have hcount := p.aggrCount.isLt
  have hlast : p.aggrCount - BitVec.ofNat 16 i = 1 ↔ i + 1 = p.aggrCount.toNat := by
    rw [← BitVec.toNat_inj, BitVec.toNat_sub, BitVec.toNat_ofNat]
    simp only [BitVec.reduceToNat]
    omega
  rw [lengthAt, fragmentLength, if_pos haggr, ite_not]
  simp only [hlast]

/-- The length of the last fragment is a difference that has not wrapped. -/
theorem lastLength_add_iff {c : BitVec 16} {n : ℕ} (hn : n + 1 = c.toNat) (len : BitVec 16) :
    n * 1792 + (len - (c - 1) * PER_AGGR_LIMIT_PER_PKT).toNat = len.toNat ↔
      n * 1792 ≤ len.toNat := by
  have hlen := len.isLt
  have hpred : (c - 1).toNat = n := by
    have hlt := c.isLt
    rw [BitVec.toNat_sub c 1]
    simp only [BitVec.reduceToNat]
    omega
  rw [BitVec.toNat_sub, BitVec.toNat_mul, hpred, PER_AGGR_LIMIT_PER_PKT]
  simp only [BitVec.reduceToNat]
  omega

/-- An aggregate whose packet has room for all but the last of its fragments, and whose last one
fits 16 bits with its descriptor. -/
def Divides (p : PerParams) : Prop :=
  p.aggrCount ≠ 0 ∧ (p.aggrCount.toNat - 1) * 1792 ≤ p.pktLength.toNat ∧
    p.pktLength.toNat + 16 < (p.aggrCount.toNat - 1) * 1792 + 2 ^ 16

instance (p : PerParams) : Decidable (Divides p) := inferInstanceAs (Decidable (_ ∧ _))

theorem rounds_of_aggr (henable : p.enable ≠ 0) (haggr : p.aggrEnable = 1) :
    rounds p = if p.aggrCount = 0 then 2 ^ 32 else p.aggrCount.toNat := by
  have hone : p.aggrEnable ≠ 0 := by rw [haggr]; decide
  have hcount := p.aggrCount.isLt
  have hwidth : (p.aggrCount.setWidth 32).toNat = p.aggrCount.toNat :=
    BitVec.toNat_setWidth_of_le (by decide)
  have hzero : p.aggrCount = 0 ↔ p.aggrCount.toNat = 0 := BitVec.toNat_inj.symm
  rw [rounds, if_neg henable, if_neg hone, BitVec.toNat_sub, hwidth]
  simp only [BitVec.reduceToNat, hzero]
  split <;> omega

/-- The lengths of an aggregate: full ones, and the last one. -/
theorem lengths_of_aggr (outcomes : ℕ → Fate) (haggr : p.aggrEnable = 1) {n : ℕ}
    (hn : n + 1 = p.aggrCount.toNat) :
    (List.range (n + 1)).map (fun i => (fragmentAt p outcomes i).length) =
      List.replicate n PER_AGGR_LIMIT_PER_PKT ++
        [p.pktLength - (p.aggrCount - 1) * PER_AGGR_LIMIT_PER_PKT] := by
  have hfull : (List.range n).map (fun i => (fragmentAt p outcomes i).length) =
      List.replicate n PER_AGGR_LIMIT_PER_PKT := by
    rw [List.eq_replicate_iff]
    refine ⟨by simp, fun length hmem => ?_⟩
    obtain ⟨i, hi, rfl⟩ := List.mem_map.1 hmem
    have hlt := List.mem_range.1 hi
    exact (lengthAt_of_aggr haggr (by omega)).trans (if_neg (by omega))
  have hlast : (fragmentAt p outcomes n).length =
      p.pktLength - (p.aggrCount - 1) * PER_AGGR_LIMIT_PER_PKT :=
    (lengthAt_of_aggr haggr (by omega)).trans (if_pos hn)
  rw [List.range_succ, List.map_append, hfull, List.map_singleton, hlast]

/-- No fragment is freed, so none may be refused. -/
theorem refused_iff (p : PerParams) (outcomes : ℕ → Fate) (n : ℕ) :
    (∀ f ∈ (List.range n).map (fragmentAt p outcomes), f.fate = .bufferFull → f.freed = true) ↔
      ∀ i < n, outcomes i ≠ .bufferFull := by
  simp [fragmentAt]

/-- A disabled burst that ends does nothing. -/
theorem exact_of_disabled (henable : p.enable = 0) (h : Ends p) (a : Adapter) :
    Exact p a (a.start p) := by
  refine ⟨fun haggr => ?_, fun hne => absurd henable hne, ?_, ?_, ?_, ?_⟩
  · -- the burst has ended because its count is 0
    have hone : p.aggrEnable ≠ 0 := by rw [haggr]; decide
    have hcount : p.aggrCount = 0 := h.elim (absurd henable) fun hor => hor.resolve_left hone
    rw [hcount]
    rfl
  all_goals simp [Adapter.start]

/-- Fragments without aggregation: only a refused one does harm. -/
theorem exact_iff_of_not_aggr (henable : p.enable ≠ 0) (haggr : p.aggrEnable ≠ 1) (n : ℕ)
    (a : Adapter) :
    Exact p a ((startPerBurst p outcomes)^[n] (a.start p)) ↔
      ∀ i < n, outcomes i ≠ .bufferFull := by
  have hfragments := (fragments_iterate outcomes henable n a).1
  have htotal := totalPerPktSent_iterate outcomes henable n a
  rw [← refused_iff p outcomes n, ← hfragments]
  refine ⟨fun h => h.refused, fun hrefused => ⟨fun h => absurd h haggr, fun _ h => absurd h haggr,
    fun h => absurd h haggr, ?_, ?_, hrefused⟩⟩
  · intro f hf
    rw [hfragments] at hf
    obtain ⟨i, -, rfl⟩ := List.mem_map.1 hf
    refine (len_iff _).2 ?_
    -- 1536 bytes at most
    simp only [lengthAt, fragmentLength, if_neg haggr]
    split
    · decide
    · next hle =>
      have := BitVec.le_def.1 (BitVec.not_lt.1 hle)
      simp only [BitVec.reduceToNat] at this
      omega
  · rw [hfragments]
    exact htotal

/-- The fragments of an aggregate make up the packet when the full ones have room in it. -/
theorem sum_lengths_iff {fragments : List Fragment} {n : ℕ} (hn : n + 1 = p.aggrCount.toNat)
    (hlengths : fragments.map Fragment.length = List.replicate n PER_AGGR_LIMIT_PER_PKT ++
      [p.pktLength - (p.aggrCount - 1) * PER_AGGR_LIMIT_PER_PKT]) :
    (fragments.map fun f => f.length.toNat).sum = p.pktLength.toNat ↔
      n * 1792 ≤ p.pktLength.toNat := by
  have hmap : (fragments.map fun f => f.length.toNat) =
      (fragments.map Fragment.length).map BitVec.toNat := by
    rw [List.map_map]
    rfl
  have hfull : PER_AGGR_LIMIT_PER_PKT.toNat = 1792 := rfl
  rw [hmap, hlengths, List.map_append, List.sum_append_nat, List.map_replicate,
    List.sum_replicate_nat, hfull, List.map_singleton, List.sum_singleton]
  exact lastLength_add_iff hn p.pktLength

/-- The lengths of an aggregate fit 16 bits with the descriptor when the last one does. -/
theorem unwrapped_iff {fragments : List Fragment} {n : ℕ} {lastLength : BitVec 16}
    (hfragments : fragments = (List.range (n + 1)).map (fragmentAt p outcomes))
    (hlengths : fragments.map Fragment.length =
      List.replicate n PER_AGGR_LIMIT_PER_PKT ++ [lastLength]) :
    (∀ f ∈ fragments, f.len.toNat = f.length.toNat + 16) ↔ lastLength.toNat + 16 < 2 ^ 16 := by
  have hlen : ∀ f ∈ fragments, (f.len.toNat = f.length.toNat + 16 ↔
      f.length.toNat + 16 < 2 ^ 16) := by
    intro f hf
    rw [hfragments] at hf
    obtain ⟨i, -, rfl⟩ := List.mem_map.1 hf
    exact len_iff _
  -- only the last fragment can be long
  have hall : (∀ length ∈ fragments.map Fragment.length, length.toNat + 16 < 2 ^ 16) ↔
      lastLength.toNat + 16 < 2 ^ 16 := by
    rw [hlengths]
    constructor
    · intro h
      exact h _ (by simp)
    · intro h length hmem
      obtain hfull | hlast := List.mem_append.1 hmem
      · rw [(List.mem_replicate.1 hfull).2]
        decide
      · rw [List.mem_singleton.1 hlast]
        exact h
  rw [← hall, List.forall_mem_map]
  exact forall₂_congr hlen

/-- Fragments of an aggregate. -/
theorem exact_iff_of_aggr (henable : p.enable ≠ 0) (haggr : p.aggrEnable = 1) (a : Adapter) :
    Exact p a ((startPerBurst p outcomes)^[rounds p] (a.start p)) ↔
      Divides p ∧ ∀ i < rounds p, outcomes i ≠ .bufferFull := by
  have hfragments := (fragments_iterate outcomes henable (rounds p) a).1
  have htotal := totalPerPktSent_iterate outcomes henable (rounds p) a
  by_cases hcount : p.aggrCount = 0
  · -- 2^32 fragments instead of none
    refine iff_of_false (fun h => ?_) (fun h => h.1.1 hcount)
    have hlength := h.count haggr
    rw [hfragments, List.length_map, List.length_range, rounds_of_aggr henable haggr,
      if_pos hcount, hcount] at hlength
    exact absurd hlength (by decide)
  obtain ⟨n, hn⟩ : ∃ n, n + 1 = p.aggrCount.toNat := by
    have hpos : p.aggrCount.toNat ≠ 0 := fun h => hcount (BitVec.eq_of_toNat_eq h)
    exact ⟨p.aggrCount.toNat - 1, by omega⟩
  have hrounds : rounds p = n + 1 := by rw [rounds_of_aggr henable haggr, if_neg hcount, hn]
  rw [hrounds] at hfragments htotal ⊢
  have hlengths : ((startPerBurst p outcomes)^[n + 1] (a.start p)).fragments.map
      Fragment.length = List.replicate n PER_AGGR_LIMIT_PER_PKT ++
        [p.pktLength - (p.aggrCount - 1) * PER_AGGR_LIMIT_PER_PKT] := by
    rw [hfragments, List.map_map]
    exact lengths_of_aggr outcomes haggr hn
  generalize (startPerBurst p outcomes)^[n + 1] (a.start p) = b at hfragments htotal hlengths ⊢
  have hbytes := sum_lengths_iff hn hlengths
  have hfits := unwrapped_iff hfragments hlengths
  have hlast := lastLength_add_iff hn p.pktLength
  rw [← refused_iff p outcomes, ← hfragments, Divides, ← hn, Nat.add_sub_cancel]
  constructor
  · intro h
    have hle := hbytes.1 (h.bytes henable haggr)
    have hsum := hlast.2 hle
    have hroom := hfits.1 h.unwrapped
    exact ⟨⟨hcount, hle, by omega⟩, h.refused⟩
  · rintro ⟨⟨-, hle, hroom⟩, hrefused⟩
    have hsum := hlast.2 hle
    refine ⟨fun _ => ?_, fun _ _ => hbytes.2 hle, fun _ => ?_, hfits.2 (by omega), ?_, hrefused⟩
    · rw [hfragments, List.length_map, List.length_range]
      exact hn
    · intro f hf
      have hmem : f.length ∈ (b.fragments.map Fragment.length).dropLast := by
        rw [← List.map_dropLast]
        exact List.mem_map_of_mem hf
      rw [hlengths, List.dropLast_concat] at hmem
      exact (List.mem_replicate.1 hmem).2
    · rw [hfragments]
      exact htotal

/-- Which bursts end and carry the requested bytes: those that are enabled or do not wait for a
count; with aggregation the count divides the packet; and the device refuses no fragment. -/
theorem carriesBytes_iff (p : PerParams) (outcomes : ℕ → Fate) (a : Adapter) :
    CarriesBytes p outcomes a ↔
      (p.enable ≠ 0 ∨ p.aggrEnable = 0 ∨ p.aggrCount = 0) ∧
        (p.enable ≠ 0 → p.aggrEnable = 1 → Divides p) ∧
        ∀ i < rounds p, outcomes i ≠ .bufferFull := by
  by_cases hends : Ends p
  · refine (carriesBytes_iff_exact hends a).trans (Iff.trans ?_ (and_iff_right hends).symm)
    by_cases henable : p.enable = 0
    · have hnone : rounds p = 0 := if_pos henable
      rw [hnone]
      exact iff_of_true (exact_of_disabled henable hends a)
        ⟨fun hne => absurd henable hne, fun i hi => absurd hi (Nat.not_lt_zero i)⟩
    by_cases haggr : p.aggrEnable = 1
    · rw [exact_iff_of_aggr henable haggr]
      exact and_congr_left fun _ => ⟨fun h _ _ => h, fun h => h henable haggr⟩
    · rw [exact_iff_of_not_aggr henable haggr]
      exact (and_iff_right fun _ h => absurd h haggr).symm
  · -- the loop goes on for any fuel
    refine iff_of_false (fun h => ?_) (fun h => hends h.1)
    obtain ⟨fuel, hsome⟩ := h.ends
    rw [burst_stuck hends] at hsome
    exact absurd hsome (by simp)

/-- The parameters of user space while the confirm of an aggregate of one fragment was on its way:
the burst is disabled. -/
def disabledParams : PerParams where
  enable := 0
  pktLength := 1000
  mode := PER_BURST_MODE
  channel := 6
  aggrEnable := 1
  aggrCount := 1

/-- A disabled burst whose confirm arrives keeps the handler in its loop for ever. -/
theorem not_forall_carriesBytes :
    ¬ ∀ (p : PerParams) (outcomes : ℕ → Fate) (a : Adapter), CarriesBytes p outcomes a := by
  intro h
  obtain ⟨fuel, hsome⟩ :=
    (h disabledParams (fun _ => .sent) ⟨0, 0, .stopped, .ampduIndSent, []⟩).ends
  rw [burst_stuck (by simp [Ends, disabledParams])] at hsome
  exact absurd hsome (by simp)

end PerBurst
