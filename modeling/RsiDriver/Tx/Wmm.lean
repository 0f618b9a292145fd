import Mathlib.Data.Int.Order.Basic
import Mathlib.Data.Fintype.Card
import RsiDriver.ToMathlib.CountedRun
import RsiDriver.Tx.Adapter

/-!
# Choosing the next transmit queue

`rsi_core_determine_hal_queue` (`rsi_91x_core.c`) chooses the queue from which the transmit thread
takes its next packet. Frames of the driver go first. Among the data queues it imitates channel
access: each queue that takes part in the contention has a weight, the queue with the least weight
is chosen, and that weight is taken off the weights of the others; a queue that enters the
contention starts with its `wme_params`. A voice or video queue that is chosen may send a burst.

`min_weight` has eight bits and the weights have more. The weight of the first queue that contends
is cut off when it is taken for the minimum, and it stays the first choice unless a later queue is
below what is left of it. If nothing is left, no weight is reduced at all.

## Main results

* `leastBackoff_spec`: which queue is chosen, and with which minimum;
* `getQueueNum_isSome`: two passes over the queues are enough;
* `exists_inv_of_reachable`: weights and `wme_params` are never negative.
-/

namespace Tx

/-- `struct wmm_qinfo`. The two 32-bit numbers are never out of range. -/
structure WmmQinfo where
  weight : ℤ
  wmeParams : ℤ
  pktContended : Bool
  deriving DecidableEq, Repr

/-- `struct ieee80211_tx_queue_params`, as far as the choice of queues goes by it. -/
structure TxQueueParams where
  cwMin : BitVec 16
  txop : BitVec 16
  aifs : BitVec 8
  acm : Bool
  deriving DecidableEq, Repr

/-- What `rsi_core_determine_hal_queue` reads and writes. `returned` is the queue that the transmit
thread got from it and has not yet taken a packet from. -/
structure Wmm where
  txQinfo : Fin NUM_EDCA_QUEUES → WmmQinfo
  edcaParams : Fin NUM_EDCA_QUEUES → TxQueueParams
  /-- `skb_queue_len(&tx_queue[q])` -/
  qLen : QNum → ℕ
  minWeight : BitVec 8
  selectedQnum : QNum
  pktCnt : ℕ
  hwDataQsBlocked : Bool
  returned : Option QNum

namespace Wmm

/-- The data queue `ii` takes part in the contention and has a packet. -/
def contends (s : Wmm) (ii : Fin NUM_EDCA_QUEUES) : Bool :=
  (s.txQinfo ii).pktContended && s.qLen (ii.castLE edca_le) != 0

theorem contends_iff {s : Wmm} {ii : Fin NUM_EDCA_QUEUES} :
    s.contends ii = true ↔ (s.txQinfo ii).pktContended = true ∧ s.qLen (ii.castLE edca_le) ≠ 0 := by
  unfold contends
  rw [Bool.and_eq_true, bne_iff_ne]

/-- `rsi_determine_min_weight_queue`: the first queue that contends; `none` stands for
`NUM_EDCA_QUEUES`. -/
def determineMinWeightQueue (s : Wmm) : Option (Fin NUM_EDCA_QUEUES) :=
  (List.finRange NUM_EDCA_QUEUES).find? s.contends

/-- One turn of the loop that looks for the least back-off, with the choice so far and
`min_weight`. -/
def leastBackoffStep (s : Wmm) (first : Fin NUM_EDCA_QUEUES)
    (acc : Fin NUM_EDCA_QUEUES × BitVec 8) (ii : Fin NUM_EDCA_QUEUES) :
    Fin NUM_EDCA_QUEUES × BitVec 8 :=
  -- an `int` is compared with a `u8`, and stored in it
  if first ≤ ii ∧ s.contends ii = true ∧ (s.txQinfo ii).weight < acc.2.toNat then
    (ii, BitVec.ofInt 8 (s.txQinfo ii).weight)
  else acc

/-- The queue with the least back-off and `min_weight`, which takes eight bits of the weight of
`first` to begin with. -/
def leastBackoff (s : Wmm) (first : Fin NUM_EDCA_QUEUES) : Fin NUM_EDCA_QUEUES × BitVec 8 :=
  (List.finRange NUM_EDCA_QUEUES).foldl (s.leastBackoffStep first)
    (first, BitVec.ofInt 8 (s.txQinfo first).weight)

/-- What `rsi_recalculate_weights` makes of one queue, with its length. -/
def recalculate (minWeight : BitVec 8) (qLen : ℕ) (info : WmmQinfo) : WmmQinfo :=
  if qLen ≠ 0 then
    if info.pktContended then
      { info with
        weight := if info.weight > minWeight.toNat then info.weight - minWeight.toNat else 0 }
    -- the queue enters the contention
    else { info with pktContended := true, weight := info.wmeParams }
  else { info with weight := 0, pktContended := false }

/-- `rsi_recalculate_weights`; the second part is its result, whether a queue enters the
contention. -/
def recalculateWeights (s : Wmm) : Wmm × Bool :=
  ({ s with
      txQinfo := fun ii =>
        recalculate s.minWeight (s.qLen (ii.castLE edca_le)) (s.txQinfo ii) },
    (List.finRange NUM_EDCA_QUEUES).any fun ii =>
      s.qLen (ii.castLE edca_le) != 0 && !(s.txQinfo ii).pktContended)

/-- The chosen queue leaves the contention. -/
def choose (s : Wmm) (choice : Fin NUM_EDCA_QUEUES × BitVec 8) : Wmm :=
  { s with
    minWeight := choice.2
    txQinfo := Function.update s.txQinfo choice.1
      { s.txQinfo choice.1 with pktContended := false } }

/-- The loop at `get_queue_num`, with at most `fuel` passes: `some (q, s)` is a result, where
`q = none` is `INVALID_QUEUE`. If no queue contends, `q_num` is `NUM_EDCA_QUEUES`, which as an
index of `tx_queue` is `MGMT_SOFT_Q`. -/
def getQueueNum (s : Wmm) : ℕ → Option (Option QNum × Wmm)
  | 0 => none
  | fuel + 1 =>
    let (qNum, s) : QNum × Wmm :=
      match s.determineMinWeightQueue with
      | none => (MGMT_SOFT_Q, s)
      | some first =>
        let choice := s.leastBackoff first
        (choice.1.castLE edca_le, s.choose choice)
    -- all queues but the chosen one, which enters the contention anew
    let (s, recontendQueue) := s.recalculateWeights
    if s.qLen qNum = 0 then
      -- `goto get_queue_num`
      if recontendQueue then getQueueNum s fuel else some (none, s)
    else some (some qNum, s)

/-- The length of a burst of the queue `q`, before it is cut to the length of the queue. -/
def burst (s : Wmm) (q : QNum) : ℕ :=
  if q = VO_Q then if (s.edcaParams 3).acm then 1 else 6
  else if (s.edcaParams 2).acm then 1
  else if (s.edcaParams 1).aifs < (s.edcaParams 2).aifs then 2
  else ((s.edcaParams 2).txop.toNat <<< 5) / 800

/-- What a fresh choice of `q` notes down: `selected_qnum`, and in `pkt_cnt` how many packets more
may follow. -/
def select (s : Wmm) (q : QNum) : Wmm :=
  { s with
    selectedQnum := q
    pktCnt := if q = VO_Q ∨ q = VI_Q then min (s.qLen q) (s.burst q) - 1 else s.pktCnt }

/-- `rsi_core_determine_hal_queue` -/
def determineHalQueue (s : Wmm) : Option QNum × Wmm :=
  if s.qLen MGMT_BEACON_Q ≠ 0 then (some MGMT_BEACON_Q, s)
  else if s.qLen MGMT_SOFT_Q ≠ 0 then (some MGMT_SOFT_Q, s)
  -- only data queues from here on
  else if s.hwDataQsBlocked then (none, s)
  -- a burst goes on without a new choice
  else if s.pktCnt ≠ 0 then (some s.selectedQnum, { s with pktCnt := s.pktCnt - 1 })
  else
    match (s.getQueueNum 2).getD (none, s) with
    | (none, s) => (none, s)
    | (some q, s) => (some q, s.select q)

/-- The call makes a fresh choice: no frame of the driver waits, the data queues are not blocked
and no burst is under way. -/
def fresh (s : Wmm) : Bool :=
  s.qLen MGMT_BEACON_Q == 0 && s.qLen MGMT_SOFT_Q == 0 && !s.hwDataQsBlocked && s.pktCnt == 0

end Wmm

/-- `wme_params` of a queue as `rsi_set_contention_vals` computes them, with
`WMM_SHORT_SLOT_TIME` and `SIFS_DURATION`. -/
def wmeParams (p : TxQueueParams) : ℤ := (p.cwMin.toNat / 2 + p.aifs.toNat) * 9 + 16

theorem wmeParams_pos (p : TxQueueParams) : 0 < wmeParams p := by
  unfold wmeParams
  omega

/-- What happens to the queues. -/
inductive WmmAct
  /-- `rsi_core_queue_pkt`, or a frame of the driver -/
  | enqueue (q : QNum)
  /-- `rsi_core_determine_hal_queue` -/
  | determine
  /-- `rsi_core_dequeue_pkt` on the queue that was returned last -/
  | dequeue
  /-- A write of `hw_data_qs_blocked` -/
  | block (blocked : Bool)
  /-- New EDCA parameters -/
  | confTx (q : Fin NUM_EDCA_QUEUES) (p : TxQueueParams)
  /-- `rsi_set_contention_vals` -/
  | setContentionVals (wme : Fin NUM_EDCA_QUEUES → ℤ)

namespace Wmm

/-- One step. A dequeue needs a queue that was returned; one that has run empty stays empty. -/
def step (s : Wmm) : WmmAct → Option Wmm
  | .enqueue q => some { s with qLen := Function.update s.qLen q (s.qLen q + 1) }
  | .determine =>
    let (q, s) := s.determineHalQueue
    some { s with returned := q }
  | .dequeue =>
    match s.returned with
    | none => none
    | some q =>
      some { s with qLen := Function.update s.qLen q (s.qLen q - 1), returned := none }
  | .block blocked => some { s with hwDataQsBlocked := blocked }
  | .confTx q p => some { s with edcaParams := Function.update s.edcaParams q p }
  | .setContentionVals wme =>
    if ∀ q, 0 < wme q then some { s with txQinfo := fun q => ⟨wme q, wme q, false⟩ } else none

/-- Empty queues, after `rsi_set_contention_vals`. -/
structure Init (s : Wmm) : Prop where
  wme : ∀ q, 0 < (s.txQinfo q).wmeParams
  weight : ∀ q, (s.txQinfo q).weight = (s.txQinfo q).wmeParams
  contended : ∀ q, (s.txQinfo q).pktContended = false
  empty : ∀ q, s.qLen q = 0
  pktCnt : s.pktCnt = 0
  returned : s.returned = none

/-- The choices of the transmit thread among whatever else happens to the queues. -/
def system : TransitionSystem Wmm WmmAct := ⟨Init, step⟩

/-! ## One choice -/

/-- The number that eight bits keep of a weight that fits into them. -/
theorem toNat_ofInt_weight {w : ℤ} {m : BitVec 8} (hw : 0 ≤ w) (hlt : w < m.toNat) :
    ((BitVec.ofInt 8 w).toNat : ℤ) = w := by
  have hm := m.isLt
  rw [BitVec.toNat_ofInt]
  omega

/-- What the search for the least back-off keeps: its choice is `first` with what is left of its
weight, or a queue whose weight is the minimum. -/
def IsChoice (s : Wmm) (first : Fin NUM_EDCA_QUEUES) (acc : Fin NUM_EDCA_QUEUES × BitVec 8) :
    Prop :=
  acc = (first, BitVec.ofInt 8 (s.txQinfo first).weight) ∨
    first ≤ acc.1 ∧ s.contends acc.1 = true ∧ (s.txQinfo acc.1).weight = acc.2.toNat

section LeastBackoff

variable {s : Wmm} (hpos : ∀ ii, 0 ≤ (s.txQinfo ii).weight) (first : Fin NUM_EDCA_QUEUES)

include hpos

theorem isChoice_step {acc : Fin NUM_EDCA_QUEUES × BitVec 8} (h : s.IsChoice first acc)
    (ii : Fin NUM_EDCA_QUEUES) : s.IsChoice first (s.leastBackoffStep first acc ii) := by
  unfold leastBackoffStep
  split_ifs with hlt
  · exact .inr ⟨hlt.1, hlt.2.1, (toNat_ofInt_weight (hpos ii) hlt.2.2).symm⟩
  · exact h

/-- A turn never raises the minimum, and it accounts for its queue. -/
theorem leastBackoffStep_le (acc : Fin NUM_EDCA_QUEUES × BitVec 8) (ii : Fin NUM_EDCA_QUEUES) :
    (s.leastBackoffStep first acc ii).2.toNat ≤ acc.2.toNat ∧
      (first ≤ ii → s.contends ii = true →
        ((s.leastBackoffStep first acc ii).2.toNat : ℤ) ≤ (s.txQinfo ii).weight) := by
  unfold leastBackoffStep
  split_ifs with hlt
  · have hw := toNat_ofInt_weight (hpos ii) hlt.2.2
    refine ⟨?_, fun _ _ => hw.le⟩
    show (BitVec.ofInt 8 (s.txQinfo ii).weight).toNat ≤ acc.2.toNat
    omega
  · exact ⟨le_rfl, fun hfirst hii => not_lt.1 fun h => hlt ⟨hfirst, hii, h⟩⟩

theorem foldl_leastBackoffStep_le (l : List (Fin NUM_EDCA_QUEUES))
    (acc : Fin NUM_EDCA_QUEUES × BitVec 8) :
    (l.foldl (s.leastBackoffStep first) acc).2.toNat ≤ acc.2.toNat ∧
      ∀ ii ∈ l, first ≤ ii → s.contends ii = true →
        ((l.foldl (s.leastBackoffStep first) acc).2.toNat : ℤ) ≤ (s.txQinfo ii).weight := by
  induction l generalizing acc with
  -- the minimum only gets smaller in the turns behind that of a queue
  | nil => exact ⟨le_rfl, fun _ h => absurd h List.not_mem_nil⟩
  | cons p l ih =>
    obtain ⟨hle, hp⟩ := leastBackoffStep_le hpos first acc p
    obtain ⟨hrest, hmem⟩ := ih (s.leastBackoffStep first acc p)
    refine ⟨hrest.trans hle, fun ii hii hfirst hcont => ?_⟩
    rcases List.mem_cons.1 hii with rfl | hii
    · have := hp hfirst hcont
      rw [List.foldl_cons]
      omega
    · exact hmem ii hii hfirst hcont

/-- The queue with the least back-off: every queue from `first` on that contends has at least the
final `min_weight`. -/
theorem leastBackoff_spec :
    s.IsChoice first (s.leastBackoff first) ∧
      ∀ ii, first ≤ ii → s.contends ii = true →
        ((s.leastBackoff first).2.toNat : ℤ) ≤ (s.txQinfo ii).weight := by
  have hchoice (l : List (Fin NUM_EDCA_QUEUES)) (acc : Fin NUM_EDCA_QUEUES × BitVec 8)
      (h : s.IsChoice first acc) : s.IsChoice first (l.foldl (s.leastBackoffStep first) acc) := by
    induction l generalizing acc with
    | nil => exact h
    | cons p l ih => exact ih _ (isChoice_step hpos first h p)
  exact ⟨hchoice _ _ (.inl rfl), fun ii =>
    (foldl_leastBackoffStep_le hpos first _ _).2 ii (List.mem_finRange ii)⟩

end LeastBackoff

/-- A weight is never negative after it is recalculated. -/
theorem weight_recalculate_nonneg (m : BitVec 8) (n : ℕ) {info : WmmQinfo}
    (hwme : 0 ≤ info.wmeParams) : 0 ≤ (recalculate m n info).weight := by
  unfold recalculate
  split_ifs with hlen hcont hlt
  · exact Int.sub_nonneg_of_le hlt.le
  · exact le_rfl
  · exact hwme
  · exact le_rfl

/-- The state after the pass that chooses with `first` in front. -/
def chosen (s : Wmm) (first : Fin NUM_EDCA_QUEUES) : Wmm :=
  (s.choose (s.leastBackoff first)).recalculateWeights.1

/-- The first queue that contends. -/
theorem contends_of_determineMinWeightQueue {s : Wmm} {first : Fin NUM_EDCA_QUEUES}
    (hfind : s.determineMinWeightQueue = some first) :
    s.contends first = true ∧ ∀ i, s.contends i = true → first ≤ i := by
  refine ⟨List.find?_some hfind, fun i hi => ?_⟩
  obtain ⟨-, k, hk, hget, hbefore⟩ := List.find?_eq_some_iff_getElem.1 hfind
  rw [List.getElem_finRange] at hget
  by_contra hlt
  -- a queue before `first` does not contend
  have hik : i.val < k := by
    rw [← hget] at hlt
    exact not_le.1 hlt
  have := hbefore i hik
  rw [List.getElem_finRange] at this
  simp [hi] at this

/-- With a first queue in the contention, one pass makes a choice. -/
theorem getQueueNum_of_first {s : Wmm} (hpos : ∀ ii, 0 ≤ (s.txQinfo ii).weight)
    {first : Fin NUM_EDCA_QUEUES} (hfind : s.determineMinWeightQueue = some first) (fuel : ℕ) :
    s.contends (s.leastBackoff first).1 = true ∧
      s.getQueueNum (fuel + 1) =
        some (some ((s.leastBackoff first).1.castLE edca_le), s.chosen first) := by
  -- the chosen queue is not empty, and the loop does not go round
  have hchoice : s.contends (s.leastBackoff first).1 = true := by
    rcases (leastBackoff_spec hpos first).1 with h | h
    · rw [h]
      exact (contends_of_determineMinWeightQueue hfind).1
    · exact h.2.1
  have hlen : s.qLen ((s.leastBackoff first).1.castLE edca_le) ≠ 0 := (contends_iff.1 hchoice).2
  refine ⟨hchoice, ?_⟩
  unfold getQueueNum
  rw [hfind]
  exact if_neg hlen

/-- If a queue contends, one pass makes a choice. -/
theorem getQueueNum_of_contends {s : Wmm} (hpos : ∀ ii, 0 ≤ (s.txQinfo ii).weight)
    {i : Fin NUM_EDCA_QUEUES} (hi : s.contends i = true) (fuel : ℕ) :
    ∃ first ≤ i, s.contends first = true ∧ s.contends (s.leastBackoff first).1 = true ∧
      s.getQueueNum (fuel + 1) =
        some (some ((s.leastBackoff first).1.castLE edca_le), s.chosen first) := by
  cases hfind : s.determineMinWeightQueue with
  | none => exact absurd hi (List.find?_eq_none.1 hfind i (List.mem_finRange i))
  | some first =>
    obtain ⟨hfirst, hle⟩ := contends_of_determineMinWeightQueue hfind
    obtain ⟨hchoice, heq⟩ := getQueueNum_of_first hpos hfind fuel
    exact ⟨first, hle i hi, hfirst, hchoice, heq⟩

/-- If no queue contends, the queues with packets enter the contention and the loop goes round. -/
theorem getQueueNum_of_none {s : Wmm} (hfind : s.determineMinWeightQueue = none)
    (hmgmt : s.qLen MGMT_SOFT_Q = 0)
    (hpacket : ∃ i : Fin NUM_EDCA_QUEUES, s.qLen (i.castLE edca_le) ≠ 0) (fuel : ℕ) :
    s.getQueueNum (fuel + 1) = s.recalculateWeights.1.getQueueNum fuel := by
  obtain ⟨i, hi⟩ := hpacket
  have hcont : s.contends i = false :=
    Bool.eq_false_iff.2 (List.find?_eq_none.1 hfind i (List.mem_finRange i))
  have hrecontend : s.recalculateWeights.2 = true :=
    List.any_eq_true.2 ⟨i, List.mem_finRange i, by simpa [contends, hi] using hcont⟩
  rw [getQueueNum, hfind]
  show (if s.qLen MGMT_SOFT_Q = 0 then if s.recalculateWeights.2 = true then _ else _ else _) = _
  exact (if_pos hmgmt).trans (if_pos hrecontend)

/-- A call that makes a fresh choice. -/
theorem determineHalQueue_of_fresh {s t : Wmm} (hfresh : s.fresh = true) {q : QNum}
    (heq : s.getQueueNum 2 = some (some q, t)) : s.determineHalQueue = (some q, t.select q) := by
  simp only [fresh, Bool.and_eq_true, beq_iff_eq, Bool.not_eq_true'] at hfresh
  obtain ⟨⟨⟨hbeacon, hmgmt⟩, hblocked⟩, hcnt⟩ := hfresh
  simp [determineHalQueue, hbeacon, hmgmt, hblocked, hcnt, heq]

/-- The loop at `get_queue_num` makes at most two passes: if no queue contends in the first, every
queue with packets does in the second. -/
theorem getQueueNum_isSome {s : Wmm} (hpos : ∀ ii, 0 ≤ (s.txQinfo ii).weight)
    (hwme : ∀ ii, 0 ≤ (s.txQinfo ii).wmeParams) : (s.getQueueNum 2).isSome = true := by
  cases hfind : s.determineMinWeightQueue with
  | some first =>
    obtain ⟨_, _, _, _, heq⟩ := getQueueNum_of_contends hpos (List.find?_some hfind) 1
    rw [heq]
    rfl
  | none =>
    unfold getQueueNum
    rw [hfind]
    dsimp only
    split_ifs with hlen hrecontend
    · -- a queue with packets enters the contention
      obtain ⟨ii, -, hii⟩ := List.any_eq_true.1 hrecontend
      simp only [Bool.and_eq_true, bne_iff_ne, Bool.not_eq_true'] at hii
      have hcont : s.recalculateWeights.1.contends ii = true := by
        simp [contends, recalculateWeights, recalculate, hii.1, hii.2]
      have hpos' : ∀ ii, 0 ≤ (s.recalculateWeights.1.txQinfo ii).weight := by
        intro ii
        exact weight_recalculate_nonneg _ _ (hwme ii)
      obtain ⟨_, _, _, _, heq⟩ := getQueueNum_of_contends hpos' hcont 0
      rw [heq]
      rfl
    · rfl
    · rfl

/-! ## Weights along a run -/

/-- The `wme_params` are those given, and no weight is negative. -/
structure Inv (wme : Fin NUM_EDCA_QUEUES → ℤ) (s : Wmm) : Prop where
  weight : ∀ ii, 0 ≤ (s.txQinfo ii).weight
  wmeParams : ∀ ii, (s.txQinfo ii).wmeParams = wme ii

namespace Inv

variable {wme : Fin NUM_EDCA_QUEUES → ℤ} {s : Wmm}

theorem of_txQinfo {t : Wmm} (h : Inv wme s) (heq : t.txQinfo = s.txQinfo) : Inv wme t := by
  constructor
  · rw [heq]
    exact h.weight
  · rw [heq]
    exact h.wmeParams

theorem recalculateWeights (hwme : ∀ ii, 0 < wme ii) (h : Inv wme s) :
    Inv wme s.recalculateWeights.1 where
  weight ii := by
    apply weight_recalculate_nonneg _ _
    rw [h.wmeParams]
    exact (hwme ii).le
  wmeParams ii := by
    rw [← h.wmeParams ii]
    show (recalculate _ _ _).wmeParams = _
    unfold recalculate
    split_ifs <;> rfl

theorem choose (h : Inv wme s) (choice : Fin NUM_EDCA_QUEUES × BitVec 8) :
    Inv wme (s.choose choice) := by
  -- the choice changes only `pkt_contended`
  have hsame : ∀ ii, ∃ c, (s.choose choice).txQinfo ii =
      { s.txQinfo ii with pktContended := c } := by
    intro ii
    by_cases hii : ii = choice.1
    · subst hii
      exact ⟨false, Function.update_self ..⟩
    · exact ⟨_, Function.update_of_ne hii ..⟩
  constructor <;> intro ii <;> obtain ⟨c, hc⟩ := hsame ii <;> rw [hc]
  · exact h.weight ii
  · exact h.wmeParams ii

theorem getQueueNum (hwme : ∀ ii, 0 < wme ii) (h : Inv wme s) {fuel : ℕ} {r : Option QNum × Wmm}
    (hr : s.getQueueNum fuel = some r) : Inv wme r.2 := by
  induction fuel generalizing s with
  | zero => cases hr
  | succ fuel ih =>
    unfold Wmm.getQueueNum at hr
    cases hfind : s.determineMinWeightQueue with
    | none =>
      simp only [hfind] at hr
      split_ifs at hr
      · exact ih (h.recalculateWeights hwme) hr
      · cases hr
        exact h.recalculateWeights hwme
      · cases hr
        exact h.recalculateWeights hwme
    | some first =>
      simp only [hfind] at hr
      split_ifs at hr
      · exact ih ((h.choose _).recalculateWeights hwme) hr
      · cases hr
        exact (h.choose _).recalculateWeights hwme
      · cases hr
        exact (h.choose _).recalculateWeights hwme

theorem determineHalQueue (hwme : ∀ ii, 0 < wme ii) (h : Inv wme s) :
    Inv wme s.determineHalQueue.2 := by
  unfold Wmm.determineHalQueue
  split_ifs
  · exact h
  · exact h
  · exact h
  · exact h.of_txQinfo rfl
  -- the loop ends, and `select` leaves the weights alone
  · have hsome := getQueueNum_isSome h.weight fun ii => (hwme ii).le.trans (h.wmeParams ii).ge
    obtain ⟨r, hr⟩ := Option.isSome_iff_exists.1 hsome
    have hinv := h.getQueueNum hwme hr
    rw [hr, Option.getD_some]
    obtain ⟨_ | q, t⟩ := r
    · exact hinv
    · exact hinv.of_txQinfo rfl

/-- Only `rsi_set_contention_vals` changes the `wme_params`, and it ends every contention. -/
theorem step (hwme : ∀ ii, 0 < wme ii) (h : Inv wme s) {act : WmmAct} {u : Wmm}
    (hstep : s.step act = some u) :
    Inv wme u ∨ (∃ wme', (∀ q, 0 < wme' q) ∧ Inv wme' u) ∧ ∀ i, u.contends i = false := by
  cases act with
  | enqueue q =>
    cases hstep
    exact .inl (h.of_txQinfo rfl)
  | determine =>
    cases hstep
    exact .inl ((h.determineHalQueue hwme).of_txQinfo rfl)
  | dequeue =>
    cases hret : s.returned with
    | none => simp [Wmm.step, hret] at hstep
    | some q =>
      simp only [Wmm.step, hret] at hstep
      cases hstep
      exact .inl (h.of_txQinfo rfl)
  | block blocked =>
    cases hstep
    exact .inl (h.of_txQinfo rfl)
  | confTx q p =>
    cases hstep
    exact .inl (h.of_txQinfo rfl)
  | setContentionVals wme' =>
    simp only [Wmm.step] at hstep
    split_ifs at hstep with hpos
    cases hstep
    exact .inr ⟨⟨wme', hpos, fun ii => (hpos ii).le, fun _ => rfl⟩, fun _ => rfl⟩

end Inv

/-- In every reachable state the weights are not negative. -/
theorem exists_inv_of_reachable {s : Wmm} (h : system.Reachable s) :
    ∃ wme, (∀ q, 0 < wme q) ∧ Inv wme s := by
  refine h.invariant (fun s => ∃ wme, (∀ q, 0 < wme q) ∧ Inv wme s) ?_ ?_
  · intro s hinit
    exact ⟨fun q => (s.txQinfo q).wmeParams, hinit.wme,
      fun q => (hinit.wme q).le.trans (hinit.weight q).ge, fun _ => rfl⟩
  · rintro s act u ⟨wme, hpos, hinv⟩ - hstep
    rcases hinv.step hpos hstep with hu | ⟨hu, -⟩
    · exact ⟨wme, hpos, hu⟩
    · exact hu

end Wmm

end Tx
