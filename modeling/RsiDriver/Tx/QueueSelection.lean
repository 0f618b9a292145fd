import RsiDriver.Station.Table
import RsiDriver.ToMathlib.TransitionSystem
import RsiDriver.Tx.Wmm

/-!
# The choice of queues in both builds

With `CONFIG_STA_PLUS_AP` each of the two interfaces has data queues of its own, ten queues in all,
and `rsi_core_determine_hal_queue` leaves it to the transmit thread to test whether the data queues
are blocked. Here the choice is modelled for both builds, together with what the loop of
`rsi_core_qos_processor` does with a queue: it takes a packet from it, or leaves the loop before
that. `Tx.Wmm` is the case of the default build.

A burst is what could go wrong: `pkt_cnt` promises packets of `selected_qnum` in advance. The
promise is kept because it never exceeds the length of that queue, and is below it while the thread
is about to take a packet from it.

## Main results

* `Queues.determineHalQueue_ofWmm`: `Tx.Wmm` is an instance;
* `Selection.conserves_of_reachable`: the choice ends, finds a queue if there is a packet, and the
  queue it returns has one.
-/

namespace Tx

open Station (Build)

/-- `NUM_EDCA_QUEUES` -/
def numEdcaQueues : Build → ℕ
  | .standard => 4
  | .staPlusAp => 8

theorem four_le_numEdcaQueues (b : Build) : 4 ≤ numEdcaQueues b := by
  cases b <;> decide

/-- The queues of `enum edca_queue`, `NUM_SOFT_QUEUES` in number. -/
abbrev SoftQ (b : Build) : Type := Fin (numEdcaQueues b + 2)

namespace SoftQ

variable (b : Build)

/-- `MGMT_SOFT_Q` -/
def mgmtSoft : SoftQ b := Fin.natAdd (numEdcaQueues b) (0 : Fin 2)

/-- `MGMT_BEACON_Q` -/
def mgmtBeacon : SoftQ b := Fin.natAdd (numEdcaQueues b) (1 : Fin 2)

/-- `BE_Q` -/
def be : Fin (numEdcaQueues b) := (1 : Fin 4).castLE (four_le_numEdcaQueues b)

/-- `VI_Q` -/
def vi : Fin (numEdcaQueues b) := (2 : Fin 4).castLE (four_le_numEdcaQueues b)

/-- `VO_Q` -/
def vo : Fin (numEdcaQueues b) := (3 : Fin 4).castLE (four_le_numEdcaQueues b)

end SoftQ

/-- What `rsi_core_determine_hal_queue` reads and writes. -/
structure Queues (b : Build) where
  txQinfo : Fin (numEdcaQueues b) → WmmQinfo
  edcaParams : Fin (numEdcaQueues b) → TxQueueParams
  /-- `skb_queue_len(&tx_queue[q])` -/
  qLen : SoftQ b → ℕ
  minWeight : BitVec 8
  selectedQnum : SoftQ b
  pktCnt : ℕ
  hwDataQsBlocked : Bool

namespace Queues

variable {b : Build}

/-- The length of a data queue. -/
def dataLen (s : Queues b) (ii : Fin (numEdcaQueues b)) : ℕ := s.qLen (ii.castAdd 2)

/-- The data queue `ii` takes part in the contention and has a packet. -/
def contends (s : Queues b) (ii : Fin (numEdcaQueues b)) : Bool :=
  (s.txQinfo ii).pktContended && s.dataLen ii != 0

/-- `rsi_determine_min_weight_queue`; `none` stands for `NUM_EDCA_QUEUES`. -/
def determineMinWeightQueue (s : Queues b) : Option (Fin (numEdcaQueues b)) :=
  (List.finRange (numEdcaQueues b)).find? s.contends

/-- One turn of the loop that looks for the least back-off. -/
def leastBackoffStep (s : Queues b) (first : Fin (numEdcaQueues b))
    (acc : Fin (numEdcaQueues b) × BitVec 8) (ii : Fin (numEdcaQueues b)) :
    Fin (numEdcaQueues b) × BitVec 8 :=
  if first ≤ ii ∧ s.contends ii = true ∧ (s.txQinfo ii).weight < acc.2.toNat then
    (ii, BitVec.ofInt 8 (s.txQinfo ii).weight)
  else acc

/-- The queue with the least back-off and `min_weight`. -/
def leastBackoff (s : Queues b) (first : Fin (numEdcaQueues b)) :
    Fin (numEdcaQueues b) × BitVec 8 :=
  (List.finRange (numEdcaQueues b)).foldl (s.leastBackoffStep first)
    (first, BitVec.ofInt 8 (s.txQinfo first).weight)

/-- `rsi_recalculate_weights` with its result. -/
def recalculateWeights (s : Queues b) : Queues b × Bool :=
  ({ s with txQinfo := fun ii => Wmm.recalculate s.minWeight (s.dataLen ii) (s.txQinfo ii) },
    (List.finRange (numEdcaQueues b)).any fun ii =>
      s.dataLen ii != 0 && !(s.txQinfo ii).pktContended)

/-- The chosen queue leaves the contention. -/
def choose (s : Queues b) (choice : Fin (numEdcaQueues b) × BitVec 8) : Queues b :=
  { s with
    minWeight := choice.2
    txQinfo := Function.update s.txQinfo choice.1
      { s.txQinfo choice.1 with pktContended := false } }

/-- The loop at `get_queue_num`, with at most `fuel` passes. If no queue contends, `q_num` is
`NUM_EDCA_QUEUES`, which as an index of `tx_queue` is `MGMT_SOFT_Q`. -/
def getQueueNum (s : Queues b) : ℕ → Option (Option (SoftQ b) × Queues b)
  | 0 => none
  | fuel + 1 =>
    let (qNum, s) : SoftQ b × Queues b :=
      match s.determineMinWeightQueue with
      | none => (.mgmtSoft b, s)
      | some first =>
        let choice := s.leastBackoff first
        (choice.1.castAdd 2, s.choose choice)
    let (s, recontendQueue) := s.recalculateWeights
    if s.qLen qNum = 0 then
      if recontendQueue then getQueueNum s fuel else some (none, s)
    else some (some qNum, s)

/-- The length of a burst, before it is cut to the length of the queue. -/
def burst (s : Queues b) (q : SoftQ b) : ℕ :=
  if q = (SoftQ.vo b).castAdd 2 then if (s.edcaParams (SoftQ.vo b)).acm then 1 else 6
  else if (s.edcaParams (SoftQ.vi b)).acm then 1
  else if (s.edcaParams (SoftQ.be b)).aifs < (s.edcaParams (SoftQ.vi b)).aifs then 2
  else ((s.edcaParams (SoftQ.vi b)).txop.toNat <<< 5) / 800

/-- What a fresh choice of `q` notes down. -/
def select (s : Queues b) (q : SoftQ b) : Queues b :=
  { s with
    selectedQnum := q
    pktCnt :=
      if q = (SoftQ.vo b).castAdd 2 ∨ q = (SoftQ.vi b).castAdd 2 then
        min (s.qLen q) (s.burst q) - 1
      else s.pktCnt }

/-- `rsi_core_determine_hal_queue` -/
def determineHalQueue (s : Queues b) : Option (SoftQ b) × Queues b :=
  if s.qLen (.mgmtBeacon b) ≠ 0 then (some (.mgmtBeacon b), s)
  else if s.qLen (.mgmtSoft b) ≠ 0 then (some (.mgmtSoft b), s)
  -- with `CONFIG_STA_PLUS_AP` this test is left to the transmit thread
  else if b = .standard ∧ s.hwDataQsBlocked = true then (none, s)
  else if s.pktCnt ≠ 0 then (some s.selectedQnum, { s with pktCnt := s.pktCnt - 1 })
  else
    match (s.getQueueNum 2).getD (none, s) with
    | (none, s) => (none, s)
    | (some q, s) => (some q, s.select q)

/-! ## The default build -/

/-- The state of the default build. -/
def ofWmm (s : Wmm) : Queues .standard where
  txQinfo := s.txQinfo
  edcaParams := s.edcaParams
  qLen := s.qLen
  minWeight := s.minWeight
  selectedQnum := s.selectedQnum
  pktCnt := s.pktCnt
  hwDataQsBlocked := s.hwDataQsBlocked

/-- A result of the default build. -/
def ofResult (r : Option QNum × Wmm) : Option (SoftQ .standard) × Queues .standard :=
  (r.1, ofWmm r.2)

/-- One pass, the queue and the state it leaves given. -/
def afterPass (s : Queues b) (qNum : SoftQ b) (fuel : ℕ) : Option (Option (SoftQ b) × Queues b) :=
  if s.recalculateWeights.1.qLen qNum = 0 then
    if s.recalculateWeights.2 = true then s.recalculateWeights.1.getQueueNum fuel
    else some (none, s.recalculateWeights.1)
  else some (some qNum, s.recalculateWeights.1)

theorem getQueueNum_succ (s : Queues b) (fuel : ℕ) :
    s.getQueueNum (fuel + 1) =
      match s.determineMinWeightQueue with
      | none => s.afterPass (.mgmtSoft b) fuel
      | some first =>
        (s.choose (s.leastBackoff first)).afterPass ((s.leastBackoff first).1.castAdd 2) fuel := by
  unfold getQueueNum
  cases s.determineMinWeightQueue <;> rfl

theorem getQueueNum_ofWmm (s : Wmm) (fuel : ℕ) :
    (ofWmm s).getQueueNum fuel = (s.getQueueNum fuel).map ofResult := by
  induction fuel generalizing s with
  | zero => rfl
  | succ fuel ih =>
    have hpass (t : Wmm) (qNum : QNum) : (ofWmm t).afterPass qNum fuel =
        (if t.recalculateWeights.1.qLen qNum = 0 then
          if t.recalculateWeights.2 = true then t.recalculateWeights.1.getQueueNum fuel
          else some (none, t.recalculateWeights.1)
        else some (some qNum, t.recalculateWeights.1)).map ofResult := by
      have hrec : (ofWmm t).recalculateWeights =
          (ofWmm t.recalculateWeights.1, t.recalculateWeights.2) := rfl
      have hlen : (ofWmm t.recalculateWeights.1).qLen = t.recalculateWeights.1.qLen := rfl
      unfold afterPass
      rw [hrec]
      dsimp only
      rw [hlen, ih]
      by_cases hempty : t.recalculateWeights.1.qLen qNum = 0
      · rw [if_pos hempty, if_pos hempty]
        by_cases hrecontend : t.recalculateWeights.2 = true
        · rw [if_pos hrecontend, if_pos hrecontend]
        · rw [if_neg hrecontend, if_neg hrecontend]
          rfl
      · rw [if_neg hempty, if_neg hempty]
        rfl
    have hfirst : (ofWmm s).determineMinWeightQueue = s.determineMinWeightQueue := rfl
    rw [getQueueNum_succ, Wmm.getQueueNum, hfirst]
    cases s.determineMinWeightQueue with
    | none => exact hpass s MGMT_SOFT_Q
    | some first => exact hpass (s.choose (s.leastBackoff first)) _

/-- `Tx.Wmm` models the default build. -/
theorem determineHalQueue_ofWmm (s : Wmm) :
    (ofWmm s).determineHalQueue = ofResult s.determineHalQueue := by
  have hbeacon : (ofWmm s).qLen (.mgmtBeacon .standard) = s.qLen MGMT_BEACON_Q := rfl
  have hsoft : (ofWmm s).qLen (.mgmtSoft .standard) = s.qLen MGMT_SOFT_Q := rfl
  have hblocked : (ofWmm s).hwDataQsBlocked = s.hwDataQsBlocked := rfl
  have hcnt : (ofWmm s).pktCnt = s.pktCnt := rfl
  unfold determineHalQueue Wmm.determineHalQueue
  rw [getQueueNum_ofWmm, hbeacon, hsoft, hblocked, hcnt]
  by_cases h1 : s.qLen MGMT_BEACON_Q ≠ 0
  · rw [if_pos h1, if_pos h1]
    rfl
  by_cases h2 : s.qLen MGMT_SOFT_Q ≠ 0
  · rw [if_neg h1, if_neg h1, if_pos h2, if_pos h2]
    rfl
  by_cases h3 : s.hwDataQsBlocked = true
  · rw [if_neg h1, if_neg h1, if_neg h2, if_neg h2, if_pos ⟨rfl, h3⟩, if_pos h3]
    rfl
  by_cases h4 : s.pktCnt ≠ 0
  · rw [if_neg h1, if_neg h1, if_neg h2, if_neg h2, if_neg fun h => h3 h.2, if_neg h3, if_pos h4,
      if_pos h4]
    rfl
  · rw [if_neg h1, if_neg h1, if_neg h2, if_neg h2, if_neg fun h => h3 h.2, if_neg h3, if_neg h4,
      if_neg h4]
    cases s.getQueueNum 2 with
    | none => rfl
    | some r =>
      obtain ⟨_ | q, t⟩ := r <;> rfl

/-! ## One choice -/

theorem contends_iff {s : Queues b} {ii : Fin (numEdcaQueues b)} :
    s.contends ii = true ↔ (s.txQinfo ii).pktContended = true ∧ s.dataLen ii ≠ 0 := by
  unfold contends
  rw [Bool.and_eq_true, bne_iff_ne]

/-- The search starts with a queue that contends and takes no other. -/
theorem contends_leastBackoff {s : Queues b} {first : Fin (numEdcaQueues b)}
    (hfirst : s.contends first = true) : s.contends (s.leastBackoff first).1 = true := by
  unfold leastBackoff
  apply List.foldlRecOn (motive := fun acc : Fin (numEdcaQueues b) × BitVec 8 =>
    s.contends acc.1 = true)
  · exact hfirst
  · intro acc hacc ii _
    unfold leastBackoffStep
    split_ifs with h
    · exact h.2.1
    · exact hacc

/-- With a queue in the contention, the first pass finds one that has a packet. -/
theorem getQueueNum_of_contends {s : Queues b} {i : Fin (numEdcaQueues b)}
    (hi : s.contends i = true) (fuel : ℕ) :
    ∃ q t, s.getQueueNum (fuel + 1) = some (some (q.castAdd 2), t) ∧ s.dataLen q ≠ 0 ∧
      t.qLen = s.qLen ∧ t.pktCnt = s.pktCnt ∧ t.selectedQnum = s.selectedQnum := by
  cases hfind : s.determineMinWeightQueue with
  | none => exact absurd hi (List.find?_eq_none.1 hfind i (List.mem_finRange i))
  | some first =>
    have hchoice := contends_leastBackoff (List.find?_some hfind)
    have hlen : s.dataLen (s.leastBackoff first).1 ≠ 0 := (contends_iff.1 hchoice).2
    refine ⟨(s.leastBackoff first).1, (s.choose (s.leastBackoff first)).recalculateWeights.1, ?_,
      hlen, rfl, rfl, rfl⟩
    rw [getQueueNum_succ, hfind]
    exact if_neg hlen

/-- Two passes are enough, if no frame of the driver waits: either all data queues are empty, or a
data queue with a packet is found. -/
theorem getQueueNum_two {s : Queues b} (hsoft : s.qLen (.mgmtSoft b) = 0) :
    (∃ t, s.getQueueNum 2 = some (none, t) ∧ (∀ ii, s.dataLen ii = 0) ∧
      t.qLen = s.qLen ∧ t.pktCnt = s.pktCnt ∧ t.selectedQnum = s.selectedQnum) ∨
    ∃ q t, s.getQueueNum 2 = some (some (q.castAdd 2), t) ∧ s.dataLen q ≠ 0 ∧
      t.qLen = s.qLen ∧ t.pktCnt = s.pktCnt ∧ t.selectedQnum = s.selectedQnum := by
  cases hfind : s.determineMinWeightQueue with
  | some first => exact .inr (getQueueNum_of_contends (List.find?_some hfind) 1)
  | none =>
    have hnone (ii : Fin (numEdcaQueues b)) : s.contends ii = false :=
      Bool.eq_false_iff.2 (List.find?_eq_none.1 hfind ii (List.mem_finRange ii))
    -- `tx_queue[NUM_EDCA_QUEUES]` is empty
    have hpass : s.getQueueNum 2 =
        if s.recalculateWeights.2 = true then s.recalculateWeights.1.getQueueNum 1
        else some (none, s.recalculateWeights.1) := by
      rw [getQueueNum_succ, hfind]
      exact if_pos hsoft
    by_cases hpacket : ∃ i, s.dataLen i ≠ 0
    · -- the queues with packets enter the contention, and the second pass finds one of them
      obtain ⟨i, hi⟩ := hpacket
      have hcont : (s.txQinfo i).pktContended = false := by
        have := hnone i
        simpa [contends, hi] using this
      have hrecontend : s.recalculateWeights.2 = true :=
        List.any_eq_true.2 ⟨i, List.mem_finRange i, by simp [hi, hcont]⟩
      have hentered : s.recalculateWeights.1.contends i = true := by
        refine contends_iff.2 ⟨?_, hi⟩
        simp [recalculateWeights, Wmm.recalculate, hi, hcont]
      rw [hpass, if_pos hrecontend]
      exact .inr (getQueueNum_of_contends hentered 0)
    · have hempty (ii : Fin (numEdcaQueues b)) : s.dataLen ii = 0 :=
        not_not.1 fun h => hpacket ⟨ii, h⟩
      have hrecontend : ¬ s.recalculateWeights.2 = true := by
        intro h
        obtain ⟨ii, -, hii⟩ := List.any_eq_true.1 h
        simp [hempty ii] at hii
      left
      rw [hpass, if_neg hrecontend]
      exact ⟨_, rfl, hempty, rfl, rfl, rfl⟩

/-- All soft queues are empty. -/
theorem qLen_eq_zero_iff {s : Queues b} :
    (∀ q, s.qLen q = 0) ↔
      s.qLen (.mgmtBeacon b) = 0 ∧ s.qLen (.mgmtSoft b) = 0 ∧ ∀ ii, s.dataLen ii = 0 := by
  constructor
  · intro h
    exact ⟨h _, h _, fun ii => h _⟩
  · rintro ⟨hbeacon, hsoft, hdata⟩ q
    have hmgmt : ∀ i : Fin 2, s.qLen (Fin.natAdd _ i) = 0 :=
      Fin.forall_fin_two.2 ⟨hsoft, hbeacon⟩
    exact Fin.addCases (motive := fun q => s.qLen q = 0) hdata hmgmt q

/-- What a call can do: a frame of the driver goes first; blocked data queues end the call; a burst
goes on; or a fresh choice is made, which finds no queue only if all are empty. -/
theorem determineHalQueue_cases (s : Queues b) :
    (∃ q, s.determineHalQueue = (some q, s) ∧ s.qLen q ≠ 0 ∧ numEdcaQueues b ≤ q) ∨
    (s.determineHalQueue = (none, s) ∧ s.hwDataQsBlocked = true) ∨
    (s.pktCnt ≠ 0 ∧
      s.determineHalQueue = (some s.selectedQnum, { s with pktCnt := s.pktCnt - 1 })) ∨
    (s.pktCnt = 0 ∧ (∀ q, s.qLen q = 0) ∧
      ∃ t, s.determineHalQueue = (none, t) ∧ t.qLen = s.qLen ∧ t.pktCnt = 0) ∨
    (s.pktCnt = 0 ∧ ∃ q t, s.determineHalQueue = (some (q.castAdd 2), t) ∧ s.dataLen q ≠ 0 ∧
      t.qLen = s.qLen ∧ t.selectedQnum = q.castAdd 2 ∧ t.pktCnt < s.dataLen q) := by
  unfold determineHalQueue
  split_ifs with hbeacon hsoft hblocked hcnt
  · exact .inl ⟨_, rfl, hbeacon, Nat.le_add_right _ _⟩
  · exact .inl ⟨_, rfl, hsoft, Nat.le_refl _⟩
  · exact .inr (.inl ⟨rfl, hblocked.2⟩)
  · exact .inr (.inr (.inl ⟨hcnt, rfl⟩))
  · have hzero : s.pktCnt = 0 := not_not.1 hcnt
    have hsoft0 : s.qLen (.mgmtSoft b) = 0 := not_not.1 hsoft
    rcases getQueueNum_two hsoft0 with ⟨t, heq, hempty, hlen, htcnt, -⟩ |
      ⟨q, t, heq, hq, hlen, htcnt, -⟩
    · refine .inr (.inr (.inr (.inl ⟨hzero, ?_, t, ?_, hlen, htcnt.trans hzero⟩)))
      · exact qLen_eq_zero_iff.2 ⟨not_not.1 hbeacon, hsoft0, hempty⟩
      · rw [heq]
        rfl
    · refine .inr (.inr (.inr (.inr ⟨hzero, q, t.select (q.castAdd 2), ?_, hq, hlen, rfl, ?_⟩)))
      · rw [heq]
        rfl
      · -- a burst is cut to the length of the queue, and this packet is its first
        show (if _ then min (t.qLen (q.castAdd 2)) _ - 1 else t.pktCnt) < s.qLen (q.castAdd 2)
        have hpos : s.qLen (q.castAdd 2) ≠ 0 := hq
        have hcut := Nat.min_le_left (s.qLen (q.castAdd 2)) (t.burst (q.castAdd 2))
        rw [hlen, htcnt, hzero]
        split_ifs
        · exact Nat.lt_of_le_of_lt (Nat.sub_le_sub_right hcut 1) (Nat.sub_one_lt hpos)
        · exact Nat.pos_of_ne_zero hpos

/-- The call takes no packet. -/
theorem qLen_determineHalQueue (s : Queues b) : s.determineHalQueue.2.qLen = s.qLen := by
  rcases s.determineHalQueue_cases with ⟨_, heq, -⟩ | ⟨heq, -⟩ | ⟨-, heq⟩ |
    ⟨-, -, t, heq, hlen, -⟩ | ⟨-, _, t, heq, -, hlen, -⟩
  · rw [heq]
  · rw [heq]
  · rw [heq]
  · rw [heq]
    exact hlen
  · rw [heq]
    exact hlen

/-- The loop at `get_queue_num` makes at most two passes. -/
theorem getQueueNum_isSome (s : Queues b) : (s.getQueueNum 2).isSome = true := by
  by_cases hsoft : s.qLen (.mgmtSoft b) = 0
  · rcases getQueueNum_two hsoft with ⟨_, heq, -⟩ | ⟨_, _, heq, -⟩
    · rw [heq]
      rfl
    · rw [heq]
      rfl
  · cases hfind : s.determineMinWeightQueue with
    | some first =>
      obtain ⟨_, _, heq, -⟩ := getQueueNum_of_contends (List.find?_some hfind) 1
      rw [heq]
      rfl
    | none =>
      -- a frame of the driver is found by accident
      have hpass : s.getQueueNum 2 = some (some (.mgmtSoft b), s.recalculateWeights.1) := by
        rw [getQueueNum_succ, hfind]
        exact if_neg hsoft
      rw [hpass]
      rfl

end Queues

/-! ## Runs -/

/-- The queues with the state of the transmit thread. `returned` is the queue that the thread got
and has not yet taken a packet from; `skbNull` says that it found a queue empty. -/
structure Selection (b : Build) extends Queues b where
  returned : Option (SoftQ b)
  skbNull : Bool

/-- What happens to the queues. -/
inductive SelectionAct (b : Build)
  /-- `rsi_core_queue_pkt`, with eight bits of `skb->priority` -/
  | queuePkt (priority : BitVec 8)
  /-- `rsi_core_determine_hal_queue` in the loop of `rsi_core_qos_processor` -/
  | determine
  /-- The loop is left before a packet is taken: no queue, blocked data queues, a hibernation, a
  hardware queue without room. -/
  | leave
  /-- `rsi_core_dequeue_pkt` on the queue that was returned -/
  | dequeue
  /-- A write of `hw_data_qs_blocked` -/
  | block (blocked : Bool)
  /-- New EDCA parameters -/
  | confTx (q : Fin (numEdcaQueues b)) (p : TxQueueParams)
  /-- `rsi_set_contention_vals` -/
  | setContentionVals (wme : Fin (numEdcaQueues b) → ℤ)

namespace Selection

variable {b : Build}

/-- One step. -/
def step (s : Selection b) : SelectionAct b → Option (Selection b)
  | .queuePkt priority =>
    -- a packet with an invalid queue number is freed
    if h : priority.toNat < numEdcaQueues b + 2 then
      let q : SoftQ b := ⟨priority.toNat, h⟩
      some { s with qLen := Function.update s.qLen q (s.qLen q + 1) }
    else some s
  | .determine =>
    some { s with
      toQueues := s.toQueues.determineHalQueue.2
      returned := s.toQueues.determineHalQueue.1 }
  | .leave => some { s with returned := none }
  | .dequeue =>
    match s.returned with
    | none => none
    | some q =>
      if s.qLen q = 0 then some { s with returned := none, skbNull := true }
      else
        some { s with qLen := Function.update s.qLen q (s.qLen q - 1), returned := none }
  | .block blocked => some { s with hwDataQsBlocked := blocked }
  | .confTx q p => some { s with edcaParams := Function.update s.edcaParams q p }
  | .setContentionVals wme => some { s with txQinfo := fun q => ⟨wme q, wme q, false⟩ }

/-- Empty queues and no burst. -/
structure Init (s : Selection b) : Prop where
  empty : ∀ q, s.qLen q = 0
  pktCnt : s.pktCnt = 0
  returned : s.returned = none
  skbNull : s.skbNull = false

/-- Packets that are queued, and the loop of the transmit thread. -/
def system (b : Build) : TransitionSystem (Selection b) (SelectionAct b) := ⟨Init, step⟩

/-- `pkt_cnt` packets of `selected_qnum`, which is a data queue, are promised; and a queue that was
returned has a packet which is not among them. -/
structure Inv (s : Selection b) : Prop where
  burst : s.pktCnt ≠ 0 → s.pktCnt ≤ s.qLen s.selectedQnum ∧ (s.selectedQnum : ℕ) < numEdcaQueues b
  returned : ∀ q, s.returned = some q →
    s.qLen q ≠ 0 ∧ (q = s.selectedQnum → s.pktCnt < s.qLen q)
  skbNull : s.skbNull = false

namespace Inv

variable {s : Selection b}

theorem of_init (h : Init s) : Inv s where
  burst hcnt := absurd h.pktCnt hcnt
  returned q hq := by
    rw [h.returned] at hq
    cases hq
  skbNull := h.skbNull

/-- A longer queue breaks no promise. -/
theorem queuePkt (h : Inv s) (q : SoftQ b) :
    Inv { s with qLen := Function.update s.qLen q (s.qLen q + 1) } := by
  have hle (r : SoftQ b) : s.qLen r ≤ Function.update s.qLen q (s.qLen q + 1) r := by
    by_cases hr : r = q
    · rw [hr, Function.update_self]
      omega
    · rw [Function.update_of_ne hr]
  constructor
  · intro hcnt
    obtain ⟨hlen, hdata⟩ := h.burst hcnt
    exact ⟨hlen.trans (hle _), hdata⟩
  · intro r hr
    obtain ⟨hlen, hburst⟩ := h.returned r hr
    have hr' := hle r
    refine ⟨fun hzero => hlen ?_, fun hsel => (hburst hsel).trans_le hr'⟩
    exact Nat.le_zero.1 (hr'.trans hzero.le)
  · exact h.skbNull

theorem determine (h : Inv s) :
    Inv { s with
      toQueues := s.toQueues.determineHalQueue.2
      returned := s.toQueues.determineHalQueue.1 } := by
  rcases s.toQueues.determineHalQueue_cases with ⟨q, heq, hq, hmgmt⟩ | ⟨heq, -⟩ | ⟨hcnt, heq⟩ |
    ⟨-, -, t, heq, hlen, hcnt⟩ | ⟨-, q, t, heq, hq, hlen, hsel, hcnt⟩
  · -- a frame of the driver leaves the promise alone
    rw [heq]
    refine ⟨h.burst, fun r hr => ?_, h.skbNull⟩
    obtain rfl : q = r := Option.some.inj hr
    refine ⟨hq, fun hsel => ?_⟩
    by_cases hcnt : s.pktCnt = 0
    · show s.pktCnt < s.qLen q
      omega
    · have hdata := (h.burst hcnt).2
      rw [← hsel] at hdata
      exact absurd hdata (Nat.not_lt.2 hmgmt)
  · rw [heq]
    refine ⟨h.burst, fun r hr => ?_, h.skbNull⟩
    cases hr
  · -- the burst goes on with one of the promised packets
    obtain ⟨hle, hdata⟩ := h.burst hcnt
    rw [heq]
    refine ⟨fun _ => ⟨(Nat.sub_le _ _).trans hle, hdata⟩, fun r hr => ?_, h.skbNull⟩
    obtain rfl : s.selectedQnum = r := Option.some.inj hr
    show s.qLen s.selectedQnum ≠ 0 ∧ (_ → s.pktCnt - 1 < s.qLen s.selectedQnum)
    exact ⟨by omega, fun _ => by omega⟩
  · rw [heq]
    refine ⟨fun hne => absurd hcnt hne, fun r hr => ?_, h.skbNull⟩
    cases hr
  · -- a fresh choice makes a new promise
    have hlt : t.pktCnt < t.qLen (q.castAdd 2) := by
      rw [hlen]
      exact hcnt
    rw [heq]
    refine ⟨fun _ => ?_, fun r hr => ?_, h.skbNull⟩
    · show t.pktCnt ≤ t.qLen t.selectedQnum ∧ (t.selectedQnum : ℕ) < numEdcaQueues b
      rw [hsel]
      exact ⟨hlt.le, q.isLt⟩
    · obtain rfl : q.castAdd 2 = r := Option.some.inj hr
      exact ⟨Nat.ne_zero_of_lt hlt, fun _ => hlt⟩

/-- The packet that is taken is not one of the promised ones. -/
theorem dequeue (h : Inv s) {q : SoftQ b} (hret : s.returned = some q) :
    s.qLen q ≠ 0 ∧
      Inv { s with qLen := Function.update s.qLen q (s.qLen q - 1), returned := none } := by
  obtain ⟨hlen, hlt⟩ := h.returned q hret
  refine ⟨hlen, fun hcnt => ?_, fun r hr => ?_, h.skbNull⟩
  · obtain ⟨hle, hdata⟩ := h.burst hcnt
    refine ⟨?_, hdata⟩
    show s.pktCnt ≤ Function.update s.qLen q (s.qLen q - 1) s.selectedQnum
    by_cases hsel : s.selectedQnum = q
    · have := hlt hsel.symm
      rw [hsel, Function.update_self]
      omega
    · rw [Function.update_of_ne hsel]
      exact hle
  · cases hr

theorem step (h : Inv s) {act : SelectionAct b} {u : Selection b} (hstep : s.step act = some u) :
    Inv u := by
  cases act with
  | queuePkt priority =>
    simp only [Selection.step] at hstep
    split_ifs at hstep
    · cases hstep
      exact h.queuePkt _
    · cases hstep
      exact h
  | determine =>
    cases hstep
    exact h.determine
  | leave =>
    cases hstep
    refine ⟨h.burst, fun r hr => ?_, h.skbNull⟩
    cases hr
  | dequeue =>
    cases hret : s.returned with
    | none => simp [Selection.step, hret] at hstep
    | some q =>
      obtain ⟨hlen, hinv⟩ := h.dequeue hret
      simp only [Selection.step, hret, if_neg hlen] at hstep
      cases hstep
      exact hinv
  | block blocked =>
    cases hstep
    exact ⟨h.burst, h.returned, h.skbNull⟩
  | confTx q p =>
    cases hstep
    exact ⟨h.burst, h.returned, h.skbNull⟩
  | setContentionVals wme =>
    cases hstep
    exact ⟨h.burst, h.returned, h.skbNull⟩

end Inv

/-- **Work conservation** of a call of `rsi_core_determine_hal_queue`: the loop at `get_queue_num`
ends after at most two passes; unless the data queues are blocked, the call returns
`INVALID_QUEUE` if and only if every soft queue is empty; and a queue that it returns has a
packet. -/
structure Conserves (s : Queues b) : Prop where
  terminates : (s.getQueueNum 2).isSome = true
  invalid_iff : s.hwDataQsBlocked = false →
    (s.determineHalQueue.1 = none ↔ ∀ q, s.qLen q = 0)
  nonempty : ∀ q, s.determineHalQueue.1 = some q → s.qLen q ≠ 0

namespace Inv

variable {s : Selection b} (h : Inv s)

include h

/-- A queue that the next call returns has a packet. -/
theorem nonempty {q : SoftQ b} (hret : s.toQueues.determineHalQueue.1 = some q) :
    s.qLen q ≠ 0 := by
  have hlen : s.toQueues.determineHalQueue.2.qLen q ≠ 0 := (h.determine.returned q hret).1
  rwa [Queues.qLen_determineHalQueue] at hlen

theorem conserves : Conserves s.toQueues where
  terminates := s.toQueues.getQueueNum_isSome
  invalid_iff hblocked := by
    constructor
    · intro hret
      rcases s.toQueues.determineHalQueue_cases with ⟨_, heq, -⟩ | ⟨-, hb⟩ | ⟨-, heq⟩ |
        ⟨-, hempty, -⟩ | ⟨-, _, _, heq, -⟩
      · rw [heq] at hret
        cases hret
      · rw [hblocked] at hb
        cases hb
      · rw [heq] at hret
        cases hret
      · exact hempty
      · rw [heq] at hret
        cases hret
    · intro hempty
      cases hret : s.toQueues.determineHalQueue.1 with
      | none => rfl
      | some q => exact absurd (hempty q) (h.nonempty hret)
  nonempty _ hret := h.nonempty hret

end Inv

/-- The choice of queues conserves work in every state that packets and the transmit thread can
lead to, and the thread never finds a queue empty. -/
theorem conserves_of_reachable (b : Build) (s : Selection b) (h : (system b).Reachable s) :
    Conserves s.toQueues ∧ s.skbNull = false := by
  have hinv : Inv s := h.invariant Inv (fun _ hinit => .of_init hinit)
    fun _ _ _ hinv _ hstep => hinv.step hstep
  exact ⟨hinv.conserves, hinv.skbNull⟩

/-- Empty queues, with default access parameters. -/
def idle (b : Build) : Selection b where
  txQinfo := fun _ => ⟨43, 43, false⟩
  edcaParams := fun _ => ⟨3, 47, 2, false⟩
  qLen := fun _ => 0
  minWeight := 0
  selectedQnum := .mgmtBeacon b
  pktCnt := 0
  hwDataQsBlocked := false
  returned := none
  skbNull := false

theorem init_idle (b : Build) : Init (idle b) := ⟨fun _ => rfl, rfl, rfl, rfl⟩

/-- Three packets in the voice queue, the first of which is taken. -/
def voiceBurst (b : Build) : List (SelectionAct b) :=
  [.queuePkt 3, .queuePkt 3, .queuePkt 3, .determine, .dequeue]

theorem isSome_voiceBurst (b : Build) :
    ((system b).run (idle b) (voiceBurst b)).isSome = true := by
  cases b <;> decide

/-- In the middle of a burst, with ten queues. -/
theorem conserves_voiceBurst :
    Conserves (((system .staPlusAp).run (idle .staPlusAp) (voiceBurst .staPlusAp)).get
        (isSome_voiceBurst .staPlusAp)).toQueues ∧
      (((system .staPlusAp).run (idle .staPlusAp) (voiceBurst .staPlusAp)).get
        (isSome_voiceBurst .staPlusAp)).skbNull = false :=
  conserves_of_reachable _ _ (TransitionSystem.reachable_get (init_idle _) (isSome_voiceBurst _))

end Selection

end Tx
