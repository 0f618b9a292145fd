import RsiDriver.ToMathlib.LeftmostMin
import RsiDriver.Tx.Starvation

/-!
# The queue with the least back-off

A fresh choice of `rsi_core_determine_hal_queue` should fall on the leftmost queue with the least
back-off among those in the contention. The search compares with `min_weight`, which begins with
eight bits of the weight of the first queue. A queue below that is found. If there is none, the
first queue is taken, also when it is not the one with the least weight.

## Main results

* `leftmostMin_leastBackoff_iff`: when the search finds the leftmost minimum;
* `picksMinimum_iff`: the same for a call of `rsi_core_determine_hal_queue`.
-/

namespace Tx

namespace Wmm

/-- The queue `ii` takes part in the choice: it has packets and contends. If no queue contends, all
queues with packets enter the contention first. -/
def InContention (s : Wmm) (ii : Fin NUM_EDCA_QUEUES) : Prop :=
  s.qLen (ii.castLE edca_le) ≠ 0 ∧
    ((s.txQinfo ii).pktContended = true ∨ ∀ jj, s.contends jj = false)

instance (s : Wmm) (ii : Fin NUM_EDCA_QUEUES) : Decidable (s.InContention ii) := by
  unfold InContention
  infer_instance

/-- The weights and `wme_params` are those that `rsi_set_contention_vals` computes. -/
def ContentionVals (p : Fin NUM_EDCA_QUEUES → TxQueueParams) (s : Wmm) : Prop :=
  ∀ ii, (s.txQinfo ii).weight = wmeParams (p ii) ∧ (s.txQinfo ii).wmeParams = wmeParams (p ii)

/-- **The choice picks a minimum**: if a data queue has packets, the call returns the leftmost
queue with the least back-off among those in the contention. -/
def PicksMinimum (p : Fin NUM_EDCA_QUEUES → TxQueueParams) (s : Wmm) : Prop :=
  (∃ i : Fin NUM_EDCA_QUEUES, s.qLen (i.castLE edca_le) ≠ 0) →
    ∃ ii : Fin NUM_EDCA_QUEUES, s.determineHalQueue.1 = some (ii.castLE edca_le) ∧
      LeftmostMin s.InContention (fun jj => wmeParams (p jj)) ii

/-- The back-off of the first queue in the contention is the least one, or some back-off is below
what eight bits keep of it. -/
def MinimumFits (p : Fin NUM_EDCA_QUEUES → TxQueueParams) (s : Wmm) : Prop :=
  ∀ first, s.InContention first → (∀ jj, s.InContention jj → first ≤ jj) →
    (∀ jj, s.InContention jj → wmeParams (p first) ≤ wmeParams (p jj)) ∨
      ∃ jj, s.InContention jj ∧ wmeParams (p jj) < wmeParams (p first) % 256

/-! ## The search -/

/-- A turn of the search is a turn of the loop for a minimum, on the numbers that the eight bits
stand for. -/
theorem leastBackoffStep_eq_minStep {s : Wmm} (hpos : ∀ ii, 0 ≤ (s.txQinfo ii).weight)
    (first : Fin NUM_EDCA_QUEUES) (acc : Fin NUM_EDCA_QUEUES × BitVec 8)
    (ii : Fin NUM_EDCA_QUEUES) :
    Prod.map id (fun m : BitVec 8 => (m.toNat : ℤ)) (s.leastBackoffStep first acc ii) =
      minStep (fun ii => first ≤ ii ∧ s.contends ii = true) (fun ii => (s.txQinfo ii).weight)
        (Prod.map id (fun m : BitVec 8 => (m.toNat : ℤ)) acc) ii := by
  unfold leastBackoffStep minStep
  by_cases h : first ≤ ii ∧ s.contends ii = true ∧ (s.txQinfo ii).weight < acc.2.toNat
  · rw [if_pos h, if_pos ⟨⟨h.1, h.2.1⟩, h.2.2⟩]
    exact Prod.ext rfl (toNat_ofInt_weight (hpos ii) h.2.2)
  · rw [if_neg h, if_neg fun h' => h ⟨h'.1.1, h'.1.2, h'.2⟩]

/-- What eight bits keep of a weight. -/
theorem toNat_ofInt_eight (w : ℤ) : ((BitVec.ofInt 8 w).toNat : ℤ) = w % 256 := by
  rw [BitVec.toNat_ofInt]
  omega

section LeastBackoff

variable {s : Wmm} (hpos : ∀ ii, 0 ≤ (s.txQinfo ii).weight) {first : Fin NUM_EDCA_QUEUES}
  (hfirst : s.contends first = true) (hle : ∀ ii, s.contends ii = true → first ≤ ii)

include hpos hle

/-- The search takes the first queue if no weight is below what eight bits keep of the first one,
and the leftmost minimum otherwise. -/
theorem leastBackoff_cases :
    ((s.leastBackoff first).1 = first ∧
      ∀ ii, s.contends ii = true → (s.txQinfo first).weight % 256 ≤ (s.txQinfo ii).weight) ∨
    (LeftmostMin (s.contends · = true) (fun ii => (s.txQinfo ii).weight) (s.leastBackoff first).1 ∧
      (s.txQinfo (s.leastBackoff first).1).weight < (s.txQinfo first).weight % 256) := by
  let num : Fin NUM_EDCA_QUEUES × BitVec 8 → Fin NUM_EDCA_QUEUES × ℤ :=
    Prod.map id fun m => (m.toNat : ℤ)
  have hfold : (List.finRange NUM_EDCA_QUEUES).foldl
      (minStep (fun ii => first ≤ ii ∧ s.contends ii = true) fun ii => (s.txQinfo ii).weight)
      (first, (s.txQinfo first).weight % 256) = num (s.leastBackoff first) := by
    rw [← toNat_ofInt_eight]
    show List.foldl _ (num (first, BitVec.ofInt 8 (s.txQinfo first).weight)) _ = _
    exact List.foldl_hom num fun acc ii => (leastBackoffStep_eq_minStep hpos first acc ii).symm
  have hcont (ii : Fin NUM_EDCA_QUEUES) :
      (ii ∈ List.finRange NUM_EDCA_QUEUES ∧ first ≤ ii ∧ s.contends ii = true) ↔
        s.contends ii = true :=
    ⟨fun h => h.2.2, fun h => ⟨List.mem_finRange ii, hle ii h, h⟩⟩
  have hspec := foldl_minStep (fun ii => first ≤ ii ∧ s.contends ii = true)
    (fun ii => (s.txQinfo ii).weight) _ (List.pairwise_lt_finRange NUM_EDCA_QUEUES)
    (first, (s.txQinfo first).weight % 256)
  rw [hfold] at hspec
  rcases hspec with ⟨heq, hrest⟩ | ⟨hmin, hval, hlt⟩
  · left
    refine ⟨congrArg Prod.fst heq, fun ii hii => ?_⟩
    exact hrest ii (List.mem_finRange ii) ⟨hle ii hii, hii⟩
  · right
    refine ⟨(LeftmostMin.congr hcont fun _ _ => rfl).1 hmin, ?_⟩
    rw [hval] at hlt
    exact hlt

include hfirst

/-- The search finds the leftmost minimum if the first queue is that minimum or if a weight is
below what eight bits keep of the first one. -/
theorem leftmostMin_leastBackoff_iff :
    LeftmostMin (s.contends · = true) (fun ii => (s.txQinfo ii).weight) (s.leastBackoff first).1 ↔
      (∀ ii, s.contends ii = true → (s.txQinfo first).weight ≤ (s.txQinfo ii).weight) ∨
        ∃ ii, s.contends ii = true ∧ (s.txQinfo ii).weight < (s.txQinfo first).weight % 256 := by
  have hmod : (s.txQinfo first).weight % 256 ≤ (s.txQinfo first).weight := by
    have := hpos first
    omega
  rcases leastBackoff_cases hpos hle with ⟨heq, hmin⟩ | ⟨hmin, hlt⟩
  · -- the first queue was taken
    rw [heq]
    constructor
    · intro h
      exact .inl h.le
    · rintro (h | ⟨ii, hii, hlt⟩)
      · exact ⟨hfirst, h, fun ii hii _ => hle ii hii⟩
      · exact absurd hlt (not_lt.2 (hmin ii hii))
  · constructor
    · intro h
      exact .inr ⟨_, h.mem, hlt⟩
    · intro _
      exact hmin

end LeastBackoff

/-! ## The call -/

section ContentionVals

variable {p : Fin NUM_EDCA_QUEUES → TxQueueParams} {s : Wmm}

/-- The state in which the choice is made. -/
def atChoice (s : Wmm) : Wmm :=
  if s.determineMinWeightQueue = none then s.recalculateWeights.1 else s

omit p in
theorem contends_atChoice_iff (ii : Fin NUM_EDCA_QUEUES) :
    s.atChoice.contends ii = true ↔ s.InContention ii := by
  unfold atChoice InContention
  split_ifs with hfind
  · -- nobody contends, and all queues with packets enter
    have hnone (jj : Fin NUM_EDCA_QUEUES) : s.contends jj = false :=
      Bool.eq_false_iff.2 (List.find?_eq_none.1 hfind jj (List.mem_finRange jj))
    constructor
    · intro h
      exact ⟨(contends_iff.1 h).2, .inr hnone⟩
    · rintro ⟨hlen, -⟩
      have hcont : (s.txQinfo ii).pktContended = false := by
        have := hnone ii
        simpa [contends, hlen] using this
      simp [contends, recalculateWeights, recalculate, hlen, hcont]
  · have hsome : ¬ ∀ jj, s.contends jj = false := by
      intro hnone
      apply hfind
      exact List.find?_eq_none.2 fun jj _ => Bool.eq_false_iff.1 (hnone jj)
    rw [contends_iff, or_iff_left hsome]
    exact and_comm

/-- At the choice, the weights of the queues in the contention are those that
`rsi_set_contention_vals` computes, and no weight is negative. -/
theorem weight_atChoice (hvals : ContentionVals p s) (ii : Fin NUM_EDCA_QUEUES) :
    0 ≤ (s.atChoice.txQinfo ii).weight ∧
      (s.InContention ii → (s.atChoice.txQinfo ii).weight = wmeParams (p ii)) := by
  have hpos := (wmeParams_pos (p ii)).le
  obtain ⟨hweight, hwme⟩ := hvals ii
  unfold atChoice
  split_ifs with hfind
  · refine ⟨?_, fun hin => ?_⟩
    · apply weight_recalculate_nonneg
      rw [hwme]
      exact hpos
    · have hnone : s.contends ii = false :=
        Bool.eq_false_iff.2 (List.find?_eq_none.1 hfind ii (List.mem_finRange ii))
      have hcont : (s.txQinfo ii).pktContended = false := by
        simpa [contends, hin.1] using hnone
      -- the queue enters with its `wme_params`
      show (recalculate _ _ _).weight = _
      rw [recalculate, if_pos hin.1, hcont]
      exact hwme
  · rw [hweight]
    exact ⟨hpos, fun _ => rfl⟩

/-- With a packet in a data queue, the choice is made in the contention at that time. -/
theorem determineHalQueue_atChoice (hvals : ContentionVals p s) (hfresh : s.fresh = true)
    (hpacket : ∃ i : Fin NUM_EDCA_QUEUES, s.qLen (i.castLE edca_le) ≠ 0) :
    ∃ first, s.atChoice.contends first = true ∧
      (∀ ii, s.atChoice.contends ii = true → first ≤ ii) ∧
      s.determineHalQueue.1 = some ((s.atChoice.leastBackoff first).1.castLE edca_le) := by
  have hweight : ∀ ii, 0 ≤ (s.txQinfo ii).weight := by
    intro ii
    rw [(hvals ii).1]
    exact (wmeParams_pos (p ii)).le
  have hpos (ii : Fin NUM_EDCA_QUEUES) := (weight_atChoice hvals ii).1
  cases hfind : s.determineMinWeightQueue with
  | some first =>
    have hat : s.atChoice = s := by
      unfold atChoice
      rw [hfind]
      rfl
    obtain ⟨hfirst, hle⟩ := contends_of_determineMinWeightQueue hfind
    have hdet := determineHalQueue_of_fresh hfresh (getQueueNum_of_first hweight hfind 1).2
    rw [hat]
    exact ⟨first, hfirst, hle, by rw [hdet]⟩
  | none =>
    have hat : s.atChoice = s.recalculateWeights.1 := if_pos hfind
    -- the second pass chooses
    obtain ⟨i, hi⟩ := hpacket
    have hcont : s.atChoice.contends i = true := by
      refine (contends_atChoice_iff i).2 ⟨hi, .inr fun jj => ?_⟩
      exact Bool.eq_false_iff.2 (List.find?_eq_none.1 hfind jj (List.mem_finRange jj))
    cases hfind' : s.atChoice.determineMinWeightQueue with
    | none => exact absurd hcont (List.find?_eq_none.1 hfind' i (List.mem_finRange i))
    | some first =>
      obtain ⟨hfirst, hle⟩ := contends_of_determineMinWeightQueue hfind'
      have hmgmt : s.qLen MGMT_SOFT_Q = 0 := by
        simp only [fresh, Bool.and_eq_true, beq_iff_eq] at hfresh
        exact hfresh.1.1.2
      have heq := (getQueueNum_of_first hpos hfind' 0).2
      have hpass : s.getQueueNum 2 = s.atChoice.getQueueNum 1 := by
        rw [hat]
        exact getQueueNum_of_none hfind hmgmt ⟨i, hi⟩ 1
      have hdet := determineHalQueue_of_fresh hfresh (hpass.trans heq)
      exact ⟨first, hfirst, hle, by rw [hdet]⟩

end ContentionVals

/-- **Back-off selection**: with the weights that `rsi_set_contention_vals` computes, a fresh choice
picks the leftmost queue with the least back-off if and only if the back-off of the first queue in
the contention is the least, or some back-off is below what eight bits keep of it. -/
theorem picksMinimum_iff (p : Fin NUM_EDCA_QUEUES → TxQueueParams) (s : Wmm)
    (hvals : ContentionVals p s) (hfresh : s.fresh = true) :
    PicksMinimum p s ↔ MinimumFits p s := by
  by_cases hpacket : ∃ i : Fin NUM_EDCA_QUEUES, s.qLen (i.castLE edca_le) ≠ 0
  · obtain ⟨first, hfirst, hle, hdet⟩ := determineHalQueue_atChoice hvals hfresh hpacket
    have hmin := leftmostMin_leastBackoff_iff (fun ii => (weight_atChoice hvals ii).1) hfirst hle
    simp only [contends_atChoice_iff] at hmin hfirst hle
    have hweight (ii : Fin NUM_EDCA_QUEUES) (hii : s.InContention ii) :=
      (weight_atChoice hvals ii).2 hii
    rw [LeftmostMin.congr (fun _ => .rfl) hweight] at hmin
    have hpicks : PicksMinimum p s ↔
        LeftmostMin s.InContention (fun jj => wmeParams (p jj))
          (s.atChoice.leastBackoff first).1 := by
      constructor
      · intro h
        obtain ⟨ii, hret, hii⟩ := h hpacket
        rw [hdet] at hret
        rwa [Fin.castLE_inj.1 (Option.some.inj hret)]
      · intro h _
        exact ⟨_, hdet, h⟩
    rw [hpicks, hmin, hweight first hfirst]
    constructor
    · -- there is only one first queue
      rintro h first' hfirst' hle'
      obtain rfl : first' = first := le_antisymm (hle' first hfirst) (hle first' hfirst')
      rcases h with h | ⟨ii, hii, hlt⟩
      · left
        intro jj hjj
        rw [← hweight jj hjj]
        exact h jj hjj
      · right
        rw [hweight ii hii] at hlt
        exact ⟨ii, hii, hlt⟩
    · intro h
      rcases h first hfirst hle with h | ⟨jj, hjj, hlt⟩
      · left
        intro ii hii
        rw [hweight ii hii]
        exact h ii hii
      · right
        rw [← hweight jj hjj] at hlt
        exact ⟨jj, hjj, hlt⟩
  · -- without packets nothing is in the contention
    constructor
    · intro _ first hfirst
      exact absurd ⟨first, hfirst.1⟩ hpacket
    · intro _ h
      exact absurd h hpacket

/-- Access parameters with a `cw_min` of 63 for the background queue, whose back-off is 358: eight
bits keep 102 of it. -/
def wideBackground : Fin NUM_EDCA_QUEUES → TxQueueParams
  | 0 => ⟨63, 0, 7, false⟩
  | 1 => ⟨15, 0, 3, false⟩
  | 2 => ⟨7, 94, 2, false⟩
  | 3 => ⟨3, 47, 2, false⟩

/-- With these the background queue is chosen before the best-effort queue, whose back-off is
106. -/
theorem not_picksMinimum :
    ¬ ∀ p s, ContentionVals p s → s.fresh = true → PicksMinimum p s := by
  intro hall
  let s := offered (fun q => wmeParams (wideBackground q)) 0 1
  have hret : s.determineHalQueue.1 = some ((0 : Fin NUM_EDCA_QUEUES).castLE edca_le) := by decide
  obtain ⟨ii, hii, hmin⟩ := hall wideBackground s (fun _ => ⟨rfl, rfl⟩) fresh_offered
    ⟨0, by decide⟩
  rw [hret] at hii
  obtain rfl : 0 = ii := Fin.castLE_inj.1 (Option.some.inj hii)
  have hle : wmeParams (wideBackground 0) ≤ wmeParams (wideBackground 1) :=
    hmin.le 1 ⟨by decide, .inr fun _ => rfl⟩
  revert hle
  decide

/-- With the default access parameters and packets in the best-effort and the voice queue, the
choice picks the minimum. -/
theorem picksMinimum_defaultAccess :
    PicksMinimum defaultAccess (offered (fun q => wmeParams (defaultAccess q)) 1 3) :=
  (picksMinimum_iff defaultAccess _ (fun _ => ⟨rfl, rfl⟩) fresh_offered).2
    (by unfold MinimumFits; decide)

end Wmm

end Tx
