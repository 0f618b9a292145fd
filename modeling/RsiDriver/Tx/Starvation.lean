import RsiDriver.Tx.Wmm

/-!
# Starvation in the WMM scheduler

A data queue that has packets and takes part in the contention should be chosen after a bounded
number of fresh choices: each choice takes the minimum off its weight until no queue is below it.
This fails when the minimum is 0. The eight bits of `min_weight` make it 0 for a queue whose weight
is a multiple of 256 and which is the first that contends; if its `wme_params` is one, that queue is
chosen again and again while packets arrive for it.

Otherwise a choice with minimum 0 uses up one of the at most three queues that allow it, so that
four times the weight plus the number of these queues is a rank.

## Main results

* `noStarvation_iff`: a queue that waits is served after a bounded number of choices if and only if
  no queue before it has a multiple of 256 for its `wme_params`;
* `not_noStarvation`: access parameters under which the best-effort queue starves.
-/

namespace Tx

open TransitionSystem

namespace Wmm

/-- The queue `i` waits during a step from `t` to `u`: it contends before and after, and is not
freshly chosen. -/
def Waits (i : Fin NUM_EDCA_QUEUES) (t : Wmm) (act : WmmAct) (u : Wmm) : Prop :=
  t.contends i = true ∧ u.contends i = true ∧
    (act = .determine → t.fresh = true → u.returned ≠ some (i.castLE edca_le))

/-- The step is a fresh choice. -/
def FreshChoice (t : Wmm) (act : WmmAct) : Prop := act = .determine ∧ t.fresh = true

/-- **No starvation** of the queue `i` under the given `wme_params`: while it waits, its weight
never increases; the number of fresh choices is bounded by a function of its weight; and after a
bounded number of them its weight is less. -/
def NoStarvation (wme : Fin NUM_EDCA_QUEUES → ℤ) (i : Fin NUM_EDCA_QUEUES) : Prop :=
  ∃ bound : ℤ → ℕ, ∃ patience : ℕ, ∀ s n s', system.Reachable s →
    (∀ q, (s.txQinfo q).wmeParams = wme q) →
    system.CountedRun (Waits i) FreshChoice s n s' →
    (s'.txQinfo i).weight ≤ (s.txQinfo i).weight ∧ n ≤ bound (s.txQinfo i).weight ∧
      (patience ≤ n → (s'.txQinfo i).weight < (s.txQinfo i).weight)

/-! ## Bounded waiting -/

/-- A call that chooses no data queue afresh leaves the weights alone. -/
theorem txQinfo_determineHalQueue (s : Wmm) (h : s.fresh = false) :
    s.determineHalQueue.2.txQinfo = s.txQinfo := by
  unfold determineHalQueue
  split_ifs with hbeacon hmgmt hblocked hcnt
  · rfl
  · rfl
  · rfl
  · rfl
  · simp_all [fresh]

/-- Nor does any other step that leaves a queue in the contention. -/
theorem txQinfo_step {t u : Wmm} {act : WmmAct} (hstep : t.step act = some u)
    {i : Fin NUM_EDCA_QUEUES} (hi : u.contends i = true) (hfresh : ¬ FreshChoice t act) :
    u.txQinfo = t.txQinfo := by
  cases act with
  | enqueue q =>
    cases hstep
    rfl
  | determine =>
    cases hstep
    exact txQinfo_determineHalQueue t (Bool.eq_false_iff.2 fun h => hfresh ⟨rfl, h⟩)
  | dequeue =>
    cases hret : t.returned with
    | none => simp [step, hret] at hstep
    | some q =>
      simp only [step, hret] at hstep
      cases hstep
      rfl
  | block blocked =>
    cases hstep
    rfl
  | confTx q p =>
    cases hstep
    rfl
  | setContentionVals wme =>
    -- no queue is in the contention after new values are set
    simp only [step] at hstep
    split_ifs at hstep
    cases hstep
    cases hi

/-- The queues after a fresh choice, with the queue that was first in the contention. -/
theorem determineHalQueue_fresh {s : Wmm} (hpos : ∀ ii, 0 ≤ (s.txQinfo ii).weight)
    (hfresh : s.fresh = true) {i : Fin NUM_EDCA_QUEUES} (hi : s.contends i = true) :
    ∃ first ≤ i, s.contends first = true ∧ s.contends (s.leastBackoff first).1 = true ∧
      s.determineHalQueue.1 = some ((s.leastBackoff first).1.castLE edca_le) ∧
      s.determineHalQueue.2.txQinfo = (s.chosen first).txQinfo := by
  obtain ⟨first, hle, hfirst, hchoice, heq⟩ := getQueueNum_of_contends hpos hi 1
  have hdet := determineHalQueue_of_fresh hfresh heq
  refine ⟨first, hle, hfirst, hchoice, ?_, ?_⟩
  · rw [hdet]
  · rw [hdet]
    rfl

/-- The queues that can be chosen before `i` without any weight being reduced: those before `i`
with nothing in the low eight bits of their weight, and those behind it with weight 0. -/
def blockers (s : Wmm) (i : Fin NUM_EDCA_QUEUES) : Finset (Fin NUM_EDCA_QUEUES) :=
  Finset.univ.filter fun j => j ≠ i ∧ (s.txQinfo j).pktContended = true ∧
    if j < i then 256 ∣ (s.txQinfo j).weight else (s.txQinfo j).weight = 0

theorem mem_blockers {s : Wmm} {i j : Fin NUM_EDCA_QUEUES} :
    j ∈ s.blockers i ↔ j ≠ i ∧ (s.txQinfo j).pktContended = true ∧
      if j < i then 256 ∣ (s.txQinfo j).weight else (s.txQinfo j).weight = 0 := by
  simp [blockers]

theorem card_blockers_le (s : Wmm) (i : Fin NUM_EDCA_QUEUES) : (s.blockers i).card ≤ 3 := by
  -- there are four queues, and `i` is not one of them
  have hsub : s.blockers i ⊆ Finset.univ.erase i := by
    intro j hj
    exact Finset.mem_erase.2 ⟨(mem_blockers.1 hj).1, Finset.mem_univ j⟩
  have hcard := Finset.card_le_card hsub
  rw [Finset.card_erase_of_mem (Finset.mem_univ i), Finset.card_univ, Fintype.card_fin] at hcard
  exact hcard

/-- How long the queue `i` may have to wait. -/
def rank (s : Wmm) (i : Fin NUM_EDCA_QUEUES) : ℕ :=
  4 * (s.txQinfo i).weight.toNat + (s.blockers i).card

theorem qLen_ne_zero_of_contends {s : Wmm} {p : Fin NUM_EDCA_QUEUES} (h : s.contends p = true) :
    s.qLen (p.castLE edca_le) ≠ 0 := (contends_iff.1 h).2

theorem pktContended_of_contends {s : Wmm} {p : Fin NUM_EDCA_QUEUES} (h : s.contends p = true) :
    (s.txQinfo p).pktContended = true := (contends_iff.1 h).1

/-- A queue that was not chosen, after the choice. -/
theorem txQinfo_chosen_of_ne {s : Wmm} {first p : Fin NUM_EDCA_QUEUES}
    (hp : p ≠ (s.leastBackoff first).1) :
    (s.chosen first).txQinfo p =
      recalculate (s.leastBackoff first).2 (s.qLen (p.castLE edca_le)) (s.txQinfo p) := by
  have hsame : (s.choose (s.leastBackoff first)).txQinfo p = s.txQinfo p :=
    Function.update_of_ne hp _ _
  show recalculate _ _ ((s.choose _).txQinfo p) = _
  rw [hsame]
  rfl

/-- The queue that was chosen enters the contention again. -/
theorem txQinfo_chosen_self {s : Wmm} {first : Fin NUM_EDCA_QUEUES}
    (h : s.contends (s.leastBackoff first).1 = true) :
    (s.chosen first).txQinfo (s.leastBackoff first).1 =
      { s.txQinfo (s.leastBackoff first).1 with
        weight := (s.txQinfo (s.leastBackoff first).1).wmeParams
        pktContended := true } := by
  have hself : (s.choose (s.leastBackoff first)).txQinfo (s.leastBackoff first).1 =
      { s.txQinfo (s.leastBackoff first).1 with pktContended := false } :=
    Function.update_self _ _ _
  show recalculate _ (s.qLen _) ((s.choose _).txQinfo _) = _
  rw [hself, recalculate, if_pos (qLen_ne_zero_of_contends h)]
  rfl

section Choice

variable {wme : Fin NUM_EDCA_QUEUES → ℤ} {s : Wmm} (h : Inv wme s) {i first : Fin NUM_EDCA_QUEUES}
  (hle : first ≤ i) (hne : (s.leastBackoff first).1 ≠ i)

include h hle hne

/-- The final `min_weight` is taken off the weight of a queue that waits. -/
theorem weight_chosen (hi : s.contends i = true) :
    ((s.chosen first).txQinfo i).weight =
      (s.txQinfo i).weight - (s.leastBackoff first).2.toNat := by
  have hmin := (leastBackoff_spec h.weight first).2 i hle hi
  rw [txQinfo_chosen_of_ne hne.symm, recalculate, if_pos (qLen_ne_zero_of_contends hi),
    if_pos (pktContended_of_contends hi)]
  dsimp only
  split_ifs with hlt
  · rfl
  · omega

/-- The queue that is chosen with nothing to take off the weights is one of `blockers`. -/
theorem leastBackoff_mem_blockers (hcont : s.contends (s.leastBackoff first).1 = true)
    (hzero : (s.leastBackoff first).2 = 0) : (s.leastBackoff first).1 ∈ s.blockers i := by
  refine mem_blockers.2 ⟨hne, pktContended_of_contends hcont, ?_⟩
  rcases (leastBackoff_spec h.weight first).1 with hfirst | ⟨-, -, hweight⟩
  · -- the first queue is chosen, which is before `i`
    have hq : (s.leastBackoff first).1 = first := congrArg Prod.fst hfirst
    have hm : BitVec.ofInt 8 (s.txQinfo first).weight = 0 := by
      rw [← hzero]
      exact (congrArg Prod.snd hfirst).symm
    rw [hq] at hne ⊢
    rw [if_pos (lt_of_le_of_ne hle hne)]
    have hmod := congrArg BitVec.toNat hm
    rw [BitVec.toNat_ofInt] at hmod
    simp only [BitVec.ofNat_eq_ofNat, BitVec.toNat_ofNat] at hmod
    omega
  · -- the weight of the choice is the minimum, 0
    have hweight : (s.txQinfo (s.leastBackoff first).1).weight = 0 := by
      rw [hweight, hzero]
      rfl
    split_ifs
    · rw [hweight]
      exact Int.dvd_zero 256
    · exact hweight

omit h hle hne in
/-- A minimum of 0 takes nothing off a weight. -/
theorem reduced_zero {weight : ℤ} (hweight : 0 ≤ weight) :
    (if weight > ((0 : BitVec 8).toNat : ℤ) then weight - ((0 : BitVec 8).toNat : ℤ) else 0) =
      weight := by
  simp only [BitVec.ofNat_eq_ofNat, BitVec.toNat_ofNat]
  split_ifs <;> omega

/-- A choice that reduces no weight uses up one of `blockers`. -/
theorem card_blockers_chosen (hwme : ∀ ii, 0 < wme ii) (hcond : ∀ j < i, ¬ 256 ∣ wme j)
    (hcont : s.contends (s.leastBackoff first).1 = true) (hzero : (s.leastBackoff first).2 = 0) :
    ((s.chosen first).blockers i).card < (s.blockers i).card := by
  -- a queue that enters the contention is not one of them
  have henter : ∀ p, ¬ if p < i then 256 ∣ (s.txQinfo p).wmeParams
      else (s.txQinfo p).wmeParams = 0 := by
    intro p
    rw [h.wmeParams p]
    split_ifs with hpi
    · exact hcond p hpi
    · exact (hwme p).ne'
  have hself : (s.leastBackoff first).1 ∉ (s.chosen first).blockers i := by
    intro hmem
    obtain ⟨-, -, hweight⟩ := mem_blockers.1 hmem
    rw [txQinfo_chosen_self hcont] at hweight
    exact henter _ hweight
  refine Finset.card_lt_card (Finset.ssubset_iff_of_subset ?_ |>.2
    ⟨_, leastBackoff_mem_blockers h hle hne hcont hzero, hself⟩)
  intro p hp
  have hpq : p ≠ (s.leastBackoff first).1 := fun hpq => hself (hpq ▸ hp)
  obtain ⟨hpi, hpcont, hpweight⟩ := mem_blockers.1 hp
  rw [txQinfo_chosen_of_ne hpq, hzero] at hpcont hpweight
  unfold recalculate at hpcont hpweight
  by_cases hlen : s.qLen (p.castLE edca_le) ≠ 0
  · rw [if_pos hlen] at hpcont hpweight
    by_cases hold : (s.txQinfo p).pktContended = true
    · -- its weight is what it was
      refine mem_blockers.2 ⟨hpi, hold, ?_⟩
      rw [if_pos hold] at hpweight
      dsimp only at hpweight
      rwa [reduced_zero (h.weight p)] at hpweight
    · rw [if_neg hold] at hpweight
      exact absurd hpweight (henter p)
  · rw [if_neg hlen] at hpcont
    cases hpcont

/-- Every choice of another queue brings the queue `i` closer to its turn. -/
theorem rank_chosen (hwme : ∀ ii, 0 < wme ii) (hcond : ∀ j < i, ¬ 256 ∣ wme j)
    (hi : s.contends i = true) (hcont : s.contends (s.leastBackoff first).1 = true) :
    (s.chosen first).rank i < s.rank i := by
  have hweight := weight_chosen h hle hne hi
  have hmin := (leastBackoff_spec h.weight first).2 i hle hi
  unfold rank
  rw [hweight]
  by_cases hzero : (s.leastBackoff first).2 = 0
  · have hcard := card_blockers_chosen h hle hne hwme hcond hcont hzero
    rw [hzero]
    simp only [BitVec.ofNat_eq_ofNat, BitVec.toNat_ofNat]
    omega
  · -- the weight gets smaller, which outweighs any new blockers
    have hpos : 0 < (s.leastBackoff first).2.toNat := by
      rw [Nat.pos_iff_ne_zero]
      exact fun h => hzero (BitVec.eq_of_toNat_eq h)
    have hcard := card_blockers_le (s.chosen first) i
    omega

end Choice

/-- What a step does to a queue that waits. -/
theorem waits_step {wme : Fin NUM_EDCA_QUEUES → ℤ} (hwme : ∀ ii, 0 < wme ii)
    {i : Fin NUM_EDCA_QUEUES} (hcond : ∀ j < i, ¬ 256 ∣ wme j) {t u : Wmm} {act : WmmAct}
    (h : Inv wme t) (hstep : t.step act = some u) (hwaits : Waits i t act u) :
    Inv wme u ∧ (u.txQinfo i).weight ≤ (t.txQinfo i).weight ∧ u.rank i ≤ t.rank i ∧
      (FreshChoice t act → u.rank i < t.rank i) := by
  obtain ⟨hi, hi', hother⟩ := hwaits
  have hinv : Inv wme u := by
    rcases h.step hwme hstep with hu | ⟨-, hnone⟩
    · exact hu
    · rw [hnone i] at hi'
      cases hi'
  by_cases hfresh : FreshChoice t act
  -- another queue is chosen, as `i` waits
  · obtain ⟨rfl, hfresh⟩ := hfresh
    obtain ⟨first, hle, -, hcont, hq, hinfo⟩ := determineHalQueue_fresh h.weight hfresh hi
    cases hstep
    have hne : (t.leastBackoff first).1 ≠ i := by
      rintro rfl
      exact hother rfl hfresh hq
    have hweight := weight_chosen h hle hne hi
    have hrank := rank_chosen h hle hne hwme hcond hi hcont
    have hrank' : Wmm.rank { t.determineHalQueue.2 with returned := t.determineHalQueue.1 } i =
        (t.chosen first).rank i := by
      unfold rank blockers
      rw [hinfo]
    refine ⟨hinv, ?_, ?_, fun _ => ?_⟩
    · show (t.determineHalQueue.2.txQinfo i).weight ≤ _
      rw [hinfo, hweight]
      omega
    · exact hrank'.trans_le hrank.le
    · exact hrank'.trans_lt hrank
  · -- the weights stay as they are
    have hinfo : u.txQinfo = t.txQinfo := txQinfo_step hstep hi' hfresh
    have hrank : u.rank i = t.rank i := by
      unfold rank blockers
      rw [hinfo]
    exact ⟨hinv, by rw [hinfo], hrank.le, fun h => absurd h hfresh⟩

/-- A queue waits for a bounded number of choices if no queue before it has a multiple of 256. -/
theorem noStarvation_of_not_dvd {wme : Fin NUM_EDCA_QUEUES → ℤ} (hwme : ∀ ii, 0 < wme ii)
    {i : Fin NUM_EDCA_QUEUES} (hcond : ∀ j < i, ¬ 256 ∣ wme j) : NoStarvation wme i := by
  refine ⟨fun w => 4 * w.toNat + 3, 4, fun s n s' hs hparams hrun => ?_⟩
  obtain ⟨wme', -, hinv'⟩ := exists_inv_of_reachable hs
  have hinv : Inv wme s := ⟨hinv'.weight, hparams⟩
  have hstep (t : Wmm) (act : WmmAct) (u : Wmm) (h : Inv wme t) (hst : t.step act = some u)
      (hG : Waits i t act u) := waits_step hwme hcond h hst hG
  -- each fresh choice lowers the rank, and no other step raises it
  have hrank := hrun.add_rank_le (Inv wme) hinv (fun t a u h hst hG => (hstep t a u h hst hG).1)
    (fun s => s.rank i) (fun t a u h hst hG => (hstep t a u h hst hG).2.2.1)
    fun t a u h hst hG => (hstep t a u h hst hG).2.2.2
  obtain ⟨hend, hweight⟩ := hrun.invariant
    (fun t => Inv wme t ∧ (t.txQinfo i).weight ≤ (s.txQinfo i).weight) ⟨hinv, le_rfl⟩
    fun t a u h hst hG =>
      ⟨(hstep t a u h.1 hst hG).1, (hstep t a u h.1 hst hG).2.1.trans h.2⟩
  have hcard := card_blockers_le s i
  have hpos := hinv.weight i
  have hpos' := hend.weight i
  unfold rank at hrank
  refine ⟨hweight, ?_, fun hn => ?_⟩
  · show n ≤ 4 * (s.txQinfo i).weight.toNat + 3
    omega
  · omega

/-! ## Starvation -/

/-- The queues `i` and `j` hold one packet each and contend with all of their `wme_params`; the
other queues are empty. -/
structure Contest (wme : Fin NUM_EDCA_QUEUES → ℤ) (i j : Fin NUM_EDCA_QUEUES) (s : Wmm) : Prop
    extends Inv wme s where
  qLen : s.qLen = fun q => if q = i.castLE edca_le ∨ q = j.castLE edca_le then 1 else 0
  pktCnt : s.pktCnt = 0
  blocked : s.hwDataQsBlocked = false
  contended : ∀ q, (s.txQinfo q).pktContended = true ↔ q = i ∨ q = j
  weight_i : (s.txQinfo i).weight = wme i
  weight_j : (s.txQinfo j).weight = wme j

namespace Contest

variable {wme : Fin NUM_EDCA_QUEUES → ℤ} {i j : Fin NUM_EDCA_QUEUES} {s : Wmm}

theorem contends_iff (h : Contest wme i j s) (q : Fin NUM_EDCA_QUEUES) :
    s.contends q = true ↔ q = i ∨ q = j := by
  unfold contends
  rw [Bool.and_eq_true, h.contended q, h.qLen]
  simp [Fin.castLE_inj]
  tauto

theorem fresh (h : Contest wme i j s) : s.fresh = true := by
  have hdata : ∀ q : Fin NUM_EDCA_QUEUES,
      MGMT_BEACON_Q ≠ q.castLE edca_le ∧ MGMT_SOFT_Q ≠ q.castLE edca_le := by decide
  simp [Wmm.fresh, h.qLen, h.pktCnt, h.blocked, hdata]

/-- After a choice of `j` that reduces no weight everything is as before. -/
theorem chosen (h : Contest wme i j s) (hwme : ∀ ii, 0 < wme ii) (hij : j < i)
    (hchoice : s.leastBackoff j = (j, 0)) :
    Contest wme i j ((s.chosen j).select (j.castLE edca_le)) := by
  have hi := (h.contends_iff i).2 (.inl rfl)
  have hj := (h.contends_iff j).2 (.inr rfl)
  have hfst : (s.leastBackoff j).1 = j := by rw [hchoice]
  have hself : (s.chosen j).txQinfo j =
      { s.txQinfo j with weight := (s.txQinfo j).wmeParams, pktContended := true } := by
    have hcont : s.contends (s.leastBackoff j).1 = true := by rw [hfst]; exact hj
    have := txQinfo_chosen_self hcont
    rwa [hfst] at this
  refine ⟨((h.toInv.choose _).recalculateWeights hwme).of_txQinfo rfl, h.qLen, ?_, h.blocked,
    fun q => ?_, ?_, ?_⟩
  · -- a burst of a single packet is over
    show (if _ then min (s.qLen _) _ - 1 else s.pktCnt) = 0
    rw [h.qLen, h.pktCnt]
    split_ifs <;> simp
  · show ((s.chosen j).txQinfo q).pktContended = true ↔ _
    by_cases hqj : q = j
    · rw [hqj, hself]
      simp
    · rw [txQinfo_chosen_of_ne (by rw [hfst]; exact hqj)]
      by_cases hqi : q = i
      · rw [hqi, recalculate, if_pos (qLen_ne_zero_of_contends hi),
          if_pos (pktContended_of_contends hi)]
        simpa using pktContended_of_contends hi
      · -- the other queues are empty
        have hlen : s.qLen (q.castLE edca_le) = 0 := by
          rw [h.qLen]
          simp [Fin.castLE_inj, hqi, hqj]
        rw [recalculate, if_neg (not_not.2 hlen)]
        simp [hqi, hqj]
  · show ((s.chosen j).txQinfo i).weight = wme i
    rw [weight_chosen h.toInv hij.le (by rw [hfst]; exact hij.ne) hi, hchoice, h.weight_i]
    simp
  · show ((s.chosen j).txQinfo j).weight = wme j
    rw [hself]
    exact h.wmeParams j

/-- If nothing is left of the weight of `j` in eight bits, `j` is chosen and nothing changes. -/
theorem getQueueNum (h : Contest wme i j s) (hwme : ∀ ii, 0 < wme ii) (hij : j < i)
    (hdvd : 256 ∣ wme j) (fuel : ℕ) :
    ∃ t, s.getQueueNum (fuel + 1) = some (some (j.castLE edca_le), t) ∧
      Contest wme i j (t.select (j.castLE edca_le)) := by
  have hj := (h.contends_iff j).2 (.inr rfl)
  obtain ⟨first, hle, hfirst, -, heq⟩ := getQueueNum_of_contends h.weight hj fuel
  obtain rfl : first = j := by
    rcases (h.contends_iff first).1 hfirst with rfl | hfirst
    · exact absurd hij (not_lt.2 hle)
    · exact hfirst
  -- the eight bits that `min_weight` takes of a multiple of 256
  have hzero : BitVec.ofInt 8 (s.txQinfo first).weight = 0 := by
    rw [h.weight_j]
    apply BitVec.eq_of_toNat_eq
    rw [BitVec.toNat_ofInt]
    simp only [BitVec.ofNat_eq_ofNat, BitVec.toNat_ofNat]
    omega
  -- no weight is below a minimum of 0
  have hchoice : s.leastBackoff first = (first, 0) := by
    have hmin := (foldl_leastBackoffStep_le h.weight first (List.finRange NUM_EDCA_QUEUES)
      (first, BitVec.ofInt 8 (s.txQinfo first).weight)).1
    rcases (leastBackoff_spec h.weight first).1 with hspec | ⟨-, hcont, hweight⟩
    · rw [hspec, hzero]
    · have hle : (s.leastBackoff first).2.toNat ≤ (0 : BitVec 8).toNat := by
        rw [← hzero]
        exact hmin
      have hpos : 0 < (s.txQinfo (s.leastBackoff first).1).weight := by
        rcases (h.contends_iff _).1 hcont with hq | hq
        · rw [hq, h.weight_i]
          exact hwme i
        · rw [hq, h.weight_j]
          exact hwme first
      simp only [BitVec.ofNat_eq_ofNat, BitVec.toNat_ofNat] at hle
      omega
  rw [hchoice] at heq
  exact ⟨_, heq, h.chosen hwme hij hchoice⟩

theorem returned (h : Contest wme i j s) (r : Option QNum) :
    Contest wme i j { s with returned := r } :=
  ⟨h.toInv.of_txQinfo rfl, h.qLen, h.pktCnt, h.blocked, h.contended, h.weight_i, h.weight_j⟩

theorem determineHalQueue (h : Contest wme i j s) (hwme : ∀ ii, 0 < wme ii) (hij : j < i)
    (hdvd : 256 ∣ wme j) :
    ∃ t, s.determineHalQueue = (some (j.castLE edca_le), t) ∧ Contest wme i j t := by
  obtain ⟨t, heq, ht⟩ := h.getQueueNum hwme hij hdvd 1
  exact ⟨_, determineHalQueue_of_fresh h.fresh heq, ht⟩

/-- One round: `j` is chosen, its packet is taken, and its next packet arrives. -/
theorem round (h : Contest wme i j s) (hwme : ∀ ii, 0 < wme ii) (hij : j < i)
    (hdvd : 256 ∣ wme j) {s0 : Wmm} {n : ℕ}
    (hrun : system.CountedRun (Waits i) FreshChoice s0 n s) :
    ∃ u, system.CountedRun (Waits i) FreshChoice s0 (n + 1) u ∧ Contest wme i j u := by
  obtain ⟨t, hdet, ht⟩ := h.determineHalQueue hwme hij hdvd
  let jq : QNum := j.castLE edca_le
  have hji : jq ≠ i.castLE edca_le := fun heq => hij.ne (Fin.castLE_inj.1 heq)
  let t1 : Wmm := { t with returned := some jq }
  let t2 : Wmm := { t1 with qLen := Function.update t.qLen jq (t.qLen jq - 1), returned := none }
  have hi1 : t1.contends i = true := ((ht.returned _).contends_iff i).2 (.inl rfl)
  have hi2 : t2.contends i = true := by
    have hlen : t2.qLen (i.castLE edca_le) = t.qLen (i.castLE edca_le) :=
      Function.update_of_ne hji.symm _ _
    show (_ && _ != 0) = true
    rw [hlen]
    exact (ht.contends_iff i).2 (.inl rfl)
  -- the packet that arrives makes up for the one that was taken
  have hqueue : Function.update t2.qLen jq (t2.qLen jq + 1) = t.qLen := by
    have hone : t.qLen jq = 1 := by rw [ht.qLen]; simp [jq]
    have hzero : t2.qLen jq = t.qLen jq - 1 := Function.update_self _ _ _
    rw [hzero, Function.update_idem, hone]
    exact Function.update_eq_self_iff.2 hone.symm
  have hchoice : system.step s .determine = some t1 := by
    simp only [system, step, hdet, t1, jq]
  have hserve : system.step t1 .dequeue = some t2 := rfl
  have harrive : system.step t2 (.enqueue jq) = some { t with returned := none } := by
    show some { t2 with qLen := Function.update t2.qLen jq (t2.qLen jq + 1) } = _
    rw [hqueue]
  have hi3 : Wmm.contends { t with returned := none } i = true :=
    ((ht.returned _).contends_iff i).2 (.inl rfl)
  have hwaits : Waits i s .determine t1 :=
    ⟨(h.contends_iff i).2 (.inl rfl), hi1, fun _ _ heq => hji (Option.some.inj heq)⟩
  -- only a choice counts
  have hdequeue : WmmAct.dequeue ≠ .determine := by
    intro heq
    cases heq
  have henqueue : WmmAct.enqueue jq ≠ .determine := by
    intro heq
    cases heq
  refine ⟨{ t with returned := none }, ?_, ht.returned _⟩
  refine .other (.other (.counted hrun hchoice hwaits ⟨rfl, h.fresh⟩) hserve
    ⟨hi1, hi2, fun ha => absurd ha hdequeue⟩ ?_) harrive ⟨hi2, hi3, fun ha => absurd ha henqueue⟩ ?_
  · exact fun hfresh => hdequeue hfresh.1
  · exact fun hfresh => henqueue hfresh.1

end Contest

/-- The driver after `rsi_set_contention_vals`. -/
def initial (wme : Fin NUM_EDCA_QUEUES → ℤ) : Wmm where
  txQinfo := fun q => ⟨wme q, wme q, false⟩
  edcaParams := fun _ => ⟨0, 0, 0, false⟩
  qLen := fun _ => 0
  minWeight := 0
  selectedQnum := BK_Q
  pktCnt := 0
  hwDataQsBlocked := false
  returned := none

/-- The same with packets in the queues `i` and `j`. -/
def offered (wme : Fin NUM_EDCA_QUEUES → ℤ) (i j : Fin NUM_EDCA_QUEUES) : Wmm :=
  { initial wme with
    qLen := fun q => if q = i.castLE edca_le ∨ q = j.castLE edca_le then 1 else 0 }

section Starvation

variable {wme : Fin NUM_EDCA_QUEUES → ℤ} (hwme : ∀ ii, 0 < wme ii) {i j : Fin NUM_EDCA_QUEUES}
  (hij : j < i)

include hwme hij

theorem reachable_offered : system.Reachable (offered wme i j) := by
  have hinit : system.Init (initial wme) :=
    ⟨hwme, fun _ => rfl, fun _ => rfl, fun _ => rfl, rfl, rfl⟩
  refine reachable_of_run hinit (?_ : system.run _
    [.enqueue (i.castLE edca_le), .enqueue (j.castLE edca_le)] = some (offered wme i j))
  have hlen : Function.update (Function.update (fun _ : QNum => 0) (i.castLE edca_le) 1)
      (j.castLE edca_le) 1 =
        fun q => if q = i.castLE edca_le ∨ q = j.castLE edca_le then 1 else 0 := by
    funext q
    by_cases hqj : q = j.castLE edca_le
    · simp [hqj]
    · by_cases hqi : q = i.castLE edca_le
      · subst hqi
        simp [Function.update_of_ne hqj]
      · simp [hqi, hqj]
  have hji : (j.castLE edca_le : QNum) ≠ i.castLE edca_le :=
    fun heq => hij.ne (Fin.castLE_inj.1 heq)
  simp [system, step, offered, initial, ← hlen, Function.update_of_ne hji]

omit hwme hij in
/-- The two queues with packets enter the contention. -/
theorem txQinfo_recalculateWeights_offered (q : Fin NUM_EDCA_QUEUES) :
    (offered wme i j).recalculateWeights.1.txQinfo q =
      if q = i ∨ q = j then ⟨wme q, wme q, true⟩ else ⟨0, wme q, false⟩ := by
  show recalculate 0 (if _ then 1 else 0) ⟨wme q, wme q, false⟩ = _
  simp only [Fin.castLE_inj, recalculate]
  split_ifs <;> simp_all

omit hij in
theorem contest_recalculateWeights_offered :
    Contest wme i j (offered wme i j).recalculateWeights.1 := by
  refine ⟨⟨fun q => ?_, fun q => ?_⟩, rfl, rfl, rfl, fun q => ?_, ?_, ?_⟩
  · rw [txQinfo_recalculateWeights_offered]
    split_ifs
    · exact (hwme q).le
    · exact le_rfl
  · rw [txQinfo_recalculateWeights_offered]
    split_ifs <;> rfl
  · rw [txQinfo_recalculateWeights_offered]
    split_ifs with hq <;> simp [hq]
  · rw [txQinfo_recalculateWeights_offered, if_pos (.inl rfl)]
  · rw [txQinfo_recalculateWeights_offered, if_pos (.inr rfl)]

omit hwme hij in
theorem fresh_offered : (offered wme i j).fresh = true := by
  have hdata : ∀ q : Fin NUM_EDCA_QUEUES,
      MGMT_BEACON_Q ≠ q.castLE edca_le ∧ MGMT_SOFT_Q ≠ q.castLE edca_le := by decide
  simp [fresh, offered, initial, hdata]

omit hwme hij in
/-- With no queue in the contention, the choice is made in a second pass. -/
theorem getQueueNum_offered :
    (offered wme i j).getQueueNum 2 = (offered wme i j).recalculateWeights.1.getQueueNum 1 := by
  have hmgmt : ∀ q : Fin NUM_EDCA_QUEUES, MGMT_SOFT_Q ≠ q.castLE edca_le := by decide
  apply getQueueNum_of_none
  · exact List.find?_eq_none.2 fun _ _ => nofun
  · simp [offered, hmgmt]
  · exact ⟨i, by simp [offered]⟩

/-- The first choice falls on `j`. -/
theorem exists_contest (hdvd : 256 ∣ wme j) :
    ∃ s, system.Reachable s ∧ Contest wme i j s := by
  let s := offered wme i j
  obtain ⟨t, heq, ht⟩ :=
    (contest_recalculateWeights_offered hwme).getQueueNum hwme hij hdvd 0
  have hdet : s.determineHalQueue =
      (some (j.castLE edca_le), t.select (j.castLE edca_le)) := by
    apply determineHalQueue_of_fresh fresh_offered
    rw [getQueueNum_offered]
    exact heq
  refine ⟨_, .step (reachable_offered hwme hij) (a := .determine) trivial rfl, ?_⟩
  show Contest wme i j { s.determineHalQueue.2 with returned := s.determineHalQueue.1 }
  rw [hdet]
  exact ht.returned _

/-- As long as packets arrive in the queue `j`, no other queue is ever chosen. -/
theorem not_noStarvation_of_dvd (hdvd : 256 ∣ wme j) : ¬ NoStarvation wme i := by
  rintro ⟨bound, patience, hbound⟩
  obtain ⟨s, hs, hcontest⟩ := exists_contest hwme hij hdvd
  have hrounds (n : ℕ) : ∃ u, system.CountedRun (Waits i) FreshChoice s n u ∧
      Contest wme i j u := by
    induction n with
    | zero => exact ⟨s, .refl, hcontest⟩
    | succ n ih =>
      obtain ⟨u, hrun, hu⟩ := ih
      exact hu.round hwme hij hdvd hrun
  obtain ⟨u, hrun, -⟩ := hrounds (bound (s.txQinfo i).weight + 1)
  have := (hbound s _ u hs hcontest.wmeParams hrun).2.1
  omega

end Starvation

/-- **Starvation in the WMM scheduler**: for positive `wme_params`, a data queue that waits is
chosen after a bounded number of fresh choices if and only if the `wme_params` of no queue before
it is a multiple of 256. -/
theorem noStarvation_iff (wme : Fin NUM_EDCA_QUEUES → ℤ) (hwme : ∀ q, 0 < wme q)
    (i : Fin NUM_EDCA_QUEUES) : NoStarvation wme i ↔ ∀ j < i, ¬ 256 ∣ wme j := by
  constructor
  · intro h j hij hdvd
    exact not_noStarvation_of_dvd hwme hij hdvd h
  · exact noStarvation_of_not_dvd hwme

/-- Access parameters with a background queue that waits for 1024 units of time: a `cw_min` of 127
and an `aifs` of 49. -/
def longBackoff : Fin NUM_EDCA_QUEUES → TxQueueParams
  | 0 => ⟨127, 0, 49, false⟩
  | 1 => ⟨15, 0, 3, false⟩
  | 2 => ⟨7, 94, 2, false⟩
  | 3 => ⟨3, 47, 2, false⟩

/-- With these parameters the background queue keeps the best-effort queue from being served. -/
theorem not_noStarvation :
    ¬ ∀ wme : Fin NUM_EDCA_QUEUES → ℤ, (∀ q, 0 < wme q) → ∀ i, NoStarvation wme i := by
  intro hall
  have hbackoff : wmeParams (longBackoff 0) = 1024 := rfl
  refine not_noStarvation_of_dvd (fun q => wmeParams_pos (longBackoff q)) (i := 1) (j := 0)
    (by decide) ?_ (hall _ (fun q => wmeParams_pos _) 1)
  rw [hbackoff]
  decide

/-- Access parameters as they are by default. -/
def defaultAccess : Fin NUM_EDCA_QUEUES → TxQueueParams
  | 0 => ⟨15, 0, 7, false⟩
  | 1 => ⟨15, 0, 3, false⟩
  | 2 => ⟨7, 94, 2, false⟩
  | 3 => ⟨3, 47, 2, false⟩

/-- With these the voice queue, which is looked at last, does not starve. -/
theorem noStarvation_defaultAccess : NoStarvation (fun q => wmeParams (defaultAccess q)) 3 :=
  (noStarvation_iff _ (fun q => wmeParams_pos (defaultAccess q)) 3).2 (by decide)

end Wmm

end Tx
