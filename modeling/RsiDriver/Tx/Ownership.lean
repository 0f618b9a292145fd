import RsiDriver.Tx.CoreXmit

/-!
# Every frame has one owner

A frame handed to `rsi_core_xmit` must end in exactly one transmit queue or be released exactly
once. The two functions that prepare descriptors disagree on who releases a frame they reject:
`rsi_prepare_data_desc` calls `rsi_indicate_tx_status` itself, and `rsi_core_xmit` then frees the
same frame again. `rsi_prepare_mgmt_desc` leaves the frame to its caller and is right.

## Main results

* `not_consumedOnce`: a data frame whose source address belongs to no vif is released twice;
* `consumedOnce_iff`: a frame is consumed exactly once if and only if the driver does not crash on
  it and the data descriptor, if it comes to that, is produced.
-/

namespace Tx

namespace Adapter

/-- The frame `tag` is consumed exactly once between `a` and `a'`: one more place in a queue, or
one more release. -/
def ConsumedOnce (a a' : Adapter) (tag : ℕ) : Prop :=
  a'.queued tag + a'.releases tag = a.queued tag + a.releases tag + 1

instance (a a' : Adapter) (tag : ℕ) : Decidable (ConsumedOnce a a' tag) :=
  inferInstanceAs (Decidable (_ = _))

/-- When `rsi_core_xmit` consumes a frame exactly once. Frames that are refused at once are fine.
So are management frames, unless an association request dereferences a missing vif. A data frame
needs a vif, and if it is not dropped before, its descriptor must be produced. -/
def XmitOk (a : Adapter) (skb : SkBuff) : Prop :=
  if skb.len = 0 ∨ a.fsmMacInitDone = false then True
  else if skb.isMgmtFrame = true then
    FrameControl.isAssocReq (skb.frameControl 0) || FrameControl.isReassocReq (skb.frameControl 0) →
      (a.vifs 0).isSome ∧ a.lastVif.isSome
  else
    ∃ vif, a.lastVif = some vif ∧
      (nullDropped a vif skb = true ∨
        ∀ i unicast, xmitStation a vif skb = some (i, unicast) →
          DataDescReady a (xmitSkb a vif skb i))

/-! ## The double release -/

/-- The address 02:00:00:00:00:`n`. -/
def localAddr (n : BitVec 8) : MacAddr := 0x0200000000#40 ++ n

/-- A station interface that is up and associated, with an idle driver. -/
def stationUp : Adapter where
  hw := some ⟨false, fun _ => false⟩
  vifs := fun i => if i = 0 then some ⟨.station, localAddr 1, 0, true, localAddr 9⟩ else none
  scNvifs := 1
  usbFullSpeed := false
  psEnabled := false
  peerNotify := false
  axParams := ⟨false, false, 0, 0, 0, 0, 0, 0, 0, 0, 0, 0⟩
  fsmMacInitDone := true
  ifaceDown := false
  bgscanEn := false
  startBgscan := false
  scanInProg := false
  hibernateResume := false
  mac80211CurChannel := 1
  connectedChannel := 1
  eapol4Confirm := false
  cipherWep := false
  minRate := 0xffff
  sgi := false
  fixedRateEn := false
  fixedRate := 0
  enableErSu := false
  configErSu := 0
  band := 0
  p2pEnabled := false
  minimumBasicRate := 0
  maxStations := 32
  stations := fun i =>
    ⟨if i = RSI_MAX_ASSOC_STAS then some ⟨localAddr 9, true, 0⟩ else none, 0, fun _ => false, 0,
      none⟩
  txQueue := fun _ => []
  hostTxqMaxlen := fun _ => 20
  edcaParams := fun _ => ⟨false, 2⟩
  released := []
  baSessions := []
  written := []

/-- A QoS data frame with ample headroom, sent to the access point from the address `source`. -/
def qosData (source : MacAddr) : SkBuff where
  tag := 0
  data := 0x1054
  headroom := 0x54
  len := 100
  byte := fun i =>
    if i = 0 then 0x88 else if i = 1 then 0x01
    else if 4 ≤ i ∧ i < 10 then (localAddr 9 >>> (8 * (9 - i))).setWidth 8
    else if 10 ≤ i ∧ i < 16 then (source >>> (8 * (15 - i))).setWidth 8
    else 0
  priority := 0
  protocol := 0x0800
  info := ⟨false, false, false, false, none⟩
  txParams := ⟨false, false, 0, 0, 0⟩

/-- The driver releases a data frame twice when its source address is not that of a vif. -/
theorem not_consumedOnce :
    ¬ ∀ (a : Adapter) (skb : SkBuff) (internal : Option (List SkBuff)),
      (∀ frames ∈ internal, ∀ s ∈ frames, s.tag ≠ skb.tag) →
        ConsumedOnce a (a.coreXmit skb internal).1 skb.tag := by
  intro hall
  have htwice := hall stationUp (qosData (localAddr 2)) none (by simp)
  exact absurd htwice (by decide)

/-! ## Each branch of `rsi_core_xmit` -/

/-- Releasing the frame consumes it. -/
theorem consumedOnce_freeTxskb (a : Adapter) {skb : SkBuff} {tag : ℕ} (htag : skb.tag = tag) :
    ConsumedOnce a (a.freeTxskb skb) tag := by
  subst htag
  rw [ConsumedOnce, queued_freeTxskb, releases_freeTxskb]
  omega

theorem consumedOnce_indicateTxStatus (a : Adapter) (skb : SkBuff) :
    ConsumedOnce a (a.indicateTxStatus skb) skb.tag := by
  rw [ConsumedOnce, queued_indicateTxStatus, releases_indicateTxStatus]
  omega

/-- Queueing the frame consumes it. -/
theorem consumedOnce_coreQueuePkt (a : Adapter) {skb : SkBuff} {tag : ℕ} (htag : skb.tag = tag)
    (hprio : (skb.priority.setWidth 8).toNat < 6) : ConsumedOnce a (a.coreQueuePkt skb) tag := by
  rw [ConsumedOnce, queued_coreQueuePkt a skb tag hprio, releases_coreQueuePkt a skb tag hprio,
    if_pos htag]
  omega

/-- A step that leaves the queues and the releases alone does not consume anything. -/
theorem not_consumedOnce_self (a a' : Adapter) (tag : ℕ) (hq : a'.txQueue = a.txQueue)
    (hr : a'.released = a.released) : ¬ ConsumedOnce a a' tag := by
  have hqueued : a'.queued tag = a.queued tag := by rw [queued, hq, queued]
  have hreleases : a'.releases tag = a.releases tag := by rw [releases, hr, releases]
  rw [ConsumedOnce, hqueued, hreleases]
  omega

/-- Consumption is measured against any state with the same queues and releases. -/
theorem ConsumedOnce.congr {a b a' : Adapter} {tag : ℕ} (hqueued : b.queued tag = a.queued tag)
    (hreleases : b.releases tag = a.releases tag) :
    ConsumedOnce b a' tag ↔ ConsumedOnce a a' tag := by
  rw [ConsumedOnce, ConsumedOnce, hqueued, hreleases]

/-- Stopping queues moves no frame. -/
theorem flowControl_frame (a : Adapter) (q : Fin NUM_EDCA_QUEUES) :
    (a.flowControl q).1.txQueue = a.txQueue ∧ (a.flowControl q).1.released = a.released := by
  have hstop : ∀ (l : List (Fin NUM_EDCA_QUEUES)) (a : Adapter),
      (l.foldl stopQueue a).txQueue = a.txQueue ∧ (l.foldl stopQueue a).released = a.released := by
    intro l
    induction l with
    | nil => exact fun a => ⟨rfl, rfl⟩
    | cons q l ih => exact fun a => ih (a.stopQueue q)
  unfold flowControl
  split_ifs
  · exact ⟨rfl, rfl⟩
  · exact ⟨rfl, rfl⟩
  · exact hstop _ a

theorem consumedOnce_flowControl_iff {a b : Adapter} {q : Fin NUM_EDCA_QUEUES} {tag : ℕ} :
    ConsumedOnce a (b.flowControl q).1 tag ↔ ConsumedOnce a b tag := by
  obtain ⟨hq, hr⟩ := b.flowControl_frame q
  rw [ConsumedOnce, ConsumedOnce, queued, hq, ← queued, releases, hr, ← releases]

/-- A frame of the driver's own does not count for another frame. -/
theorem queued_sendInternalMgmtFrame (a : Adapter) {s : SkBuff} {tag : ℕ} (hfresh : s.tag ≠ tag) :
    (a.sendInternalMgmtFrame s).queued tag = a.queued tag := by
  have hupdate : (a.sendInternalMgmtFrame s).queued tag + _ = a.queued tag + _ :=
    queued_of_update rfl tag
  have hzero : [s.internal].countP (·.tag == tag) = 0 := by
    rw [List.countP_eq_zero]
    intro t ht
    rw [List.mem_singleton.1 ht]
    exact mt beq_iff_eq.1 hfresh
  split_ifs at hupdate
  · rw [← List.singleton_append, List.countP_append, hzero] at hupdate
    omega
  · rw [List.countP_append, hzero] at hupdate
    omega

theorem queued_sendStaNotify (a : Adapter) {internal : Option (List SkBuff)} {tag : ℕ}
    (hfresh : ∀ frames ∈ internal, ∀ s ∈ frames, s.tag ≠ tag) :
    (a.sendStaNotify internal).queued tag = a.queued tag := by
  cases internal with
  | none => rfl
  | some frames =>
    have hframes (b : Adapter) (l : List SkBuff) (hl : ∀ s ∈ l, s.tag ≠ tag) :
        (l.foldl sendInternalMgmtFrame b).queued tag = b.queued tag := by
      induction l generalizing b with
      | nil => rfl
      | cons s l ih =>
        rw [List.foldl_cons, ih _ fun t ht => hl t (List.mem_cons_of_mem _ ht),
          queued_sendInternalMgmtFrame b (hl s List.mem_cons_self)]
    exact hframes { a with peerNotify := true } frames (hfresh frames rfl)

theorem releases_sendStaNotify (a : Adapter) (internal : Option (List SkBuff)) (tag : ℕ) :
    (a.sendStaNotify internal).releases tag = a.releases tag := by
  cases internal with
  | none => rfl
  | some frames =>
    have hframes (b : Adapter) (l : List SkBuff) :
        (l.foldl sendInternalMgmtFrame b).releases tag = b.releases tag := by
      induction l generalizing b with
      | nil => rfl
      | cons s l ih => exact (ih _).trans rfl
    exact hframes { a with peerNotify := true } frames

/-- Whatever `rsi_prepare_mgmt_desc` answers, the frame is consumed exactly once. -/
theorem consumedOnce_prepareMgmtDesc (a : Adapter) (skb : SkBuff) :
    ConsumedOnce a (a.queueOrFree 4 (prepareMgmtDesc a { skb with priority := 4 })).1 skb.tag := by
  rcases prepareMgmtDesc_cases a { skb with priority := 4 } with
    ⟨skb', htag, hprio, heq⟩ | ⟨skb', status, htag, heq⟩
  · rw [heq]
    apply consumedOnce_coreQueuePkt a htag
    rw [hprio]
    show (4#32 |>.setWidth 8).toNat < 6
    decide
  · rw [heq]
    exact consumedOnce_freeTxskb a htag

/-- A management frame is consumed exactly once, unless the driver crashes. -/
theorem consumedOnce_xmitMgmt_iff (a : Adapter) (skb : SkBuff) (internal : Option (List SkBuff))
    (hfresh : ∀ frames ∈ internal, ∀ s ∈ frames, s.tag ≠ skb.tag) :
    ConsumedOnce a (a.xmitMgmt skb internal).1 skb.tag ↔
      ((FrameControl.isAssocReq (skb.frameControl 0) ||
          FrameControl.isReassocReq (skb.frameControl 0)) = true →
        (a.vifs 0).isSome = true ∧ a.lastVif.isSome = true) := by
  unfold xmitMgmt
  generalize (FrameControl.isAssocReq (skb.frameControl 0) ||
    FrameControl.isReassocReq (skb.frameControl 0)) = assoc
  cases assoc with
  | false =>
    refine iff_of_true ?_ (by simp)
    exact consumedOnce_prepareMgmtDesc a skb
  | true =>
    -- an association request looks at both ends of the list of vifs
    by_cases hvifs : (a.vifs 0).isSome = true ∧ a.lastVif.isSome = true
    · refine iff_of_true ?_ fun _ => hvifs
      have hmissing : ((a.vifs 0).isNone || a.lastVif.isNone) = false := by
        simpa [Option.isSome_iff_ne_none] using hvifs
      simp only [hmissing, Bool.and_false, Bool.false_eq_true, if_false, if_true]
      generalize hb : Adapter.sendStaNotify
        { a with eapol4Confirm := false, startBgscan := false } internal = b
      have hqueued : b.queued skb.tag = a.queued skb.tag := by
        rw [← hb, queued_sendStaNotify _ hfresh]
        rfl
      have hreleases : b.releases skb.tag = a.releases skb.tag := by
        rw [← hb, releases_sendStaNotify]
        rfl
      exact (ConsumedOnce.congr hqueued hreleases).1 (consumedOnce_prepareMgmtDesc b skb)
    · refine iff_of_false ?_ fun h => hvifs (h rfl)
      have hmissing : ((a.vifs 0).isNone || a.lastVif.isNone) = true := by
        simp only [Option.isSome_iff_ne_none, not_and_or, not_not] at hvifs
        simpa [Option.isNone_iff_eq_none] using hvifs
      simp only [hmissing, Bool.and_true, if_true]
      exact not_consumedOnce_self _ _ _ rfl rfl

/-! ## The data branch -/

/-- Starting a block-ack session changes no field that the descriptor depends on, except the
flags of a station. -/
theorem startSession_cases (a : Adapter) (skb : SkBuff) (i : Fin 33) (unicast : Bool) :
    ∃ stations baSessions, a.startSession skb i unicast = { a with stations, baSessions } ∧
      ∀ j, (stations j).sta = (a.stations j).sta := by
  unfold startSession
  split
  · refine ⟨_, _, rfl, fun j => ?_⟩
    by_cases hj : j = i
    · subst hj
      rw [Function.update_self, RsiSta.setAggrFlag]
      split <;> rfl
    · rw [Function.update_of_ne hj]
  · exact ⟨_, _, rfl, fun _ => rfl⟩

/-- Starting a block-ack session has no influence on whether a descriptor is produced. -/
theorem dataDescReady_startSession (a : Adapter) (skb skb' : SkBuff) (i : Fin 33)
    (unicast : Bool) :
    DataDescReady (a.startSession skb i unicast) skb' ↔ DataDescReady a skb' := by
  obtain ⟨stations, baSessions, heq, hsta⟩ := a.startSession_cases skb i unicast
  have hfault : ∀ vif, dataDescFault { a with stations, baSessions } skb' vif =
      dataDescFault a skb' vif := by
    intro vif
    have hat :
        (Adapter.stationAt { a with stations, baSessions } skb'.txParams.staId.toNat).isNone =
        (a.stationAt skb'.txParams.staId.toNat).isNone := by
      unfold stationAt
      split <;> rfl
    unfold dataDescFault txStation
    rw [hat, hsta]
  rw [heq]
  constructor <;> rintro ⟨hunpadded, hpadded, vif, hvif, hready⟩
  · exact ⟨hunpadded, hpadded, vif, hvif, (hfault vif).symm.trans hready⟩
  · exact ⟨hunpadded, hpadded, vif, hvif, (hfault vif).trans hready⟩

/-- Every priority of a data frame names a queue, and so does the one after the descriptor. -/
theorem xmitPriority_lt (vif : Vif) (skb : SkBuff) :
    ((xmitPriority vif skb).setWidth 8).toNat < 6 := by
  unfold xmitPriority tidToWmeAc
  split_ifs <;> decide

/-- A data frame whose descriptor is prepared is consumed exactly once if it is produced. -/
theorem consumedOnce_prepareDataDesc_iff (a : Adapter) (vif : Vif) (skb : SkBuff) (i : Fin 33)
    (unicast : Bool) :
    ConsumedOnce a ((a.startSession skb i unicast).queueOrFree (xmitPriority vif skb)
        (prepareDataDesc (a.startSession skb i unicast) (xmitSkb a vif skb i))).1 skb.tag ↔
      DataDescReady a (xmitSkb a vif skb i) := by
  rw [← dataDescReady_startSession a skb (xmitSkb a vif skb i) i unicast]
  obtain ⟨stations, baSessions, heq, -⟩ := a.startSession_cases skb i unicast
  generalize hb : a.startSession skb i unicast = b
  have hqueued : b.queued skb.tag = a.queued skb.tag := by rw [← hb, heq]; rfl
  have hreleases : b.releases skb.tag = a.releases skb.tag := by rw [← hb, heq]; rfl
  rw [← ConsumedOnce.congr hqueued hreleases]
  rcases prepareDataDesc_cases b (xmitSkb a vif skb i) with
    ⟨hready, ppdu, skb', htag, hprio, hres⟩ | ⟨hready, skb', status, htag, hres⟩ |
    ⟨hready, fault, hres⟩
  · -- the descriptor is there, and the frame goes into the queue of its priority
    refine iff_of_true ?_ hready
    have hconsumed : ConsumedOnce b
        (Adapter.coreQueuePkt { b with axParams.hePpduType := ppdu } skb') skb.tag := by
      refine consumedOnce_coreQueuePkt { b with axParams.hePpduType := ppdu } htag ?_
      rcases hprio with hprio | hprio
      · rw [hprio]
        exact xmitPriority_lt vif skb
      · rw [hprio]
        decide
    rw [hres, queueOrFree]
    split_ifs
    · exact consumedOnce_flowControl_iff.2 hconsumed
    · exact hconsumed
  · -- the builder released the frame, and `rsi_core_xmit` does it again
    refine iff_of_false ?_ hready
    have htag' : skb'.tag = skb.tag := htag
    have htwice := releases_freeTxskb (b.indicateTxStatus skb') skb'
    rw [releases_indicateTxStatus, htag'] at htwice
    rw [hres, queueOrFree, ConsumedOnce, queued_freeTxskb, queued_indicateTxStatus, htwice]
    omega
  · -- a crash consumes nothing
    refine iff_of_false ?_ hready
    rw [hres]
    exact not_consumedOnce_self _ _ _ rfl rfl

/-- A frame is consumed exactly once if and only if the driver does not crash on it and the data
descriptor, if it comes to that, is produced. -/
theorem consumedOnce_iff (a : Adapter) (skb : SkBuff) (internal : Option (List SkBuff))
    (hfresh : ∀ frames ∈ internal, ∀ s ∈ frames, s.tag ≠ skb.tag) :
    ConsumedOnce a (a.coreXmit skb internal).1 skb.tag ↔ XmitOk a skb := by
  unfold coreXmit XmitOk
  split_ifs with hrefused hmgmt
  · exact iff_of_true (consumedOnce_freeTxskb a rfl) trivial
  · exact consumedOnce_xmitMgmt_iff a skb internal hfresh
  · unfold xmitData
    cases hvif : a.lastVif with
    | none =>
      refine iff_of_false (not_consumedOnce_self _ _ _ rfl rfl) ?_
      simp
    | some vif =>
      simp only [Option.some.injEq, exists_eq_left']
      by_cases hnull : nullDropped a vif skb = true
      · rw [if_pos hnull]
        exact iff_of_true (consumedOnce_indicateTxStatus a skb) (.inl hnull)
      · rw [if_neg hnull]
        cases hsta : xmitStation a vif skb with
        | none => exact iff_of_true (consumedOnce_freeTxskb a rfl) (.inr (by simp))
        | some target =>
          obtain ⟨i, unicast⟩ := target
          simp only [hnull, Bool.false_eq_true, false_or, Option.some.injEq, Prod.mk.injEq]
          rw [consumedOnce_prepareDataDesc_iff]
          constructor
          · rintro hready _ _ ⟨rfl, rfl⟩
            exact hready
          · exact fun hready => hready i unicast ⟨rfl, rfl⟩

theorem xmitOk_qosData : XmitOk stationUp (qosData (localAddr 1)) := by
  unfold XmitOk
  rw [if_neg (by decide), if_neg (by decide)]
  refine ⟨_, rfl, .inr fun i unicast hsta => ?_⟩
  have hpeer : xmitStation stationUp ⟨.station, localAddr 1, 0, true, localAddr 9⟩
    (qosData (localAddr 1)) = some (RSI_MAX_ASSOC_STAS, true) := by decide
  obtain ⟨rfl, rfl⟩ : RSI_MAX_ASSOC_STAS = i ∧ true = unicast := by
    simpa using hpeer.symm.trans hsta
  exact ⟨by decide, by decide, _, rfl, by decide⟩

/-- A data frame with the station's own address is queued, once. -/
theorem consumedOnce_qosData :
    (stationUp.coreXmit (qosData (localAddr 1)) none).1.queued 0 = 1 ∧
      ConsumedOnce stationUp (stationUp.coreXmit (qosData (localAddr 1)) none).1 0 :=
  ⟨by decide, (consumedOnce_iff stationUp (qosData (localAddr 1)) none (by simp)).2 xmitOk_qosData⟩

end Adapter

end Tx
