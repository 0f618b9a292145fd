import RsiDriver.ToMathlib.TransitionSystem
import RsiDriver.Tx.Ownership

/-!
# Block-ack sessions

The first data frame of a station and TID starts a block-ack session (`rsi_core_xmit`). mac80211
then calls `rsi_mac80211_ampdu_action` (`rsi_91x_mac80211.c`), which keeps the starting sequence
number until the session is operational and tells the firmware with an `AMPDU_IND` frame,
`rsi_send_aggr_params_frame` (`rsi_91x_mgmt.c`). `ampduAction` and `sendAggrParamsFrame` are these
two; calls on a station or access-point interface are interleaved with transmissions.

The frame names no station: its peer id is always 0. The sequence number is kept once for an
interface, or once for a station of an access point, and not for each TID. The end of a session
restarts that of the peer of the station interface, whichever station it was for.

## Main results

* `not_baOk`: the frame for the second station of an access point has the wrong peer id;
* `baOk_of_discipline`: frames and restarts are right in the runs that keep to `BaDiscipline`.
-/

namespace Tx

/-- `enum ieee80211_ampdu_mlme_action` -/
inductive AmpduAction
  | rxStart
  | rxStop
  | txStart
  | txStopCont
  | txStopFlush
  | txStopFlushCont
  | txOperational
  | other
  deriving DecidableEq, Repr

/-- The actions that end a session for transmission. -/
def AmpduAction.isTxStop : AmpduAction → Bool
  | .txStopCont | .txStopFlush | .txStopFlushCont => true
  | .rxStart | .rxStop | .txStart | .txOperational | .other => false

/-- The events of `rsi_send_aggr_params_frame`. -/
inductive AggrEvent
  | txAddbaDone
  | txDelba
  | rxAddbaDone
  | rxDelba
  deriving DecidableEq, Repr

/-- An `AMPDU_IND` frame: the words of its descriptor that depend on the event. -/
structure AmpduInd where
  w4 : BitVec 16
  w5 : BitVec 16
  w7 : BitVec 16
  deriving DecidableEq, Repr

namespace AmpduInd

/-- The TID. -/
def tid (f : AmpduInd) : BitVec 16 := f.w7 &&& 0xf

/-- The peer id. -/
def peerId (f : AmpduInd) : BitVec 16 := f.w7 >>> 8

end AmpduInd

/-- `-ENOMEM` -/
def ENOMEM : ℤ := -12

/-- The driver: its transmit state, the sequence numbers that `ampdu_action` keeps, and the
`AMPDU_IND` frames queued so far. -/
structure BaHost where
  tx : Adapter
  /-- `vif_info[ii].seq_start` -/
  vifSeqStart : VifIndex → BitVec 16
  /-- `stations[i].seq_start[ii]` -/
  staSeqStart : Fin 33 → VifIndex → BitVec 16
  frames : List AmpduInd

namespace BaHost

/-- `stations[i].start_tx_aggr[tid] = false` -/
def resetAggr (h : BaHost) (i : Fin 33) (tid : Fin 16) : BaHost :=
  { h with
    tx.stations := Function.update h.tx.stations i
      { h.tx.stations i with
        startTxAggr := Function.update (h.tx.stations i).startTxAggr tid false } }

/-- The descriptor of an `AMPDU_IND` frame. The peer id stays 0. -/
def ampduInd (h : BaHost) (tid : Fin 16) (ssn : BitVec 16) (bufSize : BitVec 8)
    (event : AggrEvent) : AmpduInd :=
  let peerId : BitVec 16 := 0
  let w7 := BitVec.ofNat 16 tid ||| peerId <<< 8
  match event with
  | .txAddbaDone =>
    -- `TX_AGGR_LIMIT_FOR_11N` is 8
    ⟨ssn, if h.tx.axParams.ax11Enabled then bufSize.setWidth 16 else 8, w7 ||| 1 <<< 4⟩
  | .rxAddbaDone => ⟨ssn, 0, w7 ||| 1 <<< 4 ||| 1 <<< 5⟩
  | .txDelba => ⟨0, 0, w7⟩
  | .rxDelba => ⟨0, 0, w7 ||| 1 <<< 5⟩

/-- `rsi_send_aggr_params_frame`, which makes no use of the station id. `alloc` tells whether
`dev_alloc_skb` succeeds. -/
def sendAggrParamsFrame (h : BaHost) (tid : Fin 16) (ssn : BitVec 16) (bufSize : BitVec 8)
    (event : AggrEvent) (_staId : BitVec 8) (alloc : Bool) : ℤ × BaHost :=
  if !alloc then (ENOMEM, h)
  else
    let frame := h.ampduInd tid ssn bufSize event
    let h := if event = .txDelba then h.resetAggr RSI_MAX_ASSOC_STAS tid else h
    (0, { h with frames := h.frames ++ [frame] })

/-- The slot of the station that a call is about. -/
def slot (h : BaHost) (vif : Vif) (addr : MacAddr) : Option (Fin 33) :=
  if vif.type = .ap ∨ vif.type = .p2pGo then h.tx.findSta addr else some RSI_MAX_ASSOC_STAS

/-- `sta_id`: 0 unless the interface is an access point. -/
def staId (h : BaHost) (vif : Vif) (slot : Fin 33) : BitVec 8 :=
  if vif.type = .ap ∨ vif.type = .p2pGo then (h.tx.stations slot).staId.setWidth 8 else 0

/-- Keep the starting sequence number. -/
def setSeqStart (h : BaHost) (vif : Vif) (ii : VifIndex) (slot : Fin 33) (seqNo : BitVec 16) :
    BaHost :=
  match vif.type with
  | .station | .p2pClient => { h with vifSeqStart := Function.update h.vifSeqStart ii seqNo }
  | .ap | .p2pGo =>
    { h with
      staSeqStart :=
        Function.update h.staSeqStart slot (Function.update (h.staSeqStart slot) ii seqNo) }
  | .other => h

/-- The sequence number that was kept. -/
def seqStart (h : BaHost) (vif : Vif) (ii : VifIndex) (slot : Fin 33) : BitVec 16 :=
  match vif.type with
  | .station | .p2pClient => h.vifSeqStart ii
  | .ap | .p2pGo => h.staSeqStart slot ii
  | .other => 0

/-- `rsi_mac80211_ampdu_action` for the interface `vifs[ii]` and its return code. -/
def ampduAction (h : BaHost) (ii : VifIndex) (vif : Vif) (action : AmpduAction) (addr : MacAddr)
    (tid : Fin 16) (ssn : BitVec 16) (bufSize : BitVec 8) (alloc : Bool) : ℤ × BaHost :=
  match h.slot vif addr with
  | none => (0, h)
  | some slot =>
    match action with
    | .rxStart => h.sendAggrParamsFrame tid ssn bufSize .rxAddbaDone (h.staId vif slot) alloc
    | .rxStop => h.sendAggrParamsFrame tid 0 bufSize .rxDelba (h.staId vif slot) alloc
    | .txStart => (0, h.setSeqStart vif ii slot ssn)
    | .txStopCont | .txStopFlush | .txStopFlushCont =>
      h.sendAggrParamsFrame tid ssn bufSize .txDelba (h.staId vif slot) alloc
    | .txOperational =>
      h.sendAggrParamsFrame tid (h.seqStart vif ii slot) bufSize .txAddbaDone (h.staId vif slot)
        alloc
    | .other => (1, h)

end BaHost

/-! ## Runs -/

namespace Adapter

/-- The slot of the station that a data frame reaches, and whether it is a unicast frame. -/
def xmitTarget (a : Adapter) (skb : SkBuff) : Option (Fin 33 × Bool) :=
  if skb.len = 0 ∨ a.fsmMacInitDone = false then none
  else if skb.isMgmtFrame then none
  else
    match a.lastVif with
    | none => none
    | some vif => if nullDropped a vif skb then none else xmitStation a vif skb

/-- `skb` is a data packet for the station in the slot and the TID. Frames of the control port are
none: the driver starts no sessions for them. -/
def Sends (a : Adapter) (skb : SkBuff) (slot : Fin 33) (tid : Fin 16) : Prop :=
  a.xmitTarget skb = some (slot, true) ∧ xmitTid skb = BitVec.ofNat 8 tid ∧
    skb.info.portCtrlProto = false

instance (a : Adapter) (skb : SkBuff) (slot : Fin 33) (tid : Fin 16) :
    Decidable (a.Sends skb slot tid) := inferInstanceAs (Decidable (_ ∧ _ ∧ _))

/-- The flag of a station and TID. -/
def aggr (a : Adapter) (slot : Fin 33) (tid : Fin 16) : Bool := (a.stations slot).startTxAggr tid

end Adapter

/-- A `TX_START`. -/
structure BaStart where
  ii : VifIndex
  slot : Fin 33
  tid : Fin 16
  ssn : BitVec 16
  deriving DecidableEq, Repr

/-- A queued `AMPDU_IND` frame, with what it should say. -/
structure Indication where
  action : AmpduAction
  staId : BitVec 8
  tid : Fin 16
  /-- The sequence number of the latest `TX_START` for the station and the TID. -/
  start : Option (BitVec 16)
  frame : AmpduInd
  deriving DecidableEq, Repr

/-- The frame names its TID and its station, and the session starts where it was asked to. -/
def Indication.Ok (e : Indication) : Prop :=
  e.frame.tid = BitVec.ofNat 16 e.tid ∧ e.frame.peerId = e.staId.setWidth 16 ∧
    (e.action = .txOperational → ∀ ssn, e.start = some ssn → e.frame.w4 = ssn)

/-- The driver, and the history of its sessions. -/
structure BaSys where
  host : BaHost
  /-- The `TX_START`s so far, latest first. -/
  starts : List BaStart
  log : List Indication
  /-- A session was stopped, and no data packet of its station and TID was sent since. -/
  restart : Fin 33 → Fin 16 → Bool
  /-- No end of a session has changed a flag of another station or TID. -/
  othersKept : Bool

/-- Calls of mac80211. -/
inductive BaAct
  | ampdu (ii : VifIndex) (action : AmpduAction) (addr : MacAddr) (tid : Fin 16)
      (ssn : BitVec 16) (bufSize : BitVec 8) (alloc : Bool)
  | xmit (skb : SkBuff) (internal : Option (List SkBuff))

namespace BaSys

/-- The latest `TX_START` of a station, for one TID. -/
def latest (s : BaSys) (ii : VifIndex) (slot : Fin 33) (tid : Fin 16) : Option (BitVec 16) :=
  (s.starts.find? fun e => e.ii == ii && e.slot == slot && e.tid == tid).map BaStart.ssn

/-- The latest `TX_START` of a station, for any TID. -/
def latestAny (s : BaSys) (ii : VifIndex) (slot : Fin 33) : Option (BitVec 16) :=
  (s.starts.find? fun e => e.ii == ii && e.slot == slot).map BaStart.ssn

/-- A call of `ampdu_action` for the station in a slot. -/
def ampdu (s : BaSys) (ii : VifIndex) (vif : Vif) (slot : Fin 33) (action : AmpduAction)
    (addr : MacAddr) (tid : Fin 16) (ssn : BitVec 16) (bufSize : BitVec 8) (alloc : Bool) :
    BaSys :=
  let (status, host) := s.host.ampduAction ii vif action addr tid ssn bufSize alloc
  let stopped := action.isTxStop && status == 0
  { host
    starts := if action = .txStart then ⟨ii, slot, tid, ssn⟩ :: s.starts else s.starts
    log := s.log ++ (host.frames.drop s.host.frames.length).map
      (⟨action, s.host.staId vif slot, tid, s.latest ii slot tid, ·⟩)
    restart := fun j t => if stopped ∧ j = slot ∧ t = tid then true else s.restart j t
    othersKept := s.othersKept && (!stopped || decide (∀ j t, ¬ (j = slot ∧ t = tid) →
      host.tx.aggr j t = s.host.tx.aggr j t)) }

/-- One call. -/
def step (s : BaSys) : BaAct → Option BaSys
  | .ampdu ii action addr tid ssn bufSize alloc =>
    match s.host.tx.vifs ii with
    | none => none
    | some vif =>
      if vif.type = .station ∨ vif.type = .ap ∨ vif.type = .p2pGo then
        match s.host.slot vif addr with
        | none =>
          some { s with
            host := (s.host.ampduAction ii vif action addr tid ssn bufSize alloc).2 }
        | some slot => some (s.ampdu ii vif slot action addr tid ssn bufSize alloc)
      else none
  | .xmit skb internal =>
    some { s with
      host.tx := (s.host.tx.coreXmit skb internal).1
      restart := fun slot tid =>
        if s.host.tx.Sends skb slot tid then false else s.restart slot tid }

/-- Runs start before the first session. -/
def system : TransitionSystem BaSys BaAct where
  Init s := s.starts = [] ∧ s.log = [] ∧ (∀ slot tid, s.restart slot tid = false) ∧
    s.othersKept = true
  step := step

end BaSys

/-- The sessions are kept for each station and TID. -/
structure BaOk (s : BaSys) : Prop where
  log : ∀ e ∈ s.log, e.Ok
  restarts : ∀ slot tid, s.restart slot tid = true → ∀ skb internal,
    s.host.tx.Sends skb slot tid →
      (s.host.tx.coreXmit skb internal).1.baSessions =
        s.host.tx.baSessions ++ [(slot, BitVec.ofNat 8 tid)]
  others : s.othersKept = true

/-- The condition on a call for the station in a slot, if its frame is queued: the station has id
0; the latest `TX_START` of the station was for the TID that becomes operational; and the session
that ends is that of the peer of the station interface, or no flag was set. -/
structure BaSys.AmpduOk (s : BaSys) (ii : VifIndex) (vif : Vif) (slot : Fin 33)
    (action : AmpduAction) (tid : Fin 16) : Prop where
  peer : action ≠ .txStart → action ≠ .other → s.host.staId vif slot = 0
  start : action = .txOperational →
    s.latest ii slot tid = none ∨ s.latestAny ii slot = s.latest ii slot tid
  stop : action.isTxStop = true → slot = RSI_MAX_ASSOC_STAS ∨
    (s.host.tx.aggr slot tid = false ∧ s.host.tx.aggr RSI_MAX_ASSOC_STAS tid = false)

instance (s : BaSys) (ii : VifIndex) (vif : Vif) (slot : Fin 33) (action : AmpduAction)
    (tid : Fin 16) : Decidable (s.AmpduOk ii vif slot action tid) :=
  decidable_of_iff ((action ≠ .txStart → action ≠ .other → s.host.staId vif slot = 0) ∧
      (action = .txOperational →
        s.latest ii slot tid = none ∨ s.latestAny ii slot = s.latest ii slot tid) ∧
      (action.isTxStop = true → slot = RSI_MAX_ASSOC_STAS ∨
        (s.host.tx.aggr slot tid = false ∧ s.host.tx.aggr RSI_MAX_ASSOC_STAS tid = false)))
    ⟨fun h => ⟨h.1, h.2.1, h.2.2⟩, fun h => ⟨h.peer, h.start, h.stop⟩⟩

/-- The condition on each step. -/
def BaDiscipline (s : BaSys) : BaAct → Prop
  | .ampdu ii action addr tid _ _ alloc => alloc = true →
      ∀ vif ∈ s.host.tx.vifs ii, ∀ slot ∈ s.host.slot vif addr, s.AmpduOk ii vif slot action tid
  | .xmit _ _ => True

instance (s : BaSys) (a : BaAct) : Decidable (BaDiscipline s a) :=
  match a with
  | .ampdu ii action addr tid _ _ _ =>
    inferInstanceAs (Decidable (_ = _ → ∀ vif ∈ s.host.tx.vifs ii,
      ∀ slot ∈ s.host.slot vif addr, s.AmpduOk ii vif slot action tid))
  | .xmit _ _ => inferInstanceAs (Decidable True)

/-! ## The frame without a peer -/

/-- An access point with two stations. -/
def apUp : Adapter :=
  { Adapter.stationUp with
    vifs := fun i =>
      if i.val = 0 then some ⟨.ap, Adapter.localAddr 1, 0, false, Adapter.localAddr 1⟩ else none
    stations := fun i =>
      ⟨if i.val = 0 then some ⟨Adapter.localAddr 2, true, 0⟩
        else if i.val = 1 then some ⟨Adapter.localAddr 3, true, 0⟩ else none,
        BitVec.ofNat 16 i, fun _ => false, 0, none⟩ }

/-- No session yet. -/
def BaSys.start (tx : Adapter) : BaSys where
  host := ⟨tx, fun _ => 0, fun _ _ => 0, []⟩
  starts := []
  log := []
  restart := fun _ _ => false
  othersKept := true

theorem BaSys.init_start (tx : Adapter) : BaSys.system.Init (.start tx) :=
  ⟨rfl, rfl, fun _ _ => rfl, rfl⟩

/-- The second station asks for a session. -/
def secondStationSchedule : List BaAct :=
  [.ampdu 0 .rxStart (Adapter.localAddr 3) 5 100 8 true]

/-- The frame for the second station names the first one. -/
theorem not_baOk : ¬ ∀ s, BaSys.system.Reachable s → BaOk s := by
  refine TransitionSystem.not_forall_reachable_of_run secondStationSchedule
    (BaSys.init_start apUp) rfl fun hok => ?_
  have hpeer := (hok.log ⟨.rxStart, 1, 5, none, ⟨100, 0, 0x35⟩⟩ (by decide)).2.1
  exact absurd hpeer (by decide)

/-! ## What a transmission does to the sessions -/

namespace Adapter

/-- The interfaces, the stations and the sessions are the same. -/
structure SameSessions (a b : Adapter) : Prop where
  vifs : b.vifs = a.vifs
  stations : b.stations = a.stations
  baSessions : b.baSessions = a.baSessions

namespace SameSessions

theorem refl (a : Adapter) : SameSessions a a := ⟨rfl, rfl, rfl⟩

theorem trans {a b c : Adapter} (hab : SameSessions a b) (hbc : SameSessions b c) :
    SameSessions a c :=
  ⟨hbc.vifs.trans hab.vifs, hbc.stations.trans hab.stations, hbc.baSessions.trans hab.baSessions⟩

theorem coreQueuePkt (a : Adapter) (skb : SkBuff) : SameSessions a (a.coreQueuePkt skb) := by
  unfold Adapter.coreQueuePkt
  split <;> exact ⟨rfl, rfl, rfl⟩

theorem flowControl (a : Adapter) (q : Fin NUM_EDCA_QUEUES) :
    SameSessions a (a.flowControl q).1 := by
  have hstop : ∀ (l : List (Fin NUM_EDCA_QUEUES)) (a : Adapter),
      SameSessions a (l.foldl stopQueue a) := by
    intro l
    induction l with
    | nil => exact refl
    | cons q l ih => exact fun a => trans (b := a.stopQueue q) ⟨rfl, rfl, rfl⟩ (ih _)
  unfold Adapter.flowControl
  split_ifs
  · exact refl a
  · exact refl a
  · exact hstop _ a

theorem sendStaNotify (a : Adapter) (internal : Option (List SkBuff)) :
    SameSessions a (a.sendStaNotify internal) := by
  cases internal with
  | none => exact refl a
  | some frames =>
    have hframes (b : Adapter) (l : List SkBuff) :
        SameSessions b (l.foldl sendInternalMgmtFrame b) := by
      induction l generalizing b with
      | nil => exact refl b
      | cons s l ih => exact trans (b := b.sendInternalMgmtFrame s) ⟨rfl, rfl, rfl⟩ (ih _)
    exact trans (b := { a with peerNotify := true }) ⟨rfl, rfl, rfl⟩ (hframes _ frames)

/-- Whether a frame is queued or freed makes no difference. -/
theorem queueOrFree {a b : Adapter} {q : BitVec 32} {r : DescResult} (hab : SameSessions a b)
    (hready : ∀ c skb, r = .ready c skb → SameSessions a c)
    (hrejected : ∀ c skb status, r = .rejected c skb status → SameSessions a c) :
    SameSessions a (b.queueOrFree q r).1 := by
  cases r with
  | oops fault => exact hab
  | rejected c skb status => exact trans (hrejected c skb status rfl) ⟨rfl, rfl, rfl⟩
  | ready c skb =>
    have hqueue := trans (hready c skb rfl) (coreQueuePkt c skb)
    unfold Adapter.queueOrFree
    split_ifs
    · exact trans hqueue (flowControl _ _)
    · exact hqueue

theorem prepareMgmtDesc (a : Adapter) (skb : SkBuff) (q : BitVec 32) :
    SameSessions a (a.queueOrFree q (Tx.prepareMgmtDesc a skb)).1 := by
  refine queueOrFree (refl a) (fun c skb' h => ?_) (fun c skb' status h => ?_) <;>
    rcases prepareMgmtDesc_cases a skb with ⟨_, -, -, heq⟩ | ⟨_, _, -, heq⟩ <;>
    rw [heq] at h <;> cases h <;> exact refl a

theorem prepareDataDesc (a : Adapter) (skb : SkBuff) (q : BitVec 32) :
    SameSessions a (a.queueOrFree q (Tx.prepareDataDesc a skb)).1 := by
  refine queueOrFree (refl a) (fun c skb' h => ?_) (fun c skb' status h => ?_) <;>
    rcases prepareDataDesc_cases a skb with
      ⟨-, _, _, -, -, heq⟩ | ⟨-, _, _, -, heq⟩ | ⟨-, _, heq⟩ <;>
    rw [heq] at h <;> cases h <;> exact ⟨rfl, rfl, rfl⟩

end SameSessions

/-- The sessions after a transmission: those of `startSession` if the frame reaches a station. -/
theorem sameSessions_coreXmit (a : Adapter) (skb : SkBuff) (internal : Option (List SkBuff)) :
    SameSessions
      (match a.xmitTarget skb with
        | some (i, unicast) => a.startSession skb i unicast
        | none => a)
      (a.coreXmit skb internal).1 := by
  unfold coreXmit xmitTarget
  split_ifs with hrefused hmgmt
  · exact ⟨rfl, rfl, rfl⟩
  · unfold xmitMgmt
    dsimp only
    split_ifs with hcrash hassoc
    · exact ⟨rfl, rfl, rfl⟩
    · -- an association request tells the device of the peer first
      have hnotify : SameSessions a
          ({ a with eapol4Confirm := false, startBgscan := false }.sendStaNotify internal) :=
        .trans (b := { a with eapol4Confirm := false, startBgscan := false }) ⟨rfl, rfl, rfl⟩
          (.sendStaNotify _ internal)
      exact hnotify.trans (.prepareMgmtDesc ..)
    · exact .prepareMgmtDesc ..
  · unfold xmitData
    cases a.lastVif with
    | none => exact .refl a
    | some vif =>
      dsimp only
      split_ifs with hnull
      · exact ⟨rfl, rfl, rfl⟩
      · cases hsta : xmitStation a vif skb with
        | none => exact ⟨rfl, rfl, rfl⟩
        | some target => exact .prepareDataDesc ..

theorem aggrFlag_ofNat (sta : RsiSta) (tid : Fin 16) :
    sta.aggrFlag (BitVec.ofNat 8 tid) = sta.startTxAggr tid := by
  have htid : (BitVec.ofNat 8 tid).toNat = tid := by simp; omega
  simp [RsiSta.aggrFlag, htid]

/-- The first data packet of a station and TID starts a session. -/
theorem baSessions_coreXmit {a : Adapter} {skb : SkBuff} {slot : Fin 33} {tid : Fin 16}
    (h : a.Sends skb slot tid) (hflag : a.aggr slot tid = false)
    (internal : Option (List SkBuff)) :
    (a.coreXmit skb internal).1.baSessions = a.baSessions ++ [(slot, BitVec.ofNat 8 tid)] := by
  obtain ⟨htarget, htid, hport⟩ := h
  have hsame := (a.sameSessions_coreXmit skb internal).baSessions
  rw [htarget] at hsame
  have hstart : (true && !(a.stations slot).aggrFlag (xmitTid skb) && !skb.info.portCtrlProto) =
      true := by
    rw [htid, aggrFlag_ofNat, hport]
    rw [aggr] at hflag
    rw [hflag]
    rfl
  replace hsame : (a.coreXmit skb internal).1.baSessions =
      (a.startSession skb slot true).baSessions := hsame
  rw [hsame, startSession, if_pos hstart, startTxAggr, htid]

/-- A frame sets no flag but that of its own station and TID. -/
theorem aggr_coreXmit {a : Adapter} {skb : SkBuff} {slot : Fin 33} {tid : Fin 16}
    (h : ¬ a.Sends skb slot tid) (internal : Option (List SkBuff)) :
    (a.coreXmit skb internal).1.aggr slot tid = a.aggr slot tid := by
  rw [aggr, (a.sameSessions_coreXmit skb internal).stations]
  cases htarget : a.xmitTarget skb with
  | none => rfl
  | some target =>
    obtain ⟨i, unicast⟩ := target
    show ((a.startSession skb i unicast).stations slot).startTxAggr tid = a.aggr slot tid
    unfold startSession
    split_ifs with hstart
    · simp only [Bool.and_eq_true, Bool.not_eq_true'] at hstart
      obtain ⟨⟨rfl, -⟩, hport⟩ := hstart
      by_cases hi : slot = i
      · -- the station of the frame, but another TID
        subst hi
        have htid : xmitTid skb ≠ BitVec.ofNat 8 tid := fun htid => h ⟨htarget, htid, hport⟩
        simp only [startTxAggr, Function.update_self, RsiSta.setAggrFlag]
        split_ifs with hlt
        · have hne : tid ≠ ⟨(xmitTid skb).toNat, hlt⟩ := by
            rintro rfl
            exact htid (by simp)
          simp [hne, aggr]
        · rfl
      · simp [startTxAggr, Function.update_of_ne hi, aggr]
    · rfl

end Adapter

/-! ## What a call does to the sessions -/

namespace BaHost

variable {h : BaHost} {ii : VifIndex} {vif : Vif} {slot : Fin 33}

theorem tid_ampduInd (h : BaHost) (tid : Fin 16) (ssn : BitVec 16) (bufSize : BitVec 8)
    (event : AggrEvent) : (h.ampduInd tid ssn bufSize event).tid = BitVec.ofNat 16 tid := by
  cases event <;> simp only [ampduInd, AmpduInd.tid] <;> revert tid <;> decide

theorem peerId_ampduInd (h : BaHost) (tid : Fin 16) (ssn : BitVec 16) (bufSize : BitVec 8)
    (event : AggrEvent) : (h.ampduInd tid ssn bufSize event).peerId = 0 := by
  cases event <;> simp only [ampduInd, AmpduInd.peerId] <;> revert tid <;> decide

/-- What a call for a known station does. -/
theorem ampduAction_cases (ii : VifIndex) {addr : MacAddr} (hslot : h.slot vif addr = some slot)
    (action : AmpduAction) (tid : Fin 16) (ssn : BitVec 16) (bufSize : BitVec 8) (alloc : Bool) :
    (action = .txStart ∧ h.ampduAction ii vif action addr tid ssn bufSize alloc =
      (0, h.setSeqStart vif ii slot ssn)) ∨
    (action ≠ .txStart ∧ ∃ status ≠ 0,
      h.ampduAction ii vif action addr tid ssn bufSize alloc = (status, h)) ∨
    (action ≠ .txStart ∧ action ≠ .other ∧ alloc = true ∧ ∃ f : AmpduInd,
      f.tid = BitVec.ofNat 16 tid ∧ f.peerId = 0 ∧
      (action = .txOperational → f.w4 = h.seqStart vif ii slot) ∧
      h.ampduAction ii vif action addr tid ssn bufSize alloc =
        (0, { (if action.isTxStop then h.resetAggr RSI_MAX_ASSOC_STAS tid else h) with
          frames := h.frames ++ [f] })) := by
  have hsend (ssn : BitVec 16) (event : AggrEvent) :
      (∃ status ≠ 0, h.sendAggrParamsFrame tid ssn bufSize event (h.staId vif slot) alloc =
        (status, h)) ∨
      (alloc = true ∧ h.sendAggrParamsFrame tid ssn bufSize event (h.staId vif slot) alloc =
        (0, { (if event = .txDelba then h.resetAggr RSI_MAX_ASSOC_STAS tid else h) with
          frames := h.frames ++ [h.ampduInd tid ssn bufSize event] })) := by
    unfold sendAggrParamsFrame
    cases alloc with
    | false => exact .inl ⟨ENOMEM, by decide, rfl⟩
    | true => cases event <;> exact .inr ⟨rfl, rfl⟩
  unfold ampduAction
  rw [hslot]
  cases action
  case txStart => exact .inl ⟨rfl, rfl⟩
  case other => exact .inr (.inl ⟨by decide, 1, by decide, rfl⟩)
  all_goals
    refine .inr ((hsend _ _).imp (fun hfail => ⟨by decide, hfail⟩) fun hok => ?_)
    refine ⟨by decide, by decide, hok.1, _, tid_ampduInd .., peerId_ampduInd .., ?_, hok.2⟩
    intro hop
    first | rfl | cases hop

/-- Only the flag that is reset changes. -/
theorem aggr_resetAggr (h : BaHost) (i j : Fin 33) (tid t : Fin 16) :
    (h.resetAggr i tid).tx.aggr j t = if j = i ∧ t = tid then false else h.tx.aggr j t := by
  simp only [Adapter.aggr, resetAggr]
  by_cases hj : j = i
  · subst hj
    rw [Function.update_self]
    by_cases ht : t = tid
    · subst ht
      simp
    · simp [ht]
  · simp [hj]

@[simp]
theorem setSeqStart_tx (h : BaHost) (vif : Vif) (ii : VifIndex) (slot : Fin 33)
    (seqNo : BitVec 16) : (h.setSeqStart vif ii slot seqNo).tx = h.tx := by
  unfold setSeqStart
  split <;> rfl

@[simp]
theorem setSeqStart_frames (h : BaHost) (vif : Vif) (ii : VifIndex) (slot : Fin 33)
    (seqNo : BitVec 16) : (h.setSeqStart vif ii slot seqNo).frames = h.frames := by
  unfold setSeqStart
  split <;> rfl

/-- A station interface has one sequence number, an access point one for each station. -/
def cellOf (vif : Vif) (slot : Fin 33) : Fin 33 :=
  if vif.type = .ap ∨ vif.type = .p2pGo then slot else RSI_MAX_ASSOC_STAS

theorem seqStart_setSeqStart_self (h : BaHost) {vif : Vif} (ii : VifIndex) (slot : Fin 33)
    (seqNo : BitVec 16) (htype : vif.type ≠ .other) :
    (h.setSeqStart vif ii slot seqNo).seqStart vif ii slot = seqNo := by
  unfold setSeqStart seqStart
  cases hvif : vif.type <;> simp_all

/-- The other stations keep theirs. -/
theorem seqStart_setSeqStart_of_ne (h : BaHost) {vif vif' : Vif} {ii jj : VifIndex}
    {slot slot' : Fin 33} (seqNo : BitVec 16)
    (hne : jj = ii → vif' = vif ∧ cellOf vif slot' ≠ cellOf vif slot) :
    (h.setSeqStart vif ii slot seqNo).seqStart vif' jj slot' = h.seqStart vif' jj slot' := by
  unfold setSeqStart seqStart
  by_cases hjj : jj = ii
  · subst hjj
    obtain ⟨rfl, hslot⟩ := hne rfl
    rw [cellOf, cellOf] at hslot
    cases hvif : vif'.type <;> simp_all
  · cases vif.type <;> cases vif'.type <;> simp [hjj]
    all_goals
      by_cases hslot : slot' = slot
      · subst hslot
        simp [hjj]
      · simp [hslot]

end BaHost

/-! ## The invariant of disciplined runs -/

/-- A sequence number is kept for the latest `TX_START` of its station, and a session that should
restart has its flag clear. -/
structure BaInv (s : BaSys) : Prop where
  log : ∀ e ∈ s.log, e.Ok
  others : s.othersKept = true
  restart : ∀ slot tid, s.restart slot tid = true → s.host.tx.aggr slot tid = false
  cells : ∀ ii vif slot, s.host.tx.vifs ii = some vif → vif.type ≠ .other →
    BaHost.cellOf vif slot = slot → ∀ ssn, s.latestAny ii slot = some ssn →
      s.host.seqStart vif ii slot = ssn

theorem BaHost.cellOf_of_slot {h : BaHost} {vif : Vif} {addr : MacAddr} {slot : Fin 33}
    (hslot : h.slot vif addr = some slot) : cellOf vif slot = slot := by
  unfold BaHost.slot at hslot
  unfold cellOf
  split_ifs at hslot ⊢
  · rfl
  · exact Option.some.inj hslot

namespace BaInv

variable {s : BaSys} (hinv : BaInv s)

include hinv

theorem baOk : BaOk s where
  log := hinv.log
  restarts slot tid hrestart _ internal hsends :=
    Adapter.baSessions_coreXmit hsends (hinv.restart slot tid hrestart) internal
  others := hinv.others

/-- A transmission. -/
theorem xmit (skb : SkBuff) (internal : Option (List SkBuff)) :
    BaInv { s with
      host.tx := (s.host.tx.coreXmit skb internal).1
      restart := fun slot tid =>
        if s.host.tx.Sends skb slot tid then false else s.restart slot tid } where
  log := hinv.log
  others := hinv.others
  restart slot tid hrestart := by
    dsimp only at hrestart
    split_ifs at hrestart with hsends
    exact (Adapter.aggr_coreXmit hsends internal).trans (hinv.restart slot tid hrestart)
  cells ii vif slot hvif := by
    have hvifs := (s.host.tx.sameSessions_coreXmit skb internal).vifs
    replace hvif : (s.host.tx.coreXmit skb internal).1.vifs ii = some vif := hvif
    rw [hvifs] at hvif
    have htx : s.host.tx.vifs ii = some vif := by
      rw [← hvif]
      cases s.host.tx.xmitTarget skb with
      | none => rfl
      | some target =>
        obtain ⟨stations, baSessions, heq, -⟩ := s.host.tx.startSession_cases skb target.1 target.2
        simp only [heq]
    exact hinv.cells ii vif slot htx

/-- The sequence numbers after a `TX_START`. -/
theorem cells_txStart {ii : VifIndex} {vif : Vif} {slot : Fin 33}
    (hvif : s.host.tx.vifs ii = some vif) (htype : vif.type ≠ .other)
    (hcell : BaHost.cellOf vif slot = slot) (tid : Fin 16) (ssn : BitVec 16) {jj : VifIndex}
    {vif' : Vif} {slot' : Fin 33} (hvif' : s.host.tx.vifs jj = some vif')
    (htype' : vif'.type ≠ .other) (hcell' : BaHost.cellOf vif' slot' = slot') {e : BitVec 16}
    (he : BaSys.latestAny { s with starts := ⟨ii, slot, tid, ssn⟩ :: s.starts } jj slot' =
      some e) :
    (s.host.setSeqStart vif ii slot ssn).seqStart vif' jj slot' = e := by
  by_cases hsame : jj = ii ∧ slot' = slot
  · -- the number that was just set
    obtain ⟨rfl, rfl⟩ := hsame
    obtain rfl : vif = vif' := Option.some.inj (hvif.symm.trans hvif')
    have hssn : ssn = e := by simpa [BaSys.latestAny] using he
    rw [BaHost.seqStart_setSeqStart_self _ _ _ _ htype, hssn]
  · rw [BaHost.seqStart_setSeqStart_of_ne]
    · apply hinv.cells jj vif' slot' hvif' htype' hcell' e
      have hskip : (ii == jj && slot == slot') = false := by
        rw [Bool.eq_false_iff]
        intro h
        simp only [Bool.and_eq_true, beq_iff_eq] at h
        exact hsame ⟨h.1.symm, h.2.symm⟩
      simpa [BaSys.latestAny, hskip] using he
    · rintro rfl
      obtain rfl : vif = vif' := Option.some.inj (hvif.symm.trans hvif')
      refine ⟨rfl, ?_⟩
      rw [hcell, hcell']
      exact fun h => hsame ⟨rfl, h⟩

/-- A frame that a disciplined call queues says what it should. -/
theorem indicationOk {ii : VifIndex} {vif : Vif} {slot : Fin 33} {action : AmpduAction}
    {tid : Fin 16} {f : AmpduInd} (hvif : s.host.tx.vifs ii = some vif) (htype : vif.type ≠ .other)
    (hcell : BaHost.cellOf vif slot = slot) (hdisc : s.AmpduOk ii vif slot action tid)
    (hstart : action ≠ .txStart) (hother : action ≠ .other) (htid : f.tid = BitVec.ofNat 16 tid)
    (hpeer : f.peerId = 0) (hw4 : action = .txOperational → f.w4 = s.host.seqStart vif ii slot) :
    Indication.Ok ⟨action, s.host.staId vif slot, tid, s.latest ii slot tid, f⟩ := by
  refine ⟨htid, ?_, fun hop e he => ?_⟩
  · rw [hpeer, hdisc.peer hstart hother]
    rfl
  · -- the number that is kept is the one of the latest start, whatever its TID
    rw [hw4 hop]
    apply hinv.cells ii vif slot hvif htype hcell e
    rcases hdisc.start hop with hnone | hany
    · exact absurd (hnone.symm.trans he) (by simp)
    · exact hany.trans he

omit hinv in
/-- A disciplined stop clears the flag of its own session and no other one. -/
theorem aggr_stop {slot : Fin 33} {tid : Fin 16} (hstop : slot = RSI_MAX_ASSOC_STAS ∨
      (s.host.tx.aggr slot tid = false ∧ s.host.tx.aggr RSI_MAX_ASSOC_STAS tid = false))
    (j : Fin 33) (t : Fin 16) :
    (s.host.resetAggr RSI_MAX_ASSOC_STAS tid).tx.aggr j t =
      if j = slot ∧ t = tid then false else s.host.tx.aggr j t := by
  rw [BaHost.aggr_resetAggr]
  obtain rfl | ⟨hown, hpeer⟩ := hstop
  · rfl
  · -- both flags were clear before
    split_ifs with hreset hslot hslot
    · rfl
    · rw [hreset.1, hreset.2, hpeer]
    · rw [hslot.1, hslot.2, hown]
    · rfl

/-- A call for the station in a slot. -/
theorem ampdu {ii : VifIndex} {vif : Vif} {slot : Fin 33} {action : AmpduAction} {addr : MacAddr}
    {tid : Fin 16} {ssn : BitVec 16} {bufSize : BitVec 8} {alloc : Bool}
    (hvif : s.host.tx.vifs ii = some vif) (htype : vif.type ≠ .other)
    (hslot : s.host.slot vif addr = some slot)
    (hdisc : alloc = true → s.AmpduOk ii vif slot action tid) :
    BaInv (s.ampdu ii vif slot action addr tid ssn bufSize alloc) := by
  have hcell := BaHost.cellOf_of_slot hslot
  rcases BaHost.ampduAction_cases ii hslot action tid ssn bufSize alloc with
    ⟨rfl, hcall⟩ | ⟨hstart, status, hstatus, hcall⟩ |
    ⟨hstart, hother, halloc, f, htid, hpeer, hw4, hcall⟩
  · -- the sequence number is kept
    simp only [BaSys.ampdu, hcall, AmpduAction.isTxStop, Bool.false_and, BaHost.setSeqStart_frames,
      List.drop_length, List.map_nil, List.append_nil, Bool.not_false, Bool.true_or, Bool.and_true,
      if_true]
    refine ⟨hinv.log, hinv.others, fun j t => ?_, fun jj vif' slot' hvif' htype' hcell' e he => ?_⟩
    · simpa using hinv.restart j t
    · rw [BaHost.setSeqStart_tx] at hvif'
      exact hinv.cells_txStart hvif htype hcell tid ssn hvif' htype' hcell' he
  · -- nothing is queued
    have hnot : (action.isTxStop && status == 0) = false := by simp [hstatus]
    simp only [BaSys.ampdu, hcall, hnot, if_neg hstart, List.drop_length, List.map_nil,
      List.append_nil, Bool.not_false, Bool.true_or, Bool.and_true]
    refine ⟨hinv.log, hinv.others, fun j t => ?_, hinv.cells⟩
    simpa using hinv.restart j t
  · -- a frame is queued
    have hok := hinv.indicationOk hvif htype hcell (hdisc halloc) hstart hother htid hpeer hw4
    have hlog : ∀ e ∈ s.log ++
        [Indication.mk action (s.host.staId vif slot) tid (s.latest ii slot tid) f], e.Ok := by
      intro e he
      rcases List.mem_append.1 he with he | he
      · exact hinv.log e he
      · rw [List.mem_singleton.1 he]
        exact hok
    cases hstopped : action.isTxStop with
    | false =>
      simp only [BaSys.ampdu, hcall, hstopped, Bool.false_and, if_neg hstart,
        List.drop_left, List.map_cons, List.map_nil, Bool.false_eq_true, if_false, false_and,
        Bool.not_false, Bool.true_or, Bool.and_true]
      exact ⟨hlog, hinv.others, hinv.restart, hinv.cells⟩
    | true =>
      have haggr := aggr_stop ((hdisc halloc).stop hstopped)
      simp only [BaSys.ampdu, hcall, hstopped, if_neg hstart, Bool.true_and, beq_self_eq_true,
        List.drop_left, List.map_cons, List.map_nil, if_true, true_and, Bool.not_true,
        Bool.false_or]
      refine ⟨hlog, ?_, fun j t hrestart => ?_, hinv.cells⟩
      · -- the other flags are left alone
        rw [hinv.others, Bool.true_and, decide_eq_true_eq]
        intro j t hne
        rw [haggr, if_neg hne]
      · dsimp only at hrestart ⊢
        rw [haggr]
        split_ifs at hrestart ⊢
        · rfl
        · exact hinv.restart j t hrestart

end BaInv

theorem BaInv.init {s : BaSys} (h : BaSys.system.Init s) : BaInv s := by
  obtain ⟨hstarts, hlog, hrestart, hothers⟩ := h
  refine ⟨?_, hothers, fun slot tid hset => ?_, fun ii vif slot _ _ _ ssn hssn => ?_⟩
  · rw [hlog]
    exact fun _ he => nomatch he
  · rw [hrestart] at hset
    cases hset
  · rw [BaSys.latestAny, hstarts] at hssn
    cases hssn

/-- In every run that keeps to the discipline, the sessions are kept for each station and TID. -/
theorem baOk_of_discipline {s : BaSys} (h : BaSys.system.ReachableVia BaDiscipline s) :
    BaOk s := by
  have hinv : BaInv s := by
    refine h.invariant BaInv (fun _ => .init) fun s a s' hinv hdisc hstep => ?_
    cases a with
    | ampdu ii action addr tid ssn bufSize alloc =>
      simp only [BaSys.system, BaSys.step] at hstep
      cases hvif : s.host.tx.vifs ii with
      | none => simp [hvif] at hstep
      | some vif =>
        by_cases htype : vif.type = .station ∨ vif.type = .ap ∨ vif.type = .p2pGo
        · have hother : vif.type ≠ .other := by
            rintro hother
            simp [hother] at htype
          cases hslot : s.host.slot vif addr with
          | none =>
            simp only [hvif, if_pos htype, hslot, BaHost.ampduAction, Option.some.injEq] at hstep
            exact hstep ▸ hinv
          | some slot =>
            simp only [hvif, if_pos htype, hslot, Option.some.injEq] at hstep
            exact hstep ▸ hinv.ampdu hvif hother hslot fun halloc =>
              hdisc halloc vif hvif slot hslot
        · simp [hvif, htype] at hstep
    | xmit skb internal =>
      obtain rfl := Option.some.inj hstep
      exact hinv.xmit skb internal
  exact hinv.baOk

/-- A station starts a session with a data frame; it becomes operational and is stopped. -/
def sessionSchedule : List BaAct :=
  [.xmit (Adapter.qosData (Adapter.localAddr 1)) none,
    .ampdu 0 .txStart (Adapter.localAddr 9) 0 100 8 true,
    .ampdu 0 .txOperational (Adapter.localAddr 9) 0 0 8 true,
    .ampdu 0 .txStopCont (Adapter.localAddr 9) 0 0 8 true]

/-- The state at the end of `sessionSchedule`. -/
def sessionState : BaSys :=
  (BaSys.system.runVia BaDiscipline (.start Adapter.stationUp) sessionSchedule).get rfl

/-- The discipline is kept by a run with a whole session. -/
theorem baOk_sessionState : sessionState.restart RSI_MAX_ASSOC_STAS 0 = true ∧
    BaOk sessionState :=
  ⟨rfl, baOk_of_discipline
    (TransitionSystem.reachableVia_get (BaSys.init_start Adapter.stationUp) rfl)⟩

end Tx
