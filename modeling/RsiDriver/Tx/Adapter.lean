import RsiDriver.ToMathlib.SumUpdate
import RsiDriver.Tx.SkBuff

/-!
# The transmit state of the driver

`Adapter` collects the fields of `struct rsi_hw` and `struct rsi_common` that the transmit path
reads and writes, in the default build (one vif map, no `CONFIG_STA_PLUS_AP`, no
`CONFIG_RSI_WOW`, no coex mode). Three fields are histories and not part of the source:
`released`, `baSessions` and `written` record the calls that leave the driver.

Transmit statistics, debug output and the event that wakes the transmit thread are left out.
-/

namespace Tx

/-- `NUM_EDCA_QUEUES`, the data queues. -/
abbrev NUM_EDCA_QUEUES : ℕ := 4

instance : NeZero NUM_EDCA_QUEUES := ⟨by decide⟩

/-- `NUM_SOFT_QUEUES`: the queues `BK_Q`, `BE_Q`, `VI_Q`, `VO_Q`, `MGMT_SOFT_Q` and
`MGMT_BEACON_Q` of `enum edca_queue`. -/
abbrev QNum := Fin 6

/-- The queues of mac80211 are the first ones of the driver. -/
theorem edca_le : NUM_EDCA_QUEUES ≤ 6 := by decide

/-- `BK_Q` -/
def BK_Q : QNum := 0

/-- `BE_Q` -/
def BE_Q : QNum := 1

/-- `VI_Q` -/
def VI_Q : QNum := 2

/-- `VO_Q` -/
def VO_Q : QNum := 3

/-- `MGMT_SOFT_Q` -/
def MGMT_SOFT_Q : QNum := 4

/-- `MGMT_BEACON_Q` -/
def MGMT_BEACON_Q : QNum := 5

/-- `RSI_MAX_ASSOC_STAS`: the slot of `stations` that is reserved for the station-mode peer. -/
def RSI_MAX_ASSOC_STAS : Fin 33 := 32

/-- `struct ieee80211_sta`; `minSupportedRate` is the field of the `struct rsi_sta` in its
`drv_priv`. -/
structure Sta where
  addr : MacAddr
  wme : Bool
  minSupportedRate : BitVec 16
  deriving DecidableEq, Repr

/-- `struct rsi_sta`, an entry of `stations`. `startTxAggr` is the array `start_tx_aggr` of
`IEEE80211_NUM_TIDS` flags. -/
structure RsiSta where
  sta : Option Sta
  staId : BitVec 16
  startTxAggr : Fin 16 → Bool
  minSupportedRate : BitVec 16
  staSkb : Option SkBuff

/-- `sta->start_tx_aggr[tid]`. Index 16, `IEEE80211_NONQOS_TID`, is one past the end of the array
and reads the low byte of `min_supported_rate`, which follows it. -/
def RsiSta.aggrFlag (sta : RsiSta) (tid : BitVec 8) : Bool :=
  if h : tid.toNat < 16 then sta.startTxAggr ⟨tid.toNat, h⟩
  else sta.minSupportedRate &&& 0xff != 0

/-- `sta->start_tx_aggr[tid] = true`, with the same overrun. -/
def RsiSta.setAggrFlag (sta : RsiSta) (tid : BitVec 8) : RsiSta :=
  if h : tid.toNat < 16 then
    { sta with startTxAggr := fun i => if i = ⟨tid.toNat, h⟩ then true else sta.startTxAggr i }
  else
    { sta with minSupportedRate := sta.minSupportedRate &&& 0xff00 ||| 1 }

/-- `struct rsi_ax_params`, the fields that go into a data descriptor. -/
structure AxParams where
  ax11Enabled : Bool
  ulDl : Bool
  codingType : BitVec 8
  nominalPe : BitVec 8
  hePpduType : BitVec 8
  beamChange : BitVec 8
  bw : BitVec 8
  stbc : BitVec 8
  txBf : BitVec 8
  giLtf : BitVec 8
  dcm : BitVec 8
  nstsMidamble : BitVec 8
  deriving DecidableEq, Repr

/-- `struct ieee80211_tx_queue_params` -/
structure EdcaParams where
  acm : Bool
  aifs : BitVec 8
  deriving DecidableEq, Repr

/-- `struct ieee80211_hw`: the part of its configuration that the driver reads, and for each data
queue whether it is stopped. -/
structure Hw where
  /-- `conf_is_ht40(&hw->conf)` -/
  ht40 : Bool
  queueStopped : Fin NUM_EDCA_QUEUES → Bool

/-- The calls that hand a buffer back to the kernel. -/
inductive Release
  /-- `ieee80211_free_txskb` -/
  | freeTxskb
  /-- `rsi_indicate_tx_status`; `handed` says whether it reached `ieee80211_tx_status_irqsafe`. -/
  | txStatus (handed : Bool)
  /-- `dev_kfree_skb` -/
  | kfreeSkb
  deriving DecidableEq, Repr

/-- Ways to crash. -/
inductive Fault
  | nullDeref
  | skbUnderPanic
  | outOfBounds
  deriving DecidableEq, Repr

/-- The transmit state of the driver. -/
structure Adapter where
  hw : Option Hw
  vifs : VifIndex → Option Vif
  scNvifs : ℕ
  usbFullSpeed : Bool
  /-- `ps_state == PS_ENABLED` -/
  psEnabled : Bool
  peerNotify : Bool
  axParams : AxParams
  /-- `fsm_state == FSM_MAC_INIT_DONE` -/
  fsmMacInitDone : Bool
  ifaceDown : Bool
  bgscanEn : Bool
  startBgscan : Bool
  scanInProg : Bool
  hibernateResume : Bool
  mac80211CurChannel : BitVec 16
  /-- `rsi_get_connected_channel(adapter)` -/
  connectedChannel : BitVec 16
  eapol4Confirm : Bool
  /-- `rsi_is_cipher_wep(common)` -/
  cipherWep : Bool
  minRate : BitVec 16
  /-- `vif_info[0].sgi` -/
  sgi : Bool
  fixedRateEn : Bool
  fixedRate : BitVec 16
  enableErSu : Bool
  configErSu : BitVec 8
  /-- `NL80211_BAND_2GHZ` is 0 and `NL80211_BAND_5GHZ` is 1. -/
  band : BitVec 8
  p2pEnabled : Bool
  minimumBasicRate : BitVec 8
  maxStations : ℕ
  stations : Fin 33 → RsiSta
  txQueue : QNum → List SkBuff
  hostTxqMaxlen : Fin NUM_EDCA_QUEUES → BitVec 16
  edcaParams : Fin NUM_EDCA_QUEUES → EdcaParams
  /-- The buffers handed back so far, by tag. -/
  released : List (ℕ × Release)
  /-- The calls of `ieee80211_start_tx_ba_session` so far: slot of `stations` and tid. -/
  baSessions : List (Fin 33 × BitVec 8)
  /-- The buffers that `write_pkt` took so far. -/
  written : List SkBuff

namespace Adapter

/-! ## Lookups -/

/-- `adapter->vifs[adapter->sc_nvifs - 1]`; `none` stands for `NULL` and for an index outside the
array. -/
def lastVif (a : Adapter) : Option Vif :=
  if h : 0 < a.scNvifs ∧ a.scNvifs ≤ RSI_MAX_VIFS then a.vifs ⟨a.scNvifs - 1, by omega⟩ else none

/-- `rsi_get_vif` -/
def getVif (a : Adapter) (mac : MacAddr) : Option Vif :=
  (List.finRange RSI_MAX_VIFS).findSome? fun i => (a.vifs i).filter (·.addr == mac)

/-- `rsi_find_sta`: the slot of the first station present whose address is `mac`, or of the first
station present if `mac` is the broadcast address. -/
def findSta (a : Adapter) (mac : MacAddr) : Option (Fin 33) :=
  (List.finRange 33).find? fun i =>
    i < a.maxStations &&
      match (a.stations i).sta with
      | none => false
      | some sta => mac.isBroadcast || sta.addr == mac

/-- `common->stations[i]`; `none` if the index is outside the array. -/
def stationAt (a : Adapter) (i : ℕ) : Option RsiSta :=
  if h : i < 33 then some (a.stations ⟨i, h⟩) else none

/-! ## Releases and queues -/

/-- `ieee80211_free_txskb` -/
def freeTxskb (a : Adapter) (skb : SkBuff) : Adapter :=
  { a with released := a.released ++ [(skb.tag, .freeTxskb)] }

/-- `dev_kfree_skb` -/
def kfreeSkb (a : Adapter) (skb : SkBuff) : Adapter :=
  { a with released := a.released ++ [(skb.tag, .kfreeSkb)] }

/-- `rsi_indicate_tx_status`: without hardware or with the interface down it returns and leaves
the buffer alone. -/
def indicateTxStatus (a : Adapter) (skb : SkBuff) : Adapter :=
  { a with released := a.released ++ [(skb.tag, .txStatus (a.hw.isSome && !a.ifaceDown))] }

/-- `rsi_core_queue_pkt` -/
def coreQueuePkt (a : Adapter) (skb : SkBuff) : Adapter :=
  if h : (skb.priority.setWidth 8).toNat < 6 then
    { a with
      txQueue := Function.update a.txQueue ⟨_, h⟩ (a.txQueue ⟨_, h⟩ ++ [skb]) }
  else
    a.kfreeSkb skb

/-- `ieee80211_stop_queue` -/
def stopQueue (a : Adapter) (ac : Fin NUM_EDCA_QUEUES) : Adapter :=
  { a with hw := a.hw.map fun hw =>
      { hw with queueStopped := Function.update hw.queueStopped ac true } }

/-- `ieee80211_start_tx_ba_session`, after `start_tx_aggr[tid]` is set. -/
def startTxAggr (a : Adapter) (i : Fin 33) (tid : BitVec 8) : Adapter :=
  { a with
    stations := Function.update a.stations i ((a.stations i).setAggrFlag tid)
    baSessions := a.baSessions ++ [(i, tid)] }

end Adapter

/-! ## What became of a buffer -/

namespace Adapter

/-- How often the buffer `tag` is in a transmit queue. -/
def queued (a : Adapter) (tag : ℕ) : ℕ :=
  ((List.finRange 6).map fun q => (a.txQueue q).countP (·.tag == tag)).sum

/-- How often the buffer `tag` was handed to one of the functions that release it. -/
def releases (a : Adapter) (tag : ℕ) : ℕ := a.released.countP (·.1 == tag)

@[simp]
theorem queued_freeTxskb (a : Adapter) (skb : SkBuff) (tag : ℕ) :
    (a.freeTxskb skb).queued tag = a.queued tag := rfl

@[simp]
theorem queued_indicateTxStatus (a : Adapter) (skb : SkBuff) (tag : ℕ) :
    (a.indicateTxStatus skb).queued tag = a.queued tag := rfl

theorem releases_freeTxskb (a : Adapter) (skb : SkBuff) :
    (a.freeTxskb skb).releases skb.tag = a.releases skb.tag + 1 := by
  simp [releases, freeTxskb]

theorem releases_indicateTxStatus (a : Adapter) (skb : SkBuff) :
    (a.indicateTxStatus skb).releases skb.tag = a.releases skb.tag + 1 := by
  simp [releases, indicateTxStatus]

/-- Replacing one queue changes the count by what that queue gains or loses. -/
theorem queued_of_update {a a' : Adapter} {q : QNum} {l : List SkBuff}
    (h : a'.txQueue = Function.update a.txQueue q l) (tag : ℕ) :
    a'.queued tag + (a.txQueue q).countP (·.tag == tag) =
      a.queued tag + l.countP (·.tag == tag) := by
  rw [queued, h, queued]
  exact sum_finRange_comp_update q a.txQueue l (List.countP (·.tag == tag))

/-- A buffer whose priority names a queue ends in that queue, and only there. -/
theorem queued_coreQueuePkt (a : Adapter) (skb : SkBuff) (tag : ℕ)
    (hprio : (skb.priority.setWidth 8).toNat < 6) :
    (a.coreQueuePkt skb).queued tag = a.queued tag + if skb.tag = tag then 1 else 0 := by
  have hqueue : (a.coreQueuePkt skb).txQueue =
      Function.update a.txQueue ⟨_, hprio⟩ (a.txQueue ⟨_, hprio⟩ ++ [skb]) := by
    rw [coreQueuePkt, dif_pos hprio]
  have hupdate := queued_of_update hqueue tag
  rw [List.countP_append, List.countP_singleton] at hupdate
  simp only [beq_iff_eq] at hupdate
  omega

theorem releases_coreQueuePkt (a : Adapter) (skb : SkBuff) (tag : ℕ)
    (hprio : (skb.priority.setWidth 8).toNat < 6) :
    (a.coreQueuePkt skb).releases tag = a.releases tag := by
  rw [coreQueuePkt, dif_pos hprio]
  rfl

end Adapter

end Tx
