import Mathlib.Data.Int.Notation
import Mathlib.Data.List.Sort
import RsiDriver.Tx.RateConfig

/-!
# The auto-rate request

`rsi_send_auto_rate_request` fills a table of rates that the firmware steps through: the first half
with the rates of the mask, the fastest first, the second half with the rates of aggregates. Both
halves are filled by index and padded with what was written before. The entries are written one
after the other, so a table is the list of what has been written; `none` stands for a read in front
of the first entry.
-/

namespace Tx

/-- `rsi_rates`, the `bitrate / 5` of each -/
def stdRates : List (BitVec 16) :=
  [0x02, 0x04, 0x0b, 0x16, 0x0c, 0x12, 0x18, 0x24, 0x30, 0x48, 0x60, 0x6c]

/-- `mcs` -/
def mcsStdRates : List (BitVec 16) := [13, 26, 39, 52, 78, 104, 117, 130]

/-- `er_su_rates` -/
def erSuRates : List (BitVec 16) :=
  [0x400, 0x400, 0x400, 0x400, 0x400, 0x400, 0x400, 0x401, 0x402]

/-- The code of a rate with a short guard interval. -/
def SGI_BIT : BitVec 16 := 0x200

def RSI_RATE_12 : BitVec 16 := 0x8a

def RSI_RATE_6 : BitVec 16 := 0x8b

def ENABLE_ER_SU : BitVec 16 := 0x4000

def ERSU_HE_MIXED : BitVec 8 := 1

def ER_SU_ONLY : BitVec 8 := 2

/-- What the request reads besides the configuration of the rates. -/
structure AutoRateReq where
  /-- `vif->type` is `NL80211_IFTYPE_STATION`. -/
  station : Bool
  band5GHz : Bool
  /-- `bitrate_mask` of the band -/
  bitrateMask : BitVec 16
  /-- `is_ht` and `sgi` of the interface -/
  vifHt : Bool
  vifSgi : Bool
  /-- The same of the peer of an access point: `SUPP_RATES` of the band and `HT_CAP`. -/
  suppRates : BitVec 32
  htSupported : Bool
  htCap : BitVec 16
  featureBitmap9116 : BitVec 16
  bw40 : Bool
  /-- `country` contains `JP`. -/
  countryJp : Bool
  curChannel : BitVec 8
  staId : BitVec 16
deriving DecidableEq

/-- The mode that the first half of the table is filled in. -/
inductive RateMode
  | bgn
  | bg
  | gn
  | g
  | b
  | n
  | noRates
deriving DecidableEq

/-- `rate_table_sz`, before HE. -/
def RateMode.tableSz : RateMode → ℕ
  | .bgn => 11
  | .bg | .gn | .n => 9
  | .g => 7
  | .b => 4
  | .noRates => 0

namespace AutoRateReq

variable (req : AutoRateReq)

def isHt : Bool := if req.station then req.vifHt else req.htSupported

/-- `IEEE80211_HT_CAP_SGI_20` or `IEEE80211_HT_CAP_SGI_40` for the peer of an access point -/
def isSgi : Bool := if req.station then req.vifSgi else req.htCap &&& 0x60 != 0

/-- `rate_bitmap`: bit `i` stands for entry `i` of `rsi_rates`. -/
def rateBitmap : BitVec 32 :=
  let mask := if req.station then req.bitrateMask.setWidth 32 else req.suppRates
  if req.band5GHz then mask <<< 4 else mask

/-- Channel 14 in Japan -/
def japan14 : Bool := req.countryJp && req.curChannel == 14

/-- `b_mode` and `g_mode`, which are 8 bits wide -/
def bMode : BitVec 8 := (req.rateBitmap &&& 0xf).setWidth 8

def gMode : BitVec 8 := (req.rateBitmap &&& 0xff0).setWidth 8

/-- The mode that is selected. -/
def mode : RateMode :=
  if req.gMode ≠ 0 ∧ req.bMode ≠ 0 then if req.isHt then .bgn else .bg
  else if req.gMode ≠ 0 then if req.isHt then .gn else .g
  else if req.bMode ≠ 0 then .b
  else if req.isHt then .n
  else .noRates

/-- The bitmap without 9 Mbps, which is not used, and without 5.5 and 11 Mbps in some modes. -/
def keptBitmap : BitVec 32 :=
  let bitmap := req.rateBitmap &&& ~~~0x20
  match req.mode with
  | .bgn | .bg => bitmap &&& ~~~0xc
  | .b => if req.japan14 then bitmap &&& ~~~0xc else bitmap
  | _ => bitmap

/-- `moderate_rate_inx` before the search: the moderate rate. -/
def moderateRate : BitVec 16 :=
  match req.mode with
  | .bgn | .bg | .gn | .g => 0x48
  | .b => if req.japan14 then 0x02 else 0x0b
  | .n => 0x104
  | .noRates => 0

/-- `selected_rates`, sorted -/
def selectedRates : List (BitVec 16) :=
  ((stdRates.zipIdx.filter fun r => req.keptBitmap.getLsbD r.2).map Prod.fst).insertionSort (· ≥ ·)

end AutoRateReq

/-- `rsi_map_rates`: whether the rate is a legacy one, and its index in its table; `offset` is left
alone for a rate of no table. -/
def mapRates (rate : BitVec 16) (offset : ℕ) : Bool × ℕ :=
  match mcsStdRates.findIdx? (· == rate) with
  | some i => (false, i)
  | none => (true, (stdRates.findIdx? (· == rate)).getD offset)

/-- `evaluate_moderate_rateindex` for a table of `size` entries; what has not been written is 0. -/
def evaluateModerateRateindex (bitrate : List (BitVec 16)) (moderateRate : BitVec 16) (size : ℕ) :
    BitVec 32 :=
  match (List.range size).find? fun i => bitrate.getD i 0 ≤ moderateRate with
  | some i => BitVec.ofNat 32 i
  | none => BitVec.ofNat 32 size - 1

/-! ## The loops -/

/-- What has been written: `supported_rates`, with the index `ii`, and `bitrate`, with the index
`n`. -/
structure AutoRateFill where
  supported : List (BitVec 16)
  bitrate : List (BitVec 16)
deriving DecidableEq

namespace AutoRateFill

/-- The same rate for both. -/
def push (f : AutoRateFill) (rate : BitVec 16) : AutoRateFill :=
  ⟨f.supported ++ [rate], f.bitrate ++ [rate]⟩

/-- The two rates of HT, and the index after them. -/
def fillHt (mcsrates : List (BitVec 16)) (isHt isSgi : Bool) : AutoRateFill × ℕ :=
  let top := mcsrates.getD 7 0
  if isHt then
    ((if isSgi then push ⟨[], []⟩ (top ||| SGI_BIT) else ⟨[], []⟩).push top, 7)
  else (⟨[], []⟩, 8)

/-- The loop of N mode: the entries below `k`, from the last one down. -/
def fillMcs (mcsrates : List (BitVec 16)) (size : ℕ) : ℕ → AutoRateFill → AutoRateFill
  | 0, f => f
  | k + 1, f =>
    if f.supported.length < size then fillMcs mcsrates size k (f.push (mcsrates.getD k 0)) else f

/-- The loop of the other modes: HE has two entries of 12 Mbps, and `bitrate` one. -/
def fillLegacy (isHe : Bool) : List (BitVec 16) → ℕ → AutoRateFill → AutoRateFill
  | [], _, f => f
  | rate :: rates, kk, f =>
    match mapRates rate kk with
    | (false, kk) => fillLegacy isHe rates kk f
    | (true, kk) =>
      let code := rsiRates.getD kk 0
      let codes := if isHe = true ∧ code = RSI_RATE_12 then [code, code] else [code]
      fillLegacy isHe rates kk ⟨f.supported ++ codes, f.bitrate ++ [rate]⟩

/-- The padding of the first half: `count` times the entry before. -/
def pad : ℕ → AutoRateFill → Option AutoRateFill
  | 0, f => some f
  | count + 1, f => do
    let rate ← f.supported.getLast?
    let std ← f.bitrate.getLast?
    pad count ⟨f.supported ++ [rate], f.bitrate ++ [std]⟩

end AutoRateFill

/-- `supported_rates` and the number of entries that have been passed over. -/
structure AggrFill where
  supported : List (BitVec 16)
  skipped : ℕ
deriving DecidableEq

namespace AggrFill

variable (c : RateConf)

/-- An entry of the HE table; `none` if it is passed over. -/
def heEntry (k : ℕ) : Option (BitVec 16) :=
  let rate := c.heRates.getD k 0
  let legacy := rate = RSI_RATE_6 ∨ rate = RSI_RATE_12
  if c.enableErSu = true ∧ c.configErSu ≠ 0 then
    if c.configErSu = ER_SU_ONLY then
      some (erSuRates.getD k 0 ||| c.rateFieldParams ||| ENABLE_ER_SU)
    else if c.configErSu = ERSU_HE_MIXED then
      if legacy then some rate
      else if rate = 0x402 ∨ rate = 0x401 then some (rate ||| c.rateFieldParams ||| ENABLE_ER_SU)
      else some (rate ||| c.rateFieldParams)
    else none
  else if legacy then some rate
  else some (rate ||| c.rateFieldParams)

/-- The loop over the HE table: the entries below `k`, from the last one down. -/
def fillHe (size : ℕ) : ℕ → AggrFill → AggrFill
  | 0, f => f
  | k + 1, f =>
    if f.supported.length < size then
      fillHe size k (match heEntry c k with
        | some rate => ⟨f.supported ++ [rate], f.skipped⟩
        | none => ⟨f.supported ++ [0], f.skipped + 1⟩)
    else f

/-- The loop over the MCS table. -/
def fillMcs (size : ℕ) : ℕ → AggrFill → AggrFill
  | 0, f => f
  | k + 1, f =>
    if f.supported.length < size then
      fillMcs size k ⟨f.supported ++ [c.mcsrates.getD k 0], f.skipped⟩
    else f

/-- The short guard interval of the fastest HE rate. -/
def heSgi : BitVec 16 :=
  if c.enableErSu = true ∧ c.configErSu = ER_SU_ONLY then
    0x402 ||| (c.rateFieldParams ||| ENABLE_ER_SU)
  else c.heRates.getD 8 0 ||| c.rateFieldParams &&& ~~~0x1000

/-- The rates of aggregates, which start behind the first half. -/
def fill (heStation isHt isSgi : Bool) (size : ℕ) (supported : List (BitVec 16)) : AggrFill :=
  if heStation then
    fillHe c size 9 ⟨if isSgi then supported ++ [heSgi c] else supported, 0⟩
  else if isHt then
    let top := c.mcsrates.getD 7 0
    fillMcs c size 8 ⟨if isSgi then supported ++ [top ||| SGI_BIT] else supported, 0⟩
  else ⟨supported, 0⟩

/-- The padding of the second half: `count` entries, copied from the index `last` on. -/
def pad (heStation : Bool) : ℕ → ℤ → AggrFill → Option AggrFill
  | 0, _, f => some f
  | count + 1, last, f =>
    if heStation = true ∧ c.enableErSu = true ∧ c.configErSu = ER_SU_ONLY then
      pad heStation count last
        ⟨f.supported ++ [0x400 ||| c.rateFieldParams ||| ENABLE_ER_SU], f.skipped⟩
    else if 0 ≤ last then do
      let rate ← f.supported[last.toNat]?
      pad heStation count (last + 1) ⟨f.supported ++ [rate], f.skipped⟩
    else none

end AggrFill

/-! ## The request -/

/-- `struct rsi_auto_rate`, with the entries of `supported_rates` that the request has written, and
`min_supported_rate`, which it stores for the station. -/
structure AutoRate where
  descWord0 : BitVec 16
  descWord1 : BitVec 16
  descWord7 : BitVec 16
  failureLimit : BitVec 16
  initialBoundary : BitVec 16
  maxThresholdLimt : BitVec 16
  numSupportedRates : BitVec 16
  aarfRssi : BitVec 16
  moderateRateInx : BitVec 16
  collisionTolerance : BitVec 16
  supportedRates : List (BitVec 16)
  /-- The entries among them that have been passed over. -/
  skipped : ℕ
  /-- The number of entries written to `bitrate`. -/
  bitrates : ℕ
  minSupportedRate : BitVec 16
deriving DecidableEq

/-- `DISABLE_UPDATED_AUTORATE_PARAMS` -/
def AutoRateReq.oldParams (req : AutoRateReq) : Bool := req.featureBitmap9116.getLsbD 0

/-- The tables that the request uses: it overwrites the first two entries. -/
def RateConf.forAutoRate (c : RateConf) (req : AutoRateReq) : RateConf :=
  if req.oldParams then c
  else
    { c with
      mcsrates := (c.mcsrates.set 0 RSI_RATE_6).set 1 RSI_RATE_12
      heRates := (c.heRates.set 0 RSI_RATE_6).set 1 RSI_RATE_12 }

/-- Word 7 of the descriptor. A width of 40 MHz overwrites the flags. -/
def AutoRateReq.descWord7 (req : AutoRateReq) : BitVec 16 :=
  let flags : BitVec 16 := if req.oldParams then 0x10 else 0
  let flags := if req.featureBitmap9116.getLsbD 4 then flags ||| 0x20 else flags
  (if req.bw40 then 1 else flags) ||| req.staId <<< 8

/-- `rate_table_sz` -/
def RateConf.tableSz (c : RateConf) (req : AutoRateReq) : ℕ :=
  req.mode.tableSz + if c.ax11Enabled then 1 else 0

/-- The first half before it is padded. -/
def RateConf.firstRates (c : RateConf) (req : AutoRateReq) : AutoRateFill :=
  let (f, kk) := AutoRateFill.fillHt c.mcsrates req.isHt req.isSgi
  if req.mode = .n then f.fillMcs c.mcsrates (c.tableSz req) kk
  else f.fillLegacy c.ax11Enabled req.selectedRates (kk - 1)

/-- The frame that `rsi_send_auto_rate_request` sends, once the tables are those of the request. -/
def RateConf.autoRateFrame (c : RateConf) (req : AutoRateReq) : Option AutoRate := do
  let size := c.tableSz req
  let heStation := c.ax11Enabled && req.station
  let first := c.firstRates req
  let lastNonAggrRate : ℤ := first.supported.length - 1
  let padded ← first.pad (size - first.supported.length)
  let minRate ← if 0 ≤ lastNonAggrRate then padded.supported[lastNonAggrRate.toNat]? else none
  let aggr := AggrFill.fill c heStation req.isHt req.isSgi (2 * size) padded.supported
  let aggr ← aggr.pad c heStation (2 * size - aggr.supported.length) (lastNonAggrRate - 1)
  let moderate := evaluateModerateRateindex padded.bitrate req.moderateRate size
  some {
    descWord0 := 94 ||| 4 <<< 12
    descWord1 := 0x0b
    descWord7 := req.descWord7
    failureLimit := if req.oldParams then 3 else 2
    initialBoundary := if req.oldParams then 3 else 9
    maxThresholdLimt := if req.oldParams then 27 else 81
    numSupportedRates := BitVec.ofNat 16 (2 * size)
    aarfRssi := 65
    moderateRateInx := moderate.setWidth 16
    collisionTolerance := if req.oldParams then 3 else 9
    supportedRates := aggr.supported
    skipped := aggr.skipped
    bitrates := padded.bitrate.length
    minSupportedRate := minRate }

/-- `rsi_send_auto_rate_request`: the tables are overwritten before anything else. -/
def RateConf.sendAutoRateRequest (c : RateConf) (req : AutoRateReq) : Option AutoRate :=
  (c.forAutoRate req).autoRateFrame req

end Tx
