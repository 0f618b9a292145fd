import Mathlib.Data.List.Basic
import Mathlib.Data.List.Induction
import Mathlib.Logic.Function.Basic
import RsiDriver.PowerSave.PsState
import RsiDriver.Tx.SkBuff

/-!
# The access categories with U-APSD

mac80211 configures the queue of each access category (`rsi_mac80211_conf_tx` in
`rsi_91x_mac80211.c`). The driver keeps the parameters in `edca_params` and, in `uapsd_bitmap`,
which categories use U-APSD; `rsi_send_ps_request` sends that map as the QoS information of the
station. There the bits stand in the order VO, VI, BK, BE.

The map is changed by the index of the queue in `edca_params`, taken as a mask: 3 for VO, 2 for VI,
1 for BE and 0 for BK. A build with `CONFIG_STA_PLUS_AP` has four more queues for an access point,
whose categories have the upper half of the map here. The radio capabilities that a beaconing
interface sends behind the last queue are left out.

## Main results

* `getLsbD_confTx`: what a call does to the map;
* `follows_iff`: the sequences of calls that keep the map in step with the last configuration of
  each category;
* `not_forall_follows`: U-APSD for voice alone.
-/

namespace Uapsd

open PowerSave (PsAdapter)
open Tx (IfType)

/-- `enum ieee80211_ac_numbers` -/
inductive Ac
  | vo
  | vi
  | be
  | bk
  deriving DecidableEq, Repr

/-- The access category of a queue of mac80211; there are `IEEE80211_NUM_ACS`. -/
def Ac.ofQueue (queue : BitVec 16) : Option Ac :=
  match queue.toNat with
  | 0 => some .vo
  | 1 => some .vi
  | 2 => some .be
  | 3 => some .bk
  | _ => none

/-- `VO_Q`, `VI_Q`, `BE_Q`, `BK_Q` -/
def Ac.idx : Ac → BitVec 8
  | .vo => 3
  | .vi => 2
  | .be => 1
  | .bk => 0

/-- The bit of `IEEE80211_WMM_IE_STA_QOSINFO_AC_VO` and so on -/
def Ac.qosBit : Ac → ℕ
  | .vo => 0
  | .vi => 1
  | .bk => 2
  | .be => 3

/-- A category that is configured by itself. -/
structure Category where
  /-- A queue of an access point in a build with `CONFIG_STA_PLUS_AP` -/
  ap : Bool
  ac : Ac
  deriving DecidableEq, Repr

/-- The index in `edca_params` -/
def Category.idx (k : Category) : BitVec 8 := if k.ap then k.ac.idx + 4 else k.ac.idx

/-- The bit of a category in the map -/
def Category.bit (k : Category) : ℕ := if k.ap then k.ac.qosBit + 4 else k.ac.qosBit

/-- The index of a category, taken as a mask, has the bit of another one. -/
def Category.Hits (own k : Category) : Prop := own.idx.getLsbD k.bit = true

instance (own k : Category) : Decidable (own.Hits k) := inferInstanceAs (Decidable (_ = _))

/-- `struct ieee80211_tx_queue_params` -/
structure QueueParams where
  txop : BitVec 16
  cwMin : BitVec 16
  cwMax : BitVec 16
  aifs : BitVec 8
  acm : Bool
  uapsd : Bool
  deriving DecidableEq, Repr

/-- A call of `rsi_mac80211_conf_tx` -/
structure Call where
  queue : BitVec 16
  vifType : IfType
  params : QueueParams

/-- What the calls change in `struct rsi_common`. -/
structure Common where
  edcaParams : BitVec 8 → QueueParams
  uapsdBitmap : BitVec 8

/-- The category that a call configures; none for a queue that does not exist. -/
def Call.category (staPlusAp : Bool) (c : Call) : Option Category :=
  (Ac.ofQueue c.queue).map fun ac => ⟨staPlusAp && c.vifType == .ap, ac⟩

/-- `rsi_mac80211_conf_tx` -/
def confTx (staPlusAp : Bool) (s : Common) (c : Call) : Common :=
  match Ac.ofQueue c.queue with
  | none => s
  | some ac =>
    let idx := if staPlusAp && c.vifType == .ap then ac.idx + 4 else ac.idx
    { edcaParams := Function.update s.edcaParams idx c.params
      uapsdBitmap :=
        if c.params.uapsd then s.uapsdBitmap ||| idx else s.uapsdBitmap &&& ~~~idx }

/-- The driver behind the last disassociation and some calls. -/
def confAll (staPlusAp : Bool) (edcaParams : BitVec 8 → QueueParams) (calls : List Call) : Common :=
  calls.foldl (confTx staPlusAp) ⟨edcaParams, 0⟩

/-- The latest call for a category had U-APSD set. -/
def latest (staPlusAp : Bool) (calls : List Call) (k : Category) : Bool :=
  (calls.filter fun c => c.category staPlusAp = some k).getLast?.any fun c => c.params.uapsd

/-! ## One call -/

variable {staPlusAp : Bool}

/-- Setting or clearing a mask. -/
theorem getLsbD_setMask (u : Bool) (map mask : BitVec 8) {i : ℕ} (hi : i < 8) :
    (if u then map ||| mask else map &&& ~~~mask).getLsbD i =
      if mask.getLsbD i then u else map.getLsbD i := by
  cases u
  · rw [if_neg Bool.false_ne_true, BitVec.getLsbD_and, BitVec.getLsbD_not]
    cases h : mask.getLsbD i <;> simp [hi]
  · rw [if_pos rfl, BitVec.getLsbD_or]
    cases h : mask.getLsbD i <;> simp

theorem Category.bit_lt (k : Category) : k.bit < 8 := by
  obtain ⟨ap, ac⟩ := k
  cases ap <;> cases ac <;> decide

theorem Category.idx_inj {j k : Category} : j.idx = k.idx ↔ j = k := by
  obtain ⟨ap, ac⟩ := j
  obtain ⟨ap', ac'⟩ := k
  cases ap <;> cases ac <;> cases ap' <;> cases ac' <;> decide

/-- A call for a category, in its terms. -/
theorem confTx_of_category {c : Call} {own : Category} (h : c.category staPlusAp = some own)
    (s : Common) :
    confTx staPlusAp s c =
      { edcaParams := Function.update s.edcaParams own.idx c.params
        uapsdBitmap :=
          if c.params.uapsd then s.uapsdBitmap ||| own.idx else s.uapsdBitmap &&& ~~~own.idx } := by
  rw [Call.category] at h
  obtain ⟨ac, hac, rfl⟩ := Option.map_eq_some_iff.1 h
  rw [confTx, hac]
  rfl

theorem confTx_of_none {c : Call} (h : c.category staPlusAp = none) (s : Common) :
    confTx staPlusAp s c = s := by
  have hqueue : Ac.ofQueue c.queue = none := by simpa [Call.category] using h
  rw [confTx, hqueue]

/-- What a call does to the map: it writes the flag to every bit of its index. -/
theorem getLsbD_confTx {c : Call} {own : Category} (h : c.category staPlusAp = some own)
    (s : Common) (k : Category) :
    (confTx staPlusAp s c).uapsdBitmap.getLsbD k.bit =
      if own.Hits k then c.params.uapsd else s.uapsdBitmap.getLsbD k.bit := by
  rw [confTx_of_category h]
  exact getLsbD_setMask _ _ _ k.bit_lt

/-- A call leaves the parameters of the other categories alone. -/
theorem edcaParams_confTx {c : Call} {k : Category} (h : c.category staPlusAp ≠ some k)
    (s : Common) : (confTx staPlusAp s c).edcaParams k.idx = s.edcaParams k.idx := by
  cases hown : c.category staPlusAp with
  | none => rw [confTx_of_none hown]
  | some own =>
    have hne : k.idx ≠ own.idx := fun heq => h (by rw [hown, Category.idx_inj.1 heq])
    rw [confTx_of_category hown]
    exact Function.update_of_ne hne _ _

/-! ## The latest configurations -/

/-- A call is the latest one for its category. -/
theorem latest_concat (calls : List Call) (c : Call) (k : Category) :
    latest staPlusAp (calls ++ [c]) k =
      if c.category staPlusAp = some k then c.params.uapsd else latest staPlusAp calls k := by
  by_cases h : c.category staPlusAp = some k
  · simp [latest, List.filter_append, h]
  · simp [latest, List.filter_append, h]

theorem confAll_concat (edcaParams : BitVec 8 → QueueParams) (calls : List Call) (c : Call) :
    confAll staPlusAp edcaParams (calls ++ [c]) =
      confTx staPlusAp (confAll staPlusAp edcaParams calls) c :=
  List.foldl_concat ..

/-- A call writes its flag where it belongs, or the flag is there already: every other category that
the index hits has the same flag, and so has its own category if the index does not hit that. -/
def Harmless (staPlusAp : Bool) (flags : Category → Bool) (c : Call) : Prop :=
  ∀ own, c.category staPlusAp = some own →
    (¬ own.Hits own → flags own = c.params.uapsd) ∧
      ∀ k, k ≠ own → own.Hits k → flags k = c.params.uapsd

/-- The bits that the index of a queue of a station hits -/
theorem Ac.hits_iff (ac : Ac) (k : Category) :
    (⟨false, ac⟩ : Category).Hits k ↔
      match ac with
      | .vo => k = ⟨false, .vo⟩ ∨ k = ⟨false, .vi⟩
      | .vi => k = ⟨false, .vi⟩
      | .be => k = ⟨false, .vo⟩
      | .bk => False := by
  obtain ⟨ap, other⟩ := k
  cases ac <;> cases ap <;> cases other <;> decide

/-- When a call for a queue of a station is harmless. -/
theorem harmless_iff_of_sta {c : Call} {ac : Ac} (h : c.category staPlusAp = some ⟨false, ac⟩)
    (flags : Category → Bool) :
    Harmless staPlusAp flags c ↔
      match ac with
      | .vo => flags ⟨false, .vi⟩ = c.params.uapsd
      | .vi => True
      | .be => flags ⟨false, .be⟩ = c.params.uapsd ∧ flags ⟨false, .vo⟩ = c.params.uapsd
      | .bk => flags ⟨false, .bk⟩ = c.params.uapsd := by
  simp only [Harmless, h, Option.some.injEq, forall_eq', Ac.hits_iff]
  cases ac with
  | vo =>
    refine ⟨fun hc => hc.2 ⟨false, .vi⟩ (by decide) (Or.inr rfl), fun hvi => ⟨?_, ?_⟩⟩
    · exact fun hmiss => absurd (Or.inl rfl) hmiss
    · rintro k hne (rfl | rfl)
      · exact absurd rfl hne
      · exact hvi
  | vi => exact iff_of_true ⟨fun hmiss => absurd rfl hmiss, fun k hne hk => absurd hk hne⟩ trivial
  | be =>
    -- its own bit is missed, and that of the voice traffic is hit
    refine ⟨fun hc => ⟨hc.1 (by decide), hc.2 ⟨false, .vo⟩ (by decide) rfl⟩, fun hc => ⟨?_, ?_⟩⟩
    · exact fun _ => hc.1
    · rintro k _ rfl
      exact hc.2
  | bk => exact ⟨fun hc => hc.1 not_false, fun hbk => ⟨fun _ => hbk, fun _ _ hk => hk.elim⟩⟩

/-- A call brings the map in step with the new flags exactly when it is harmless. -/
theorem confTx_bits_iff {s : Common} {flags : Category → Bool}
    (hbits : ∀ k : Category, s.uapsdBitmap.getLsbD k.bit = flags k) (c : Call) :
    (∀ k : Category, (confTx staPlusAp s c).uapsdBitmap.getLsbD k.bit =
        if c.category staPlusAp = some k then c.params.uapsd else flags k) ↔
      Harmless staPlusAp flags c := by
  cases hown : c.category staPlusAp with
  | none => simp [Harmless, confTx_of_none hown, hown, hbits]
  | some own =>
    simp only [Harmless, hown, getLsbD_confTx hown, hbits, Option.some.injEq]
    constructor
    · intro h own' heq
      subst heq
      refine ⟨fun hmiss => ?_, fun k hne hhit => ?_⟩
      · have hkept := h own
        rwa [if_neg hmiss, if_pos rfl] at hkept
      · have hwritten := h k
        rw [if_pos hhit, if_neg hne.symm] at hwritten
        exact hwritten.symm
    · intro h k
      obtain ⟨hself, hothers⟩ := h own rfl
      -- the bit of a category is written or kept, whether it is the configured one or not
      by_cases hk : own = k
      · subst hk
        rw [if_pos rfl]
        by_cases hhit : own.Hits own
        · rw [if_pos hhit]
        · rw [if_neg hhit, hself hhit]
      · rw [if_neg hk]
        by_cases hhit : own.Hits k
        · rw [if_pos hhit, hothers k (Ne.symm hk) hhit]
        · rw [if_neg hhit]

/-! ## Sequences of calls -/

/-- The map is in step with the calls: the bits are the latest flags, a power-save request names the
categories of the station, and the last call has left the other categories alone. -/
structure FollowsLast (staPlusAp : Bool) (edcaParams : BitVec 8 → QueueParams) (calls : List Call) :
    Prop where
  bits : ∀ k : Category, (confAll staPlusAp edcaParams calls).uapsdBitmap.getLsbD k.bit =
    latest staPlusAp calls k
  acs : ∀ (a : PsAdapter) (enable : Bool) (ac : Ac),
    a.uapsdBitmap = (confAll staPlusAp edcaParams calls).uapsdBitmap →
      (a.requestPs enable).psUapsdAcs.getLsbD ac.qosBit = latest staPlusAp calls ⟨false, ac⟩
  others : ∀ pre c k, calls = pre ++ [c] → c.category staPlusAp ≠ some k →
    (confAll staPlusAp edcaParams calls).uapsdBitmap.getLsbD k.bit =
        (confAll staPlusAp edcaParams pre).uapsdBitmap.getLsbD k.bit ∧
      (confAll staPlusAp edcaParams calls).edcaParams k.idx =
        (confAll staPlusAp edcaParams pre).edcaParams k.idx

/-- A power-save request names the lower half of the map. -/
theorem getLsbD_psUapsdAcs (a : PsAdapter) (enable : Bool) {i : ℕ} (hi : i < 4) :
    (a.requestPs enable).psUapsdAcs.getLsbD i = a.uapsdBitmap.getLsbD i := by
  have hacs : (a.requestPs enable).psUapsdAcs =
      if a.uapsdBitmap = 0 then (0 : BitVec 8)
      else a.uapsdBitmap &&& (0x0f : BitVec 8) ||| a.uapsdMaxSpLen <<< 5 := rfl
  rw [hacs]
  split_ifs with hzero
  · rw [hzero]
  · -- the service period stands above the four categories
    have hmask : (0x0f : BitVec 8).getLsbD i = true := by
      obtain rfl | rfl | rfl | rfl : i = 0 ∨ i = 1 ∨ i = 2 ∨ i = 3 := by omega
      all_goals decide
    have hlow : decide (i < 5) = true := decide_eq_true (by omega)
    rw [BitVec.getLsbD_or, BitVec.getLsbD_and, BitVec.getLsbD_shiftLeft, hmask, hlow]
    simp only [Bool.and_true, Bool.not_true, Bool.and_false, Bool.false_and, Bool.or_false]

theorem Ac.qosBit_lt (ac : Ac) : ac.qosBit < 4 := by cases ac <;> decide

/-- Bits in step, and no call after which they were not. -/
theorem followsLast_of_bits {edcaParams : BitVec 8 → QueueParams} {calls : List Call}
    (hbits : ∀ pre, pre <+: calls → ∀ k : Category,
      (confAll staPlusAp edcaParams pre).uapsdBitmap.getLsbD k.bit = latest staPlusAp pre k) :
    FollowsLast staPlusAp edcaParams calls where
  bits := hbits calls (List.prefix_refl calls)
  acs a enable ac hmap := by
    rw [getLsbD_psUapsdAcs a enable ac.qosBit_lt, hmap]
    exact hbits calls (List.prefix_refl calls) ⟨false, ac⟩
  others pre c k hlast hk := by
    have hpre : pre <+: calls := ⟨[c], hlast.symm⟩
    refine ⟨?_, ?_⟩
    · rw [hbits calls (List.prefix_refl calls), hbits pre hpre, hlast, latest_concat, if_neg hk]
    · rw [hlast, confAll_concat, edcaParams_confTx hk]

/-- The run lemma: harmless calls keep the bits in step. -/
theorem bits_of_harmless {edcaParams : BitVec 8 → QueueParams} {calls : List Call}
    (h : ∀ pre c, pre ++ [c] <+: calls → Harmless staPlusAp (latest staPlusAp pre) c) :
    ∀ k : Category, (confAll staPlusAp edcaParams calls).uapsdBitmap.getLsbD k.bit =
      latest staPlusAp calls k := by
  -- from the first call on; one more call is the step of `confTx_bits_iff`
  induction calls using List.reverseRecOn with
  | nil => exact fun k => BitVec.getLsbD_zero
  | append_singleton calls c ih =>
    have hcalls := ih fun pre c' hpre => h pre c' (hpre.trans (List.prefix_append calls [c]))
    have hlast := h calls c (List.prefix_refl _)
    intro k
    rw [confAll_concat, latest_concat]
    exact (confTx_bits_iff hcalls c).2 hlast k

/-- The map follows the last configurations through a sequence of calls exactly when each of them
is harmless. -/
theorem follows_iff (staPlusAp : Bool) (edcaParams : BitVec 8 → QueueParams) (calls : List Call) :
    (∀ pre, pre <+: calls → FollowsLast staPlusAp edcaParams pre) ↔
      ∀ pre c, pre ++ [c] <+: calls → Harmless staPlusAp (latest staPlusAp pre) c := by
  constructor
  · intro h pre c hc
    have hbefore := (h pre ((List.prefix_append pre [c]).trans hc)).bits
    have hafter := (h (pre ++ [c]) hc).bits
    refine (confTx_bits_iff hbefore c).1 fun k => ?_
    rw [← confAll_concat, ← latest_concat]
    exact hafter k
  · intro h pre hpre
    refine followsLast_of_bits fun pre' hpre' => bits_of_harmless fun first c hc => ?_
    exact h first c (hc.trans (hpre'.trans hpre))

/-! ## U-APSD for voice alone -/

/-- The queue of the voice traffic of a station is configured with U-APSD. -/
def voiceOnly : Call := ⟨0, .station, ⟨47, 3, 7, 2, false, true⟩⟩

/-- The map then has the category of the video traffic too. -/
theorem not_forall_follows :
    ¬ ∀ (staPlusAp : Bool) (edcaParams : BitVec 8 → QueueParams) (calls : List Call),
      FollowsLast staPlusAp edcaParams calls := by
  intro h
  have hvideo := (h false (fun _ => ⟨0, 0, 0, 0, false, false⟩) [voiceOnly]).bits ⟨false, .vi⟩
  revert hvideo
  decide

end Uapsd
