import Mathlib.Data.List.Count
import RsiDriver.Interface.VifTable

/-!
# Remaining on a channel

`rsi_mac80211_roc` tunes the device to a channel for some time. It arms `roc_timer` first, then
configures the band and the channel, and writes `roc_vif` last. `rsi_roc_timeout` ends the stay, and
so does `rsi_mac80211_cancel_roc`; a later call of `rsi_mac80211_roc` replaces the one before
(`rsi_91x_mac80211.c`).

When one of the steps in between fails, the timer stays armed for an interface that `roc_vif` does
not name. The removal of an interface does not look at the timer, and the timeout handler, which has
to wait for the mutex, takes down any timer it finds then. A cancel that finds no timer returns with
the mutex held.

The calls of mac80211 exclude each other; the timer expires between any two steps, also while a call
is going on. Left out is what the handlers do to the device.

## Main results

* `rocOk_of_discipline`: the timer belongs to the interface that `roc_vif` names, and each stay ends
  once, in the runs that keep to `RocDiscipline`;
* `not_rocOk`: a call that returns `-EINVAL` and leaves its timer armed.
-/

namespace Interface

/-- How a stay on a channel ends. -/
inductive RocEnd
  | timeout
  | cancel
  | replaced
  deriving DecidableEq, Repr

/-- The interfaces, the timer and the handlers. Calls of `rsi_mac80211_roc` are numbered. -/
structure RocSys where
  vifSys : VifSys
  /-- `common->mutex` is held. -/
  mutex : Bool
  /-- `roc_vif` -/
  rocVif : Option Vif
  /-- The call that armed `roc_timer`, while it is pending. -/
  timer : Option ℕ
  /-- `rsi_roc_timeout` waits for the mutex: the call whose timer expired, and the `roc_vif` that it
  has read. -/
  handler : Option (ℕ × Option Vif)
  /-- The call that has armed the timer and goes on. -/
  call : Option (ℕ × Vif)
  /-- The number of calls so far. -/
  calls : ℕ
  /-- The interface that the call has armed the timer for. -/
  armedFor : ℕ → Option Vif
  /-- What the call returned. -/
  returned : ℕ → Option ℤ
  /-- The stays that have ended, and how. -/
  ends : List (ℕ × RocEnd)

/-- What happens to the interfaces and the timer. -/
inductive RocAct
  /-- An interface is added or removed. -/
  | vif (a : VifAct)
  /-- `rsi_mac80211_roc` up to `add_timer`. -/
  | rocBegin (vif : Vif)
  /-- The rest of `rsi_mac80211_roc`: `rsi_band_check`, `rsi_set_channel` and
  `rsi_set_vap_capabilities` succeed. -/
  | rocEnd (band channel vap : Bool)
  /-- `rsi_mac80211_cancel_roc` -/
  | cancelRoc
  /-- The timer expires, and `rsi_roc_timeout` starts. -/
  | expire
  /-- `rsi_roc_timeout` gets the mutex. -/
  | rocTimeout
  deriving DecidableEq

namespace RocSys

/-- The end of the stay of the pending timer. -/
def endTimer (s : RocSys) (how : RocEnd) : List (ℕ × RocEnd) :=
  (s.timer.toList.map fun n => (n, how)) ++ s.ends

/-- `rsi_mac80211_roc` up to `add_timer`. -/
def rocBegin (s : RocSys) (vif : Vif) : Option RocSys :=
  if s.vifSys.vifs.scNvifs = 0 then
    some { s with
      calls := s.calls + 1
      returned := Function.update s.returned s.calls (some EINVAL) }
  else if s.mutex = true then none
  else
    some { s with
      mutex := true
      -- a pending timer is taken down
      ends := s.endTimer .replaced
      timer := some s.calls
      call := some (s.calls, vif)
      calls := s.calls + 1
      armedFor := Function.update s.armedFor s.calls (some vif) }

/-- The return code and `roc_vif` after the steps that can fail. -/
def configure (s : RocSys) (vif : Vif) (band channel vap : Bool) : ℤ × Option Vif :=
  -- the exits at `out`: the timer stays armed, and `roc_vif` as it was
  if band = false then (EINVAL, s.rocVif)
  else if channel = false then (EINVAL, s.rocVif)
  -- the status is still 0 here
  else if s.vifSys.vifs.type vif = .p2pDevice ∧ vap = false then (0, s.rocVif)
  else (0, some vif)

/-- The rest of `rsi_mac80211_roc`. -/
def rocEnd (s : RocSys) (band channel vap : Bool) : Option RocSys :=
  s.call.map fun (n, vif) =>
    let (status, rocVif) := s.configure vif band channel vap
    { s with
      mutex := false
      rocVif
      call := none
      returned := Function.update s.returned n (some status) }

/-- `rsi_mac80211_cancel_roc` -/
def cancelRoc (s : RocSys) : Option RocSys :=
  if s.mutex = true then none
  -- returns without `mutex_unlock`
  else if s.timer = none then some { s with mutex := true }
  else some { s with timer := none, ends := s.endTimer .cancel }

/-- The timer expires. -/
def expire (s : RocSys) : Option RocSys :=
  match s.timer, s.handler with
  -- `roc_vif` is read before the mutex is taken
  | some n, none => some { s with timer := none, handler := some (n, s.rocVif) }
  | _, _ => none

/-- `rsi_roc_timeout` behind `mutex_lock`. -/
def rocTimeout (s : RocSys) : Option RocSys :=
  if s.mutex = true then none
  else
    s.handler.map fun (n, _) =>
      -- a timer that is pending by now is deleted
      { s with handler := none, timer := none, ends := (n, .timeout) :: s.ends }

/-- One step; mac80211 calls the driver for interfaces that are up, one call after the other. -/
def step (s : RocSys) : RocAct → Option RocSys
  | .vif a =>
    if s.mutex = true then none
    else (s.vifSys.step a).map fun vifSys => { s with vifSys }
  | .rocBegin vif => if s.call = none ∧ vif ∈ s.vifSys.live then s.rocBegin vif else none
  | .rocEnd band channel vap => s.rocEnd band channel vap
  | .cancelRoc => if s.call = none then s.cancelRoc else none
  | .expire => s.expire
  | .rocTimeout => s.rocTimeout

/-- Runs start without interfaces and with no timer. -/
def system : TransitionSystem RocSys RocAct where
  Init s := VifSys.system.Init s.vifSys ∧ s.mutex = false ∧ s.rocVif = none ∧ s.timer = none ∧
    s.handler = none ∧ s.call = none ∧ s.calls = 0 ∧ (∀ n, s.armedFor n = none) ∧
    (∀ n, s.returned n = none) ∧ s.ends = []
  step := step

/-- The stay of the call has not ended: its timer is pending, or its handler waits for the mutex. -/
def Active (s : RocSys) (n : ℕ) : Prop :=
  s.timer = some n ∨ ∃ vif, s.handler = some (n, vif)

/-- How often the stay of the call has ended. -/
def endCount (s : RocSys) (n : ℕ) : ℕ := (s.ends.map Prod.fst).count n

end RocSys

/-- The timer refers to a live interface: -/
structure RocOk (s : RocSys) : Prop where
  /-- between two calls, a pending timer belongs to a call that returned 0, and `roc_vif` names the
  interface of that call, which is up; -/
  pending : s.call = none → ∀ n, s.timer = some n → ∃ vif, s.rocVif = some vif ∧
    vif ∈ s.vifSys.live ∧ s.armedFor n = some vif ∧ s.returned n = some 0
  /-- a call that returned an error has no timer pending; -/
  failed : ∀ n err, s.returned n = some err → err ≠ 0 → s.timer ≠ some n
  /-- each stay that was granted goes on or has ended once; -/
  endsOnce : ∀ n, s.returned n = some 0 →
    s.Active n ∧ s.endCount n = 0 ∨ ¬ s.Active n ∧ s.endCount n = 1
  /-- and a handler that waits can get the mutex between two calls. -/
  unblocked : s.call = none → s.handler ≠ none → s.mutex = false

/-- The condition on each step. A call succeeds unless its timer has expired already; where only
the capabilities of a P2P device fail, `roc_vif` names the interface from before. The interface of a
pending timer is not removed. When a handler gets the mutex no other timer is pending, and no cancel
finds only a handler that waits. -/
def RocDiscipline (s : RocSys) : RocAct → Prop
  | .vif (.removeInterface vif) => s.timer ≠ none → s.rocVif ≠ some vif
  | .rocEnd band channel vap => ∀ c ∈ s.call, s.timer ≠ none → band = true ∧ channel = true ∧
      (s.vifSys.vifs.type c.2 = .p2pDevice → vap = true ∨ s.rocVif = some c.2)
  | .cancelRoc => s.handler ≠ none → s.timer ≠ none
  | .rocTimeout => s.timer = none
  | _ => True

instance (s : RocSys) (a : RocAct) : Decidable (RocDiscipline s a) := by
  cases a with
  | vif a => cases a <;> unfold RocDiscipline <;> infer_instance
  | rocBegin | rocEnd | cancelRoc | expire | rocTimeout => unfold RocDiscipline; infer_instance

/-! ## Invariant -/

namespace RocSys

variable {s s' : RocSys}

/-- A stay is counted while its timer is pending, while its handler waits, and once it has ended. -/
def stayCount (s : RocSys) (n : ℕ) : ℕ :=
  s.timer.toList.count n + (s.handler.toList.map Prod.fst).count n + s.endCount n

theorem active_iff (n : ℕ) :
    s.Active n ↔ 0 < s.timer.toList.count n + (s.handler.toList.map Prod.fst).count n := by
  rw [Nat.add_pos_iff_pos_or_pos, List.count_pos_iff, List.count_pos_iff]
  simp [Active, eq_comm]

/-- What holds in a run that keeps the discipline. -/
structure RocInv (s : RocSys) : Prop where
  fresh : ∀ n, s.calls ≤ n → s.armedFor n = none ∧ s.returned n = none
  /-- Each stay is counted once. -/
  counted : ∀ n, s.stayCount n = (s.armedFor n).toList.length
  accepted : ∀ n, s.returned n = some 0 → s.armedFor n ≠ none
  /-- A call that goes on holds the mutex, and no timer but its own is pending. -/
  call : ∀ n vif, s.call = some (n, vif) → s.armedFor n = some vif ∧ s.returned n = none ∧
    s.mutex = true ∧ ∀ t, s.timer = some t → t = n
  pending : s.call = none → ∀ n, s.timer = some n → ∃ vif, s.rocVif = some vif ∧
    vif ∈ s.vifSys.live ∧ s.armedFor n = some vif ∧ s.returned n = some 0
  failed : ∀ n err, s.returned n = some err → err ≠ 0 → s.timer ≠ some n
  /-- With the timer pending, nobody has left the mutex locked. -/
  unblocked : s.call = none → s.timer ≠ none ∨ s.handler ≠ none → s.mutex = false
  /-- The interface of a call is up as long as the call goes on. -/
  live : ∀ n vif, s.call = some (n, vif) → vif ∈ s.vifSys.live

/-- A call that has not armed the timer has no stay. -/
theorem RocInv.timer_ne (hs : RocInv s) {n : ℕ} (h : s.armedFor n = none) : s.timer ≠ some n := by
  intro htimer
  have hcount := hs.counted n
  -- a pending timer counts as a stay
  rw [h, stayCount, htimer] at hcount
  simp at hcount

theorem RocInv.ok (hs : RocInv s) : RocOk s where
  pending := hs.pending
  failed := hs.failed
  unblocked hcall hhandler := hs.unblocked hcall (.inr hhandler)
  endsOnce n hn := by
    have hcount := hs.counted n
    obtain ⟨vif, harmed⟩ := Option.ne_none_iff_exists'.1 (hs.accepted n hn)
    rw [harmed, Option.toList_some, List.length_singleton, stayCount] at hcount
    rw [active_iff]
    omega

theorem rocInv_init (hs : system.Init s) : RocInv s := by
  obtain ⟨-, hmutex, hrocVif, htimer, hhandler, hcall, hcalls, harmed, hreturned, hends⟩ := hs
  constructor
  · exact fun n _ => ⟨harmed n, hreturned n⟩
  · intro n
    rw [harmed, stayCount, endCount, htimer, hhandler, hends]
    rfl
  · intro n hn
    rw [hreturned] at hn
    cases hn
  · intro n vif hn
    rw [hcall] at hn
    cases hn
  · intro _ n hn
    rw [htimer] at hn
    cases hn
  · intro n err hn
    rw [hreturned] at hn
    cases hn
  · exact fun _ _ => hmutex
  · intro n vif hn
    rw [hcall] at hn
    cases hn

/-- The end of a pending timer is counted instead of it. -/
theorem count_endTimer (s : RocSys) (how : RocEnd) (n : ℕ) :
    ((s.endTimer how).map Prod.fst).count n = s.timer.toList.count n + s.endCount n := by
  cases htimer : s.timer <;> simp [endTimer, endCount, htimer, List.count_cons, Nat.add_comm]

theorem RocInv.cancelRoc (hs : RocInv s) (hcall : s.call = none)
    (hwait : s.handler ≠ none → s.timer ≠ none) (h : s.cancelRoc = some s') : RocInv s' := by
  unfold RocSys.cancelRoc at h
  split_ifs at h with hmutex htimer
  · -- the mutex stays held, but no handler waits for it
    cases h
    refine ⟨hs.fresh, hs.counted, hs.accepted, ?_, hs.pending, hs.failed, ?_, hs.live⟩
    · intro n vif hn
      rw [hcall] at hn
      cases hn
    · rintro _ (hne | hhandler)
      · exact absurd htimer hne
      · exact absurd htimer (hwait hhandler)
  · cases h
    refine ⟨hs.fresh, fun n => ?_, hs.accepted, ?_, ?_, ?_, ?_, hs.live⟩
    · rw [← hs.counted n, stayCount, stayCount, endCount, count_endTimer]
      simp only [Option.toList_none, List.count_nil]
      omega
    · intro n vif hn
      rw [hcall] at hn
      cases hn
    · intro _ n hn
      cases hn
    · intro n err _ _ hn
      cases hn
    · exact fun _ _ => hs.unblocked hcall (.inl htimer)

theorem RocInv.expire (hs : RocInv s) (h : s.expire = some s') : RocInv s' := by
  unfold RocSys.expire at h
  split at h
  -- the stay is counted by the handler instead of the timer
  · rename_i n htimer hhandler
    cases h
    refine ⟨hs.fresh, fun k => ?_, hs.accepted, ?_, ?_, ?_, ?_, hs.live⟩
    · rw [← hs.counted k, stayCount, stayCount, htimer, hhandler]
      simp [endCount]
    · intro k vif hk
      obtain ⟨harmed, hreturned, hmutex, -⟩ := hs.call k vif hk
      refine ⟨harmed, hreturned, hmutex, fun t ht => ?_⟩
      cases ht
    · intro _ k hk
      cases hk
    · intro k err _ _ hk
      cases hk
    · exact fun hcall _ => hs.unblocked hcall (.inl (by rw [htimer]; exact Option.some_ne_none n))
  · cases h

theorem RocInv.rocTimeout (hs : RocInv s) (htimer : s.timer = none)
    (h : s.rocTimeout = some s') : RocInv s' := by
  unfold RocSys.rocTimeout at h
  split_ifs at h with hmutex
  -- and now by the way it ended
  obtain ⟨⟨n, vif⟩, hhandler, rfl⟩ := Option.map_eq_some_iff.1 h
  refine ⟨hs.fresh, fun k => ?_, hs.accepted, ?_, ?_, ?_, ?_, hs.live⟩
  · rw [← hs.counted k, stayCount, stayCount, htimer, hhandler]
    simp [endCount, List.count_cons, Nat.add_comm]
  · intro k v hk
    exact absurd (hs.call k v hk).2.2.1 hmutex
  · intro _ k hk
    cases hk
  · intro k err _ _ hk
    cases hk
  · exact fun _ _ => Bool.eq_false_of_not_eq_true hmutex

theorem RocInv.vif (hs : RocInv s) {a : VifAct} (hmutex : s.mutex = false)
    (hremove : ∀ vif, a = .removeInterface vif → s.timer ≠ none → s.rocVif ≠ some vif)
    {vifSys : VifSys} (h : s.vifSys.step a = some vifSys) : RocInv { s with vifSys } := by
  -- a call would hold the mutex
  have hcall : ∀ n vif, s.call ≠ some (n, vif) := by
    intro n vif hn
    rw [(hs.call n vif hn).2.2.1] at hmutex
    cases hmutex
  refine ⟨hs.fresh, hs.counted, hs.accepted, hs.call, ?_, hs.failed, hs.unblocked,
    fun n vif hn => absurd hn (hcall n vif)⟩
  intro hnone n htimer
  obtain ⟨vif, hrocVif, hlive, harmed, hreturned⟩ := hs.pending hnone n htimer
  refine ⟨vif, hrocVif, ?_, harmed, hreturned⟩
  -- the interface is still up
  cases a with
  | addInterface vif' assoc setVap =>
    simp only [VifSys.step] at h
    split at h
    · cases h
    · cases h
      dsimp only
      split
      · exact List.mem_cons_of_mem _ hlive
      · exact hlive
  | removeInterface vif' =>
    simp only [VifSys.step] at h
    split at h
    · cases h
      have hne : vif ≠ vif' := by
        rintro rfl
        exact hremove vif rfl (by rw [htimer]; exact Option.some_ne_none n) hrocVif
      exact (List.mem_erase_of_ne hne).2 hlive
    · cases h

/-- Only a call that has armed its timer may return 0. -/
theorem RocInv.accepted_update (hs : RocInv s) {k : ℕ} {status : ℤ}
    (h : status = 0 → s.armedFor k ≠ none) (n : ℕ)
    (hn : Function.update s.returned k (some status) n = some 0) : s.armedFor n ≠ none := by
  by_cases hne : n = k
  · rw [hne, Function.update_self] at hn
    rw [hne]
    exact h (Option.some.inj hn)
  · rw [Function.update_of_ne hne] at hn
    exact hs.accepted n hn

/-- A new stay is counted by its timer, and the one before it among the ends. -/
theorem RocInv.counted_arm (hs : RocInv s) (vif : Vif) (n : ℕ) :
    [s.calls].count n + (s.handler.toList.map Prod.fst).count n +
        ((s.endTimer .replaced).map Prod.fst).count n =
      (Function.update s.armedFor s.calls (some vif) n).toList.length := by
  have hcount := hs.counted n
  rw [stayCount] at hcount
  rw [count_endTimer]
  by_cases hne : n = s.calls
  · rw [hne, (hs.fresh s.calls (Nat.le_refl _)).1, Option.toList_none, List.length_nil] at hcount
    rw [hne, Function.update_self, Option.toList_some, List.length_singleton,
      List.count_singleton_self]
    omega
  · rw [Function.update_of_ne hne, List.count_singleton, if_neg (by simpa using Ne.symm hne)]
    omega

/-- A call that returns an error before it arms the timer. -/
theorem RocInv.refused (hs : RocInv s) (hcall : s.call = none) :
    RocInv { s with
      calls := s.calls + 1
      returned := Function.update s.returned s.calls (some EINVAL) } := by
  obtain ⟨harmed, -⟩ := hs.fresh s.calls (Nat.le_refl _)
  constructor
  · intro n hn
    dsimp only at hn ⊢
    obtain ⟨harmed', hreturned⟩ := hs.fresh n (by omega)
    rw [Function.update_of_ne (by omega)]
    exact ⟨harmed', hreturned⟩
  · exact hs.counted
  · exact hs.accepted_update fun hzero => absurd hzero (by decide)
  · intro n v hn
    exact absurd (hcall.symm.trans hn) (Option.some_ne_none _).symm
  · intro hnone n htimer
    obtain ⟨v, hrocVif, hv, harmed', hreturned⟩ := hs.pending hnone n htimer
    refine ⟨v, hrocVif, hv, harmed', ?_⟩
    have hne : n ≠ s.calls := by
      rintro rfl
      exact absurd (harmed.symm.trans harmed') (Option.some_ne_none _).symm
    exact (Function.update_of_ne hne ..).trans hreturned
  · intro n err hn herr
    dsimp only at hn ⊢
    by_cases hne : n = s.calls
    · rw [hne]
      exact hs.timer_ne harmed
    · rw [Function.update_of_ne hne] at hn
      exact hs.failed n err hn herr
  · exact hs.unblocked
  · exact hs.live

/-- A call that arms the timer ends the stay before it. -/
theorem RocInv.armed (hs : RocInv s) {vif : Vif} (hlive : vif ∈ s.vifSys.live) :
    RocInv { s with
      mutex := true
      ends := s.endTimer .replaced
      timer := some s.calls
      call := some (s.calls, vif)
      calls := s.calls + 1
      armedFor := Function.update s.armedFor s.calls (some vif) } := by
  obtain ⟨harmed, hreturned⟩ := hs.fresh s.calls (Nat.le_refl _)
  constructor
  · intro n hn
    dsimp only at hn ⊢
    rw [Function.update_of_ne (by omega)]
    exact hs.fresh n (by omega)
  · exact hs.counted_arm vif
  · intro n hn
    dsimp only at hn ⊢
    by_cases hne : n = s.calls
    · rw [hne, Function.update_self]
      exact Option.some_ne_none vif
    · rw [Function.update_of_ne hne]
      exact hs.accepted n hn
  · rintro n v hn
    obtain ⟨rfl, rfl⟩ := Prod.mk.inj (Option.some.inj hn)
    exact ⟨Function.update_self .., hreturned, rfl, fun t ht => (Option.some.inj ht).symm⟩
  · intro hnone
    cases hnone
  · intro n err hn herr htimer
    obtain rfl := Option.some.inj htimer
    exact absurd (hreturned.symm.trans hn) (Option.some_ne_none _).symm
  · intro hnone
    cases hnone
  · rintro n v hn
    obtain ⟨rfl, rfl⟩ := Prod.mk.inj (Option.some.inj hn)
    exact hlive

theorem RocInv.rocBegin (hs : RocInv s) (hcall : s.call = none) {vif : Vif}
    (hlive : vif ∈ s.vifSys.live) (h : s.rocBegin vif = some s') : RocInv s' := by
  unfold RocSys.rocBegin at h
  split_ifs at h with hnum hmutex
  · cases h
    exact hs.refused hcall
  · cases h
    exact hs.armed hlive

/-- What a call returns and leaves in `roc_vif` while its timer is pending. -/
theorem configure_eq {vif : Vif} {band channel vap : Bool} (hband : band = true)
    (hchannel : channel = true)
    (hvap : s.vifSys.vifs.type vif = .p2pDevice → vap = true ∨ s.rocVif = some vif) :
    s.configure vif band channel vap = (0, some vif) := by
  unfold configure
  rw [if_neg (by rw [hband]; decide), if_neg (by rw [hchannel]; decide)]
  by_cases hfail : s.vifSys.vifs.type vif = .p2pDevice ∧ vap = false
  · rw [if_pos hfail]
    rcases hvap hfail.1 with hok | hsame
    · rw [hfail.2] at hok
      cases hok
    · rw [hsame]
  · rw [if_neg hfail]

theorem RocInv.rocEnd (hs : RocInv s) {band channel vap : Bool}
    (hok : ∀ c, s.call = some c → s.timer ≠ none → band = true ∧ channel = true ∧
      (s.vifSys.vifs.type c.2 = .p2pDevice → vap = true ∨ s.rocVif = some c.2))
    (h : s.rocEnd band channel vap = some s') : RocInv s' := by
  obtain ⟨⟨n, vif⟩, hcall, rfl⟩ := Option.map_eq_some_iff.1 h
  obtain ⟨harmed, hreturned, hmutex, htimer⟩ := hs.call n vif hcall
  have hlive := hs.live n vif hcall
  -- with the timer still pending, everything has succeeded
  have hconfig : s.timer ≠ none → s.configure vif band channel vap = (0, some vif) := by
    intro hpending
    obtain ⟨hband, hchannel, hvap⟩ := hok (n, vif) hcall hpending
    exact configure_eq hband hchannel hvap
  constructor
  · intro k hk
    dsimp only
    refine ⟨(hs.fresh k hk).1, ?_⟩
    rw [Function.update_of_ne]
    · exact (hs.fresh k hk).2
    · rintro rfl
      exact absurd ((hs.fresh k hk).1.symm.trans harmed) (Option.some_ne_none _).symm
  · exact hs.counted
  · refine hs.accepted_update fun _ => ?_
    rw [harmed]
    exact Option.some_ne_none vif
  · intro k v hk
    cases hk
  · intro _ k hk
    -- the timer is still the one of this call
    have hpending : s.timer ≠ none := by
      rw [show s.timer = some k from hk]
      exact Option.some_ne_none k
    obtain rfl := htimer k hk
    refine ⟨vif, ?_, hlive, harmed, ?_⟩
    · dsimp only
      rw [hconfig hpending]
    · dsimp only
      rw [hconfig hpending, Function.update_self]
  · intro k err hk herr hpending
    dsimp only at hk hpending
    by_cases hne : k = n
    · rw [hne, Function.update_self] at hk
      rw [hconfig (by rw [hpending]; exact Option.some_ne_none k)] at hk
      exact herr (Option.some.inj hk).symm
    · exact hne (htimer k hpending)
  · exact fun _ _ => rfl
  · intro k v hk
    cases hk

theorem rocInv_of_discipline (h : system.ReachableVia RocDiscipline s) : RocInv s := by
  refine h.invariant RocInv (fun s hs => rocInv_init hs) fun s a s' hs hdisc hstep => ?_
  cases a with
  | vif a =>
    simp only [system, step] at hstep
    split at hstep
    · cases hstep
    · rename_i hmutex
      obtain ⟨vifSys, hvif, rfl⟩ := Option.map_eq_some_iff.1 hstep
      refine hs.vif (Bool.eq_false_of_not_eq_true hmutex) ?_ hvif
      rintro vif rfl
      exact hdisc
  | rocBegin vif =>
    simp only [system, step] at hstep
    split at hstep
    · rename_i hcan
      exact hs.rocBegin hcan.1 hcan.2 hstep
    · cases hstep
  | rocEnd band channel vap => exact hs.rocEnd hdisc hstep
  | cancelRoc =>
    simp only [system, step] at hstep
    split at hstep
    · rename_i hcall
      exact hs.cancelRoc hcall hdisc hstep
    · cases hstep
  | expire => exact hs.expire hstep
  | rocTimeout => exact hs.rocTimeout hdisc hstep

end RocSys

section Examples

/-- No interface and no timer. -/
def RocSys.start : RocSys where
  vifSys := .start
  mutex := false
  rocVif := none
  timer := none
  handler := none
  call := none
  calls := 0
  armedFor := fun _ => none
  returned := fun _ => none
  ends := []

theorem RocSys.init_start : RocSys.system.Init .start :=
  ⟨VifSys.init_start, rfl, rfl, rfl, rfl, rfl, rfl, fun _ => rfl, fun _ => rfl, rfl⟩

/-- A stay times out, a second one is replaced by a third one, which is cancelled, and the fourth
one goes on. -/
def grantedSchedule : List RocAct :=
  [.vif (.addInterface 1 false 0), .rocBegin 1, .rocEnd true true true, .expire, .rocTimeout,
    .rocBegin 1, .rocEnd true true true, .rocBegin 1, .rocEnd true true true, .cancelRoc,
    .rocBegin 1, .rocEnd true true true]

/-- The state at the end of `grantedSchedule`. -/
def grantedState : RocSys := (RocSys.system.runVia RocDiscipline .start grantedSchedule).get rfl

end Examples

end Interface
