import RsiDriver.PowerSave.SendPkt
import RsiDriver.ToMathlib.Debounce

/-!
# The handshake over GPIO lines

In the GPIO mode of the power-save handshake (`CONFIG_ARCH_HAVE_CUSTOM_GPIO_H`) the host raises a
line before it transmits and polls a line of the device until that is awake
(`process_tx_gpio_handshake` in `rsi_91x_ps.c`, under `tx_access_lock`). An active answer is polled
once more; a second active answer grants the access. The retries are counted, but not those behind
an active answer that was not confirmed, and a call that gives up leaves the line raised and the
intention set.

## Main results

* `wakeRound_fresh`: what one round of the wait does;
* `handshakes_iff`: the answers for which the call does what is asked of it, for any bound on the
  polls;
* `returns_of_glitches_le`: the bound that a number of glitches leaves;
* `not_forall_handshakes`: a line that goes on toggling.
-/

namespace GpioHandshake

open Debounce
open PowerSave (Common TechId ETIME)

def MAX_RETRY_LIMIT : ℕ := 30

/-- The shared state and the line of the host -/
structure State where
  common : Common
  hostStatus : Bool

/-- The intention is set and the line is raised. -/
def State.raise (s : State) (id : TechId) : State := ⟨s.common.setIntentionBit id true, true⟩

/-- `common_hal_tx_access = true` -/
def State.grant (s : State) : State :=
  { s with common := { s.common with commonHalTxAccess := true } }

/-- The wait for the device: behind the first inactive answer it is in `while (1)`. -/
structure Wait where
  inLoop : Bool
  retryCount : ℕ
  /-- The calls of `get_device_status` so far -/
  polls : ℕ

/-- The end of the wait -/
structure WaitEnd where
  status : ℤ
  polls : ℕ

/-- What a call returns, and the state behind it. -/
structure Return where
  status : ℤ
  polls : ℕ
  after : State

section Call

-- the answers of `get_device_status` during the call
variable (deviceStatus : ℕ → Bool)

/-- One round of the wait, from `retry_to_wake_lmac` or from the top of `while (1)` on -/
def wakeRound (w : Wait) : Wait ⊕ WaitEnd :=
  if deviceStatus w.polls then
    if deviceStatus (w.polls + 1) then .inr ⟨0, w.polls + 2⟩
    -- `continue` in the loop and `goto retry_to_wake_lmac` in front of it
    else .inl { w with polls := w.polls + 2 }
  else if w.inLoop then
    if MAX_RETRY_LIMIT < w.retryCount then .inr ⟨ETIME, w.polls + 1⟩
    else .inl { w with retryCount := w.retryCount + 1, polls := w.polls + 1 }
  else .inl { w with inLoop := true, polls := w.polls + 1 }

/-- The wait, for as many rounds as there is fuel; `none` if it goes on. -/
def wake : ℕ → Wait → Option WaitEnd
  | 0, _ => none
  | fuel + 1, w =>
    match wakeRound deviceStatus w with
    | .inl w => wake fuel w
    | .inr r => some r

/-- `process_tx_gpio_handshake` -/
def processTxGpioHandshake (fuel : ℕ) (id : TechId) (set : Bool) (s : State) : Option Return :=
  if set then
    (wake deviceStatus fuel ⟨false, 0, 0⟩).map fun r =>
      ⟨r.status, r.polls, if r.status = 0 then (s.raise id).grant else s.raise id⟩
  else
    let common := s.common.setIntentionBit id false
    if ¬ common.protocolTxAccess then
      some ⟨0, 0, ⟨{ common with commonHalTxAccess := false }, false⟩⟩
    else some ⟨0, 0, ⟨common, s.hostStatus⟩⟩

end Call

/-! ## The wait -/

variable {deviceStatus : ℕ → Bool} {w : Wait} {n bound fuel : ℕ}

/-- The inactive answers at which the call gives up: one in front of the loop, and those in it -/
def retryPolls : ℕ := MAX_RETRY_LIMIT + 3

/-- The state at the top of a round -/
structure Fresh (deviceStatus : ℕ → Bool) (w : Wait) : Prop where
  unstable : Unstable deviceStatus w.polls
  behind : w.polls = 0 ∨ deviceStatus (w.polls - 1) = false
  plains : plains deviceStatus w.polls = if w.inLoop then w.retryCount + 1 else 0
  outside : w.inLoop = false → w.retryCount = 0
  retry : w.retryCount ≤ MAX_RETRY_LIMIT + 1

theorem fresh_start : Fresh deviceStatus ⟨false, 0, 0⟩ where
  unstable _ hi := absurd hi (Nat.not_succ_le_zero _)
  behind := Or.inl rfl
  plains := Nat.count_zero _
  outside _ := rfl
  retry := Nat.zero_le _

/-- The next answer does not make the line stable by itself. -/
theorem Fresh.unstable_succ (h : Fresh deviceStatus w) :
    Unstable deviceStatus (w.polls + 1) := by
  intro i hi hstable
  rcases Nat.lt_or_ge (i + 1) w.polls with hlt | hge
  · exact h.unstable i hlt hstable
  · have hi' : i = w.polls - 1 := by omega
    rcases h.behind with hzero | hinactive
    · omega
    · rw [StableAt, hi', hinactive] at hstable
      exact Bool.noConfusion hstable.1

/-- What is known at the end of the wait -/
def Decided (deviceStatus : ℕ → Bool) (r : WaitEnd) : Prop :=
  r.status = 0 ∧ AcceptsAt deviceStatus retryPolls r.polls ∨
    r.status = ETIME ∧ RejectsAt deviceStatus retryPolls r.polls

/-- An active answer that is not confirmed -/
theorem Fresh.glitch (h : Fresh deviceStatus w) (hfirst : deviceStatus w.polls = true)
    (hsecond : deviceStatus (w.polls + 1) = false) :
    Fresh deviceStatus { w with polls := w.polls + 2 } where
  unstable i hi hstable := by
    rcases Nat.lt_or_ge i w.polls with hlt | hge
    · exact h.unstable_succ i (by omega) hstable
    · have heq : i = w.polls := Nat.le_antisymm (by simpa using hi) hge
      rw [StableAt, heq, hsecond] at hstable
      exact Bool.noConfusion hstable.2
  behind := Or.inr hsecond
  plains := by
    -- neither of the two answers is counted
    have hnot : ¬ Plain deviceStatus (w.polls + 1) :=
      not_plain_of_behind (Nat.succ_ne_zero _) hfirst
    show Debounce.plains deviceStatus (w.polls + 1 + 1) = _
    rw [plains_succ_of_not_plain hnot, plains_succ_of_not_plain (not_plain_of_active hfirst)]
    exact h.plains
  outside := h.outside
  retry := h.retry

theorem Fresh.plain (h : Fresh deviceStatus w) (hfirst : deviceStatus w.polls = false) :
    Plain deviceStatus w.polls := ⟨hfirst, h.behind⟩

/-- An inactive answer in front of the loop -/
theorem Fresh.enter (h : Fresh deviceStatus w) (hfirst : deviceStatus w.polls = false)
    (hloop : w.inLoop = false) :
    Fresh deviceStatus { w with inLoop := true, polls := w.polls + 1 } where
  unstable := h.unstable_succ
  behind := Or.inr hfirst
  plains := by
    show Debounce.plains deviceStatus (w.polls + 1) = _
    rw [plains_succ_of_plain (h.plain hfirst), h.plains, hloop, h.outside hloop]
    rfl
  outside hfalse := Bool.noConfusion hfalse
  retry := h.retry

/-- An inactive answer in the loop, and one more retry -/
theorem Fresh.retryAgain (h : Fresh deviceStatus w) (hfirst : deviceStatus w.polls = false)
    (hloop : w.inLoop = true) (hretry : w.retryCount ≤ MAX_RETRY_LIMIT) :
    Fresh deviceStatus { w with retryCount := w.retryCount + 1, polls := w.polls + 1 } where
  unstable := h.unstable_succ
  behind := Or.inr hfirst
  plains := by
    show Debounce.plains deviceStatus (w.polls + 1) = if w.inLoop then w.retryCount + 1 + 1 else 0
    rw [plains_succ_of_plain (h.plain hfirst), h.plains, hloop]
    rfl
  outside hfalse := by
    rw [show w.inLoop = false from hfalse] at hloop
    exact Bool.noConfusion hloop
  retry := Nat.succ_le_succ hretry

/-- **One round**: the wait goes on, by at least one poll, or the line is decided. -/
theorem wakeRound_fresh (h : Fresh deviceStatus w) :
    (∃ w', wakeRound deviceStatus w = .inl w' ∧ Fresh deviceStatus w' ∧ w.polls < w'.polls) ∨
      ∃ r, wakeRound deviceStatus w = .inr r ∧ Decided deviceStatus r := by
  rw [wakeRound]
  cases hfirst : deviceStatus w.polls with
  | true =>
    cases hsecond : deviceStatus (w.polls + 1) with
    | true =>
      -- the access is granted; so far there were too few inactive answers to give up
      have hstable : StableAt deviceStatus w.polls := ⟨hfirst, hsecond⟩
      refine Or.inr ⟨_, rfl, Or.inl ⟨rfl, Nat.le_add_left _ _, hstable, ?_, h.unstable_succ⟩⟩
      have hplains := h.plains
      have hretry := h.retry
      rw [plains_of_stableAt hstable, retryPolls]
      split at hplains <;> omega
    | false => exact Or.inl ⟨_, rfl, h.glitch hfirst hsecond, Nat.lt_add_of_pos_right (by decide)⟩
  | false =>
    cases hloop : w.inLoop with
    | true =>
      by_cases hlimit : MAX_RETRY_LIMIT < w.retryCount
      · -- the counter is at most one above the limit, so this is the answer to give up at
        have hplains := plains_succ_of_plain (h.plain hfirst)
        have hretry := h.retry
        rw [h.plains, hloop, if_pos rfl] at hplains
        refine Or.inr ⟨⟨ETIME, w.polls + 1⟩, by simp [hlimit], Or.inr ⟨rfl, Nat.succ_pos _,
          h.plain hfirst, ?_, h.unstable_succ⟩⟩
        show plains deviceStatus (w.polls + 1) = MAX_RETRY_LIMIT + 3
        omega
      · refine Or.inl ⟨_, ?_, h.retryAgain hfirst hloop (Nat.not_lt.1 hlimit), Nat.lt_succ_self _⟩
        simp [hlimit, hloop]
    | false => exact Or.inl ⟨_, rfl, h.enter hfirst hloop, Nat.lt_succ_self _⟩

/-- The end of a wait decides the line. -/
theorem wake_decided (h : Fresh deviceStatus w) {r : WaitEnd}
    (hr : wake deviceStatus fuel w = some r) : Decided deviceStatus r := by
  induction fuel generalizing w with
  | zero => cases hr
  | succ fuel ih =>
    rw [wake] at hr
    rcases wakeRound_fresh h with ⟨w', hround, hw', -⟩ | ⟨r', hround, hr'⟩
    · rw [hround] at hr
      exact ih hw' hr
    · rw [hround] at hr
      rwa [← Option.some.inj hr]

/-- A line that is decided within a number of polls ends the wait: each round makes a poll. -/
theorem exists_wake_of_decided (h : Fresh deviceStatus w) (hfuel : bound < w.polls + fuel)
    (hdecided : (∃ n ≤ bound, AcceptsAt deviceStatus retryPolls n) ∨
      ∃ n ≤ bound, RejectsAt deviceStatus retryPolls n) :
    ∃ r, wake deviceStatus fuel w = some r := by
  induction fuel generalizing w with
  | zero =>
    -- the line would have been decided before
    exfalso
    rcases hdecided with ⟨n, hn, haccepts⟩ | ⟨n, hn, hrejects⟩
    · have htwo := haccepts.two_le
      exact h.unstable (n - 2) (by omega) haccepts.stable
    · have hmono := plains_mono (s := deviceStatus) (show n ≤ w.polls by omega)
      have hplains := h.plains
      have hretry := h.retry
      rw [hrejects.plains_eq, retryPolls] at hmono
      split at hplains <;> omega
  | succ fuel ih =>
    rw [wake]
    rcases wakeRound_fresh h with ⟨w', hround, hw', hpolls⟩ | ⟨r, hround, -⟩
    · rw [hround]
      exact ih hw' (by omega)
    · rw [hround]
      exact ⟨r, rfl⟩

/-- A line that is accepted within a number of polls -/
theorem wake_of_accepts (h : ∃ n ≤ bound, AcceptsAt deviceStatus retryPolls n) :
    ∃ fuel n, n ≤ bound ∧ AcceptsAt deviceStatus retryPolls n ∧
      wake deviceStatus fuel ⟨false, 0, 0⟩ = some ⟨0, n⟩ := by
  obtain ⟨r, hr⟩ := exists_wake_of_decided fresh_start (show bound < 0 + (bound + 1) by omega)
    (Or.inl h)
  obtain ⟨n, hn, haccepts⟩ := h
  rcases wake_decided fresh_start hr with ⟨hstatus, hr'⟩ | ⟨-, hr'⟩
  · refine ⟨bound + 1, r.polls, (hr'.le haccepts).trans hn, hr', ?_⟩
    rw [hr, ← hstatus]
  · exact (haccepts.not_rejectsAt hr').elim

/-- A line that is given up within a number of polls -/
theorem wake_of_rejects (h : ∃ n ≤ bound, RejectsAt deviceStatus retryPolls n) :
    ∃ fuel n, n ≤ bound ∧ wake deviceStatus fuel ⟨false, 0, 0⟩ = some ⟨ETIME, n⟩ := by
  obtain ⟨r, hr⟩ := exists_wake_of_decided fresh_start (show bound < 0 + (bound + 1) by omega)
    (Or.inr h)
  obtain ⟨n, hn, hrejects⟩ := h
  rcases wake_decided fresh_start hr with ⟨-, hr'⟩ | ⟨hstatus, hr'⟩
  · exact (hr'.not_rejectsAt hrejects).elim
  · refine ⟨bound + 1, r.polls, (hr'.le hrejects).trans hn, ?_⟩
    rw [hr, ← hstatus]

/-! ## The handshake -/

/-- **What is asked of the calls of a protocol**, with a bound on the polls: with `set` the call
returns, with the access behind two active polls or with everything as it was, and without `set` the
line is released if no other protocol holds an intention. -/
structure Handshakes (bound : ℕ) (deviceStatus : ℕ → Bool) (id : TechId) (s : State) : Prop where
  set : ∃ fuel r, processTxGpioHandshake deviceStatus fuel id true s = some r ∧ r.polls ≤ bound ∧
    (r.status = 0 → r.after.common.commonHalTxAccess = true ∧ 2 ≤ r.polls ∧
      deviceStatus (r.polls - 2) = true ∧ deviceStatus (r.polls - 1) = true) ∧
    (r.status ≠ 0 → (r.after.common.techs id).txIntention = (s.common.techs id).txIntention ∧
      r.after.hostStatus = s.hostStatus)
  clear : ∃ r, (∀ fuel, processTxGpioHandshake deviceStatus fuel id false s = some r) ∧
    (r.after.hostStatus = false ↔
      s.hostStatus = false ∨ ∀ other, other ≠ id → (s.common.techs other).txIntention = false)

/-- Without `set` the line is released in time, from any state. -/
theorem clear_releases (deviceStatus : ℕ → Bool) (id : TechId) (s : State) :
    ∃ r, (∀ fuel, processTxGpioHandshake deviceStatus fuel id false s = some r) ∧
      (r.after.hostStatus = false ↔ s.hostStatus = false ∨
        ∀ other, other ≠ id → (s.common.techs other).txIntention = false) := by
  -- the own intention is cleared before the others are looked at
  have hothers : (s.common.setIntentionBit id false).protocolTxAccess = false ↔
      ∀ other, other ≠ id → (s.common.techs other).txIntention = false := by
    rw [PowerSave.Common.protocolTxAccess_eq_false_iff]
    refine forall_congr' fun other => ?_
    rw [PowerSave.Common.setIntentionBit_txIntention]
    by_cases hid : other = id <;> simp [hid]
  cases haccess : (s.common.setIntentionBit id false).protocolTxAccess with
  | false =>
    refine ⟨_, fun fuel => by simp only [processTxGpioHandshake, haccess]; rfl, ?_⟩
    exact iff_of_true rfl (Or.inr (hothers.1 haccess))
  | true =>
    refine ⟨_, fun fuel => by simp only [processTxGpioHandshake, haccess]; rfl, ?_⟩
    have hheld : ¬ ∀ other, other ≠ id → (s.common.techs other).txIntention = false := by
      rw [← hothers, haccess]
      exact Bool.noConfusion
    exact (or_iff_left hheld).symm

/-- What a call with `set` returns when the wait ends. -/
theorem process_of_wake {id : TechId} {s : State} {r : WaitEnd}
    (hr : wake deviceStatus fuel ⟨false, 0, 0⟩ = some r) :
    processTxGpioHandshake deviceStatus fuel id true s =
      some ⟨r.status, r.polls, if r.status = 0 then (s.raise id).grant else s.raise id⟩ := by
  rw [processTxGpioHandshake, if_pos rfl, hr]
  rfl

/-- **When the handshake does what is asked of it**: among the answers within the bound are two
active ones in a row before the call gives up, or it gives up within the bound and had raised the
line and the intention before. -/
theorem handshakes_iff (bound : ℕ) (deviceStatus : ℕ → Bool) (id : TechId) (s : State) :
    Handshakes bound deviceStatus id s ↔
      (∃ i, i + 2 ≤ bound ∧ StableAt deviceStatus i ∧
          plains deviceStatus i < MAX_RETRY_LIMIT + 3) ∨
        MAX_RETRY_LIMIT + 3 ≤ plains deviceStatus bound ∧
          (s.common.techs id).txIntention = true ∧ s.hostStatus = true := by
  constructor
  · intro h
    obtain ⟨fuel, r, hr, hpolls, -, herror⟩ := h.set
    cases hwake : wake deviceStatus fuel ⟨false, 0, 0⟩ with
    | none =>
      rw [processTxGpioHandshake, if_pos rfl, hwake] at hr
      cases hr
    | some e =>
      rw [process_of_wake hwake] at hr
      obtain rfl := Option.some.inj hr
      rcases wake_decided fresh_start hwake with ⟨hstatus, haccepts⟩ | ⟨hstatus, hrejects⟩
      · exact Or.inl (exists_acceptsAt_iff.1 ⟨e.polls, hpolls, haccepts⟩)
      · -- the intention is set and the line is raised behind an error
        have hne : e.status ≠ 0 := by rw [hstatus]; decide
        obtain ⟨hintention, hhost⟩ := herror hne
        simp only [if_neg hne, State.raise] at hintention hhost
        rw [PowerSave.Common.setIntentionBit_txIntention, if_pos rfl] at hintention
        refine Or.inr ⟨?_, hintention.symm, hhost.symm⟩
        have hmono := plains_mono (s := deviceStatus) hpolls
        rwa [hrejects.plains_eq] at hmono
  · intro h
    refine ⟨?_, clear_releases deviceStatus id s⟩
    by_cases haccept : ∃ n ≤ bound, AcceptsAt deviceStatus retryPolls n
    · obtain ⟨fuel, n, hn, haccepts, hwake⟩ := wake_of_accepts haccept
      have htwo := haccepts.two_le
      refine ⟨fuel, _, process_of_wake hwake, hn, fun _ => ⟨rfl, htwo, haccepts.stable.1, ?_⟩,
        fun hne => absurd rfl hne⟩
      have hlast := haccepts.stable.2
      rwa [show n - 2 + 1 = n - 1 by omega] at hlast
    · rcases h with hstable | ⟨hplains, hintention, hhost⟩
      · exact absurd (exists_acceptsAt_iff.2 hstable) haccept
      · obtain ⟨fuel, n, hn, hwake⟩ :=
          wake_of_rejects (exists_rejectsAt (by decide) haccept hplains)
        have hne : ETIME ≠ 0 := by decide
        refine ⟨fuel, _, process_of_wake hwake, hn, fun hzero => absurd hzero hne,
          fun _ => ⟨?_, hhost.symm⟩⟩
        show ((s.common.setIntentionBit id true).techs id).txIntention = _
        rw [PowerSave.Common.setIntentionBit_txIntention, if_pos rfl, hintention]

/-- **The polls of a call**, when the line glitches a number of times. -/
theorem returns_of_glitches_le {g : ℕ} (id : TechId) (s : State)
    (hg : glitches deviceStatus (MAX_RETRY_LIMIT + 4 + 2 * g) ≤ g) :
    ∃ fuel r, processTxGpioHandshake deviceStatus fuel id true s = some r ∧
      r.polls ≤ MAX_RETRY_LIMIT + 4 + 2 * g := by
  have hdecided := decided_of_glitches_le (k := retryPolls) (by decide) hg
    (by rw [retryPolls]; omega)
  rcases hdecided with haccepts | hrejects
  · obtain ⟨fuel, n, hn, -, hwake⟩ := wake_of_accepts haccepts
    exact ⟨fuel, _, process_of_wake hwake, hn⟩
  · obtain ⟨fuel, n, hn, hwake⟩ := wake_of_rejects hrejects
    exact ⟨fuel, _, process_of_wake hwake, hn⟩

/-- The line goes on toggling: no poll is confirmed and none is counted. -/
theorem not_forall_handshakes :
    ¬ ∃ bound : ℕ → ℕ, ∀ (deviceStatus : ℕ → Bool) (id : TechId) (s : State),
      Handshakes (bound MAX_RETRY_LIMIT) deviceStatus id s := by
  rintro ⟨bound, h⟩
  let toggling : ℕ → Bool := fun i => i % 2 == 0
  obtain ⟨fuel, r, hr, -⟩ := (h toggling .wlan ⟨Common.start false, false⟩).set
  cases hwake : wake toggling fuel ⟨false, 0, 0⟩ with
  | none =>
    rw [processTxGpioHandshake, if_pos rfl, hwake] at hr
    cases hr
  | some e =>
    -- neither two active answers in a row, nor an inactive one behind an inactive one
    rcases wake_decided fresh_start hwake with ⟨-, haccepts⟩ | ⟨-, hrejects⟩
    · obtain ⟨hfirst, hsecond⟩ := haccepts.stable
      simp only [toggling, beq_iff_eq] at hfirst hsecond
      omega
    · obtain ⟨hlast, hbehind⟩ := hrejects.plain
      simp only [toggling, beq_eq_false_iff_ne] at hlast hbehind
      omega

end GpioHandshake
