import RsiDriver.PowerSave.Handshake

/-!
# Sleep acknowledgements match sleep entries

Two sticky flags, `sleep_entry_received` and `ulp_sleep_ack_sent`, encode the request–answer
protocol of ULP sleep. This file says what the acknowledgements of a run should be
(`AcksMatchEntries`), shows a run of the driver that breaks it, and proves it for the runs that
keep `AckDiscipline`.

The defect is that a sleep exit does not clear `sleep_entry_received`. An entry that was denied
because a protocol held an intention stays recorded after the exit that cancels it, and the
release of the last intention then acknowledges it: late, with the token of the exit, and with
the access withdrawn from a host that is awake.

## Main results

* `not_acksMatchEntries`: the run entry–denied, exit, release ends in a stale acknowledgement;
* `acksMatchEntries_of_discipline`: acknowledgements match entries in every run in which no such
  release happens and no acknowledgement frame fails to be allocated.
-/

namespace PowerSave

open Session

/-- The acknowledgements of the run so far match the sleep entries:

* every call of `rsi_send_ack_for_ulp_entry` answers an entry that is neither answered yet nor
  followed by an exit, with that entry's token;
* if the latest entry is not followed by an exit and no protocol holds an intention, it has been
  acknowledged;
* unless the latest entry is still open, the host has its access back once the receive thread
  has granted it. -/
structure AcksMatchEntries (s : Shared) : Prop where
  honest : Honest (sessionOf s.log)
  answered : s.common.protocolTxAccess = false → s.session ≠ .idle →
    ∃ token, s.session = .answered token (some token)
  access : s.session = .idle → s.log ≠ [] → s.rx ≠ .exitGrant →
    s.common.commonHalTxAccess = true

/-- The condition on each step. A clear call that finds a sleep entry recorded as unanswered and
releases the last intention comes before the exit of that entry; and no acknowledgement frame
fails to be allocated. -/
def AckDiscipline (s : Shared) : SharedAct → Prop
  | .clrIntention id alloc =>
    s.common.sleepEntryReceived = true ∧ s.common.ulpSleepAckSent = false ∧
        (s.common.setIntentionBit id false).protocolTxAccess = false →
      alloc = true ∧ s.session ≠ .idle
  | .notify word alloc =>
    isUlpSleepEntry word = true ∧ s.common.protocolTxAccess = false → alloc = true
  | _ => True

instance (s : Shared) (a : SharedAct) : Decidable (AckDiscipline s a) :=
  match a with
  | .setIntention _ => inferInstanceAs (Decidable True)
  | .clrIntention _ _ => inferInstanceAs (Decidable (_ ∧ _ ∧ _ → _ ∧ _ ≠ _))
  | .setWait _ => inferInstanceAs (Decidable True)
  | .notify _ _ => inferInstanceAs (Decidable (_ ∧ _ → _))
  | .exitStep => inferInstanceAs (Decidable True)

/-! ## The stale acknowledgement -/

/-- WLAN holds its intention while an entry with token 5 arrives and is denied, the exit follows,
and WLAN releases its intention. -/
def staleAckSchedule : List SharedAct :=
  [.setIntention .wlan, .notify 0x51 true, .notify 0 true, .exitStep, .exitStep, .exitStep,
    .exitStep, .clrIntention .wlan true]

/-- The driver acknowledges an entry after its exit, with the token of the exit. -/
theorem not_acksMatchEntries :
    ¬ ∀ s, Shared.system.Reachable s → AcksMatchEntries s := by
  refine TransitionSystem.not_forall_reachable_of_run staleAckSchedule
    (Shared.init_start true) rfl fun hbad => ?_
  obtain ⟨t, ht, -⟩ := hbad.honest [.request 5, .cancel] (some EXIT_TOKEN) [] rfl
  cases ht

/-! ## The invariant of disciplined runs -/

/-- What links the two flags to the session that the history describes. -/
structure AckInv (s : Shared) : Prop where
  honest : Honest (sessionOf s.log)
  /-- An open entry was denied: some protocol holds an intention, and the flags and the token
  are the entry's. -/
  requested : ∀ token, s.session = .requested token →
    s.common.sleepEntryReceived = true ∧ s.common.ulpSleepAckSent = false ∧
      s.common.ulpToken = token ∧ s.common.protocolTxAccess = true
  /-- An answered entry is recorded as answered. -/
  answered : ∀ token o, s.session = .answered token o → s.common.ulpSleepAckSent = true
  access : s.session = .idle → s.log ≠ [] → s.rx ≠ .exitGrant →
    s.common.commonHalTxAccess = true

theorem AckInv.acksMatchEntries {s : Shared} (h : AckInv s) : AcksMatchEntries s where
  honest := h.honest
  answered hnone hopen := by
    cases hs : s.session with
    | idle => exact absurd hs hopen
    | requested token =>
      have := (h.requested token hs).2.2.2
      rw [hnone] at this
      cases this
    | answered token o => exact ⟨token, by rw [h.honest.answered_eq hs]⟩
  access := h.access

theorem ackInv_start (txAccess : Bool) : AckInv (.start txAccess) where
  honest := honest_nil
  requested _ h := by cases h
  answered _ _ h := by cases h
  access _ h := absurd rfl h

/-- Without a request the invariant is about the access only. -/
theorem AckInv.of_idle {s : Shared} (hhonest : Honest (sessionOf s.log))
    (hsession : s.session = .idle)
    (haccess : s.log ≠ [] → s.rx ≠ .exitGrant → s.common.commonHalTxAccess = true) : AckInv s where
  honest := hhonest
  requested token h := by
    rw [hsession] at h
    cases h
  answered token o h := by
    rw [hsession] at h
    cases h
  access _ := haccess

/-- While a request is open, the invariant is about the flags and the token. -/
theorem AckInv.of_requested {s : Shared} (hhonest : Honest (sessionOf s.log)) {token : BitVec 16}
    (hsession : s.session = .requested token)
    (hflags : s.common.sleepEntryReceived = true ∧ s.common.ulpSleepAckSent = false ∧
      s.common.ulpToken = token ∧ s.common.protocolTxAccess = true) : AckInv s where
  honest := hhonest
  requested token' h := by
    rw [hsession] at h
    cases h
    exact hflags
  answered token' o h := by
    rw [hsession] at h
    cases h
  access h := by
    rw [hsession] at h
    cases h

/-- Once a request is answered, the invariant is about the acknowledgement flag. -/
theorem AckInv.of_answered {s : Shared} (hhonest : Honest (sessionOf s.log)) {token : BitVec 16}
    {o : Option (BitVec 16)} (hsession : s.session = .answered token o)
    (hack : s.common.ulpSleepAckSent = true) : AckInv s where
  honest := hhonest
  requested token' h := by
    rw [hsession] at h
    cases h
  answered _ _ _ := hack
  access h := by
    rw [hsession] at h
    cases h

/-- Steps that only add intentions or move waiting flags keep the invariant. -/
theorem AckInv.of_same_log {s s' : Shared} (h : AckInv s) (hlog : s'.log = s.log)
    (hentry : s'.common.sleepEntryReceived = s.common.sleepEntryReceived)
    (hack : s'.common.ulpSleepAckSent = s.common.ulpSleepAckSent)
    (htoken : s'.common.ulpToken = s.common.ulpToken)
    (hprot : ∀ token, s.session = .requested token → s'.common.protocolTxAccess = true)
    (haccess : s.rx ≠ .exitGrant → s.common.commonHalTxAccess = true →
      s'.common.commonHalTxAccess = true)
    (hrx : s'.rx ≠ .exitGrant → s.rx ≠ .exitGrant) : AckInv s' := by
  have hsession : s'.session = s.session := by simp [Shared.session, hlog]
  refine ⟨by rw [hlog]; exact h.honest, fun token ht => ?_, fun token o ho => ?_,
    fun hidle hne hgrant => ?_⟩
  · rw [hsession] at ht
    obtain ⟨h₁, h₂, h₃, -⟩ := h.requested token ht
    exact ⟨by rw [hentry, h₁], by rw [hack, h₂], by rw [htoken, h₃], hprot token ht⟩
  · rw [hack]
    exact h.answered token o (by rw [← hsession, ho])
  · rw [hsession] at hidle
    rw [hlog] at hne
    exact haccess (hrx hgrant) (h.access hidle hne (hrx hgrant))

theorem AckInv.setIntention {s : Shared} (h : AckInv s) (id : TechId) :
    AckInv (s.setIntention id) := by
  refine h.of_same_log rfl rfl rfl rfl (fun _ _ => ?_) (fun _ ha => ha) fun hrx => hrx
  -- a new intention only confirms that an open entry was denied
  have hbit : ((s.setIntention id).common.techs id).txIntention = true := by
    simp [Shared.setIntention, Common.setTxIntention]
  exact Common.protocolTxAccess_of_intention hbit

theorem AckInv.setWait {s : Shared} (h : AckInv s) (id : TechId) : AckInv (s.setWait id) := by
  refine h.of_same_log rfl rfl rfl rfl (fun token ht => ?_) (fun _ ha => ha) fun hrx => hrx
  have := (h.requested token ht).2.2.2
  simpa [Shared.setWait] using this

/-- A disciplined clear call keeps the invariant: if it acknowledges, the entry is open. -/
theorem AckInv.clrIntention {s : Shared} (h : AckInv s) {id : TechId} {alloc : Bool}
    (hG : AckDiscipline s (.clrIntention id alloc)) : AckInv (s.clrIntention id alloc) := by
  rcases s.clrIntention_cases id alloc with ⟨heq, hheld⟩ | ⟨heq, hrecv, hnack, hprot⟩
  · rw [heq]
    refine h.of_same_log rfl rfl rfl rfl (fun token ht => ?_) (fun _ ha => ha) fun hrx => hrx
    obtain ⟨hrecv, hnack, -, -⟩ := h.requested token ht
    exact hheld hrecv hnack
  · obtain ⟨rfl, hopen⟩ := hG ⟨hrecv, hnack, hprot⟩
    -- the recorded entry is open, and not answered: the flag would say so
    obtain ⟨token, hs⟩ : ∃ token, s.session = .requested token := by
      cases hs : s.session with
      | idle => exact absurd hs hopen
      | requested token => exact ⟨token, rfl⟩
      | answered token o =>
        have := h.answered token o hs
        rw [hnack] at this
        cases this
    obtain ⟨-, -, htoken, -⟩ := h.requested token hs
    have hstatus : Session.status (sessionOf s.log) = .requested token := hs
    rw [heq, if_pos rfl]
    refine AckInv.of_answered ?_ (?_ : Shared.session _ = .answered token (some token)) rfl
    · simpa [UlpEvent.toSession, htoken] using h.honest.concat_answer hstatus
    · simp [Shared.session, UlpEvent.toSession, hstatus, Status.next, htoken]

/-- A disciplined notification keeps the invariant. -/
theorem AckInv.notify {s s' : Shared} (h : AckInv s) {word : BitVec 16} {alloc : Bool}
    (hG : AckDiscipline s (.notify word alloc)) (hs : s.notify word alloc = some s') :
    AckInv s' := by
  obtain ⟨-, ⟨hentry, hprot, rfl⟩ | ⟨hentry, hprot, rfl⟩ | ⟨-, rfl⟩⟩ := Shared.notify_cases hs
  · -- the entry is acknowledged at once
    obtain rfl := hG ⟨hentry, hprot⟩
    have hhonest : Honest (sessionOf s.log ++ [.request (ulpTokenOf word)]) :=
      h.honest.concat (by simp)
    have hlog : sessionOf (s.log ++ [.entry (ulpTokenOf word),
        .ack (some (ulpAckFrame (ulpTokenOf word)))]) =
        sessionOf s.log ++ [.request (ulpTokenOf word)] ++ [.answer (some (ulpTokenOf word))] := by
      simp [UlpEvent.toSession]
    rw [if_pos rfl]
    refine AckInv.of_answered ?_
      (?_ : Shared.session _ = .answered (ulpTokenOf word) (some (ulpTokenOf word)))
      (Bool.or_true _)
    · rw [hlog]
      exact hhonest.concat_answer (by simp [Status.next])
    · simp [Shared.session, hlog, Status.next]
  · -- the entry is denied
    have hlog : sessionOf (s.log ++ [.entry (ulpTokenOf word)]) =
        sessionOf s.log ++ [.request (ulpTokenOf word)] := by
      simp [UlpEvent.toSession]
    refine AckInv.of_requested ?_ (?_ : Shared.session _ = .requested (ulpTokenOf word))
      ⟨rfl, rfl, rfl, hprot⟩
    · rw [hlog]
      exact h.honest.concat (by simp)
    · simp [Shared.session, hlog, Status.next]
  · -- a sleep exit cancels whatever entry there was
    have hlog : sessionOf (s.log ++ [.exit]) = sessionOf s.log ++ [.cancel] := by
      simp [UlpEvent.toSession]
    refine AckInv.of_idle ?_ ?_ fun _ hrx => absurd rfl hrx
    · rw [hlog]
      exact h.honest.concat (by simp)
    · simp [Shared.session, hlog, Status.next]

/-- The steps of `sleep_exit_recvd` keep the invariant. -/
theorem AckInv.exitStep {s s' : Shared} (h : AckInv s) (hs : s.exitStep = some s') :
    AckInv s' := by
  rcases Shared.exitStep_cases hs with ⟨hrx, rfl⟩ | ⟨id, hrx, rfl⟩
  · -- the grant is no event of the session
    have hlog : sessionOf (s.log ++ [.access]) = sessionOf s.log := by
      simp [UlpEvent.toSession]
    constructor
    · rw [hlog]
      exact h.honest
    · intro token ht
      rw [Shared.session, hlog] at ht
      exact h.requested token ht
    · intro token o ho
      rw [Shared.session, hlog] at ho
      exact h.answered token o ho
    · intro _ _ _
      rfl
  · refine h.of_same_log rfl rfl rfl rfl (fun token ht => ?_) (fun _ ha => ha) fun _ => ?_
    · have := (h.requested token ht).2.2.2
      simpa using this
    · rw [hrx]
      simp

theorem ackInv_of_discipline {s : Shared}
    (h : Shared.system.ReachableVia AckDiscipline s) : AckInv s := by
  refine h.invariant AckInv ?_ ?_
  · rintro s ⟨txAccess, rfl⟩
    exact ackInv_start txAccess
  · intro s a s' hinv hG hs
    cases a with
    | setIntention id =>
      obtain rfl := Option.some.inj hs
      exact hinv.setIntention id
    | clrIntention id alloc =>
      obtain rfl := Option.some.inj hs
      exact hinv.clrIntention hG
    | setWait id =>
      obtain rfl := Option.some.inj hs
      exact hinv.setWait id
    | notify word alloc => exact hinv.notify hG hs
    | exitStep => exact hinv.exitStep hs

/-- In every run that keeps the discipline, the acknowledgements match the sleep entries. -/
theorem acksMatchEntries_of_discipline {s : Shared}
    (h : Shared.system.ReachableVia AckDiscipline s) : AcksMatchEntries s :=
  (ackInv_of_discipline h).acksMatchEntries

/-- A denied entry that is acknowledged on release, its exit, and a second entry. -/
def ackedSchedule : List SharedAct :=
  [.setIntention .wlan, .notify 0x51 true, .setIntention .common, .clrIntention .wlan true,
    .clrIntention .common true, .notify 0 true, .exitStep, .exitStep, .exitStep, .exitStep,
    .notify 0x61 true]

/-- The discipline is kept by a run with a denied entry, so the result is not vacuous. -/
theorem acksMatchEntries_ackedSchedule :
    AcksMatchEntries ((Shared.system.runVia AckDiscipline (.start true) ackedSchedule).get rfl) :=
  acksMatchEntries_of_discipline (TransitionSystem.reachableVia_get (Shared.init_start true) rfl)

end PowerSave
