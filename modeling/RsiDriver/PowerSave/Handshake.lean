import RsiDriver.PowerSave.TxAccess
import RsiDriver.ToMathlib.RequestAnswer
import RsiDriver.ToMathlib.TransitionSystem

/-!
# The shared side of the power-save handshake

`Shared` is the state that the transmitting threads and the receive thread share: the fields of
`Common`, the position of the receive thread inside `rsi_process_ulp_sleep_notify`, and a
history of what happened on the wire. The receive thread handles one notification at a time.
A sleep entry is one critical section. A sleep exit is four kinds of steps: the token is
overwritten outside the lock, the access is granted under it, and then each `techs[id]` is
scanned in turn.

`Shared.system` lets the accesses of the threads come in any order and any number. It is the
setting of the claims about the acknowledgements (`PowerSave.UlpAck`), and every run of the
threads of `PowerSave.Senders` maps to one of its runs.
-/

namespace PowerSave

/-- Where the receive thread stands in `rsi_process_ulp_sleep_notify`. -/
inductive RxPc
  /-- Ready for the next notification. -/
  | idle
  /-- In a sleep exit, before the critical section of `sleep_exit_recvd`. -/
  | exitGrant
  /-- In `sleep_exit_recvd`, about to look at `techs[id].wait_for_tx_access`. -/
  | exitScan (id : TechId)
  deriving DecidableEq, Repr

/-- Where the loop of `sleep_exit_recvd` stands after it examined the flag of `id`. -/
def RxPc.afterScan (id : TechId) : RxPc :=
  match id.next with
  | some id' => .exitScan id'
  | none => .idle

/-- What the history of a run records, in order. -/
inductive UlpEvent
  /-- A sleep entry with this token was received. -/
  | entry (token : BitVec 16)
  /-- A sleep exit was received. -/
  | exit
  /-- `sleep_exit_recvd` gave the access back. -/
  | access
  /-- `rsi_send_ack_for_ulp_entry` was called; `none` if the frame could not be allocated. -/
  | ack (frame : Option RsiUlpParams)
  deriving DecidableEq

/-- The event that a call of `rsi_send_ack_for_ulp_entry`, if any, adds to the history. -/
def ackEvents : Option (Option RsiUlpParams) → List UlpEvent
  | none => []
  | some frame => [.ack frame]

/-- Shared state, receive thread and history. -/
structure Shared where
  common : Common
  rx : RxPc
  log : List UlpEvent

namespace Shared

/-- No notification received yet. -/
def start (txAccess : Bool) : Shared := ⟨.start txAccess, .idle, []⟩

/-- The critical section of `set_clr_tx_intention(common, id, 1)`. -/
def setIntention (s : Shared) (id : TechId) : Shared :=
  { s with common := s.common.setTxIntention id }

/-- `set_clr_tx_intention(common, id, 0)`. -/
def clrIntention (s : Shared) (id : TechId) (alloc : Bool) : Shared :=
  let (common, ack) := s.common.clrTxIntention id alloc
  { s with common, log := s.log ++ ackEvents ack }

/-- `tech->wait_for_tx_access = true`, outside the lock. -/
def setWait (s : Shared) (id : TechId) : Shared :=
  { s with common := s.common.setWaitFlag id true }

/-- `rsi_process_ulp_sleep_notify` on a notification whose word at offset 12 is `word`. -/
def notify (s : Shared) (word : BitVec 16) (alloc : Bool) : Option Shared :=
  match s.rx with
  | .idle =>
    if isUlpSleepEntry word then
      let (common, ack) := s.common.ulpSleepEntry word alloc
      some { s with common, log := s.log ++ .entry (ulpTokenOf word) :: ackEvents ack }
    else
      some { common := s.common.ulpSleepExit, rx := .exitGrant, log := s.log ++ [.exit] }
  | _ => none

/-- The next step of the receive thread inside `sleep_exit_recvd`. -/
def exitStep (s : Shared) : Option Shared :=
  match s.rx with
  | .idle => none
  | .exitGrant =>
    some { common := s.common.grantTxAccess, rx := .exitScan .wlan, log := s.log ++ [.access] }
  | .exitScan id =>
    some { s with common := s.common.setWaitFlag id false, rx := .afterScan id }

end Shared

/-- The accesses to the shared state. -/
inductive SharedAct
  | setIntention (id : TechId)
  | clrIntention (id : TechId) (alloc : Bool)
  | setWait (id : TechId)
  | notify (word : BitVec 16) (alloc : Bool)
  | exitStep

/-- Set and clear calls of the three protocol ids, in any order and number, interleaved with
the device's notifications. -/
def Shared.system : TransitionSystem Shared SharedAct where
  Init s := ∃ txAccess, s = .start txAccess
  step s
    | .setIntention id => some (s.setIntention id)
    | .clrIntention id alloc => some (s.clrIntention id alloc)
    | .setWait id => some (s.setWait id)
    | .notify word alloc => s.notify word alloc
    | .exitStep => s.exitStep

theorem Shared.init_start (txAccess : Bool) : Shared.system.Init (.start txAccess) :=
  ⟨txAccess, rfl⟩

/-! ## The sleep session a history describes -/

/-- A sleep entry requests sleep, a sleep exit cancels the request, and the acknowledgement
answers it with the token in the frame. -/
def UlpEvent.toSession : UlpEvent → Option (Session.Event (BitVec 16))
  | .entry token => some (.request token)
  | .exit => some .cancel
  | .access => none
  | .ack frame => some (.answer (frame.map RsiUlpParams.token))

/-- The history as a request–answer session. -/
def sessionOf (log : List UlpEvent) : List (Session.Event (BitVec 16)) :=
  log.filterMap UlpEvent.toSession

/-- Where the latest sleep entry of the history stands. -/
def Shared.session (s : Shared) : Session.Status (BitVec 16) := Session.status (sessionOf s.log)

@[simp]
theorem sessionOf_nil : sessionOf [] = [] := rfl

@[simp]
theorem sessionOf_append (log log' : List UlpEvent) :
    sessionOf (log ++ log') = sessionOf log ++ sessionOf log' := by
  simp [sessionOf]

@[simp]
theorem sessionOf_cons (e : UlpEvent) (log : List UlpEvent) :
    sessionOf (e :: log) = e.toSession.toList ++ sessionOf log := by
  cases h : e.toSession <;> simp [sessionOf, h]

/-- What a clear call can do to the shared state. -/
theorem Shared.clrIntention_cases (s : Shared) (id : TechId) (alloc : Bool) :
    (s.clrIntention id alloc = { s with common := s.common.setIntentionBit id false } ∧
      (s.common.sleepEntryReceived = true → s.common.ulpSleepAckSent = false →
        (s.common.setIntentionBit id false).protocolTxAccess = true)) ∨
    (s.clrIntention id alloc =
        { s with
          common := { s.common.setIntentionBit id false with
            commonHalTxAccess := false, ulpSleepAckSent := alloc }
          log := s.log ++
            [.ack (if alloc then some (ulpAckFrame s.common.ulpToken) else none)] } ∧
      s.common.sleepEntryReceived = true ∧ s.common.ulpSleepAckSent = false ∧
      (s.common.setIntentionBit id false).protocolTxAccess = false) := by
  rcases s.common.clrTxIntention_cases id alloc with ⟨heq, h⟩ | ⟨heq, h⟩
  · left
    exact ⟨by simp [clrIntention, heq, ackEvents], h⟩
  · right
    exact ⟨by simp [clrIntention, heq, ackEvents], h⟩

/-- A clear call clears its own bit and no other. -/
@[simp]
theorem Shared.clrIntention_txIntention (s : Shared) (id i : TechId) (alloc : Bool) :
    ((s.clrIntention id alloc).common.techs i).txIntention =
      if i = id then false else (s.common.techs i).txIntention := by
  rcases s.clrIntention_cases id alloc with ⟨heq, -⟩ | ⟨heq, -⟩ <;> simp [heq]

/-- What a notification can do to the shared state: an entry is acknowledged or denied, an exit
overwrites the token. -/
theorem Shared.notify_cases {s s' : Shared} {word : BitVec 16} {alloc : Bool}
    (h : s.notify word alloc = some s') :
    s.rx = .idle ∧
      ((isUlpSleepEntry word = true ∧ s.common.protocolTxAccess = false ∧
          s' = { s with
            common := { s.common with
              sleepEntryReceived := true, ulpToken := ulpTokenOf word, commonHalTxAccess := false,
              ulpSleepAckSent := s.common.ulpSleepAckSent || alloc }
            log := s.log ++ [.entry (ulpTokenOf word),
              .ack (if alloc then some (ulpAckFrame (ulpTokenOf word)) else none)] }) ∨
        (isUlpSleepEntry word = true ∧ s.common.protocolTxAccess = true ∧
          s' = { s with
            common := { s.common with
              sleepEntryReceived := true, ulpToken := ulpTokenOf word, commonHalTxAccess := true,
              ulpSleepAckSent := false }.wakeWaiters
            log := s.log ++ [.entry (ulpTokenOf word)] }) ∨
        (isUlpSleepEntry word = false ∧
          s' =
            { common := s.common.ulpSleepExit, rx := .exitGrant, log := s.log ++ [.exit] })) := by
  unfold notify at h
  split at h
  · rename_i hrx
    refine ⟨hrx, ?_⟩
    -- bit 0 of the word tells an entry from an exit
    by_cases hentry : isUlpSleepEntry word = true
    · rcases s.common.ulpSleepEntry_cases word alloc with ⟨hprot, heq⟩ | ⟨hprot, heq⟩
      · left
        simp only [hentry, if_true, heq, Option.some.injEq] at h
        exact ⟨hentry, hprot, h.symm⟩
      · right; left
        simp only [hentry, if_true, heq, Option.some.injEq] at h
        exact ⟨hentry, hprot, h.symm⟩
    · right; right
      have hexit : isUlpSleepEntry word = false := by simpa using hentry
      simp only [hexit, Bool.false_eq_true, if_false, Option.some.injEq] at h
      exact ⟨hexit, h.symm⟩
  · cases h

/-- What the receive thread can do inside `sleep_exit_recvd`. -/
theorem Shared.exitStep_cases {s s' : Shared} (h : s.exitStep = some s') :
    (s.rx = .exitGrant ∧
      s' = { common := s.common.grantTxAccess, rx := .exitScan .wlan,
             log := s.log ++ [.access] }) ∨
    (∃ id, s.rx = .exitScan id ∧
      s' = { s with common := s.common.setWaitFlag id false, rx := .afterScan id }) := by
  unfold exitStep at h
  split at h
  · cases h
  · rename_i hrx
    left
    exact ⟨hrx, (Option.some.inj h).symm⟩
  · rename_i id hrx
    right
    exact ⟨id, hrx, (Option.some.inj h).symm⟩

/-! ## While an acknowledgement stands, the access is withdrawn -/

/-- The last thing that happened is an acknowledgement: since then neither has a sleep exit
given the access back nor has a new sleep entry arrived. -/
def Asleep (log : List UlpEvent) : Prop := ∃ frame, log.getLast? = some (.ack frame)

theorem not_asleep_nil : ¬ Asleep [] := by
  rintro ⟨frame, h⟩
  cases h

theorem not_asleep_concat {log : List UlpEvent} {e : UlpEvent} (he : ∀ frame, e ≠ .ack frame) :
    ¬ Asleep (log ++ [e]) := by
  rintro ⟨frame, h⟩
  exact he frame (by simpa using h)

/-- In every run, the host has withdrawn its own access while an acknowledgement stands. -/
theorem access_eq_false_of_asleep {s : Shared} (h : Shared.system.Reachable s)
    (hasleep : Asleep s.log) : s.common.commonHalTxAccess = false := by
  refine TransitionSystem.ReachableVia.invariant h
    (fun s => Asleep s.log → s.common.commonHalTxAccess = false) ?_ ?_ hasleep
  · rintro s ⟨txAccess, rfl⟩ hbad
    exact absurd hbad not_asleep_nil
  · intro s a s' ih _ hs hlast
    -- a step that ends in an acknowledgement withdraws the access; the others either leave the
    -- history alone or end it with something else
    cases a with
    | setIntention id =>
      obtain rfl := Option.some.inj hs
      exact ih hlast
    | clrIntention id alloc =>
      obtain rfl := Option.some.inj hs
      rcases s.clrIntention_cases id alloc with ⟨heq, -⟩ | ⟨heq, -⟩
      · rw [heq] at hlast ⊢
        exact ih hlast
      · rw [heq]
    | setWait id =>
      obtain rfl := Option.some.inj hs
      exact ih hlast
    | notify word alloc =>
      obtain ⟨-, ⟨-, -, rfl⟩ | ⟨-, -, rfl⟩ | ⟨-, rfl⟩⟩ := Shared.notify_cases hs
      · rfl
      · exact absurd hlast (not_asleep_concat (by simp))
      · exact absurd hlast (not_asleep_concat (by simp))
    | exitStep =>
      rcases Shared.exitStep_cases hs with ⟨-, rfl⟩ | ⟨id, -, rfl⟩
      · exact absurd hlast (not_asleep_concat (by simp))
      · exact ih hlast

end PowerSave
