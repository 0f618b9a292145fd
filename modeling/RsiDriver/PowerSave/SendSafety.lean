import Mathlib.Data.Fintype.Basic
import RsiDriver.PowerSave.Senders

/-!
# No packet is written under a sleep acknowledgement

`rsi_send_pkt` must not write to the device between the acknowledgement of a sleep entry and the
next sleep exit. A writer is protected by an intention bit, as long as the bit is its own: a bit
that another thread holds as well is cleared when that thread is done.

The defect has two faces. `rsi_send_pkt` takes no intention when it finds the access granted and
`WLAN_ID` or `BT_ZB_ID` set, whoever set it; and all calls that do take an intention outside a
round share the one bit of `COMMON_ID`.

## Main results

* `not_writeSafe`: a direct caller rides on the intention of the WLAN thread, which ends its
  round, and the acknowledgement slips under the write;
* `writeSafe_of_discipline`: every write is covered in the runs in which a thread relies on a bit
  only when it holds it, and takes `COMMON_ID` only when no other call has it.
-/

namespace PowerSave

/-! ## Which intention a thread holds -/

/-- The call of `set_clr_tx_intention` a position is inside of. -/
def Pc.call : Pc → Option Caller
  | .idle | .lockBus _ | .writing _ => none
  | .setIntention c | .testAccess c | .setWait c | .waiting c | .retest c | .clear c => some c

/-- The protocol id whose bit a position inside a call relies on. -/
def Pc.heldId : Pc → Option TechId
  | .idle | .setIntention _ => none
  | .testAccess c | .setWait c | .waiting c | .retest c | .clear c => some c.id
  | .lockBus took | .writing took => if took then some .common else none

/-- The protocol id whose bit the next step of a call sets. -/
def Pc.takes : Pc → Option TechId
  | .setIntention c => some c.id
  | _ => none

/-- The thread has set the bit of `id` and will clear it: by the call it is in, or at the end of
its round. -/
def Task.Holds (task : Task) (id : TechId) : Prop :=
  task.pc.heldId = some id ∨ task.round.map RoundId.tech = some id

instance (task : Task) (id : TechId) : Decidable (task.Holds id) :=
  inferInstanceAs (Decidable (_ ∨ _))

/-- The thread passed the test of `common_hal_tx_access` and relies on it: in a round, or on the
way to `write_pkt`. -/
def Task.Granted (task : Task) : Prop :=
  task.round ≠ none ∨ ∃ took, task.pc = .lockBus took ∨ task.pc = .writing took

/-- What holds of a single thread: the calls around a round are made outside it, and a thread
that relies on the access has a bit set for it. -/
structure Task.WellFormed (task : Task) : Prop where
  outside : ∀ l, task.pc.call = some (.round l) → task.round = none
  covered : task.Granted → ∃ id, task.Holds id

variable {ι : Type*} [DecidableEq ι]

/-- Every thread inside `write_pkt` has the access, the device has not been told otherwise since
the last sleep exit, and the thread's own intention bit is set and held by no other thread. -/
def WriteSafe (s : Sys ι) : Prop :=
  ∀ t took, (s.task t).pc = .writing took →
    s.shared.common.commonHalTxAccess = true ∧ ¬ Asleep s.shared.log ∧
      ∃ id, (s.task t).Holds id ∧ (s.shared.common.techs id).txIntention = true ∧
        ∀ u, u ≠ t → ¬ (s.task u).Holds id

/-- The condition on each step. A call of `rsi_send_pkt` that takes no intention is made inside
the caller's own round, and an intention is taken only when no other thread holds it. -/
def SendDiscipline (s : Sys ι) : Act ι → Prop
  | .sendPkt t => s.fastPath = true → (s.task t).round ≠ none
  | .advance t _ => ∀ id ∈ (s.task t).pc.takes, ∀ u, u ≠ t → ¬ (s.task u).Holds id
  | _ => True

/-! ## The write under an acknowledgement -/

/-- The direct caller finds the bit of the WLAN thread set and takes none; the WLAN thread ends its
round; the device asks for sleep and is answered; the direct caller writes. -/
def rideSchedule : List (Act Thread) :=
  [.startRound .wlan, .advance .wlan true, .advance .wlan true, .sendPkt .direct,
    .endRound .wlan, .advance .wlan true, .notify 0x51 true, .advance .direct true]

/-- The driver writes a packet after it acknowledged a sleep entry and before any exit. -/
theorem not_writeSafe :
    ¬ ∀ s, (Sys.system wlanAndDirect).Reachable s → WriteSafe s := by
  refine TransitionSystem.not_forall_reachable_of_run rideSchedule
    (Sys.init_start wlanAndDirect true) rfl fun hsafe => ?_
  obtain ⟨-, hawake, -⟩ := hsafe .direct false rfl
  exact hawake ⟨some (ulpAckFrame 5), rfl⟩

/-! ## The invariant of disciplined runs -/

/-- A held bit is set and has one holder, and whoever relies on the access has it. -/
structure SendInv (s : Sys ι) : Prop where
  wellFormed : ∀ t, (s.task t).WellFormed
  bit : ∀ t id, (s.task t).Holds id → (s.shared.common.techs id).txIntention = true
  excl : ∀ t u id, (s.task t).Holds id → (s.task u).Holds id → t = u
  access : ∀ t, (s.task t).Granted → s.shared.common.commonHalTxAccess = true

omit [DecidableEq ι] in
/-- While no bit is set, no thread relies on the access. -/
theorem SendInv.not_granted {s : Sys ι} (hinv : SendInv s)
    (hprot : s.shared.common.protocolTxAccess = false) (t : ι) : ¬ (s.task t).Granted := by
  intro hgranted
  obtain ⟨id, hid⟩ := (hinv.wellFormed t).covered hgranted
  have hbit := hinv.bit t id hid
  rw [Common.protocolTxAccess_eq_false_iff.1 hprot id] at hbit
  cases hbit

theorem Task.wellFormed_idle : (⟨.idle, none⟩ : Task).WellFormed where
  outside l h := rfl
  covered h := by simp [Granted] at h

/-- A thread in a round holds the round's id. -/
theorem Task.exists_holds_of_round {task : Task} (h : task.round ≠ none) :
    ∃ id, task.Holds id := by
  obtain ⟨l, hl⟩ := Option.ne_none_iff_exists'.1 h
  exact ⟨l.tech, .inr (by rw [hl]; rfl)⟩

/-- A move keeps a thread well formed. -/
theorem Move.wellFormed {alloc : Bool} {sh sh' : Shared} {task task' : Task}
    (h : Move alloc sh task task' sh') (hwf : task.WellFormed) : task'.WellFormed := by
  have hout := hwf.outside
  cases h with
  -- inside a call the thread relies on the bit of the call
  | setIntention c round => exact ⟨hout, fun _ => ⟨c.id, .inl rfl⟩⟩
  | noAccess c round => exact ⟨hout, fun _ => ⟨c.id, .inl rfl⟩⟩
  | setWait c round => exact ⟨hout, fun _ => ⟨c.id, .inl rfl⟩⟩
  | woken c round => exact ⟨hout, fun _ => ⟨c.id, .inl rfl⟩⟩
  | granted c pc round hpc =>
    -- a scheduler thread enters its round with the bit, `rsi_send_pkt` goes on with `COMMON_ID`
    cases c with
    | round l => exact ⟨by simp [Caller.granted, Pc.call], fun _ => ⟨l.tech, .inr rfl⟩⟩
    | sendPkt => exact ⟨by simp [Caller.granted, Pc.call], fun _ => ⟨.common, .inl rfl⟩⟩
  | failed c round | timedOut c round =>
    cases c with
    | round l => exact ⟨fun _ _ => rfl, fun _ => ⟨l.tech, .inl rfl⟩⟩
    | sendPkt =>
      -- the bit stays set, but the thread relies on nothing except its round
      refine ⟨by simp [Caller.failed, Pc.call], fun hgranted => Task.exists_holds_of_round ?_⟩
      simpa [Caller.failed, Task.Granted] using hgranted
  | lockBus took round =>
    exact ⟨by simp [Pc.call], fun _ => hwf.covered (.inr ⟨took, .inl rfl⟩)⟩
  | writing took round =>
    cases took with
    | true => exact ⟨by simp [Pc.call], fun _ => ⟨.common, .inl rfl⟩⟩
    | false => exact ⟨by simp [Pc.call], fun _ => hwf.covered (.inr ⟨false, .inr rfl⟩)⟩
  | clear c round =>
    refine ⟨by simp [Pc.call], fun hgranted => Task.exists_holds_of_round ?_⟩
    simpa [Task.Granted] using hgranted

/-- A move makes a thread hold nothing new, unless it takes an intention. -/
theorem Move.holds {alloc : Bool} {sh sh' : Shared} {task task' : Task}
    (h : Move alloc sh task task' sh') {id : TechId} (hid : task'.Holds id) :
    task.Holds id ∨ task.pc.takes = some id := by
  cases h with
  | setIntention c round =>
    rcases hid with hid | hid
    · exact .inr hid
    · exact .inl (.inr hid)
  | noAccess | setWait | woken | lockBus => exact .inl hid
  | granted c pc round hpc =>
    left
    -- before both tests the thread holds the bit of its call
    have hheld : pc.heldId = some c.id := by rcases hpc with rfl | rfl <;> rfl
    cases c with
    | round l =>
      rcases hid with hid | hid
      · cases hid
      · exact .inl (hheld.trans hid)
    | sendPkt => exact hid.imp_left fun h => hheld.trans h
  | failed c round | timedOut c round =>
    left
    cases c with
    | round l =>
      rcases hid with hid | hid
      · exact .inl hid
      · cases hid
    | sendPkt => exact .inr (by simpa [Caller.failed, Task.Holds, Pc.heldId] using hid)
  | writing took round =>
    left
    cases took with
    | true => exact hid
    | false => exact .inr (by simpa [Task.Holds, Pc.heldId] using hid)
  | clear c round => exact .inl (.inr (by simpa [Task.Holds, Pc.heldId] using hid))

/-- A thread that has cleared an intention does not hold it any more. -/
theorem Task.not_holds_of_clear {c : Caller} {round : Option RoundId}
    (hwf : (⟨.clear c, round⟩ : Task).WellFormed) : ¬ (⟨.idle, round⟩ : Task).Holds c.id := by
  rintro (hid | hid)
  · cases hid
  · cases c with
    | round l =>
      -- the call at the end of a round is made outside it
      obtain rfl : round = none := hwf.outside l rfl
      cases hid
    | sendPkt =>
      obtain ⟨l, -, hl⟩ := Option.map_eq_some_iff.1 hid
      exact l.tech_ne_common hl

/-- A thread passes the test of the access only when it is granted. -/
theorem Move.access {alloc : Bool} {sh sh' : Shared} {task task' : Task}
    (h : Move alloc sh task task' sh') (hgranted : task'.Granted) :
    task.Granted ∨ sh.common.commonHalTxAccess = true := by
  cases h with
  | granted c pc round hpc h => exact .inr h
  | lockBus took round => exact .inl (.inr ⟨took, .inl rfl⟩)
  | writing took round => exact .inl (.inr ⟨took, .inr rfl⟩)
  | failed c round | timedOut c round =>
    left
    cases c with
    | round l => simp [Caller.failed, Task.Granted] at hgranted
    | sendPkt => exact .inl (by simpa [Caller.failed, Task.Granted] using hgranted)
  | setIntention | noAccess | setWait | woken | clear =>
    exact .inl (.inl (by simpa [Task.Granted] using hgranted))

/-! ## Every disciplined step keeps the invariant -/

/-- The invariant survives a move of one thread that leaves the shared state alone, as long as
what the thread newly holds is a set bit that nobody else holds, and it relies on the access only
if it is there. -/
theorem SendInv.setTask {s : Sys ι} (hinv : SendInv s) {t : ι} {task' : Task}
    (hwf : task'.WellFormed)
    (hholds : ∀ id, task'.Holds id → (s.task t).Holds id ∨
      (s.shared.common.techs id).txIntention = true ∧ ∀ u, u ≠ t → ¬ (s.task u).Holds id)
    (haccess : task'.Granted → s.shared.common.commonHalTxAccess = true) :
    SendInv (s.setTask t task') := by
  -- what the thread held before is exclusive by the invariant, what is new by assumption
  have hfree : ∀ {u id}, u ≠ t → task'.Holds id → ¬ (s.task u).Holds id := by
    intro u id hu hid hother
    rcases hholds id hid with hold | ⟨-, hfree⟩
    · exact hu (hinv.excl u t id hother hold)
    · exact hfree u hu hother
  refine ⟨fun u => ?_, fun u id hid => ?_, fun u v id hu hv => ?_, fun u hgranted => ?_⟩
  · by_cases hut : u = t
    · rw [hut, Sys.setTask_task_self]
      exact hwf
    · rw [Sys.setTask_task_of_ne hut]
      exact hinv.wellFormed u
  · by_cases hut : u = t
    · rw [hut, Sys.setTask_task_self] at hid
      exact (hholds id hid).elim (hinv.bit t id) fun h => h.1
    · rw [Sys.setTask_task_of_ne hut] at hid
      exact hinv.bit u id hid
  · by_cases hut : u = t <;> by_cases hvt : v = t
    · rw [hut, hvt]
    · rw [hut, Sys.setTask_task_self] at hu
      rw [Sys.setTask_task_of_ne hvt] at hv
      exact absurd hv (hfree hvt hu)
    · rw [hvt, Sys.setTask_task_self] at hv
      rw [Sys.setTask_task_of_ne hut] at hu
      exact absurd hu (hfree hut hv)
    · rw [Sys.setTask_task_of_ne hut] at hu
      rw [Sys.setTask_task_of_ne hvt] at hv
      exact hinv.excl u v id hu hv
  · by_cases hut : u = t
    · rw [hut, Sys.setTask_task_self] at hgranted
      exact haccess hgranted
    · rw [Sys.setTask_task_of_ne hut] at hgranted
      exact hinv.access u hgranted

omit [DecidableEq ι] in
/-- The invariant survives a change of the shared state and the bus lock that clears no held bit
and withdraws the access from no thread that relies on it. -/
theorem SendInv.setShared {s : Sys ι} (hinv : SendInv s) (shared' : Shared) (lock' : Option ι)
    (hbit : ∀ t id, (s.task t).Holds id → (shared'.common.techs id).txIntention = true)
    (haccess : ∀ t, (s.task t).Granted → shared'.common.commonHalTxAccess = true) :
    SendInv ⟨shared', s.task, lock'⟩ :=
  ⟨hinv.wellFormed, hbit, hinv.excl, haccess⟩

/-- Clearing an intention: the thread stops holding the bit, then the bit is cleared. The access is
withdrawn only when no bit is left. -/
theorem SendInv.clear {s : Sys ι} (hinv : SendInv s) {t : ι} {c : Caller} {round : Option RoundId}
    (htask : s.task t = ⟨.clear c, round⟩) (alloc : Bool) (lock' : Option ι) :
    SendInv ⟨s.shared.clrIntention c.id alloc, Function.update s.task t ⟨.idle, round⟩, lock'⟩ := by
  have hmove :
      Move alloc s.shared (s.task t) ⟨.idle, round⟩ (s.shared.clrIntention c.id alloc) := by
    rw [htask]
    exact .clear c round
  have hold : (⟨.clear c, round⟩ : Task).WellFormed := htask ▸ hinv.wellFormed t
  have hheld : (s.task t).Holds c.id := by
    rw [htask]
    exact .inl rfl
  have hinv' : SendInv (s.setTask t ⟨.idle, round⟩) := by
    refine hinv.setTask (hmove.wellFormed (hinv.wellFormed t)) (fun id hid => .inl ?_) ?_
    · rcases hmove.holds hid with hkept | htakes
      · exact hkept
      · rw [htask] at htakes
        cases htakes
    · exact fun hgranted => (hmove.access hgranted).elim (hinv.access t) id
  have hbit : ∀ u id, ((s.setTask t ⟨.idle, round⟩).task u).Holds id →
      ((s.shared.clrIntention c.id alloc).common.techs id).txIntention = true := by
    intro u id hid
    have hne : id ≠ c.id := by
      rintro rfl
      by_cases hut : u = t
      · rw [hut, Sys.setTask_task_self] at hid
        exact Task.not_holds_of_clear hold hid
      · rw [Sys.setTask_task_of_ne hut] at hid
        exact hut (hinv.excl u t c.id hid hheld)
    rw [Shared.clrIntention_txIntention, if_neg hne]
    exact hinv'.bit u id hid
  refine hinv'.setShared (s.shared.clrIntention c.id alloc) lock' hbit fun u hgranted => ?_
  rcases s.shared.clrIntention_cases c.id alloc with ⟨heq, -⟩ | ⟨heq, -, -, hprot⟩
  · rw [heq]
    exact hinv'.access u hgranted
  · -- the thread relies on a bit that is still set
    obtain ⟨id, hid⟩ := (hinv'.wellFormed u).covered hgranted
    have := hbit u id hid
    rw [heq] at this
    rw [Common.protocolTxAccess_eq_false_iff.1 hprot id] at this
    cases this

/-- A move of one thread keeps the invariant, if the intention it takes is free. -/
theorem SendInv.move {s : Sys ι} (hinv : SendInv s) {t : ι} {alloc : Bool} {task' : Task}
    {shared' : Shared} (lock' : Option ι)
    (hfree : ∀ id ∈ (s.task t).pc.takes, ∀ u, u ≠ t → ¬ (s.task u).Holds id)
    (hmove : Move alloc s.shared (s.task t) task' shared') :
    SendInv ⟨shared', Function.update s.task t task', lock'⟩ := by
  have hwf := hmove.wellFormed (hinv.wellFormed t)
  have hholds : (s.task t).pc.takes = none → ∀ id, task'.Holds id → (s.task t).Holds id := by
    intro hnone id hid
    rcases hmove.holds hid with hold | htakes
    · exact hold
    · simp [hnone] at htakes
  have haccess : task'.Granted → s.shared.common.commonHalTxAccess = true := fun hgranted =>
    (hmove.access hgranted).elim (hinv.access t) id
  generalize htask : s.task t = task at hmove hfree hholds
  cases hmove with
  | setIntention c round =>
    -- the bit is set first, then the thread holds it
    have hset : ∀ id, (s.shared.common.techs id).txIntention = true →
        ((s.shared.setIntention c.id).common.techs id).txIntention = true := by
      intro id hid
      simp [Shared.setIntention, Common.setTxIntention, hid]
    refine SendInv.setTask (hinv.setShared (s.shared.setIntention c.id) lock'
      (fun u id hid => hset id (hinv.bit u id hid)) hinv.access) hwf ?_ haccess
    rintro id (hid | hid)
    · obtain rfl : c.id = id := Option.some.inj hid
      exact .inr ⟨by simp [Shared.setIntention, Common.setTxIntention], hfree c.id rfl⟩
    · exact .inl (htask ▸ .inr hid)
  | setWait c round =>
    refine SendInv.setTask (hinv.setShared (s.shared.setWait c.id) lock'
      (fun u id hid => ?_) hinv.access) hwf (fun id hid => .inl ?_) haccess
    · simpa [Shared.setWait] using hinv.bit u id hid
    · exact htask ▸ hholds rfl id hid
  | clear c round => exact hinv.clear htask alloc lock'
  | granted c pc round hpc =>
    refine SendInv.setTask (hinv.setShared s.shared lock' hinv.bit hinv.access) hwf
      (fun id hid => .inl (htask ▸ hholds ?_ id hid)) haccess
    rcases hpc with rfl | rfl <;> rfl
  | noAccess | woken | failed | timedOut | lockBus | writing =>
    exact SendInv.setTask (hinv.setShared s.shared lock' hinv.bit hinv.access) hwf
      (fun id hid => .inl (htask ▸ hholds rfl id hid)) haccess

/-- A step of the schedule that keeps the discipline keeps the invariant. -/
theorem SendInv.step {role : ι → Role} {s s' : Sys ι} {a : Act ι} (hinv : SendInv s)
    (hdisc : SendDiscipline s a) (h : (Sys.system role).step s a = some s') : SendInv s' := by
  cases a with
  | startRound t =>
    obtain ⟨l, htask, rfl⟩ := Sys.startRound_cases h
    refine hinv.setTask ⟨fun _ _ => rfl, ?_⟩ ?_ ?_ <;>
      simp [Task.Granted, Task.Holds, Pc.heldId]
  | endRound t =>
    obtain ⟨l, htask, rfl⟩ := Sys.endRound_cases h
    refine hinv.setTask ⟨fun _ _ => rfl, by simp [Task.Granted]⟩ (fun id hid => .inl ?_)
      (by simp [Task.Granted])
    rw [htask]
    rcases hid with hid | hid
    · exact .inr hid
    · cases hid
  | sendPkt t =>
    obtain ⟨hpc, ⟨hfast, rfl⟩ | ⟨-, rfl⟩⟩ := Sys.sendPkt_cases h
    · have hround := hdisc hfast
      refine hinv.setTask ⟨by simp [Pc.call], fun _ => Task.exists_holds_of_round hround⟩
        (fun id hid => .inl ?_) (fun _ => hinv.access t (.inl hround))
      exact .inr (by simpa [Task.Holds, Pc.heldId] using hid)
    · refine hinv.setTask ⟨by simp [Pc.call], fun hgranted => ?_⟩ (fun id hid => .inl ?_)
        fun hgranted => hinv.access t ?_
      · exact Task.exists_holds_of_round (by simpa [Task.Granted] using hgranted)
      · exact .inr (by simpa [Task.Holds, Pc.heldId] using hid)
      · exact .inl (by simpa [Task.Granted] using hgranted)
  | advance t alloc =>
    obtain ⟨task', shared', lock', hmove, rfl⟩ := Sys.advance_cases h
    exact hinv.move lock' hdisc hmove
  | timeout t =>
    obtain ⟨c, task', hpc, hmove, rfl⟩ := Sys.timeout_cases true h
    exact hinv.move s.txBusLock (by simp [hpc, Pc.takes]) hmove
  | notify word alloc =>
    obtain ⟨shared', hs, rfl⟩ := Option.map_eq_some_iff.1 h
    obtain ⟨-, ⟨-, hprot, rfl⟩ | ⟨-, -, rfl⟩ | ⟨-, rfl⟩⟩ := Shared.notify_cases hs
    · exact hinv.setShared _ _ hinv.bit fun t hgranted => absurd hgranted (hinv.not_granted hprot t)
    · exact hinv.setShared _ _ hinv.bit fun _ _ => rfl
    · exact hinv.setShared _ _ hinv.bit hinv.access
  | exitStep =>
    obtain ⟨shared', hs, rfl⟩ := Option.map_eq_some_iff.1 h
    rcases Shared.exitStep_cases hs with ⟨-, rfl⟩ | ⟨id, -, rfl⟩
    · exact hinv.setShared _ _ hinv.bit fun _ _ => rfl
    · refine hinv.setShared _ _ (fun t id hid => ?_) hinv.access
      simpa using hinv.bit t id hid

omit [DecidableEq ι] in
theorem SendInv.start (txAccess : Bool) : SendInv (Sys.start txAccess : Sys ι) where
  wellFormed _ := Task.wellFormed_idle
  bit t id hid := by simp [Sys.start, Task.Holds, Pc.heldId] at hid
  excl t u id hid := by simp [Sys.start, Task.Holds, Pc.heldId] at hid
  access t hgranted := by simp [Sys.start, Task.Granted] at hgranted

/-- In every run that keeps the discipline, every packet is written with the access granted, no
acknowledgement standing, and the writer's own intention bit set. -/
theorem writeSafe_of_discipline (role : ι → Role) {s : Sys ι}
    (h : (Sys.system role).ReachableVia SendDiscipline s) : WriteSafe s := by
  have hinv : SendInv s := by
    refine h.invariant SendInv ?_ fun s a s' hinv hdisc hstep => hinv.step hdisc hstep
    rintro s ⟨txAccess, rfl⟩
    exact SendInv.start txAccess
  intro t took hpc
  have hgranted : (s.task t).Granted := .inr ⟨took, .inr hpc⟩
  have haccess := hinv.access t hgranted
  obtain ⟨id, hid⟩ := (hinv.wellFormed t).covered hgranted
  refine ⟨haccess, fun hasleep => ?_, id, hid, hinv.bit t id hid, fun u hut hu => ?_⟩
  · have hshared := (sharedSimulation role).reachable h.reachable
    rw [access_eq_false_of_asleep hshared hasleep] at haccess
    cases haccess
  · exact hut (hinv.excl u t id hu hid)

instance [Fintype ι] (s : Sys ι) (a : Act ι) : Decidable (SendDiscipline s a) :=
  match a with
  | .startRound _ => inferInstanceAs (Decidable True)
  | .endRound _ => inferInstanceAs (Decidable True)
  | .sendPkt _ => inferInstanceAs (Decidable (_ = _ → _ ≠ _))
  | .advance t _ => inferInstanceAs (Decidable (∀ id ∈ (s.task t).pc.takes, ∀ u, u ≠ t → ¬ _))
  | .timeout _ => inferInstanceAs (Decidable True)
  | .notify _ _ => inferInstanceAs (Decidable True)
  | .exitStep => inferInstanceAs (Decidable True)

/-- A direct caller takes `COMMON_ID` and is in `write_pkt` when an entry is denied. -/
def commonSchedule : List (Act Thread) :=
  [.sendPkt .direct, .advance .direct true, .advance .direct true, .advance .direct true,
    .notify 0x51 true]

/-- The state at the end of `commonSchedule`. -/
def commonState : Sys Thread :=
  ((Sys.system wlanAndDirect).runVia SendDiscipline (.start true) commonSchedule).get rfl

/-- The discipline is kept by a run in which a packet is written while an entry is pending. -/
theorem writeSafe_commonState :
    (commonState.task .direct).pc = .writing true ∧ WriteSafe commonState :=
  ⟨rfl, writeSafe_of_discipline wlanAndDirect
    (TransitionSystem.reachableVia_get (Sys.init_start wlanAndDirect true) rfl)⟩

end PowerSave
