import Mathlib.Logic.Function.Basic
import RsiDriver.ToMathlib.TransitionSystem

/-!
# Procedures that lock and unlock a mutex

`LockM` is the monad of procedures that use one mutex: a result and the operations on the mutex on
the way to it. A procedure is *balanced* when it unlocks only what it locked itself and returns
without the lock. Threads that call balanced procedures, one after the other and interleaved in any
order, exclude one another.

## Main results

* `LockM.exec_bind` and its neighbours: the operations of a procedure, statement by statement;
* `Threads.safe_of_balanced`: no thread unlocks for another, and none keeps the lock.
-/

/-- An operation on a mutex. -/
inductive MutexOp
  | lock
  | unlock
  deriving DecidableEq, Repr

namespace MutexOp

/-- Replay the operations of one procedure that holds the lock or not, and tell whether it holds
the lock behind them; `none` when it locks what it holds or unlocks what it does not hold. -/
def replay : Bool → List MutexOp → Option Bool
  | held, [] => some held
  | false, .lock :: ops => replay true ops
  | true, .unlock :: ops => replay false ops
  | true, .lock :: _ => none
  | false, .unlock :: _ => none

@[simp]
theorem replay_nil (held : Bool) : replay held [] = some held := by cases held <;> rfl

@[simp]
theorem replay_lock (held : Bool) (ops : List MutexOp) :
    replay held (.lock :: ops) = if held then none else replay true ops := by
  cases held <;> rfl

@[simp]
theorem replay_unlock (held : Bool) (ops : List MutexOp) :
    replay held (.unlock :: ops) = if held then replay false ops else none := by
  cases held <;> rfl

theorem replay_append (held : Bool) (as bs : List MutexOp) :
    replay held (as ++ bs) = (replay held as).bind (replay · bs) := by
  induction as generalizing held with
  | nil => simp
  | cons a as ih => cases a <;> cases held <;> simp [ih]

/-- The procedure unlocks only what it locked, and returns without the lock. -/
def LockBalanced (ops : List MutexOp) : Prop := replay false ops = some false

instance (ops : List MutexOp) : Decidable (LockBalanced ops) :=
  inferInstanceAs (Decidable (_ = _))

/-- What is left of a procedure tells whether it holds the lock. -/
theorem replay_unique {ops : List MutexOp} {held held' : Bool}
    (h : replay held ops = some false) (h' : replay held' ops = some false) : held = held' := by
  cases ops with
  | nil => simp_all
  | cons op ops => cases op <;> cases held <;> cases held' <;> simp_all

end MutexOp

/-! ## The monad -/

/-- A procedure: its result, and the operations on the mutex on the way. -/
structure LockM (α : Type*) where
  val : α
  ops : List MutexOp

namespace LockM

open MutexOp

variable {α β : Type} {c : Prop} [Decidable c]

instance : Monad LockM where
  pure a := ⟨a, []⟩
  bind p f := ⟨(f p.val).val, p.ops ++ (f p.val).ops⟩

/-- `mutex_lock` -/
def lock : LockM Unit := ⟨(), [.lock]⟩

/-- `mutex_unlock` -/
def unlock : LockM Unit := ⟨(), [.unlock]⟩

/-- Whether the lock is held behind the procedure, if it is held before it or not. -/
def exec (p : LockM α) (held : Bool) : Option Bool := replay held p.ops

@[simp]
theorem val_pure (a : α) : (pure a : LockM α).val = a := rfl

@[simp]
theorem val_bind (p : LockM α) (f : α → LockM β) : (p >>= f).val = (f p.val).val := rfl

@[simp]
theorem val_ite (p q : LockM α) : (if c then p else q).val = if c then p.val else q.val := by
  split <;> rfl

@[simp]
theorem exec_pure (a : α) (held : Bool) : (pure a : LockM α).exec held = some held :=
  replay_nil held

@[simp]
theorem exec_bind (p : LockM α) (f : α → LockM β) (held : Bool) :
    (p >>= f).exec held = (p.exec held).bind fun held => (f p.val).exec held :=
  replay_append held p.ops (f p.val).ops

@[simp]
theorem exec_ite (p q : LockM α) (held : Bool) :
    (if c then p else q).exec held = if c then p.exec held else q.exec held := by
  split <;> rfl

@[simp]
theorem exec_lock (held : Bool) : lock.exec held = if held then none else some true := by
  simp [lock, exec]

@[simp]
theorem exec_unlock (held : Bool) : unlock.exec held = if held then some false else none := by
  simp [unlock, exec]

theorem balanced_ops {p : LockM α} : LockBalanced p.ops ↔ p.exec false = some false := Iff.rfl

end LockM

/-! ## Threads -/

/-- Threads that share the mutex. The last two fields record what must not happen: a thread unlocked
the mutex without owning it, or returned from a procedure as its owner. -/
structure Threads (T : Type*) where
  owner : Option T
  /-- What is left of the procedure that a thread is in. -/
  prog : T → Option (List MutexOp)
  foreign : Bool
  leaked : Bool

/-- The threads start procedures, and take one operation at a time. -/
inductive ThreadAct (T C : Type*)
  | call (t : T) (c : C)
  | next (t : T)
  | ret (t : T)
  deriving DecidableEq

namespace Threads

open MutexOp

variable {T C : Type*} [DecidableEq T] (ops : C → List MutexOp)

/-- A step of one thread. `mutex_lock` waits until the mutex is free, `mutex_unlock` frees it
whoever calls it. -/
def step (s : Threads T) : ThreadAct T C → Option (Threads T)
  | .call t c =>
    match s.prog t with
    | none => some { s with prog := Function.update s.prog t (some (ops c)) }
    | some _ => none
  | .next t =>
    match s.prog t with
    | some (.lock :: rest) =>
      if s.owner = none then
        some { s with owner := some t, prog := Function.update s.prog t (some rest) }
      else none
    | some (.unlock :: rest) =>
      some { s with
        owner := none
        prog := Function.update s.prog t (some rest)
        foreign := s.foreign || decide (s.owner ≠ some t) }
    | some [] | none => none
  | .ret t =>
    match s.prog t with
    | some [] =>
      some { s with
        prog := Function.update s.prog t none
        leaked := s.leaked || decide (s.owner = some t) }
    | some (_ :: _) | none => none

/-- No thread is in a procedure, and the mutex is free. -/
def start : Threads T := ⟨none, fun _ => none, false, false⟩

/-- Runs of the threads, where the procedure `c` has the operations `ops c`. -/
def system : TransitionSystem (Threads T) (ThreadAct T C) where
  Init s := s = start
  step := step ops

/-- The thread is between its `mutex_lock` and its `mutex_unlock`. -/
def InSection (s : Threads T) (t : T) : Prop :=
  ∃ rest, s.prog t = some rest ∧ replay true rest = some false

/-- No thread ended the critical section of another one, none returned with the lock, and at most
one is in its critical section. -/
structure Safe (s : Threads T) : Prop where
  foreign : s.foreign = false
  leaked : s.leaked = false
  exclusive : ∀ t u, s.InSection t → s.InSection u → t = u

/-- The procedures that are started are balanced. -/
def CallsBalanced : Threads T → ThreadAct T C → Prop
  | _, .call _ c => LockBalanced (ops c)
  | _, .next _ | _, .ret _ => True

/-- What is left of each procedure is balanced, from whether its thread owns the mutex. -/
structure Inv (s : Threads T) : Prop where
  foreign : s.foreign = false
  leaked : s.leaked = false
  idle : ∀ t, s.prog t = none → s.owner ≠ some t
  busy : ∀ t rest, s.prog t = some rest → replay (decide (s.owner = some t)) rest = some false

variable {ops} {s s' : Threads T}

namespace Inv

theorem inSection (hinv : s.Inv) {t : T} (h : s.InSection t) : s.owner = some t := by
  obtain ⟨rest, hprog, hrest⟩ := h
  have heq := replay_unique (hinv.busy t rest hprog) hrest
  simpa using heq

theorem safe (hinv : s.Inv) : s.Safe where
  foreign := hinv.foreign
  leaked := hinv.leaked
  exclusive t u ht hu := by
    have h := (hinv.inSection ht).symm.trans (hinv.inSection hu)
    simpa using h

theorem start : (start : Threads T).Inv where
  foreign := rfl
  leaked := rfl
  idle t _ := by simp [Threads.start]
  busy t rest h := by simp [Threads.start] at h

theorem call {t : T} {c : C} (hinv : s.Inv) (hprog : s.prog t = none) (hc : LockBalanced (ops c)) :
    Inv { s with prog := Function.update s.prog t (some (ops c)) } where
  foreign := hinv.foreign
  leaked := hinv.leaked
  idle u hu := by
    by_cases h : u = t
    · subst h
      simp at hu
    · exact hinv.idle u (by simpa [h] using hu)
  busy u rest hu := by
    by_cases h : u = t
    · -- `t` was idle, so that it does not own the mutex
      subst h
      obtain rfl : ops c = rest := by simpa using hu
      have hne := hinv.idle u hprog
      simpa [hne, LockBalanced] using hc
    · exact hinv.busy u rest (by simpa [h] using hu)

/-- The owner is the thread itself after its `mutex_lock`, and nobody after its `mutex_unlock`;
the other threads do not own the mutex before and after. -/
theorem next {t : T} {op : MutexOp} {rest : List MutexOp} {o : Option T} (hinv : s.Inv)
    (hself : replay (decide (o = some t)) rest = some false)
    (hothers : ∀ u, u ≠ t → s.owner ≠ some u ∧ o ≠ some u)
    (hprog : s.prog t = some (op :: rest)) :
    Inv { s with owner := o, prog := Function.update s.prog t (some rest) } where
  foreign := hinv.foreign
  leaked := hinv.leaked
  idle u hu := by
    by_cases h : u = t
    · subst h
      simp at hu
    · exact (hothers u h).2
  busy u rest' hu := by
    by_cases h : u = t
    · subst h
      obtain rfl : rest = rest' := by simpa using hu
      exact hself
    · have hbusy := hinv.busy u rest' (by simpa [h] using hu)
      simpa [hothers u h] using hbusy

theorem ret {t : T} (hinv : s.Inv) (hprog : s.prog t = some []) :
    s.owner ≠ some t ∧ Inv { s with prog := Function.update s.prog t none } := by
  have howner : s.owner ≠ some t := by simpa using hinv.busy t [] hprog
  refine ⟨howner, { hinv with idle := fun u hu => ?_, busy := fun u rest hu => ?_ }⟩
  · by_cases h : u = t
    · subst h
      exact howner
    · exact hinv.idle u (by simpa [h] using hu)
  · by_cases h : u = t
    · subst h
      simp at hu
    · exact hinv.busy u rest (by simpa [h] using hu)

end Inv

theorem inv_step {a : ThreadAct T C} (hinv : s.Inv) (hcalls : CallsBalanced ops s a)
    (hstep : step ops s a = some s') : s'.Inv := by
  cases a with
  | call t c =>
    simp only [step] at hstep
    split at hstep
    case h_1 hprog =>
      obtain rfl := Option.some.inj hstep
      exact hinv.call hprog hcalls
    case h_2 => cases hstep
  | next t =>
    simp only [step] at hstep
    split at hstep
    case h_1 rest hprog =>
      split at hstep
      -- nobody owns the mutex before, and no other thread after
      case isTrue hfree =>
        obtain rfl := Option.some.inj hstep
        have hrest := hinv.busy t _ hprog
        refine hinv.next ?_ (fun u hu => ?_) hprog
        · simpa [hfree] using hrest
        · simpa [hfree] using Ne.symm hu
      case isFalse => cases hstep
    case h_2 rest hprog =>
      obtain rfl := Option.some.inj hstep
      have hrest := hinv.busy t _ hprog
      -- what is left of the procedure is balanced only if the thread owns the mutex
      by_cases howner : s.owner = some t
      · have hnext := hinv.next (o := none) ?_ (fun u hu => ?_) hprog
        · simpa [howner] using hnext
        · simpa [howner] using hrest
        · simpa [howner] using Ne.symm hu
      · simp [howner] at hrest
    case h_3 => cases hstep
    case h_4 => cases hstep
  | ret t =>
    simp only [step] at hstep
    split at hstep
    case h_1 hprog =>
      obtain rfl := Option.some.inj hstep
      have ⟨howner, hret⟩ := hinv.ret hprog
      simpa [howner] using hret
    case h_2 => cases hstep
    case h_3 => cases hstep

/-- Threads that start balanced procedures only exclude one another. -/
theorem safe_of_balanced (h : (system ops).ReachableVia (CallsBalanced ops) s) : s.Safe := by
  refine (h.invariant Inv ?_ ?_).safe
  · rintro _ rfl
    exact .start
  · intro s a s' hinv hcalls hstep
    exact inv_step hinv hcalls hstep

end Threads
