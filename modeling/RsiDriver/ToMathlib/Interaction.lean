import Mathlib.Tactic.TypeStar

/-!
# Programs that talk to their surroundings

A program performs actions, one after the other, and goes on with the answer that each of them
gets. Its runs are the lists of actions and answers that are possible, whatever the surroundings
answer. A *monitor* watches a run: it steps from state to state with each event, or refuses the
event. What a program ensures with respect to a monitor is found along the program, statement by
statement.

## Main results

* `Program.runs_bind`: the runs of a sequence of two programs;
* `Program.Uses.of_runs`: what actions a run consists of;
* `Program.ensures_bind` and its neighbours: what a program ensures, statement by statement;
* `Program.Ensures.of_runs`: what is ensured holds of every run;
* `Program.runs_execute`: against given surroundings a program has a run.
-/

namespace Interaction

/-- The actions of a program, and the answers that each of them may get. -/
structure Signature where
  Op : Type
  Ans : Op → Type

/-- An action and the answer that it got. -/
structure Event (S : Signature) where
  op : S.Op
  ans : S.Ans op

/-- A program over a signature. -/
inductive Program (S : Signature) (α : Type)
  | done (a : α)
  | perform (op : S.Op) (next : S.Ans op → Program S α)

namespace Program

variable {S : Signature} {α β : Type}

def bind : Program S α → (α → Program S β) → Program S β
  | done a, f => f a
  | perform op next, f => perform op fun ans => (next ans).bind f

instance instMonad : Monad (Program S) where
  pure := done
  bind := bind

/-- A single action. -/
def request (op : S.Op) : Program S (S.Ans op) := perform op done

@[simp]
theorem pure_bind' (a : α) (f : α → Program S β) : (pure a : Program S α) >>= f = f a := rfl

theorem request_bind (op : S.Op) (f : S.Ans op → Program S β) :
    request op >>= f = perform op f := rfl

theorem bind_assoc' {γ : Type} (p : Program S α) (f : α → Program S β) (g : β → Program S γ) :
    p >>= f >>= g = p >>= fun a => f a >>= g := by
  induction p with
  | done a => rfl
  | perform op next ih => exact congrArg (perform op) (funext ih)

/-! ## Runs -/

/-- A run of a program: its events and what it returns. -/
inductive Runs : Program S α → List (Event S) → α → Prop
  | done (a : α) : Runs (.done a) [] a
  | perform {op : S.Op} {next : S.Ans op → Program S α} (ans : S.Ans op) {events : List (Event S)}
      {a : α} : Runs (next ans) events a → Runs (.perform op next) (⟨op, ans⟩ :: events) a

theorem runs_pure_iff {a b : α} {events : List (Event S)} :
    Runs (pure a) events b ↔ events = [] ∧ b = a := by
  constructor
  · rintro ⟨⟩
    exact ⟨rfl, rfl⟩
  · rintro ⟨rfl, rfl⟩
    exact .done _

theorem runs_perform_iff {op : S.Op} {next : S.Ans op → Program S α} {events : List (Event S)}
    {a : α} : Runs (perform op next) events a ↔
      ∃ ans rest, events = ⟨op, ans⟩ :: rest ∧ Runs (next ans) rest a := by
  constructor
  · intro h
    cases h with
    | perform ans hrest => exact ⟨ans, _, rfl, hrest⟩
  · rintro ⟨ans, rest, rfl, h⟩
    exact .perform ans h

theorem runs_request_iff {op : S.Op} {ans : S.Ans op} {events : List (Event S)} :
    Runs (request op) events ans ↔ events = [⟨op, ans⟩] := by
  rw [request, runs_perform_iff]
  constructor
  · rintro ⟨ans', rest, rfl, h⟩
    obtain ⟨rfl, rfl⟩ := runs_pure_iff.1 h
    rfl
  · rintro rfl
    exact ⟨ans, [], rfl, .done ans⟩

/-- A run of a sequence is a run of its first part, and behind it a run of its second part. -/
theorem runs_bind {p : Program S α} {f : α → Program S β} {events : List (Event S)} {b : β} :
    Runs (p >>= f) events b ↔
      ∃ before after a, events = before ++ after ∧ Runs p before a ∧ Runs (f a) after b := by
  induction p generalizing events with
  | done a =>
    constructor
    · intro h
      exact ⟨[], events, a, rfl, .done a, h⟩
    · rintro ⟨before, after, a', rfl, hp, hf⟩
      obtain ⟨rfl, rfl⟩ := runs_pure_iff.1 hp
      exact hf
  | perform op next ih =>
    constructor
    · intro h
      obtain ⟨ans, rest, rfl, hrest⟩ := runs_perform_iff.1 h
      obtain ⟨before, after, a, rfl, hp, hf⟩ := (ih ans).1 hrest
      exact ⟨⟨op, ans⟩ :: before, after, a, rfl, .perform ans hp, hf⟩
    · rintro ⟨before, after, a, rfl, hp, hf⟩
      obtain ⟨ans, rest, rfl, hrest⟩ := runs_perform_iff.1 hp
      exact .perform ans ((ih ans).2 ⟨rest, after, a, rfl, hrest, hf⟩)

/-- Run a program against surroundings that answer each action by what has happened before. -/
def execute (device : List (Event S) → (op : S.Op) → S.Ans op) :
    List (Event S) → Program S α → List (Event S) × α
  | _, done a => ([], a)
  | history, perform op next =>
    let event : Event S := ⟨op, device history op⟩
    let rest := execute device (history ++ [event]) (next event.ans)
    (event :: rest.1, rest.2)

theorem runs_execute (device : List (Event S) → (op : S.Op) → S.Ans op) (history : List (Event S))
    (p : Program S α) :
    Runs p (execute device history p).1 (execute device history p).2 := by
  induction p generalizing history with
  | done a => exact .done a
  | perform op next ih => exact .perform _ (ih _ _)

/-! ## The actions of a program -/

/-- Every action that the program may perform is an allowed one. -/
def Uses (allowed : S.Op → Prop) : Program S α → Prop
  | done _ => True
  | perform op next => allowed op ∧ ∀ ans, Uses allowed (next ans)

variable {allowed : S.Op → Prop}

@[simp]
theorem uses_pure (a : α) : Uses allowed (pure a : Program S α) := trivial

@[simp]
theorem uses_request {op : S.Op} : Uses allowed (request op) ↔ allowed op :=
  and_iff_left fun _ => trivial

theorem Uses.bind {p : Program S α} {f : α → Program S β} (hp : Uses allowed p)
    (hf : ∀ a, Uses allowed (f a)) : Uses allowed (p >>= f) := by
  induction p with
  | done a => exact hf a
  | perform op next ih => exact ⟨hp.1, fun ans => ih ans (hp.2 ans)⟩

theorem Uses.of_runs {p : Program S α} {events : List (Event S)} {a : α} (h : Uses allowed p)
    (hrun : Runs p events a) : ∀ event ∈ events, allowed event.op := by
  induction hrun with
  | done a => exact fun _ hmem => absurd hmem List.not_mem_nil
  | perform ans _ ih => exact List.forall_mem_cons.2 ⟨h.1, ih (h.2 ans)⟩

/-! ## Monitors -/

variable {σ : Type*} {step : σ → Event S → Option σ}

/-- From state `s` on the monitor refuses no event of the program, and what it returns and the state
behind it satisfy a condition. -/
def Ensures (step : σ → Event S → Option σ) (s : σ) : Program S α → (α → σ → Prop) → Prop
  | done a, post => post a s
  | perform op next, post =>
    ∀ ans, ∃ s', step s ⟨op, ans⟩ = some s' ∧ Ensures step s' (next ans) post

@[simp]
theorem ensures_pure {s : σ} {a : α} {post : α → σ → Prop} :
    Ensures step s (pure a) post ↔ post a s := Iff.rfl

theorem ensures_perform {s : σ} {op : S.Op} {next : S.Ans op → Program S α}
    {post : α → σ → Prop} : Ensures step s (perform op next) post ↔
      ∀ ans, ∃ s', step s ⟨op, ans⟩ = some s' ∧ Ensures step s' (next ans) post := Iff.rfl

@[simp]
theorem ensures_request {s : σ} {op : S.Op} {post : S.Ans op → σ → Prop} :
    Ensures step s (request op) post ↔
      ∀ ans, ∃ s', step s ⟨op, ans⟩ = some s' ∧ post ans s' := Iff.rfl

@[simp]
theorem ensures_bind {s : σ} {p : Program S α} {f : α → Program S β} {post : β → σ → Prop} :
    Ensures step s (p >>= f) post ↔
      Ensures step s p fun a s' => Ensures step s' (f a) post := by
  induction p generalizing s with
  | done a => rfl
  | perform op next ih =>
    refine forall_congr' fun ans => exists_congr fun s' => and_congr_right fun _ => ?_
    exact ih ans

/-- A weaker condition -/
theorem Ensures.mono {s : σ} {p : Program S α} {post post' : α → σ → Prop}
    (h : Ensures step s p post) (himp : ∀ a s', post a s' → post' a s') :
    Ensures step s p post' := by
  induction p generalizing s with
  | done a => exact himp a s h
  | perform op next ih =>
    intro ans
    obtain ⟨s', hstep, hnext⟩ := h ans
    exact ⟨s', hstep, ih ans hnext⟩

/-- **What is ensured holds of every run.** -/
theorem Ensures.of_runs {s : σ} {p : Program S α} {post : α → σ → Prop} {events : List (Event S)}
    {a : α} (h : Ensures step s p post) (hrun : Runs p events a) :
    ∃ s', events.foldlM step s = some s' ∧ post a s' := by
  induction hrun generalizing s with
  | done a => exact ⟨s, rfl, h⟩
  | perform ans _ ih =>
    obtain ⟨s', hstep, hnext⟩ := h ans
    obtain ⟨s'', hrest, hpost⟩ := ih hnext
    exact ⟨s'', by rw [List.foldlM_cons, hstep]; exact hrest, hpost⟩

/-- Actions that the monitor does not care about leave its state alone. -/
theorem Uses.ensures_eq {s : σ} {p : Program S α} (h : Uses allowed p)
    (hstep : ∀ op ans, allowed op → step s ⟨op, ans⟩ = some s) :
    Ensures step s p fun _ s' => s' = s := by
  induction p with
  | done a => rfl
  | perform op next ih => exact fun ans => ⟨s, hstep op ans h.1, ih ans (h.2 ans)⟩

end Program

end Interaction
