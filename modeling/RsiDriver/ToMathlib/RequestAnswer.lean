import Mathlib.Data.List.Induction
import Mathlib.Tactic.TypeStar

/-!
# Request–answer sessions

One side issues requests, each with a token, and may cancel the latest one. The other side
answers. A history is the chronological list of these events. This file says what it means for
the answers of a history to be honest: every answer is given to a request that is neither
cancelled nor answered yet, and it repeats that request's token.

An answer carries an `Option` token. `none` is an attempt to answer that got lost before it
left the answering side; an honest history has no such attempt.

## Main definitions

* `Session.status`: where the latest request of a history stands;
* `Session.Honest`: every answer of the history fits the request it answers.
-/

namespace Session

variable {τ : Type*}

/-- An event of a request–answer history. -/
inductive Event (τ : Type*)
  | request (token : τ)
  | cancel
  | answer (token : Option τ)
  deriving DecidableEq

/-- Where the latest request of a history stands. -/
inductive Status (τ : Type*)
  /-- There was no request, or the latest one is cancelled. -/
  | idle
  /-- The latest request is neither cancelled nor answered. -/
  | requested (token : τ)
  /-- The latest request is answered and not cancelled. -/
  | answered (token : τ) (answer : Option τ)
  deriving DecidableEq

/-- The status after one more event. An answer without an open request changes nothing. -/
def Status.next : Status τ → Event τ → Status τ
  | _, .request t => .requested t
  | _, .cancel => .idle
  | .requested t, .answer o => .answered t o
  | s, .answer _ => s

/-- The status of the latest request of a history. -/
def status (h : List (Event τ)) : Status τ := h.foldl Status.next .idle

/-- Every answer is given to an open, unanswered request and repeats its token. -/
def Honest (h : List (Event τ)) : Prop :=
  ∀ pre o post, h = pre ++ .answer o :: post → ∃ t, status pre = .requested t ∧ o = some t

@[simp]
theorem status_nil : status ([] : List (Event τ)) = .idle := rfl

@[simp]
theorem status_append (h h' : List (Event τ)) :
    status (h ++ h') = h'.foldl Status.next (status h) := by
  simp [status]

theorem status_concat (h : List (Event τ)) (e : Event τ) :
    status (h ++ [e]) = (status h).next e := by
  simp

theorem honest_nil : Honest ([] : List (Event τ)) := by
  intro pre o post h
  simp at h

/-- A history stays honest exactly when its last event, if an answer, fits. -/
theorem honest_concat {h : List (Event τ)} {e : Event τ} :
    Honest (h ++ [e]) ↔
      Honest h ∧ ∀ o, e = .answer o → ∃ t, status h = .requested t ∧ o = some t := by
  constructor
  · intro hh
    refine ⟨fun pre o post hsplit => hh pre o (post ++ [e]) (by simp [hsplit]), ?_⟩
    rintro o rfl
    exact hh h o [] rfl
  · rintro ⟨hh, he⟩ pre o post hsplit
    -- the answer is either the last event or already in `h`
    rcases List.eq_nil_or_concat post with rfl | ⟨post', last, rfl⟩
    · obtain ⟨rfl, hlast⟩ := List.append_inj' hsplit rfl
      exact he o (by simpa using hlast)
    · have hsplit' : h ++ [e] = (pre ++ .answer o :: post') ++ [last] := by simpa using hsplit
      obtain ⟨rfl, -⟩ := List.append_inj' hsplit' rfl
      exact hh pre o post' rfl

/-- Appending an event that is not an answer keeps a history honest. -/
theorem Honest.concat {h : List (Event τ)} (hh : Honest h) {e : Event τ}
    (he : ∀ o, e ≠ .answer o) : Honest (h ++ [e]) :=
  honest_concat.2 ⟨hh, fun o ho => absurd ho (he o)⟩

/-- Appending the answer to the open request keeps a history honest. -/
theorem Honest.concat_answer {h : List (Event τ)} (hh : Honest h) {t : τ}
    (ht : status h = .requested t) : Honest (h ++ [.answer (some t)]) := by
  refine honest_concat.2 ⟨hh, fun o ho => ⟨t, ht, ?_⟩⟩
  simpa using ho.symm

/-- In an honest history the latest request, once answered, was answered with its token. -/
theorem Honest.answered_eq {h : List (Event τ)} (hh : Honest h) {t : τ} {o : Option τ}
    (hs : status h = .answered t o) : o = some t := by
  induction h using List.reverseRecOn with
  | nil => simp at hs
  | append_singleton h e ih =>
    obtain ⟨hh', he⟩ := honest_concat.1 hh
    rw [status_concat] at hs
    cases e with
    | request t' => simp [Status.next] at hs
    | cancel => simp [Status.next] at hs
    | answer o' =>
      obtain ⟨t', ht', rfl⟩ := he o' rfl
      rw [ht'] at hs
      simp only [Status.next, Status.answered.injEq] at hs
      rw [← hs.1, ← hs.2]

end Session
