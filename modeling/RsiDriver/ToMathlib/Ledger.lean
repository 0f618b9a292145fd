import Mathlib.Data.Finset.Basic
import RsiDriver.ToMathlib.Interaction

/-!
# Ledgers of resources

A program acquires resources, which may fail, uses them and releases them, and asks its surroundings
whether something went well. A live resource may refer to others: a thread to the memory that it
works on. The ledger of a run says what is held, what was refused, and what mistakes were made:
a resource is acquired a second time while it is held, or used or released without being held, or
released while something refers to it.

## Main results

* `Yields.of_runs`: what a program yields, statement by statement, holds of the ledger of every run;
* `foldl_drop`: resources that are released users first are released without a mistake;
* `foldl_drop_frame`: the same for a part of what is held.
-/

namespace Interaction

/-- What a program does with its resources, and what it asks. An attempt `acquire` may fail. -/
inductive Call (R Q : Type)
  | acquire (r : R)
  | release (r : R)
  | touch (r : R)
  | ask (q : Q)
  deriving DecidableEq

/-- Whether an attempt succeeded, and whether what is asked went well -/
def Call.Ans {R Q : Type} : Call R Q → Type
  | acquire _ | ask _ => Bool
  | release _ | touch _ => Unit

/-- The signature of the programs with resources `R` and questions `Q` -/
def calls (R Q : Type) : Signature := ⟨Call R Q, Call.Ans⟩

/-- What is wrong with a call -/
inductive Mistake (R : Type)
  /-- The resource was held already, and nothing refers to the first one now. -/
  | lost (r : R)
  | notHeld (r : R)
  /-- Something that is held refers to what is released. -/
  | inUse (r : R)
  deriving DecidableEq

/-- The ledger of a run. The last entries of the two lists come first. -/
structure Ledger (R Q : Type) where
  held : Finset R
  refused : List (Call R Q)
  mistakes : List (Mistake R)
  deriving DecidableEq

namespace Ledger

variable {R Q : Type}

/-- Nothing has happened. -/
def empty : Ledger R Q := ⟨∅, [], []⟩

def refuse (s : Ledger R Q) (call : Call R Q) : Ledger R Q :=
  { s with refused := call :: s.refused }

section Refuse

variable (s : Ledger R Q) (call : Call R Q)

@[simp] theorem held_refuse : (s.refuse call).held = s.held := rfl

@[simp] theorem refused_refuse : (s.refuse call).refused = call :: s.refused := rfl

@[simp] theorem mistakes_refuse : (s.refuse call).mistakes = s.mistakes := rfl

end Refuse

variable [DecidableEq R]

def add (s : Ledger R Q) (r : R) : Ledger R Q :=
  { s with
    held := insert r s.held
    mistakes := if r ∈ s.held then .lost r :: s.mistakes else s.mistakes }

def use (s : Ledger R Q) (r : R) : Ledger R Q :=
  if r ∈ s.held then s else { s with mistakes := .notHeld r :: s.mistakes }

/-- Release `r`, with the resources that each resource refers to -/
def drop (needs : R → Finset R) (s : Ledger R Q) (r : R) : Ledger R Q :=
  { s with
    held := s.held.erase r
    mistakes :=
      if r ∉ s.held then .notHeld r :: s.mistakes
      else if ∃ user ∈ s.held.erase r, r ∈ needs user then .inUse r :: s.mistakes
      else s.mistakes }

/-- The ledger after an event -/
def step (needs : R → Finset R) (s : Ledger R Q) : Event (calls R Q) → Ledger R Q
  | ⟨.acquire r, ok⟩ => if (show Bool from ok) then s.add r else s.refuse (.acquire r)
  | ⟨.ask q, ok⟩ => if (show Bool from ok) then s else s.refuse (.ask q)
  | ⟨.release r, _⟩ => s.drop needs r
  | ⟨.touch r, _⟩ => s.use r

@[simp]
theorem use_of_mem {s : Ledger R Q} {r : R} (h : r ∈ s.held) : s.use r = s := if_pos h

theorem add_of_notMem {s : Ledger R Q} {r : R} (h : r ∉ s.held) :
    s.add r = { s with held := insert r s.held } := by
  rw [add, if_neg h]

variable {needs : R → Finset R} {s : Ledger R Q}

/-- What is released without a mistake is erased, and nothing else happens. -/
theorem drop_of_mem {r : R} (h : r ∈ s.held)
    (husers : ∀ user ∈ s.held, r ∈ needs user → user = r) :
    s.drop needs r = { s with held := s.held.erase r } := by
  have hfree : ¬ ∃ user ∈ s.held.erase r, r ∈ needs user := by
    rintro ⟨user, hmem, hneeds⟩
    obtain ⟨hne, hmem⟩ := Finset.mem_erase.1 hmem
    exact hne (husers user hmem hneeds)
  rw [drop, if_neg (not_not.2 h), if_neg hfree]

/-- Mistakes or not, what is released is not held. -/
theorem held_foldl_drop (l : List R) (s : Ledger R Q) :
    (l.foldl (drop needs) s).held = s.held \ l.toFinset := by
  induction l generalizing s with
  | nil => simp
  | cons r l ih =>
    rw [List.foldl_cons, ih, List.toFinset_cons, Finset.sdiff_insert, ← Finset.erase_sdiff_comm]
    rfl

/-- All of `l` is held, each user in `l` stands before what it refers to, and everything else that
is held refers to nothing in `l`. -/
structure UsersFirst (needs : R → Finset R) (held : Finset R) (l : List R) : Prop where
  nodup : l.Nodup
  subset : ∀ r ∈ l, r ∈ held
  order : l.Pairwise fun r user => r ∉ needs user
  others : ∀ r ∈ l, ∀ user ∈ held, r ∈ needs user → user ∈ l

instance (needs : R → Finset R) (held : Finset R) (l : List R) :
    Decidable (UsersFirst needs held l) :=
  decidable_of_iff (l.Nodup ∧ (∀ r ∈ l, r ∈ held) ∧ (l.Pairwise fun r user => r ∉ needs user) ∧
      ∀ r ∈ l, ∀ user ∈ held, r ∈ needs user → user ∈ l)
    ⟨fun ⟨h₁, h₂, h₃, h₄⟩ => ⟨h₁, h₂, h₃, h₄⟩, fun ⟨h₁, h₂, h₃, h₄⟩ => ⟨h₁, h₂, h₃, h₄⟩⟩

/-- **What is released users first** is released without a mistake. -/
theorem foldl_drop {l : List R} (h : UsersFirst needs s.held l) :
    l.foldl (drop needs) s = { s with held := s.held \ l.toFinset } := by
  induction l generalizing s with
  | nil => simp
  | cons r l ih =>
    obtain ⟨hnodup, hsubset, horder, hothers⟩ := h
    obtain ⟨hr, hnodup⟩ := List.nodup_cons.1 hnodup
    obtain ⟨hfirst, horder⟩ := List.pairwise_cons.1 horder
    have hdrop : s.drop needs r = { s with held := s.held.erase r } := by
      refine drop_of_mem (hsubset r (.head _)) fun user hheld hneeds => ?_
      -- a user behind `r` would refer to it, and there is none outside
      rcases List.mem_cons.1 (hothers r (.head _) user hheld hneeds) with heq | hmem
      · exact heq
      · exact absurd hneeds (hfirst user hmem)
    have hrest : UsersFirst needs (s.held.erase r) l := by
      refine ⟨hnodup, fun r' hmem => ?_, horder, fun r' hmem user hheld hneeds => ?_⟩
      · refine Finset.mem_erase.2 ⟨?_, hsubset r' (.tail _ hmem)⟩
        rintro rfl
        exact hr hmem
      · obtain ⟨hne, hheld⟩ := Finset.mem_erase.1 hheld
        exact (List.mem_cons.1 (hothers r' (.tail _ hmem) user hheld hneeds)).resolve_left hne
    rw [List.foldl_cons, hdrop, ih hrest, List.toFinset_cons, Finset.sdiff_insert,
      Finset.erase_sdiff_comm]

/-- **The frame rule**: of what is released users first, nothing needs to be known of the rest but
that it is not released and does not refer to what is. -/
theorem foldl_drop_frame {base own : Finset R} {l : List R} (hs : s.held = base ∪ own)
    (h : UsersFirst needs own l) (hbase : ∀ r ∈ l, r ∉ base ∧ ∀ user ∈ base, r ∉ needs user) :
    l.foldl (drop needs) s = { s with held := base ∪ (own \ l.toFinset) } := by
  have hall : UsersFirst needs s.held l := by
    refine ⟨h.nodup, fun r hr => ?_, h.order, fun r hr user huser hneeds => ?_⟩
    · rw [hs]
      exact Finset.mem_union_right _ (h.subset r hr)
    · rw [hs] at huser
      rcases Finset.mem_union.1 huser with hmem | hmem
      · exact absurd hneeds ((hbase r hr).2 user hmem)
      · exact h.others r hr user hmem hneeds
  have hdisjoint : Disjoint base l.toFinset :=
    Finset.disjoint_right.2 fun r hr => (hbase r (List.mem_toFinset.1 hr)).1
  rw [foldl_drop hall, hs, Finset.union_sdiff_distrib, Finset.sdiff_eq_self_of_disjoint hdisjoint]

/-- A refusal stays. -/
theorem mem_refused_step {call : Call R Q} (h : call ∈ s.refused) (event : Event (calls R Q)) :
    call ∈ (s.step needs event).refused := by
  obtain ⟨op, ans⟩ := event
  cases op with
  | acquire r => cases ans with
    | true => exact h
    | false => exact .tail _ h
  | ask q => cases ans with
    | true => exact h
    | false => exact .tail _ h
  | release r => exact h
  | touch r =>
    show call ∈ (s.use r).refused
    unfold use
    split_ifs <;> exact h

/-- A mistake stays. -/
theorem mistakes_step_ne_nil (h : s.mistakes ≠ []) (event : Event (calls R Q)) :
    (s.step needs event).mistakes ≠ [] := by
  obtain ⟨op, ans⟩ := event
  cases op with
  | acquire r => cases ans with
    | true =>
      show (s.add r).mistakes ≠ []
      unfold add
      dsimp only
      split_ifs
      · exact List.cons_ne_nil _ _
      · exact h
    | false => exact h
  | ask q => cases ans <;> exact h
  | release r =>
    show (s.drop needs r).mistakes ≠ []
    unfold drop
    dsimp only
    split_ifs <;> first | exact List.cons_ne_nil _ _ | exact h
  | touch r =>
    show (s.use r).mistakes ≠ []
    unfold use
    split_ifs
    · exact h
    · exact List.cons_ne_nil _ _

theorem mistakes_use_ne_nil (h : s.mistakes ≠ []) (r : R) : (s.use r).mistakes ≠ [] := by
  have hstep : (s.step (fun _ => ∅) ⟨.touch r, ()⟩).mistakes ≠ [] := mistakes_step_ne_nil h _
  exact hstep

theorem mistakes_foldl_drop_ne_nil (h : s.mistakes ≠ []) (l : List R) :
    (l.foldl (drop needs) s).mistakes ≠ [] := by
  induction l generalizing s with
  | nil => exact h
  | cons r l ih => exact ih (mistakes_step_ne_nil h ⟨.release r, ()⟩)

/-- To release what is not held is a mistake. -/
theorem mistakes_foldl_drop_of_notMem {l : List R} {r : R} (hr : r ∈ l) (h : r ∉ s.held) :
    (l.foldl (drop needs) s).mistakes ≠ [] := by
  induction l generalizing s with
  | nil => exact absurd hr List.not_mem_nil
  | cons first l ih =>
    rw [List.foldl_cons]
    rcases List.mem_cons.1 hr with rfl | hr
    · refine mistakes_foldl_drop_ne_nil ?_ l
      rw [drop, if_pos h]
      exact List.cons_ne_nil _ _
    · exact ih hr fun hmem => h (Finset.mem_of_mem_erase hmem)

end Ledger

namespace Program

variable {R Q α β : Type}

/-- Whether the resource was there -/
def acquire (r : R) : Program (calls R Q) Bool := request (S := calls R Q) (.acquire r)

def release (r : R) : Program (calls R Q) Unit := request (S := calls R Q) (.release r)

/-- Read or write what is behind a pointer to `r`. -/
def touch (r : R) : Program (calls R Q) Unit := request (S := calls R Q) (.touch r)

/-- Whether it went well -/
def ask (q : Q) : Program (calls R Q) Bool := request (S := calls R Q) (.ask q)

/-- From the ledger `s` on, what every run of the program returns and the ledger behind it satisfy a
condition. -/
def Yields [DecidableEq R] (needs : R → Finset R) (s : Ledger R Q) (p : Program (calls R Q) α)
    (post : α → Ledger R Q → Prop) : Prop :=
  Ensures (fun s event => some (Ledger.step needs s event)) s p post

variable [DecidableEq R] {needs : R → Finset R} {s : Ledger R Q} {r : R}

@[simp]
theorem yields_pure {a : α} {post : α → Ledger R Q → Prop} :
    Yields needs s (pure a) post ↔ post a s := Iff.rfl

@[simp]
theorem yields_bind {p : Program (calls R Q) α} {f : α → Program (calls R Q) β}
    {post : β → Ledger R Q → Prop} :
    Yields needs s (p >>= f) post ↔ Yields needs s p fun a s' => Yields needs s' (f a) post :=
  ensures_bind

theorem yields_request {op : Call R Q} {post : (calls R Q).Ans op → Ledger R Q → Prop} :
    Yields needs s (request (S := calls R Q) op) post ↔
      ∀ ans, post ans (Ledger.step needs s ⟨op, ans⟩) := by
  refine ensures_request.trans (forall_congr' fun ans => ?_)
  simp

@[simp]
theorem yields_acquire {post : Bool → Ledger R Q → Prop} :
    Yields needs s (acquire r) post ↔
      post false (s.refuse (.acquire r)) ∧ post true (s.add r) :=
  yields_request.trans Bool.forall_bool

@[simp]
theorem yields_ask {q : Q} {post : Bool → Ledger R Q → Prop} :
    Yields needs s (ask q) post ↔ post false (s.refuse (.ask q)) ∧ post true s :=
  yields_request.trans Bool.forall_bool

@[simp]
theorem yields_release {post : Unit → Ledger R Q → Prop} :
    Yields needs s (release r) post ↔ post () (s.drop needs r) :=
  yields_request.trans ⟨fun h => h (), fun h _ => h⟩

@[simp]
theorem yields_touch {post : Unit → Ledger R Q → Prop} :
    Yields needs s (touch r) post ↔ post () (s.use r) :=
  yields_request.trans ⟨fun h => h (), fun h _ => h⟩

/-- What every event keeps, a program keeps. -/
theorem yields_of_step {P : Ledger R Q → Prop} (p : Program (calls R Q) α)
    (hstep : ∀ s event, P s → P (Ledger.step needs s event)) (h : P s) :
    Yields needs s p fun _ s' => P s' := by
  induction p generalizing s with
  | done a => exact h
  | perform op next ih => exact fun ans => ⟨_, rfl, ih ans (hstep s ⟨op, ans⟩ h)⟩

theorem yields_mistakes_ne_nil (p : Program (calls R Q) α) (h : s.mistakes ≠ []) :
    Yields needs s p fun _ s' => s'.mistakes ≠ [] :=
  yields_of_step p (fun _ event h => Ledger.mistakes_step_ne_nil h event) h

theorem Yields.mono {p : Program (calls R Q) α} {post post' : α → Ledger R Q → Prop}
    (h : Yields needs s p post) (himp : ∀ a s', post a s' → post' a s') :
    Yields needs s p post' :=
  Ensures.mono h himp

theorem Yields.and {p : Program (calls R Q) α} {post post' : α → Ledger R Q → Prop}
    (h : Yields needs s p post) (h' : Yields needs s p post') :
    Yields needs s p fun a s' => post a s' ∧ post' a s' := by
  induction p generalizing s with
  | done a => exact ⟨h, h'⟩
  | perform op next ih =>
    intro ans
    obtain ⟨_, heq, hnext⟩ := h ans
    obtain ⟨_, heq', hnext'⟩ := h' ans
    obtain rfl := Option.some.inj (heq.symm.trans heq')
    exact ⟨_, heq, ih ans hnext hnext'⟩

/-- **The ledger of every run** is as the program yields it. -/
theorem Yields.of_runs {p : Program (calls R Q) α} {post : α → Ledger R Q → Prop}
    {events : List (Event (calls R Q))} {a : α} (h : Yields needs s p post)
    (hrun : Runs p events a) : post a (events.foldl (Ledger.step needs) s) := by
  obtain ⟨s', heq, hpost⟩ := Ensures.of_runs h hrun
  have hfold (events : List (Event (calls R Q))) (s : Ledger R Q) :
      events.foldlM (fun s event => some (Ledger.step needs s event)) s =
        some (events.foldl (Ledger.step needs) s) := by
    induction events generalizing s with
    | nil => rfl
    | cons event events ih => exact ih _
  rw [hfold] at heq
  exact Option.some.inj heq ▸ hpost

end Program

end Interaction
