import Mathlib.Tactic.TypeStar

/-!
# Procedures that allocate buffers

`BufM` is the monad of procedures that hold buffers in variables: a result, or none if the procedure
does not return, and what it did with the buffers on the way. A buffer leaves its variable when it
is queued, so that it belongs to the queue from then on, or when it is freed; while it is there it
may be written to the device.

## Main definitions

* `BufOp.Settled`: the buffer of a variable was queued or freed once, if it was allocated at all;
* `BufOp.Released`: it was freed.
-/

/-- An operation on the buffer in the variable `v`; `Q` is the type of the queues. -/
inductive BufOp (V Q : Type*)
  | alloc (v : V)
  | queue (v : V) (q : Q)
  | free (v : V)
  | write (v : V)
  deriving DecidableEq, Repr

namespace BufOp

variable {V Q : Type*} [DecidableEq V]

/-- The operation allocates the buffer of `v` or takes it out of `v`. -/
def moves (v : V) : BufOp V Q → Bool
  | .alloc w | .queue w _ | .free w => decide (w = v)
  | .write _ => false

/-- The device or a queue gets the buffer of `v`. -/
def delivers (v : V) : BufOp V Q → Bool
  | .queue w _ | .write w => decide (w = v)
  | .alloc _ | .free _ => false

/-- The buffer of `v` was not allocated, or it was allocated and then either queued or freed,
once. -/
def Settled (v : V) (ops : List (BufOp V Q)) : Prop :=
  match ops.filter (moves v) with
  | [] | [.alloc _, .queue _ _] | [.alloc _, .free _] => True
  | _ => False

/-- The buffer of `v` was not allocated, or it was allocated and then freed, once. -/
def Released (v : V) (ops : List (BufOp V Q)) : Prop :=
  match ops.filter (moves v) with
  | [] | [.alloc _, .free _] => True
  | _ => False

instance (v : V) (ops : List (BufOp V Q)) : Decidable (Settled v ops) := by
  unfold Settled
  split <;> infer_instance

instance (v : V) (ops : List (BufOp V Q)) : Decidable (Released v ops) := by
  unfold Released
  split <;> infer_instance

/-- A queue or the device got the buffer of `v`. -/
def Delivered (v : V) (ops : List (BufOp V Q)) : Prop := ops.any (delivers v) = true

instance (v : V) (ops : List (BufOp V Q)) : Decidable (Delivered v ops) :=
  inferInstanceAs (Decidable (_ = _))

end BufOp

/-- A procedure: its result, `none` if it does not return, and its operations. -/
structure BufM (V Q α : Type*) where
  val : Option α
  ops : List (BufOp V Q)

namespace BufM

variable {V Q α β : Type} {c : Prop} [Decidable c]

instance : Monad (BufM V Q) where
  pure a := ⟨some a, []⟩
  bind p f :=
    match p.val with
    | some a => ⟨(f a).val, p.ops ++ (f a).ops⟩
    | none => ⟨none, p.ops⟩

/-- An allocation, which may fail. -/
def alloc (v : V) (ok : Bool) : BufM V Q Bool := ⟨some ok, if ok then [.alloc v] else []⟩

/-- The buffer is put into a queue. -/
def queue (v : V) (q : Q) : BufM V Q Unit := ⟨some (), [.queue v q]⟩

/-- The buffer is freed. -/
def free (v : V) : BufM V Q Unit := ⟨some (), [.free v]⟩

/-- The buffer is written to the device. -/
def write (v : V) : BufM V Q Unit := ⟨some (), [.write v]⟩

/-- A `NULL` pointer is followed. -/
def crash : BufM V Q α := ⟨none, []⟩

@[simp]
theorem pure_def (a : α) : (pure a : BufM V Q α) = ⟨some a, []⟩ := rfl

@[simp]
theorem some_bind (a : α) (ops : List (BufOp V Q)) (f : α → BufM V Q β) :
    (⟨some a, ops⟩ : BufM V Q α) >>= f = ⟨(f a).val, ops ++ (f a).ops⟩ := rfl

@[simp]
theorem none_bind (ops : List (BufOp V Q)) (f : α → BufM V Q β) :
    (⟨none, ops⟩ : BufM V Q α) >>= f = ⟨none, ops⟩ := rfl

end BufM
