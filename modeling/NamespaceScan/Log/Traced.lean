import NamespaceScan.Log.Record
import NamespaceScan.Problem

/-!
# Traced computations

A traced computation ends with a value or a problem and has made log records
on the way. The records before a problem are kept. The outcome of a sequence
depends on the outcomes of its parts only, never on their records.
-/

namespace NamespaceScan

open Log

/-- A computation together with the records that it made. -/
structure Traced (α : Type) where
  /-- The records in the order in which they were made. -/
  log : List Record
  outcome : Except Problem α

namespace Traced

variable {α β : Type}

/-- A value without any record. -/
def done (a : α) : Traced α := ⟨[], .ok a⟩

/-- Stop with a problem. -/
def stop (problem : Problem) : Traced α := ⟨[], .error problem⟩

/-- Stop with an announced error. -/
def fail (failure : Failure) : Traced α := stop (.failure failure)

/-- Take over an outcome. -/
def ofExcept (outcome : Except Problem α) : Traced α := ⟨[], outcome⟩

/-- Make one record. -/
def note (part : String) (level : Level) (message : List Text) : Traced Unit :=
  ⟨[Record.ofPart part level message], .ok ()⟩

/-- Go on with the value of a computation; a problem ends the sequence. -/
def andThen (first : Traced α) (next : α → Traced β) : Traced β :=
  match first.outcome with
  | .ok a => ⟨first.log ++ (next a).log, (next a).outcome⟩
  | .error problem => ⟨first.log, .error problem⟩

instance : Monad Traced where
  pure := done
  bind := andThen

/-- Apply a computation to each member in order. -/
def forEach (f : α → Traced β) : List α → Traced (List β)
  | [] => done []
  | a :: rest => (f a).andThen fun b => (forEach f rest).andThen fun bs => done (b :: bs)

@[simp]
theorem outcome_done (a : α) : (done a).outcome = .ok a := rfl

@[simp]
theorem outcome_pure (a : α) : (pure a : Traced α).outcome = .ok a := rfl

@[simp]
theorem outcome_stop (problem : Problem) : (stop problem : Traced α).outcome = .error problem := rfl

@[simp]
theorem outcome_fail (failure : Failure) :
    (fail failure : Traced α).outcome = .error (.failure failure) := rfl

@[simp]
theorem outcome_ofExcept (outcome : Except Problem α) : (ofExcept outcome).outcome = outcome := rfl

@[simp]
theorem outcome_note (part : String) (level : Level) (message : List Text) :
    (note part level message).outcome = .ok () := rfl

theorem outcome_andThen (first : Traced α) (next : α → Traced β) :
    (first.andThen next).outcome = first.outcome.bind fun a => (next a).outcome := by
  cases h : first.outcome <;> simp [andThen, h, Except.bind]

theorem outcome_bind (first : Traced α) (next : α → Traced β) :
    (first >>= next).outcome = first.outcome.bind fun a => (next a).outcome :=
  outcome_andThen first next

end Traced

end NamespaceScan
