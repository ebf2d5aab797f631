import Switchboard.Configuration
import Switchboard.Notice
import Switchboard.Store.Statement

namespace Switchboard

structure Context where
  path : String
  config : Configuration
  now : Timestamp

/-- What an operation works on and leaves behind. Naps and notices are listed newest first. -/
structure Run where
  store : Store
  /-- The handle has seen the schema complete. -/
  ready : Bool := false
  /-- For each statement to come, the fault by which it fails. -/
  faults : List (Option EngineError) := []
  elapsed : Nat := 0
  naps : List Nat := []
  notices : List Notice := []

abbrev Operation (α : Type) := ReaderT Context (ExceptT Failure (StateM Run)) α

namespace Operation

variable {α β : Type}

def perform (op : Operation α) (context : Context) (run : Run) : Except Failure α × Run :=
  ((op.run context).run).run run

/-- Carry on with the outcome of an operation, whether it failed or not. -/
def outcome (op : Operation α) : Operation (Except Failure α) :=
  fun context => ExceptT.lift (op.run context).run

@[simp]
theorem perform_pure (a : α) (context : Context) (run : Run) :
    perform (pure a) context run = (.ok a, run) := rfl

@[simp]
theorem perform_throw (failure : Failure) (context : Context) (run : Run) :
    perform (throw failure : Operation α) context run = (.error failure, run) := rfl

@[simp]
theorem perform_get (context : Context) (run : Run) :
    perform (get : Operation Run) context run = (.ok run, run) := rfl

@[simp]
theorem perform_set (left : Run) (context : Context) (run : Run) :
    perform (set left : Operation PUnit) context run = (.ok ⟨⟩, left) := rfl

@[simp]
theorem perform_modify (f : Run → Run) (context : Context) (run : Run) :
    perform (modify f : Operation PUnit) context run = (.ok ⟨⟩, f run) := rfl

@[simp]
theorem perform_read (context : Context) (run : Run) :
    perform (read : Operation Context) context run = (.ok context, run) := rfl

theorem perform_bind (op : Operation α) (next : α → Operation β) (context : Context) (run : Run) :
    perform (op >>= next) context run =
      match perform op context run with
      | (.ok a, left) => perform (next a) context left
      | (.error failure, left) => (.error failure, left) := by
  simp only [perform, ReaderT.run_bind, ExceptT.run_bind, StateT.run_bind]
  generalize StateT.run (ReaderT.run op context).run run = result
  obtain ⟨_ | _, _⟩ := result <;> rfl

@[simp]
theorem perform_map (f : α → β) (op : Operation α) (context : Context) (run : Run) :
    perform (f <$> op) context run =
      ((perform op context run).1.map f, (perform op context run).2) := by
  rw [map_eq_pure_bind, perform_bind]
  generalize perform op context run = result
  obtain ⟨_ | _, _⟩ := result <;> rfl

/-- Looking at an outcome never fails, and leaves behind what the operation does. -/
@[simp]
theorem perform_outcome (op : Operation α) (context : Context) (run : Run) :
    perform (outcome op) context run =
      (.ok (perform op context run).1, (perform op context run).2) := rfl

def notify (notice : Notice) : Operation Unit :=
  modify fun run => { run with notices := notice :: run.notices }

def sleep (milliseconds : Nat) : Operation Unit :=
  modify fun run =>
    { run with elapsed := run.elapsed + milliseconds, naps := milliseconds :: run.naps }

/-- Carry out a statement, unless a fault stops it. -/
def carryOut (s : Statement α) : Operation (Except EngineError α) := do
  let run ← get
  set { run with faults := run.faults.tail }
  match run.faults.head?.join with
  | some fault => pure (.error fault)
  | none =>
    match s.run run.store with
    | .ok (a, store) =>
      modify fun run => { run with store }
      pure (.ok a)
    | .error cause => pure (.error cause)

def statement (action : Action) (s : Statement α) : Operation α := do
  match ← carryOut s with
  | .ok a => pure a
  | .error cause => throw (.statement action cause)

theorem perform_carryOut_of_sound (s : Statement α) (context : Context) (run : Run)
    (h : run.faults = []) :
    perform (carryOut s) context run =
      match s.run run.store with
      | .ok (a, store) => (.ok (.ok a), { run with store })
      | .error cause => (.ok (.error cause), run) := by
  obtain ⟨store, ready, faults, elapsed, naps, notices⟩ := run
  subst h
  unfold carryOut
  simp only [perform_bind, perform_get, perform_set]
  change perform (match s.run store with
    | .ok (a, store) => _
    | .error cause => _) _ _ = _
  cases s.run store <;> rfl

end Operation

end Switchboard
