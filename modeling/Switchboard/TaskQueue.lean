import Switchboard.Transaction

namespace Switchboard.TaskQueue

/-- A row as a task. Of two texts that are no words, the priority is reported. -/
def readRow (e : Entry Task) : Except Failure Task :=
  match e.strayText? "priority", e.strayText? "status" with
  | some text, _ => .error (.strayWord (Vocabulary.refusal Priority text))
  | none, some text => .error (.strayWord (Vocabulary.refusal TaskStatus text))
  | none, none => .ok e.record

def readFirst (entries : List (Entry Task)) : Operation (Option Task) :=
  match entries with
  | [] => pure none
  | e :: _ => some <$> (readRow e : Except Failure Task)

def load (id : Int) : Operation (Option Task) := do
  let entries ← Operation.statement (.loadTask id)
    (Statement.select Task fun rows => (rows.find? (·.record.id == id)).toList)
  readFirst entries

def enqueue (new : NewTask) : Operation Int := do
  match new.dependsOn with
  | none => pure ()
  | some dependency =>
    match ← load dependency with
    | none => throw (.unknownDependency dependency)
    | some _ => pure ()
  let id ← Operation.mintId
  let task := Task.queued id (← read).now new
  Operation.statement .submitTask (Statement.insert task)
  pure id

def submit (new : NewTask) : Operation Int := do
  Operation.connect
  let id ← Operation.transaction (enqueue new)
  Operation.notify (.taskSubmitted id new.taskType new.priority new.dependsOn)
  pure id

def claimColumns : List String := ["status", "claimed_by", "claimed_at"]
def completeColumns : List String := ["status", "output_path", "completed_at"]
def failColumns : List String := ["status", "error", "completed_at"]
def routeColumns : List String := ["agent_file", "model"]

/-- Change a task that has the status `expected`. If there is no such task, tell why. -/
def advance (id : Int) (expected : TaskStatus) (columns : List String) (change : Task → Task)
    (keepsId : ∀ t, (change t).id = t.id) : Operation Unit := do
  let count ← Operation.statement (.updateTask id)
    (Statement.update (fun e => e.record.id == id && e.hasStatus expected) columns change keepsId)
  if count = 0 then
    match ← load id with
    | none => throw (.unknownTask id)
    | some task => throw (.wrongStatus id task.status expected)

def claim (dispatcher : String) (id : Int) : Operation Unit := do
  Operation.connect
  let change := Task.claimFor dispatcher (← read).now
  Operation.transaction (advance id .pending claimColumns change fun _ => rfl)
  Operation.notify (.taskClaimed id dispatcher)

def complete (id : Int) (output : Option String) : Operation Unit := do
  Operation.connect
  let change := Task.completeWith output (← read).now
  Operation.transaction (advance id .running completeColumns change fun _ => rfl)
  Operation.notify (.taskComplete id)

def fail (id : Int) (error : Option String) : Operation Unit := do
  Operation.connect
  let change := Task.failWith error (← read).now
  Operation.transaction (advance id .running failColumns change fun _ => rfl)
  Operation.notify (.taskFailed id)

def route (id : Int) (agentFile model : String) : Operation Unit := do
  Operation.connect
  Operation.transaction do
    let count ← Operation.statement .recordRouting
      (Statement.update (fun e => e.record.id == id) routeColumns (Task.routeTo agentFile model))
    if count = 0 then throw (.unknownTask id)

def find (id : Int) : Operation (Option Task) := do
  Operation.connect
  load id

def list (status : Option TaskStatus) (taskType : Option String) : Operation (List Task) := do
  Operation.connect
  let wanted (e : Entry Task) : Bool :=
    status.all e.hasStatus && taskType.all (· == e.record.taskType)
  let entries ← Operation.statement .listTasks
    (Statement.select Task fun rows => rows.filter wanted)
  (entries.mapM readRow : Except Failure (List Task))

/-- The task on which another one depends is complete, or it depends on none. A stray cell names no
task. -/
def isReady (rows : List (Entry Task)) (e : Entry Task) : Bool :=
  (e.stray? "depends_on").isNone &&
    e.record.dependsOn.all fun id => rows.any fun d => d.record.id == id && d.hasStatus .complete

def isRunnable (rows : List (Entry Task)) (e : Entry Task) : Bool :=
  e.hasStatus .pending && isReady rows e

/-- The row that is dispatched first. Of two that rank the same this is the one with the smaller id,
which comes first in the list. -/
def first? (rows : List (Entry Task)) : Option (Entry Task) :=
  rows.foldl (fun best e =>
    match best with
    | some b => if e.rank < b.rank then some e else some b
    | none => some e) none

def nextRunnable : Operation (Option Task) := do
  Operation.connect
  let entries ← Operation.statement .selectNextTask do
    let rows ← Statement.rows Task "t.submitted_by"
    Statement.read (first? (rows.filter (isRunnable rows))).toList
  readFirst entries

end Switchboard.TaskQueue
