import Switchboard.Transaction

namespace Switchboard.Registry

def newest? (name : String) (rows : List (Entry Registration)) : Option (Entry Registration) :=
  (rows.filter (·.record.name == name)).getLast?

def lastPid (name : String) (rows : List (Entry Registration)) : Cell :=
  match newest? name rows with
  | some e => e.cell Registration.pidColumn
  | none => .null

/-- The registrations that are the newest of their name. -/
def newest (rows : List (Entry Registration)) : List (Entry Registration) :=
  rows.filter fun e => (newest? e.record.name rows).any (·.record.id == e.record.id)

def present (rows : List (Entry Registration)) : List (Entry Registration) :=
  ((newest rows).filter (!·.isCleaned)).mergeSort fun a b =>
    !decide (b.record.name < a.record.name)

/-- Add a registration, with a pid that may depend on those before. -/
def append (name : String) (pid : List (Entry Registration) → Cell) (status : AgentStatus) :
    Operation Int := do
  let id ← Operation.mintId
  let createdAt := (← read).now
  Operation.statement (.recordStatus status name) do
    let rows := (← get).tables.rows Registration
    let entry : Entry Registration := { record := { id, createdAt, name, pid := none, status } }
    Statement.insertEntry (entry.put Registration.pidColumn (pid rows))
  pure id

def appendStatus (name : String) (status : AgentStatus) : Operation Int :=
  append name (lastPid name) status

def register (name : String) (pid : Option Int) : Operation Int := do
  Operation.connect
  let id ← Operation.transaction (append name (fun _ => .optionalInt pid) .running)
  Operation.notify (.agentRegistered name pid)
  pure id

def recordStatus (name : String) (status : AgentStatus) : Operation Int := do
  Operation.connect
  Operation.transaction (appendStatus name status)

def unregister (name : String) : Operation Int := do
  let id ← recordStatus name .exited
  Operation.notify (.agentUnregistered name)
  pure id

def cleanAll : Operation (List String) := do
  let rows ← Operation.statement .listAgentsToClean (Statement.rows Registration "name")
  let names := (present rows).map (·.record.name)
  names.forM fun name => discard (appendStatus name .cleaned)
  pure names

def cleanOne (name : String) : Operation (List String) := do
  discard (appendStatus name .cleaned)
  pure [name]

/-- Clean an agent, or every agent that is listed. The answer holds the names that were marked. -/
def cleanup (name : Option String) : Operation (List String) := do
  Operation.connect
  let names ← Operation.transaction (name.elim cleanAll cleanOne)
  Operation.notify (.agentsCleaned names.length)
  pure names

def record (messages : List (Entry Message)) (e : Entry Registration) :
    Except Failure AgentRecord :=
  match e.strayText? "status" with
  | some text => .error (.strayWord (Vocabulary.refusal AgentStatus text))
  | none =>
    .ok
      { name := e.record.name
        pid := e.record.pid
        status := e.record.status
        pending := messages.countP (Entry.waitsFor e.record.name)
        since := e.record.createdAt }

def roster : Operation (List AgentRecord) := do
  Operation.connect
  let (messages, entries) ← Operation.statement .listAgents do
    let rows ← Statement.rows Registration "name"
    let messages ← Statement.rows Message "m.target"
    pure (messages, ← Statement.read (present rows))
  (entries.mapM (record messages) : Except Failure (List AgentRecord))

def status (name : String) : Operation (Option AgentStatus) := do
  Operation.connect
  let rows ← Operation.statement .loadAgentStatus (Statement.rows Registration "status")
  match newest? name rows with
  | none => pure none
  | some e =>
    match e.strayText? "status" with
    | some text => throw (.strayStatus (Vocabulary.refusal AgentStatus text))
    | none => pure (some e.record.status)

end Switchboard.Registry
