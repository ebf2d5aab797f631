import Switchboard.Message
import Switchboard.Vocabulary

namespace Switchboard

inductive AgentStatus where
  | running
  | waiting
  | exited
  | cleaned
  deriving DecidableEq, Repr

instance : Vocabulary AgentStatus where
  all := [.running, .waiting, .exited, .cleaned]
  word
    | .running => "running"
    | .waiting => "waiting"
    | .exited => "exited"
    | .cleaned => "cleaned"
  refusal s := "Unknown agent status: " ++ s

/-- One line of the roster: the newest registration of a name and the messages waiting for it. -/
structure AgentRecord where
  name : String
  pid : Option Int
  status : AgentStatus
  pending : Int
  since : Timestamp
  deriving DecidableEq

namespace AgentRecord

def toJson (a : AgentRecord) : Json :=
  .object
    [("name", .text a.name),
     ("pid", .optionalInt a.pid),
     ("status", Vocabulary.toJson a.status),
     ("pending", .int a.pending),
     ("since", a.since.toJson)]

def ofJson? (json : Json) : Option AgentRecord := do
  let members ← json.record? ["name", "pid", "status", "pending", "since"]
  some
    { name := ← required? Json.text? members "name"
      pid := ← optional? Json.int64? members "pid"
      status := ← required? Vocabulary.ofJson? members "status"
      pending := ← required? Json.int64? members "pending"
      since := ← required? Timestamp.ofJson? members "since" }

end AgentRecord

end Switchboard
