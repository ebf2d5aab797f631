import Switchboard.Message

namespace Switchboard

structure Event where
  id : Int
  createdAt : Timestamp
  kind : String
  tag : String
  body : String
  agent : String
  deriving DecidableEq

namespace Event

def toJson (e : Event) : Json :=
  .object
    [("id", .int e.id),
     ("created_at", e.createdAt.toJson),
     ("kind", .text e.kind),
     ("tag", .text e.tag),
     ("body", .text e.body),
     ("agent", .text e.agent)]

def ofJson? (json : Json) : Option Event := do
  let members ← json.record? ["id", "created_at", "kind", "tag", "body", "agent"]
  some
    { id := ← required? Json.int64? members "id"
      createdAt := ← required? Timestamp.ofJson? members "created_at"
      kind := ← required? Json.text? members "kind"
      tag := ← required? Json.text? members "tag"
      body := ← required? Json.text? members "body"
      agent := ← required? Json.text? members "agent" }

end Event

/-- Which events to read. An absent field does not restrict; `since` is an exclusive lower bound of
the id. -/
structure EventFilter where
  kind : Option String := none
  tag : Option String := none
  agent : Option String := none
  since : Option Int := none
  limit : Option Int := none
  deriving DecidableEq, Repr

namespace EventFilter

def ofKind (kind : String) : EventFilter := { kind := some kind }

def withTag (filter : EventFilter) (tag : String) : EventFilter := { filter with tag := some tag }

def withAgent (filter : EventFilter) (agent : String) : EventFilter :=
  { filter with agent := some agent }

def after (filter : EventFilter) (id : Int) : EventFilter := { filter with since := some id }

def atMost (filter : EventFilter) (limit : Int) : EventFilter := { filter with limit := some limit }

def accepts (filter : EventFilter) (e : Event) : Bool :=
  filter.kind.all (· == e.kind) && filter.tag.all (· == e.tag) && filter.agent.all (· == e.agent) &&
    filter.since.all (· < e.id)

/-- The first items of a list, as many as the limit allows. A negative limit allows all. -/
def cut {α : Type} (filter : EventFilter) (events : List α) : List α :=
  match filter.limit with
  | some n => if n < 0 then events else events.take n.toNat
  | none => events

end EventFilter

/-- The kind and the tag of the events whose newest body is the state of the pipeline. -/
def lifecycleKind : String := "lifecycle"
def pipelineStateTag : String := "pipeline-state"

def defaultPipelineState : String := "running"

end Switchboard
