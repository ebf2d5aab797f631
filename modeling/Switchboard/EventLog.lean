import Switchboard.Text.Blank
import Switchboard.Transaction

namespace Switchboard.EventLog

def log (kind tag body agent : String) : Operation Int := do
  Operation.connect
  let id ← Operation.transaction do
    let id ← Operation.mintId
    let createdAt := (← read).now
    Operation.statement .writeEvent
      (Statement.insert { id, createdAt, kind, tag, body, agent : Event })
    pure id
  Operation.notify (.eventLogged id kind tag)
  pure id

def setPipelineState (state agent : String) : Operation Int :=
  if Text.isBlankText state then throw .blankPipelineState
  else log lifecycleKind pipelineStateTag state agent

def accepted (filter : EventFilter) (rows : List (Entry Event)) : List (Entry Event) :=
  rows.filter fun e => filter.accepts e.record

def oldestFirst (filter : EventFilter) (rows : List (Entry Event)) : List (Entry Event) :=
  filter.cut (accepted filter rows)

def newestFirst (filter : EventFilter) (rows : List (Entry Event)) : List (Entry Event) :=
  filter.cut (accepted filter rows).reverse

def readEvents (choose : List (Entry Event) → List (Entry Event)) : Operation (List Event) := do
  Operation.connect
  let entries ← Operation.statement .readEvents (Statement.select Event choose)
  pure (entries.map (·.record))

def tail (filter : EventFilter) : Operation (List Event) := readEvents (oldestFirst filter)

def query (filter : EventFilter) : Operation (List Event) := readEvents (newestFirst filter)

/-- The newest event that a filter accepts, whatever its limit. -/
def latest (filter : EventFilter) : Operation (Option Event) := do
  pure (← query (filter.atMost 1)).head?

/-- The state of the pipeline. An empty body counts as none. -/
def pipelineState : Operation String := do
  match ← latest ((EventFilter.ofKind lifecycleKind).withTag pipelineStateTag) with
  | some event => pure (if event.body.isEmpty then defaultPipelineState else event.body)
  | none => pure defaultPipelineState

end Switchboard.EventLog
