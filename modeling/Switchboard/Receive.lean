import Switchboard.Mailbox
import Switchboard.Registry

namespace Switchboard.Receive

inductive Reception where
  | delivered (message : Message)
  | timedOut
  /-- There was no limit, and the polls that were watched came to an end without a message. -/
  | stillWaiting
  deriving DecidableEq

/-- What other clients do to the store while a receiver waits. -/
structure Others where
  /-- What they do before the first poll, and between one poll and the next. -/
  beforePoll : Nat → Store → Store := fun _ store => store
  afterPolls : Store → Store := fun store => store

/-- What a receiver finds after the others have acted, if each of its connections opens the store
anew. -/
def Others.reopening (others : Others) (reopen : Store → Store) : Others where
  beforePoll made store := reopen (others.beforePoll made store)
  afterPolls store := reopen (others.afterPolls store)

def interlude (act : Store → Store) : Operation Unit :=
  modify fun run => { run with store := act run.store }

def longestLimit : Nat := 9223372036854775807 * 1000

/-- When a wait that starts at `start` has to end. A limit beyond the longest one is none. -/
def deadline (start : Nat) (limit : Option Nat) : Option Nat :=
  (limit.filter (· ≤ longestLimit)).map (start + ·)

def nap? (pollInterval elapsed : Nat) : Option Nat → Option Nat
  | none => some pollInterval
  | some deadline =>
    if deadline ≤ elapsed then none else some (min pollInterval (deadline - elapsed))

/-- Poll the mailbox until there is a message or the deadline is reached, `made` polls having been
made. The last argument bounds the number of polls to come. -/
def poll (others : Others) (name : String) (deadline : Option Nat) (made : Nat) :
    Nat → Operation Reception
  | 0 => pure .stillWaiting
  | polls + 1 => do
    interlude (others.beforePoll made)
    match ← Mailbox.tryReceive name with
    | some message => pure (.delivered message)
    | none =>
      match nap? (← read).config.pollInterval (← get).elapsed deadline with
      | none =>
        Operation.notify (.receiveTimedOut name)
        pure .timedOut
      | some milliseconds =>
        Operation.sleep milliseconds
        poll others name deadline (made + 1) polls

/-- The number of polls that a wait is watched for: with a deadline, enough to reach it, as every
pause takes a millisecond or more. -/
def watched (patience : Nat) : Option Nat → Nat
  | some deadline => deadline + 1
  | none => patience

def wait (others : Others) (patience : Nat) (name : String) (limit : Option Nat) :
    Operation Reception := do
  let deadline := deadline (← get).elapsed limit
  poll others name deadline 0 (watched patience deadline)

/-- What is told of a wait and of the row after it. If both fail, the failure of the wait is. -/
def conclude (received : Except Failure Reception) (restored : Except Failure Unit) :
    Except Failure Reception := do
  let reception ← received
  restored
  pure reception

def receive (others : Others) (patience : Nat) (name : String) (limit : Option Nat) :
    Operation Reception := do
  discard (Registry.recordStatus name .waiting)
  let received ← Operation.outcome (wait others patience name limit)
  interlude others.afterPolls
  let restored ← Operation.outcome (discard (Registry.recordStatus name .running))
  conclude received restored

end Switchboard.Receive
