import Switchboard.Transaction

namespace Switchboard.Mailbox

def waiting (name : String) (messages : List (Entry Message)) : List (Entry Message) :=
  messages.filter (Entry.waitsFor name)

def claimColumns : List String := ["claimed", "claimed_by", "claimed_at"]

def send (target body : String) (sender : Option String) : Operation Int := do
  Operation.connect
  let id ← Operation.transaction do
    let id ← Operation.mintId
    let message := Message.unclaimed id (← read).now sender target body
    Operation.statement .sendMessage (Statement.insert message)
    pure id
  Operation.notify (.messageSent id target)
  pure id

inductive ClaimAttempt where
  | claimed (message : Message)
  | empty
  | lost (id : Int)

def claimOldest (name : String) : Operation ClaimAttempt := do
  let oldest ← Operation.statement .readMailbox
    (Statement.select Message fun messages => (waiting name messages).take 1)
  match oldest with
  | [] => pure .empty
  | e :: _ =>
    let message := e.record
    let claim := Message.claimFor name (← read).now
    let count ← Operation.statement .claimMessage
      (Statement.update (fun e => e.record.id == message.id && e.isUnclaimed) claimColumns claim)
    if count = 0 then pure (.lost message.id) else pure (.claimed (claim message))

/-- Claim the oldest message. As often as somebody else was faster, try again. -/
def claimNext (name : String) : Nat → Operation (Option Message)
  | 0 => pure none
  | passes + 1 => do
    match ← Operation.transaction (claimOldest name) with
    | .claimed message =>
      Operation.notify (.messageClaimed message.id name)
      pure (some message)
    | .empty => pure none
    | .lost id =>
      Operation.notify (.claimLost id name)
      claimNext name passes

/-- How often claiming can fail to come first before nothing is left, and once more. -/
def passes (name : String) : Operation Nat := do
  pure ((waiting name ((← get).store.tables.rows Message)).length + 1)

def tryReceive (name : String) : Operation (Option Message) := do
  Operation.connect
  claimNext name (← passes name)

/-- Claim every message that is waiting, provided that these are the ones that were read. -/
def claimAll (name : String) : Operation (Option (List Message)) := do
  let entries ← Operation.statement .readMailbox (Statement.select Message (waiting name))
  match entries.getLast? with
  | none => pure (some [])
  | some newest =>
    let claim := Message.claimFor name (← read).now
    let count ← Operation.statement .drainMailbox
      (Statement.update (fun e => e.waitsFor name && e.record.id ≤ newest.record.id) claimColumns
        claim)
    if count = entries.length then pure (some (entries.map fun e => claim e.record))
    else pure none

/-- Claim every message that is waiting. As often as these changed meanwhile, try again. -/
def drainNext (name : String) : Nat → Operation (List Message)
  | 0 => pure []
  | passes + 1 => do
    match ← Operation.transactionIf Option.isSome (claimAll name) with
    | some messages =>
      Operation.notify (.mailboxDrained messages.length name)
      pure messages
    | none =>
      Operation.notify (.drainLost name)
      drainNext name passes

def drain (name : String) : Operation (List Message) := do
  Operation.connect
  drainNext name (← passes name)

def check (name : String) : Operation Int := do
  Operation.connect
  let messages ← Operation.statement .countMessages (Statement.rows Message "target")
  pure (messages.countP (Entry.waitsFor name))

def history (name : String) : Operation (List Message) := do
  Operation.connect
  let entries ← Operation.statement .loadMailbox
    (Statement.select Message fun messages => messages.filter (·.record.target == name))
  pure (entries.map (·.record))

end Switchboard.Mailbox
