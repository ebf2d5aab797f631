import Switchboard.Time.Reader

namespace Switchboard

structure Message where
  id : Int
  createdAt : Timestamp
  sender : Option String
  target : String
  body : String
  claimed : Bool
  claimedBy : Option String
  claimedAt : Option Timestamp
  deriving DecidableEq

namespace Message

def unclaimed (id : Int) (createdAt : Timestamp) (sender : Option String) (target body : String) :
    Message :=
  { id, createdAt, sender, target, body, claimed := false, claimedBy := none, claimedAt := none }

/-- Waiting in the mailbox of `name`. -/
def waitsFor (name : String) (m : Message) : Bool :=
  m.target == name && !m.claimed

def claimFor (name : String) (now : Timestamp) (m : Message) : Message :=
  { m with claimed := true, claimedBy := some name, claimedAt := some now }

def toJson (m : Message) : Json :=
  .object
    [("id", .int m.id),
     ("created_at", m.createdAt.toJson),
     ("sender", .optionalText m.sender),
     ("target", .text m.target),
     ("body", .text m.body),
     ("claimed", .bool m.claimed),
     ("claimed_by", .optionalText m.claimedBy),
     ("claimed_at", (m.claimedAt.map Timestamp.toJson).getD .null)]

def ofJson? (json : Json) : Option Message := do
  let members ← json.record?
    ["id", "created_at", "sender", "target", "body", "claimed", "claimed_by", "claimed_at"]
  some
    { id := ← required? Json.int64? members "id"
      createdAt := ← required? Timestamp.ofJson? members "created_at"
      sender := ← optional? Json.text? members "sender"
      target := ← required? Json.text? members "target"
      body := ← required? Json.text? members "body"
      claimed := ← required? Json.bool? members "claimed"
      claimedBy := ← optional? Json.text? members "claimed_by"
      claimedAt := ← optional? Timestamp.ofJson? members "claimed_at" }

end Message

end Switchboard
