import Switchboard.Operation

namespace Switchboard

structure Duration where
  seconds : UInt64
  /-- Less than a second. -/
  nanoseconds : UInt32
  deriving DecidableEq, Repr

namespace Duration

def ofMilliseconds (n : UInt64) : Duration where
  seconds := n / 1000
  nanoseconds := (n % 1000).toUInt32 * 1000000

def milliseconds (d : Duration) : BitVec 128 :=
  d.seconds.toBitVec.setWidth 128 * 1000 + (d.nanoseconds / 1000000).toBitVec.setWidth 128

def doubled (n : BitVec 128) : BitVec 128 :=
  if n.umulOverflow 2 then .allOnes 128 else n * 2

/-- A number in 64 bits, or the largest one of these if that is less. -/
def narrowed (n : BitVec 128) : UInt64 :=
  if n.toNat < UInt64.size then .ofBitVec (n.setWidth 64) else .ofBitVec (.allOnes 64)

end Duration

namespace Operation

variable {α : Type}

def maxBackoff : Duration := { seconds := 2, nanoseconds := 0 }

def nextBackoff (backoff : Duration) : Duration :=
  let doubled := Duration.doubled backoff.milliseconds
  let longest := maxBackoff.milliseconds
  .ofMilliseconds (Duration.narrowed (if doubled ≤ longest then doubled else longest))

def tryLock (whenBusy : EngineError → Operation Unit) : Operation Unit := do
  match ← carryOut Statement.takeLock with
  | .ok () => pure ()
  | .error cause =>
    if cause.isBusy then whenBusy cause else throw (.statement .beginTransaction cause)

/-- Take the lock on writing. While the store is busy, try so many times more, pausing before each
of them; `attempt` counts the pauses so far. -/
def takeLock (attempt : UInt32) (backoff : Duration) : Nat → Operation Unit
  | 0 => tryLock fun cause => do throw (.lockedOut (← read).path attempt.toNat cause)
  | retries + 1 => tryLock fun _ => do
    let milliseconds := backoff.milliseconds
    notify (.databaseBusy (attempt + 1).toNat (Duration.narrowed milliseconds).toNat)
    sleep milliseconds.toNat
    takeLock (attempt + 1) (nextBackoff backoff) retries

def beginTransaction : Operation Unit := do
  let config := (← read).config
  takeLock 0 (.ofMilliseconds (.ofNat config.retryBackoff)) config.lockRetries

def noTransaction : EngineError := .other 1 "cannot rollback - no transaction is active"

/-- Bring the store back to what it was. That the engine fails to do so is only told, because it
drops what was not committed in any case. -/
def rollback (before : Store) (failure : Option Failure) : Operation Unit := do
  let undone := match failure with
    | some (.statement _ cause) => cause.endsTransaction
    | _ => false
  let giveBack := if undone then throw noTransaction else Statement.giveLockBack
  match ← carryOut giveBack with
  | .ok () => pure ()
  | .error cause => notify (.rollbackFailed cause)
  modify fun run => { run with store := before }

def commit (before : Store) : Operation Unit := do
  match ← carryOut Statement.giveLockBack with
  | .ok () => pure ()
  | .error cause =>
    modify fun run => { run with store := before }
    throw (.statement .commitTransaction cause)

/-- Carry out a body as one transaction. What it wrote is kept if it succeeds with an answer that is
to be kept, and else undone. -/
def transactionIf (keep : α → Bool) (body : Operation α) : Operation α := do
  beginTransaction
  let before := (← get).store
  match ← outcome body with
  | .ok a =>
    if keep a then commit before else rollback before none
    pure a
  | .error failure =>
    rollback before failure
    throw failure

def transaction (body : Operation α) : Operation α :=
  transactionIf (fun _ => true) body

def openStore : Operation Unit := do
  statement (.openStore (← read).path) Statement.openFile

def createTable (name : TableName) : Operation Unit := do
  statement .createSchema (Statement.createTable name)
  unless name = .sequence do
    statement .createSchema (Statement.createIndex name)

def createSchema : Operation Unit := do
  transaction (TableName.all.forM createTable)
  modify fun run => { run with ready := true }

def inspectSchema : Operation Bool := do
  let found ← TableName.all.mapM fun name => statement .inspectSchema (Statement.hasTable name)
  pure (found.all id)

/-- Open the store. A handle that has not yet seen the schema complete makes sure of it. -/
def connect : Operation Unit := do
  openStore
  unless (← get).ready do
    if ← inspectSchema then modify fun run => { run with ready := true }
    else createSchema

def init : Operation Unit := do
  openStore
  createSchema
  notify (.storeInitialized (← read).path)

def mintId : Operation Int := statement .mintId Statement.mint

end Operation

end Switchboard
