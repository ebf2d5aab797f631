import Std.Time.DateTime.Timestamp
import Switchboard.CommandLine.Program
import Switchboard.Store.Archive

namespace Switchboard.CommandLine

def currentTime : IO Timestamp := do
  let nanos := (← Std.Time.Timestamp.now).toNanosecondsSinceUnixEpoch.val
  let fraction := (nanos % (nanosPerSecond : Int)).toNat
  pure ((Timestamp.ofUnix? (nanos / (nanosPerSecond : Int)) fraction).getD .epoch)

def currentEnvironment : IO Environment := do
  let names :=
    [Configuration.busyTimeoutName, Configuration.pollIntervalName, Configuration.lockRetriesName,
     Configuration.retryBackoffName, logVariable]
  let set ← names.filterMapM fun name => do
    pure ((← IO.getEnv name).map fun value => (name, value))
  let file ← (IO.FS.readFile environmentFile).toBaseIO
  pure (file.toOption.elim set (Environment.addFile set))

def parentPid : IO (Option Int) := do
  match ← (IO.FS.readFile "/proc/self/stat").toBaseIO with
  | .error _ => pure none
  | .ok stat =>
    let afterName := (stat.splitOn ") ").getLastD ""
    pure ((afterName.splitOn " ")[1]?.bind String.toInt?)

partial def readInput (input : IO.FS.Stream) (read : ByteArray) : IO ByteArray := do
  let more ← input.read 65536
  if more.isEmpty then pure read else readInput input (read ++ more)

def openFile (path : String) (access : Access) : IO (Option IO.FS.Handle) := do
  let mode : IO.FS.Mode := if access = .readOnly then .read else .readWrite
  match ← (IO.FS.Handle.mk path mode).toBaseIO with
  | .ok file => pure (some file)
  | .error _ =>
    if access ≠ .create then pure none
    else
      match ← (IO.FS.Handle.mk path .writeNew).toBaseIO with
      | .error _ => pure none
      | .ok _ => pure (← (IO.FS.Handle.mk path .readWrite).toBaseIO).toOption

def printNotices (env : Environment) (run : Run) : IO Unit := do
  let time := (← currentTime).write .exact
  let told : Report := { exitCode := 0, notices := run.notices.reverse }
  (← IO.getStderr).putStr (told.log (logLevel env (some .warn)) time)

/-- Work on the store in a file, which nobody else can use meanwhile. -/
def onOpenFile {α : Type} (file : IO.FS.Handle) (address : Address)
    (work : Store → Except Failure α × Run) : IO (Except Failure α × Run) := do
  file.lock
  let before := Store.ofFileText (← file.readToEnd)
  let (outcome, left) := work { before with readOnly := address.isReadOnly }
  if left.store.unopenable.isNone && !address.isReadOnly then
    file.rewind
    file.truncate
    file.putStr left.store.fileText
    file.flush
  file.unlock
  pure (outcome, left)

def onStore {α : Type} (path : String) (work : Store → Except Failure α × Run) :
    IO (Except Failure α × Run) := do
  match Address.ofText path with
  | .error cause => pure (work { unopenable := some cause })
  | .ok address =>
    if address.isFleeting then pure (work { readOnly := address.isReadOnly })
    else
      match String.fromUTF8? ⟨address.path.toArray⟩ with
      | none => pure (work { unopenable := some .cannotOpen })
      | some name =>
        match ← openFile name address.access with
        | none => pure (work { unopenable := some .cannotOpen })
        | some file => onOpenFile file address work

/-- Carry out an operation on the store of a handle, and print what it tells. The handle is given back
as the operation leaves it. -/
def onFile {α : Type} (env : Environment) (handle : Handle) (op : Operation α) :
    IO (Except Failure α × Handle) := do
  let now ← currentTime
  let (outcome, left) ← onStore handle.path (handle.perform op now)
  printNotices env left
  pure (outcome, handle.after left)

/-- The longest time in milliseconds that one call sleeps. -/
def longestSleep : Nat := 2147483648

partial def await (env : Environment) (handle : Handle) (name : String) (elapsed : Nat)
    (deadline : Option Nat) : IO (Except Failure Receive.Reception × Handle) := do
  let (outcome, handle) ← onFile env handle (Mailbox.tryReceive name)
  match outcome with
  | .error failure => pure (.error failure, handle)
  | .ok (some message) => pure (.ok (.delivered message), handle)
  | .ok none =>
    match Receive.nap? handle.config.pollInterval elapsed deadline with
    | none => pure (.ok .timedOut, handle)
    | some nap =>
      let nap := min nap longestSleep
      IO.sleep (UInt32.ofNat nap)
      await env handle name (elapsed + nap) deadline

def receive (env : Environment) (handle : Handle) (name : String) (limit : Option Nat) :
    IO (Except Failure Receive.Reception) := do
  let (recorded, handle) ← onFile env handle (Registry.recordStatus name .waiting)
  match recorded with
  | .error failure => pure (.error failure)
  | .ok _ =>
    let (received, handle) ← await env handle name 0 (Receive.deadline 0 limit)
    let (restored, _) ← onFile env handle (Registry.recordStatus name .running)
    pure (Receive.conclude received (restored.map fun _ => ()))

def carryOut (env : Environment) (request : Request) (handle : Handle) :
    IO (Except Failure (Option Output)) := do
  match request.command with
  | .recv name seconds =>
    let received ← receive env handle name (recvLimit seconds)
    pure (received.map recvOutput)
  | .send _ _ none =>
    let input := (← readInput (← IO.getStdin) .empty).toList
    pure (← onFile env handle (request.command.execute { input })).1
  | command =>
    pure (← onFile env handle (command.execute { parentPid := ← parentPid })).1

def printReport (report : Report) : IO UInt32 := do
  (← IO.getStdout).putStr report.output
  (← IO.getStderr).putStr report.complaint
  pure (UInt32.ofNat report.exitCode)

def runProgram (words : List String) : IO UInt32 := do
  let env ← currentEnvironment
  match prepare words env with
  | .error report => printReport report
  | .ok (request, config) =>
    let handle : Handle := { path := request.store, config }
    let outcome ← carryOut env request handle
    printReport (report outcome { store := {} })

end Switchboard.CommandLine

def main (words : List String) : IO UInt32 :=
  Switchboard.CommandLine.runProgram words
