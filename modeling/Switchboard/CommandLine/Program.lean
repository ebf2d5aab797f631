import Switchboard.CommandLine.Execution
import Switchboard.CommandLine.Help
import Switchboard.CommandLine.Parser
import Switchboard.Environment
import Switchboard.Handle
import Switchboard.Store.Directory

namespace Switchboard.CommandLine

def usageExitCode : Nat := 2

structure Report where
  exitCode : Nat
  /-- What is printed for programs to read. -/
  output : String := ""
  notices : List Notice := []
  complaint : String := ""

def endedLines (lines : List String) : String := String.join (lines.map (· ++ "\n"))

/-- What is printed for people to read: the notices of a level and above, each after the time, and
then the complaint. Without a level no notice is printed. -/
def Report.log (level : Option Level) (time : String) (report : Report) : String :=
  let shown := report.notices.filter fun notice => level.any notice.isOf
  endedLines (shown.map fun notice => time ++ " " ++ notice.line) ++ report.complaint

def usageComplaint (e : UsageError) : String :=
  let hint := match e with
    | .unknownCommand name =>
      (suggest name).toList.map fun sub => "did you mean `" ++ Vocabulary.word sub ++ "`?"
    | _ => []
  endedLines
    (["error: " ++ e.message] ++ hint ++ ["run `" ++ programName ++ " --help` for usage"])

def failureReport (failure : Failure) : Report :=
  { exitCode := failure.kind.exitCode, complaint := endedLines ["error: " ++ failure.message] }

def printed (text : String) : String := if text.isEmpty then "" else text ++ "\n"

def report (outcome : Except Failure (Option Output)) (run : Run) : Report :=
  match outcome with
  | .ok (some output) =>
    { exitCode := output.exitCode, output := printed output.text, notices := run.notices.reverse }
  | .ok none => { exitCode := 0, notices := run.notices.reverse }
  | .error failure => { failureReport failure with notices := run.notices.reverse }

def environmentFile : String := ".env"

/-- What a command line comes to before any store is touched: a command and the configuration to
carry it out with, or a report that ends the run. -/
def prepare (words : List String) (env : Environment) : Except Report (Request × Configuration) :=
  match Order.parse words with
  | .error e => .error { exitCode := usageExitCode, complaint := usageComplaint e }
  | .ok .help => .error { exitCode := 0, output := helpText }
  | .ok .version => .error { exitCode := 0, output := printed versionText }
  | .ok (.run request) =>
    match Configuration.ofLookup env.get? with
    | .error failure => .error (failureReport failure)
    | .ok config => .ok (request, config)

def run (words : List String) (env : Environment) (now : Timestamp) (around : Surroundings)
    (files : Directory) : Report × Directory :=
  let env := (files.text? environmentFile).elim env env.addFile
  match prepare words env with
  | .error report => (report, files)
  | .ok (request, config) =>
    let handle : Handle := { path := request.store, config }
    let around := around.reopening (files.reopened request.store)
    let (outcome, left) :=
      handle.perform (request.command.execute around) now (files.storeAt request.store)
    (report outcome left, files.save request.store left.store)

def logVariable : String := "COORD_LOG"

/-- The level that the variables ask for, with or without the program's name before it. -/
def logLevel (env : Environment) (otherwise : Option Level) : Option Level :=
  match env.get? logVariable with
  | none => otherwise
  | some setting =>
    match setting.splitOn "=" with
    | [name] => Level.ofName? name
    | [target, name] => if target = programName then Level.ofName? name else none
    | _ => none

end Switchboard.CommandLine
