import Switchboard.Text.Numeral
import Switchboard.Vocabulary

namespace Switchboard.CommandLine

inductive UsageError where
  | missing (argument : String)
  | unknownCommand (name : String)
  | unknownFlag (flag command : String)
  | unexpected (argument command : String)
  | invalid (argument reason : String)
  deriving DecidableEq, Repr

def UsageError.message : UsageError → String
  | .missing argument => "Missing required argument: " ++ argument
  | .unknownCommand name => "Unknown command: " ++ name
  | .unknownFlag flag command => "Unknown flag " ++ flag ++ " for " ++ command
  | .unexpected argument command => "Unexpected argument " ++ argument ++ " for " ++ command
  | .invalid argument reason => "Invalid argument value for " ++ argument ++ ": " ++ reason

structure FlagSpec where
  values : List String := []
  switches : List String := []
  deriving DecidableEq, Repr

/-- Words taken apart. `values` holds every flag that was given a value, in the order of the
words. -/
structure Arguments where
  positionals : List String := []
  values : List (String × String) := []
  switches : List String := []
  deriving DecidableEq, Repr

namespace Arguments

/-- A word of two dashes and more: the name of a flag, and what comes after the first `=`. -/
def flag? (word : String) : Option (String × Option String) :=
  match word.toList with
  | '-' :: '-' :: c :: cs =>
    let name := (c :: cs).takeWhile (· ≠ '=')
    match (c :: cs).drop name.length with
    | [] => some (String.ofList name, none)
    | _ :: value => some (String.ofList name, some (String.ofList value))
  | _ => none

def addPositional (word : String) (args : Arguments) : Arguments :=
  { args with positionals := word :: args.positionals }

def addValue (name value : String) (args : Arguments) : Arguments :=
  { args with values := (name, value) :: args.values }

def addSwitch (name : String) (args : Arguments) : Arguments :=
  { args with switches := name :: args.switches }

/-- Take the words of a command apart. The first word that does not fit decides the error. -/
def split (command : String) (spec : FlagSpec) : List String → Except UsageError Arguments
  | [] => .ok {}
  | word :: rest =>
    if word = "--" then .ok { positionals := rest }
    else
      match flag? word with
      | none => (split command spec rest).map (addPositional word)
      | some (name, inline) =>
        if name ∈ spec.values then
          match inline, rest with
          | some value, rest => (split command spec rest).map (addValue name value)
          | none, value :: rest => (split command spec rest).map (addValue name value)
          | none, [] => .error (.missing ("--" ++ name))
        else if name ∈ spec.switches ∧ inline = none then
          (split command spec rest).map (addSwitch name)
        else .error (.unknownFlag word command)

/-- The value of a flag is the one given last. -/
def value? (args : Arguments) (name : String) : Option String :=
  args.values.reverse.lookup name

def hasSwitch (args : Arguments) (name : String) : Bool :=
  args.switches.contains name

end Arguments

abbrev Take (α : Type) := StateT Arguments (Except UsageError) α

namespace Take

abbrev Reading (α : Type) := String → Except String α

def int64 : Reading Int := fun s => (Text.readInt64 s.toList).mapError (·.message)

def nat64 : Reading Nat := fun s => (Text.readNat64 s.toList).mapError (·.message)

def positive : Reading Int := fun s => do
  let n ← int64 s
  if 0 < n then .ok n else .error s!"must be positive, got {n}"

def parsed {α : Type} (name : String) (reading : Reading α) (raw : String) : Take α :=
  match reading raw with
  | .ok a => pure a
  | .error reason => throw (.invalid name reason)

def optional : Take (Option String) := do
  let args ← get
  match args.positionals with
  | [] => pure none
  | word :: rest =>
    set { args with positionals := rest }
    pure (some word)

def required (name : String) : Take String := do
  match ← optional with
  | some word => pure word
  | none => throw (.missing name)

def optionalAs {α : Type} (name : String) (reading : Reading α) : Take (Option α) := do
  match ← optional with
  | some raw => some <$> parsed name reading raw
  | none => pure none

def requiredAs {α : Type} (name : String) (reading : Reading α) : Take α := do
  parsed name reading (← required name)

def rest : Take (List String) := do
  let args ← get
  set { args with positionals := [] }
  pure args.positionals

def value (flag : String) : Take (Option String) := do
  pure ((← get).value? flag)

def valueAs {α : Type} (flag : String) (reading : Reading α) : Take (Option α) := do
  match ← value flag with
  | some raw => some <$> parsed ("--" ++ flag) reading raw
  | none => pure none

def switch (flag : String) : Take Bool := do
  pure ((← get).hasSwitch flag)

def finish (command : String) : Take Unit := do
  match (← get).positionals with
  | [] => pure ()
  | word :: _ => throw (.unexpected word command)

end Take

end Switchboard.CommandLine
