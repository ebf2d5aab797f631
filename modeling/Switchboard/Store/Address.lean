import Switchboard.Store.EngineError
import Switchboard.Text.Numeral
import Switchboard.Text.Utf8

namespace Switchboard

inductive Access where
  | readOnly
  | existing
  | create
  /-- There is no file, and nothing is kept. -/
  | memory
  deriving DecidableEq, Repr

namespace Access

def ofWord? : String → Option Access
  | "ro" => some .readOnly
  | "rw" => some .existing
  | "rwc" => some .create
  | "memory" => some .memory
  | _ => none

def rank : Access → Nat
  | .readOnly => 0
  | .existing => 1
  | .create => 2
  | .memory => 3

/-- Of two accesses that an address asks for, the later one holds. It may not be the wider one. -/
def allows (current wanted : Access) : Bool :=
  wanted = .memory || wanted.rank ≤ current.rank

end Access

structure Address where
  path : List UInt8
  access : Access := .create
  /-- Whoever asks has promised that nobody writes to the file, and does not write either. -/
  immutable : Bool := false
  deriving DecidableEq, Repr

namespace Address

def bytes (s : String) : List UInt8 := s.toUTF8.toList

def hexDigit? (c : Char) : Option Nat :=
  if '0' ≤ c ∧ c ≤ '9' then some (c.toNat - '0'.toNat)
  else if 'a' ≤ c ∧ c ≤ 'f' then some (c.toNat - 'a'.toNat + 10)
  else if 'A' ≤ c ∧ c ≤ 'F' then some (c.toNat - 'A'.toNat + 10)
  else none

def hexByte? (high low : Char) : Option UInt8 := do
  some (UInt8.ofNat (16 * (← hexDigit? high) + (← hexDigit? low)))

/-- The bytes for which a part of an address stands. A zero byte ends the part. -/
def decode : List Char → List UInt8
  | '%' :: high :: low :: rest =>
    match hexByte? high low with
    | some byte => if byte = 0 then [] else byte :: decode rest
    | none => String.utf8EncodeChar '%' ++ decode (high :: low :: rest)
  | c :: rest => String.utf8EncodeChar c ++ decode rest
  | [] => []

def decodeText (cs : List Char) : String :=
  String.ofList ((Text.Utf8.decode (decode cs)).toOption.getD [])

def splitAtMark (mark : Char) (cs : List Char) : List Char × List Char :=
  (cs.takeWhile (· ≠ mark), (cs.dropWhile (· ≠ mark)).drop 1)

/-- The names and the values of the options. One without a name is passed over. -/
def options (cs : List Char) : List (String × String) :=
  let parts := (String.ofList cs).splitOn "&"
  let pairs := parts.map fun part =>
    let (name, value) := splitAtMark '=' part.toList
    (decodeText name, decodeText value)
  pairs.filter fun (name, _) => name ≠ ""

def readOption (access : Access) : String × String → Except EngineError Access
  | ("mode", value) =>
    match Access.ofWord? value with
    | none => .error (.other 1 ("no such access mode: " ++ value))
    | some wanted =>
      if access.allows wanted then .ok wanted
      else .error (.other 3 ("access mode not allowed: " ++ value))
  | ("cache", value) =>
    if value ∈ ["shared", "private"] then .ok access
    else .error (.other 1 ("no such cache mode: " ++ value))
  | _ => .ok access

def fileLayers : List String := ["unix", "unix-none", "unix-dotfile", "unix-excl"]

def memoryLayer : String := "memdb"

/-- The access through the layer that is named last, if there is such a layer. -/
def readLayer (access : Access) (options : List (String × String)) : Except EngineError Access :=
  match options.reverse.lookup "vfs" with
  | none => .ok access
  | some layer =>
    if layer ∈ fileLayers then .ok access
    else if layer = memoryLayer then .ok .memory
    else .error (.other 1 ("no such vfs: " ++ layer))

def saysYes (value : String) : Bool :=
  match value.toList.takeWhile Char.isDigit with
  | [] => ["on", "yes", "true"].contains value.toLower
  | digits => ((Text.readNat64 digits).toOption.getD 1) % 256 != 0

def dropAuthority : List Char → Except EngineError (List Char)
  | '/' :: '/' :: rest =>
    let authority := String.ofList (rest.takeWhile (· ≠ '/'))
    if authority ∈ ["", "localhost"] then .ok (rest.dropWhile (· ≠ '/'))
    else .error (.other 1 ("invalid uri authority: " ++ authority))
  | cs => .ok cs

def ofUri (cs : List Char) : Except EngineError Address := do
  let cs := (← dropAuthority cs).takeWhile (· ≠ '#')
  let (path, rest) := splitAtMark '?' cs
  let options := options rest
  let access ← options.foldlM readOption .create
  let access ← readLayer access options
  .ok { path := decode path, access, immutable := (options.lookup "immutable").any saysYes }

def ofText (s : String) : Except EngineError Address :=
  if s.toList.contains '\x00' then .error .badPath
  else
    match s.toList with
    | 'f' :: 'i' :: 'l' :: 'e' :: ':' :: rest => ofUri rest
    | _ => .ok { path := bytes s }

/-- No file keeps the store: it is forgotten as soon as it is closed. -/
def isFleeting (address : Address) : Bool :=
  address.access = .memory || address.path = [] || address.path = bytes ":memory:"

def isReadOnly (address : Address) : Bool :=
  address.access = .readOnly || address.immutable

end Address

end Switchboard
