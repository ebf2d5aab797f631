import Switchboard.Store.Address
import Switchboard.Store.Tampering

namespace Switchboard

abbrev FileName := List UInt8

/-- A file so many directories up. -/
structure Place where
  ups : Nat
  name : FileName
  deriving DecidableEq, Repr

inductive File where
  | store (store : Store)
  | text (content : String)

/-- The engine takes a file of one byte for an empty one. -/
def File.isBlank : File → Bool
  | .store _ => false
  | .text content => content.utf8ByteSize ≤ 1

abbrev Directory := List (Place × File)

namespace Directory

def put (files : Directory) (place : Place) (file : File) : Directory :=
  (place, file) :: files.filter fun (other, _) => other ≠ place

@[simp]
theorem lookup_put_self (files : Directory) (place : Place) (file : File) :
    (files.put place file).lookup place = some file := by
  simp [put]

theorem lookup_put_of_ne (files : Directory) {place other : Place} (file : File)
    (h : other ≠ place) : (files.put place file).lookup other = files.lookup other := by
  have hne : (other == place) = false := by simpa using h
  rw [put, List.lookup_cons, hne]
  induction files with
  | nil => rfl
  | cons entry rest ih =>
    obtain ⟨key, kept⟩ := entry
    by_cases hkey : key = place
    · subst hkey
      simpa [List.lookup_cons, hne] using ih
    · by_cases hother : other = key
      · subst hother
        simp [hkey]
      · have hbeq : (other == key) = false := by simpa using hother
        simpa [List.lookup_cons, hkey, hbeq] using ih

def slash : UInt8 := '/'.toUInt8

def here : FileName := Address.bytes "."

def above : FileName := Address.bytes ".."

def maxNameSize : Nat := 255

/-- The longest name of a store. The engine keeps files of its own beside it, whose names are up to
eight bytes longer. -/
def maxStoreNameSize : Nat := 247

def parts (path : List UInt8) : List FileName :=
  (path.splitBy fun a b => a ≠ slash && b ≠ slash).filter fun part => !part.contains slash

structure Way where
  ups : Nat := 0
  down : List FileName := []

/-- Go one part further. A file leads nowhere, and a missing directory to nothing. -/
def follow (files : Directory) (way : Way) (part : FileName) : Except EngineError Way :=
  let further : Way := { way with down := part :: way.down }
  if part = here then .ok way
  else if part = above then
    match way.down with
    | [] => .ok { way with ups := way.ups + 1 }
    | _ :: down => .ok { way with down }
  else
    match way.down with
    | [] => if part.length ≤ maxNameSize then .ok further else .error .cannotOpen
    | [name] =>
      if (files.lookup ⟨way.ups, name⟩).isSome then .error .cannotOpen else .ok further
    | _ => .ok further

def placeOf (files : Directory) (path : List UInt8) : Except EngineError Place := do
  if path.head? = some slash then throw .cannotOpen
  let way ← (parts path).foldlM (follow files) {}
  match way.down with
  | [name] => .ok ⟨way.ups, name⟩
  | _ => throw .cannotOpen

def plainPlace? (path : String) : Option Place :=
  let bytes := Address.bytes path
  let parts := (parts bytes).filter (· ≠ here)
  let isFile := (parts.getLast?.getD []).length ≤ maxNameSize && !bytes.contains 0 &&
    bytes.head? ≠ some slash && !path.endsWith "/" && !path.endsWith "/."
  match parts.dropWhile (· = above) with
  | [name] => if isFile then some ⟨parts.length - 1, name⟩ else none
  | _ => none

def blankStore (address : Address) (place : Place) : Store :=
  if maxStoreNameSize < place.name.length then { unopenable := some .cannotOpen }
  else if address.immutable then { readOnly := true }
  else if address.access = .readOnly then { unopenable := some .readOnly }
  else {}

def opened (files : Directory) (address : Address) (place : Place) : Store :=
  match files.lookup place with
  | some (.store store) => { store with readOnly := store.readOnly || address.isReadOnly }
  | some file =>
    if file.isBlank then blankStore address place else { unopenable := some .notADatabase }
  | none =>
    if address.access = .create then blankStore address place
    else { unopenable := some .cannotOpen }

/-- The address that a text denotes, and the place to which it leads. There is no place for a store
that is not kept. -/
def locate (files : Directory) (path : String) : Except EngineError (Address × Option Place) := do
  let address ← Address.ofText path
  if address.isFleeting then .ok (address, none)
  else .ok (address, some (← placeOf files address.path))

def storeAt (files : Directory) (path : String) : Store :=
  match locate files path with
  | .error cause => { unopenable := some cause }
  | .ok (address, none) => { readOnly := address.isReadOnly }
  | .ok (address, some place) => opened files address place

/-- What is found of a store that has been left when its path is opened again. Nothing is left of one
that is not kept. -/
def reopened (files : Directory) (path : String) (store : Store) : Store :=
  match locate files path with
  | .ok (_, none) => files.storeAt path
  | _ => store

/-- Somebody has opened the store, and has made its tables therefore. -/
def isMade (store : Store) : Bool :=
  store.unopenable.isNone && TableName.all.any store.tables.has

/-- The directory after a store has been worked on. A store that could not be opened or written
leaves nothing, and neither does one that nobody has opened. -/
def save (files : Directory) (path : String) (store : Store) : Directory :=
  match locate files path with
  | .ok (address, some place) =>
    if isMade store && !address.isReadOnly then files.put place (.store store) else files
  | _ => files

def tamper (files : Directory) (path : String) (tampering : Tampering) : Directory :=
  match locate files path with
  | .ok (_, some place) =>
    match files.lookup place, tampering with
    | some (.store store), _ => files.put place (.store (tampering.act store))
    | some file, .makeReadOnly =>
      if file.isBlank then files.put place (.store { unopenable := some .readOnly }) else files
    | file, .createForeign _ =>
      if file.all File.isBlank then files.put place (.store (tampering.act {})) else files
    | _, _ => files
  | _ => files

def write (files : Directory) (path content : String) : Directory :=
  match plainPlace? path with
  | some place => files.put place (.text content)
  | none => files

def text? (files : Directory) (path : String) : Option String :=
  match (plainPlace? path).bind fun place => files.lookup place with
  | some (.text content) => some content
  | _ => none

end Directory

end Switchboard
