import WarehouseSchema.Fault
import WarehouseSchema.Storage.Path

/-!
Folders and the text files in them, with a working folder where relative paths start. Reading and
writing find out where a path leads first: every name before the last has to be a folder, and two
dots lead to the folder around. Main statement: what is written to a path is read from it.
-/

namespace WarehouseSchema

/-- What stands at a place: a folder or a file. -/
inductive Entry where
  | folder
  | file (text : String)
  deriving DecidableEq, Repr

/-- The names on the way from the root. -/
abbrev Location := List String

/-- Folders and files by location, and the location of the working folder. -/
structure Files where
  entries : List (Location × Entry)
  working : Location
  deriving Repr

namespace Files

/-- What stands at a location; the root is a folder. -/
def entryAt? (fs : Files) (at_ : Location) : Option Entry :=
  if at_ = [] then some .folder else fs.entries.lookup at_

def put (fs : Files) (at_ : Location) (entry : Entry) : Files :=
  if fs.entries.any (·.1 == at_) then
    { fs with entries := fs.entries.map fun e => if e.1 == at_ then (at_, entry) else e }
  else { fs with entries := fs.entries ++ [(at_, entry)] }

/-- The greatest size of a name in octets. -/
def nameLimit : Nat := 255

/-- The size in octets that a path has to stay below. -/
def pathLimit : Nat := 4096

/-- Where names lead from a folder; the last one need not be there. -/
def follow (fs : Files) : Location → List String → Except PathFault Location
  | here, [] => .ok here
  | here, name :: rest =>
    match fs.entryAt? here with
    | none => .error .missing
    | some (.file _) => .error .notFolder
    | some .folder =>
      if name = ".." then follow fs here.dropLast rest
      else if nameLimit < name.utf8ByteSize then .error .tooLong
      else follow fs (here ++ [name]) rest

def locate (fs : Files) (p : Path) : Except PathFault Location :=
  if p.text.toList.contains (Char.ofNat 0) then .error .nullCharacter
  else if pathLimit ≤ p.text.utf8ByteSize then .error .tooLong
  else fs.follow (if p.isAbsolute then [] else fs.working) p.parts

def entry (fs : Files) (p : Path) : Except PathFault Entry :=
  match fs.locate p with
  | .error fault => .error fault
  | .ok at_ =>
    match fs.entryAt? at_ with
    | some e => .ok e
    | none => .error .missing

def contains (fs : Files) (p : Path) : Except Fault Bool :=
  match fs.entry p with
  | .ok _ => .ok true
  | .error .tooLong => .error (.path .tooLong p.text)
  | .error _ => .ok false

def read (fs : Files) (p : Path) : Except Fault String :=
  match fs.entry p with
  | .ok (.file text) => .ok text
  | .ok .folder => .error (.path .isFolder p.text)
  | .error fault => .error (.path fault p.text)

/-- The text of the file that a text names. An empty text names none, and a fault shows the text as it
is. -/
def readNamed (fs : Files) (name : String) : Except Fault String :=
  if name = "" then .error (.path .missing name)
  else
    match fs.entry (Path.ofText name) with
    | .ok (.file text) => .ok text
    | .ok .folder => .error (.path .isFolder name)
    | .error fault => .error (.path fault name)

/-- The files with a folder at a path, whose parent has to be there. -/
def makeOne (fs : Files) (p : Path) : Except PathFault Files :=
  match fs.locate p with
  | .error fault => .error fault
  | .ok at_ =>
    match fs.entryAt? at_ with
    | some .folder => .ok fs
    | some (.file _) => .error .exists
    | none =>
      match fs.entryAt? at_.dropLast with
      | some .folder => .ok (fs.put at_ .folder)
      | some (.file _) => .error .notFolder
      | none => .error .missing

/-- The files with folders at a path and on the way to it. -/
def makeParts (fs : Files) (root : String) : Nat → List String → Except Fault Files
  | fuel, parts =>
    match fs.makeOne ⟨root, parts⟩, fuel with
    | .ok fs, _ => .ok fs
    | .error .missing, fuel + 1 => do
      let fs ← makeParts fs root fuel parts.dropLast
      match fs.makeOne ⟨root, parts⟩ with
      | .ok fs => return fs
      | .error fault => throw (.path fault (Path.text ⟨root, parts⟩))
    | .error fault, _ => .error (.path fault (Path.text ⟨root, parts⟩))

def makeFolder (fs : Files) (p : Path) : Except Fault Files :=
  fs.makeParts p.root p.parts.length p.parts

/-- The files with this text in the file at a path; its folder has to be there. -/
def write (fs : Files) (p : Path) (text : String) : Except Fault Files :=
  match fs.locate p with
  | .error fault => .error (.path fault p.text)
  | .ok at_ =>
    match fs.entryAt? at_ with
    | some .folder => .error (.path .isFolder p.text)
    | some (.file _) => .ok (fs.put at_ (.file text))
    | none =>
      match fs.entryAt? at_.dropLast with
      | some .folder => .ok (fs.put at_ (.file text))
      | some (.file _) => .error (.path .notFolder p.text)
      | none => .error (.path .missing p.text)

/-- The files at and below the working folder by their relative path. -/
def below (fs : Files) : List (String × String) :=
  fs.entries.filterMap fun e =>
    match e.2 with
    | .folder => none
    | .file text =>
      if fs.working.isPrefixOf e.1 then
        some ("/".intercalate (e.1.drop fs.working.length), text)
      else none

/-- The files with this text in the file at a path, and with the folders that it needs. -/
def withFile (fs : Files) (p : Path) (text : String) : Except Fault Files := do
  (← fs.makeFolder p.parent).write p text

def emptyAt (working : Location) : Files :=
  { entries := (List.range working.length).map fun k => (working.take (k + 1), .folder), working }

def empty : Files := emptyAt ["tmp", "work"]

/-- The files that are not in `before` as they are here, by location. -/
def changesSince (fs before : Files) : List (Location × String) :=
  fs.entries.filterMap fun e =>
    match e.2 with
    | .folder => none
    | .file text => if before.entryAt? e.1 = some (.file text) then none else some (e.1, text)

end Files

end WarehouseSchema
