import WarehouseSchema.Text.Basic

/-!
Paths of files and folders. A path is a list of names from a root or from the working folder; empty
names and single dots do not count.
-/

namespace WarehouseSchema

open Text

/-- A path. `root` is empty for one that starts at the working folder. -/
structure Path where
  root : String
  parts : List String
  deriving DecidableEq, Repr

namespace Path

/-- The root that a text starts with: exactly two slashes are kept, more are one. -/
def rootOf (cs : List Char) : String :=
  match (cs.takeWhile (· == '/')).length with
  | 0 => ""
  | 2 => "//"
  | _ => "/"

def ofText (s : String) : Path :=
  ⟨rootOf s.toList,
    ((splitOn '/' s.toList).map String.ofList).filter fun part => part != "" && part != "."⟩

/-- The text of a path; the working folder is a dot. -/
def text (p : Path) : String :=
  if p.root = "" && p.parts.isEmpty then "." else p.root ++ "/".intercalate p.parts

def isAbsolute (p : Path) : Bool := p.root != ""

/-- The path `q` as seen from `p`. -/
def join (p q : Path) : Path := if q.isAbsolute then q else ⟨p.root, p.parts ++ q.parts⟩

def parent (p : Path) : Path := ⟨p.root, p.parts.dropLast⟩

end Path

end WarehouseSchema
