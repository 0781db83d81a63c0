import WarehouseSchema.Yaml.Node
import WarehouseSchema.Yaml.Scalar

/-!
Documents as values. Collections are filled level by level, so that of two faults the one that lies
less deep is reported, and of two on one level the first. A mapping may take over the entries of
others; its own entries win over those, and later entries over earlier ones.
-/

namespace WarehouseSchema.Yaml

/-- A value, or a fault and the level on which it shows. -/
abbrev Made (α : Type) := Except (Nat × Fault) α

namespace Made

/-- Refuses a node for the kind of value that it should stand for. -/
def refuse {α : Type} : Made α := .error (0, .yaml .constructor)

/-- A result or fault on the level at hand. -/
def ofExcept {α : Type} : Except Fault α → Made α
  | .ok a => .ok a
  | .error fault => .error (0, fault)

def deeper {α : Type} : Made α → Made α
  | .ok a => .ok a
  | .error (level, fault) => .error (level + 1, fault)

/-- Both results, or the fault that shows first. -/
def both {α β : Type} : Made α → Made β → Made (α × β)
  | .ok a, .ok b => .ok (a, b)
  | .ok _, .error e => .error e
  | .error e, .ok _ => .error e
  | .error (i, e), .error (j, f) => if j < i then .error (j, f) else .error (i, e)

def map {α β : Type} (f : α → β) : Made α → Made β
  | .ok a => .ok (f a)
  | .error e => .error e

end Made

namespace Node

mutual

/-- Whether the entries of a mapping can be taken over where it says so. -/
def canMerge : List (Node × Node) → Bool
  | [] => true
  | (key, value) :: rest => (key.tag != .merge || isSource value) && canMerge rest

/-- Whether a node is a mapping or a list of mappings to take entries from. -/
def isSource : Node → Bool
  | .mapping _ entries => canMerge entries
  | .sequence _ items => areSources items
  | .scalar _ _ => false

/-- Whether all nodes are mappings to take entries from. -/
def areSources : List Node → Bool
  | [] => true
  | .mapping _ entries :: rest => canMerge entries && areSources rest
  | _ :: _ => false

end

mutual

/-- The text of a scalar, or of the value that stands for a mapping as a whole. -/
def scalarText : Node → Option String
  | .scalar _ text => some text
  | .mapping _ entries => wholeText entries
  | .sequence _ _ => none

/-- The text under the first key that stands for the mapping as a whole. -/
def wholeText : List (Node × Node) → Option String
  | [] => none
  | (key, value) :: rest => if key.tag = .value then scalarText value else wholeText rest

end

/-- The entries of a mapping: those taken over, and its own. -/
abbrev Entries := List (Value × Value) × List (Value × Value)

/-- All entries, those taken over first. -/
def Entries.all (e : Entries) : List (Value × Value) := e.1 ++ e.2

mutual

def make : Node → Made Value
  | .scalar tag text => Made.ofExcept (readScalar tag text)
  | .sequence tag items =>
    match tag with
    | .sequence => (makeItems items).map .list
    | .pairs => (makePairs items).map .list
    | _ => Made.refuse
  | .mapping tag entries =>
    match tag with
    | .mapping =>
      (makeMapping entries).map fun es =>
        .map (es.foldl (fun es e => Value.putEntry es e.1 e.2) [])
    | .set =>
      (makeMapping entries).map fun es =>
        .set ((es.foldl (fun es e => Value.putEntry es e.1 e.2) []).map (·.1))
    | .timestamp =>
      if (wholeText entries).isSome then Made.ofExcept (.error .wrongType) else Made.refuse
    | tag =>
      match wholeText entries with
      | some text => Made.ofExcept (readScalar tag text)
      | none => Made.refuse

/-- The value of an item: a collection is filled on the next level. -/
def makeChild (n : Node) : Made Value := if n.tag.isCollection then (make n).deeper else make n

def makeItems : List Node → Made (List Value)
  | [] => .ok []
  | n :: rest => (Made.both (makeChild n) (makeItems rest)).map fun r => r.1 :: r.2

/-- The pairs in a sequence of mappings with one entry each. -/
def makePairs : List Node → Made (List Value)
  | [] => .ok []
  | .mapping _ [(key, value)] :: rest =>
    (Made.both (Made.both (makeChild key) (makeChild value)) (makePairs rest)).map fun r =>
      .tuple [r.1.1, r.1.2] :: r.2
  | _ :: _ => Made.refuse

/-- The entries of a mapping in the order in which they are put. -/
def makeMapping (entries : List (Node × Node)) : Made (List (Value × Value)) :=
  if canMerge entries then (makeEntries entries).map Entries.all else Made.refuse

/-- The key of an entry; a collection cannot be one. -/
def makeKey (n : Node) : Made Value :=
  if n.tag.isCollection then Made.refuse
  else if n.tag = .value then
    match scalarText n with
    | some text => .ok (.text text)
    | none => Made.refuse
  else make n

/-- The entries that a mapping takes over, and its own. -/
def makeEntries : List (Node × Node) → Made Entries
  | [] => .ok ([], [])
  | (key, value) :: rest =>
    if key.tag = .merge then
      (Made.both (makeSource value) (makeEntries rest)).map fun r => (r.1 ++ r.2.1, r.2.2)
    else
      (Made.both (Made.both (makeKey key) (makeChild value)) (makeEntries rest)).map fun r =>
        (r.2.1, r.1 :: r.2.2)

/-- The entries of a mapping or of a list of mappings, of which the first is put last. -/
def makeSource : Node → Made (List (Value × Value))
  | .mapping _ entries => (makeEntries entries).map Entries.all
  | .sequence _ items => makeSources items
  | .scalar _ _ => Made.refuse

/-- The entries of a list of mappings, those of the last one first. -/
def makeSources : List Node → Made (List (Value × Value))
  | [] => .ok []
  | .mapping _ entries :: rest =>
    (Made.both (makeEntries entries) (makeSources rest)).map fun r => r.2 ++ r.1.all
  | _ :: _ => Made.refuse

end

mutual

/-- The greatest count of mappings, one inside the other, that are taken over. -/
def mergeDepth : Node → Nat
  | .scalar _ _ => 0
  | .sequence _ items => mergeDepthOfItems items
  | .mapping _ entries => mergeDepthOfEntries entries

def mergeDepthOfItems : List Node → Nat
  | [] => 0
  | n :: rest => max (mergeDepth n) (mergeDepthOfItems rest)

def mergeDepthOfEntries : List (Node × Node) → Nat
  | [] => 0
  | (key, value) :: rest =>
    let taken := if key.tag = .merge then mergeDepth value + 1 else mergeDepth value
    max (max (mergeDepth key) taken) (mergeDepthOfEntries rest)

end

end Node

/-- The value of the only document of a text with line feeds between its lines; `null` when there is
none. Whether mappings can be taken over one inside the other beyond the limit depends on the order in which
they are filled, which is not followed. -/
def read (text : String) : Except Fault Value := do
  match ← Node.ofChars? text.toList with
  | none => return .null
  | some n =>
    if Reading.depthLimit < n.mergeDepth then throw .tangled
    else
      match n.make with
      | .ok v => return v
      | .error (_, fault) => throw fault

end WarehouseSchema.Yaml
