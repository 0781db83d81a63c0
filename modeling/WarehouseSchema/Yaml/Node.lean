import WarehouseSchema.Yaml.Tag
import WarehouseSchema.Yaml.TokenStream

/-!
Nodes: the tree that the tokens of a document stand for. Anchors name nodes and references repeat
them; a collection that would hold itself is no tree and is not followed. Only one document may stand in
a text.
-/

namespace WarehouseSchema.Yaml

inductive Node where
  | scalar (tag : Tag) (text : String)
  | sequence (tag : Tag) (items : List Node)
  | mapping (tag : Tag) (entries : List (Node × Node))

namespace Node

def tag : Node → Tag
  | scalar tag _ | sequence tag _ | mapping tag _ => tag

/-- What stands for a value that is not written. -/
def missing : Node := scalar .null ""

end Node

/-- The tokens that are left, the fault behind them, the named nodes and the handles of tags. A name without
a node is that of a collection whose end has not been reached. -/
structure Reader where
  stream : TokenStream
  anchors : List (String × Option Node)
  handles : List (String × String)

abbrev Reading (α : Type) := StateT Reader (Except Fault) α

namespace Reading

/-- Stops because tokens do not follow the grammar. -/
def notNode {α : Type} : Reading α := throw (.yaml .parser)

/-- Stops because nodes do not fit together. -/
def notTree {α : Type} : Reading α := throw (.yaml .composer)

def peek : Reading Token := do
  let r ← get
  match r.stream.tokens, r.stream.fault with
  | t :: _, _ => return t
  | [], some fault => throw fault
  | [], none => return .streamEnd

def advance : Reading Unit :=
  modify fun r => { r with stream := { r.stream with tokens := r.stream.tokens.drop 1 } }

def sees (ts : List Token) : Reading Bool := do return ts.contains (← peek)

def accept (t : Token) : Reading Bool := do
  if (← peek) = t then
    advance
    return true
  else return false

/-- The greatest depth to which nodes are read. -/
def depthLimit : Nat := 480

/-- The handles that need no directive. -/
def standardHandles : List (String × String) := [("!", "!"), ("!!", Tag.standardAddress)]

structure Properties where
  anchor : Option String
  tag : Option (Option String × String)

def anchor? : Reading (Option String) := do
  match ← peek with
  | .anchor name =>
    advance
    return some name
  | _ => return none

def tag? : Reading (Option (Option String × String)) := do
  match ← peek with
  | .tag handle ending =>
    advance
    return some (handle, ending)
  | _ => return none

/-- Anchor and tag in either order. -/
def properties : Reading Properties := do
  match ← anchor? with
  | some name => return ⟨some name, ← tag?⟩
  | none =>
    match ← tag? with
    | some tag => return ⟨← anchor?, some tag⟩
    | none => return ⟨none, none⟩

/-- The address of a tag; its handle has to be known. -/
def address : Option (Option String × String) → Reading (Option String)
  | none => return none
  | some (none, ending) => return some ending
  | some (some handle, ending) => do
    match (← get).handles.lookup handle with
    | some start => return some (start ++ ending)
    | none => notNode

def checkAnchor (anchor : Option String) : Reading Unit := do
  match anchor with
  | some name => if ((← get).anchors.lookup name).isSome then notTree
  | none => return ()

def name (anchor : Option String) (n : Option Node) : Reading Unit :=
  match anchor with
  | some name => modify fun r => { r with anchors := (name, n) :: r.anchors }
  | none => return ()

/-- Whether a tag is left to the node itself. -/
def isOpen (address : Option String) : Bool := address.isNone || address == some "!"

def collectionTag (default : Tag) (address : Option String) : Tag :=
  if isOpen address then default else Tag.ofAddress (address.getD "")

def scalarTag (plain : Bool) (text : String) (address : Option String) : Tag :=
  match address with
  | none => if plain then Tag.ofPlain text else .text
  | some "!" => Tag.ofPlain text
  | some address => Tag.ofAddress address

/-- A collection: its name is known inside it, but has no node yet. -/
def collection (anchor : Option String) (read : Reading Node) : Reading Node := do
  checkAnchor anchor
  name anchor none
  let n ← read
  name anchor (some n)
  return n

mutual

/-- A node. `block` allows blocks, `indentless` a sequence whose entries are not indented. -/
def node : (fuel depth : Nat) → (block indentless : Bool) → Reading Node
  | 0, _, _, _ => throw .recursion
  | _, 0, _, _ => throw .recursion
  | fuel + 1, depth + 1, block, indentless => do
    match ← peek with
    | .reference anchor =>
      advance
      match (← get).anchors.lookup anchor with
      | some (some n) => return n
      | some none => throw .tangled
      | none => notTree
    | _ =>
      let props ← properties
      let address ← address props.tag
      let sequenceTag := collectionTag .sequence address
      let mappingTag := collectionTag .mapping address
      let sequence (items : Reading (List Node)) : Reading Node :=
        collection props.anchor do
          return .sequence sequenceTag (← items)
      let mapping (entries : Reading (List (Node × Node))) : Reading Node :=
        collection props.anchor do
          return .mapping mappingTag (← entries)
      match ← peek, indentless, block with
      | .blockEntry, true, _ => sequence (indentlessItems fuel depth)
      | .scalar text plain, _, _ =>
        advance
        checkAnchor props.anchor
        let n := Node.scalar (scalarTag plain text address) text
        name props.anchor (some n)
        return n
      | .flowSequenceStart, _, _ =>
        advance
        sequence (flowItems fuel depth true)
      | .flowMappingStart, _, _ =>
        advance
        mapping (flowEntries fuel depth true)
      | .blockSequenceStart, _, true =>
        advance
        sequence (blockItems fuel depth)
      | .blockMappingStart, _, true =>
        advance
        mapping (blockEntries fuel depth)
      | _, _, _ =>
        if props.anchor.isSome || props.tag.isSome then
          checkAnchor props.anchor
          let n := Node.scalar (scalarTag (isOpen address) "" address) ""
          name props.anchor (some n)
          return n
        else notNode

def blockItems : (fuel depth : Nat) → Reading (List Node)
  | 0, _ => throw .recursion
  | fuel + 1, depth => do
    if ← accept .blockEntry then
      let item ←
        if ← sees [.blockEntry, .blockEnd] then pure Node.missing else node fuel depth true false
      return item :: (← blockItems fuel depth)
    else if ← accept .blockEnd then return []
    else notNode

/-- The items of a sequence whose entries are not indented. -/
def indentlessItems : (fuel depth : Nat) → Reading (List Node)
  | 0, _ => throw .recursion
  | fuel + 1, depth => do
    if ← accept .blockEntry then
      let item ←
        if ← sees [.blockEntry, .key, .value, .blockEnd] then pure Node.missing
        else node fuel depth true false
      return item :: (← indentlessItems fuel depth)
    else return []

def blockEntries : (fuel depth : Nat) → Reading (List (Node × Node))
  | 0, _ => throw .recursion
  | fuel + 1, depth => do
    if ← accept .key then
      let key ←
        if ← sees [.key, .value, .blockEnd] then pure Node.missing else node fuel depth true true
      let value ←
        if ← accept .value then
          if ← sees [.key, .value, .blockEnd] then pure Node.missing
          else node fuel depth true true
        else pure Node.missing
      return (key, value) :: (← blockEntries fuel depth)
    else if ← accept .blockEnd then return []
    else notNode

/-- The items of a sequence in brackets; an item may be a pair of key and value. -/
def flowItems : (fuel depth : Nat) → (first : Bool) → Reading (List Node)
  | 0, _, _ => throw .recursion
  | fuel + 1, depth, first => do
    if ← accept .flowSequenceEnd then return []
    else
      if !first then
        if !(← accept .flowEntry) then notNode
      if ← sees [.key] then
        if depth = 0 then throw .recursion
        advance
        let key ←
          if ← sees [.value, .flowEntry, .flowSequenceEnd] then pure Node.missing
          else node fuel (depth - 1) false false
        let value ←
          if ← accept .value then
            if ← sees [.flowEntry, .flowSequenceEnd] then pure Node.missing
            else node fuel (depth - 1) false false
          else pure Node.missing
        return .mapping .mapping [(key, value)] :: (← flowItems fuel depth false)
      else if ← accept .flowSequenceEnd then return []
      else
        let item ← node fuel depth false false
        return item :: (← flowItems fuel depth false)

def flowEntries : (fuel depth : Nat) → (first : Bool) → Reading (List (Node × Node))
  | 0, _, _ => throw .recursion
  | fuel + 1, depth, first => do
    if ← accept .flowMappingEnd then return []
    else
      if !first then
        if !(← accept .flowEntry) then notNode
      if ← accept .key then
        let key ←
          if ← sees [.value, .flowEntry, .flowMappingEnd] then pure Node.missing
          else node fuel depth false false
        let value ←
          if ← accept .value then
            if ← sees [.flowEntry, .flowMappingEnd] then pure Node.missing
            else node fuel depth false false
          else pure Node.missing
        return (key, value) :: (← flowEntries fuel depth false)
      else if ← accept .flowMappingEnd then return []
      else
        let key ← node fuel depth false false
        return (key, .missing) :: (← flowEntries fuel depth false)

end

/-- What directives have said so far: whether there was a version, and the handles. -/
structure Directives where
  version : Bool
  handles : List (String × String)

def directives : Nat → Directives → Reading Directives
  | 0, ds => return ds
  | fuel + 1, ds => do
    match ← peek with
    | .version major _ =>
      advance
      if ds.version || major ≠ 1 then notNode else directives fuel { ds with version := true }
    | .handle name address =>
      advance
      if (ds.handles.lookup name).isSome then notNode
      else directives fuel { ds with handles := (name, address) :: ds.handles }
    | .directive =>
      advance
      directives fuel ds
    | _ => return ds

def documentEnds : Nat → Reading Unit
  | 0 => return ()
  | fuel + 1 => do if ← accept .documentEnd then documentEnds fuel

/-- The beginning of a further document up to its mark; false at the end of the text. -/
def documentStart (fuel : Nat) : Reading Bool := do
  documentEnds fuel
  if ← sees [.streamEnd] then return false
  else
    let ds ← directives fuel ⟨false, []⟩
    modify fun r => { r with handles := ds.handles ++ standardHandles }
    if ← accept .documentStart then return true else notNode

/-- Whether a token belongs to what stands between documents. -/
def isBetween : Token → Bool
  | .version _ _ | .handle _ _ | .directive | .documentStart | .streamEnd => true
  | _ => false

def isWithoutContent (t : Token) : Bool := isBetween t || t == .documentEnd

def document (fuel : Nat) : Reading (Option Node) := do
  let content : Reading Node := node fuel depthLimit true false
  let root ←
    if isBetween (← peek) then
      if ← documentStart fuel then
        if isWithoutContent (← peek) then pure (some Node.missing) else some <$> content
      else pure none
    else some <$> content
  match root with
  | none => return none
  | some n =>
    let _ ← accept .documentEnd
    if ← documentStart fuel then notTree else return some n

end Reading

/-- The node of the only document of a text; a text without a document has none. -/
def Node.ofChars? (cs : List Char) : Except Fault (Option Node) := do
  let stream := TokenStream.ofChars cs
  let fuel := 4 * stream.tokens.length + 16
  let (root, _) ← (Reading.document fuel).run ⟨stream, [], Reading.standardHandles⟩
  return root

end WarehouseSchema.Yaml
