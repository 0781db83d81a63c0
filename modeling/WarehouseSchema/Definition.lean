import WarehouseSchema.Datatype.Catalogue
import WarehouseSchema.Value.Entries

/-!
Column type definitions. `Definition.make` checks and normalizes the type name and the options of a
column type; what it returns always belongs to its warehouse's catalogue. A definition can be
written as a record and made again from it, evolved by replacing options, and rendered as SQL.
-/

namespace WarehouseSchema

open Text Number

/-- A checked column type of a warehouse. -/
structure Definition where
  engine : Engine
  type : String
  length : Option String
  nullable : Bool
  default : Option String
  compression : Option String
  deriving DecidableEq, Repr, Inhabited

/-- The least of the texts, by code points. -/
def leastText? : List String → Option String
  | [] => none
  | s :: rest =>
    match leastText? rest with
    | none => some s
    | some t => some (if t < s then t else s)

namespace Engine

/-- The warehouse with this name in any letter case. -/
def ofName (name : String) : Except Fault Engine :=
  match all.find? fun e => e.name == lower name with
  | some e => .ok e
  | none => .error (.unknownEngine name)

/-- The catalogue's spelling of a type name: blanks squeezed and letters in upper case. -/
def normalizeType (e : Engine) : Value → Except Fault String
  | .text s =>
    let type := upper (squeeze s)
    if e.types.contains type then .ok type else (DefinitionFault.unknownType e s).raise
  | v => (DefinitionFault.typeNotText v).raise

/-- Refuses the least option name that the warehouse does not know. -/
def checkOptions (e : Engine) (options : Record) : Except Fault Unit :=
  match leastText? ((options.map (·.1)).filter fun name => !e.options.contains name) with
  | none => .ok ()
  | some name => (DefinitionFault.unknownOption e name (options.get name)).raise

/-- The codec that a compression option names, if any; it has to fit the type. -/
def normalizeCompression (e : Engine) (type : String) (compression : Value) :
    Except Fault (Option String) :=
  match compression with
  | .null => .ok none
  | v => do
    let codec := upper (trim (← Fault.ofText v.display))
    if codec = "" then return none
    else
      match e.codecs.lookup codec with
      | none => (DefinitionFault.unknownCompression e v).raise
      | some basetypes =>
        if basetypes.contains (e.basetype type) then return some codec
        else (DefinitionFault.unfitCompression codec type v).raise

end Engine

/-- The length that an option gives, without blanks at its ends; a blank one counts as none. -/
def normalizeLength : Value → Except Fault (Option String)
  | .null => .ok none
  | .int n => do return some (← Fault.ofNumeral (writeInt n))
  | .text s => let t := trim s; .ok (if t = "" then none else some t)
  | v => (DefinitionFault.lengthNotTextual v).raise

def checkLength (rule : LengthRule) (type : String) (length : Option String) :
    Except Fault Unit :=
  match length with
  | none => .ok ()
  | some s => do
    match ← Fault.ofNumeral (rule.faultOf s) with
    | none => return ()
    | some fault => (DefinitionFault.badLength type s fault).raise

/-- Whether nulls are allowed: yes unless an option says otherwise. -/
def normalizeNullable : Option Value → Except Fault Bool
  | none => .ok true
  | some (.bool b) => .ok b
  | some v => (DefinitionFault.nullableNotBoolean v).raise

def normalizeDefault : Value → Except Fault (Option String)
  | .null => .ok none
  | v => do return some (← Fault.ofText v.display)

namespace Definition

def make (e : Engine) (type : Value) (options : Record) : Except Fault Definition := do
  let type ← e.normalizeType type
  e.checkOptions options
  let length ← normalizeLength (options.get "length")
  checkLength (e.lengthRule type) type length
  let nullable ← normalizeNullable (options.find? "nullable")
  let default ← normalizeDefault (options.get "default")
  let compression ← e.normalizeCompression type (options.get "compression")
  return { engine := e, type, length, nullable, default, compression }

def optionValue : Option String → Value
  | none => .null
  | some s => .text s

/-- The definition's options as a record, without the type. -/
def optionRecord (d : Definition) : Record :=
  [("length", optionValue d.length), ("nullable", .bool d.nullable),
   ("default", optionValue d.default)] ++
    if d.engine.hasCompression then [("compression", optionValue d.compression)] else []

def toRecord (d : Definition) : Record := ("type", .text d.type) :: d.optionRecord

def ofRecord (e : Engine) (r : Record) : Except Fault Definition :=
  match r.find? "type" with
  | none => .error (.missingKey (.text "type"))
  | some type => make e type (r.erase "type")

/-- The definition with some of its options replaced. -/
def evolve (d : Definition) (options : Record) : Except Fault Definition :=
  make d.engine (.text d.type) (d.optionRecord.merge options)

/-- The definition of the type that stands for a base type. -/
def ofBasetype (e : Engine) (b : Basetype) (nullable length : Value) : Except Fault Definition :=
  make e (.text (e.typeOf b)) [("nullable", nullable), ("length", length)]

/-- The definition of the type that stands for the base type with this name. -/
def ofBasetypeName (e : Engine) (name nullable length : Value) : Except Fault Definition :=
  match name.text?.bind Basetype.ofName? with
  | some b => ofBasetype e b nullable length
  | none => .error (if name.canBeKey then .missingKey name else .wrongType)

def basetype (d : Definition) : Basetype := d.engine.basetype d.type

/-- `TYPE` or `TYPE(length)`. -/
def typeSql (d : Definition) : String :=
  match d.length with
  | none => d.type
  | some length => d.type ++ "(" ++ length ++ ")"

/-- The compression clause, empty when there is no codec. -/
def compressionSql (d : Definition) : String :=
  match d.compression with
  | none => ""
  | some codec => " ENCODE " ++ codec

def sql (d : Definition) : String := d.typeSql ++ d.compressionSql

/-- Named facts about the definition; length, default and compression only when there are any. -/
def metadata (d : Definition) : Record :=
  let optional (name : String) (value : Option String) : Record :=
    (value.map fun s => ("KBC.datatype." ++ name, Value.text s)).toList
  [("KBC.datatype.type", .text d.type), ("KBC.datatype.nullable", .bool d.nullable),
   ("KBC.datatype.basetype", .text d.basetype.name)] ++
    optional "length" d.length ++ optional "default" d.default ++
    optional "compression" d.compression

end Definition

end WarehouseSchema
