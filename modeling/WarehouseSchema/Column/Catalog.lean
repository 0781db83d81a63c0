import WarehouseSchema.Column.Basic

/-!
Columns from rows of a warehouse's catalog. Every warehouse describes its columns in fields of its
own; field names may come in any letter case. The type text that Snowflake shows is read by
`DescribedType.ofText?`.
-/

namespace WarehouseSchema

open Text Number

/-- An octet of ASCII that is not one of the four separators, blanks of a text but not of octets. -/
def isPlainOctet (b : UInt8) : Bool := b < 128 && !(28 ≤ b && b ≤ 31)

/-- The integer that a value stands for: a truth value counts as 0 or 1, a fraction is cut off, and octets
of ASCII are read like a text. -/
def Value.toInteger : Value → Except Fault Int
  | .int n => .ok n
  | .bool b => .ok (if b then 1 else 0)
  | .text s => Fault.ofNumeral (readInt s)
  | .octets bytes =>
    let s := String.ofList (bytes.map fun b => Char.ofNat b.toNat)
    if bytes.all isPlainOctet then Fault.ofNumeral (readInt s) else .error (.numeral (.malformed 10 s))
  | .float x =>
    match x with
    | .nan => .error .notANumberInteger
    | .infinite _ => .error .infiniteInteger
    | .finite _ _ _ => .ok (x.truncate?.getD 0)
  | _ => .error .wrongType

namespace Catalog

def trimmedField (row : Record) (field : String) : Value := (row.getAnyCase field .null).trimmed

/-- The integer in a field; an absent, null or blank field has none. -/
def integer (row : Record) (field : String) : Except Fault (Option Int) :=
  let value := trimmedField row field
  match value with
  | .null | .text "" => .ok none
  | v =>
    match v.toInteger with
    | .ok n => .ok (some n)
    | .error .infiniteInteger => .error .infiniteInteger
    | .error _ => (DefinitionFault.catalogNotInteger field v).raise

/-- Whether a field says that nulls are allowed. -/
def nullable (row : Record) (field yes : String) : Bool :=
  (row.getAnyCase field (.text yes)).trimmed.isText yes

/-- The literal of a numeric scale, an empty one counting as zero. -/
def scaleText (v : Value) : Except TextFault String :=
  if v.isTruthy then v.display else return "0"

/-- The length in a Redshift row: precision and scale of a decimal type, else the character
length. -/
def redshiftLength (type : Value) (row : Record) : Except Fault Value := do
  let precision := row.getAnyCase "numeric_precision" .null
  let decimal := type.isText "DECIMAL" || type.isText "NUMERIC"
  match decimal, precision with
  | true, .null | false, _ =>
    match row.getAnyCase "character_maximum_length" .null with
    | .null => return .null
    | v => return .text (← Fault.ofText v.display)
  | true, v =>
    let p ← Fault.ofText v.display
    let s ← Fault.ofText (scaleText (row.getAnyCase "numeric_scale" .null))
    return .text (p ++ "," ++ s)

/-- The codec in a Redshift row; an empty encoding and `none` in any letter case are none. Octets have a
lower case too, but it is not the text `none`. -/
def redshiftEncoding (row : Record) : Except Fault Value :=
  let encoding := trimmedField row "encoding"
  match encoding with
  | .text s => .ok (if s = "" || lower s = "none" then .null else encoding)
  | .octets bytes => .ok (if bytes = [] then .null else encoding)
  | v => if v.isTruthy then .error .wrongAttribute else .ok .null

def redshiftColumn (row : Record) : Except Fault Column := do
  let type ←
    match row.getAnyCase "data_type" .null with
    | .null => pure Value.null
    | v => pure (Value.text (upper (squeeze (← Fault.ofText v.display))))
  let length ← redshiftLength type row
  let compression ← redshiftEncoding row
  let d ← Definition.make .redshift type
    [("length", length), ("nullable", .bool (nullable row "is_nullable" "YES")),
     ("default", row.getAnyCase "column_default" .null), ("compression", compression)]
  Column.make .redshift (row.getAnyCase "column_name" .null) d

/-- A type as a table description shows it: a name and, in parentheses, a length. -/
structure DescribedType where
  name : List Char
  length : Option (List Char)
  deriving DecidableEq, Repr

def isNameStart (c : Char) : Bool := ('A' ≤ c && c ≤ 'Z') || ('a' ≤ c && c ≤ 'z') || c == '_'

def isNameChar (c : Char) : Bool := isNameStart c || isDigit c || c == ' '

/-- The text in parentheses that fill the rest of a described type; it holds no line feed. -/
def parenthesized? (cs : List Char) : Option (List Char) :=
  match cs with
  | '(' :: body =>
    match (dropEndWhile isBlank body).reverse with
    | ')' :: inner => if inner.contains '\n' then none else some inner.reverse
    | _ => none
  | _ => none

/-- Reads a described type; blanks may stand before, between and behind its parts. -/
def DescribedType.ofChars? (cs : List Char) : Option DescribedType :=
  let body := cs.dropWhile isBlank
  match body with
  | [] => none
  | c :: _ =>
    if isNameStart c then
      let name := dropEndWhile (· == ' ') (body.takeWhile isNameChar)
      match (body.drop name.length).dropWhile isBlank with
      | [] => some ⟨name, none⟩
      | rest => (parenthesized? rest).map fun length => ⟨name, some length⟩
    else none

/-- The column that a row of Snowflake's table description describes. -/
def snowflakeColumn (row : Record) : Except Fault Column := do
  let described := row.getAnyCase "type" .null
  match (described.text?).bind fun s => DescribedType.ofChars? s.toList with
  | none => (DefinitionFault.unreadableType described).raise
  | some t =>
    let d ← Definition.make .snowflake (.text (String.ofList t.name))
      [("length", Definition.optionValue (t.length.map String.ofList)),
       ("nullable", .bool ((row.getAnyCase "null?" (.text "Y")).isText "Y")),
       ("default", row.getAnyCase "default" .null)]
    Column.make .snowflake (row.getAnyCase "name" .null) d

/-- What the fields of a Teradata row say about the length of a type. -/
inductive LengthSource where
  | characters
  | octets
  | digits
  | fraction
  | nothing
  deriving DecidableEq, Repr

/-- The type codes of Teradata's column catalog, each with its type and the source of its length. -/
def typeCodes : List (String × String × LengthSource) :=
  [("I1", "BYTEINT", .nothing), ("I2", "SMALLINT", .nothing), ("I", "INTEGER", .nothing),
   ("I8", "BIGINT", .nothing), ("D", "DECIMAL", .digits), ("N", "NUMBER", .digits),
   ("F", "FLOAT", .nothing), ("CF", "CHAR", .characters), ("CV", "VARCHAR", .characters),
   ("CO", "CLOB", .characters), ("BF", "BYTE", .octets), ("BV", "VARBYTE", .octets),
   ("BO", "BLOB", .octets), ("DA", "DATE", .nothing), ("AT", "TIME", .fraction),
   ("TZ", "TIME WITH TIME ZONE", .fraction), ("TS", "TIMESTAMP", .fraction),
   ("SZ", "TIMESTAMP WITH TIME ZONE", .fraction), ("JN", "JSON", .nothing), ("XM", "XML", .nothing)]

/-- The kind of characters that take two octets each. -/
def wideCharacters : Int := 2

def integerValue : Option Int → Value
  | none => .null
  | some n => .int n

/-- The length in a Teradata row. A character length is counted in octets and halved for wide
characters; a negative count of digits means an unbounded number. -/
def teradataLength (code : String) (source : LengthSource) (row : Record) : Except Fault Value :=
  match source with
  | .nothing => .ok .null
  | .octets => do return integerValue (← integer row "ColumnLength")
  | .fraction => do return integerValue (← integer row "DecimalFractionalDigits")
  | .characters => do
    match ← integer row "ColumnLength" with
    | none => (DefinitionFault.noColumnLength code).raise
    | some n =>
      let kind := (← integer row "CharType").getD 1
      return .int (if kind = wideCharacters then n / 2 else n)
  | .digits => do
    match ← integer row "DecimalTotalDigits" with
    | none => return .null
    | some n =>
      if n < 0 then return .null
      else
        let p ← Fault.ofNumeral (writeInt n)
        let scale := (← integer row "DecimalFractionalDigits").getD 0
        let s ← Fault.ofNumeral (writeInt scale)
        return .text (p ++ "," ++ s)

def teradataColumn (row : Record) : Except Fault Column := do
  let code := trimmedField row "ColumnType"
  if !code.canBeKey then throw .wrongType
  match (code.text?).bind fun s => (typeCodes.lookup s).map fun entry => (s, entry) with
  | none => (DefinitionFault.unknownTypeCode code).raise
  | some (s, type, source) =>
    let length ← teradataLength s source row
    let d ← Definition.make .teradata (.text type)
      [("length", length), ("nullable", .bool (nullable row "Nullable" "Y")),
       ("default", row.getAnyCase "DefaultValue" .null)]
    Column.make .teradata (trimmedField row "ColumnName") d

end Catalog

def Column.ofRow : Engine → Record → Except Fault Column
  | .redshift => Catalog.redshiftColumn
  | .snowflake => Catalog.snowflakeColumn
  | .teradata => Catalog.teradataColumn

end WarehouseSchema
