import WarehouseSchema.Datatype.Fault

/-!
Everything that can stop an operation of the library, by cause. `name` is the word under which a
fault is reported and `message` its wording.
-/

namespace WarehouseSchema

open Number

/-- What is wrong with the shape of one place of a document. -/
inductive ShapeFault where
  | missing
  | extraForbidden
  | modelType
  | stringType
  | stringUnicode
  | boolType
  | boolParsing
  | intType
  | intParsing
  | intFromFloat
  | listType
  | dictType
  | tooShort
  | invalidKey
  | atLeast
  | atMost
  | finiteNumber
  | intParsingSize
  deriving DecidableEq, Repr

def ShapeFault.name : ShapeFault → String
  | .missing => "missing"
  | .extraForbidden => "extra_forbidden"
  | .modelType => "model_type"
  | .stringType => "string_type"
  | .stringUnicode => "string_unicode"
  | .boolType => "bool_type"
  | .boolParsing => "bool_parsing"
  | .intType => "int_type"
  | .intParsing => "int_parsing"
  | .intFromFloat => "int_from_float"
  | .listType => "list_type"
  | .dictType => "dict_type"
  | .tooShort => "too_short"
  | .invalidKey => "invalid_key"
  | .atLeast => "greater_than_equal"
  | .atMost => "less_than_equal"
  | .finiteNumber => "finite_number"
  | .intParsingSize => "int_parsing_size"

/-- A place in a document, from the outside in, and what is wrong there. -/
abbrev ShapeReport := List (List String × ShapeFault)

/-- The stage at which a text stops being a YAML document. -/
inductive YamlFault where
  | reader
  | scanner
  | parser
  | composer
  | constructor
  deriving DecidableEq, Repr

def YamlFault.name : YamlFault → String
  | .reader => "ReaderError"
  | .scanner => "ScannerError"
  | .parser => "ParserError"
  | .composer => "ComposerError"
  | .constructor => "ConstructorError"

/-- What does not match when a reflected table is compared with its definition. -/
inductive Mismatch where
  | columns
  | keys
  deriving DecidableEq, Repr

/-- Why a text is not a table of comma-separated values. -/
inductive CsvFault where
  | noColumns
  | fieldCount (expected line seen : Nat)
  | openQuote (row : Nat)
  | negativeRows
  | infiniteToInteger
  deriving DecidableEq, Repr

def CsvFault.name : CsvFault → String
  | .noColumns => "EmptyDataError"
  | .fieldCount .. | .openQuote _ => "ParserError"
  | .negativeRows => "ValueError"
  | .infiniteToInteger => "IntCastingNaNError"

def CsvFault.message : CsvFault → String
  | .noColumns => "No columns to parse from file"
  | .fieldCount expected line seen =>
    s!"Error tokenizing data. C error: Expected {expected} fields in line {line}, saw {seen}\n"
  | .openQuote row => s!"Error tokenizing data. C error: EOF inside string starting at row {row}"
  | .negativeRows => "'nrows' must be an integer >=0"
  | .infiniteToInteger =>
    "Cannot convert non-finite values (NA or inf) to integer. Replace or remove non-finite values or cast to an integer type that supports these values (e.g. 'Int64')"

inductive PathFault where
  | missing
  | exists
  | notFolder
  | isFolder
  | tooLong
  | nullCharacter
  deriving DecidableEq, Repr

def PathFault.name : PathFault → String
  | .missing => "FileNotFoundError"
  | .exists => "FileExistsError"
  | .notFolder => "NotADirectoryError"
  | .isFolder => "IsADirectoryError"
  | .tooLong => "OSError"
  | .nullCharacter => "ValueError"

def PathFault.message (path : String) : PathFault → String
  | .missing => "[Errno 2] No such file or directory: " ++ Text.literal path
  | .exists => "[Errno 17] File exists: " ++ Text.literal path
  | .notFolder => "[Errno 20] Not a directory: " ++ Text.literal path
  | .isFolder => "[Errno 21] Is a directory: " ++ Text.literal path
  | .tooLong => "[Errno 36] File name too long: " ++ Text.literal path
  | .nullCharacter => "embedded null byte"

/-- What a warehouse says when it refuses a statement or a connection. -/
structure QueryFailure where
  text : String
  sql : Option String
  cause : Option String
  deriving DecidableEq, Repr

inductive Fault where
  | definition (fault : DefinitionFault)
  | numeral (fault : NumeralFault)
  | calendar (fault : Calendar.Fault)
  | infiniteInteger
  | notANumberInteger
  | tooLargeInteger
  | tooLargeFloat
  | notCharacter
  | unknownEngine (name : String)
  | missingKey (key : Value)
  | wrongAttribute
  | wrongType
  | notPair (index size : Nat)
  | notNumber (text : String)
  | noRow
  | query (failure : QueryFailure)
  | verification (mismatch : Mismatch) (schema table : String) (expected actual : List String)
  | shape (report : ShapeReport)
  | yaml (fault : YamlFault)
  | codePoint (n : Nat)
  | csv (fault : CsvFault)
  | settings
  | path (fault : PathFault) (path : String)
  | missingCredentials (names : List String)
  | noNewName
  | recursion
  /-- A text of YAML that is not followed; what comes of it is left open. -/
  | tangled
  | overflow (text : String)
  | badFormat (text : String)
  deriving Repr

namespace Fault

def name : Fault → String
  | definition fault => fault.category.name
  | numeral _ | calendar _ | notANumberInteger | unknownEngine _ | missingCredentials _
  | notPair .. | notNumber _ | noNewName | badFormat _ => "ValueError"
  | infiniteInteger | tooLargeInteger | tooLargeFloat | notCharacter | overflow _ =>
    "OverflowError"
  | missingKey _ => "KeyError"
  | wrongAttribute => "AttributeError"
  | wrongType => "TypeError"
  | noRow => "IndexError"
  | query _ => "QueryExecutionError"
  | verification .. => "TableVerificationError"
  | shape _ => "ValidationError"
  | yaml fault => fault.name
  | codePoint n => if n < halfWord then "ValueError" else "OverflowError"
  | csv fault => fault.name
  | settings => "SettingsError"
  | Fault.path fault _ => fault.name
  | recursion => "RecursionError"
  | tangled => "NotImplementedError"

/-- The wording of a fault; faults whose wording is not fixed have none. -/
def message? : Fault → Option String
  | definition fault => fault.message.toOption
  | numeral fault => some fault.message
  | calendar fault => some fault.message
  | infiniteInteger => some "cannot convert float infinity to integer"
  | notANumberInteger => some "cannot convert float NaN to integer"
  | tooLargeInteger => some "Python int too large to convert to C ssize_t"
  | tooLargeFloat => some "int too large to convert to float"
  | notCharacter => some "%c arg not in range(0x110000)"
  | unknownEngine name =>
    some (s!"Unsupported engine '{name}', expected one of: " ++
      ", ".intercalate (Engine.all.map Engine.name))
  | missingKey key => key.literal.toOption
  | notPair index size =>
    some s!"dictionary update sequence element #{index} has length {size}; 2 is required"
  | notNumber text => some ("could not convert string to float: " ++ Text.literal text)
  | query failure => some failure.text
  | verification .columns schema table _ _ => some s!"Columns of {schema}.{table} do not match"
  | verification .keys schema table _ _ => some s!"Primary keys of {schema}.{table} do not match"
  | codePoint n =>
    some (if n < halfWord then "chr() arg not in range(0x110000)"
      else "Python int too large to convert to C int")
  | csv fault => some fault.message
  | Fault.path fault p => some (fault.message p)
  | missingCredentials names =>
    some ("Missing required environment variables: " ++ ", ".intercalate names)
  | noNewName => some "rename needs --new-name"
  | badFormat text | overflow text => some text
  | wrongAttribute | wrongType | noRow | shape _ | yaml _ | settings | recursion | tangled =>
    none

def ofNumeral {α : Type} : Except NumeralFault α → Except Fault α
  | .ok a => .ok a
  | .error fault => .error (.numeral fault)

def ofTextFault : TextFault → Fault
  | .numeral fault => .numeral fault
  | .tooDeep => .recursion

def ofText {α : Type} : Except TextFault α → Except Fault α
  | .ok a => .ok a
  | .error fault => .error (ofTextFault fault)

end Fault

/-- Stops with a definition fault, or with what keeps its wording from being written. -/
def DefinitionFault.raise {α : Type} (fault : DefinitionFault) : Except Fault α :=
  match fault.message with
  | .ok _ => .error (.definition fault)
  | .error unwritten => .error (.ofTextFault unwritten)

end WarehouseSchema
