import WarehouseSchema.Datatype.Engine
import WarehouseSchema.Datatype.Length
import WarehouseSchema.Value

/-!
What can be wrong with a definition of a column type, of a column or of a table. Each fault is named
for its cause; its category, the option and the value it concerns and its wording are functions of
the cause.
-/

namespace WarehouseSchema

open Number

inductive FaultCategory where
  | type
  | length
  | compression
  | option
  | column
  | primaryKey
  deriving DecidableEq, Repr

def FaultCategory.name : FaultCategory → String
  | .type => "InvalidTypeError"
  | .length => "InvalidLengthError"
  | .compression => "InvalidCompressionError"
  | .option => "InvalidOptionError"
  | .column => "InvalidColumnError"
  | .primaryKey => "InvalidPrimaryKeyError"

def FaultCategory.code : FaultCategory → String
  | .type => "INVALID_TYPE"
  | .length => "INVALID_LENGTH"
  | .compression => "INVALID_COMPRESSION"
  | .option => "INVALID_OPTION"
  | .column => "INVALID_COLUMN"
  | .primaryKey => "INVALID_PRIMARY_KEY"

inductive DefinitionFault where
  | typeNotText (type : Value)
  | unknownType (engine : Engine) (type : String)
  | unreadableType (described : Value)
  | unknownTypeCode (code : Value)
  | lengthNotTextual (length : Value)
  | badLength (type length : String) (fault : LengthFault)
  | catalogNotInteger (field : String) (value : Value)
  | noColumnLength (code : String)
  | unknownOption (engine : Engine) (option : String) (value : Value)
  | nullableNotBoolean (value : Value)
  | unknownCompression (engine : Engine) (compression : Value)
  | unfitCompression (codec type : String) (compression : Value)
  | badColumnName (name : Value)
  | foreignDefinition (column : String) (expected actual : Engine)
  | notColumn (value : Value)
  | repeatedColumn (name : String)
  | noColumns
  | foreignColumn (generator column : Engine) (name : String)
  | keyOutsideTable (schema table key : String)
  | keyOutsideColumns (key : String)
  | repeatedKey (schema table : String) (keys : List String)
  deriving Repr

/-- The value that a fault concerns: one of a document, or a type definition of a warehouse. -/
inductive FaultSubject where
  | value (v : Value)
  | definition (engine : Engine)

namespace DefinitionFault

def category : DefinitionFault → FaultCategory
  | typeNotText _ | unknownType _ _ | unreadableType _ | unknownTypeCode _ => .type
  | lengthNotTextual _ | badLength _ _ _ | catalogNotInteger _ _ | noColumnLength _ => .length
  | unknownOption _ _ _ | nullableNotBoolean _ => .option
  | unknownCompression _ _ | unfitCompression _ _ _ => .compression
  | badColumnName _ | foreignDefinition _ _ _ | notColumn _ | repeatedColumn _ | noColumns
  | foreignColumn _ _ _ => .column
  | keyOutsideTable _ _ _ | keyOutsideColumns _ | repeatedKey _ _ _ => .primaryKey

def option? : DefinitionFault → Option String
  | typeNotText _ | unknownType _ _ | unreadableType _ | unknownTypeCode _ => some "type"
  | lengthNotTextual _ | badLength _ _ _ | catalogNotInteger _ _ | noColumnLength _ =>
    some "length"
  | unknownOption _ option _ => some option
  | nullableNotBoolean _ => some "nullable"
  | unknownCompression _ _ | unfitCompression _ _ _ => some "compression"
  | badColumnName _ | foreignDefinition _ _ _ | notColumn _ | repeatedColumn _ | noColumns
  | foreignColumn _ _ _ => none
  | keyOutsideTable _ _ _ | keyOutsideColumns _ | repeatedKey _ _ _ => some "primary_keys"

def subject : DefinitionFault → FaultSubject
  | typeNotText v | unreadableType v | unknownTypeCode v | lengthNotTextual v
  | catalogNotInteger _ v | unknownOption _ _ v | nullableNotBoolean v | unknownCompression _ v
  | unfitCompression _ _ v | badColumnName v | notColumn v => .value v
  | unknownType _ s | badLength _ s _ | repeatedColumn s | foreignColumn _ _ s
  | keyOutsideTable _ _ s | keyOutsideColumns s => .value (.text s)
  | noColumnLength _ | noColumns => .value .null
  | foreignDefinition _ _ actual => .definition actual
  | repeatedKey _ _ keys => .value (.tuple (keys.map .text))

/-- The wording of a fault. It is refused when it would have to show a value that cannot be written. -/
def message : DefinitionFault → Except TextFault String
  | typeNotText v => return "Type name must be a string, got " ++ (← v.literal)
  | unknownType e s => return s!"'{s}' is not a valid {e.title} type"
  | unreadableType v => return "Cannot parse Snowflake type '" ++ (← v.display) ++ "'"
  | unknownTypeCode v => return "Unknown Teradata column type code '" ++ (← v.display) ++ "'"
  | lengthNotTextual v => return "Length must be a string or an integer, got " ++ (← v.literal)
  | badLength type length fault =>
    return s!"Length '{length}' is not valid for type {type}: " ++ fault.message
  | catalogNotInteger field v =>
    return s!"Catalog field {field} must be an integer, got " ++ (← v.literal)
  | noColumnLength code => return s!"Catalog row for type code '{code}' has no ColumnLength"
  | unknownOption e option _ =>
    return s!"Option '{option}' not supported by {e.title}, allowed: " ++ ", ".intercalate e.options
  | nullableNotBoolean v => return "Option 'nullable' must be a boolean, got " ++ (← v.literal)
  | unknownCompression e v =>
    return "'" ++ (← v.display) ++ s!"' is not a valid {e.title} compression"
  | unfitCompression codec type _ =>
    return s!"Compression {codec} cannot be used with type {type}"
  | badColumnName v => return "Column name must be a non-empty string, got " ++ (← v.literal)
  | foreignDefinition column expected actual =>
    return s!"Column '{column}' requires a {expected.title} definition, got {actual.title}"
  | notColumn v => return "Expected a Column, got " ++ v.kind
  | repeatedColumn name => return s!"Column '{name}' is already defined"
  | noColumns => return "Table needs at least one column"
  | foreignColumn generator column name =>
    return s!"{generator.generatorTitle} cannot render {column.columnTitle} '{name}'"
  | keyOutsideTable schema table key =>
    return s!"Primary key '{key}' is not a column of {schema}.{table}"
  | keyOutsideColumns key => return s!"Primary key '{key}' is not a column"
  | repeatedKey schema table _ => return s!"Primary keys of {schema}.{table} contain duplicates"

end DefinitionFault

end WarehouseSchema
