import WarehouseSchema.Proofs.Outcome
import WarehouseSchema.Reflection.Rows

/-!
The faults of reading. A definition, a column or a collection of columns is refused with what is wrong
with it, or because its wording cannot be written. Whatever the rows of a catalog hold, reading columns,
names or keys from them stops with a fault of reading at most: with what is wrong with a definition, or
with a value that is no integer, no text or of the wrong type.
-/

namespace WarehouseSchema

open Number Reflection

/-- The faults of a definition, of a number that is too long to be written and of a value that is nested too
deeply for that. -/
inductive Fault.OfDefinition : Fault → Prop where
  | definition (fault : DefinitionFault) : OfDefinition (.definition fault)
  | numeral (fault : NumeralFault) : OfDefinition (.numeral fault)
  | recursion : OfDefinition .recursion

/-- The faults of reading what a row or an option says. -/
inductive Fault.OfReading : Fault → Prop where
  | definition (fault : DefinitionFault) : OfReading (.definition fault)
  | numeral (fault : NumeralFault) : OfReading (.numeral fault)
  | recursion : OfReading .recursion
  | infiniteInteger : OfReading .infiniteInteger
  | notANumberInteger : OfReading .notANumberInteger
  | wrongAttribute : OfReading .wrongAttribute
  | wrongType : OfReading .wrongType

theorem Fault.OfDefinition.ofReading {fault : Fault} (h : fault.OfDefinition) : fault.OfReading := by
  cases h with
  | definition fault => exact .definition fault
  | numeral fault => exact .numeral fault
  | recursion => exact .recursion

theorem Fault.OfDefinition.ofTextFault (fault : TextFault) : (Fault.ofTextFault fault).OfDefinition := by
  cases fault with
  | numeral fault => exact .numeral fault
  | tooDeep => exact .recursion

/-- The operation gives a result, or stops with a fault of a definition. -/
abbrev Defines {α : Type} (r : Except Fault α) : Prop := StopsWith Fault.OfDefinition r

/-- The operation gives a result, or stops with a fault of reading. -/
abbrev Reads {α : Type} (r : Except Fault α) : Prop := StopsWith Fault.OfReading r

section
variable {α : Type} {r : Except Fault α}

theorem Defines.reads (h : Defines r) : Reads r := h.mono fun _ => Fault.OfDefinition.ofReading

theorem DefinitionFault.defines_raise (fault : DefinitionFault) :
    Defines (fault.raise : Except Fault α) := by
  unfold raise
  cases fault.message with
  | ok _ => exact .error (.definition _)
  | error unwritten => exact .error (.ofTextFault unwritten)

theorem DefinitionFault.reads_raise (fault : DefinitionFault) :
    Reads (fault.raise : Except Fault α) := fault.defines_raise.reads

theorem Fault.defines_ofNumeral (r : Except NumeralFault α) : Defines (Fault.ofNumeral r) := by
  cases r with
  | ok a => exact .ok a
  | error _ => exact .error (.numeral _)

theorem Fault.reads_ofNumeral (r : Except NumeralFault α) : Reads (Fault.ofNumeral r) :=
  (defines_ofNumeral r).reads

theorem Fault.defines_ofText (r : Except TextFault α) : Defines (Fault.ofText r) := by
  cases r with
  | ok a => exact .ok a
  | error unwritten => exact .error (.ofTextFault unwritten)

theorem Fault.reads_ofText (r : Except TextFault α) : Reads (Fault.ofText r) := (defines_ofText r).reads

end

theorem Value.reads_toInteger (v : Value) : Reads v.toInteger := by
  cases v with
  | int n => exact .ok n
  | bool b => exact .ok _
  | text s => exact Fault.reads_ofNumeral _
  | float x =>
    cases x with
    | nan => exact .error .notANumberInteger
    | infinite _ => exact .error .infiniteInteger
    | finite _ _ _ => exact .ok _
  | octets bytes =>
    unfold toInteger
    dsimp only
    split
    · exact Fault.reads_ofNumeral _
    · exact .error (.numeral _)
  | _ => exact .error .wrongType

namespace Definition

theorem defines_normalizeType (e : Engine) (type : Value) : Defines (e.normalizeType type) := by
  unfold Engine.normalizeType
  split
  · dsimp only
    split
    · exact .ok _
    · exact DefinitionFault.defines_raise _
  · exact DefinitionFault.defines_raise _

theorem defines_checkOptions (e : Engine) (options : Record) : Defines (e.checkOptions options) := by
  unfold Engine.checkOptions
  split
  · exact .ok ()
  · exact DefinitionFault.defines_raise _

theorem defines_normalizeLength (v : Value) : Defines (normalizeLength v) := by
  unfold normalizeLength
  split
  · exact .ok none
  · exact (Fault.defines_ofNumeral _).bind fun _ => .ok _
  · exact .ok _
  · exact DefinitionFault.defines_raise _

theorem defines_checkLength (rule : LengthRule) (type : String) (length : Option String) :
    Defines (checkLength rule type length) := by
  cases length with
  | none => exact .ok ()
  | some s =>
    refine (Fault.defines_ofNumeral _).bind fun fault => ?_
    cases fault with
    | none => exact .ok ()
    | some fault => exact DefinitionFault.defines_raise _

theorem defines_normalizeNullable (v : Option Value) : Defines (normalizeNullable v) := by
  unfold normalizeNullable
  split
  · exact .ok true
  · exact .ok _
  · exact DefinitionFault.defines_raise _

theorem defines_normalizeDefault (v : Value) : Defines (normalizeDefault v) := by
  unfold normalizeDefault
  split
  · exact .ok none
  · exact (Fault.defines_ofText _).bind fun _ => .ok _

theorem defines_normalizeCompression (e : Engine) (type : String) (v : Value) :
    Defines (e.normalizeCompression type v) := by
  unfold Engine.normalizeCompression
  split
  · exact .ok none
  · refine (Fault.defines_ofText _).bind fun text => ?_
    dsimp only
    split
    · exact .ok none
    · split
      · exact DefinitionFault.defines_raise _
      · split
        · exact .ok _
        · exact DefinitionFault.defines_raise _

theorem defines_make (e : Engine) (type : Value) (options : Record) : Defines (make e type options) := by
  refine (defines_normalizeType e type).bind fun type => ?_
  refine (defines_checkOptions e options).bind fun _ => ?_
  refine (defines_normalizeLength _).bind fun length => ?_
  refine (defines_checkLength _ _ _).bind fun _ => ?_
  refine (defines_normalizeNullable _).bind fun nullable => ?_
  refine (defines_normalizeDefault _).bind fun default => ?_
  exact (defines_normalizeCompression _ _ _).bind fun compression => .ok _

end Definition

theorem Column.defines_make (e : Engine) (name : Value) (d : Definition) :
    Defines (Column.make e name d) := by
  unfold make
  split
  · split
    · split
      · exact .ok _
      · exact DefinitionFault.defines_raise _
    · exact DefinitionFault.defines_raise _
  · exact DefinitionFault.defines_raise _

namespace Catalog

theorem reads_integer (row : Record) (field : String) : Reads (integer row field) := by
  unfold integer
  dsimp only
  split
  · exact .ok none
  · exact .ok none
  · split
    · exact .ok _
    · exact .error .infiniteInteger
    · exact DefinitionFault.reads_raise _

theorem reads_redshiftLength (type : Value) (row : Record) : Reads (redshiftLength type row) := by
  unfold redshiftLength
  dsimp only
  split
  · split
    · exact .ok _
    · exact (Fault.reads_ofText _).bind fun _ => .ok _
  · split
    · exact .ok _
    · exact (Fault.reads_ofText _).bind fun _ => .ok _
  · refine (Fault.reads_ofText _).bind fun p => ?_
    exact (Fault.reads_ofText _).bind fun s => .ok _

theorem reads_redshiftEncoding (row : Record) : Reads (redshiftEncoding row) := by
  unfold redshiftEncoding
  dsimp only
  split
  · exact .ok _
  · exact .ok _
  · split
    · exact .error .wrongAttribute
    · exact .ok _

theorem reads_redshiftColumn (row : Record) : Reads (redshiftColumn row) := by
  have hrest : ∀ type, Reads (do
      let length ← redshiftLength type row
      let compression ← redshiftEncoding row
      let d ← Definition.make .redshift type
        [("length", length), ("nullable", .bool (nullable row "is_nullable" "YES")),
         ("default", row.getAnyCase "column_default" .null), ("compression", compression)]
      Column.make .redshift (row.getAnyCase "column_name" .null) d) := by
    intro type
    refine (reads_redshiftLength type row).bind fun length => ?_
    refine (reads_redshiftEncoding row).bind fun compression => ?_
    exact (Definition.defines_make _ _ _).reads.bind fun d => (Column.defines_make _ _ _).reads
  unfold redshiftColumn
  split
  · exact (StopsWith.ok _).bind hrest
  · exact (Fault.reads_ofText _).bind fun shown => (StopsWith.ok _).bind hrest

theorem reads_snowflakeColumn (row : Record) : Reads (snowflakeColumn row) := by
  unfold snowflakeColumn
  dsimp only
  split
  · exact DefinitionFault.reads_raise _
  · exact (Definition.defines_make _ _ _).reads.bind fun d => (Column.defines_make _ _ _).reads

theorem reads_teradataLength (code : String) (source : LengthSource) (row : Record) :
    Reads (teradataLength code source row) := by
  cases source with
  | nothing => exact StopsWith.ok Value.null
  | octets => exact (reads_integer _ _).bind fun _ => .ok _
  | fraction => exact (reads_integer _ _).bind fun _ => .ok _
  | characters =>
    refine (reads_integer _ _).bind fun length => ?_
    cases length with
    | none => exact DefinitionFault.reads_raise _
    | some n => exact (reads_integer _ _).bind fun _ => .ok _
  | digits =>
    refine (reads_integer _ _).bind fun total => ?_
    cases total with
    | none => exact .ok _
    | some n =>
      dsimp only
      split
      · exact .ok _
      · refine (Fault.reads_ofNumeral _).bind fun p => ?_
        refine (reads_integer _ _).bind fun scale => ?_
        exact (Fault.reads_ofNumeral _).bind fun s => .ok _

theorem reads_teradataColumn (row : Record) : Reads (teradataColumn row) := by
  unfold teradataColumn
  dsimp only
  split
  · exact .error .wrongType
  · split
    · exact DefinitionFault.reads_raise _
    · refine (reads_teradataLength _ _ _).bind fun length => ?_
      exact (Definition.defines_make _ _ _).reads.bind fun d => (Column.defines_make _ _ _).reads

end Catalog

theorem Column.reads_ofRow (e : Engine) (row : Record) : Reads (Column.ofRow e row) := by
  cases e with
  | redshift => exact Catalog.reads_redshiftColumn row
  | snowflake => exact Catalog.reads_snowflakeColumn row
  | teradata => exact Catalog.reads_teradataColumn row

theorem Columns.defines_push (cs : Columns) (c : Column) : Defines (cs.push c) := by
  unfold push
  split
  · exact DefinitionFault.defines_raise _
  · exact .ok _

namespace Reflection

/-- Reading the columns of a table stops with a fault of reading at most. -/
theorem reads_describedColumns (e : Engine) (rows : List Record) : Reads (describedColumns e rows) :=
  (StopsWith.mapM (Column.reads_ofRow e) _).bind fun _ =>
    StopsWith.foldlM (fun cs c => (cs.defines_push c).reads) _ _

theorem reads_nameIn (field : String) (row : Record) : Reads (nameIn field row) :=
  (Fault.reads_ofText _).bind fun _ => .ok _

theorem reads_listedNames (e : Engine) (rows : List Record) : Reads (listedNames e rows) :=
  StopsWith.mapM (reads_nameIn _) _

theorem reads_keyRows (e : Engine) (rows : List Record) : Reads (keyRows e rows) := by
  cases e with
  | snowflake =>
    refine (StopsWith.mapM (fun row => ?_) rows).bind fun _ => .ok _
    exact (Value.reads_toInteger _).bind fun _ => .ok _
  | redshift => exact .ok rows
  | teradata => exact .ok rows

/-- Reading the keys of a table stops with a fault of reading at most. -/
theorem reads_keyNames (e : Engine) (rows : List Record) : Reads (keyNames e rows) :=
  (reads_keyRows e rows).bind fun _ => StopsWith.mapM (reads_nameIn _) _

end Reflection

end WarehouseSchema
