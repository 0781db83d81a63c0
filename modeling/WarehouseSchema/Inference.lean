import WarehouseSchema.Calendar.Layout
import WarehouseSchema.Column.Basic
import WarehouseSchema.Csv.Kind

/-!
Columns inferred from a sample of comma-separated values. The values of a column decide its base
type, and for texts the greatest size among them decides the length, as far as the warehouse allows
it. A column is nullable when a value of it is missing.
-/

namespace WarehouseSchema

open Text Number Csv

/-- Whether a floating-point number is a whole one of 64 bits. -/
def isWordNumber (x : Binary64) : Bool :=
  match x.truncate? with
  | some n => x.isWhole && -(word : Int) ≤ n && n < (word : Int)
  | none => false

/-- Whether a number is neither infinite nor none at all. -/
def isFinite (x : Binary64) : Bool := x.truncate?.isSome

/-- Whether a text is a word for a truth value in any letter case. -/
def namesTruth (s : String) : Bool := lower s = "true" || lower s = "false"

/-- How many values at the front of a column are looked at for words of truth. -/
def truthSampleSize : Nat := 20

/-- What comes of taking texts for moments: they are, they are refused, or the attempt breaks off. -/
inductive Attempt where
  | moments
  | refused
  | broken (fault : Fault)

/-- A way of taking the texts of a column for moments. -/
abbrev DateProbe := List String → Attempt

/-- The texts are read as moments of the calendar. -/
def calendarProbe : DateProbe := fun texts =>
  match Calendar.readMoments texts with
  | .ok () => .moments
  | .error .refused => .refused
  | .error (.overflow text) => .broken (.overflow text)

def basetypeOfTexts (probe : DateProbe) (values : List String) : Except Fault Basetype :=
  if (values.take truthSampleSize).all namesTruth then .ok .boolean
  else
    match probe values with
    | .moments => .ok .timestamp
    | .refused => .ok .string
    | .broken fault => .error fault

/-- The base type of floating-point numbers; infinite ones have none. -/
def basetypeOfFloats (values : List Binary64) : Except Fault Basetype :=
  if values.all isFinite then .ok (if values.all isWordNumber then .integer else .float)
  else .error (.csv .infiniteToInteger)

/-- The base type of the values of a column; without values it is that of texts. -/
def Csv.SampleColumn.basetype (probe : DateProbe) (c : SampleColumn) : Except Fault Basetype :=
  if c.present = [] then .ok .string
  else
    match c.kind with
    | .truths => .ok .boolean
    | .integers => .ok .integer
    | .floats values => basetypeOfFloats values
    | .texts values => basetypeOfTexts probe values

/-- The size of a text as the lengths of a warehouse count it. -/
def Engine.sizeOf (e : Engine) (s : String) : Nat :=
  if e.countsOctets then s.utf8ByteSize else s.length

/-- The length that texts need: the greatest size among them, within the bounds of the type. -/
def Engine.lengthFor (e : Engine) (values : List String) : Int :=
  let longest : Int := ((values.map e.sizeOf).foldl max 0 : Nat)
  match e.lengthRule (e.typeOf .string) with
  | .integer lo hi => LengthRule.clamp lo hi longest
  | _ => longest

namespace Column

/-- The column of a warehouse that the values of a sample ask for. -/
def ofSample (probe : DateProbe) (e : Engine) (c : SampleColumn) : Except Fault Column := do
  let basetype ← c.basetype probe
  let length : Value :=
    if basetype = .string && c.present ≠ [] then .text (intText (e.lengthFor c.present)) else .null
  make e (.text c.name) (← Definition.ofBasetype e basetype (.bool c.hasMissing) length)

end Column

namespace Columns

/-- The columns of a sample: generic ones, or those that its values ask for. -/
def ofSample (probe : DateProbe) (e : Engine) (isGeneric : Bool) (sample : List SampleColumn) :
    Except Fault Columns := do
  let columns ←
    if isGeneric then sample.mapM fun c => Column.generic e (.text c.name)
    else sample.mapM (Column.ofSample probe e)
  ofList columns

/-- The columns of a text of comma-separated values, from its first `rows` rows. -/
def ofCsvBy (probe : DateProbe) (e : Engine) (rows : Int) (isGeneric : Bool) (text : String) :
    Except Fault Columns :=
  match readSample rows text with
  | .ok sample => ofSample probe e isGeneric sample
  | .error fault => .error (.csv fault)

def ofCsv (e : Engine) (rows : Int) (isGeneric : Bool) (text : String) : Except Fault Columns :=
  ofCsvBy calendarProbe e rows isGeneric text

def defaultSampleRows : Int := 1000

end Columns

end WarehouseSchema
