import WarehouseSchema.Text.Basic
import WarehouseSchema.Text.Digit

/-!
Options on a command line. An option has a name with two dashes and may take a value, which stands
behind an equals sign or is the next argument. A name can be cut short as long as it fits one option
only. What looks like an option is no value, negative numbers and texts with a blank excepted. Behind
two dashes everything is a value. Help can always be asked for, and is given as soon as the request
is come upon.
-/

namespace WarehouseSchema

open Text

inductive Refusal where
  | help
  | misuse
  deriving DecidableEq, Repr

def Refusal.status : Refusal → Nat
  | help => 0
  | misuse => 2

structure OptionRule where
  name : String
  takesValue : Bool
  accepts : String → Bool

inductive Argument where
  | value (s : String)
  | option (rule : OptionRule) (given : Option String)
  | help (isProper : Bool)
  | divider
  | stranger

namespace Argument

def helpName : String := "--help"

def shortHelpName : String := "-h"

/-- Digits, of any script. -/
def areDigits (cs : List Char) : Bool := cs.all fun c => (decimalValue? c).isSome

/-- Whether a text is a number without a sign. -/
def isUnsigned (cs : List Char) : Bool :=
  match splitOn '.' cs with
  | [whole] => !whole.isEmpty && areDigits whole
  | [whole, fraction] => areDigits whole && !fraction.isEmpty && areDigits fraction
  | _ => false

/-- Whether a text is a negative number, a line end behind it not counting. -/
def isNegativeNumber : List Char → Bool
  | '-' :: cs => isUnsigned (if cs.getLast? = some '\n' then cs.dropLast else cs)
  | _ => false

/-- Whether letters behind the short request for help leave it one: it may be repeated, but takes no
value. -/
def isHelpCluster : List Char → Bool
  | '-' :: _ | 'h' :: '=' :: _ => false
  | 'h' :: cs => isHelpCluster cs
  | _ => true

/-- A text that starts like an option without being one. -/
def ofUnknown (s : String) : Argument :=
  if isNegativeNumber s.toList || s.toList.contains ' ' then value s else stranger

/-- What precedes the first equals sign, and what follows it. -/
def splitGiven (s : String) : String × Option String :=
  match s.toList.span (· != '=') with
  | (name, _ :: given) => (String.ofList name, some (String.ofList given))
  | (name, []) => (String.ofList name, none)

def ofName (rules : List OptionRule) (name : String) (given : Option String) : Option Argument :=
  if name = helpName || name = shortHelpName then some (help given.isNone)
  else (rules.find? fun r => r.name == name).map fun r => option r given

/-- What an argument is taken for by a command that understands these options. -/
def ofText (rules : List OptionRule) (s : String) : Except Refusal Argument :=
  match s.toList with
  | '-' :: c :: cs =>
    let (name, given) := splitGiven s
    match ofName rules s none, ofName rules name given with
    | some a, _ | none, some a => .ok a
    | none, none =>
      if c = '-' then
        match (helpName :: rules.map (·.name)).filter fun n => name.toList.isPrefixOf n.toList with
        | [] => .ok (ofUnknown s)
        | [full] => .ok ((ofName rules full given).getD (ofUnknown s))
        | _ => .error .misuse
      else if c = 'h' then .ok (help (isHelpCluster cs))
      else .ok (ofUnknown s)
  | _ => .ok (value s)

def ofTexts (rules : List OptionRule) : List String → Except Refusal (List Argument)
  | [] => .ok []
  | "--" :: rest => .ok (divider :: rest.map value)
  | s :: rest => do return (← ofText rules s) :: (← ofTexts rules rest)

end Argument

/-- Options with their values, in the order in which they were given; an option that takes none has
an empty one. -/
abbrev Options := List (String × String)

namespace Options

/-- The options among arguments, and whether there is anything else. -/
def collect : List Argument → Except Refusal (Options × Bool)
  | [] => .ok ([], true)
  | .help isProper :: _ => .error (if isProper then .help else .misuse)
  | .option rule (some v) :: rest =>
    if rule.takesValue then take rule v (collect rest) else .error .misuse
  | .option rule none :: rest =>
    if rule.takesValue then
      match rest with
      | .value v :: rest => take rule v (collect rest)
      | _ => .error .misuse
    else do
      let (options, isAll) ← collect rest
      return ((rule.name, "") :: options, isAll)
  | .value _ :: rest | .divider :: rest | .stranger :: rest => do
    return ((← collect rest).1, false)
where
  take (rule : OptionRule) (v : String) (rest : Except Refusal (Options × Bool)) :
      Except Refusal (Options × Bool) :=
    if rule.accepts v then do
      let (options, isAll) ← rest
      return ((rule.name, v) :: options, isAll)
    else .error .misuse

/-- The options in a list of arguments, which must hold nothing else. -/
def read (rules : List OptionRule) (args : List String) : Except Refusal Options := do
  match ← collect (← Argument.ofTexts rules args) with
  | (options, true) => return options
  | (_, false) => throw .misuse

/-- The value of an option; the last one counts. -/
def get? (o : Options) (name : String) : Option String := List.lookup name o.reverse

def required (o : Options) (name : String) : Except Refusal String :=
  match o.get? name with
  | some v => .ok v
  | none => .error .misuse

def has (o : Options) (name : String) : Bool := (o.get? name).isSome

end Options

end WarehouseSchema
