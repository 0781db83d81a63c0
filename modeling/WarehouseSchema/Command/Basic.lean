import WarehouseSchema.Command.Options
import WarehouseSchema.Configuration
import WarehouseSchema.Inference

/-!
The commands of the program, as they are read from arguments: to create the tables of a
configuration, to print a statement about a described table, to print the CREATE for a sample of
values, and to show the columns of a table.
-/

namespace WarehouseSchema

open Number

/-- The statements about a described table that can be printed. -/
inductive StatementKind where
  | create
  | drop
  | truncate
  | rename
  deriving DecidableEq, Repr

namespace StatementKind

def all : List StatementKind := [create, drop, truncate, rename]

def name : StatementKind → String
  | create => "create"
  | drop => "drop"
  | truncate => "truncate"
  | rename => "rename"

end StatementKind

/-- A command. A new name that is not given is empty, and so is a schema. -/
inductive Command where
  | run (configuration : String)
  | render (engine : Engine) (description : String) (kind : StatementKind) (newName : String)
      (withKeys : Bool)
  | infer (engine : Engine) (sample schema table : String) (rows : Int) (isGeneric : Bool)
  | describe (configuration schema table : String)
  deriving DecidableEq, Repr

namespace Command

def textRule (name : String) : OptionRule := ⟨name, true, fun _ => true⟩

def flagRule (name : String) : OptionRule := ⟨name, false, fun _ => true⟩

def choiceRule (name : String) (choices : List String) : OptionRule := ⟨name, true, choices.contains⟩

def engineRule : OptionRule := choiceRule "--engine" (Engine.all.map Engine.name)

def rowsRule : OptionRule := ⟨"--sample-rows", true, fun s => (readInt s).toOption.isSome⟩

def engineOf (o : Options) : Except Refusal Engine := do
  let name ← o.required engineRule.name
  match Engine.all.find? fun e => e.name == name with
  | some e => return e
  | none => throw .misuse

def configurationOf (o : Options) : String := (o.get? "--config").getD Configuration.defaultPath

def kindOf (o : Options) : StatementKind :=
  (StatementKind.all.find? fun k => o.get? "--statement" = some k.name).getD .create

def rowsOf (o : Options) : Int :=
  (do (readInt (← o.get? rowsRule.name)).toOption).getD Columns.defaultSampleRows

/-- The command of a name, read from the arguments behind it. -/
def ofNamed? (name : String) (args : List String) : Option (Except Refusal Command) :=
  match name with
  | "run" => some do
    let o ← Options.read [textRule "--config"] args
    return run (configurationOf o)
  | "render" => some do
    let o ← Options.read
      [engineRule, textRule "--definition",
       choiceRule "--statement" (StatementKind.all.map StatementKind.name), textRule "--new-name",
       flagRule "--no-primary-keys"] args
    return render (← engineOf o) (← o.required "--definition") (kindOf o)
      ((o.get? "--new-name").getD "") (!o.has "--no-primary-keys")
  | "infer" => some do
    let o ← Options.read
      [engineRule, textRule "--csv", textRule "--schema", textRule "--table", rowsRule,
       flagRule "--generic"] args
    return infer (← engineOf o) (← o.required "--csv") (← o.required "--schema")
      (← o.required "--table") (rowsOf o) (o.has "--generic")
  | "describe" => some do
    let o ← Options.read [textRule "--config", textRule "--schema", textRule "--table"] args
    return describe (configurationOf o) ((o.get? "--schema").getD "") (← o.required "--table")
  | _ => none

/-- The command that arguments ask for. Strangers before its name are refused, but not before help is
given. -/
def ofArguments : List String → Except Refusal Command
  | [] => .error .misuse
  | s :: rest => do
    if s = "--" then throw .misuse
    match ← Argument.ofText [] s with
    | .value name => (ofNamed? name rest).getD (.error .misuse)
    | .help isProper => throw (if isProper then .help else .misuse)
    | _ =>
      match ofArguments rest with
      | .error refusal => throw refusal
      | .ok _ => throw .misuse

end Command

end WarehouseSchema
