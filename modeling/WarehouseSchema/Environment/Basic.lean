import WarehouseSchema.Text.LetterCase

/-!
Environments: named texts. A name stands once; a later text for it takes the place of the earlier
one. Settings are looked up by name in any letter case, the last fitting one counting.
-/

namespace WarehouseSchema

open Text

/-- Named texts in the order in which the names came. -/
abbrev Environment := List (String × String)

namespace Environment

def get? (env : Environment) (name : String) : Option String := env.lookup name

def put (env : Environment) (name text : String) : Environment :=
  if env.any (·.1 == name) then List.map (fun e => if e.1 == name then (name, text) else e) env
  else env ++ [(name, text)]

end Environment

/-- Named texts, some of them absent, as settings see them: names are in lower case. -/
abbrev Variables := List (String × Option String)

namespace Variables

def put (vars : Variables) (name : String) (text : Option String) : Variables :=
  if vars.any (·.1 == name) then List.map (fun e => if e.1 == name then (name, text) else e) vars
  else vars ++ [(name, text)]

def lowered (vars : Variables) : Variables :=
  List.foldl (fun seen e => seen.put (lower e.1) e.2) [] vars

def text? (vars : Variables) (name : String) : Option String := (List.lookup name vars).join

end Variables

def Environment.toVariables (env : Environment) : Variables :=
  Variables.lowered (env.map fun e => (e.1, some e.2))

end WarehouseSchema
