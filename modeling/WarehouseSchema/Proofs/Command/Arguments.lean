import WarehouseSchema.Command.Basic
import WarehouseSchema.Proofs.Outcome

/-!
Arguments of a run. What is taken for a value is taken as it stands, so that a run is one with the
configuration at the path that was given.
-/

namespace WarehouseSchema

namespace Argument

end Argument

namespace Command

end Command

end WarehouseSchema
