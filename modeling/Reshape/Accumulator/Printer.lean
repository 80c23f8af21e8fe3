/-
Module: Reshape.Accumulator.Printer
Layer: State
Purpose: Descriptions of parameters and accumulators.
Main exports: Params.describe, Accumulator.describe
-/
import Reshape.Accumulator.Basic
import Reshape.Value.Printer

namespace Reshape

/-- The description of a map of values. -/
def Value.describeMap (entries : Keyed Value) : String :=
  Text.braced (Value.describeEntries entries)

namespace Params

/-- The description of parameters. Of a watcher only its presence shows. -/
def describe (params : Params) : String :=
  Text.record "Params"
    [("trace", Text.boolean params.trace), ("inspect", Text.boolean params.isWatched),
      ("values", Value.describeMap params.values)]

end Params

namespace Accumulator

/-- The description of an accumulator. -/
def describe (acc : Accumulator) : String :=
  Text.record "Accumulator"
    [("value", acc.value.describe), ("locals", (Value.object acc.locals).describe),
      ("params", acc.params.describe), ("values", (Value.object acc.values).describe),
      ("entity", Text.optional (acc.owner.map Text.quoted)),
      ("error", Text.optional (acc.failure.map Failure.describe))]

end Accumulator

end Reshape
