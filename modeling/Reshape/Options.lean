/-
Module: Reshape.Options
Layer: State
Purpose: The options of one transformation.
Main exports: Options, Options.params, Options.describe
-/
import Reshape.Accumulator.Printer

namespace Reshape

/-- The options of one transformation: the first locals, the caller's parameters, whether it is
    traced, and whether somebody watches entities being entered. -/
structure Options where
  locals : Keyed Value
  values : Keyed Value
  trace : Bool
  isWatched : Bool
  deriving Inhabited

namespace Options

/-- No locals, no parameters, no trace, no watcher. -/
def empty : Options :=
  ⟨[], [], false, false⟩

/-- The options with one local set. -/
def withLocal (options : Options) (key : String) (value : Value) : Options :=
  { options with locals := Keyed.insert options.locals key value }

/-- The options with one parameter set. -/
def withParam (options : Options) (key : String) (value : Value) : Options :=
  { options with values := Keyed.insert options.values key value }

/-- The parameters of the transformation. -/
def params (options : Options) : Params :=
  ⟨options.trace, options.isWatched, options.values⟩

/-- The description of options. Of a watcher only its presence shows. -/
def describe (options : Options) : String :=
  Text.record "TransformOptions"
    [("locals", Value.describeMap options.locals), ("params", Value.describeMap options.values),
      ("trace", Text.boolean options.trace), ("inspect", Text.boolean options.isWatched)]

end Options

end Reshape
