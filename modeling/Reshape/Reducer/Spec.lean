/-
Module: Reshape.Reducer.Spec
Layer: Language
Purpose: Reducers as callers write them, and their compilation. A text is a path after `$`, a
  reference, or a chain of those with `|` between them.
Main exports: Spec, Spec.Fault, Spec.parseText, Spec.compile
-/
import Reshape.Path.Parser
import Reshape.Reducer.Basic

namespace Reshape

/-- A reducer as its caller writes it. -/
inductive Spec where
  | text (written : String)
  | function (f : Function)
  | list (specs : List Spec)
  /-- A reducer that is already compiled. -/
  | built (reducer : Reducer)
  deriving Inhabited

namespace Spec

/-- The specification is a list without members. -/
def isEmpty : Spec → Bool
  | .list [] => true
  | _ => false

mutual

/-- The description of a specification. -/
def describe : Spec → String
  | .text written => Text.quoted written
  | .function f => f.describe
  | .list specs => Text.bracketed (describeAll specs)
  | .built reducer => reducer.describe

/-- The description of each specification. -/
def describeAll : List Spec → List String
  | [] => []
  | spec :: rest => describe spec :: describeAll rest

end

/-! ### Texts -/

/-- Why a text specifies no reducer. -/
inductive Fault where
  /-- The step is neither a path nor a reference. -/
  | unreadable (step : String)
  /-- A step of the chain is blank. -/
  | emptyStep (chain : String)
  /-- What follows the `$` is no path. -/
  | badPath (step : String) (fault : Path.Fault)
  deriving Repr, Inhabited, DecidableEq

/-- The message of a fault. -/
def Fault.message : Fault → String
  | .unreadable step =>
    "invalid reducer spec '" ++ step ++
      "': expected a '$path', a 'type:name' entity reference or a function"
  | .emptyStep chain => "invalid reducer spec '" ++ chain ++ "': empty step in chain"
  | .badPath step fault => "invalid path reducer '" ++ step ++ "': " ++ fault.message

/-- The failure of a text that specifies no reducer. -/
def Fault.failure (fault : Fault) : Failure :=
  .invalidSpec fault.message

/-- Reads a reference, on its own or as a step. -/
def parseReference (written : List Char) : Except Fault Reference :=
  match Reference.parse? written with
  | some reference => .ok reference
  | none => .error (.unreadable (String.ofList written))

/-- Reads one step, without white space around it. -/
def parseStep : List Char → Except Fault Reducer
  | '$' :: rest =>
    match Path.parse (String.ofList rest) with
    | .ok path => .ok (.path path)
    | .error fault => .error (.badPath (String.ofList ('$' :: rest)) fault)
  | step => (parseReference step).map .entity

/-- Reads the steps of a chain; `chain` is the whole of it. -/
def parseSteps (chain : String) : List (List Char) → Except Fault (List Reducer)
  | [] => .ok []
  | piece :: rest => do
    let trimmed := Text.trim piece
    let step ← if trimmed.isEmpty then .error (.emptyStep chain) else parseStep trimmed
    let steps ← parseSteps chain rest
    .ok (step :: steps)

/-- Reads a text. With a `|` in it, it is a chain and becomes a list. -/
def parseText (written : String) : Except Fault Reducer :=
  match Text.split '|' written.toList with
  | [single] => parseStep (Text.trim single)
  | pieces => (parseSteps written pieces).map .list

/-! ### Compilation -/

mutual

/-- Compiles a specification; of several faults the first one counts. -/
def compile : Spec → Except Failure Reducer
  | .text written =>
    match parseText written with
    | .ok reducer => .ok reducer
    | .error fault => .error fault.failure
  | .function f => .ok (.function f)
  | .list specs =>
    match compileAll specs with
    | .ok reducers => .ok (.list reducers)
    | .error failure => .error failure
  | .built reducer => .ok reducer

/-- Compiles specifications in order. -/
def compileAll : List Spec → Except Failure (List Reducer)
  | [] => .ok []
  | spec :: rest =>
    match compile spec with
    | .error failure => .error failure
    | .ok reducer =>
      match compileAll rest with
      | .error failure => .error failure
      | .ok reducers => .ok (reducer :: reducers)

end

end Spec

end Reshape
