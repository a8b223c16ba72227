import JsonPath.Function.Signature

/-!
# Diagnostics

A diagnostic is a warning about a filter.  It never stops a check or an evaluation, which go on
with a fixed value instead.
-/

namespace JsonPath

/-- A problem found in a filter. -/
inductive Diagnostic where
  /-- A call with another number of arguments than the function has parameters. -/
  | arityMismatch (function : String) (expected found : Nat)
  /-- A call of a function without a signature, or without an evaluator. -/
  | unknownFunction (function : String)
  /-- An expression whose declared type is not accepted where it stands; `context` is the call
  that it is an argument of. -/
  | typeMismatch (expression : String) (declared : Option FunctionType) (required : FunctionType)
      (context : Option String)
  /-- An argument of `count` that is no list of nodes. -/
  | countArgumentNotNodes (found : FunctionType)
  /-- A pattern that is no regular expression, and why; reading it gives the kind of error. -/
  | invalidPattern (pattern reason : String)
  deriving DecidableEq

namespace Diagnostic

/-- The short name of the kind of a diagnostic. -/
def kind : Diagnostic → String
  | .arityMismatch .. => "arity_mismatch"
  | .unknownFunction _ => "unknown_function"
  | .typeMismatch .. => "type_mismatch"
  | .countArgumentNotNodes _ => "count_argument_not_nodes"
  | .invalidPattern .. => "invalid_pattern"

/-- The message of a diagnostic. -/
def message : Diagnostic → String
  | .arityMismatch function expected found =>
    "incorrect number of arguments for " ++ function ++ "(): expected " ++ expected.repr ++
      ", found " ++ found.repr
  | .unknownFunction function => "unknown function extension " ++ function ++ "()"
  | .typeMismatch expression declared required context =>
    "cannot use " ++ expression ++ " with declared type " ++
      (declared.map FunctionType.name).getD "undefined" ++ " for required type " ++
      required.name ++ (context.map (" in " ++ ·)).getD ""
  | .countArgumentNotNodes found =>
    "count() argument has type " ++ found.name ++ ", expected nodes"
  | .invalidPattern pattern reason =>
    "invalid regular expression " ++ Text.visible pattern ++ ": " ++ reason

end Diagnostic

end JsonPath
