/-!
# Configuration of reading queries
-/

namespace JsonPath

/-- The limits and the strictness with which query text is read. -/
structure ParserConfig where
  /-- How many filters, parentheses and calls may be open at once. -/
  maxDepth : Nat := 64
  /-- Whether a type error of a filter is a failure and not only a warning. -/
  strict : Bool := false
  deriving DecidableEq

/-- Why a configuration is refused. -/
inductive ConfigError where
  | depthOutOfRange (depth : Nat)
  deriving DecidableEq

namespace ParserConfig

/-- The greatest depth that may be asked for. -/
def depthLimit : Nat := 1024

/-- Refuses a depth of zero or one beyond the limit. -/
def validate (c : ParserConfig) : Except ConfigError Unit :=
  if 1 ≤ c.maxDepth && c.maxDepth ≤ depthLimit then .ok () else .error (.depthOutOfRange c.maxDepth)

end ParserConfig

/-- The message of an error. -/
def ConfigError.message : ConfigError → String
  | .depthOutOfRange depth =>
    "Invalid configuration parameter: max_nesting_depth must be between 1 and " ++
      ParserConfig.depthLimit.repr ++ ", got " ++ depth.repr

end JsonPath
