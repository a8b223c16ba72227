import JsonPath.Function.Signature
import JsonPath.NodeList

/-!
# Typed results

Evaluating a filter expression gives a result of one of the three types.  A result is consumed
either as a test or as a scalar, whatever its type; the readings that lose something are fixed
here.
-/

namespace JsonPath

/-- The result of a filter expression. -/
inductive Typed where
  /-- A value, or none. -/
  | value (scalar : Option Json)
  | nodes (list : NodeList)
  | logical (outcome : Bool)

namespace Typed

/-- The type of a result. -/
def type : Typed → FunctionType
  | .value _ => .value
  | .nodes _ => .nodes
  | .logical _ => .logical

/-- A result as a test: a list of nodes holds if it is not empty, and a value never holds. -/
def toLogical : Typed → Bool
  | .value _ => false
  | .nodes list => !list.isEmpty
  | .logical outcome => outcome

/-- A result as a scalar: a list of one node gives that node, and a test gives none. -/
def toScalar : Typed → Option Json
  | .value scalar => scalar
  | .nodes list => NodeList.single? list
  | .logical _ => none

end Typed

end JsonPath
