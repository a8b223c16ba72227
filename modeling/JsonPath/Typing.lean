import JsonPath.Function.Registry
import JsonPath.Query.Text
import JsonPath.Reported

/-!
# Declared types

A filter expression has a type before it is evaluated: literals are values, embedded queries are
nodes, comparisons and boolean operators are logical, and a call has the result type of its
function.  `Registry.checkQuery` reports every place of a query where an expression of the wrong
type stands.  A check never fails; it reports and goes on.
-/

namespace JsonPath.Registry

variable (r : Registry)

/-! ## The type of an expression -/

/-- Whether an expression of declared type `declared` may stand where `required` is required:
equal types fit, and nodes serve as a value or as a test. -/
def fits (declared : Option FunctionType) (required : FunctionType) : Bool :=
  match declared with
  | none => false
  | some t => t == required || t == .nodes

/-- Concludes from the declared type of `e` whether it may stand where `required` is required, and
reports it if not. -/
def judge (e : Expr) (declared : Option FunctionType) (required : FunctionType)
    (context : Option String) : Reported Bool :=
  if fits declared required then pure true
  else do
    Reported.report (.typeMismatch e.text declared required context)
    return false

mutual

/-- The declared type of an expression.  A call with a wrong number of arguments keeps the result
type of its function and its arguments are left unchecked; an unknown function has no type. -/
def declaredType : Expr → Reported (Option FunctionType)
  | .literal _ => pure (some .value)
  | .query _ _ => pure (some .nodes)
  | .not _ => pure (some .logical)
  | .and _ _ => pure (some .logical)
  | .or _ _ => pure (some .logical)
  | .compare _ _ _ => pure (some .logical)
  | .call function arguments =>
    match r.signature? function with
    | none => do
      Reported.report (.unknownFunction function)
      return none
    | some signature => do
      if signature.arity = arguments.length then
        checkArguments (Expr.call function arguments).text arguments signature.parameters
      else
        Reported.report (.arityMismatch function signature.arity arguments.length)
      return some signature.returns

/-- Checks the arguments of the call `context` against the types of the parameters. -/
def checkArguments (context : String) : List Expr → List FunctionType → Reported Unit
  | e :: es, t :: ts => do
    let declared ← declaredType e
    let _ ← judge e declared t (some context)
    checkArguments context es ts
  | _, _ => pure ()

end

/-- Whether an expression may stand where `required` is required. -/
def declaredAs (e : Expr) (required : FunctionType) : Reported Bool := do
  judge e (← r.declaredType e) required none

/-! ## Checking queries -/

mutual

/-- Checks the filters of segments. -/
def checkSegments : List Segment → Reported Unit
  | [] => pure ()
  | s :: rest => do
    checkSegment s
    checkSegments rest

/-- Checks the filters of a segment. -/
def checkSegment : Segment → Reported Unit
  | .filter test => checkTest test
  | .union selectors => checkSegments selectors
  | .descendant selector => checkSegment selector
  | _ => pure ()

/-- Checks an expression that stands where a test is required. -/
def checkTest : Expr → Reported Unit
  | .and left right => do
    checkTest left
    checkTest right
  | .or left right => do
    checkTest left
    checkTest right
  | .not e => checkTest e
  | .compare _ left right => do
    checkComparable left
    checkComparable right
  | .query _ segments => checkSegments segments
  | .call function arguments => do
    let _ ← r.declaredAs (.call function arguments) .logical
    checkNested arguments
  | .literal value => do
    let _ ← r.declaredAs (.literal value) .logical

/-- Checks an operand of a comparison, where a value is required. -/
def checkComparable : Expr → Reported Unit
  | .call function arguments => do
    let _ ← r.declaredAs (.call function arguments) .value
    checkNested arguments
  | .query _ segments => checkSegments segments
  | .literal _ => pure ()
  | .not e => do
    let _ ← r.declaredAs (.not e) .value
  | .and left right => do
    let _ ← r.declaredAs (.and left right) .value
  | .or left right => do
    let _ ← r.declaredAs (.or left right) .value
  | .compare op left right => do
    let _ ← r.declaredAs (.compare op left right) .value

/-- Checks the filters of queries among the arguments of a call, also those of inner calls. -/
def checkNested : List Expr → Reported Unit
  | [] => pure ()
  | .query _ segments :: rest => do
    checkSegments segments
    checkNested rest
  | .call _ arguments :: rest => do
    checkNested arguments
    checkNested rest
  | _ :: rest => checkNested rest

end

/-- Checks every filter of a query, also those of the queries inside it. -/
def checkQuery (q : Query) : Reported Unit := r.checkSegments q.segments

end JsonPath.Registry
