import JsonPath.Evaluation.Comparison
import JsonPath.Evaluation.Functions
import JsonPath.Evaluation.Places
import JsonPath.Function.Registry
import JsonPath.Json.Containers
import JsonPath.Query.Basic

/-!
# Evaluating queries

Each segment maps a list of nodes to the next one, node by node, and a query runs its segments one
after the other.  Filters evaluate an expression for each child of a node, with the child as the
current node; expressions can run queries in turn.  Both operands of `&&` and `||` are always
evaluated.  Evaluation never fails: problems are reported, and a call that cannot be made is a test
that does not hold.
-/

namespace JsonPath.Registry

/-! ## Calls -/

/-- The number of arguments of a built-in function. -/
def builtInArity? (function : String) : Option Nat :=
  (builtIns.find? fun entry => entry.1 == function).map fun entry => entry.2.arity

/-- What a call runs. -/
inductive Callee where
  | length
  | count
  | test (anchoring : Anchoring)
  /-- An evaluator of the registry. -/
  | registered (evaluator : Evaluator)

/-- The result of running a callee on the results of the arguments, of which there are as many as
it takes. -/
def Callee.apply : Callee → List Typed → Reported Typed
  | .length, [argument] => pure (evalLength argument)
  | .count, [argument] => evalCount argument
  | .test anchoring, [subject, pattern] =>
    .logical <$> testPattern anchoring subject.toScalar pattern.toScalar
  | .registered evaluator, results => pure (evaluator results)
  | _, _ => pure (.logical false)

variable (r : Registry)

/-- What a call of a function that is not built in runs, with `count` arguments. -/
def resolveOther (function : String) (count : Nat) : Except Diagnostic Callee :=
  match r.evaluator? function, r.signature? function with
  | none, _ => .error (.unknownFunction function)
  | some evaluator, none => .ok (.registered evaluator)
  | some evaluator, some signature =>
    if signature.arity = count then .ok (.registered evaluator)
    else .error (.arityMismatch function signature.arity count)

/-- What a call with `count` arguments runs, or why it cannot be made.  The built-in functions come
first, whatever the registry says of their names. -/
def resolve (function : String) (count : Nat) : Except Diagnostic Callee :=
  match function, count with
  | "length", 1 => .ok .length
  | "count", 1 => .ok .count
  | "match", 2 => .ok (.test .whole)
  | "search", 2 => .ok (.test .anywhere)
  | function, count =>
    match builtInArity? function with
    | some arity => .error (.arityMismatch function arity count)
    | none => r.resolveOther function count

/-! ## Segments and expressions -/

variable (root : Json)

/-- The nodes that an anchor stands for. -/
def anchorNodes (anchor : Anchor) (current : NodeList) : NodeList :=
  match anchor with
  | .root => [root]
  | .current => current

mutual

/-- The nodes that a segment selects from one node. -/
def select (node : Json) : Segment → Reported NodeList
  | .key name => pure (node.member? name).toList
  | .index i =>
    match node with
    | .array elements => pure (elementAt? elements i).toList
    | _ => pure []
  | .slice start stop step =>
    match node with
    | .array elements =>
      pure (NodeList.ofSlots
        ((Slice.places elements.length start stop step).map fun place => elements[place]?))
    | _ => pure []
  | .wildcard => pure node.children
  | .union selectors => selectAll node selectors
  | .descendant selector =>
    Reported.concatMap (fun container => select container selector) node.containers
  | .filter test =>
    Reported.filter (fun child => (·.toLogical) <$> eval [child] test) node.children

/-- The nodes that several selectors select from one node, one selector after the other. -/
def selectAll (node : Json) : List Segment → Reported NodeList
  | [] => pure []
  | s :: rest => do
    let nodes ← select node s
    let others ← selectAll node rest
    return nodes ++ others

/-- The nodes that segments select one after the other, from `nodes` on. -/
def run (nodes : NodeList) : List Segment → Reported NodeList
  | [] => pure nodes
  | s :: rest => do
    let next ← Reported.concatMap (fun node => select node s) nodes
    run next rest

/-- The result of an expression, with `current` as the current nodes. -/
def eval (current : NodeList) : Expr → Reported Typed
  | .literal value => pure (.value (some value))
  | .query anchor segments => .nodes <$> run (anchorNodes root anchor current) segments
  | .not e => do
    let result ← eval current e
    return .logical (!result.toLogical)
  | .and left right => do
    let left ← eval current left
    let right ← eval current right
    return .logical (left.toLogical && right.toLogical)
  | .or left right => do
    let left ← eval current left
    let right ← eval current right
    return .logical (left.toLogical || right.toLogical)
  | .compare op left right => do
    let left ← eval current left
    let right ← eval current right
    return .logical (op.holds left.toScalar right.toScalar)
  | .call function arguments =>
    match r.resolve function arguments.length with
    | .error problem => do
      Reported.report problem
      return .logical false
    | .ok callee => do
      let results ← evalAll current arguments
      callee.apply results

/-- The results of the arguments of a call, in order. -/
def evalAll (current : NodeList) : List Expr → Reported (List Typed)
  | [] => pure []
  | e :: rest => do
    let result ← eval current e
    let results ← evalAll current rest
    return result :: results

end

/-- The nodes that a query selects in a document, which both anchors stand for. -/
def apply (q : Query) (document : Json) : Reported NodeList :=
  r.run document [document] q.segments

end JsonPath.Registry
