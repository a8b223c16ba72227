import JsonPath.Typing
import Mathlib.Tactic.Lemma

/-!
# Well-typed queries

The typing rules of filters, as judgements beside the check of `Registry.checkQuery`.  A query is
well-typed when every filter in it is a well-typed test, and there is one judgement for each place
where an expression stands: a test, an operand of a comparison, and an argument of a call.  Unlike
the check, the judgements look into every argument, whatever its form.

`Segment.skippedTests` lists what the check does not look into: the arguments with a logical
operator or a comparison at their top.
-/

namespace JsonPath

/-! ## The judgements -/

section Judgements

variable (r : Registry)

mutual

/-- Every filter in the segments is a well-typed test. -/
inductive WellTypedSegments : List Segment → Prop
  | nil : WellTypedSegments []
  | cons {s : Segment} {rest : List Segment} (hs : WellTypedSegment s)
      (hrest : WellTypedSegments rest) : WellTypedSegments (s :: rest)

/-- Every filter in the segment is a well-typed test. -/
inductive WellTypedSegment : Segment → Prop
  | key (name : String) : WellTypedSegment (.key name)
  | index (i : Int64) : WellTypedSegment (.index i)
  | slice (start stop step : Option Int64) : WellTypedSegment (.slice start stop step)
  | wildcard : WellTypedSegment .wildcard
  | union {selectors : List Segment} (h : WellTypedSegments selectors) :
      WellTypedSegment (.union selectors)
  | descendant {selector : Segment} (h : WellTypedSegment selector) :
      WellTypedSegment (.descendant selector)
  | filter {test : Expr} (h : WellTypedTest test) : WellTypedSegment (.filter test)

/-- The expression is well-typed where a test stands. -/
inductive WellTypedTest : Expr → Prop
  | query {segments : List Segment} (anchor : Anchor) (h : WellTypedSegments segments) :
      WellTypedTest (.query anchor segments)
  | not {e : Expr} (h : WellTypedTest e) : WellTypedTest (.not e)
  | and {left right : Expr} (hleft : WellTypedTest left) (hright : WellTypedTest right) :
      WellTypedTest (.and left right)
  | or {left right : Expr} (hleft : WellTypedTest left) (hright : WellTypedTest right) :
      WellTypedTest (.or left right)
  | compare {left right : Expr} (op : Comparison) (hleft : WellTypedComparable left)
      (hright : WellTypedComparable right) : WellTypedTest (.compare op left right)
  | call {function : String} {arguments : List Expr} {returns : FunctionType}
      (h : WellTypedCall function arguments returns)
      (hreturns : returns = .logical ∨ returns = .nodes) :
      WellTypedTest (.call function arguments)

/-- The expression is well-typed where a value is wanted. -/
inductive WellTypedComparable : Expr → Prop
  | literal (value : Json) : WellTypedComparable (.literal value)
  | query {segments : List Segment} (anchor : Anchor) (h : WellTypedSegments segments) :
      WellTypedComparable (.query anchor segments)
  | call {function : String} {arguments : List Expr} {returns : FunctionType}
      (h : WellTypedCall function arguments returns)
      (hreturns : returns = .value ∨ returns = .nodes) :
      WellTypedComparable (.call function arguments)

/-- The call is well-typed and its function has the result type `returns`. -/
inductive WellTypedCall : String → List Expr → FunctionType → Prop
  | mk {function : String} {arguments : List Expr} {signature : Signature}
      (hsignature : r.signature? function = some signature)
      (harguments : WellTypedArguments arguments signature.parameters) :
      WellTypedCall function arguments signature.returns

/-- There are as many arguments as parameters, and each argument fits its parameter. -/
inductive WellTypedArguments : List Expr → List FunctionType → Prop
  | nil : WellTypedArguments [] []
  | cons {e : Expr} {es : List Expr} {t : FunctionType} {ts : List FunctionType}
      (he : WellTypedArgument e t) (hes : WellTypedArguments es ts) :
      WellTypedArguments (e :: es) (t :: ts)

/-- The argument fits a parameter of the type. -/
inductive WellTypedArgument : Expr → FunctionType → Prop
  | value {e : Expr} (h : WellTypedComparable e) : WellTypedArgument e .value
  | logical {e : Expr} (h : WellTypedTest e) : WellTypedArgument e .logical
  | nodesQuery {segments : List Segment} (anchor : Anchor) (h : WellTypedSegments segments) :
      WellTypedArgument (.query anchor segments) .nodes
  | nodesCall {function : String} {arguments : List Expr}
      (h : WellTypedCall function arguments .nodes) :
      WellTypedArgument (.call function arguments) .nodes

end

/-- Every filter of the query is a well-typed test. -/
def WellTypedQuery (q : Query) : Prop := WellTypedSegments r q.segments

end Judgements

/-! ## Inversion -/

section Inversion

variable {r : Registry}

lemma wellTypedSegments_cons {s : Segment} {rest : List Segment} :
    WellTypedSegments r (s :: rest) ↔ WellTypedSegment r s ∧ WellTypedSegments r rest := by
  constructor
  · intro h
    cases h with
    | cons hs hrest => exact ⟨hs, hrest⟩
  · exact fun h => .cons h.1 h.2

lemma wellTypedArguments_cons {e : Expr} {es : List Expr} {t : FunctionType}
    {ts : List FunctionType} :
    WellTypedArguments r (e :: es) (t :: ts) ↔
      WellTypedArgument r e t ∧ WellTypedArguments r es ts := by
  constructor
  · intro h
    cases h with
    | cons he hes => exact ⟨he, hes⟩
  · exact fun h => .cons h.1 h.2

/-- There are as many arguments as parameters. -/
lemma WellTypedArguments.length_eq {es : List Expr} {ts : List FunctionType}
    (h : WellTypedArguments r es ts) : es.length = ts.length := by
  induction es generalizing ts with
  | nil =>
    cases h
    rfl
  | cons e es ih =>
    cases h with
    | cons he hes => rw [List.length_cons, List.length_cons, ih hes]

lemma wellTypedCall_iff {function : String} {arguments : List Expr} {returns : FunctionType} :
    WellTypedCall r function arguments returns ↔
      ∃ signature, r.signature? function = some signature ∧ signature.returns = returns ∧
        WellTypedArguments r arguments signature.parameters := by
  constructor
  · rintro ⟨hsignature, harguments⟩
    exact ⟨_, hsignature, rfl, harguments⟩
  · rintro ⟨signature, hsignature, rfl, harguments⟩
    exact .mk hsignature harguments

end Inversion

/-! ## What the check skips -/

mutual

/-- The arguments in the filters of segments that the check does not look into. -/
def Segment.skippedTests : List Segment → List Expr
  | [] => []
  | s :: rest => s.skipped ++ Segment.skippedTests rest

/-- The arguments in the filters of a segment that the check does not look into. -/
def Segment.skipped : Segment → List Expr
  | .union selectors => Segment.skippedTests selectors
  | .descendant selector => selector.skipped
  | .filter test => test.skipped
  | _ => []

/-- The arguments in an expression that the check does not look into. -/
def Expr.skipped : Expr → List Expr
  | .literal _ => []
  | .query _ segments => Segment.skippedTests segments
  | .not e => e.skipped
  | .and left right => left.skipped ++ right.skipped
  | .or left right => left.skipped ++ right.skipped
  | .compare _ left right => left.skipped ++ right.skipped
  | .call _ arguments => Expr.skippedArguments arguments

/-- The arguments of a call that the check does not look into, also those of the calls among
them. -/
def Expr.skippedArguments : List Expr → List Expr
  | [] => []
  | .literal _ :: rest => Expr.skippedArguments rest
  | .query _ segments :: rest => Segment.skippedTests segments ++ Expr.skippedArguments rest
  | .call _ arguments :: rest => Expr.skippedArguments arguments ++ Expr.skippedArguments rest
  | e :: rest => e :: Expr.skippedArguments rest

end

/-- The arguments in the filters of a query that the check does not look into. -/
def Query.skippedTests (q : Query) : List Expr := Segment.skippedTests q.segments

end JsonPath
