import JsonPath.Query.Parser
import Mathlib.Tactic.Lemma

/-!
# Writable queries

A query is *writable* when its canonical text lies in the query language.  `Query.isWritable` says
so on the tree, without mention of the text: indexes and slice parts stay within the limit of the
language, unions have at least two members, no union or descendant stands where only a selector
may stand, and every expression fits the place where it stands (`ExprPlace`).

Two measures of a query belong to its text.  `Query.openDepth` is the greatest number of filters,
parentheses and calls that are open at once in the canonical text, and `Query.numbers` lists the
numbers that are written in it as literals.
-/

namespace JsonPath

/-- Whether an integer is small enough for an index or a part of a slice. -/
def Parser.inLimit (i : Int64) : Bool :=
  -Parser.integerLimit ≤ i.toInt && i.toInt ≤ Parser.integerLimit

/-- Whether a value is neither an array nor an object. -/
def Json.isScalar (value : Json) : Bool := !value.isContainer

/-- Whether a segment is a descendant segment. -/
def Segment.isDescendant : Segment → Bool
  | .descendant _ => true
  | _ => false

/-- Whether a segment is one selector, which may stand beside others in brackets. -/
def Segment.isSelector : Segment → Bool
  | .union _ => false
  | .descendant _ => false
  | _ => true

/-- The kinds of place where an expression stands. -/
inductive ExprPlace where
  /-- The body of a filter or an operand of a logical operator. -/
  | test
  /-- An operand of a comparison. -/
  | operand
  /-- An argument of a call. -/
  | argument
  deriving DecidableEq

/-- Whether a function of that name can be called in query text.  The words of literals are no
names. -/
def Parser.isCallable (function : String) : Bool :=
  Parser.isFunctionName function &&
    !(function == "true" || function == "false" || function == "null")

/-! ## Writable trees -/

mutual

/-- Whether a segment can be written in query text. -/
def Segment.isWritable : Segment → Bool
  | .key _ => true
  | .index i => Parser.inLimit i
  | .slice start stop step =>
    start.all Parser.inLimit && stop.all Parser.inLimit && step.all Parser.inLimit
  | .wildcard => true
  | .union selectors =>
    decide (2 ≤ selectors.length) && selectors.all Segment.isSelector &&
      Segment.allWritable selectors
  | .descendant selector => !selector.isDescendant && selector.isWritable
  | .filter test => test.isWritable .test

/-- Whether all segments of a list can be written. -/
def Segment.allWritable : List Segment → Bool
  | [] => true
  | s :: rest => s.isWritable && Segment.allWritable rest

/-- Whether an expression can be written in a place of that kind.  A literal is no test, an
operand of a comparison has no operators of its own, and a query compared selects one node at
most. -/
def Expr.isWritable : Expr → ExprPlace → Bool
  | .literal value, place => place != .test && value.isScalar
  | .query _ segments, place =>
    (place != .operand || Segment.allSingular segments) && Segment.allWritable segments
  | .not e, place => place != .operand && e.isWritable .test
  | .and l r, place => place != .operand && l.isWritable .test && r.isWritable .test
  | .or l r, place => place != .operand && l.isWritable .test && r.isWritable .test
  | .compare _ l r, place => place != .operand && l.isWritable .operand && r.isWritable .operand
  | .call function arguments, _ => Parser.isCallable function && Expr.allWritable arguments

/-- Whether all arguments of a call can be written. -/
def Expr.allWritable : List Expr → Bool
  | [] => true
  | e :: rest => e.isWritable .argument && Expr.allWritable rest

end

/-- Whether a query can be written in query text, as a whole. -/
def Query.isWritable (q : Query) : Bool :=
  q.anchor == .root && Segment.allWritable q.segments

/-- What fits any place fits among the arguments of a call. -/
lemma Expr.isWritable_argument {e : Expr} {place : ExprPlace} (h : e.isWritable place) :
    e.isWritable .argument := by
  cases e <;> simp_all [Expr.isWritable]

/-! ## Depth -/

mutual

/-- How many filters, parentheses and calls are open at once in the text of a segment. -/
def Segment.openDepth : Segment → Nat
  | .union selectors => Segment.openDepths selectors
  | .descendant selector => selector.openDepth
  | .filter test => test.openDepth + 1
  | _ => 0

/-- The greatest depth of the segments of a list. -/
def Segment.openDepths : List Segment → Nat
  | [] => 0
  | s :: rest => max s.openDepth (Segment.openDepths rest)

/-- How many filters, parentheses and calls are open at once in the text of an expression.
Parentheses count where the canonical text has them. -/
def Expr.openDepth : Expr → Nat
  | .literal _ => 0
  | .query _ segments => Segment.openDepths segments
  | .not e => e.openDepth + (!e.isNegatedBare).toNat
  | .and l r =>
    max (l.openDepth + (decide (l.precedence < 2)).toNat)
      (r.openDepth + (decide (r.precedence < 3)).toNat)
  | .or l r =>
    max (l.openDepth + (decide (l.precedence < 1)).toNat)
      (r.openDepth + (decide (r.precedence < 2)).toNat)
  | .compare _ l r =>
    max (l.openDepth + (decide (l.precedence < 4)).toNat)
      (r.openDepth + (decide (r.precedence < 4)).toNat)
  | .call _ arguments => Expr.openDepths arguments + 1

/-- The greatest depth of the arguments of a call. -/
def Expr.openDepths : List Expr → Nat
  | [] => 0
  | e :: rest => max e.openDepth (Expr.openDepths rest)

end

/-- The greatest number of filters, parentheses and calls that are open at once in the canonical
text of a query. -/
def Query.openDepth (q : Query) : Nat := Segment.openDepths q.segments

/-! ## Numbers -/

mutual

/-- The numbers that stand as literals in the filters of a segment. -/
def Segment.numbers : Segment → List Number
  | .union selectors => Segment.allNumbers selectors
  | .descendant selector => selector.numbers
  | .filter test => test.numbers
  | _ => []

/-- The numbers that stand as literals in the filters of segments. -/
def Segment.allNumbers : List Segment → List Number
  | [] => []
  | s :: rest => s.numbers ++ Segment.allNumbers rest

/-- The numbers that stand as literals in an expression. -/
def Expr.numbers : Expr → List Number
  | .literal (.number n) => [n]
  | .literal _ => []
  | .query _ segments => Segment.allNumbers segments
  | .not e => e.numbers
  | .and l r => l.numbers ++ r.numbers
  | .or l r => l.numbers ++ r.numbers
  | .compare _ l r => l.numbers ++ r.numbers
  | .call _ arguments => Expr.allNumbers arguments

/-- The numbers that stand as literals in the arguments of a call. -/
def Expr.allNumbers : List Expr → List Number
  | [] => []
  | e :: rest => e.numbers ++ Expr.allNumbers rest

end

/-- The numbers that stand as literals in a query. -/
def Query.numbers (q : Query) : List Number := Segment.allNumbers q.segments

end JsonPath
