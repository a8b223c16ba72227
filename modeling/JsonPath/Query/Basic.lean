import JsonPath.Json.Basic

/-!
# Queries

A query is an anchor and a list of segments that are applied one after the other.  A filter
segment holds an expression, and an expression can embed queries, so segments and expressions are
defined together.

`Query.sameAs` compares two queries as data, with the one exception that the two zeros of binary64
literals are taken for equal.
-/

namespace JsonPath

/-- Where a query starts. -/
inductive Anchor where
  /-- The root of the document. -/
  | root
  /-- The node that a filter tests. -/
  | current
  deriving DecidableEq

/-- The comparison operators. -/
inductive Comparison where
  | eq
  | ne
  | lt
  | gt
  | le
  | ge
  deriving DecidableEq

mutual

/-- One step of a query. -/
inductive Segment where
  /-- The member of that name. -/
  | key (name : String)
  /-- The element at that place; a negative index counts from the end. -/
  | index (position : Int64)
  /-- The elements from `start` up to `stop`, in steps. -/
  | slice (start stop step : Option Int64)
  /-- All children. -/
  | wildcard
  /-- The results of several selectors on the same node, one after the other. -/
  | union (selectors : List Segment)
  /-- The selector on the node and on every container below it. -/
  | descendant (selector : Segment)
  /-- The children that pass the test. -/
  | filter (test : Expr)

/-- A filter expression. -/
inductive Expr where
  /-- A constant.  The query language and the tagged form have scalars only. -/
  | literal (value : Json)
  | query (anchor : Anchor) (segments : List Segment)
  | not (operand : Expr)
  | and (left right : Expr)
  | or (left right : Expr)
  | compare (op : Comparison) (left right : Expr)
  | call (function : String) (arguments : List Expr)

end

/-- A query. -/
structure Query where
  anchor : Anchor
  segments : List Segment

/-! ## Symbols and views -/

/-- The sign that a query starts with. -/
def Anchor.symbol : Anchor → String
  | .root => "$"
  | .current => "@"

/-- The anchor that is written so. -/
def Anchor.ofSymbol? (symbol : String) : Option Anchor :=
  if symbol = "$" then some .root else if symbol = "@" then some .current else none

/-- The written operator. -/
def Comparison.symbol : Comparison → String
  | .eq => "=="
  | .ne => "!="
  | .lt => "<"
  | .gt => ">"
  | .le => "<="
  | .ge => ">="

/-- The comparison that is written so. -/
def Comparison.ofSymbol? (symbol : String) : Option Comparison :=
  [.eq, .ne, .lt, .gt, .le, .ge].find? fun op => op.symbol == symbol

/-- Whether the segment selects one place at most. -/
def Segment.isSingular : Segment → Bool
  | .key _ => true
  | .index _ => true
  | _ => false

/-- Whether a query of these segments selects one node at most: names and indexes only. -/
def Segment.allSingular (segments : List Segment) : Bool := segments.all Segment.isSingular

/-- Whether the query selects one node at most. -/
def Query.isSingular (q : Query) : Bool := Segment.allSingular q.segments

/-! ## Comparing queries -/

mutual

/-- Equality of segments, literals up to the sign of zero. -/
def Segment.sameAs : Segment → Segment → Bool
  | .key x, .key y => x == y
  | .index i, .index j => i == j
  | .slice a b c, .slice a' b' c' => a == a' && b == b' && c == c'
  | .wildcard, .wildcard => true
  | .union xs, .union ys => Segment.sameList xs ys
  | .descendant x, .descendant y => x.sameAs y
  | .filter x, .filter y => x.sameAs y
  | _, _ => false

/-- Equality of segment lists, literals up to the sign of zero. -/
def Segment.sameList : List Segment → List Segment → Bool
  | [], [] => true
  | x :: xs, y :: ys => x.sameAs y && Segment.sameList xs ys
  | _, _ => false

/-- Equality of expressions, literals up to the sign of zero. -/
def Expr.sameAs : Expr → Expr → Bool
  | .literal x, .literal y => x.sameAs y
  | .query a xs, .query b ys => a == b && Segment.sameList xs ys
  | .not x, .not y => x.sameAs y
  | .and x x', .and y y' => x.sameAs y && x'.sameAs y'
  | .or x x', .or y y' => x.sameAs y && x'.sameAs y'
  | .compare op x x', .compare op' y y' => op == op' && x.sameAs y && x'.sameAs y'
  | .call f xs, .call g ys => f == g && Expr.sameList xs ys
  | _, _ => false

/-- Equality of argument lists, literals up to the sign of zero. -/
def Expr.sameList : List Expr → List Expr → Bool
  | [], [] => true
  | x :: xs, y :: ys => x.sameAs y && Expr.sameList xs ys
  | _, _ => false

end

/-- Equality of queries, literals up to the sign of zero. -/
def Query.sameAs (p q : Query) : Bool :=
  p.anchor == q.anchor && Segment.sameList p.segments q.segments

end JsonPath
