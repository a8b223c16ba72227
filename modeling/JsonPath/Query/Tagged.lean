import JsonPath.Query.Basic
import JsonPath.Json.Text

/-!
# Queries as tagged JSON

A query is written as an array whose first element is its anchor.  A bare string is a name, a bare
integer an index, and every other segment is an array that starts with a tag.  Inside a filter a
bare scalar is a literal and every other expression is a tagged array.

`Query.toTagged` writes this form and `Query.ofTagged` reads it.  Reading ignores nothing and
accepts one spelling for each query; a value that does not fit is refused with the first part, in
reading order, that is malformed where it stands.
-/

namespace JsonPath

/-- The kinds of place that a part of a tagged query stands in. -/
inductive TaggedPlace where
  | query
  | segment
  | expression
  deriving DecidableEq

/-- A part of a tagged query that does not fit its place. -/
structure TaggedError where
  place : TaggedPlace
  part : Json

/-- The message of an error: the malformed part as compact JSON. -/
def TaggedError.message (e : TaggedError) : String :=
  match e.place with
  | .query => "malformed query " ++ e.part.text ++
      ": expected an array starting with \"$\" or \"@\""
  | .segment => "malformed segment " ++ e.part.text
  | .expression => "malformed filter expression " ++ e.part.text

/-! ## Writing -/

/-- A slice bound; one that is left out is `null`. -/
def Json.ofBound : Option Int64 → Json
  | none => .null
  | some i => .number (.ofInt64 i)

mutual

/-- The tagged form of a segment. -/
def Segment.toTagged : Segment → Json
  | .key name => .string name
  | .index i => .number (.ofInt64 i)
  | .slice start stop step =>
    .array [.string "slice", .ofBound start, .ofBound stop, .ofBound step]
  | .wildcard => .array [.string "wild"]
  | .union selectors => .array (.string "u" :: Segment.toTaggedList selectors)
  | .descendant selector => .array [.string "desc", selector.toTagged]
  | .filter test => .array [.string "filt", test.toTagged]

/-- The tagged forms of segments. -/
def Segment.toTaggedList : List Segment → List Json
  | [] => []
  | s :: rest => s.toTagged :: Segment.toTaggedList rest

/-- The tagged form of an expression. -/
def Expr.toTagged : Expr → Json
  | .literal value => value
  | .query anchor segments => .array (.string anchor.symbol :: Segment.toTaggedList segments)
  | .not e => .array [.string "not", e.toTagged]
  | .and l r => .array [.string "and", l.toTagged, r.toTagged]
  | .or l r => .array [.string "or", l.toTagged, r.toTagged]
  | .compare op l r => .array [.string op.symbol, l.toTagged, r.toTagged]
  | .call function arguments =>
    .array (.string "func" :: .string function :: Expr.toTaggedList arguments)

/-- The tagged forms of arguments. -/
def Expr.toTaggedList : List Expr → List Json
  | [] => []
  | e :: rest => e.toTagged :: Expr.toTaggedList rest

end

/-- The tagged form of a query. -/
def Query.toTagged (q : Query) : Json :=
  .array (.string q.anchor.symbol :: Segment.toTaggedList q.segments)

/-! ## Reading -/

/-- A signed 64-bit integer. -/
def Json.toInt64? : Json → Option Int64
  | .number n => n.toInt64?
  | _ => none

/-- A slice bound: `null` when it is left out, and else an integer. -/
def Json.toBound? : Json → Option (Option Int64)
  | .null => some none
  | value => value.toInt64?.map some

/-- The slice with these three bounds. -/
def Segment.ofBounds? (start stop step : Json) : Option Segment := do
  return .slice (← start.toBound?) (← stop.toBound?) (← step.toBound?)

mutual

/-- Reads a tagged segment. -/
def Segment.ofTagged : Json → Except TaggedError Segment
  | .string name => .ok (.key name)
  | .number n =>
    match n.toInt64? with
    | some i => .ok (.index i)
    | none => .error ⟨.segment, .number n⟩
  | .array (.string tag :: operands) =>
    match tag, operands with
    | "wild", [] => .ok .wildcard
    | "u", selectors => (Segment.ofTaggedList selectors).map .union
    | "desc", [selector] => (Segment.ofTagged selector).map .descendant
    | "slice", [start, stop, step] =>
      match Segment.ofBounds? start stop step with
      | some s => .ok s
      | none => .error ⟨.segment, .array (.string tag :: operands)⟩
    | "filt", [test] => (Expr.ofTagged test).map .filter
    | _, _ => .error ⟨.segment, .array (.string tag :: operands)⟩
  | value => .error ⟨.segment, value⟩

/-- Reads tagged segments in order. -/
def Segment.ofTaggedList : List Json → Except TaggedError (List Segment)
  | [] => .ok []
  | value :: rest => do
    let s ← Segment.ofTagged value
    let rest ← Segment.ofTaggedList rest
    return s :: rest

/-- Reads a tagged expression. -/
def Expr.ofTagged : Json → Except TaggedError Expr
  | .null => .ok (.literal .null)
  | .bool b => .ok (.literal (.bool b))
  | .number n => .ok (.literal (.number n))
  | .string s => .ok (.literal (.string s))
  | .array (.string tag :: operands) =>
    match tag, operands with
    | "$", segments => (Segment.ofTaggedList segments).map (.query .root)
    | "@", segments => (Segment.ofTaggedList segments).map (.query .current)
    | "and", [l, r] => do
      let l ← Expr.ofTagged l
      let r ← Expr.ofTagged r
      return .and l r
    | "or", [l, r] => do
      let l ← Expr.ofTagged l
      let r ← Expr.ofTagged r
      return .or l r
    | "not", [e] => (Expr.ofTagged e).map .not
    | "func", .string function :: arguments =>
      (Expr.ofTaggedList arguments).map (.call function)
    | symbol, [l, r] =>
      match Comparison.ofSymbol? symbol with
      | none => .error ⟨.expression, .array (.string tag :: operands)⟩
      | some op => do
        let l ← Expr.ofTagged l
        let r ← Expr.ofTagged r
        return .compare op l r
    | _, _ => .error ⟨.expression, .array (.string tag :: operands)⟩
  | value => .error ⟨.expression, value⟩

/-- Reads tagged arguments in order. -/
def Expr.ofTaggedList : List Json → Except TaggedError (List Expr)
  | [] => .ok []
  | value :: rest => do
    let e ← Expr.ofTagged value
    let rest ← Expr.ofTaggedList rest
    return e :: rest

end

/-- Reads a tagged query. -/
def Query.ofTagged : Json → Except TaggedError Query
  | .array (.string symbol :: segments) =>
    match Anchor.ofSymbol? symbol with
    | some anchor => (Segment.ofTaggedList segments).map (⟨anchor, ·⟩)
    | none => .error ⟨.query, .array (.string symbol :: segments)⟩
  | value => .error ⟨.query, value⟩

end JsonPath
