import JsonPath.Query.Basic
import JsonPath.Json.Text

/-!
# The canonical text of a query

Every segment is written in brackets, names in single quotes.  Between binary operators
parentheses stand only where the operators do not bind tightly enough by themselves.  A descendant
segment inside a union has no form in the query language; it is written with `..` inside the
brackets.
-/

namespace JsonPath

namespace Text

/-- One character of a name in single quotes. -/
def escapeNameChar (c : Char) : List Char :=
  match c with
  | '\'' => ['\\', '\'']
  | '\\' => ['\\', '\\']
  | '\x08' => ['\\', 'b']
  | '\x0c' => ['\\', 'f']
  | '\n' => ['\\', 'n']
  | '\r' => ['\\', 'r']
  | '\t' => ['\\', 't']
  | c =>
    if c.toNat < 0x20 then
      ['\\', 'u', '0', '0', Text.hexDigit (c.toNat / 16), Text.hexDigit (c.toNat % 16)]
    else [c]

/-- A member name in single quotes. -/
def quoteName (name : String) : String :=
  "'" ++ String.ofList (name.toList.flatMap escapeNameChar) ++ "'"

/-- An optional slice part: nothing when it is left out. -/
def ofBound : Option Int64 → String
  | none => ""
  | some i => Text.ofInt i.toInt

/-- A slice; the second colon comes with the step. -/
def ofSlice (start stop step : Option Int64) : String :=
  ofBound start ++ ":" ++ ofBound stop ++
    match step with
    | none => ""
    | some i => ":" ++ Text.ofInt i.toInt

/-- Puts parentheses around `text` if they are needed. -/
def parenthesize (needed : Bool) (text : String) : String :=
  if needed then "(" ++ text ++ ")" else text

end Text

/-- How tightly the outermost operator of an expression binds, the loosest first. -/
def Expr.precedence : Expr → Nat
  | .or _ _ => 1
  | .and _ _ => 2
  | .compare _ _ _ => 3
  | _ => 4

/-- Whether the operand of `!` stands without parentheses. -/
def Expr.isNegatedBare : Expr → Bool
  | .query _ _ => true
  | .call _ _ => true
  | _ => false

mutual

/-- A selector as it stands between brackets. -/
def Segment.selectorText : Segment → String
  | .key name => Text.quoteName name
  | .index i => Text.ofInt i.toInt
  | .slice start stop step => Text.ofSlice start stop step
  | .wildcard => "*"
  | .union selectors => Segment.selectorTexts selectors
  | .descendant selector => ".." ++ selector.selectorText
  | .filter test => "?" ++ test.text

/-- The selectors of a union. -/
def Segment.selectorTexts : List Segment → String
  | [] => ""
  | [s] => s.selectorText
  | s :: rest => s.selectorText ++ ", " ++ Segment.selectorTexts rest

/-- The segments of a query, one after the other. -/
def Segment.texts : List Segment → String
  | [] => ""
  | .descendant selector :: rest => "..[" ++ selector.selectorText ++ "]" ++ Segment.texts rest
  | s :: rest => "[" ++ s.selectorText ++ "]" ++ Segment.texts rest

/-- The canonical text of an expression. -/
def Expr.text : Expr → String
  | .literal value => value.text
  | .query anchor segments => anchor.symbol ++ Segment.texts segments
  | .not e => "!" ++ Text.parenthesize (!e.isNegatedBare) e.text
  | .and l r =>
    Text.parenthesize (l.precedence < 2) l.text ++ " && " ++
      Text.parenthesize (r.precedence < 3) r.text
  | .or l r =>
    Text.parenthesize (l.precedence < 1) l.text ++ " || " ++
      Text.parenthesize (r.precedence < 2) r.text
  | .compare op l r =>
    Text.parenthesize (l.precedence < 4) l.text ++ " " ++ op.symbol ++ " " ++
      Text.parenthesize (r.precedence < 4) r.text
  | .call function arguments => function ++ "(" ++ Expr.argumentTexts arguments ++ ")"

/-- The arguments of a call. -/
def Expr.argumentTexts : List Expr → String
  | [] => ""
  | [e] => e.text
  | e :: rest => e.text ++ ", " ++ Expr.argumentTexts rest

end

/-- The canonical text of a query. -/
def Query.text (q : Query) : String := q.anchor.symbol ++ Segment.texts q.segments

end JsonPath
