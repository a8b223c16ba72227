import JsonPath.Number.Numeral
import JsonPath.Query.Config
import JsonPath.Query.Lexer
import JsonPath.Typing

/-!
# From tokens to queries

```
query      = "$" segments
segments   = *("." member / ".." member / [".."] bracketed)
bracketed  = "[" selector *("," selector) "]"
selector   = string / "*" / index / slice / "?" or
or         = and *("||" and)
and        = basic *("&&" basic)
basic      = ["!"] "(" or ")" / ["!"] operand / operand comparison operand
operand    = literal / ("$" / "@") segments / name "(" [argument *("," argument)] ")"
argument   = literal / or
```

The parser reads tokens from the left and decides on one or two of them.  Where it goes deeper, into
a filter, parentheses or the arguments of a call, it takes the parser of the next level as an
argument, and there are only as many levels as the configuration allows.

A filter that is not inside another one is checked as soon as it is complete.  Type errors are then
reported, or are failures where the configuration is strict.
-/

namespace JsonPath

/-- The state of reading: what is left to read and what has been reported. -/
structure ParserState where
  tokens : List Spanned
  /-- Where the last token that was read ends. -/
  previousStop : Nat
  /-- Where the text ends. -/
  textEnd : Nat
  diagnostics : List Diagnostic

/-- A reader of tokens: it changes the state and may fail. -/
abbrev Parser := EStateM Failure ParserState

namespace Parser

/-! ## Single tokens -/

/-- The next token, if there is one. -/
def peek : Parser (Option Token) := do
  return (← get).tokens.head?.map Spanned.token

/-- The token after the next one. -/
def peekSecond : Parser (Option Token) := do
  return (← get).tokens.tail.head?.map Spanned.token

/-- The position of the next token; after the last token, the end of the text. -/
def offset : Parser Nat := do
  let state ← get
  return (state.tokens.head?.map Spanned.start).getD state.textEnd

/-- Where the last token that was read ends. -/
def previousStop : Parser Nat := do
  return (← get).previousStop

/-- Whether no blank stands before the next token. -/
def isAdjacent : Parser Bool := do
  return (← offset) == (← previousStop)

/-- Passes over the next token. -/
def advance : Parser Unit :=
  modify fun state =>
    match state.tokens with
    | [] => state
    | t :: rest => { state with tokens := rest, previousStop := t.stop }

/-- Fails for want of something at a position. -/
def failAt {α : Type} (position : Nat) (what : Expectation) : Parser α :=
  throw ⟨position, .expected what⟩

/-- Fails for want of something in place of the next token. -/
def failHere {α : Type} (what : Expectation) : Parser α := do
  failAt (← offset) what

/-- Passes over the next token if it is `token`. -/
def eat (token : Token) : Parser Bool := do
  if (← peek) = some token then
    advance
    return true
  else return false

/-- Passes over the next token, which has to be `token`. -/
def expect (token : Token) (what : Expectation) : Parser Unit := do
  if ← eat token then pure () else failHere what

/-! ## Repetition -/

/-- Repeats a step until it yields nothing, at most `fuel` times. -/
def repeatUpTo {α : Type} (step : Parser (Option α)) : Nat → Parser (List α)
  | 0 => pure []
  | fuel + 1 => do
    match ← step with
    | none => return []
    | some x => return x :: (← repeatUpTo step fuel)

/-- Repeats a step until it yields nothing.  A step that yields something reads a token, so there
are no more of these than tokens left. -/
def many {α : Type} (step : Parser (Option α)) : Parser (List α) := do
  repeatUpTo step (← get).tokens.length

/-- One or more items with `separator` between them: the first and the others. -/
def separated {α : Type} (separator : Token) (item : Parser α) : Parser (α × List α) := do
  let first ← item
  let others ← many do
    if ← eat separator then some <$> item else return none
  return (first, others)

/-- One or more expressions with `operator` between them, combined from the left. -/
def chained (operator : Token) (combine : Expr → Expr → Expr) (item : Parser Expr) :
    Parser Expr := do
  let (first, others) ← separated operator item
  return others.foldl combine first

/-! ## Integers and literals -/

/-- The greatest magnitude of an index or of a part of a slice. -/
def integerLimit : Int := 0x1FFFFFFFFFFFFF

/-- The integer that a number token stands for: digits without a leading zero, within the limit,
and no negative zero. -/
def integer? (lexeme : String) : Option Int64 :=
  let (negative, digits) := Numeral.scanSign lexeme.toList
  if digits.isEmpty || !digits.all Char.isDigit then none
  else if digits.head? = some '0' && (digits.length ≠ 1 || negative) then none
  else
    let magnitude : Int := Nat.ofDigitChars 10 digits 0
    if magnitude ≤ integerLimit then
      some (Int64.ofInt (if negative then -magnitude else magnitude))
    else none

/-- An integer, if a number comes next. -/
def optionalInteger : Parser (Option Int64) := do
  match ← peek with
  | some (.number lexeme) =>
    match integer? lexeme with
    | some i =>
      advance
      return some i
    | none => failHere .integer
  | _ => return none

/-- A literal; the next token is one. -/
def literal : Parser Json := do
  let position ← offset
  let token ← peek
  advance
  match token with
  | some (.string value) => return .string value
  | some (.number lexeme) =>
    match Number.ofText? lexeme with
    | some n => return .number n
    | none => failAt position .jsonNumber
  | some .true => return .bool true
  | some .false => return .bool false
  | some .null => return .null
  | _ => failAt position .operand

/-! ## Segments -/

/-- A member name or `*` directly after `.` or `..`. -/
def shorthand (what : Expectation) : Parser Segment := do
  if !(← isAdjacent) then failAt (← previousStop) what
  else
    match ← peek with
    | some .star =>
      advance
      return .wildcard
    | some token =>
      match token.memberName? with
      | some name =>
        advance
        return .key name
      | none => failHere what
    | none => failHere what

/-- An index or a slice. -/
def indexOrSlice : Parser Segment := do
  let start ← optionalInteger
  if ← eat .colon then
    let stop ← optionalInteger
    let step ← if ← eat .colon then optionalInteger else pure none
    return .slice start stop step
  else
    match start with
    | some i => return .index i
    | none => failHere .selector

/-- A selector between brackets; `filter` reads a filter. -/
def selector (filter : Parser Segment) : Parser Segment := do
  match ← peek with
  | some (.string name) =>
    advance
    return .key name
  | some .star =>
    advance
    return .wildcard
  | some .question => filter
  | some (.number _) => indexOrSlice
  | some .colon => indexOrSlice
  | _ => failHere .selector

/-- Selectors in brackets: one stands for itself and several make a union. -/
def bracketed (filter : Parser Segment) : Parser Segment := do
  advance
  let (first, others) ← separated .comma (selector filter)
  expect .rightBracket .closingBracket
  match others with
  | [] => return first
  | others => return .union (first :: others)

/-- A segment, if one comes next. -/
def segment? (filter : Parser Segment) : Parser (Option Segment) := do
  match ← peek with
  | some .dot =>
    advance
    some <$> shorthand .memberAfterDot
  | some .doubleDot =>
    advance
    if (← peek) = some .leftBracket && (← isAdjacent) then
      return some (.descendant (← bracketed filter))
    else
      return some (.descendant (← shorthand .memberAfterDoubleDot))
  | some .leftBracket => some <$> bracketed filter
  | _ => return none

/-- All segments that come next. -/
def segments (filter : Parser Segment) : Parser (List Segment) := many (segment? filter)

/-! ## Filters

In this section `deeper?` reads an expression one level deeper, and is missing where the limit
allows no further level. -/

/-- Goes one level deeper at a position. -/
def enter (limit : Nat) (deeper? : Option (Parser Expr)) (position : Nat) :
    Parser (Parser Expr) :=
  match deeper? with
  | some deeper => pure deeper
  | none => throw ⟨position, .tooDeep limit⟩

/-- A filter; `finish` is run on the position of its sign and the complete expression. -/
def filter (limit : Nat) (deeper? : Option (Parser Expr)) (finish : Nat → Expr → Parser Unit) :
    Parser Segment := do
  let position ← offset
  advance
  let deeper ← enter limit deeper? position
  let test ← deeper
  finish position test
  return .filter test

/-- An expression in parentheses. -/
def parenthesized (limit : Nat) (deeper? : Option (Parser Expr)) : Parser Expr := do
  let position ← offset
  advance
  let deeper ← enter limit deeper? position
  let e ← deeper
  expect .rightParen .closingParen
  return e

/-- A query inside a filter; its filters are finished with the outer one. -/
def embedded (limit : Nat) (deeper? : Option (Parser Expr)) (anchor : Anchor) :
    Parser Expr := do
  advance
  return .query anchor (← segments (filter limit deeper? fun _ _ => pure ()))

/-- An argument of a call: a literal that stands alone, or an expression. -/
def argument (deeper : Parser Expr) : Parser Expr := do
  match ← peek with
  | some token =>
    let second ← peekSecond
    if token.isLiteral && (second = some .comma || second = some .rightParen) then
      return .literal (← literal)
    else deeper
  | none => deeper

/-- The arguments of a call, up to its closing parenthesis. -/
def arguments (deeper : Parser Expr) : Parser (List Expr) := do
  if (← peek) = some .rightParen then return []
  else
    let (first, others) ← separated .comma (argument deeper)
    return first :: others

/-- Whether a name is one that functions may have. -/
def isFunctionName (name : String) : Bool :=
  match name.toList with
  | [] => false
  | c :: cs => c.isLower && cs.all fun c => c.isLower || c.isDigit || c == '_'

/-- The call of the function `name`, whose name comes next and a parenthesis after it. -/
def call (limit : Nat) (deeper? : Option (Parser Expr)) (name : String) : Parser Expr := do
  if !isFunctionName name then failHere .functionName
  else
    advance
    if !(← isAdjacent) then failAt (← previousStop) .parenAfterName
    else
      let position ← offset
      advance
      let deeper ← enter limit deeper? position
      let arguments ← arguments deeper
      expect .rightParen .commaOrParen
      return .call name arguments

/-- A literal, an embedded query or a call. -/
def operand (limit : Nat) (deeper? : Option (Parser Expr)) : Parser Expr := do
  match ← peek with
  | some .root => embedded limit deeper? .root
  | some .current => embedded limit deeper? .current
  | some token =>
    if let .name name := token then
      if (← peekSecond) = some .leftParen then call limit deeper? name
      else failHere .operand
    else if token.isLiteral then return .literal (← literal)
    else failHere .operand
  | none => failHere .operand

/-- Refuses an operand of a comparison that is a query of more than one node; `position` is where
it starts. -/
def requireComparable (e : Expr) (position : Nat) : Parser Unit :=
  match e with
  | .query _ segments =>
    if Segment.allSingular segments then pure () else failAt position .singularQuery
  | _ => pure ()

/-- Refuses a literal where a test is wanted. -/
def requireTest (e : Expr) (position : Nat) (what : Expectation) : Parser Unit :=
  match e with
  | .literal _ => failAt position what
  | _ => pure ()

/-- A comparison, or an operand that is a test by itself. -/
def comparisonOrTest (limit : Nat) (deeper? : Option (Parser Expr)) : Parser Expr := do
  let leftPosition ← offset
  let left ← operand limit deeper?
  match ← peek with
  | some (.comparison op) =>
    advance
    requireComparable left leftPosition
    let rightPosition ← offset
    let right ← operand limit deeper?
    requireComparable right rightPosition
    return .compare op left right
  | _ =>
    requireTest left (← offset) .comparison
    return left

/-- An expression without `&&` and `||` outside parentheses. -/
def basic (limit : Nat) (deeper? : Option (Parser Expr)) : Parser Expr := do
  if ← eat .not then
    if (← peek) = some .leftParen then return .not (← parenthesized limit deeper?)
    else
      let position ← offset
      let e ← operand limit deeper?
      requireTest e position .testAfterNot
      return .not e
  else if (← peek) = some .leftParen then parenthesized limit deeper?
  else comparisonOrTest limit deeper?

/-- A whole expression. -/
def expression (limit : Nat) (deeper? : Option (Parser Expr)) : Parser Expr :=
  chained .or .or (chained .and .and (basic limit deeper?))

/-- The parser of expressions at the level where `levels` further ones are allowed, itself
included. -/
def expressionWithin (limit : Nat) : Nat → Option (Parser Expr)
  | 0 => none
  | levels + 1 => some (expression limit (expressionWithin limit levels))

/-! ## Whole queries -/

/-- Checks a complete filter whose sign stands at a position: reports its type errors, or fails
with the first one. -/
def checkFilter (r : Registry) (strict : Bool) (position : Nat) (test : Expr) : Parser Unit := do
  let found := (r.checkTest test).diagnostics
  match strict, found with
  | true, first :: _ => throw ⟨position, .illTyped first⟩
  | true, [] => pure ()
  | false, found => modify fun state => { state with diagnostics := state.diagnostics ++ found }

/-- A whole query. -/
def query (r : Registry) (c : ParserConfig) : Parser Query := do
  if !((← offset) == 0 && (← peek) == some .root) then failAt 0 .rootSign
  else
    advance
    let levels := expressionWithin c.maxDepth c.maxDepth
    let segments ← segments (filter c.maxDepth levels (checkFilter r c.strict))
    if (← peek).isSome then failHere .segmentOrEnd
    else if !(← isAdjacent) then failAt (← previousStop) .segmentAfterBlank
    else return ⟨.root, segments⟩

end Parser

/-- Reads the text of a query.  Returns the query or the failure, and what has been reported up to
there. -/
def Query.parse (r : Registry) (c : ParserConfig) (text : String) :
    Except Failure Query × List Diagnostic :=
  match Token.scanAll text with
  | .error e => (.error e, [])
  | .ok tokens =>
    match (Parser.query r c).run ⟨tokens, 0, text.utf8ByteSize, []⟩ with
    | .ok q state => (.ok q, state.diagnostics)
    | .error e state => (.error e, state.diagnostics)

end JsonPath
