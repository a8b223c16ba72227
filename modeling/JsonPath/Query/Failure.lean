import JsonPath.Diagnostic
import JsonPath.Text.Position

/-!
# Failures of reading query text

A failure is a position in the text and a cause.  `Failure.report` turns it into words with a line
and a column, and `FailureReport.message` shows it to a reader: the reason, what was expected, the
line of the text and a mark below the column.
-/

namespace JsonPath

/-- What a text would have to go on with. -/
inductive Expectation where
  | equalSign
  | andSign
  | orSign
  | anyToken
  | digit
  | closingQuote (quote : Char)
  | escapedControl
  | escapeSequence
  | lowSurrogate
  | highSurrogate
  | unicodeEscape
  | hexDigits
  | rootSign
  | segmentOrEnd
  | segmentAfterBlank
  | memberAfterDot
  | memberAfterDoubleDot
  | closingBracket
  | selector
  | integer
  | testAfterNot
  | comparison
  | closingParen
  | operand
  | singularQuery
  | jsonNumber
  | functionName
  | parenAfterName
  | commaOrParen
  deriving DecidableEq

/-- The expectation in words. -/
def Expectation.text : Expectation → String
  | .equalSign => "\"==\""
  | .andSign => "\"&&\""
  | .orSign => "\"||\""
  | .anyToken => "a selector, operator or literal"
  | .digit => "digit"
  | .closingQuote quote =>
    if quote = '\'' then "closing \"'\"" else "closing '\"'"
  | .escapedControl => "escaped control character"
  | .escapeSequence => "valid escape sequence"
  | .lowSurrogate => "low surrogate escape after high surrogate"
  | .highSurrogate => "high surrogate before low surrogate"
  | .unicodeEscape => "valid unicode escape"
  | .hexDigits => "four hex digits after \\u"
  | .rootSign => "\"$\""
  | .segmentOrEnd => "a segment or end of query"
  | .segmentAfterBlank => "a segment after blank space"
  | .memberAfterDot => "a member name or \"*\" after \".\""
  | .memberAfterDoubleDot => "a member name, \"*\" or \"[\" after \"..\""
  | .closingBracket => "\"]\""
  | .selector => "a selector"
  | .integer => "an integer between -9007199254740991 and 9007199254740991"
  | .testAfterNot => "a query, function or \"(\" after \"!\""
  | .comparison => "a comparison operator"
  | .closingParen => "\")\""
  | .operand => "a literal, query or function"
  | .singularQuery => "a singular query (names and indexes only)"
  | .jsonNumber => "a JSON number"
  | .functionName => "a function name (lowercase letters, digits, \"_\")"
  | .parenAfterName => "\"(\" directly after the function name"
  | .commaOrParen => "\",\" or \")\""

/-- Why a text is no query. -/
inductive FailureCause where
  | expected (what : Expectation)
  /-- More filters, parentheses and calls are open than the limit allows. -/
  | tooDeep (limit : Nat)
  /-- A filter with a type error, where these are not tolerated. -/
  | illTyped (diagnostic : Diagnostic)
  deriving DecidableEq

/-- A cause and the position in bytes where it arises. -/
structure Failure where
  offset : Nat
  cause : FailureCause
  deriving DecidableEq

/-- A failure in words. -/
structure FailureReport where
  reason : String
  line : Nat
  column : Nat
  /-- What would have been accepted next, as far as it is known. -/
  expected : List String
  deriving DecidableEq

namespace Failure

/-- The part of a reason that says where: line, column and the byte, counted from one. -/
def whereText (line column offset : Nat) : String :=
  " at line " ++ line.repr ++ ", column " ++ column.repr ++ " (byte " ++ (offset + 1).repr ++ ")"

/-- The cause in words, without the place. -/
def causeText : FailureCause → String
  | .expected what => "Expected " ++ what.text
  | .tooDeep limit => "Nesting deeper than " ++ limit.repr ++ " levels"
  | .illTyped d => "Ill-typed filter: " ++ d.message

/-- What follows the place: after an expectation the text read so far, if there is any. -/
def readText (cause : FailureCause) (read : List Char) : String :=
  match cause, read with
  | .expected _, _ :: _ => " after " ++ String.ofList read
  | _, _ => ""

/-- The expectations that a cause names. -/
def expectedTexts : FailureCause → List String
  | .expected what => [what.text]
  | _ => []

/-- A failure in the words for the text `text`.  A position inside a character would count as the
end of the text. -/
def report (f : Failure) (text : String) : FailureReport :=
  let chars := text.toList
  let read? := Text.before? f.offset chars
  let read := read?.getD chars
  let line := Text.endLine read
  let column := Text.endColumn read
  { reason := causeText f.cause ++ whereText line column f.offset ++
      readText f.cause (read?.getD [])
    line, column
    expected := expectedTexts f.cause }

end Failure

namespace FailureReport

/-- The words that an expectation starts with. -/
def expectedWord : List Char := "Expected ".toList

/-- The words that end an expectation. -/
def afterWord : List Char := " after".toList

/-- The part of a reason that says what was expected: from the first line that starts with
`Expected`, and has something before an `after` that follows, up to the last `after`. -/
def expectedClause? (reason : String) : Option String :=
  (Text.fromLineStarts reason.toList).findSome? fun s =>
    if expectedWord.isPrefixOf s then
      match Text.beforeLast? afterWord s with
      | some clause =>
        if expectedWord.length < clause.length then some (String.ofList clause) else none
      | none => none
    else none

/-- A text on one line: its line feeds are written out. -/
def onOneLine (s : String) : String :=
  String.ofList (s.toList.flatMap fun c => if c = '\n' then "<<<NEWLINE>>>".toList else [c])

/-- The line of the text where the failure lies, if there is such a line. -/
def sourceLine? (f : FailureReport) (text : String) : Option String :=
  if f.line = 0 then none
  else (Text.lines text.toList)[f.line - 1]?.map String.ofList

/-- The mark below the column of the failure. -/
def mark (f : FailureReport) : String :=
  String.ofList (List.replicate (f.column - 1) '~') ++ "^"

/-- The lines that show a failure to a reader. -/
def messageLines (f : FailureReport) (text : String) : List String :=
  f.reason ::
    (match expectedClause? f.reason with
      | some clause => [onOneLine clause ++ ":"]
      | none => []) ++
    (match f.sourceLine? text with
      | some line => [line, f.mark]
      | none => [])

/-- The message that shows a failure to a reader. -/
def message (f : FailureReport) (text : String) : String :=
  "\n".intercalate (f.messageLines text)

end FailureReport

end JsonPath
