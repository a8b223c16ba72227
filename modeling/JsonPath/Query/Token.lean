import JsonPath.Query.Basic

/-!
# Tokens of query text
-/

namespace JsonPath

/-- The tokens of the query language. -/
inductive Token where
  | root
  | current
  | dot
  | doubleDot
  | leftBracket
  | rightBracket
  | leftParen
  | rightParen
  | comma
  | colon
  | question
  | star
  /-- A quoted string, with its escapes decoded. -/
  | string (value : String)
  /-- A number as it is written; where it stands decides what it may be. -/
  | number (lexeme : String)
  | true
  | false
  | null
  /-- A bare name: a member or a function. -/
  | name (value : String)
  | comparison (op : Comparison)
  | and
  | or
  | not
  deriving DecidableEq

namespace Token

/-- Whether a literal starts with the token. -/
def isLiteral : Token → Bool
  | .string _ => Bool.true
  | .number _ => Bool.true
  | .true => Bool.true
  | .false => Bool.true
  | .null => Bool.true
  | _ => Bool.false

/-- The member that a bare word names; the words of literals name members too. -/
def memberName? : Token → Option String
  | .name value => some value
  | .true => some "true"
  | .false => some "false"
  | .null => some "null"
  | _ => none

/-- The token of a bare word. -/
def ofWord (word : String) : Token :=
  if word = "true" then .true
  else if word = "false" then .false
  else if word = "null" then .null
  else .name word

end Token

/-- A token and the bytes that it covers, from `start` up to `stop`. -/
structure Spanned where
  token : Token
  start : Nat
  stop : Nat
  deriving DecidableEq

end JsonPath
