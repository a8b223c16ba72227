import JsonPath.Json.Basic
import JsonPath.Number.Text
import JsonPath.Text.Hex

/-!
# JSON values as compact text

No blanks are written.  In a string the quote, the backslash and the control characters below
`U+0020` are escaped, and every other character stands for itself.
-/

namespace JsonPath

namespace Json

/-- The written form of one character of a string. -/
def escapeChar (c : Char) : List Char :=
  match c with
  | '"' => ['\\', '"']
  | '\\' => ['\\', '\\']
  | '\x08' => ['\\', 'b']
  | '\x0c' => ['\\', 'f']
  | '\n' => ['\\', 'n']
  | '\r' => ['\\', 'r']
  | '\t' => ['\\', 't']
  | c =>
    if c.toNat < 0x20 then
      ['\\', 'u', '0', '0', Text.hexDigit (c.toNat / 16), Text.hexDigit (c.toNat % 16)]
    else [c]

/-- A string between quotes. -/
def quote (s : String) : String :=
  "\"" ++ String.ofList (s.toList.flatMap escapeChar) ++ "\""

mutual

/-- Appends the text of a value to `out`. -/
def write (out : String) : Json → String
  | .null => out ++ "null"
  | .bool true => out ++ "true"
  | .bool false => out ++ "false"
  | .number n => out ++ n.text
  | .string s => out ++ quote s
  | .array xs => writeElements (out ++ "[") true xs ++ "]"
  | .object ms => writeMembers (out ++ "\x7b") true ms ++ "\x7d"

/-- Appends the elements of an array, with commas between them. -/
def writeElements (out : String) (first : Bool) : List Json → String
  | [] => out
  | x :: xs => writeElements (write (if first then out else out ++ ",") x) false xs

/-- Appends the members of an object, with commas between them. -/
def writeMembers (out : String) (first : Bool) : List (String × Json) → String
  | [] => out
  | (name, x) :: ms =>
    let out := if first then out else out ++ ","
    writeMembers (write (out ++ quote name ++ ":") x) false ms

end

/-- The compact text of a value. -/
def text (value : Json) : String := value.write ""

end Json

end JsonPath
