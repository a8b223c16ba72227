import JsonPath.Json.Basic
import JsonPath.Number.Numeral
import JsonPath.Text.Hex

/-!
# Reading JSON text

`Json.parse?` reads one value with blanks around it.  A repeated member name keeps its first place
and takes its last value.  The recursion is bounded by the length of the text, since each step
reads at least one character.
-/

namespace JsonPath

namespace Json

/-! ## Blanks and strings -/

/-- The blank characters between tokens. -/
def isBlank (c : Char) : Bool := c == ' ' || c == '\t' || c == '\n' || c == '\r'

/-- A text without the blanks at its head. -/
def skipBlanks (s : List Char) : List Char := s.dropWhile isBlank

/-- The character behind `\u`: one code outside the surrogates, or a high and a low one. -/
def scanUnicode (s : List Char) : Option (Char × List Char) := do
  let (code, rest) ← Text.scanHex4 s
  if Text.isHighSurrogate code then
    match rest with
    | '\\' :: 'u' :: rest =>
      let (low, rest) ← Text.scanHex4 rest
      if Text.isLowSurrogate low then
        return (Char.ofNat (Text.joinSurrogates code low), rest)
      else none
    | _ => none
  else if Text.isLowSurrogate code then none
  else return (Char.ofNat code, rest)

/-- The character behind a backslash. -/
def scanEscape : List Char → Option (Char × List Char)
  | '"' :: rest => some ('"', rest)
  | '\\' :: rest => some ('\\', rest)
  | '/' :: rest => some ('/', rest)
  | 'b' :: rest => some ('\x08', rest)
  | 'f' :: rest => some ('\x0c', rest)
  | 'n' :: rest => some ('\n', rest)
  | 'r' :: rest => some ('\r', rest)
  | 't' :: rest => some ('\t', rest)
  | 'u' :: rest => scanUnicode rest
  | _ => none

/-- The rest of a string after its opening quote; `read` holds its characters so far, the last
one first. -/
def scanString (fuel : Nat) (read : List Char) (s : List Char) : Option (String × List Char) :=
  match fuel, s with
  | _, '"' :: rest => some (String.ofList read.reverse, rest)
  | fuel + 1, '\\' :: rest =>
    (scanEscape rest).bind fun (c, rest) => scanString fuel (c :: read) rest
  | fuel + 1, c :: rest => if c.toNat < 0x20 then none else scanString fuel (c :: read) rest
  | _, _ => none

/-! ## Values -/

mutual

/-- The value at the head of a text, and what follows it. -/
def scanValue : Nat → List Char → Option (Json × List Char)
  | 0, _ => none
  | fuel + 1, s =>
    match skipBlanks s with
    | 'n' :: 'u' :: 'l' :: 'l' :: rest => some (.null, rest)
    | 't' :: 'r' :: 'u' :: 'e' :: rest => some (.bool true, rest)
    | 'f' :: 'a' :: 'l' :: 's' :: 'e' :: rest => some (.bool false, rest)
    | '"' :: rest => (scanString fuel [] rest).map fun (value, rest) => (.string value, rest)
    | '[' :: rest =>
      match skipBlanks rest with
      | ']' :: rest => some (.array [], rest)
      | rest => (scanElements fuel [] rest).map fun (elements, rest) => (.array elements, rest)
    | '\x7b' :: rest =>
      match skipBlanks rest with
      | '\x7d' :: rest => some (.object [], rest)
      | rest => (scanMembers fuel [] rest).map fun (members, rest) => (.object members, rest)
    | s => (Number.scan s).map fun (n, rest) => (.number n, rest)

/-- The elements of an array up to its closing bracket; `read` holds those so far, the last one
first. -/
def scanElements : Nat → List Json → List Char → Option (List Json × List Char)
  | 0, _, _ => none
  | fuel + 1, read, s =>
    match scanValue fuel s with
    | none => none
    | some (value, rest) =>
      match skipBlanks rest with
      | ',' :: rest => scanElements fuel (value :: read) rest
      | ']' :: rest => some ((value :: read).reverse, rest)
      | _ => none

/-- The members of an object up to its closing brace; `read` holds those so far. -/
def scanMembers : Nat → List (String × Json) → List Char →
    Option (List (String × Json) × List Char)
  | 0, _, _ => none
  | fuel + 1, read, s =>
    match skipBlanks s with
    | '"' :: rest =>
      match scanString fuel [] rest with
      | none => none
      | some (name, rest) =>
        match skipBlanks rest with
        | ':' :: rest =>
          match scanValue fuel rest with
          | none => none
          | some (value, rest) =>
            let read := setMember name value read
            match skipBlanks rest with
            | ',' :: rest => scanMembers fuel read rest
            | '\x7d' :: rest => some (read, rest)
            | _ => none
        | _ => none
    | _ => none

end

/-- The value that a whole text holds, with blanks around it. -/
def parse? (s : String) : Option Json :=
  let chars := s.toList
  match scanValue (chars.length + 1) chars with
  | some (value, rest) => if (skipBlanks rest).isEmpty then some value else none
  | none => none

end Json

end JsonPath
