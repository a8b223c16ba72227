import JsonPath.Unicode.Additions

/-!
# Text made visible

Messages show a text in double quotes so that every character of it can be told apart: controls,
separators other than the blank, unassigned code points, characters that combine with the one
before them and characters that may be passed over are written by their numbers.
-/

namespace JsonPath.Text

/-- Whether a character is seen by itself: it has a glyph of its own or is the blank. -/
def isVisible (c : Char) : Bool :=
  c == ' ' || (Unicode.hasGlyph c && !Unicode.isExtending c && !Unicode.isIgnorable c)

/-- A character by its number in hexadecimal digits. -/
def numbered (c : Char) : List Char :=
  ['\\', 'u', '\x7b'] ++ Nat.toDigits 16 c.toNat ++ ['\x7d']

/-- One character of a visible text. -/
def visibleChar (c : Char) : List Char :=
  match c with
  | '"' => ['\\', '"']
  | '\\' => ['\\', '\\']
  | '\n' => ['\\', 'n']
  | '\r' => ['\\', 'r']
  | '\t' => ['\\', 't']
  | '\x00' => ['\\', '0']
  | c => if isVisible c then [c] else numbered c

/-- A text in double quotes with every character visible. -/
def visible (s : String) : String :=
  "\"" ++ String.ofList (s.toList.flatMap visibleChar) ++ "\""

end JsonPath.Text
