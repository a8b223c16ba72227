import JsonPath.Unicode.CaseFolding
import JsonPath.Unicode.GeneralCategory
import JsonPath.Unicode.Property

/-!
# Sets with names of their own

The sets that patterns name by one letter after a backslash, and the classes of ASCII that they
name in brackets.
-/

namespace JsonPath.CharSet

/-- The code points of a general category or of a group of them. -/
def ofCategory (name : String) : CharSet :=
  ofRuns Unicode.categoryRuns (Unicode.categoryIn name)

/-- Decimal digits. -/
def digit : CharSet := ofCategory "Nd"

/-- White space. -/
def space : CharSet := Unicode.whiteSpaceSet

/-- The characters of words: letters, marks, decimal digits, connectors and joiners. -/
def word : CharSet :=
  union [Unicode.alphabeticSet, ofCategory "M", digit, ofCategory "Pc", Unicode.joinControlSet]

/-- Decimal digits of ASCII. -/
def asciiDigit : CharSet := range 0x30 0x39

/-- White space of ASCII. -/
def asciiSpace : CharSet := union [range 0x09 0x0D, range 0x20 0x20]

/-- The characters of words of ASCII. -/
def asciiWord : CharSet :=
  union [range 0x30 0x39, range 0x41 0x5A, range 0x5F 0x5F, range 0x61 0x7A]

/-- The characters of words, of Unicode or of ASCII. -/
def wordOf (unicode : Bool) : CharSet := if unicode then word else asciiWord

/-- The classes that are written `[:name:]`. -/
def ofAsciiClass? (name : String) : Option CharSet :=
  match name with
  | "alnum" => some (union [range 0x30 0x39, range 0x41 0x5A, range 0x61 0x7A])
  | "alpha" => some (union [range 0x41 0x5A, range 0x61 0x7A])
  | "ascii" => some (range 0x00 0x7F)
  | "blank" => some (union [range 0x09 0x09, range 0x20 0x20])
  | "cntrl" => some (union [range 0x00 0x1F, range 0x7F 0x7F])
  | "digit" => some asciiDigit
  | "graph" => some (range 0x21 0x7E)
  | "lower" => some (range 0x61 0x7A)
  | "print" => some (range 0x20 0x7E)
  | "punct" =>
    some (union [range 0x21 0x2F, range 0x3A 0x40, range 0x5B 0x60, range 0x7B 0x7E])
  | "space" => some asciiSpace
  | "upper" => some (range 0x41 0x5A)
  | "word" => some asciiWord
  | "xdigit" => some (union [range 0x30 0x39, range 0x41 0x46, range 0x61 0x66])
  | _ => none

end JsonPath.CharSet
