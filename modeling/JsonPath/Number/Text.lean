import JsonPath.Number.Basic
import JsonPath.Number.Shortest

/-!
# Written numbers

An integer is written in plain decimal digits.  A binary64 number is written with its shortest
digits: in plain notation and always with a fraction when its leading digit stands at one of the
places `10 ^ -5` to `10 ^ 15`, and otherwise in scientific notation with the sign of the exponent.
-/

namespace JsonPath

/-- The decimal digits of an integer, after a `-` when it is negative. -/
def Text.ofInt (i : Int) : String :=
  if i < 0 then "-" ++ i.natAbs.repr else i.natAbs.repr

namespace Decimal

/-- The exponents of the leading digit for which plain notation is used. -/
def isPlain (leading : Int) : Bool := -5 ≤ leading && leading ≤ 15

/-- A decimal in plain notation: the point stands behind, between or before the digits. -/
def plainText (digits : List Char) (exponent leading : Int) : String :=
  if 0 ≤ exponent then String.ofList (digits ++ List.replicate exponent.toNat '0' ++ ['.', '0'])
  else if 0 ≤ leading then
    String.ofList (digits.take (leading.toNat + 1) ++ '.' :: digits.drop (leading.toNat + 1))
  else String.ofList ('0' :: '.' :: List.replicate (-leading - 1).toNat '0' ++ digits)

/-- A decimal in scientific notation: one digit before the point, and no point after a sole
digit. -/
def scientificText (digits : List Char) (leading : Int) : String :=
  let fraction := if digits.length ≤ 1 then [] else '.' :: digits.drop 1
  let sign := if leading < 0 then "-" else "+"
  String.ofList (digits.take 1 ++ fraction) ++ "e" ++ sign ++ leading.natAbs.repr

/-- The written form of a decimal. -/
def text (d : Decimal) : String :=
  let digits := Nat.toDigits 10 d.digits
  let leading := d.exponent + (digits.length - 1 : Nat)
  if isPlain leading then plainText digits d.exponent leading
  else scientificText digits leading

end Decimal

/-- The written form of a binary64 number; negative zero keeps its sign. -/
def Binary64.text (x : Binary64) : String :=
  if x.negative then "-" ++ x.shortest.text else x.shortest.text

/-- The written form of a number. -/
def Number.text : Number → String
  | .int i _ => Text.ofInt i
  | .float x => x.text

end JsonPath
