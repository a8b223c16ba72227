import JsonPath.Number.Basic

/-!
# Numerals: numbers as they are written in JSON

A numeral is an optional sign, whole digits without a leading zero, an optional fraction and an
optional exponent.  `Numeral.scan` reads the longest numeral at the head of a text and
`Numeral.value?` gives the number that it stands for.

A numeral without fraction and exponent is an integer if it fits the exact range, except for `-0`,
which is the negative zero.  Every other numeral is a binary64 number: its leading digits, as many
as fit 64 bits, are rounded, and the result is scaled by powers of ten with one rounding for each
step.  A numeral beyond the finite numbers stands for no number.
-/

namespace JsonPath

/-- The parts of a written number.  Digits are kept as characters. -/
structure Numeral where
  negative : Bool
  whole : List Char
  /-- The digits after the point; empty when there is no point. -/
  fraction : List Char
  /-- The exponent, if one is written. -/
  exponent : Option Int
  deriving DecidableEq

namespace Numeral

/-! ## Reading the parts -/

/-- The digits at the head of a text, which has to start with one, and what follows them. -/
def scanDigits (s : List Char) : Option (List Char × List Char) :=
  match s.takeWhile Char.isDigit with
  | [] => none
  | digits => some (digits, s.dropWhile Char.isDigit)

/-- The whole digits: a zero stands alone. -/
def scanWhole (s : List Char) : Option (List Char × List Char) :=
  match scanDigits s with
  | some ('0' :: _ :: _, _) => none
  | found => found

/-- The fraction, if a point follows; after the point there has to be a digit. -/
def scanFraction : List Char → Option (List Char × List Char)
  | '.' :: s => scanDigits s
  | s => some ([], s)

/-- An exponent after its letter: a sign or none, and at least one digit. -/
def scanPower (s : List Char) : Option (Int × List Char) :=
  let (negative, s) : Bool × List Char := match s with
    | '-' :: s => (true, s)
    | '+' :: s => (false, s)
    | s => (false, s)
  (scanDigits s).map fun (digits, rest) =>
    let power : Int := Nat.ofDigitChars 10 digits 0
    (if negative then -power else power, rest)

/-- The exponent, if its letter follows. -/
def scanExponent : List Char → Option (Option Int × List Char)
  | 'e' :: s => (scanPower s).map fun (power, rest) => (some power, rest)
  | 'E' :: s => (scanPower s).map fun (power, rest) => (some power, rest)
  | s => some (none, s)

/-- The sign, if there is one. -/
def scanSign : List Char → Bool × List Char
  | '-' :: s => (true, s)
  | s => (false, s)

/-- The numeral at the head of a text, and what follows it. -/
def scan (s : List Char) : Option (Numeral × List Char) := do
  let (negative, s) := scanSign s
  let (whole, s) ← scanWhole s
  let (fraction, s) ← scanFraction s
  let (exponent, s) ← scanExponent s
  return (⟨negative, whole, fraction, exponent⟩, s)

/-! ## The value -/

/-- The leading digits are gathered while they stay below this bound. -/
def significandLimit : Nat := 0x10000000000000000

/-- Appends digits to a significand as long as it stays below the bound; also returns the digits
left over. -/
def gather (significand : Nat) : List Char → Nat × List Char
  | [] => (significand, [])
  | c :: cs =>
    let next := Nat.ofDigitChars 10 [c] significand
    if next < significandLimit then gather next cs else (significand, c :: cs)

/-- The leading digits of the numeral as a whole number, with the power of ten that belongs to
them.  Whole digits left over count as zeros, fraction digits left over as nothing. -/
def leadingDigits (n : Numeral) : Nat × Int :=
  let (significand, wholeRest) := gather 0 n.whole
  let (significand, fractionRest) := gather significand n.fraction
  let power : Int := wholeRest.length - (n.fraction.length - fractionRest.length : Nat)
  (significand, power + n.exponent.getD 0)

/-- The binary64 number nearest to a power of ten. -/
def powerOfTen (k : Nat) : Binary64 := .ofInt (Nat.pow 10 k)

/-- Scales by a power of ten.  Powers up to 308 take one multiplication or division; a smaller
power is reached by dividing several times, and a greater one is out of range. -/
def scale? (x : Binary64) (power : Int) : Option Binary64 :=
  if power.natAbs ≤ 308 then
    if 0 ≤ power then x.mul? (powerOfTen power.toNat) else x.div? (powerOfTen power.natAbs)
  else if x.position = 0 then some x
  else if 0 ≤ power then none
  else (x.div? (powerOfTen 308)).bind fun y => scale? y (power + 308)
termination_by (-power).toNat

/-- Whether the numeral is an integer of the exact range; `-0` is not. -/
def exactInt? (n : Numeral) : Option Number :=
  if n.fraction.isEmpty && n.exponent.isNone then
    let magnitude : Nat := Nat.ofDigitChars 10 n.whole 0
    let i : Int := if n.negative then -magnitude else magnitude
    if h : Number.Exact i then
      if n.negative && magnitude == 0 then none else some (.int i h)
    else none
  else none

/-- The number that the numeral stands for, if there is a finite one. -/
def value? (n : Numeral) : Option Number :=
  match n.exactInt? with
  | some i => some i
  | none =>
    let (significand, power) := n.leadingDigits
    (scale? (.ofInt significand) power).map fun x =>
      .float (if n.negative then x.neg else x)

end Numeral

/-- The number at the head of a text, and what follows it. -/
def Number.scan (s : List Char) : Option (Number × List Char) :=
  (Numeral.scan s).bind fun (n, rest) => n.value?.map fun v => (v, rest)

/-- The number that a whole text stands for. -/
def Number.ofText? (s : String) : Option Number :=
  match Number.scan s.toList with
  | some (n, []) => some n
  | _ => none

end JsonPath
