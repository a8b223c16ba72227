import JsonPath.Number.Binary64

/-!
# The shortest decimal of a binary64 number

Of all decimals that round to a number, its written form uses one with the fewest significant
digits, and among those the nearest.  The search runs through the decimal grids from one digit
upwards: on each grid only the two neighbours of the number can be the nearest decimal that rounds
to it, so these two are tried.
-/

namespace JsonPath

/-- The decimal `digits * 10 ^ exponent`. -/
structure Decimal where
  digits : Nat
  exponent : Int
  deriving DecidableEq

namespace Decimal

/-- The decimal is the quotient of `numerator` and `denominator`. -/
def numerator (d : Decimal) : Nat := d.digits * Nat.pow 10 d.exponent.toNat

/-- A power of ten. -/
def denominator (d : Decimal) : Nat := Nat.pow 10 (-d.exponent).toNat

/-- The same decimal without trailing zeros among its digits.  The fuel is the number of zeros
that may be dropped. -/
def dropZeros : Nat → Decimal → Decimal
  | 0, d => d
  | fuel + 1, d =>
    if d.digits ≠ 0 ∧ d.digits % 10 = 0 then dropZeros fuel ⟨d.digits / 10, d.exponent + 1⟩ else d

end Decimal

namespace Binary64

/-- Whether `d` rounds to the magnitude of `x`. -/
def IsReadFrom (x : Binary64) (d : Decimal) : Prop :=
  nearestPosition d.numerator d.denominator = x.position

instance (x : Binary64) (d : Decimal) : Decidable (x.IsReadFrom d) :=
  inferInstanceAs (Decidable (_ = _))

/-- The least `k` with magnitude below `10 ^ k`, for a magnitude other than zero.  The binary
logarithm gives an estimate that is never too high and at most one too low. -/
def decimalPlaces (x : Binary64) : Int :=
  let estimate := (floorLog2 x.numerator x.denominator) * 30103 / 100000
  let fits (k : Int) : Bool :=
    x.numerator * Nat.pow 10 (-k).toNat < x.denominator * Nat.pow 10 k.toNat
  if fits estimate then estimate else if fits (estimate + 1) then estimate + 1 else estimate + 2

/-- The decimal on the grid `10 ^ exponent` that rounds to `x` and is nearest to it: the neighbour
below or the neighbour above, at equal distance the even one. -/
def onGrid? (x : Binary64) (exponent : Int) : Option Decimal :=
  let num := x.numerator * Nat.pow 10 (-exponent).toNat
  let den := x.denominator * Nat.pow 10 exponent.toNat
  let below : Decimal := ⟨num / den, exponent⟩
  let above : Decimal := ⟨num / den + 1, exponent⟩
  if x.IsReadFrom below then
    if x.IsReadFrom above && roundDiv num den != below.digits then some above else some below
  else if x.IsReadFrom above then some above
  else none

/-- The exact decimal of a magnitude: a binary fraction is also a decimal fraction. -/
def exactDecimal (x : Binary64) : Decimal :=
  let places := (-x.scale).toNat
  ⟨(x.significand <<< x.scale.toNat) * Nat.pow 5 places, -(places : Int)⟩

/-- The shortest decimal that rounds to the magnitude of `x`, without trailing zeros.  Seventeen
digits tell all binary64 numbers apart, so the exact decimal is never needed. -/
def shortest (x : Binary64) : Decimal :=
  if x.position = 0 then ⟨0, 0⟩
  else
    let places := x.decimalPlaces
    let found := (List.range 17).findSome? fun (n : Nat) => x.onGrid? (places - (n + 1))
    (found.getD x.exactDecimal).dropZeros 20

end Binary64

end JsonPath
