/-!
# Finite binary64 numbers

A finite binary64 number is a sign and a magnitude.  The magnitude is named by its position in
the increasing list of all finite non-negative binary64 numbers: position `0` is zero, and the
position of a number is also its bit pattern without the sign bit.  So the order of magnitudes is
the order of positions, no separate normal form is needed, and two numbers of one sign and
position are the same number.

Arithmetic is exact on naturals: a result is first a quotient of two naturals and is then rounded
once, to the nearest position, a half going to the even one.
-/

namespace JsonPath

/-- The first position past the finite magnitudes, where infinity would stand. -/
def Binary64.positions : Nat := 0x7FF0000000000000

/-- A finite binary64 number.  Both zeros exist: they differ in the sign alone. -/
structure Binary64 where
  negative : Bool
  /-- The position of the magnitude among all finite magnitudes. -/
  position : Nat
  position_lt : position < Binary64.positions
  deriving DecidableEq

namespace Binary64

/-! ## Exact values -/

/-- The exponent field of the bit pattern. -/
def exponentField (x : Binary64) : Nat := x.position / 0x10000000000000

/-- The magnitude is `significand * 2 ^ scale`; below the first normal number the leading bit is
not implied. -/
def significand (x : Binary64) : Nat :=
  let bits := x.position % 0x10000000000000
  if x.exponentField = 0 then bits else 0x10000000000000 + bits

/-- The binary exponent that belongs to `significand`. -/
def scale (x : Binary64) : Int :=
  if x.exponentField = 0 then -1074 else (x.exponentField : Int) - 1075

/-- The magnitude is the quotient of `numerator` and `denominator`. -/
def numerator (x : Binary64) : Nat := x.significand <<< x.scale.toNat

/-- A power of two, and one where the magnitude is a whole number of units. -/
def denominator (x : Binary64) : Nat := 1 <<< (-x.scale).toNat

/-! ## Rounding -/

/-- The natural number nearest to `num / den`, a half going to the even neighbour. -/
def roundDiv (num den : Nat) : Nat :=
  let quotient := num / den
  let remainder := num % den
  if 2 * remainder < den || (2 * remainder == den && quotient % 2 == 0) then quotient
  else quotient + 1

/-- The greatest `e` with `2 ^ e ≤ num / den`, for positive `num` and `den`. -/
def floorLog2 (num den : Nat) : Int :=
  let estimate := (num.log2 : Int) - (den.log2 : Int)
  if den <<< estimate.toNat ≤ num <<< (-estimate).toNat then estimate else estimate - 1

/-- The position nearest to `num / den`, counted on past the finite ones.  Within one binade the
positions are the multiples of one power of two, and a significand that rounds up to `2 ^ 53` is
the first position of the next binade. -/
def nearestPosition (num den : Nat) : Nat :=
  if num = 0 then 0
  else
    let field := (max 1 (floorLog2 num den + 1023)).toNat
    (field - 1) * 0x10000000000000 + roundDiv (num <<< (1075 - field)) (den <<< (field - 1075))

/-- The number nearest to `± num / den`, unless that is beyond the finite ones. -/
def ofRatio? (negative : Bool) (num den : Nat) : Option Binary64 :=
  let position := nearestPosition num den
  if h : position < positions then some ⟨negative, position, h⟩ else none

/-- The number nearest to `i`; beyond the finite ones, the last of them. -/
def ofInt (i : Int) : Binary64 :=
  ⟨i < 0, min (nearestPosition i.natAbs 1) (positions - 1), by
    have : 0 < positions := by decide
    omega⟩

/-! ## Arithmetic -/

/-- The same magnitude with the other sign. -/
def neg (x : Binary64) : Binary64 := { x with negative := !x.negative }

/-- The rounded product, unless it is beyond the finite numbers. -/
def mul? (x y : Binary64) : Option Binary64 :=
  ofRatio? (x.negative ^^ y.negative) (x.numerator * y.numerator) (x.denominator * y.denominator)

/-- The rounded quotient, unless it is beyond the finite numbers or `y` is zero. -/
def div? (x y : Binary64) : Option Binary64 :=
  if y.numerator = 0 then none
  else ofRatio? (x.negative ^^ y.negative)
    (x.numerator * y.denominator) (x.denominator * y.numerator)

/-! ## Order -/

/-- Numbers are ordered by their ranks; the two zeros share rank `0`. -/
def rank (x : Binary64) : Int := if x.negative then -(x.position : Int) else x.position

/-- Equality by value: the two zeros are equal. -/
def valueEq (x y : Binary64) : Bool := x.rank == y.rank

/-- Order by value. -/
def valueLt (x y : Binary64) : Bool := x.rank < y.rank

end Binary64

end JsonPath
