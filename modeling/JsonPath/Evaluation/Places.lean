import JsonPath.Json.Basic

/-!
# Places in arrays

An index names one place of an array and a slice names a list of places, both counting from the
end when they are negative.
-/

namespace JsonPath

/-- The place that an index names in an array of `length` elements. -/
def placeOfIndex? (length : Nat) (index : Int64) : Option Nat :=
  let place := if index.toInt < 0 then length + index.toInt else index.toInt
  if 0 ≤ place ∧ place < length then some place.toNat else none

/-- The element that an index names. -/
def elementAt? (elements : List Json) (index : Int64) : Option Json :=
  (placeOfIndex? elements.length index).bind fun place => elements[place]?

namespace Slice

/-- The integer nearest to `i` from `low` to `high`. -/
def clamp (low high i : Int) : Int := max low (min high i)

/-- The least 64-bit integer. -/
def least : Int := -0x8000000000000000

/-- The greatest 64-bit integer. -/
def greatest : Int := 0x7FFFFFFFFFFFFFFF

/-- The sum of 64-bit integers, which stops at the ends of their range. -/
def add (i j : Int) : Int := clamp least greatest (i + j)

/-- A bound counted from the start: a negative one counts from the end. -/
def fromStart (length bound : Int) : Int := if 0 ≤ bound then bound else add length bound

/-- The places from `lower` on in steps of `step`, below `upper`, as long as the steps lead
upwards. -/
def ascending (lower upper step : Int) : List Nat :=
  if _ : lower < upper ∧ lower < add lower step then
    lower.toNat :: ascending (add lower step) upper step
  else []
termination_by (upper - lower).toNat
decreasing_by omega

/-- The places from `upper` on in steps of `step`, above `lower`, as long as the steps lead
downwards. -/
def descending (lower upper step : Int) : List Nat :=
  if _ : lower < upper ∧ add upper step < upper then
    upper.toNat :: descending lower (add upper step) step
  else []
termination_by (upper - lower).toNat
decreasing_by omega

/-- The places that a slice names in an array of `length` elements.  A step of zero names none;
with a negative step the places come in descending order.  Lengths beyond the range of 64-bit
integers are not told apart. -/
def places (length : Nat) (start stop step : Option Int64) : List Nat :=
  let length : Int := min (length : Int) greatest
  let step := (step.map Int64.toInt).getD 1
  if step = 0 then []
  else if 0 < step then
    let lower := fromStart length ((start.map Int64.toInt).getD 0)
    let upper := fromStart length ((stop.map Int64.toInt).getD length)
    ascending (clamp 0 length lower) (clamp 0 length upper) step
  else
    let upper := fromStart length ((start.map Int64.toInt).getD (length - 1))
    let lower := fromStart length ((stop.map Int64.toInt).getD (-length - 1))
    descending (clamp (-1) (length - 1) lower) (clamp (-1) (length - 1) upper) step

end Slice

end JsonPath
