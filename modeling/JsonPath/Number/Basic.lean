import JsonPath.Number.Binary64

/-!
# Numbers of JSON documents

A number is an integer of 64 bits, signed or unsigned, or a finite binary64 number.  The two kinds
stay apart as data, since `1` and `1.0` are written differently.  A comparison takes the first of
three kinds that both numbers have: signed integer, unsigned integer, binary64 number
(`Number.compareBy`).
-/

namespace JsonPath

/-- The integers that are kept exactly: all signed and all unsigned integers of 64 bits. -/
def Number.Exact (i : Int) : Prop := -0x8000000000000000 ≤ i ∧ i < 0x10000000000000000

instance (i : Int) : Decidable (Number.Exact i) := inferInstanceAs (Decidable (_ ∧ _))

/-- A JSON number. -/
inductive Number where
  | int (value : Int) (exact : Number.Exact value)
  | float (value : Binary64)
  deriving DecidableEq

namespace Number

/-- The integer `i`, or the nearest binary64 number where `i` is out of the exact range. -/
def ofInt (i : Int) : Number := if h : Exact i then .int i h else .float (Binary64.ofInt i)

/-- The integer `i` of the exact range of signed integers. -/
def ofInt64 (i : Int64) : Number := .ofInt i.toInt

/-- A signed 64-bit integer, if the number is one. -/
def toInt64? : Number → Option Int64
  | .int i _ => if i < 0x8000000000000000 then some (Int64.ofInt i) else none
  | .float _ => none

/-- An unsigned 64-bit integer, if the number is one. -/
def toUInt64? : Number → Option UInt64
  | .int i _ => if 0 ≤ i then some (UInt64.ofNat i.toNat) else none
  | .float _ => none

/-- The nearest binary64 number. -/
def toBinary64 : Number → Binary64
  | .int i _ => .ofInt i
  | .float x => x

/-- Whether the numbers are written alike up to the sign of zero: of one kind and of equal
value. -/
def sameKindEq : Number → Number → Bool
  | .int i _, .int j _ => i == j
  | .float x, .float y => x.valueEq y
  | _, _ => false

/-- Compares two numbers as signed integers if both are, else as unsigned integers if both are, and
else as binary64 numbers. -/
def compareBy (signed : Int64 → Int64 → Bool) (unsigned : UInt64 → UInt64 → Bool)
    (binary64 : Binary64 → Binary64 → Bool) (a b : Number) : Bool :=
  match a.toInt64?, b.toInt64? with
  | some x, some y => signed x y
  | _, _ =>
    match a.toUInt64?, b.toUInt64? with
    | some x, some y => unsigned x y
    | _, _ => binary64 a.toBinary64 b.toBinary64

/-- Equality by value. -/
def valueEq : Number → Number → Bool :=
  compareBy (fun x y => x == y) (fun x y => x == y) Binary64.valueEq

/-- Order by value. -/
def valueLt : Number → Number → Bool :=
  compareBy (fun x y => x < y) (fun x y => x < y) Binary64.valueLt

end Number

end JsonPath
