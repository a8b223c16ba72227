import JsonPath.Query.Basic

/-!
# Comparisons

Comparisons take scalars that may be absent.  The absent scalar equals nothing, not even itself.
Only two numbers or two strings are ordered; strings by their code points.
-/

namespace JsonPath

namespace Scalar

/-- Equality of scalars that may be absent. -/
def equal : Option Json → Option Json → Bool
  | some x, some y => x.valueEq y
  | _, _ => false

/-- Order of scalars that may be absent. -/
def less : Option Json → Option Json → Bool
  | some (.number x), some (.number y) => x.valueLt y
  | some (.string x), some (.string y) => x < y
  | _, _ => false

end Scalar

/-- The outcome of a comparison. -/
def Comparison.holds (op : Comparison) (x y : Option Json) : Bool :=
  match op with
  | .eq => Scalar.equal x y
  | .ne => !Scalar.equal x y
  | .lt => Scalar.less x y
  | .le => Scalar.equal x y || Scalar.less x y
  | .gt => Scalar.less y x
  | .ge => Scalar.equal y x || Scalar.less y x

end JsonPath
