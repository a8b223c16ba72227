import JsonPath.Number.Basic

/-!
# JSON values

The document model of the library.  Members of an object keep their order.  No document that is read
has two members of one name in an object (`Json.hasUniqueNames_of_parse?`); the lookups below take
the first.

Equality of values, `Json.valueEq`, compares numbers by value and members without regard to their
order; `Json.sameAs` does the same but keeps integers and binary64 numbers apart.
-/

namespace JsonPath

/-- A JSON value. -/
inductive Json where
  | null
  | bool (value : Bool)
  | number (value : Number)
  | string (value : String)
  | array (elements : List Json)
  | object (members : List (String × Json))
  deriving Inhabited

namespace Json

/-! ## Looking into a value -/

/-- The value of the first member called `name`. -/
def lookup (name : String) : List (String × Json) → Option Json
  | [] => none
  | (key, value) :: rest => if key = name then some value else lookup name rest

/-- The value of the member called `name`, if the value is an object that has one. -/
def member? (name : String) : Json → Option Json
  | .object members => lookup name members
  | _ => none

/-- The elements of an array or the member values of an object, in order; a scalar has none. -/
def children : Json → List Json
  | .array elements => elements
  | .object members => members.map Prod.snd
  | _ => []

/-- Whether the value is an array or an object. -/
def isContainer : Json → Bool
  | .array _ => true
  | .object _ => true
  | _ => false

/-- A value that stands for a length or a position. -/
def ofNat (n : Nat) : Json := .number (.ofInt n)

/-- Gives the member called `name` the value `value`: in place if there is one, and else as the
last member. -/
def setMember (name : String) (value : Json) : List (String × Json) → List (String × Json)
  | [] => [(name, value)]
  | (key, old) :: rest =>
    if key = name then (key, value) :: rest else (key, old) :: setMember name value rest

/-! ## Equality of values

Two equalities differ only in when two numbers are equal, so both are cases of `Json.eqWith`. -/

mutual

/-- Structural equality, with numbers compared by `numbers` and members found by name. -/
def eqWith (numbers : Number → Number → Bool) : Json → Json → Bool
  | .null, .null => true
  | .bool x, .bool y => x == y
  | .number x, .number y => numbers x y
  | .string x, .string y => x == y
  | .array xs, .array ys => elementsEqWith numbers xs ys
  | .object xs, .object ys => xs.length == ys.length && membersInWith numbers xs ys
  | _, _ => false

/-- Equality of arrays: equal length and equal elements at equal places. -/
def elementsEqWith (numbers : Number → Number → Bool) : List Json → List Json → Bool
  | [], [] => true
  | x :: xs, y :: ys => eqWith numbers x y && elementsEqWith numbers xs ys
  | _, _ => false

/-- Whether each member of the first list has an equal member of its name in the second. -/
def membersInWith (numbers : Number → Number → Bool) :
    List (String × Json) → List (String × Json) → Bool
  | [], _ => true
  | (name, x) :: xs, ys =>
    (match lookup name ys with
      | some y => eqWith numbers x y
      | none => false) && membersInWith numbers xs ys

end

/-- Equality by value, as filters compare: `1` and `1.0` are equal. -/
def valueEq : Json → Json → Bool := eqWith Number.valueEq

/-- Equality as data: `1` and `1.0` differ, and the two binary64 zeros are equal. -/
def sameAs : Json → Json → Bool := eqWith Number.sameKindEq

end Json

end JsonPath
