import JsonPath.Pattern.Matching
import JsonPath.Pattern.Parser
import JsonPath.Reported
import JsonPath.Typed

/-!
# The built-in functions

`length`, `count`, `match` and `search` on results of their arguments.
-/

namespace JsonPath

/-- The length of a scalar: characters of a string, elements of an array, members of an object. -/
def lengthOf? : Option Json → Option Nat
  | some (.string s) => some s.length
  | some (.array elements) => some elements.length
  | some (.object members) => some members.length
  | _ => none

/-- The function `length`; the length of anything else is absent. -/
def evalLength (argument : Typed) : Typed :=
  .value ((lengthOf? argument.toScalar).map Json.ofNat)

/-- The function `count`; anything but a list of nodes counts as none and is reported. -/
def evalCount : Typed → Reported Typed
  | .nodes list => pure (.value (some (Json.ofNat list.length)))
  | other => do
    Reported.report (.countArgumentNotNodes other.type)
    return .value (some (Json.ofNat 0))

/-- What of the subject a pattern has to match. -/
inductive Anchoring where
  | whole
  | anywhere

/-- The pattern that matches exactly where `pattern` matches the whole of a text. -/
def wholePattern (pattern : String) : String := "\\A(?:" ++ pattern ++ ")\\z"

/-- Reads a pattern.  One that is no pattern is reported under the name `pattern`. -/
def readPattern (pattern text : String) : Reported (Option Pattern) :=
  match Pattern.parse text with
  | .ok p => pure (some p)
  | .error e => do
    Reported.report (.invalidPattern pattern e.kind)
    return none

/-- The functions `match` and `search`: whether a pattern matches a subject.  Both have to be
strings.  A pattern has to be readable by itself, so that it cannot close the group that it is put
into. -/
def testPattern (anchoring : Anchoring) : Option Json → Option Json → Reported Bool
  | some (.string subject), some (.string pattern) => do
    match ← readPattern pattern pattern with
    | none => return false
    | some bare =>
      match anchoring with
      | .anywhere => return bare.isFoundIn subject
      | .whole =>
        match ← readPattern pattern (wholePattern pattern) with
        | none => return false
        | some whole => return whole.isFoundIn subject
  | _, _ => pure false

end JsonPath
