import JsonPath.Text.Visible

/-!
# Types and signatures of functions

The filter language has three types.  A signature is a result type and the types of the
parameters, and has a short code of one letter for each: the result first.
-/

namespace JsonPath

/-- The types of the filter language. -/
inductive FunctionType where
  /-- A JSON value, or none. -/
  | value
  /-- A list of nodes. -/
  | nodes
  /-- The outcome of a test. -/
  | logical
  deriving DecidableEq

namespace FunctionType

/-- The letter of a type. -/
def code : FunctionType → Char
  | .value => 'v'
  | .nodes => 'n'
  | .logical => 'l'

/-- The type with that letter. -/
def ofCode? : Char → Option FunctionType
  | 'v' => some .value
  | 'n' => some .nodes
  | 'l' => some .logical
  | _ => none

/-- The name of a type. -/
def name : FunctionType → String
  | .value => "value"
  | .nodes => "nodes"
  | .logical => "logical"

/-- The type with that name. -/
def ofName? (name : String) : Option FunctionType :=
  [.value, .nodes, .logical].find? fun t => t.name == name

end FunctionType

/-- The result type and the parameter types of a function. -/
structure Signature where
  returns : FunctionType
  parameters : List FunctionType
  deriving DecidableEq

/-- Why a code is no signature. -/
inductive SignatureError where
  /-- There is no letter for the result. -/
  | empty
  /-- The first letter of `code` that is no type. -/
  | unknownType (letter : Char) (code : String)
  deriving DecidableEq

/-- The message about a bad code for the function `name`. -/
def SignatureError.message (name : String) : SignatureError → String
  | .empty => "function signature code for \x60" ++ name ++ "\x60 is empty"
  | .unknownType letter code =>
    "unknown type code '" ++ String.singleton letter ++ "' in signature " ++ Text.visible code ++
      " for \x60" ++ name ++ "\x60 (expected l, n or v)"

namespace Signature

/-- The number of parameters. -/
def arity (s : Signature) : Nat := s.parameters.length

/-- The short code of a signature. -/
def code (s : Signature) : String :=
  String.ofList ((s.returns :: s.parameters).map FunctionType.code)

/-- Reads the letters of `code` one by one. -/
def typesOf (code : String) : List Char → Except SignatureError (List FunctionType)
  | [] => .ok []
  | c :: cs =>
    match FunctionType.ofCode? c with
    | none => .error (.unknownType c code)
    | some t => (typesOf code cs).map (t :: ·)

/-- The signature with that code. -/
def ofCode (code : String) : Except SignatureError Signature :=
  match typesOf code code.toList with
  | .error e => .error e
  | .ok [] => .error .empty
  | .ok (returns :: parameters) => .ok ⟨returns, parameters⟩

end Signature

end JsonPath
