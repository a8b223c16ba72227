import JsonPath.Typed

/-!
# Registries of functions

A registry gives functions their signatures, and some of them an evaluator.  Both tables are kept
in the order of the names.  A signature may be replaced at any time; an evaluator always comes
together with a signature, so every function that has one has the other.
-/

namespace JsonPath

/-- A table by names, in the order of the names and without repetition. -/
abbrev NameTable (α : Type) := List (String × α)

namespace NameTable

variable {α : Type}

/-- The entry of a name. -/
def find? (name : String) : NameTable α → Option α
  | [] => none
  | (key, entry) :: rest => if key = name then some entry else find? name rest

/-- Gives a name an entry, in place of the one that it had. -/
def insert (name : String) (entry : α) : NameTable α → NameTable α
  | [] => [(name, entry)]
  | (key, old) :: rest =>
    if name < key then (name, entry) :: (key, old) :: rest
    else if key = name then (name, entry) :: rest
    else (key, old) :: insert name entry rest

/-- The names of a table. -/
def names (table : NameTable α) : List String := table.map Prod.fst

end NameTable

/-- An evaluator of a function: its result for results of the arguments. -/
abbrev Evaluator := List Typed → Typed

/-- The functions that a filter may call. -/
structure Registry where
  signatures : NameTable Signature
  evaluators : NameTable Evaluator

namespace Registry

/-- A registry without functions. -/
def empty : Registry := ⟨[], []⟩

/-- Gives a function a signature. -/
def register (r : Registry) (name : String) (signature : Signature) : Registry :=
  { r with signatures := NameTable.insert name signature r.signatures }

/-- Gives a function the signature of a code.  A bad code registers nothing. -/
def registerCode (r : Registry) (name code : String) : Except SignatureError Registry :=
  (Signature.ofCode code).map (r.register name)

/-- Gives a function a signature and an evaluator. -/
def registerEvaluator (r : Registry) (name : String) (signature : Signature)
    (evaluator : Evaluator) : Registry :=
  { r.register name signature with
    evaluators := NameTable.insert name evaluator r.evaluators }

/-- The signatures of the built-in functions. -/
def builtIns : List (String × Signature) :=
  [("length", ⟨.value, [.value]⟩),
   ("count", ⟨.value, [.nodes]⟩),
   ("match", ⟨.logical, [.value, .value]⟩),
   ("search", ⟨.logical, [.value, .value]⟩)]

/-- The registry of the built-in functions. -/
def standard : Registry :=
  builtIns.foldl (fun r (name, signature) => r.register name signature) empty

/-- The signature of a function. -/
def signature? (r : Registry) (name : String) : Option Signature :=
  NameTable.find? name r.signatures

/-- The evaluator of a function. -/
def evaluator? (r : Registry) (name : String) : Option Evaluator :=
  NameTable.find? name r.evaluators

/-- Whether a function has a signature. -/
def contains (r : Registry) (name : String) : Bool := (r.signature? name).isSome

/-- The functions with a signature, in the order of their names. -/
def names (r : Registry) : List String := NameTable.names r.signatures

/-- The names of a list, visible and in brackets. -/
def describeNames (names : List String) : String :=
  "[" ++ ", ".intercalate (names.map Text.visible) ++ "]"

/-- A description of a registry: the functions with a signature and those with an evaluator. -/
def describe (r : Registry) : String :=
  "FunctionRegistry \x7b functions: " ++ describeNames r.names ++
    ", extensions: " ++ describeNames (NameTable.names r.evaluators) ++ " \x7d"

end Registry

end JsonPath
