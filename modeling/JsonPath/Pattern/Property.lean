import JsonPath.Pattern.NamedSets
import JsonPath.Unicode.Age
import JsonPath.Unicode.Script
import JsonPath.Unicode.Segmentation

/-!
# Sets by the names of properties

A pattern may name a general category, a script or a binary property by its name alone, and the
value of a property by the names of both.  Names are compared without regard to case, blanks,
hyphens and underscores, and may start with `is`.
-/

namespace JsonPath.Property

/-! ## Names -/

/-- A name in the form in which names are compared.  The name `isc` keeps its start, since `c`
alone names something else. -/
def normalize (name : String) : String :=
  let chars := name.toList
  let startsWithIs := ["is", "IS", "iS", "Is"].contains (String.ofList (chars.take 2))
  let kept := (if startsWithIs then chars.drop 2 else chars).filter fun c =>
    c != ' ' && c != '_' && c != '-' && c.toNat < 0x80
  let lowered := String.ofList (kept.map Char.toLower)
  if startsWithIs && lowered == "c" then "isc" else lowered

/-- Whether `name`, which is normalized, is one of the names. -/
def isOneOf (name : String) (names : List String) : Bool :=
  names.any fun other => normalize other == name

/-- The entry of a name, which is normalized, in a table by names. -/
def find? {α : Type} (name : String) (table : List (List String × α)) : Option α :=
  (table.find? fun entry => isOneOf name entry.1).map Prod.snd

/-- The short name of an entry that is called `name`, which is normalized. -/
def shortName? (name : String) (table : List (String × List String)) : Option String :=
  (table.find? fun entry => isOneOf name (entry.1 :: entry.2)).map Prod.fst

/-! ## Sets -/

/-- The set of a general category. -/
def ofCategoryName? (name : String) : Option CharSet :=
  match name with
  | "any" => some .all
  | "assigned" => some (.complement (.ofCategory "Cn"))
  | "ascii" => some (.range 0 0x7F)
  | _ => (shortName? name Unicode.categoryNames).map CharSet.ofCategory

/-- The characters that belong to a script. -/
def ofScript (script : String) : CharSet := .ofRuns Unicode.scriptRuns (· == script)

/-- The set of a script. -/
def ofScriptName? (name : String) : Option CharSet :=
  (shortName? name Unicode.scriptNames).map ofScript

/-- The characters that are used in a script: those for which the scripts that they are used in are
listed are not counted for their own script alone. -/
def ofScriptUse (script : String) : CharSet :=
  let listed := Unicode.sharedRanges.map fun (first, last, _) => (first, last)
  let used := Unicode.sharedRanges.filterMap fun (first, last, scripts) =>
    if scripts.contains script then some (first, last) else none
  .union [(ofScript script).difference (.ofRanges listed), .ofRanges used]

/-- The set of a binary property.  Three short names are left to other kinds of properties. -/
def ofBinaryName? (name : String) : Option CharSet :=
  if ["cf", "sc", "lc"].contains name then none
  else find? name Unicode.binaryProperties

/-- The set with a single name: a binary property, a general category or a script. -/
def ofName? (name : String) : Option CharSet :=
  let name := normalize name
  (ofBinaryName? name).or ((ofCategoryName? name).or (ofScriptName? name))

/-- The properties that have values. -/
inductive Valued where
  | category
  | script
  | scriptUse
  | age
  | graphemeBreak
  | wordBreak
  | sentenceBreak

/-- The properties that have values, by their names. -/
def valuedNames : List (List String × Valued) :=
  [(["gc", "General_Category"], .category), (["sc", "Script"], .script),
   (["scx", "Script_Extensions"], .scriptUse), (["age", "Age"], .age),
   (["GCB", "Grapheme_Cluster_Break"], .graphemeBreak), (["WB", "Word_Break"], .wordBreak),
   (["SB", "Sentence_Break"], .sentenceBreak)]

/-- The set of a value of a property. -/
def Valued.set? (property : Valued) (value : String) : Option CharSet :=
  match property with
  | .category => ofCategoryName? value
  | .script => ofScriptName? value
  | .scriptUse => (shortName? value Unicode.scriptNames).map ofScriptUse
  | .age => (find? value Unicode.ageNames).map Unicode.assignedIn
  | .graphemeBreak => find? value Unicode.graphemeBreaks
  | .wordBreak => find? value Unicode.wordBreaks
  | .sentenceBreak => find? value Unicode.sentenceBreaks

/-- The set of a property with a value. -/
def ofValue? (property value : String) : Option CharSet :=
  (find? (normalize property) valuedNames).bind fun p => p.set? (normalize value)

end JsonPath.Property
