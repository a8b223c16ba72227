import JsonPath.Pattern.Escape

/-!
# Classes of patterns

A class in brackets holds characters, ranges, named classes and classes, and may combine sets by
`&&`, `--` and `~~`, from the left.
-/

namespace JsonPath

/-- A set and the number of levels that it is written with. -/
structure ClassItem where
  set : CharSet
  nesting : Nat

/-- The operations on sets in classes. -/
inductive ClassOperation where
  | intersection
  | difference
  | symmetricDifference

/-- A class that is being read: the items since the last operation, the last one first, and the
operation before them with its left side. -/
structure ClassState where
  items : List ClassItem
  pending : Option (ClassOperation × ClassItem)

namespace PatternClass

/-- Items side by side. -/
def joinItems : List ClassItem → ClassItem
  | [] => ⟨.union [], 0⟩
  | [item] => item
  | items => ⟨.union (items.map ClassItem.set), (items.map ClassItem.nesting).foldl max 0 + 1⟩

/-- The set of an operation. -/
def combine (op : ClassOperation) (l r : CharSet) : CharSet :=
  match op with
  | .intersection => l.intersection r
  | .difference => l.difference r
  | .symmetricDifference => l.symmetricDifference r

/-- The set of all that has been read of a class. -/
def close (f : PatternFlags) (state : ClassState) : ClassItem :=
  let right := joinItems state.items.reverse
  match state.pending with
  | none => right
  | some (op, left) =>
    ⟨combine op (f.foldCase left.set) (f.foldCase right.set), max left.nesting right.nesting + 1⟩

/-- A further item. -/
def add (state : ClassState) (item : ClassItem) : ClassState :=
  { state with items := item :: state.items }

/-- An operation after what has been read. -/
def addOperation (f : PatternFlags) (state : ClassState) (op : ClassOperation) : ClassState :=
  ⟨[], some (op, close f state)⟩

/-! ## Items -/

/-- A character of a class.  Without Unicode it has to be one of ASCII. -/
def checkLiteral (f : PatternFlags) (c : Char) : Except PatternError Char :=
  if f.unicode || c.toNat < 0x80 then .ok c else .error .bytesOnly

/-- A character, or an escape, of a class. -/
def scanAtom (f : PatternFlags) : List Char → Except PatternError (PatternAtom × List Char)
  | [] => .error .classUnclosed
  | '\\' :: rest => PatternAtom.scanEscape f rest
  | c :: rest => .ok (.literal c false, rest)

/-- A character or an escape as an item. -/
def itemOfAtom (f : PatternFlags) : PatternAtom → Except PatternError ClassItem
  | .literal c _ => (checkLiteral f c).map fun c => ⟨.single c, 0⟩
  | .set s => .ok ⟨s, 0⟩
  | .look _ => .error .classEscape

/-- An end of a range. -/
def literalOfAtom (f : PatternFlags) : PatternAtom → Except PatternError Char
  | .literal c _ => checkLiteral f c
  | _ => .error .classRangeEnds

/-- The character after the next one, without blanks and one comment sign where they mean
nothing. -/
def peekAfter (f : PatternFlags) (s : List Char) : Option Char :=
  if !f.verbose then s.tail.head?
  else
    match s.tail.dropWhile PatternAtom.isSpace with
    | '#' :: rest => (rest.dropWhile PatternAtom.isSpace).head?
    | rest => rest.head?

/-- An item that is no class in brackets: a character, an escape or a range. -/
def scanItem (f : PatternFlags) (s : List Char) :
    Except PatternError (ClassItem × List Char) := do
  let (first, rest) ← scanAtom f s
  match PatternAtom.skip f rest with
  | [] => .error .classUnclosed
  | c :: rest =>
    let after := peekAfter f (c :: rest)
    if c ≠ '-' || after = some ']' || after = some '-' then
      return (← itemOfAtom f first, c :: rest)
    else
      match PatternAtom.skip f rest with
      | [] => .error .classUnclosed
      | rest =>
        let (second, rest) ← scanAtom f rest
        let low ← literalOfAtom f first
        let high ← literalOfAtom f second
        if low ≤ high then return (⟨.range low.toNat high.toNat, 0⟩, rest)
        else .error .classRange

/-- A class `[:name:]` or its complement `[:^name:]`, after its first bracket. -/
def scanNamed? (s : List Char) : Option (CharSet × Bool × List Char) :=
  match s with
  | ':' :: s =>
    let (negated, s) : Bool × List Char := match s with
      | '^' :: s => (true, s)
      | s => (false, s)
    match s.dropWhile (· != ':') with
    | ':' :: ']' :: rest =>
      (CharSet.ofAsciiClass? (String.ofList (s.takeWhile (· != ':')))).map fun set =>
        (set, negated, rest)
    | _ => none
  | _ => none

/-! ## Brackets -/

/-- Hyphens at the start of a class stand for themselves. -/
def scanHyphens (f : PatternFlags) (state : ClassState) :
    Nat → List Char → ClassState × List Char
  | fuel + 1, '-' :: rest =>
    scanHyphens f (add state ⟨.single '-', 0⟩) fuel (PatternAtom.skip f rest)
  | _, s => (state, s)

/-- The start of a class after its bracket: whether it is negated, and the hyphens or the closing
bracket at its start, which stand for themselves. -/
def scanOpening (f : PatternFlags) (s : List Char) : Bool × ClassState × List Char :=
  let s := PatternAtom.skip f s
  let (negated, s) : Bool × List Char := match s with
    | '^' :: rest => (true, PatternAtom.skip f rest)
    | s => (false, s)
  let (state, s) := scanHyphens f ⟨[], none⟩ s.length s
  match state.items, s with
  | [], ']' :: rest => (negated, add state ⟨.single ']', 0⟩, PatternAtom.skip f rest)
  | _, s => (negated, state, s)

mutual

/-- A class after its opening bracket.  The fuel bounds the number of items. -/
def scan (f : PatternFlags) : Nat → List Char → Except PatternError (ClassItem × List Char)
  | 0, _ => .error .classUnclosed
  | fuel + 1, s => do
    let (negated, state, s) := scanOpening f s
    let (content, rest) ← scanContent f fuel state s
    return (⟨← f.foldAndNegate negated content.set, content.nesting + 1⟩, rest)

/-- The items of a class up to its closing bracket. -/
def scanContent (f : PatternFlags) :
    Nat → ClassState → List Char → Except PatternError (ClassItem × List Char)
  | 0, _, _ => .error .classUnclosed
  | fuel + 1, state, s =>
    match PatternAtom.skip f s with
    | [] => .error .classUnclosed
    | ']' :: rest => .ok (close f state, rest)
    | '&' :: '&' :: rest => scanContent f fuel (addOperation f state .intersection) rest
    | '-' :: '-' :: rest => scanContent f fuel (addOperation f state .difference) rest
    | '~' :: '~' :: rest => scanContent f fuel (addOperation f state .symmetricDifference) rest
    | '[' :: rest =>
      match scanNamed? rest with
      | some (set, negated, rest) => do
        let set ← f.foldAndNegate negated set
        scanContent f fuel (add state ⟨set, 0⟩) rest
      | none => do
        let (item, rest) ← scan f fuel rest
        scanContent f fuel (add state item) rest
    | c :: rest => do
      let (item, rest) ← scanItem f (c :: rest)
      scanContent f fuel (add state item) rest

end

end PatternClass

end JsonPath
