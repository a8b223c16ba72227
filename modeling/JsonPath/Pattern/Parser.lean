import JsonPath.Pattern.Automaton
import JsonPath.Pattern.Class
import JsonPath.Unicode.Additions

/-!
# Reading patterns

`Pattern.parse` reads the text of a pattern under the flags that the text itself sets.  A pattern
is refused if it is malformed, nested too deeply, or too large.
-/

namespace JsonPath

/-- The state of reading a pattern. -/
structure PatternState where
  flags : PatternFlags
  /-- The names of groups so far. -/
  names : List String

namespace Pattern

/-! ## Repetitions -/

/-- The greatest count of a repetition. -/
def countLimit : Nat := 0xFFFFFFFF

/-- Decimal digits; the fuel is at least the length of the text. -/
def scanDecimalDigits (f : PatternFlags) (digits : List Char) :
    Nat → List Char → List Char × List Char
  | fuel + 1, c :: rest =>
    if c.isDigit then scanDecimalDigits f (c :: digits) fuel (PatternAtom.skip f rest)
    else (digits.reverse, c :: rest)
  | _, s => (digits.reverse, s)

/-- A count of a repetition, with white space around it. -/
def scanCount (f : PatternFlags) (s : List Char) : Except PatternError (Nat × List Char) :=
  let s := s.dropWhile PatternAtom.isSpace
  match scanDecimalDigits f [] s.length s with
  | ([], _) => .error .decimalMissing
  | (digits, rest) =>
    let count := Nat.ofDigitChars 10 digits 0
    if count ≤ countLimit then .ok (count, rest.dropWhile PatternAtom.isSpace)
    else .error .decimalTooLarge

/-- The upper count of a repetition after its comma; none if the brace closes at once. -/
def scanUpperCount (f : PatternFlags) (s : List Char) :
    Except PatternError (Option Nat × List Char) :=
  match PatternAtom.skip f s with
  | [] => .error .repetitionUnclosed
  | '\x7d' :: rest => .ok (none, '\x7d' :: rest)
  | s => (scanCount f s).map fun (count, rest) => (some count, rest)

/-- The counts of a repetition after its opening brace, up to its closing brace. -/
def scanCounts (f : PatternFlags) (s : List Char) :
    Except PatternError (Nat × Option Nat × List Char) := do
  let (least, rest) ← scanCount f (PatternAtom.skip f s)
  let (most, rest) ← match rest with
    | ',' :: rest => scanUpperCount f rest
    | rest => .ok (some least, rest)
  match rest with
  | '\x7d' :: rest =>
    if (most.map fun n => decide (least ≤ n)).getD true then return (least, most, rest)
    else .error .repetitionCounts
  | _ => .error .repetitionUnclosed

/-- Whether a repetition prefers few: a question mark after it turns the preference around. -/
def scanPreference (f : PatternFlags) : List Char → Bool × List Char
  | '?' :: rest => (!f.preferFew, rest)
  | s => (f.preferFew, s)

/-- Repeats the last part; there has to be one, and not a setting of flags.  Returns what follows
the mark of preference as well. -/
def repeatLast (f : PatternFlags) (least : Nat) (most : Option Nat) (rest : List Char) :
    List Pattern → Except PatternError (List Pattern × List Char)
  | [] => .error .repetitionOfNothing
  | .empty :: _ => .error .repetitionOfNothing
  | last :: others =>
    let (preferFew, rest) := scanPreference f rest
    .ok (repeated last least most preferFew :: others, rest)

/-! ## Groups -/

/-- How a group starts. -/
inductive GroupStart where
  /-- Flags for the rest of the group around. -/
  | flags (flags : PatternFlags)
  /-- A group with the flags inside it. -/
  | group (flags : PatternFlags) (captures : Bool) (name : Option String)

/-- Whether a character may stand in the name of a group. -/
def isNameChar (isFirst : Bool) (c : Char) : Bool :=
  c == '_' || Unicode.isAlphabetic c ||
    (!isFirst && (c == '.' || c == '[' || c == ']' || Unicode.isNumber c))

/-- The name of a group up to its angle bracket. -/
def scanGroupName (s : List Char) : Except PatternError (String × List Char) :=
  let name := s.takeWhile (· != '>')
  let isValid := match name with
    | [] => true
    | c :: cs => isNameChar true c && cs.all (isNameChar false)
  if !isValid then .error .groupNameInvalid
  else
    match s.dropWhile (· != '>') with
    | [] => .error .groupNameUnfinished
    | _ :: rest =>
      if name.isEmpty then .error .groupNameMissing else .ok (String.ofList name, rest)

/-- The flags of a group after its question mark. -/
def scanGroupFlags (f : PatternFlags) (s : List Char) :
    Except PatternError (GroupStart × List Char) := do
  if s.isEmpty then .error .groupUnclosed
  else
    let (items, stop, rest) ← PatternFlags.scan [] s
    let flags := f.apply true items
    if stop = ':' then return (.group flags false none, rest)
    else if items.isEmpty then .error .repetitionOfNothing
    else return (.flags flags, rest)

/-- The start of a group after its opening parenthesis. -/
def scanGroupStart (f : PatternFlags) (s : List Char) :
    Except PatternError (GroupStart × List Char) :=
  let named (s : List Char) : Except PatternError (GroupStart × List Char) :=
    (scanGroupName s).map fun (name, rest) => (.group f true (some name), rest)
  match PatternAtom.skip f s with
  | '?' :: '=' :: _ => .error .lookAround
  | '?' :: '!' :: _ => .error .lookAround
  | '?' :: '<' :: '=' :: _ => .error .lookAround
  | '?' :: '<' :: '!' :: _ => .error .lookAround
  | '?' :: 'P' :: '<' :: rest => named rest
  | '?' :: '<' :: rest => named rest
  | '?' :: rest => scanGroupFlags f rest
  | s => .ok (.group f true none, s)

/-- Notes the name of a group, which has to be new. -/
def addName (names : List String) : Option String → Except PatternError (List String)
  | none => .ok names
  | some name => if names.contains name then .error .groupNameRepeated else .ok (name :: names)

/-! ## Single parts -/

/-- A character outside classes.  Without Unicode a byte has to be one of ASCII. -/
def ofLiteral (f : PatternFlags) (c : Char) (isByte : Bool) : Except PatternError Pattern :=
  if !f.unicode && isByte && 0x80 ≤ c.toNat then .error .bytesOnly
  else .ok (.chars (f.foldCase (.single c)) 0)

/-- An escape outside classes. -/
def ofAtom (f : PatternFlags) : PatternAtom → Except PatternError Pattern
  | .literal c isByte => ofLiteral f c isByte
  | .look condition => .ok (.look condition)
  | .set s => .ok (.chars s 0)

/-- A part that is no group and no repetition, and starts with the character `c`. -/
def scanPart (f : PatternFlags) (c : Char) (rest : List Char) :
    Except PatternError (Pattern × List Char) :=
  match c with
  | '\\' => do
    let (atom, rest) ← PatternAtom.scanEscape f rest
    return (← ofAtom f atom, rest)
  | '.' => f.dot.map fun s => (.chars s 0, rest)
  | '^' => .ok (.look f.lineStart, rest)
  | '$' => .ok (.look f.lineStop, rest)
  | '[' =>
    (PatternClass.scan f (2 * rest.length + 2) rest).map fun (item, rest) =>
      (.chars item.set item.nesting, rest)
  | c => (ofLiteral f c false).map fun p => (p, rest)

/-! ## Whole patterns -/

mutual

/-- Options with bars between them, up to a closing parenthesis or the end.  `options` holds those
so far, the last one first.  The fuel bounds the number of parts. -/
def scanOptions : Nat → PatternState → List Pattern → List Char →
    Except PatternError (Pattern × PatternState × List Char)
  | 0, _, _, _ => .error .tooLarge
  | fuel + 1, state, options, s => do
    let (parts, state, s) ← scanParts fuel state [] s
    let options := ofParts parts.reverse :: options
    match s with
    | '|' :: rest => scanOptions fuel state options rest
    | s => return (ofOptions options.reverse, state, s)

/-- Parts one after the other, up to a bar, a closing parenthesis or the end.  `parts` holds those
so far, the last one first. -/
def scanParts : Nat → PatternState → List Pattern → List Char →
    Except PatternError (List Pattern × PatternState × List Char)
  | 0, _, _, _ => .error .tooLarge
  | fuel + 1, state, parts, s =>
    let f := state.flags
    match PatternAtom.skip f s with
    | [] => .ok (parts, state, [])
    | '|' :: rest => .ok (parts, state, '|' :: rest)
    | ')' :: rest => .ok (parts, state, ')' :: rest)
    | '?' :: rest => do
      let (parts, rest) ← repeatLast f 0 (some 1) rest parts
      scanParts fuel state parts rest
    | '*' :: rest => do
      let (parts, rest) ← repeatLast f 0 none rest parts
      scanParts fuel state parts rest
    | '+' :: rest => do
      let (parts, rest) ← repeatLast f 1 none rest parts
      scanParts fuel state parts rest
    | '\x7b' :: rest => do
      let (least, most, rest) ← scanCounts f rest
      let (parts, rest) ← repeatLast f least most (PatternAtom.skip f rest) parts
      scanParts fuel state parts rest
    | '(' :: rest => do
      match ← scanGroupStart f rest with
      | (.flags flags, rest) => scanParts fuel { state with flags } (.empty :: parts) rest
      | (.group flags captures name, rest) =>
        let names ← addName state.names name
        let (inner, innerState, rest) ← scanOptions fuel ⟨flags, names⟩ [] rest
        match rest with
        | ')' :: rest => scanParts fuel ⟨f, innerState.names⟩ (.group inner captures :: parts) rest
        | _ => .error .groupUnclosed
    | c :: rest => do
      let (part, rest) ← scanPart f c rest
      scanParts fuel state (part :: parts) rest

end

/-- Reads the text of a pattern. -/
def parse (text : String) : Except PatternError Pattern := do
  let s := text.toList
  let (p, _, rest) ← scanOptions (2 * s.length + 2) ⟨{}, []⟩ [] s
  if !rest.isEmpty then .error .groupUnopened
  else if depthLimit < p.depth then .error .tooDeep
  else if p.isTooLarge then .error .tooLarge
  else return p

end Pattern

end JsonPath
