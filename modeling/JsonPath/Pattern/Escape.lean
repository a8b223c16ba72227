import JsonPath.Pattern.Flags
import JsonPath.Pattern.Property
import JsonPath.Text.Hex

/-!
# Escapes and blanks in patterns

What a backslash and the characters after it stand for.  Where the flag `x` is on, blanks and
comments may stand also inside an escape.
-/

namespace JsonPath

/-- One character, class or condition of a pattern. -/
inductive PatternAtom where
  /-- A character; `isByte` tells whether it is written as a byte of two digits. -/
  | literal (c : Char) (isByte : Bool)
  | look (condition : Look)
  | set (s : CharSet)

namespace PatternAtom

/-! ## Blanks -/

/-- White space in patterns. -/
def isSpace (c : Char) : Bool := Unicode.whiteSpaceSet.contains c.toNat

/-- What follows blanks and comments; a comment runs from `#` to the end of its line. -/
def skipBlanks (inComment : Bool) : List Char → List Char
  | [] => []
  | c :: rest =>
    if inComment then skipBlanks (c != '\n') rest
    else if isSpace c then skipBlanks false rest
    else if c = '#' then skipBlanks true rest
    else c :: rest

/-- What follows blanks and comments, where they mean nothing. -/
def skip (f : PatternFlags) (s : List Char) : List Char :=
  if f.verbose then skipBlanks false s else s

/-! ## Characters by their numbers -/

/-- The character with that number. -/
def ofNumber (code : Nat) (isByte : Bool) : Except PatternError PatternAtom :=
  if code.isValidChar then .ok (.literal (Char.ofNat code) isByte) else .error .hexNoCharacter

/-- A fixed number of hexadecimal digits. -/
def scanHexDigits (f : PatternFlags) (code : Nat) :
    Nat → List Char → Except PatternError (Nat × List Char)
  | 0, s => .ok (code, s)
  | _ + 1, [] => .error .escapeUnfinished
  | n + 1, c :: rest =>
    match Text.hexValue? c with
    | none => .error .hexDigit
    | some d => scanHexDigits f (code * 16 + d) n (skip f rest)

/-- Hexadecimal digits up to a closing brace.  The fuel is at least the length of the text. -/
def scanHexBrace (f : PatternFlags) (isEmpty : Bool) (code : Nat) :
    Nat → List Char → Except PatternError (Nat × List Char)
  | 0, _ => .error .escapeUnfinished
  | _ + 1, [] => .error .escapeUnfinished
  | fuel + 1, c :: rest =>
    if c = '\x7d' then
      if isEmpty then .error .hexMissing else .ok (code, skip f rest)
    else
      match Text.hexValue? c with
      | none => .error .hexDigit
      | some d => scanHexBrace f false (code * 16 + d) fuel (skip f rest)

/-- The number of digits after the letters `x`, `u` and `U`. -/
def hexDigitsAfter (letter : Char) : Nat :=
  if letter = 'x' then 2 else if letter = 'u' then 4 else 8

/-- A character by its number, after the letter `x`, `u` or `U`. -/
def scanHex (f : PatternFlags) (letter : Char) (s : List Char) :
    Except PatternError (PatternAtom × List Char) := do
  match skip f s with
  | [] => .error .escapeUnfinished
  | '\x7b' :: rest =>
    let (code, rest) ← scanHexBrace f true 0 (rest.length + 1) (skip f rest)
    return (← ofNumber code false, rest)
  | s =>
    let (code, rest) ← scanHexDigits f 0 (hexDigitsAfter letter) s
    return (← ofNumber code (letter = 'x'), rest)

/-! ## Properties -/

/-- A name up to a closing brace.  The fuel is at least the length of the text. -/
def scanBraced (f : PatternFlags) (name : List Char) :
    Nat → List Char → Except PatternError (List Char × List Char)
  | 0, _ => .error .escapeUnfinished
  | _ + 1, [] => .error .escapeUnfinished
  | fuel + 1, c :: rest =>
    if c = '\x7d' then .ok (name.reverse, rest)
    else scanBraced f (c :: name) fuel (skip f rest)

/-- What stands before and after the first occurrence of `separator`. -/
def splitAtFirst? (separator : List Char) : List Char → Option (List Char × List Char)
  | [] => none
  | c :: rest =>
    if separator.isPrefixOf (c :: rest) then some ([], (c :: rest).drop separator.length)
    else (splitAtFirst? separator rest).map fun (before, after) => (c :: before, after)

/-- The signs that may stand between a property and its value, in the order in which they are
looked for, and whether the sign asks for the characters with any other value. -/
def valueSigns : List (List Char × Bool) := [(['!', '='], true), ([':'], false), (['='], false)]

/-- The set of a property in braces, and whether the sign in the braces asks for its complement. -/
def ofPropertyText (text : List Char) : Option CharSet × Bool :=
  match valueSigns.findSome? fun (sign, differs) =>
      (splitAtFirst? sign text).map fun parts => (parts, differs) with
  | some ((property, value), differs) =>
    (Property.ofValue? (String.ofList property) (String.ofList value), differs)
  | none => (Property.ofName? (String.ofList text), false)

/-- A set by a property, after the letter `p` or its complement after `P`.  A sign that asks for
the complement as well takes the complement back. -/
def scanProperty (f : PatternFlags) (letter : Char) (s : List Char) :
    Except PatternError (PatternAtom × List Char) := do
  let ((found, differs), rest) ← match skip f s with
    | [] => .error .escapeUnfinished
    | '\x7b' :: rest =>
      (scanBraced f [] (rest.length + 1) (skip f rest)).map fun (name, rest) =>
        (ofPropertyText name, rest)
    | c :: rest =>
      if c = '\\' then .error .propertyLetter
      else .ok ((Property.ofName? (String.singleton c), false), skip f rest)
  if !f.unicode then .error .unicodeOff
  else
    match found with
    | none => .error .propertyUnknown
    | some s => return (.set (← f.foldAndNegate ((letter == 'P') != differs) s), rest)

/-! ## Word boundaries -/

/-- The letters of a name of a word boundary. -/
def isBoundaryLetter (c : Char) : Bool := c.isAlpha || c == '-'

/-- The letters of a name of a word boundary, up to the first other character.  The fuel is at
least the length of the text. -/
def scanBoundaryName (f : PatternFlags) (name : List Char) :
    Nat → List Char → List Char × List Char
  | fuel + 1, c :: rest =>
    if isBoundaryLetter c then scanBoundaryName f (c :: name) fuel (skip f rest)
    else (name.reverse, c :: rest)
  | _, s => (name.reverse, s)

/-- A condition by the name of a word boundary. -/
def boundaryNamed? (f : PatternFlags) (name : String) : Option Look :=
  match name with
  | "start" => some (.wordStart f.unicode)
  | "end" => some (.wordStop f.unicode)
  | "start-half" => some (.wordStartHalf f.unicode)
  | "end-half" => some (.wordStopHalf f.unicode)
  | _ => none

/-- A word boundary after the letter `b`: with a name in braces, or without one. -/
def scanBoundary (f : PatternFlags) (s : List Char) :
    Except PatternError (PatternAtom × List Char) :=
  match s with
  | '\x7b' :: rest =>
    match skip f rest with
    | [] => .error .boundaryUnclosed
    | c :: tail =>
      if !isBoundaryLetter c then .ok (.look (.boundary f.unicode), s)
      else
        match scanBoundaryName f [] (tail.length + 2) (c :: tail) with
        | (name, '\x7d' :: rest) =>
          match boundaryNamed? f (String.ofList name) with
          | some condition => .ok (.look condition, rest)
          | none => .error .boundaryUnknown
        | _ => .error .boundaryUnclosed
  | s => .ok (.look (.boundary f.unicode), s)

/-! ## Escapes -/

/-- The characters that stand for themselves after a backslash: those of ASCII that are no letters,
no digits and no angle brackets. -/
def isEscapable (c : Char) : Bool :=
  c.toNat < 0x80 && !c.isAlphanum && c != '<' && c != '>'

/-- What a backslash stands for, with the text after it. -/
def scanEscape (f : PatternFlags) (s : List Char) :
    Except PatternError (PatternAtom × List Char) :=
  match s with
  | [] => .error .escapeUnfinished
  | c :: rest =>
    if c.isDigit then .error .backReference
    else if isEscapable c then .ok (.literal c false, rest)
    else
      match c with
      | 'x' => scanHex f c rest
      | 'u' => scanHex f c rest
      | 'U' => scanHex f c rest
      | 'p' => scanProperty f c rest
      | 'P' => scanProperty f c rest
      | 'a' => .ok (.literal '\x07' false, rest)
      | 'f' => .ok (.literal '\x0c' false, rest)
      | 't' => .ok (.literal '\t' false, rest)
      | 'n' => .ok (.literal '\n' false, rest)
      | 'r' => .ok (.literal '\r' false, rest)
      | 'v' => .ok (.literal '\x0b' false, rest)
      | 'A' => .ok (.look .start, rest)
      | 'z' => .ok (.look .stop, rest)
      | 'b' => scanBoundary f rest
      | 'B' => .ok (.look (.noBoundary f.unicode), rest)
      | '<' => .ok (.look (.wordStart f.unicode), rest)
      | '>' => .ok (.look (.wordStop f.unicode), rest)
      | c =>
        if ['d', 's', 'w', 'D', 'S', 'W'].contains c then
          (f.letterClass c).map fun s => (.set s, rest)
        else .error .escapeUnknown

end PatternAtom

end JsonPath
