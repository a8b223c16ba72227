import JsonPath.Pattern.Basic
import JsonPath.Pattern.Error

/-!
# Flags of patterns

Flags are set in groups, `(?i)` or `(?i-m:…)`, and decide how the pattern is read from there on: up
to the end of the innermost group.
-/

namespace JsonPath

/-- The flags in force at a place of a pattern. -/
structure PatternFlags where
  /-- `i`: letters stand for their case variants too. -/
  anyCase : Bool := false
  /-- `m`: `^` and `$` stand for the ends of lines too. -/
  multiLine : Bool := false
  /-- `s`: the dot stands for line ends too. -/
  dotAll : Bool := false
  /-- `U`: repetitions prefer few; it has no effect on what matches. -/
  preferFew : Bool := false
  /-- `u`: classes and cases are those of Unicode. -/
  unicode : Bool := true
  /-- `x`: blanks and comments in the pattern mean nothing. -/
  verbose : Bool := false
  /-- `R`: lines end with a carriage return too. -/
  anyLineEnd : Bool := false
  deriving DecidableEq

namespace PatternFlags

/-- Whether a character is the letter of a flag. -/
def isFlagLetter (c : Char) : Bool := ['i', 'm', 's', 'U', 'u', 'x', 'R'].contains c

/-- Sets the flag of a letter. -/
def set (f : PatternFlags) (letter : Char) (on : Bool) : PatternFlags :=
  match letter with
  | 'i' => { f with anyCase := on }
  | 'm' => { f with multiLine := on }
  | 's' => { f with dotAll := on }
  | 'U' => { f with preferFew := on }
  | 'u' => { f with unicode := on }
  | 'x' => { f with verbose := on }
  | 'R' => { f with anyLineEnd := on }
  | _ => f

/-- Sets the flags of a list of items: on up to the sign `-`, and off after it. -/
def apply (f : PatternFlags) (on : Bool) : List Char → PatternFlags
  | [] => f
  | '-' :: rest => apply f false rest
  | letter :: rest => apply (f.set letter on) on rest

/-- The items of a list of flags up to its end, which is a colon or a parenthesis; returns the
items, the end and what follows.  `items` holds those so far, the last one first. -/
def scan (items : List Char) : List Char → Except PatternError (List Char × Char × List Char)
  | [] => .error .flagsUnfinished
  | c :: rest =>
    if c = ':' || c = ')' then
      if items.head? = some '-' then .error .flagsDangling else .ok (items.reverse, c, rest)
    else if c ≠ '-' && !isFlagLetter c then .error .flagUnknown
    else if items.contains c then .error .flagRepeated
    else scan (c :: items) rest

/-! ## The meaning of parts under flags -/

/-- A set of characters with the case variants that the flags ask for. -/
def foldCase (f : PatternFlags) (s : CharSet) : CharSet :=
  if !f.anyCase then s else if f.unicode then s.anyCase else s.anyAsciiCase

/-- The complement of a set.  Without Unicode it would hold bytes that are no text. -/
def negate (f : PatternFlags) (negated : Bool) (s : CharSet) : Except PatternError CharSet :=
  if !negated then .ok s else if f.unicode then .ok s.complement else .error .bytesOnly

/-- The set that the dot stands for. -/
def dot (f : PatternFlags) : Except PatternError CharSet :=
  if !f.unicode then .error .bytesOnly
  else if f.dotAll then .ok .all
  else if f.anyLineEnd then .ok (CharSet.complement (.union [.single '\n', .single '\r']))
  else .ok (CharSet.complement (.single '\n'))

/-- The condition that `^` stands for. -/
def lineStart (f : PatternFlags) : Look :=
  if !f.multiLine then .start else if f.anyLineEnd then .anyLineStart else .lineStart

/-- The condition that `$` stands for. -/
def lineStop (f : PatternFlags) : Look :=
  if !f.multiLine then .stop else if f.anyLineEnd then .anyLineStop else .lineStop

/-- The set of the classes `\d`, `\s`, `\w` and of their complements in capital letters. -/
def letterClass (f : PatternFlags) (letter : Char) : Except PatternError CharSet :=
  let s : CharSet := match letter.toLower with
    | 'd' => if f.unicode then .digit else .asciiDigit
    | 's' => if f.unicode then .space else .asciiSpace
    | _ => .wordOf f.unicode
  f.negate letter.isUpper s

/-- A set with its case variants, or its complement. -/
def foldAndNegate (f : PatternFlags) (negated : Bool) (s : CharSet) :
    Except PatternError CharSet :=
  f.negate negated (f.foldCase s)

end PatternFlags

end JsonPath
