import JsonPath.Pattern.NamedSets

/-!
# Patterns

A pattern describes a set of texts, or rather of stretches of a text, since a pattern can look at
what stands around it.  All choices that a pattern leaves to its flags are made when it is read, so
patterns hold no flags.
-/

namespace JsonPath

/-- Conditions on a place between two characters.  The characters of words are those of Unicode or
those of ASCII. -/
inductive Look where
  | start
  | stop
  /-- The start of a line, where lines end with a line feed. -/
  | lineStart
  /-- The end of a line, where lines end with a line feed. -/
  | lineStop
  /-- The start of a line, where lines end with a carriage return, a line feed or both. -/
  | anyLineStart
  /-- The end of a line, where lines end with a carriage return, a line feed or both. -/
  | anyLineStop
  /-- Exactly one side is a character of a word. -/
  | boundary (unicode : Bool)
  /-- Both sides or neither are characters of words. -/
  | noBoundary (unicode : Bool)
  | wordStart (unicode : Bool)
  | wordStop (unicode : Bool)
  /-- No character of a word before. -/
  | wordStartHalf (unicode : Bool)
  /-- No character of a word after. -/
  | wordStopHalf (unicode : Bool)
  deriving DecidableEq

/-- A pattern. -/
inductive Pattern where
  /-- Nothing; also a place where flags are set. -/
  | empty
  /-- One character of a set.  `nesting` counts the levels of brackets and operations that the set
  is written with. -/
  | chars (set : CharSet) (nesting : Nat)
  | look (condition : Look)
  /-- A pattern in parentheses; `captures` tells whether the stretch that matches it is noted. -/
  | group (inner : Pattern) (captures : Bool)
  /-- At least `least` repetitions, and at most `most` where that is given.  Of several counts that
  would do, few are preferred or many. -/
  | repetition (inner : Pattern) (least : Nat) (most : Option Nat) (preferFew : Bool)
  /-- One after the other. -/
  | sequence (parts : List Pattern)
  /-- Any one. -/
  | choice (options : List Pattern)

namespace Pattern

mutual

/-- Whether the pattern can match nothing but the empty text. -/
def isEmptyOnly : Pattern → Bool
  | .empty => true
  | .chars _ _ => false
  | .look _ => true
  | .group p _ => p.isEmptyOnly
  | .repetition p _ most _ => p.isEmptyOnly || most == some 0
  | .sequence ps => allEmptyOnly ps
  | .choice ps => allEmptyOnly ps

/-- Whether all patterns can match nothing but the empty text. -/
def allEmptyOnly : List Pattern → Bool
  | [] => true
  | p :: ps => p.isEmptyOnly && allEmptyOnly ps

end

/-- Repetitions of a pattern.  More than one repetition of the empty text is no different from
one. -/
def repeated (p : Pattern) (least : Nat) (most : Option Nat) (preferFew : Bool) : Pattern :=
  if p.isEmptyOnly then .repetition p (min least 1) (most.map (min 1)) preferFew
  else .repetition p least most preferFew

/-- Patterns one after the other; a single one stands for itself. -/
def ofParts : List Pattern → Pattern
  | [] => .empty
  | [p] => p
  | ps => .sequence ps

/-- Any one of some patterns; a single one stands for itself. -/
def ofOptions : List Pattern → Pattern
  | [] => .empty
  | [p] => p
  | ps => .choice ps

/-! ## Depth -/

mutual

/-- How deeply the pattern is nested. -/
def depth : Pattern → Nat
  | .empty => 0
  | .chars _ nesting => nesting
  | .look _ => 0
  | .group p _ => p.depth + 1
  | .repetition p _ _ _ => p.depth + 1
  | .sequence ps => depths ps + 1
  | .choice ps => depths ps + 1

/-- How deeply the most nested of some patterns is nested. -/
def depths : List Pattern → Nat
  | [] => 0
  | p :: ps => max p.depth (depths ps)

end

/-- The depth up to which patterns are accepted. -/
def depthLimit : Nat := 250

end Pattern

end JsonPath
