import JsonPath.Pattern.Basic

/-!
# The compact form of patterns

The compact form of a pattern matches the same texts.  Groups that note nothing and empty parts are
taken away, characters next to each other are joined to texts, choices between characters to sets,
and what the options of a choice have in common at their start is moved in front of it.  The size
of a pattern is measured on its compact form.
-/

namespace JsonPath

/-- A pattern in compact form. -/
inductive CompactPattern where
  | empty
  /-- Characters one after the other, at least one. -/
  | text (chars : List Char)
  /-- One character out of ascending ranges, which are not a single character. -/
  | chars (ranges : List (Nat × Nat))
  | look (condition : Look)
  /-- A pattern whose stretch is noted. -/
  | capture (inner : CompactPattern)
  | repetition (inner : CompactPattern) (least : Nat) (most : Option Nat) (preferFew : Bool)
  | sequence (parts : List CompactPattern)
  | choice (options : List CompactPattern)

namespace CompactPattern

/-! ## Comparison -/

mutual

/-- Whether two patterns are written alike.  Captures note different stretches, so no two of them
are alike. -/
def isLike : CompactPattern → CompactPattern → Bool
  | .empty, .empty => true
  | .text s, .text t => s == t
  | .chars r, .chars s => r == s
  | .look c, .look d => c == d
  | .repetition p least most few, .repetition q least' most' few' =>
    isLike p q && least == least' && most == most' && few == few'
  | .sequence ps, .sequence qs => areLike ps qs
  | .choice ps, .choice qs => areLike ps qs
  | _, _ => false

/-- Whether two lists of patterns are written alike. -/
def areLike : List CompactPattern → List CompactPattern → Bool
  | [], [] => true
  | p :: ps, q :: qs => isLike p q && areLike ps qs
  | _, _ => false

end

/-- What two lists of parts have in common at their start. -/
def commonStart : List CompactPattern → List CompactPattern → List CompactPattern
  | p :: ps, q :: qs => if isLike p q then p :: commonStart ps qs else []
  | _, _ => []

/-! ## Lengths -/

mutual

/-- Whether the pattern can match nothing but the empty text. -/
def isEmptyOnly : CompactPattern → Bool
  | .empty => true
  | .text _ => false
  | .chars _ => false
  | .look _ => true
  | .capture p => p.isEmptyOnly
  | .repetition p _ most _ => p.isEmptyOnly || most == some 0
  | .sequence ps => areEmptyOnly ps
  | .choice ps => areEmptyOnly ps

/-- Whether all patterns can match nothing but the empty text. -/
def areEmptyOnly : List CompactPattern → Bool
  | [] => true
  | p :: ps => p.isEmptyOnly && areEmptyOnly ps

end

mutual

/-- The least number of characters of a text that the pattern matches.  There is none if some part
of the pattern is a set without characters. -/
def leastLength? : CompactPattern → Option Nat
  | .empty => some 0
  | .text s => some s.length
  | .chars ranges => if ranges.isEmpty then none else some 1
  | .look _ => some 0
  | .capture p => p.leastLength?
  | .repetition p least _ _ => p.leastLength?.map (least * ·)
  | .sequence ps => (leastLengths? ps).map fun lengths => lengths.foldl (· + ·) 0
  | .choice ps => (leastLengths? ps).bind List.min?

/-- The least numbers of characters for all patterns. -/
def leastLengths? : List CompactPattern → Option (List Nat)
  | [] => some []
  | p :: ps => p.leastLength?.bind fun n => (leastLengths? ps).map (n :: ·)

end

/-- Whether every text that the pattern matches has a character. -/
def consumes (p : CompactPattern) : Bool := (p.leastLength?.map fun n => decide (0 < n)).getD false

/-! ## Ends of the text -/

mutual

/-- Whether a stretch that matches always starts at the start of the text. -/
def startsAtStart : CompactPattern → Bool
  | .look condition => condition == .start
  | .capture p => p.startsAtStart
  | .repetition p least _ _ => 0 < least && p.startsAtStart
  | .sequence ps => firstStartsAtStart ps
  | .choice ps => allStartAtStart ps
  | _ => false

/-- Whether one of the parts at the start, before which no character is matched, starts at the start
of the text. -/
def firstStartsAtStart : List CompactPattern → Bool
  | [] => false
  | p :: ps => p.startsAtStart || (p.isEmptyOnly && firstStartsAtStart ps)

/-- Whether all of some patterns start at the start of the text. -/
def allStartAtStart : List CompactPattern → Bool
  | [] => true
  | p :: ps => p.startsAtStart && allStartAtStart ps

end

mutual

/-- Whether a stretch that matches always stops at the end of the text. -/
def stopsAtStop : CompactPattern → Bool
  | .look condition => condition == .stop
  | .capture p => p.stopsAtStop
  | .repetition p least _ _ => 0 < least && p.stopsAtStop
  | .sequence ps => lastStopsAtStop ps
  | .choice ps => allStopAtStop ps
  | _ => false

/-- Whether one of the parts at the end, after which no character is matched, stops at the end of
the text. -/
def lastStopsAtStop : List CompactPattern → Bool
  | [] => false
  | p :: ps => lastStopsAtStop ps || (areEmptyOnly ps && p.stopsAtStop)

/-- Whether all of some patterns stop at the end of the text. -/
def allStopAtStop : List CompactPattern → Bool
  | [] => true
  | p :: ps => p.stopsAtStop && allStopAtStop ps

end

/-! ## Construction -/

/-- One character out of ranges; a single character is a text. -/
def ofRanges (ranges : List (Nat × Nat)) : CompactPattern :=
  match ranges with
  | [(first, last)] => if first = last then .text [Char.ofNat first] else .chars ranges
  | _ => .chars ranges

/-- One character of a set. -/
def ofSet (s : CharSet) : CompactPattern := ofRanges s.characterRanges

/-- Repetitions of a pattern.  The empty text need not be repeated, and to repeat once is not to
repeat. -/
def repeated (p : CompactPattern) (least : Nat) (most : Option Nat) (preferFew : Bool) :
    CompactPattern :=
  let least := if p.isEmptyOnly then min least 1 else least
  let most := if p.isEmptyOnly then some ((most.map (min 1)).getD 1) else most
  if most = some 0 then .empty
  else if least = 1 && most = some 1 then p
  else .repetition p least most preferFew

/-- The parts that a pattern has in a sequence. -/
def partsOf : CompactPattern → List CompactPattern
  | .empty => []
  | .sequence ps => ps
  | p => [p]

/-- Joins texts next to each other. -/
def joinTexts : List CompactPattern → List CompactPattern
  | [] => []
  | p :: ps =>
    match p, joinTexts ps with
    | .text s, .text t :: others => .text (s ++ t) :: others
    | p, others => p :: others

/-- Patterns one after the other. -/
def inSequence (ps : List CompactPattern) : CompactPattern :=
  match joinTexts (ps.flatMap partsOf) with
  | [] => .empty
  | [p] => p
  | parts => .sequence parts

/-- The options that a pattern has in a choice. -/
def optionsOf : CompactPattern → List CompactPattern
  | .choice ps => ps
  | p => [p]

/-- The ranges of characters that options have together if all of them are sets, or all of them
single characters. -/
def joinedRanges? (options : List CompactPattern) : Option (List (Nat × Nat)) :=
  let ofText : CompactPattern → Option (List (Nat × Nat))
    | .text [c] => some [(c.toNat, c.toNat)]
    | _ => none
  let ofChars : CompactPattern → Option (List (Nat × Nat))
    | .chars ranges => some ranges
    | _ => none
  ((options.mapM ofText).or (options.mapM ofChars)).map fun all =>
    (CharSet.ofRanges all.flatten).characterRanges

/-- What options that are sequences have in common at their start, and what follows it in each of
them. -/
def splitCommonStart? (options : List CompactPattern) :
    Option (List CompactPattern × List CompactPattern) :=
  let parts? : CompactPattern → Option (List CompactPattern)
    | .sequence ps => some ps
    | _ => none
  match options.mapM parts? with
  | some (first :: others) =>
    match others.foldl commonStart first with
    | [] => none
    | common =>
      some (common, (first :: others).map fun ps => inSequence (ps.drop common.length))
  | _ => none

/-- Any one of some patterns.  The fuel bounds how often a common start is moved to the front. -/
def amongOptions : Nat → List CompactPattern → CompactPattern
  | 0, options => .choice options
  | fuel + 1, options =>
    match options.flatMap optionsOf with
    | [] => .chars []
    | [p] => p
    | options =>
      match joinedRanges? options with
      | some ranges => ofRanges ranges
      | none =>
        match splitCommonStart? options with
        | some (common, followers) => inSequence (common ++ [amongOptions fuel followers])
        | none => .choice options

mutual

/-- The number of parts that the pattern is made of. -/
def partCount : CompactPattern → Nat
  | .capture p => p.partCount + 1
  | .repetition p _ _ _ => p.partCount + 1
  | .sequence ps => partCounts ps + 1
  | .choice ps => partCounts ps + 1
  | _ => 1

/-- The number of parts that some patterns are made of. -/
def partCounts : List CompactPattern → Nat
  | [] => 0
  | p :: ps => p.partCount + partCounts ps

end

/-- Any one of some patterns. -/
def oneOf (options : List CompactPattern) : CompactPattern :=
  amongOptions (partCounts options + 1) options

end CompactPattern

namespace Pattern

mutual

/-- The compact form of the pattern. -/
def compact : Pattern → CompactPattern
  | .empty => .empty
  | .chars set _ => .ofSet set
  | .look condition => .look condition
  | .group p captures => if captures then .capture p.compact else p.compact
  | .repetition p least most preferFew => p.compact.repeated least most preferFew
  | .sequence ps => .inSequence (compactAll ps)
  | .choice ps => .oneOf (compactAll ps)

/-- The compact forms of some patterns. -/
def compactAll : List Pattern → List CompactPattern
  | [] => []
  | p :: ps => p.compact :: compactAll ps

end

end Pattern

end JsonPath
