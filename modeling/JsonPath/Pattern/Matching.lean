import JsonPath.Pattern.Basic

/-!
# Matching

A pattern matches a stretch of a text between two places.  `Pattern.ends` computes for places where
stretches start all places where they can end.  A list of places is kept ascending and without
repetition, so a repetition that gains no further place has come to its end.
-/

namespace JsonPath

/-- The text that is matched against. -/
abbrev Subject := Array Char

namespace Look

/-- The character before a place. -/
def charBefore? (subject : Subject) (place : Nat) : Option Char :=
  if place = 0 then none else subject[place - 1]?

/-- Whether there is a character of a word at a side of a place. -/
def isInWord (unicode : Bool) : Option Char → Bool
  | some c => (CharSet.wordOf unicode).has c
  | none => false

/-- Whether a condition holds at a place. -/
def holds (condition : Look) (subject : Subject) (place : Nat) : Bool :=
  let before := charBefore? subject place
  let after := subject[place]?
  match condition with
  | .start => place == 0
  | .stop => place == subject.size
  | .lineStart => before.isNone || before == some '\n'
  | .lineStop => after.isNone || after == some '\n'
  | .anyLineStart =>
    before.isNone || before == some '\n' || (before == some '\r' && after != some '\n')
  | .anyLineStop =>
    after.isNone || after == some '\r' || (after == some '\n' && before != some '\r')
  | .boundary unicode => isInWord unicode before != isInWord unicode after
  | .noBoundary unicode => isInWord unicode before == isInWord unicode after
  | .wordStart unicode => !isInWord unicode before && isInWord unicode after
  | .wordStop unicode => isInWord unicode before && !isInWord unicode after
  | .wordStartHalf unicode => !isInWord unicode before
  | .wordStopHalf unicode => !isInWord unicode after

end Look

namespace Pattern

/-! ## Lists of places -/

/-- The places of two ascending lists of places. -/
def mergePlaces : List Nat → List Nat → List Nat
  | [], others => others
  | places, [] => places
  | place :: places, other :: others =>
    if place < other then place :: mergePlaces places (other :: others)
    else if other < place then other :: mergePlaces (place :: places) others
    else place :: mergePlaces places others
termination_by places others => places.length + others.length

/-- The places after `count` steps. -/
def afterSteps (step : List Nat → List Nat) : Nat → List Nat → List Nat
  | 0, places => places
  | count + 1, places => if places.isEmpty then [] else afterSteps step count (step places)

/-- The places after at most `count` steps.  When a step gains no place, no further one does. -/
def withinSteps (step : List Nat → List Nat) : Nat → List Nat → List Nat
  | 0, places => places
  | count + 1, places =>
    let next := mergePlaces (step places) places
    if next.length = places.length then places else withinSteps step count next

/-! ## Ends of stretches -/

mutual

/-- The places where stretches that start at one of `places` and match the pattern end. -/
def ends (subject : Subject) : Pattern → List Nat → List Nat
  | .empty, places => places
  | .chars set _, places =>
    places.filterMap fun place =>
      match subject[place]? with
      | some c => if set.has c then some (place + 1) else none
      | none => none
  | .look condition, places => places.filter fun place => condition.holds subject place
  | .group p _, places => ends subject p places
  | .repetition p least most _, places =>
    let required := afterSteps (ends subject p) least places
    let further := match most with
      | some most => most - least
      | none => subject.size + 1
    withinSteps (ends subject p) further required
  | .sequence ps, places => endsInSequence subject ps places
  | .choice ps, places => endsOfChoice subject ps places

/-- The ends for patterns one after the other. -/
def endsInSequence (subject : Subject) : List Pattern → List Nat → List Nat
  | [], places => places
  | p :: ps, places => endsInSequence subject ps (ends subject p places)

/-- The ends for any one of some patterns. -/
def endsOfChoice (subject : Subject) : List Pattern → List Nat → List Nat
  | [], _ => []
  | p :: ps, places => mergePlaces (ends subject p places) (endsOfChoice subject ps places)

end

/-- Whether the pattern matches some stretch of the text. -/
def isFoundIn (p : Pattern) (text : String) : Bool :=
  let subject := text.toList.toArray
  !(ends subject p (List.range (subject.size + 1))).isEmpty

end Pattern

end JsonPath
