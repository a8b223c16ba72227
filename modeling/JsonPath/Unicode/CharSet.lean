import JsonPath.Unicode.Runs

/-!
# Sets of characters

A set is kept by the boundaries where membership changes from one code point to the next.
Membership is found by bisection, and the ranges of adjacent members are read off the boundaries.
The operations on sets come down to two: joining ranges and taking the complement.
-/

namespace JsonPath

/-- A set of characters, by the boundaries where membership changes: in it are the code points from
the first boundary up to the second, from the third up to the fourth, and so on. -/
structure CharSet where
  boundaries : Array Nat
  deriving DecidableEq

namespace CharSet

/-- Whether a code point belongs to the set. -/
def contains (s : CharSet) (code : Nat) : Bool := Unicode.rank s.boundaries code % 2 == 1

/-- Whether a character belongs to the set. -/
def has (s : CharSet) (c : Char) : Bool := s.contains c.toNat

/-! ## Ranges -/

/-- The ranges between boundaries. -/
def rangesBetween : List Nat → List (Nat × Nat)
  | start :: stop :: rest => (start, stop - 1) :: rangesBetween rest
  | _ => []

/-- The first and the last code point of each range of adjacent members. -/
def ranges (s : CharSet) : List (Nat × Nat) := rangesBetween s.boundaries.toList

/-- The boundaries of a range from `start` up to `stop` and of ranges after its start, which ascend
by their first code points.  Ranges that meet are joined. -/
def joinedBoundaries (start stop : Nat) : List (Nat × Nat) → List Nat
  | [] => [start, stop]
  | (first, last) :: rest =>
    if first ≤ stop then joinedBoundaries start (max stop (last + 1)) rest
    else start :: stop :: joinedBoundaries first (last + 1) rest

/-- The code points of some ranges, each given by its first and its last one. -/
def ofRanges (ranges : List (Nat × Nat)) : CharSet :=
  match ranges.mergeSort fun l r => decide (l.1 ≤ r.1) with
  | [] => ⟨#[]⟩
  | (first, last) :: rest => ⟨(joinedBoundaries first (last + 1) rest).toArray⟩

/-- The code points from `first` through `last`. -/
def range (first last : Nat) : CharSet := ⟨#[first, last + 1]⟩

/-- The set of one character. -/
def single (c : Char) : CharSet := range c.toNat c.toNat

/-- The set of all code points. -/
def all : CharSet := range 0 0x10FFFF

/-- The part of a range between two bounds. -/
def rangeWithin (low high : Nat) : Nat × Nat → Option (Nat × Nat)
  | (first, last) =>
    if max first low ≤ min last high then some (max first low, min last high) else none

/-- The ranges of adjacent members without the code points of surrogates, which are no
characters. -/
def characterRanges (s : CharSet) : List (Nat × Nat) :=
  s.ranges.flatMap fun r =>
    [(0, 0xD7FF), (0xE000, 0x10FFFF)].filterMap fun (low, high) => rangeWithin low high r

/-! ## Tables -/

/-- Reads a set whose words are the distances from one boundary to the next. -/
def ofLines (lines : List String) : CharSet :=
  ⟨(Unicode.partialSums 0
    ((Unicode.wordsOf lines).map fun w => Unicode.ofHexDigits w.toList)).toArray⟩

/-- The boundaries of the runs whose values are chosen, for runs from `start` on; `inside` tells
whether the code points before `start` belong to the set. -/
def chosenBoundaries (choose : String → Bool) (inside : Bool) (start : Nat) :
    List (Nat × String) → List Nat
  | [] => if inside then [start] else []
  | (stop, value) :: rest =>
    let next := choose value
    let others := chosenBoundaries choose next stop rest
    if next == inside then others else start :: others

/-- The code points whose values in a table are chosen. -/
def ofRuns (runs : Unicode.Runs) (choose : String → Bool) : CharSet :=
  ⟨(chosenBoundaries choose false 0 (runs.stops.zip runs.values).toList).toArray⟩

/-! ## Operations -/

/-- The members of any of some sets. -/
def union (sets : List CharSet) : CharSet := ofRanges (sets.flatMap ranges)

/-- The code points that are no members. -/
def complement (s : CharSet) : CharSet :=
  let started := match s.boundaries.toList with
    | 0 :: rest => rest
    | boundaries => 0 :: boundaries
  if started.getLast? == some 0x110000 then ⟨started.dropLast.toArray⟩
  else ⟨(started ++ [0x110000]).toArray⟩

/-- The members of both sets. -/
def intersection (l r : CharSet) : CharSet := (union [l.complement, r.complement]).complement

/-- The members of the first set that are no members of the second. -/
def difference (l r : CharSet) : CharSet := (union [l.complement, r]).complement

/-- The members of exactly one of two sets. -/
def symmetricDifference (l r : CharSet) : CharSet := union [l.difference r, r.difference l]

end CharSet

end JsonPath
