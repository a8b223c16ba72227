import JsonPath.Pattern.Compact
import JsonPath.Text.EncodedRange

/-!
# The sizes of automata

A pattern is accepted only if two automata for it are not too large: one that reads the bytes of a
text from the start, and one that reads them backwards.  This module builds neither of them, but
counts their states and branches in the order in which they would be built.

A state takes 32 bytes.  A fork takes 4 bytes more for each of its branches, and a state that tells
ranges of bytes apart takes 8 bytes more for each of them.  Parts are built one after the other, and
each is linked to the end of the one before it, so a fork at the end of a part gains a branch with
the part after it.

A set of characters is built from the ranges of bytes of their encodings, and states that are alike
are shared.  To find them, they are kept in tables with a fixed number of places, each of which
holds the state that was put there last.
-/

namespace JsonPath

open Text (ByteRange)

/-! ## Tables of states -/

/-- The place of a key in a table: the remainder of a 64-bit hash that takes one number of the key
after the other. -/
def placeOf (key : List Nat) (places : Nat) : Nat :=
  (key.foldl (fun (h : UInt64) n => (h ^^^ n.toUInt64) * 1099511628211) 14695981039346656037).toNat
    % places

/-- States by their keys, with one state at each place. -/
structure StateTable where
  entries : Array (Option (List Nat × Nat))

namespace StateTable

/-- A table without states. -/
def empty (places : Nat) : StateTable := ⟨Array.replicate places none⟩

/-- The state of a key. -/
def find? (t : StateTable) (key : List Nat) (place : Nat) : Option Nat :=
  match t.entries[place]? with
  | some (some (other, state)) => if other = key then some state else none
  | _ => none

/-- Puts the state of a key at its place. -/
def insert (t : StateTable) (key : List Nat) (place state : Nat) : StateTable :=
  ⟨t.entries.setIfInBounds place (some (key, state))⟩

end StateTable

/-! ## Automata under construction -/

/-- An automaton under construction, as far as its size depends on it. -/
structure AutomatonDraft where
  /-- Whether the automaton reads backwards. -/
  backwards : Bool
  /-- The number of states, which is also the number that the next state is known by. -/
  states : Nat
  /-- The bytes that branches and ranges take. -/
  branchBytes : Nat
  /-- Whether the part built last ends in a fork. -/
  openFork : Bool
  /-- The states for sets of characters. -/
  table : StateTable

namespace AutomatonDraft

/-- The bytes of a state. -/
def stateBytes : Nat := 32

/-- The size up to which automata are accepted. -/
def sizeLimit : Nat := 0xA00000

/-- The size in bytes. -/
def size (d : AutomatonDraft) : Nat := d.states * stateBytes + d.branchBytes

/-- Whether the automaton is too large. -/
def isTooLarge (d : AutomatonDraft) : Bool := sizeLimit < d.size

/-- No states.  The two directions share states by different keys, in tables of different sizes. -/
def start (backwards : Bool) : AutomatonDraft :=
  { backwards, states := 0, branchBytes := 0, openFork := false
    table := .empty (if backwards then 1000 else 10000) }

/-- Some further branches of forks. -/
def addBranches (d : AutomatonDraft) (count : Nat) : AutomatonDraft :=
  { d with branchBytes := d.branchBytes + 4 * count }

/-- Links the end of the part built last to what comes after it. -/
def link (d : AutomatonDraft) : AutomatonDraft :=
  { d with branchBytes := d.branchBytes + (if d.openFork then 4 else 0), openFork := false }

/-- Some states in a row after the part built last. -/
def addStates (d : AutomatonDraft) (count : Nat) : AutomatonDraft :=
  let d := d.link
  { d with states := d.states + count }

/-- A fork after the part built last. -/
def addFork (d : AutomatonDraft) : AutomatonDraft := { d.addStates 1 with openFork := true }

/-- A state that tells some ranges of bytes apart, after the part built last. -/
def addRanges (d : AutomatonDraft) (count : Nat) : AutomatonDraft :=
  let d := d.addStates 1
  { d with branchBytes := d.branchBytes + 8 * count }

/-- Copies of a part one after the other, as many as needed to see that they are too large. -/
def addCopies (add : AutomatonDraft → AutomatonDraft) : Nat → AutomatonDraft → AutomatonDraft
  | 0, d => d
  | count + 1, d => if d.isTooLarge then d else addCopies add count (add d)

/-! ## Sets of characters -/

/-- The state with a key: the one in the table, or a new one with some ranges of bytes. -/
def share (d : AutomatonDraft) (key : List Nat) (rangeCount : Nat) : Nat × AutomatonDraft :=
  let place := placeOf key d.table.entries.size
  match d.table.find? key place with
  | some state => (state, d)
  | none =>
    let state := d.states
    let d := d.addRanges rangeCount
    (state, { d with table := d.table.insert key place state })

/-- A sequence of ranges of bytes that is read backwards: states from `next` on for the bytes of the
sequence, each known by the state after it and its range, and a branch to the last one of them. -/
def addBackwards (d : AutomatonDraft) (next : Nat) : List ByteRange → AutomatonDraft
  | [] => d.addBranches 1
  | r :: rs =>
    let (state, d) := d.share [next, r.first, r.last] 0
    addBackwards d state rs

/-- Sequences grouped by their first ranges, with what follows the first range in each. -/
def groupByFirst : List (List ByteRange) → List (ByteRange × List (List ByteRange))
  | [] => []
  | [] :: rest => groupByFirst rest
  | (r :: rs) :: rest =>
    match groupByFirst rest with
    | (other, group) :: groups =>
      if r = other then (r, rs :: group) :: groups else (r, [rs]) :: (other, group) :: groups
    | [] => [(r, [rs])]

/-- A state for ascending sequences of at most `depth` ranges of bytes that lead to the state
`target`, known by its ranges and the states that they lead to.  Returns the state. -/
def addForwards (target : Nat) :
    Nat → List (List ByteRange) → AutomatonDraft → Nat × AutomatonDraft
  | 0, _, d => (target, d)
  | depth + 1, sequences, d =>
    if sequences.all List.isEmpty then (target, d)
    else
      let (key, d) := (groupByFirst sequences).foldl
        (fun (key, d) (r, group) =>
          let (state, d) := addForwards target depth group d
          (state :: r.last :: r.first :: key, d))
        ([], d)
      d.share key.reverse (key.length / 3)

/-- One character out of ranges.  Characters of ASCII are told apart by one state. -/
def addChars (d : AutomatonDraft) (ranges : List (Nat × Nat)) : AutomatonDraft :=
  if ranges.all fun r => r.2 < 0x80 then (d.addStates 1).addRanges ranges.length
  else
    let sequences := ranges.flatMap fun r => Text.encodedRanges r.1 r.2
    if d.backwards then
      let d := d.addStates 2
      let target := d.states - 1
      sequences.foldl (fun d sequence => d.addBackwards target sequence) d
    else
      let d := d.addStates 1
      (addForwards (d.states - 1) 4 sequences d).2

/-! ## Choices between texts -/

/-- The words of a list up to each empty one.  Empty words at the start count once. -/
def splitAtEmpty : List (List Nat) → List (List (List Nat))
  | [] => [[]]
  | [] :: rest => [] :: splitAtEmpty rest
  | word :: rest =>
    match splitAtEmpty rest with
    | [] => [[word]]
    | part :: parts => (word :: part) :: parts

/-- The words between empty ones, where words from a first empty one on may be left. -/
def partsBetweenEmpty (words : List (List Nat)) : List (List (List Nat)) :=
  let parts := splitAtEmpty (words.dropWhile List.isEmpty)
  if words.head? = some [] then [] :: parts else parts

/-- What follows a byte in the words that start with it. -/
def wordsAfter (byte : Nat) (words : List (List Nat)) : List (List Nat) :=
  words.filterMap fun word =>
    match word with
    | first :: rest => if first = byte then some rest else none
    | [] => none

/-- A tree of the words of a list, in which earlier words come first.  At each node there is a fork
with a branch to the end for each empty word, and one to a state that tells the next bytes apart for
the words before, between and after them.  The fuel bounds the lengths of the words. -/
def addWords : Nat → List (List Nat) → AutomatonDraft → AutomatonDraft
  | 0, _, d => d
  | fuel + 1, words, d =>
    if words.all List.isEmpty then d
    else
      let parts := partsBetweenEmpty words
      let d := (d.addStates 1).addBranches (parts.length - 1)
      (parts.filter fun part => !part.isEmpty).foldl
        (fun d part =>
          let bytes := (part.filterMap List.head?).eraseDups
          let d := (d.addRanges (if bytes.length = 1 then 0 else bytes.length)).addBranches 1
          bytes.foldl (fun d byte => addWords fuel (wordsAfter byte part) d) d)
        d

/-- The bytes of a text in the order in which they are read. -/
def bytesOf (d : AutomatonDraft) (text : List Char) : List Nat :=
  let bytes := (text.flatMap String.utf8EncodeChar).map UInt8.toNat
  if d.backwards then bytes.reverse else bytes

/-- A choice between texts. -/
def addTexts (d : AutomatonDraft) (texts : List (List Char)) : AutomatonDraft :=
  let words := texts.map d.bytesOf
  addWords ((words.map List.length).foldl max 0 + 1) words (d.addStates 1)

/-! ## Patterns -/

/-- The texts of options if all of them are texts. -/
def textsOf? (options : List CompactPattern) : Option (List (List Char)) :=
  options.mapM fun option =>
    match option with
    | .text s => some s
    | _ => none

mutual

/-- A pattern after the part built last. -/
def add : CompactPattern → AutomatonDraft → AutomatonDraft
  | .empty, d => d.addStates 1
  | .text s, d => d.addStates (d.bytesOf s).length
  | .chars ranges, d => d.addChars ranges
  | .look _, d => d.addStates 1
  | .capture p, d => if d.backwards then add p d else (add p (d.addStates 1)).addStates 1
  | .repetition p least most _, d =>
    match most with
    | none =>
      if 0 < least then (addCopies (add p) least d).addFork.addBranches 1
      else if p.consumes then { (add p d.addFork).link with openFork := true }
      else (((add p d).addFork.addBranches 1).addFork.addBranches 1).addStates 1
    | some most =>
      if least = 0 && most = 1 then ((add p d.addFork).addBranches 1).addStates 1
      else
        let d := if least = 0 then d.addStates 1 else addCopies (add p) least d
        if least = most then d
        else
          (addCopies (fun d => add p (d.addFork.addBranches 1)) (most - least)
            (d.addStates 1)).link
  | .sequence ps, d => if d.backwards then addLastFirst ps d else addFirstFirst ps d
  | .choice ps, d =>
    match textsOf? ps with
    | some texts => d.addTexts texts
    | none => addOptions ps d

/-- Patterns one after the other. -/
def addFirstFirst : List CompactPattern → AutomatonDraft → AutomatonDraft
  | [], d => d
  | p :: ps, d => addFirstFirst ps (add p d)

/-- Patterns one after the other, the last one first. -/
def addLastFirst : List CompactPattern → AutomatonDraft → AutomatonDraft
  | [], d => d
  | p :: ps, d => add p (addLastFirst ps d)

/-- Any one of some patterns: a fork with a branch to each of them, and a state that all of them
lead to. -/
def addOptions : List CompactPattern → AutomatonDraft → AutomatonDraft
  | [], d => d
  | [p], d => add p d
  | p :: q :: ps, d =>
    let d := (add q (add p d)).addFork.addStates 1
    (addFirstFirst ps (d.addBranches (ps.length + 1))).link

end

/-- What stands before a pattern: a state, or a loop over any bytes where a stretch that matches may
start later. -/
def addLead (d : AutomatonDraft) (isFixed : Bool) : AutomatonDraft :=
  if isFixed then d.addStates 1
  else { (d.addFork.addStates 1).addRanges 1 with openFork := true }

end AutomatonDraft

namespace CompactPattern

/-- An automaton for the whole of the pattern. -/
def draft (p : CompactPattern) (backwards : Bool) : AutomatonDraft :=
  let isFixed := if backwards then p.stopsAtStop else p.startsAtStart
  let d := (AutomatonDraft.start backwards).addLead isFixed
  (AutomatonDraft.add (.capture p) d).addStates 1

end CompactPattern

/-- Whether an automaton for the pattern would be too large. -/
def Pattern.isTooLarge (p : Pattern) : Bool :=
  let p := p.compact
  (p.draft false).isTooLarge || (p.draft true).isTooLarge

end JsonPath
