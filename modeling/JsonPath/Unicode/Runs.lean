/-!
# Tables of code points

The code points are cut into runs, and a table gives for each run its length and, where it has
one, its value.  Tables are written as text: words with hexadecimal lengths.  `rank` finds the run
of a code point by bisection.
-/

namespace JsonPath.Unicode

/-- The number that hexadecimal digits in lower case stand for. -/
def ofHexDigits (digits : List Char) : Nat :=
  digits.foldl (fun n c => n * 16 + (if c.isDigit then c.toNat - 48 else c.toNat - 87)) 0

/-- The sums of a list of lengths, from the first on. -/
def partialSums (total : Nat) : List Nat → List Nat
  | [] => []
  | n :: ns => (total + n) :: partialSums (total + n) ns

/-- The number of boundaries among `boundaries[low]`, …, `boundaries[high - 1]` and before them
that are not above `code`, for ascending boundaries.  The fuel bounds the number of bisections. -/
def rankBetween (boundaries : Array Nat) (code : Nat) : Nat → Nat → Nat → Nat
  | 0, low, _ => low
  | fuel + 1, low, high =>
    if low < high then
      let middle := (low + high) / 2
      if boundaries.getD middle 0 ≤ code then rankBetween boundaries code fuel (middle + 1) high
      else rankBetween boundaries code fuel low middle
    else low

/-- The number of boundaries that are not above `code`, for ascending boundaries. -/
def rank (boundaries : Array Nat) (code : Nat) : Nat :=
  rankBetween boundaries code (boundaries.size + 1) 0 boundaries.size

/-- The words of lines, with one blank between two words. -/
def wordsOf (lines : List String) : List String :=
  lines.flatMap fun line => (line.toList.splitOn ' ').map String.ofList

/-- The code points cut into runs of one value each. -/
structure Runs where
  /-- The ends of the runs, each the first code point after its run. -/
  stops : Array Nat
  values : Array String

namespace Runs

/-- Reads a table whose words are a value of `width` letters and a length. -/
def ofLines (width : Nat) (lines : List String) : Runs :=
  let words := (wordsOf lines).map String.toList
  { stops := (partialSums 0 (words.map fun w => ofHexDigits (w.drop width))).toArray
    values := (words.map fun w => String.ofList (w.take width)).toArray }

/-- The value of a code point. -/
def value (runs : Runs) (code : Nat) : String := runs.values.getD (rank runs.stops code) ""

end Runs

end JsonPath.Unicode
