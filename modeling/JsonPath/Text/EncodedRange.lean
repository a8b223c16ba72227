/-!
# Ranges of characters in UTF-8

The encodings of the characters of a range are the texts of a few sequences of ranges of bytes: one
byte out of each range of a sequence.  `encodedRanges` gives the sequences in the order of the
characters that they encode.
-/

namespace JsonPath.Text

/-- The bytes from `first` through `last`. -/
structure ByteRange where
  first : Nat
  last : Nat
  deriving DecidableEq

namespace ByteRange

/-- The range of one byte. -/
def single (byte : Nat) : ByteRange := ⟨byte, byte⟩

/-- The bytes that continue an encoding. -/
def continuation : ByteRange := ⟨0x80, 0xBF⟩

end ByteRange

/-- The sequences for the numbers from `low` through `high` that are written with `count` bytes
after the first one.  A byte after the first holds six bits, and `base` is added to what is left
over for the first. -/
def numberRanges : Nat → Nat → Nat → Nat → List (List ByteRange)
  | 0, base, low, high => [[⟨base + low, base + high⟩]]
  | count + 1, base, low, high =>
    let block := 1 <<< (6 * (count + 1))
    let inBlock (number lower upper : Nat) : List (List ByteRange) :=
      (numberRanges count 0x80 lower upper).map (ByteRange.single (base + number) :: ·)
    let lowest := low / block
    let highest := high / block
    if lowest = highest then inBlock lowest (low % block) (high % block)
    else
      let startsInside := low % block ≠ 0
      let stopsInside := high % block ≠ block - 1
      let start := if startsInside then inBlock lowest (low % block) (block - 1) else []
      let stop := if stopsInside then inBlock highest 0 (high % block) else []
      let firstWhole := if startsInside then lowest + 1 else lowest
      let pastWhole := if stopsInside then highest else highest + 1
      let whole := if firstWhole < pastWhole then
          [⟨base + firstWhole, base + pastWhole - 1⟩ ::
            List.replicate (count + 1) ByteRange.continuation]
        else []
      start ++ whole ++ stop

/-- The blocks of characters that are encoded alike: the first and the last one, the number of bytes
after the first byte, and what is added to the first byte. -/
def encodingBlocks : List (Nat × Nat × Nat × Nat) :=
  [(0, 0x7F, 0, 0), (0x80, 0x7FF, 1, 0xC0), (0x800, 0xD7FF, 2, 0xE0), (0xE000, 0xFFFF, 2, 0xE0),
   (0x10000, 0x10FFFF, 3, 0xF0)]

/-- The sequences of ranges of bytes for the characters from `first` through `last`. -/
def encodedRanges (first last : Nat) : List (List ByteRange) :=
  encodingBlocks.flatMap fun (low, high, count, base) =>
    if max first low ≤ min last high then
      numberRanges count base (max first low) (min last high)
    else []

end JsonPath.Text
