import JsonPath.Unicode.GeneralCategory
import JsonPath.Unicode.Property

/-!
# Additions of version 17.0

The sets that patterns name follow version 16.0 of the Unicode character database.  The names of
groups and the texts that messages show follow version 17.0.  The later version assigns further
code points and takes none of the properties asked for here from an earlier one, so it is given by
what it adds.
-/

namespace JsonPath.Unicode

/-- The code points that version 17.0 adds. -/
def addedSet : CharSet := .ofLines
  ["88f 1 3cc 1 7f 1 df2 f 2 c 5d5 1 ad4 1 7c37 2 2 1 1 1 1c 1 53d1 10 1bd 2 36 7 b71 1a 56b 3 8 9",
   "21 2 c64 8 248 2c 4 a 50b6 19 2 19 11e 5 1801 8 509 16 61 73 3f07 3 1bd 17 f 11 17cf 1f 1 16 8",
   "2 fd8 1 9e 4 155 9 17b 4 32 1 3 1 39 1 4 1 1c 1 4 1 10a 1 bb3f 6 1762 c 5502 10ca"]

/-- The code points with the property Alphabetic that version 17.0 adds. -/
def addedAlphabeticSet : CharSet := .ofLines
  ["88f 1 3cc 1 7f 1 9af1 2 2 1 1 1 1c 1 614e 1a 56b 3 32 2 c64 8 248 2c 50c4 19 2 19 11e 5 1801 8",
   "509 16 61 73 58cd 1f 1 16 8 2 d03a 6 1762 c 5502 10ca"]

/-- The numbers that version 17.0 adds. -/
def addedNumberSet : CharSet := .ofLines
  ["11de0 a 520a 3"]

/-- The code points with the property Grapheme Extend that version 17.0 adds. -/
def addedGraphemeExtendSet : CharSet := .ofLines
  ["1acf f 2 c f40e 2 c64 1 1 3 1 1 cb7c 1 2 1 7 2 5 1"]

/-- Whether a character is alphabetic. -/
def isAlphabetic (c : Char) : Bool :=
  alphabeticSet.contains c.toNat || addedAlphabeticSet.contains c.toNat

/-- Whether a character is a number of any kind. -/
def isNumber (c : Char) : Bool :=
  categoryIn "N" (category c) || addedNumberSet.contains c.toNat

/-- The categories of what has no glyph: controls, formats, code points without a character, and
separators. -/
def blankCategories : List String := ["Cc", "Cf", "Cs", "Co", "Cn", "Zl", "Zp", "Zs"]

/-- Whether a character has a glyph. -/
def hasGlyph (c : Char) : Bool :=
  !blankCategories.contains (category c) || addedSet.contains c.toNat

/-- Whether a character extends the one before it: it belongs to the same grapheme cluster and takes
no place of its own.  The two marks of halfwidth Katakana do take one. -/
def isExtending (c : Char) : Bool :=
  (graphemeExtendSet.contains c.toNat || addedGraphemeExtendSet.contains c.toNat) &&
    category c != "Lm"

/-- Whether a character may be passed over where it cannot be shown. -/
def isIgnorable (c : Char) : Bool := defaultIgnorableCodePointSet.contains c.toNat

end JsonPath.Unicode
