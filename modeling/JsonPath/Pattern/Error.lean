/-!
# Errors of patterns

Errors are told apart by their kinds.  How they are worded is left to those who show them: nothing
here depends on it.
-/

namespace JsonPath

/-- Why a text is no pattern. -/
inductive PatternError where
  | classEscape
  | classRange
  | classRangeEnds
  | classUnclosed
  | decimalMissing
  | decimalTooLarge
  | escapeUnfinished
  | escapeUnknown
  | hexDigit
  | hexMissing
  | hexNoCharacter
  | flagsDangling
  | flagRepeated
  | flagsUnfinished
  | flagUnknown
  | groupNameInvalid
  | groupNameMissing
  | groupNameRepeated
  | groupNameUnfinished
  | groupUnclosed
  | groupUnopened
  | repetitionCounts
  | repetitionUnclosed
  | repetitionOfNothing
  | boundaryUnclosed
  | boundaryUnknown
  | propertyLetter
  | propertyUnknown
  | backReference
  | lookAround
  | unicodeOff
  | bytesOnly
  | tooDeep
  | tooLarge
  deriving DecidableEq

/-- The short name of an error.  A report of an error carries this name and no words about it. -/
def PatternError.kind : PatternError → String
  | .classEscape => "class_escape"
  | .classRange => "class_range"
  | .classRangeEnds => "class_range_ends"
  | .classUnclosed => "class_unclosed"
  | .decimalMissing => "decimal_missing"
  | .decimalTooLarge => "decimal_too_large"
  | .escapeUnfinished => "escape_unfinished"
  | .escapeUnknown => "escape_unknown"
  | .hexDigit => "hex_digit"
  | .hexMissing => "hex_missing"
  | .hexNoCharacter => "hex_no_character"
  | .flagsDangling => "flags_dangling"
  | .flagRepeated => "flag_repeated"
  | .flagsUnfinished => "flags_unfinished"
  | .flagUnknown => "flag_unknown"
  | .groupNameInvalid => "group_name_invalid"
  | .groupNameMissing => "group_name_missing"
  | .groupNameRepeated => "group_name_repeated"
  | .groupNameUnfinished => "group_name_unfinished"
  | .groupUnclosed => "group_unclosed"
  | .groupUnopened => "group_unopened"
  | .repetitionCounts => "repetition_counts"
  | .repetitionUnclosed => "repetition_unclosed"
  | .repetitionOfNothing => "repetition_of_nothing"
  | .boundaryUnclosed => "boundary_unclosed"
  | .boundaryUnknown => "boundary_unknown"
  | .propertyLetter => "property_letter"
  | .propertyUnknown => "property_unknown"
  | .backReference => "back_reference"
  | .lookAround => "look_around"
  | .unicodeOff => "unicode_off"
  | .bytesOnly => "bytes_only"
  | .tooDeep => "too_deep"
  | .tooLarge => "too_large"

end JsonPath
