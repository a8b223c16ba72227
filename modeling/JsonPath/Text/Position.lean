/-!
# Positions in a text

A position is a number of bytes from the start of the text, in UTF-8.  For readers it is turned
into a line and a column, which counts characters; both start at one.
-/

namespace JsonPath.Text

/-- The number of bytes of characters in UTF-8. -/
def byteLength : List Char → Nat
  | [] => 0
  | c :: cs => c.utf8Size + byteLength cs

/-- The characters before a position, if it stands between two characters or at an end. -/
def before? : Nat → List Char → Option (List Char)
  | 0, _ => some []
  | _ + 1, [] => none
  | offset + 1, c :: cs =>
    if c.utf8Size ≤ offset + 1 then (before? (offset + 1 - c.utf8Size) cs).map (c :: ·) else none
termination_by structural _ cs => cs

/-- The line on which characters end: one more than the line feeds among them. -/
def endLine (s : List Char) : Nat := s.count '\n' + 1

/-- The column in which characters end: one more than the characters since the last line feed. -/
def endColumn (s : List Char) : Nat := (s.reverse.takeWhile (· != '\n')).length + 1

/-- The lines of a text without their ends, which are a line feed or a carriage return with a line
feed.  An end at the very end of the text opens no further line. -/
def lines : List Char → List (List Char)
  | [] => []
  | '\r' :: '\n' :: rest => [] :: lines rest
  | '\n' :: rest => [] :: lines rest
  | c :: rest =>
    match lines rest with
    | [] => [[c]]
    | first :: others => (c :: first) :: others

/-- The characters before the last occurrence of `word`. -/
def beforeLast? (word : List Char) : List Char → Option (List Char)
  | [] => none
  | c :: cs =>
    match beforeLast? word cs with
    | some found => some (c :: found)
    | none => if word.isPrefixOf (c :: cs) then some [] else none

/-- What follows each line feed of a text. -/
def afterFeeds : List Char → List (List Char)
  | [] => []
  | c :: rest => if c = '\n' then rest :: afterFeeds rest else afterFeeds rest

/-- The text from each of its lines on, the whole text first. -/
def fromLineStarts (s : List Char) : List (List Char) := s :: afterFeeds s

end JsonPath.Text
