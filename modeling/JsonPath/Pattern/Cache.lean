import JsonPath.Pattern.Matching
import JsonPath.Pattern.Parser

/-!
# A cache of patterns

A cache keeps what it has read from texts, up to its capacity.  Once it is full, further texts are
still read but what they hold is not kept.  It knows nothing of what is read: a cache of patterns is
one that reads by `Pattern.parse`.
-/

namespace JsonPath

/-- What texts hold, in the order in which it was kept. -/
structure TextCache (α : Type) where
  capacity : Nat
  entries : List (String × α)

namespace TextCache

variable {α ε : Type}

/-- A cache that holds nothing. -/
def empty (capacity : Nat) : TextCache α := ⟨capacity, []⟩

/-- The number of texts whose contents are kept. -/
def size (c : TextCache α) : Nat := c.entries.length

/-- What is kept for a text. -/
def find? (c : TextCache α) (text : String) : Option α :=
  (c.entries.find? fun entry => entry.1 == text).map Prod.snd

/-- What a text holds and the cache after it: a text that is not kept is read by `read`, and kept if
there is room. -/
def get (read : String → Except ε α) (c : TextCache α) (text : String) :
    Except ε α × TextCache α :=
  match c.find? text with
  | some x => (.ok x, c)
  | none =>
    match read text with
    | .error e => (.error e, c)
    | .ok x =>
      (.ok x, if c.size < c.capacity then { c with entries := c.entries ++ [(text, x)] } else c)

end TextCache

/-- Patterns by their texts. -/
abbrev PatternCache := TextCache Pattern

namespace PatternCache

/-- The capacity of a cache for which none is given. -/
def defaultCapacity : Nat := 64

/-- A cache without patterns. -/
def empty (capacity : Nat) : PatternCache := TextCache.empty capacity

/-- The pattern of a text and the cache after it. -/
def get (c : PatternCache) (text : String) : Except PatternError Pattern × PatternCache :=
  TextCache.get Pattern.parse c text

end PatternCache

end JsonPath
