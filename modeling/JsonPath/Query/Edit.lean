import JsonPath.Query.Basic

/-!
# Changing queries
-/

namespace JsonPath.Query

/-- The query with further segments at its end. -/
def append (q : Query) (segments : List Segment) : Query :=
  { q with segments := q.segments ++ segments }

/-- The query with its first `count` segments only. -/
def truncate (q : Query) (count : Nat) : Query := { q with segments := q.segments.take count }

/-- The query with its segments in the opposite order. -/
def reverse (q : Query) : Query := { q with segments := q.segments.reverse }

/-- The query with another anchor. -/
def withAnchor (q : Query) (anchor : Anchor) : Query := { q with anchor }

/-- A filter of one comparison, with another operator. -/
def withComparisonIn? (op : Comparison) : Segment → Option Segment
  | .filter (.compare _ left right) => some (.filter (.compare op left right))
  | _ => none

/-- The query with another operator in the filter at a place, if there is a filter of one
comparison. -/
def withComparison? (q : Query) (place : Nat) (op : Comparison) : Option Query := do
  let s ← q.segments[place]?
  let s ← withComparisonIn? op s
  return { q with segments := q.segments.set place s }

end JsonPath.Query
