import JsonPath.Json.Basic

/-!
# The containers of a value

A descendant segment visits a value and all containers below it, each before those that it holds
and in the order of the document.  `Json.containersRec` says so by recursion on the value.

`Json.containers` walks the value with a stack of values still to visit, so that the depth of a
document does not bound the walk.  The next value is taken from the end of the stack, and its
children go there in reverse order, the first one last.  What has been visited, followed by what the
recursion gives for the stack, is the same before and after each step (`Walk.order_visit`); so both
give the same list (`Json.containers_eq`), after as many steps as there are values
(`Walk.after_count`).
-/

namespace JsonPath

namespace Json

/-! ## By recursion -/

mutual

/-- The value if it is a container, and then the containers of its children in order. -/
def containersRec : Json → List Json
  | .array elements => .array elements :: containersOfElements elements
  | .object members => .object members :: containersOfMembers members
  | _ => []

/-- The containers of the elements of an array. -/
def containersOfElements : List Json → List Json
  | [] => []
  | x :: xs => containersRec x ++ containersOfElements xs

/-- The containers of the members of an object. -/
def containersOfMembers : List (String × Json) → List Json
  | [] => []
  | (_, x) :: ms => containersRec x ++ containersOfMembers ms

end

theorem containersOfElements_eq (elements : List Json) :
    containersOfElements elements = elements.flatMap containersRec := by
  induction elements with
  | nil => rfl
  | cons x xs ih => rw [containersOfElements, ih, List.flatMap_cons]

theorem containersOfMembers_eq (members : List (String × Json)) :
    containersOfMembers members = (members.map Prod.snd).flatMap containersRec := by
  induction members with
  | nil => rfl
  | cons m ms ih => rw [containersOfMembers, ih, List.map_cons, List.flatMap_cons]

theorem containersRec_eq (value : Json) :
    containersRec value =
      (if value.isContainer then [value] else []) ++ value.children.flatMap containersRec := by
  cases value with
  | array elements =>
    rw [containersRec, containersOfElements_eq]
    rfl
  | object members =>
    rw [containersRec, containersOfMembers_eq]
    rfl
  | _ => rfl

mutual

/-- The number of values in a value, itself included. -/
def count : Json → Nat
  | .array elements => countOfElements elements + 1
  | .object members => countOfMembers members + 1
  | _ => 1

/-- The number of values in several values. -/
def countOfElements : List Json → Nat
  | [] => 0
  | x :: xs => count x + countOfElements xs

/-- The number of values in the members of an object. -/
def countOfMembers : List (String × Json) → Nat
  | [] => 0
  | (_, x) :: ms => count x + countOfMembers ms

end

theorem countOfMembers_eq (members : List (String × Json)) :
    countOfMembers members = countOfElements (members.map Prod.snd) := by
  induction members with
  | nil => rfl
  | cons m ms ih => rw [countOfMembers, ih, List.map_cons, countOfElements]

theorem count_eq (value : Json) : value.count = countOfElements value.children + 1 := by
  cases value with
  | array elements => rw [count, children]
  | object members => rw [count, countOfMembers_eq, children]
  | _ => rfl

theorem countOfElements_append (xs ys : List Json) :
    countOfElements (xs ++ ys) = countOfElements xs + countOfElements ys := by
  induction xs with
  | nil => rw [List.nil_append, countOfElements, Nat.zero_add]
  | cons x xs ih => rw [List.cons_append, countOfElements, countOfElements, ih, Nat.add_assoc]

theorem countOfElements_reverse (xs : List Json) :
    countOfElements xs.reverse = countOfElements xs := by
  induction xs with
  | nil => rfl
  | cons x xs ih =>
    rw [List.reverse_cons, countOfElements_append, ih]
    simp only [countOfElements]
    omega

theorem count_lt_of_mem_children {x y : Json} (h : y ∈ x.children) : y.count < x.count := by
  obtain ⟨before, behind, hchildren⟩ := List.append_of_mem h
  rw [count_eq x, hchildren, countOfElements_append, countOfElements]
  omega

theorem children_of_not_isContainer {value : Json} (h : ¬ value.isContainer) :
    value.children = [] := by
  cases value <;> first | rfl | exact absurd rfl h

end Json

/-! ## With a stack -/

/-- A walk in progress: the containers met so far, and the values still to visit, the next one
last. -/
structure Walk where
  visited : Array Json
  pending : Array Json

namespace Walk

/-- The walk that starts at a value. -/
def start (value : Json) : Walk := ⟨#[], #[value]⟩

/-- Takes the next value, which is `value`, off the stack.  A container has been met, and its
children come next, the first of them first. -/
def visit (w : Walk) (value : Json) : Walk :=
  let rest := w.pending.pop
  if value.isContainer then ⟨w.visited.push value, rest ++ value.children.reverse⟩
  else ⟨w.visited, rest⟩

/-- One step of the walk, unless nothing is left to visit. -/
def step? (w : Walk) : Option Walk := w.pending.back?.map w.visit

/-- The number of values that are left to visit. -/
def count (w : Walk) : Nat := Json.countOfElements w.pending.toList

/-- The containers met so far, and those that the recursion finds in what is left to visit. -/
def order (w : Walk) : List Json :=
  w.visited.toList ++ w.pending.toList.reverse.flatMap Json.containersRec

section Step

variable {w : Walk} {value : Json}

theorem count_visit (h : w.pending.back? = some value) : (w.visit value).count + 1 = w.count := by
  obtain ⟨rest, hrest⟩ := Array.back?_eq_some_iff.mp h
  have hvalue := value.count_eq
  have hpush : Json.countOfElements (rest.push value).toList =
      Json.countOfElements rest.toList + value.count := by
    rw [Array.toList_push, Json.countOfElements_append]
    rfl
  unfold visit count
  rw [hrest, hpush, Array.pop_push]
  split
  · rw [Array.toList_appendList, Json.countOfElements_append, Json.countOfElements_reverse]
    omega
  · next hscalar =>
    rw [Json.children_of_not_isContainer hscalar] at hvalue
    rw [hvalue]
    rfl

/-- What the recursion gives for the next value is this value, if it is a container, and what it
gives for the children, which take its place on the stack. -/
theorem order_visit (h : w.pending.back? = some value) : (w.visit value).order = w.order := by
  obtain ⟨rest, hrest⟩ := Array.back?_eq_some_iff.mp h
  have hvalue := value.containersRec_eq
  unfold visit order
  rw [hrest]
  split
  · next hcontainer =>
    rw [if_pos hcontainer] at hvalue
    simp [hvalue]
  · next hscalar =>
    rw [if_neg hscalar, Json.children_of_not_isContainer hscalar] at hvalue
    simp [hvalue]

end Step

/-- Walks on until nothing is left to visit, and returns the containers met. -/
def run (w : Walk) : Array Json :=
  match _h : w.pending.back? with
  | none => w.visited
  | some value => (w.visit value).run
termination_by w.count
decreasing_by exact Nat.lt_of_succ_le (Nat.le_of_eq (count_visit ‹_›))

/-- The walk after a number of steps, if it has as many. -/
def after (w : Walk) : Nat → Option Walk
  | 0 => some w
  | n + 1 => w.step?.bind fun next => next.after n

theorem toList_run (w : Walk) : w.run.toList = w.order := by
  fun_induction run w with
  | case1 w h => simp [order, Array.back?_eq_none_iff.mp h]
  | case2 w value h ih => rw [ih, order_visit h]

/-- The walk is over after as many steps as there were values to visit. -/
theorem after_count (w : Walk) : w.after w.count = some ⟨w.order.toArray, #[]⟩ := by
  induction w using run.induct with
  | case1 w h =>
    obtain ⟨visited, pending⟩ := w
    obtain rfl : pending = #[] := Array.back?_eq_none_iff.mp h
    simp [count, order, after, Json.countOfElements]
  | case2 w value h ih =>
    rw [← count_visit h, after, step?, h, ← order_visit h]
    exact ih

end Walk

namespace Json

/-- The value if it is a container, and every container below it, each before those in it. -/
def containers (value : Json) : List Json := (Walk.start value).run.toList

theorem containers_eq (value : Json) : containers value = containersRec value := by
  rw [containers, Walk.toList_run]
  simp [Walk.order, Walk.start]

end Json

end JsonPath
