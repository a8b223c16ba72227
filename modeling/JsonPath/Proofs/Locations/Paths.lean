import JsonPath.Json.Containers
import JsonPath.Proofs.Reordering.Documents
import Mathlib.Data.List.Nodup

/-!
# Where a value stands in a document

A path leads from a value to one below it, by the names of members and the places of elements
(`Json.at?`).  A located value is a value with the path that leads to it (`Located`); it is what
tells two equal values of a document apart.

The children of a value and the steps to them are listed together (`Json.branches`), so that arrays
and objects need not be told apart again.  Where names are unique the steps are all different, and
each leads to its child (`Json.mem_branches_iff`).
-/

namespace JsonPath

/-- A step from a container to one of its children. -/
inductive Step where
  | member (name : String)
  | element (index : Nat)
  deriving DecidableEq

/-- The steps that lead from a value to one below it. -/
abbrev Path := List Step

namespace Json

/-- The child that a step leads to. -/
def child? (x : Json) : Step → Option Json
  | .member name => x.member? name
  | .element index =>
    match x with
    | .array elements => elements[index]?
    | _ => none

/-- The value that a path leads to. -/
def at? (x : Json) : Path → Option Json
  | [] => some x
  | step :: rest => (x.child? step).bind fun child => child.at? rest

/-- The steps from a value to its children, each with the child that it leads to, in the order of
the children. -/
def branches : Json → List (Step × Json)
  | .array elements => elements.mapIdx fun index child => (.element index, child)
  | .object members => members.map fun (name, child) => (.member name, child)
  | _ => []

/-- The steps from a value to its children, in the order of the children. -/
def steps (x : Json) : List Step := x.branches.map Prod.fst

lemma map_snd_branches (x : Json) : x.branches.map Prod.snd = x.children := by
  cases x with
  | array elements =>
    exact List.ext_getElem (by simp [branches, children]) (by simp [branches, children])
  | object members => simp [branches, children, Function.comp_def]
  | _ => rfl

lemma at?_append (x : Json) (p q : Path) :
    x.at? (p ++ q) = (x.at? p).bind fun y => y.at? q := by
  induction p generalizing x with
  | nil => rfl
  | cons step rest ih =>
    rw [List.cons_append, at?, at?, Option.bind_assoc]
    exact congrArg _ (funext ih)

/-! ## Unique names -/

section Unique

variable {x : Json}

/-- A step leads to a child if and only if it is listed with it. -/
theorem mem_branches_iff (h : x.HasUniqueNames) (step : Step) (child : Json) :
    (step, child) ∈ x.branches ↔ x.child? step = some child := by
  cases x with
  | array elements =>
    cases step with
    | member name => simp [branches, child?, member?, List.mem_mapIdx]
    | element index => simp [branches, child?, List.mem_mapIdx, List.getElem?_eq_some_iff]
  | object members =>
    cases step with
    | member name =>
      simp [branches, child?, member?, lookup_eq_some_iff (hasUniqueNames_object_iff.mp h).1]
    | element index => simp [branches, child?]
  | _ => cases step <;> simp [branches, child?, member?]

lemma nodup_steps (h : x.HasUniqueNames) : x.steps.Nodup := by
  cases x with
  | array elements =>
    have hsteps : (array elements).steps = (List.range elements.length).map .element :=
      List.ext_getElem (by simp [steps, branches]) (by simp [steps, branches])
    rw [hsteps]
    exact List.Nodup.map (fun _ _ => Step.element.inj) List.nodup_range
  | object members =>
    have hsteps : (object members).steps = (members.map Prod.fst).map .member := by
      simp [steps, branches, Function.comp_def]
    rw [hsteps]
    exact List.Nodup.map (fun _ _ => Step.member.inj) (hasUniqueNames_object_iff.mp h).1
  | _ => exact List.nodup_nil

lemma mem_children_of_child? (h : x.HasUniqueNames) {step : Step} {child : Json}
    (hchild : x.child? step = some child) : child ∈ x.children := by
  rw [← map_snd_branches]
  exact List.mem_map_of_mem ((mem_branches_iff h step child).mpr hchild)

lemma HasUniqueNames.of_child? (h : x.HasUniqueNames) {step : Step} {child : Json}
    (hchild : x.child? step = some child) : child.HasUniqueNames :=
  h.of_mem_children (mem_children_of_child? h hchild)

lemma HasUniqueNames.of_at? (h : x.HasUniqueNames) {path : Path} {y : Json}
    (hy : x.at? path = some y) : y.HasUniqueNames := by
  induction path generalizing x with
  | nil => exact Option.some.inj hy ▸ h
  | cons step rest ih =>
    obtain ⟨child, hchild, hy⟩ := Option.bind_eq_some_iff.mp hy
    exact ih (h.of_child? hchild) hy

end Unique

end Json

/-! ## Located values -/

/-- A value, and the path that leads to it. -/
structure Located where
  path : Path
  value : Json

namespace Located

/-- The child that a step leads to. -/
def child? (n : Located) (step : Step) : Option Located :=
  (n.value.child? step).map fun child => ⟨n.path ++ [step], child⟩

/-- The children, in order. -/
def children (n : Located) : List Located :=
  n.value.branches.map fun (step, child) => ⟨n.path ++ [step], child⟩

lemma map_value_children (n : Located) :
    n.children.map Located.value = n.value.children := by
  rw [← Json.map_snd_branches, children, List.map_map]
  rfl

lemma map_path_children (n : Located) :
    n.children.map Located.path = n.value.steps.map fun step => n.path ++ [step] := by
  rw [children, Json.steps, List.map_map, List.map_map]
  rfl

lemma value_mem_children {n m : Located} (h : m ∈ n.children) : m.value ∈ n.value.children := by
  rw [← map_value_children]
  exact List.mem_map_of_mem h

lemma mem_children_iff {n m : Located} (h : n.value.HasUniqueNames) :
    m ∈ n.children ↔
      ∃ step child, n.value.child? step = some child ∧ m = ⟨n.path ++ [step], child⟩ := by
  simp only [children, List.mem_map, Prod.exists, Json.mem_branches_iff h, eq_comm]

/-- What passes from the children of a located value to it holds of all located values. -/
@[elab_as_elim]
lemma induction {P : Located → Prop} (step : ∀ n : Located, (∀ m ∈ n.children, P m) → P n)
    (n : Located) : P n := by
  obtain ⟨path, value⟩ := n
  induction value using Json.induction generalizing path with
  | step value ih => exact step _ fun m hm => ih m.value (value_mem_children hm) m.path

/-- The located value if it is a container, and every container below it, each before those in
it. -/
def containers (n : Located) : List Located :=
  (if n.value.isContainer then [n] else []) ++
    n.children.attach.flatMap fun m => m.1.containers
termination_by n.value.count
decreasing_by exact Json.count_lt_of_mem_children (value_mem_children m.2)

theorem containers_eq (n : Located) :
    n.containers =
      (if n.value.isContainer then [n] else []) ++ n.children.flatMap containers := by
  rw [containers, List.flatMap_subtype fun _ _ => rfl, List.unattach_attach]

/-- The walk over the values visits them where the located containers stand. -/
lemma map_value_containers (n : Located) :
    n.containers.map Located.value = n.value.containers := by
  rw [Json.containers_eq]
  induction n using Located.induction with
  | step n ih =>
    have hown : (if n.value.isContainer then [n] else []).map Located.value =
        if n.value.isContainer then [n.value] else [] := by
      split <;> rfl
    rw [containers_eq, Json.containersRec_eq, List.map_append, hown, List.map_flatMap,
      List.flatMap_congr ih, ← map_value_children, List.flatMap_map]

end Located

end JsonPath
