import JsonPath.Evaluation.Basic
import Mathlib.Data.List.Perm.Basic
import Mathlib.Data.Set.Basic

/-!
# Filters as sets of positions

A filter keeps children of a node, and what it keeps is a set of their positions
(`Registry.keptPlaces`).  The operators `&&`, `||` and `!` are intersection, union and complement of
these sets, whatever the types of their operands: a result of any type is read as a test first.

Both operands are evaluated for every child, even where the first one decides.  So a filter reports
what its operands report, in another order only because the children take turns, and in the end what
the tests that stand under its operators report (`Registry.perm_diagnostics_filter_tests`).
-/

namespace JsonPath

/-- What a filter keeps of a list, by position: the positions ascend, and they are those of the
members that pass the test. -/
lemma exists_places_of_filter {α : Type} (p : α → Bool) (xs : List α) :
    ∃ places : List ℕ, places.Pairwise (· < ·) ∧
      (∀ i, i ∈ places ↔ ∃ x, xs[i]? = some x ∧ p x) ∧
      xs.filter p = places.filterMap (xs[·]?) := by
  refine ⟨(xs.zipIdx.filter fun x => p x.1).map Prod.snd, ?_, fun i => ?_, ?_⟩
  · have hsub := (List.filter_sublist (p := fun x => p x.1) (l := xs.zipIdx)).map Prod.snd
    rw [List.zipIdx_map_snd] at hsub
    exact .sublist hsub List.pairwise_lt_range'
  · simp [List.mem_zipIdx_iff_getElem?]
  · have hplace : ∀ x ∈ xs.zipIdx.filter fun x => p x.1, xs[x.2]? = some x.1 := fun x hx =>
      List.mem_zipIdx_iff_getElem?.1 (List.mem_of_mem_filter hx)
    calc xs.filter p
      _ = (xs.zipIdx.map Prod.fst).filter p := by rw [List.zipIdx_map_fst]
      _ = (xs.zipIdx.filter fun x => p x.1).map Prod.fst := List.filter_map ..
      _ = (xs.zipIdx.filter fun x => p x.1).filterMap fun x => xs[x.2]? := by
        rw [List.filterMap_congr hplace, List.filterMap_eq_map']
      _ = _ := (List.filterMap_map ..).symm

namespace Registry

variable (r : Registry) (root node : Json)

/-- The positions of the children that a filter keeps. -/
def keptPlaces (test : Expr) : Set ℕ :=
  {i | ∃ child ∈ (r.select root node (.filter test)).value, node.children[i]? = some child}

section Kept

variable {r root node} {i : ℕ} {test : Expr}

lemma select_filter : r.select root node (.filter test) =
    Reported.filter (fun child => (·.toLogical) <$> r.eval root [child] test) node.children := rfl

lemma value_select_filter : (r.select root node (.filter test)).value =
    node.children.filter fun child => (r.eval root [child] test).value.toLogical := by
  simp only [select_filter, Reported.value_filter, Reported.value_map]

/-- A filter keeps a position if and only if the test holds of the child there. -/
lemma mem_keptPlaces_iff : i ∈ r.keptPlaces root node test ↔
    ∃ child, node.children[i]? = some child ∧ (r.eval root [child] test).value.toLogical := by
  simp only [keptPlaces, value_select_filter, List.mem_filter, Set.mem_ofPred_eq]
  constructor
  · rintro ⟨child, ⟨-, htest⟩, hchild⟩
    exact ⟨child, hchild, htest⟩
  · rintro ⟨child, hchild, htest⟩
    exact ⟨child, ⟨List.mem_of_getElem? hchild, htest⟩, hchild⟩

variable (r root node) in
/-- The kept children, in the order of the children. -/
lemma exists_places_of_select (test : Expr) :
    ∃ places : List ℕ, places.Pairwise (· < ·) ∧
      (∀ i, i ∈ places ↔ i ∈ r.keptPlaces root node test) ∧
      (r.select root node (.filter test)).value = places.filterMap (node.children[·]?) := by
  obtain ⟨places, hascending, hplaces, hkept⟩ := exists_places_of_filter
    (fun child => (r.eval root [child] test).value.toLogical) node.children
  refine ⟨places, hascending, fun i => ?_, ?_⟩
  · rw [hplaces, mem_keptPlaces_iff]
  · rw [value_select_filter, hkept]

lemma diagnostics_select_filter : (r.select root node (.filter test)).diagnostics =
    node.children.flatMap fun child => (r.eval root [child] test).diagnostics := by
  simp only [select_filter, Reported.diagnostics_filter, Reported.diagnostics_map]

end Kept

/-! ## The operators -/

section Operators

variable (a b : Expr) (current : NodeList)

/-- Both operands are evaluated, whatever the first one gives. -/
lemma eval_and : r.eval root current (.and a b) = do
    let left ← r.eval root current a
    let right ← r.eval root current b
    return .logical (left.toLogical && right.toLogical) := rfl

lemma eval_or : r.eval root current (.or a b) = do
    let left ← r.eval root current a
    let right ← r.eval root current b
    return .logical (left.toLogical || right.toLogical) := rfl

lemma eval_not : r.eval root current (.not a) = do
    let result ← r.eval root current a
    return .logical (!result.toLogical) := rfl

lemma diagnostics_eval_and : (r.eval root current (.and a b)).diagnostics =
    (r.eval root current a).diagnostics ++ (r.eval root current b).diagnostics := by
  simp [eval_and]

lemma diagnostics_eval_or : (r.eval root current (.or a b)).diagnostics =
    (r.eval root current a).diagnostics ++ (r.eval root current b).diagnostics := by
  simp [eval_or]

lemma diagnostics_eval_not : (r.eval root current (.not a)).diagnostics =
    (r.eval root current a).diagnostics := by
  simp [eval_not]

lemma keptPlaces_and :
    r.keptPlaces root node (.and a b) = r.keptPlaces root node a ∩ r.keptPlaces root node b := by
  ext i
  cases hchild : node.children[i]? with
  | none => simp [mem_keptPlaces_iff, hchild]
  | some child => simp [mem_keptPlaces_iff, hchild, eval_and, Typed.toLogical]

lemma keptPlaces_or :
    r.keptPlaces root node (.or a b) = r.keptPlaces root node a ∪ r.keptPlaces root node b := by
  ext i
  cases hchild : node.children[i]? with
  | none => simp [mem_keptPlaces_iff, hchild]
  | some child => simp [mem_keptPlaces_iff, hchild, eval_or, Typed.toLogical]

lemma keptPlaces_not : r.keptPlaces root node (.not a) =
    {i | i < node.children.length} \ r.keptPlaces root node a := by
  ext i
  cases hchild : node.children[i]? with
  | none =>
    have hlength : ¬ i < node.children.length := (List.getElem?_eq_none_iff.1 hchild).not_gt
    simp [mem_keptPlaces_iff, hlength]
  | some child =>
    have hlength : i < node.children.length := (List.getElem?_eq_some_iff.1 hchild).1
    simp [mem_keptPlaces_iff, hlength, eval_not, Typed.toLogical]

variable {r root node a b}

/-- For each child an operator reports what one operand reports and then what the other does, so
over all children what is reported of the two is interleaved. -/
lemma perm_diagnostics_filter {test : Expr}
    (h : ∀ child, (r.eval root [child] test).diagnostics =
      (r.eval root [child] a).diagnostics ++ (r.eval root [child] b).diagnostics) :
    (r.select root node (.filter test)).diagnostics.Perm
      ((r.select root node (.filter a)).diagnostics ++
        (r.select root node (.filter b)).diagnostics) := by
  simp only [diagnostics_select_filter, h]
  exact (List.flatMap_append_perm ..).symm

lemma diagnostics_filter_not : (r.select root node (.filter (.not a))).diagnostics =
    (r.select root node (.filter a)).diagnostics := by
  simp only [diagnostics_select_filter, diagnostics_eval_not]

end Operators

end Registry

/-! ## The tests under the operators -/

/-- The tests that stand under the operators of an expression, from left to right. -/
def Expr.tests : Expr → List Expr
  | .and left right => left.tests ++ right.tests
  | .or left right => left.tests ++ right.tests
  | .not e => e.tests
  | e => [e]

namespace Registry

variable (r : Registry) (root node : Json)

/-- A filter reports what filters by the tests under its operators report: none of them is passed
over, for whatever the others hold. -/
theorem perm_diagnostics_filter_tests (e : Expr) :
    (r.select root node (.filter e)).diagnostics.Perm
      (e.tests.flatMap fun test => (r.select root node (.filter test)).diagnostics) := by
  cases e with
  | and left right =>
    rw [Expr.tests, List.flatMap_append]
    refine (perm_diagnostics_filter fun child => ?_).trans
      ((perm_diagnostics_filter_tests left).append (perm_diagnostics_filter_tests right))
    exact diagnostics_eval_and r root left right [child]
  | or left right =>
    rw [Expr.tests, List.flatMap_append]
    refine (perm_diagnostics_filter fun child => ?_).trans
      ((perm_diagnostics_filter_tests left).append (perm_diagnostics_filter_tests right))
    exact diagnostics_eval_or r root left right [child]
  | not e =>
    rw [Expr.tests, diagnostics_filter_not]
    exact perm_diagnostics_filter_tests e
  | _ => simp [Expr.tests]

/-- Filters are set operations that leave out nothing.  What a filter keeps are the children at its
positions, in order; the operators combine the sets of positions, and what they report is what their
operands report. -/
theorem filter_operators_are_set_operations (a b : Expr) :
    (∀ test : Expr, ∃ places : List ℕ, places.Pairwise (· < ·) ∧
      (∀ i, i ∈ places ↔ i ∈ r.keptPlaces root node test) ∧
      (r.select root node (.filter test)).value = places.filterMap (node.children[·]?)) ∧
    r.keptPlaces root node (.and a b) =
      r.keptPlaces root node a ∩ r.keptPlaces root node b ∧
    r.keptPlaces root node (.or a b) =
      r.keptPlaces root node a ∪ r.keptPlaces root node b ∧
    r.keptPlaces root node (.not a) =
      {i | i < node.children.length} \ r.keptPlaces root node a ∧
    (r.select root node (.filter (.and a b))).diagnostics.Perm
      ((r.select root node (.filter a)).diagnostics ++
        (r.select root node (.filter b)).diagnostics) ∧
    (r.select root node (.filter (.or a b))).diagnostics.Perm
      ((r.select root node (.filter a)).diagnostics ++
        (r.select root node (.filter b)).diagnostics) ∧
    (r.select root node (.filter (.not a))).diagnostics =
      (r.select root node (.filter a)).diagnostics :=
  ⟨exists_places_of_select r root node, keptPlaces_and r root node a b,
    keptPlaces_or r root node a b, keptPlaces_not r root node a,
    perm_diagnostics_filter fun child => diagnostics_eval_and r root a b [child],
    perm_diagnostics_filter fun child => diagnostics_eval_or r root a b [child],
    diagnostics_filter_not⟩

end Registry

end JsonPath
