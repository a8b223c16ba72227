import JsonPath.Evaluation.Basic
import Mathlib.Tactic.Lemma

/-!
# Queries of one meaning

Two segments have one meaning if they select the same nodes with the same reports from every node,
and two expressions if they have the same result with the same reports everywhere.  Each
constructor keeps the meaning of its parts.  A union has the meaning of its selectors one after the
other, whether they stand in it by themselves or in unions of their own.
-/

namespace JsonPath.Registry

variable (r : Registry)

/-- The expressions have the same results and reports. -/
def EvaluatesAs (x e : Expr) : Prop := ∀ root current, r.eval root current x = r.eval root current e

/-- The segments select the same nodes with the same reports. -/
def SelectsAs (x s : Segment) : Prop := ∀ root node, r.select root node x = r.select root node s

/-- The selectors of a list together select the nodes of a segment, with the same reports. -/
def SelectsAllAs (xs : List Segment) (s : Segment) : Prop :=
  ∀ root node, r.selectAll root node xs = r.select root node s

/-- The segments one after the other select the same nodes with the same reports. -/
def RunsAs (xs ss : List Segment) : Prop := ∀ root nodes, r.run root nodes xs = r.run root nodes ss

/-- The arguments have the same results and reports, one by one. -/
def EvaluatesAllAs (xs es : List Expr) : Prop :=
  xs.length = es.length ∧ ∀ root current, r.evalAll root current xs = r.evalAll root current es

variable {r}

/-! ## Segments -/

lemma selectAll_eq (root node : Json) (ss : List Segment) :
    r.selectAll root node ss =
      ⟨ss.flatMap fun s => (r.select root node s).value,
        ss.flatMap fun s => (r.select root node s).diagnostics⟩ := by
  induction ss with
  | nil => rfl
  | cons s rest ih =>
    rw [selectAll, ih]
    show Reported.mk _ (_ ++ (_ ++ [])) = _
    rw [List.append_nil]
    rfl

lemma SelectsAs.selectsAllAs {x s : Segment} (h : r.SelectsAs x s) : r.SelectsAllAs [x] s := by
  intro root node
  rw [selectAll_eq, ← h root node]
  simp

lemma SelectsAllAs.selectsAs {x s : Segment} (h : r.SelectsAllAs [x] s) : r.SelectsAs x s := by
  intro root node
  rw [← h root node, selectAll_eq]
  simp

lemma selectsAllAs_single {s : Segment} {xs : List Segment} (h : r.SelectsAllAs xs s) :
    r.SelectsAllAs xs (.union [s]) := by
  intro root node
  rw [h root node, select, selectAll_eq]
  simp

lemma SelectsAllAs.append {xs ys ss : List Segment} {s : Segment} (hs : r.SelectsAllAs xs s)
    (hss : r.SelectsAllAs ys (.union ss)) : r.SelectsAllAs (xs ++ ys) (.union (s :: ss)) := by
  intro root node
  have hxs := hs root node
  have hys := hss root node
  rw [selectAll_eq] at hxs hys
  rw [select, selectAll_eq] at hys
  rw [select, selectAll_eq, selectAll_eq]
  simp only [Reported.mk.injEq] at hys
  simp only [List.flatMap_append, List.flatMap_cons, ← hxs, hys]

lemma SelectsAs.descendant {x s : Segment} (h : r.SelectsAs x s) :
    r.SelectsAs (.descendant x) (.descendant s) := by
  intro root node
  simp only [select, h root]

lemma EvaluatesAs.filter {x e : Expr} (h : r.EvaluatesAs x e) :
    r.SelectsAs (.filter x) (.filter e) := by
  intro root node
  simp only [select, h root]

lemma SelectsAs.runsAs_cons {x s : Segment} {xs ss : List Segment} (h : r.SelectsAs x s)
    (hrest : r.RunsAs xs ss) : r.RunsAs (x :: xs) (s :: ss) := by
  intro root nodes
  simp only [run, h root, hrest root]

/-! ## Expressions -/

lemma RunsAs.query {xs ss : List Segment} (h : r.RunsAs xs ss) (anchor : Anchor) :
    r.EvaluatesAs (.query anchor xs) (.query anchor ss) := by
  intro root current
  simp only [eval, h root]

section Operators

variable {x y e l : Expr}

lemma EvaluatesAs.not (h : r.EvaluatesAs x e) : r.EvaluatesAs (.not x) (.not e) := by
  intro root current
  simp only [eval, h root]

lemma EvaluatesAs.and (hl : r.EvaluatesAs x l) (hr : r.EvaluatesAs y e) :
    r.EvaluatesAs (.and x y) (.and l e) := by
  intro root current
  simp only [eval, hl root, hr root]

lemma EvaluatesAs.or (hl : r.EvaluatesAs x l) (hr : r.EvaluatesAs y e) :
    r.EvaluatesAs (.or x y) (.or l e) := by
  intro root current
  simp only [eval, hl root, hr root]

lemma EvaluatesAs.compare (op : Comparison) (hl : r.EvaluatesAs x l) (hr : r.EvaluatesAs y e) :
    r.EvaluatesAs (.compare op x y) (.compare op l e) := by
  intro root current
  simp only [eval, hl root, hr root]

end Operators

lemma EvaluatesAs.evaluatesAllAs_cons {x e : Expr} {xs es : List Expr} (h : r.EvaluatesAs x e)
    (hrest : r.EvaluatesAllAs xs es) : r.EvaluatesAllAs (x :: xs) (e :: es) := by
  refine ⟨by rw [List.length_cons, List.length_cons, hrest.1], fun root current => ?_⟩
  simp only [evalAll, h root, hrest.2 root]

lemma EvaluatesAllAs.call {xs es : List Expr} (h : r.EvaluatesAllAs xs es) (function : String) :
    r.EvaluatesAs (.call function xs) (.call function es) := by
  intro root current
  simp only [eval, h.1, h.2 root]

end JsonPath.Registry
