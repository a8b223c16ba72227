import JsonPath.Evaluation.Basic
import JsonPath.Proofs.Rereading.Streams

/-!
# What evaluation depends on

An evaluation starts from nodes.  What else it depends on is written in the query: the root of the
document, where a filter refers to it by `$`; the current nodes, where an expression refers to them
by `@` outside of its own filters; and of the registry only the functions that are called.

`Segment.isRootFree` and `Expr.isClosed` say that the first two are not referred to.  Two
evaluations with the same nodes, in settings that differ in nothing that is referred to
(`Registry.SameFor`), give the same results and report the same, in the same order.  This is one
induction over the syntax; what follows for concatenated queries, for the scope of `@` and for
registries is in the other modules of this directory.
-/

namespace JsonPath

/-! ## References to the root -/

mutual

/-- No filter of the segment refers to the root, in whatever depth. -/
def Segment.isRootFree : Segment → Bool
  | .union selectors => Segment.allRootFree selectors
  | .descendant selector => selector.isRootFree
  | .filter test => test.isRootFree
  | _ => true

/-- No filter of the segments refers to the root. -/
def Segment.allRootFree : List Segment → Bool
  | [] => true
  | s :: rest => s.isRootFree && Segment.allRootFree rest

/-- The expression has no query in it that starts at the root. -/
def Expr.isRootFree : Expr → Bool
  | .literal _ => true
  | .query anchor segments => anchor != .root && Segment.allRootFree segments
  | .not e => e.isRootFree
  | .and left right => left.isRootFree && right.isRootFree
  | .or left right => left.isRootFree && right.isRootFree
  | .compare _ left right => left.isRootFree && right.isRootFree
  | .call _ arguments => Expr.allRootFree arguments

/-- The arguments have no queries in them that start at the root. -/
def Expr.allRootFree : List Expr → Bool
  | [] => true
  | e :: rest => e.isRootFree && Expr.allRootFree rest

end

/-- No filter of the query refers to the root. -/
def Query.isRootFree (q : Query) : Bool := Segment.allRootFree q.segments

/-! ## References to the current nodes -/

mutual

/-- Each query in the expression that starts at the current node stands in a filter of some query
in the expression, which binds it to the node that this filter tests.  Only filters hold
expressions, so a query that starts at the root is closed whatever its segments are. -/
def Expr.isClosed : Expr → Bool
  | .literal _ => true
  | .query anchor _ => anchor != .current
  | .not e => e.isClosed
  | .and left right => left.isClosed && right.isClosed
  | .or left right => left.isClosed && right.isClosed
  | .compare _ left right => left.isClosed && right.isClosed
  | .call _ arguments => Expr.allClosed arguments

/-- The arguments are closed. -/
def Expr.allClosed : List Expr → Bool
  | [] => true
  | e :: rest => e.isClosed && Expr.allClosed rest

end

/-! ## Settings that cannot be told apart -/

namespace Registry

/-- The setting of an evaluation is a registry and a root.  Two settings differ in nothing that the
calls of `functions` see, nor, unless what is evaluated is free of the root, in the root. -/
structure SameFor (r r' : Registry) (root root' : Json) (functions : List String)
    (rootFree : Bool) : Prop where
  resolve : ∀ function ∈ functions, ∀ count, r.resolve function count = r'.resolve function count
  root : rootFree = false → root = root'

variable {r r' : Registry} {root root' : Json}

namespace SameFor

variable {fs gs : List String} {rootFree rootFree' : Bool}

/-- What is seen from a whole is seen from its parts. -/
lemma left (h : SameFor r r' root root' (fs ++ gs) (rootFree && rootFree')) :
    SameFor r r' root root' fs rootFree where
  resolve function hf := h.resolve function (List.mem_append_left gs hf)
  root hroot := h.root (by rw [hroot, Bool.false_and])

lemma right (h : SameFor r r' root root' (fs ++ gs) (rootFree && rootFree')) :
    SameFor r r' root root' gs rootFree' where
  resolve function hf := h.resolve function (List.mem_append_right fs hf)
  root hroot := h.root (by rw [hroot, Bool.and_false])

/-- The anchor of an embedded query stands for the same nodes. -/
lemma anchorNodes_eq {anchor : Anchor} {segments : List Segment} {current current' : NodeList}
    (h : SameFor r r' root root' fs (Expr.query anchor segments).isRootFree)
    (hcurrent : (Expr.query anchor segments).isClosed = true ∨ current = current') :
    anchorNodes root anchor current = anchorNodes root' anchor current' := by
  cases anchor with
  | root => rw [anchorNodes, anchorNodes, h.root rfl]
  | current =>
    obtain hclosed | hcurrent := hcurrent
    · cases hclosed
    · exact hcurrent

end SameFor

/-- Both parts of a closed expression are closed. -/
lemma closed_or_eq {closed closed' : Bool} {current current' : NodeList}
    (h : (closed && closed') = true ∨ current = current') :
    (closed = true ∨ current = current') ∧ (closed' = true ∨ current = current') := by
  rw [Bool.and_eq_true] at h
  exact ⟨h.imp_left And.left, h.imp_left And.right⟩

/-! ## The evaluations agree -/

mutual

lemma select_congr (s : Segment) (h : SameFor r r' root root' s.functions s.isRootFree)
    (node : Json) : r.select root node s = r'.select root' node s := by
  match s with
  | .key _ => rfl
  | .index _ => rfl
  | .slice _ _ _ => rfl
  | .wildcard => rfl
  | .union selectors => exact selectAll_congr selectors h node
  | .descendant selector =>
    have hselector := select_congr selector h
    simp only [select, hselector]
  | .filter test =>
    have htest : ∀ child, r.eval root [child] test = r'.eval root' [child] test :=
      fun child => eval_congr test h (.inr rfl)
    simp only [select, htest]

lemma selectAll_congr (ss : List Segment)
    (h : SameFor r r' root root' (Segment.allFunctions ss) (Segment.allRootFree ss))
    (node : Json) : r.selectAll root node ss = r'.selectAll root' node ss := by
  match ss with
  | [] => rfl
  | s :: rest =>
    rw [selectAll, selectAll, select_congr s h.left, selectAll_congr rest h.right]

theorem run_congr (ss : List Segment)
    (h : SameFor r r' root root' (Segment.allFunctions ss) (Segment.allRootFree ss))
    (nodes : NodeList) : r.run root nodes ss = r'.run root' nodes ss := by
  match ss with
  | [] => rfl
  | s :: rest =>
    have hs := select_congr s h.left
    have hrest := run_congr rest h.right
    simp only [run, hs, hrest]

/-- The current nodes may differ as well if the expression is closed. -/
theorem eval_congr (e : Expr) (h : SameFor r r' root root' e.functions e.isRootFree)
    {current current' : NodeList} (hcurrent : e.isClosed = true ∨ current = current') :
    r.eval root current e = r'.eval root' current' e := by
  match e with
  | .literal _ => rfl
  | .query anchor segments =>
    have hsegments : SameFor r r' root root' (Segment.allFunctions segments)
        (Segment.allRootFree segments) :=
      ⟨h.resolve, fun hroot => h.root (by rw [Expr.isRootFree, hroot, Bool.and_false])⟩
    rw [eval, eval, h.anchorNodes_eq hcurrent, run_congr segments hsegments]
  | .not e =>
    rw [eval, eval, eval_congr e h hcurrent]
  | .and left right =>
    obtain ⟨hleft, hright⟩ := closed_or_eq hcurrent
    rw [eval, eval, eval_congr left h.left hleft, eval_congr right h.right hright]
  | .or left right =>
    obtain ⟨hleft, hright⟩ := closed_or_eq hcurrent
    rw [eval, eval, eval_congr left h.left hleft, eval_congr right h.right hright]
  | .compare op left right =>
    obtain ⟨hleft, hright⟩ := closed_or_eq hcurrent
    rw [eval, eval, eval_congr left h.left hleft, eval_congr right h.right hright]
  | .call function arguments =>
    have harguments : SameFor r r' root root' (Expr.allFunctions arguments)
        (Expr.allRootFree arguments) :=
      ⟨fun f hf => h.resolve f (List.mem_cons_of_mem function hf), h.root⟩
    rw [eval, eval, h.resolve function List.mem_cons_self,
      evalAll_congr arguments harguments hcurrent]

lemma evalAll_congr (es : List Expr)
    (h : SameFor r r' root root' (Expr.allFunctions es) (Expr.allRootFree es))
    {current current' : NodeList} (hcurrent : Expr.allClosed es = true ∨ current = current') :
    r.evalAll root current es = r'.evalAll root' current' es := by
  match es with
  | [] => rfl
  | e :: rest =>
    obtain ⟨he, hrest⟩ := closed_or_eq hcurrent
    rw [evalAll, evalAll, eval_congr e h.left he, evalAll_congr rest h.right hrest]

end

/-! ## Closed tests -/

lemma value_run_filter (r : Registry) (root : Json) (nodes : NodeList) (test : Expr) :
    (r.run root nodes [.filter test]).value =
      nodes.flatMap fun node =>
        node.children.filter fun child => (r.eval root [child] test).value.toLogical := by
  simp only [run, select, Reported.value_bind, Reported.value_pure, Reported.value_concatMap,
    Reported.value_filter, Reported.value_map]

/-- A closed expression has the same result and the same reports whatever the current nodes are.
As a test it holds of all children or of none, so its filter keeps all children of the nodes that it
is applied to, or none of them, and which of the two does not depend on the nodes. -/
theorem eval_eq_of_isClosed (r : Registry) (root : Json) {e : Expr} (h : e.isClosed = true) :
    (∀ current current', r.eval root current e = r.eval root current' e) ∧
      ((∀ nodes, (r.run root nodes [.filter e]).value = NodeList.children nodes) ∨
        ∀ nodes, (r.run root nodes [.filter e]).value = []) := by
  have heval : ∀ current current', r.eval root current e = r.eval root current' e :=
    fun _ _ => eval_congr e ⟨fun _ _ _ => rfl, fun _ => rfl⟩ (.inl h)
  have hrun : ∀ nodes, (r.run root nodes [.filter e]).value =
      nodes.flatMap fun node =>
        node.children.filter fun _ => (r.eval root [] e).value.toLogical := by
    intro nodes
    simp only [value_run_filter, heval _ []]
  refine ⟨heval, ?_⟩
  cases hholds : (r.eval root [] e).value.toLogical with
  | true => exact .inl fun nodes => by simp [hrun, hholds, NodeList.children]
  | false => exact .inr fun nodes => by simp [hrun, hholds]

/-- The expression `count($[?@.a]) == 1 && !match($.p, '[')`, with a current node of its own. -/
def ownScope : Expr :=
  .and
    (.compare .eq (.call "count" [.query .root [.filter (.query .current [.key "a"])]])
      (.literal (.ofNat 1)))
    (.not (.call "match" [.query .root [.key "p"], .literal (.string "[")]))

/-- In one document the test holds of everything, in another one of nothing. -/
theorem eval_eq_of_isClosed_ownScope :
    let one : Json := .object [("x", .object [("a", .null)]), ("p", .string "t")]
    let two : Json := .object [("x", .object [("a", .null)]), ("y", .object [("a", .null)])]
    ownScope.isClosed = true ∧
      (∀ current, standard.eval one current ownScope = standard.eval one [] ownScope) ∧
      (∀ nodes, (standard.run one nodes [.filter ownScope]).value = NodeList.children nodes) ∧
      ∀ nodes, (standard.run two nodes [.filter ownScope]).value = [] := by
  intro one two
  have hclosed : ownScope.isClosed = true := by decide
  obtain ⟨hone, hall⟩ := eval_eq_of_isClosed standard one hclosed
  obtain ⟨-, hnone⟩ := eval_eq_of_isClosed standard two hclosed
  -- the one child of `[null]` tells which of the two it is
  have hkept : (standard.run one [.array [.null]] [.filter ownScope]).value.length = 1 := by
    decide +kernel
  have hdropped : (standard.run two [.array [.null]] [.filter ownScope]).value.length = 0 := by
    decide +kernel
  refine ⟨hclosed, fun current => hone current [], hall.resolve_right fun h => ?_,
    hnone.resolve_left fun h => ?_⟩
  · rw [h] at hkept
    cases hkept
  · rw [h] at hdropped
    cases hdropped

end Registry

end JsonPath
