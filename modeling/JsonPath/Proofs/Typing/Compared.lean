import JsonPath.Evaluation.Basic
import JsonPath.Proofs.Parser.Accepted

/-!
# What comparisons are handed

A comparison reads each operand as a scalar, and a list of several nodes is read as the absent one,
like a list of none.  For the queries that the parser returns this loses nothing
(`Query.compared_of_parse`): an embedded query that is compared has names and indexes only, so it
selects one node at most from one node (`Registry.length_run_le_one`), and `@` is one node in every
filter.

`Registry.comparisons` lists the comparisons that the evaluation of a query makes, each with the
nodes that are current where it is made.  It follows the evaluation call by call: filters test their
children one by one, segments go on from the nodes that those before them select, and a call that
cannot be made evaluates none of its arguments.
-/

namespace JsonPath

/-- A comparison that an evaluation makes: the current nodes and the two operands. -/
structure Compared where
  current : NodeList
  left : Expr
  right : Expr

namespace Registry

variable (r : Registry) (root : Json)

/-! ## The comparisons of an evaluation -/

mutual

/-- The comparisons that `Registry.select` makes. -/
def comparisonsOfSelect (node : Json) : Segment → List Compared
  | .union selectors => comparisonsOfSelectAll node selectors
  | .descendant selector =>
    node.containers.flatMap fun container => comparisonsOfSelect container selector
  | .filter test => node.children.flatMap fun child => comparisonsOfEval [child] test
  | _ => []

/-- The comparisons that `Registry.selectAll` makes. -/
def comparisonsOfSelectAll (node : Json) : List Segment → List Compared
  | [] => []
  | s :: rest => comparisonsOfSelect node s ++ comparisonsOfSelectAll node rest

/-- The comparisons that `Registry.run` makes. -/
def comparisonsOfRun (nodes : NodeList) : List Segment → List Compared
  | [] => []
  | s :: rest =>
    nodes.flatMap (fun node => comparisonsOfSelect node s) ++
      comparisonsOfRun (Reported.concatMap (fun node => r.select root node s) nodes).value rest

/-- The comparisons that `Registry.eval` makes. -/
def comparisonsOfEval (current : NodeList) : Expr → List Compared
  | .literal _ => []
  | .query anchor segments => comparisonsOfRun (anchorNodes root anchor current) segments
  | .not e => comparisonsOfEval current e
  | .and left right => comparisonsOfEval current left ++ comparisonsOfEval current right
  | .or left right => comparisonsOfEval current left ++ comparisonsOfEval current right
  | .compare _ left right =>
    comparisonsOfEval current left ++ comparisonsOfEval current right ++ [⟨current, left, right⟩]
  | .call function arguments =>
    match r.resolve function arguments.length with
    | .error _ => []
    | .ok _ => comparisonsOfEvalAll current arguments

/-- The comparisons that `Registry.evalAll` makes. -/
def comparisonsOfEvalAll (current : NodeList) : List Expr → List Compared
  | [] => []
  | e :: rest => comparisonsOfEval current e ++ comparisonsOfEvalAll current rest

end

/-- The comparisons that `Registry.apply` makes. -/
def comparisons (q : Query) (document : Json) : List Compared :=
  r.comparisonsOfRun document [document] q.segments

/-! ## Singular segments -/

variable {r root}

lemma length_select_le_one {s : Segment} (h : s.isSingular) (node : Json) :
    (r.select root node s).value.length ≤ 1 := by
  cases s with
  | key name => exact Option.length_toList_le
  | index i =>
    cases node with
    | array elements => exact Option.length_toList_le
    | _ => exact Nat.zero_le 1
  | _ => cases h

/-- From one node at most, names and indexes lead to one node at most. -/
theorem length_run_le_one {ss : List Segment} (h : Segment.allSingular ss) {nodes : NodeList}
    (hnodes : nodes.length ≤ 1) : (r.run root nodes ss).value.length ≤ 1 := by
  induction ss generalizing nodes with
  | nil => exact hnodes
  | cons s rest ih =>
    rw [Segment.allSingular, List.all_cons, Bool.and_eq_true] at h
    obtain ⟨hs, hrest⟩ := h
    refine ih hrest ?_
    rw [Reported.value_concatMap]
    rcases Nat.le_one_iff_eq_zero_or_eq_one.1 hnodes with hnone | hone
    · rw [List.eq_nil_of_length_eq_zero hnone]
      exact Nat.zero_le 1
    · obtain ⟨node, rfl⟩ := List.length_eq_one_iff.1 hone
      rw [List.flatMap_singleton]
      exact length_select_le_one hs node

end Registry

/-! ## Writable queries -/

/-- A comparison as query text has it: one node is current, and both operands can be written in a
comparison. -/
structure Compared.IsPlain (x : Compared) : Prop where
  current : ∃ node, x.current = [node]
  left : x.left.isWritable .operand
  right : x.right.isWritable .operand

namespace Registry

variable {r : Registry} {root : Json}

mutual

lemma isPlain_select (s : Segment) (h : s.isWritable) (node : Json) :
    ∀ x ∈ r.comparisonsOfSelect root node s, x.IsPlain := by
  cases s with
  | union selectors =>
    simp only [Segment.isWritable, Bool.and_eq_true] at h
    exact isPlain_selectAll selectors h.2 node
  | descendant selector =>
    simp only [Segment.isWritable, Bool.and_eq_true] at h
    intro x hx
    obtain ⟨container, -, hx⟩ := List.mem_flatMap.1 hx
    exact isPlain_select selector h.2 container x hx
  | filter test =>
    intro x hx
    obtain ⟨child, -, hx⟩ := List.mem_flatMap.1 hx
    exact isPlain_eval test h child x hx
  | _ => exact fun _ hx => nomatch hx

lemma isPlain_selectAll (ss : List Segment) (h : Segment.allWritable ss) (node : Json) :
    ∀ x ∈ r.comparisonsOfSelectAll root node ss, x.IsPlain := by
  match ss with
  | [] => exact fun _ hx => nomatch hx
  | s :: rest =>
    simp only [Segment.allWritable, Bool.and_eq_true] at h
    exact List.forall_mem_append.2
      ⟨isPlain_select s h.1 node, isPlain_selectAll rest h.2 node⟩

lemma isPlain_run (ss : List Segment) (h : Segment.allWritable ss) (nodes : NodeList) :
    ∀ x ∈ r.comparisonsOfRun root nodes ss, x.IsPlain := by
  match ss with
  | [] => exact fun _ hx => nomatch hx
  | s :: rest =>
    simp only [Segment.allWritable, Bool.and_eq_true] at h
    refine List.forall_mem_append.2 ⟨fun x hx => ?_, isPlain_run rest h.2 _⟩
    obtain ⟨node, -, hx⟩ := List.mem_flatMap.1 hx
    exact isPlain_select s h.1 node x hx

lemma isPlain_eval (e : Expr) {place : ExprPlace} (h : e.isWritable place) (node : Json) :
    ∀ x ∈ r.comparisonsOfEval root [node] e, x.IsPlain := by
  cases e with
  | literal value => exact fun _ hx => nomatch hx
  | query anchor segments =>
    simp only [Expr.isWritable, Bool.and_eq_true] at h
    exact isPlain_run segments h.2 _
  | not e =>
    simp only [Expr.isWritable, Bool.and_eq_true] at h
    exact isPlain_eval e h.2 node
  | and left right =>
    simp only [Expr.isWritable, Bool.and_eq_true] at h
    exact List.forall_mem_append.2 ⟨isPlain_eval left h.1.2 node, isPlain_eval right h.2 node⟩
  | or left right =>
    simp only [Expr.isWritable, Bool.and_eq_true] at h
    exact List.forall_mem_append.2 ⟨isPlain_eval left h.1.2 node, isPlain_eval right h.2 node⟩
  | compare op left right =>
    simp only [Expr.isWritable, Bool.and_eq_true] at h
    refine List.forall_mem_append.2 ⟨List.forall_mem_append.2 ?_, ?_⟩
    · exact ⟨isPlain_eval left h.1.2 node, isPlain_eval right h.2 node⟩
    · exact List.forall_mem_singleton.2 ⟨⟨node, rfl⟩, h.1.2, h.2⟩
  | call function arguments =>
    simp only [Expr.isWritable, Bool.and_eq_true] at h
    rw [comparisonsOfEval]
    split
    · exact fun _ hx => nomatch hx
    · exact isPlain_evalAll arguments h.2 node

lemma isPlain_evalAll (es : List Expr) (h : Expr.allWritable es) (node : Json) :
    ∀ x ∈ r.comparisonsOfEvalAll root [node] es, x.IsPlain := by
  match es with
  | [] => exact fun _ hx => nomatch hx
  | e :: rest =>
    simp only [Expr.allWritable, Bool.and_eq_true] at h
    exact List.forall_mem_append.2 ⟨isPlain_eval e h.1 node, isPlain_evalAll rest h.2 node⟩

end

/-- A query that can be compared in query text selects one node at most, from one current node. -/
lemma length_eval_query_le_one {anchor : Anchor} {ss : List Segment}
    (h : (Expr.query anchor ss).isWritable .operand) (node : Json) :
    (r.run root (anchorNodes root anchor [node]) ss).value.length ≤ 1 := by
  simp only [Expr.isWritable, bne_self_eq_false, Bool.false_or, Bool.and_eq_true] at h
  refine length_run_le_one h.1 ?_
  cases anchor <;> exact Nat.le_refl 1

end Registry

/-- A list of one node at most is read as the absent scalar only if it is empty. -/
lemma Typed.toScalar_nodes_eq_none_iff {nodes : NodeList} (h : nodes.length ≤ 1) :
    (Typed.nodes nodes).toScalar = none ↔ nodes = [] := by
  match nodes, h with
  | [], _ => simp [Typed.toScalar, NodeList.single?]
  | [node], _ => simp [Typed.toScalar, NodeList.single?]

namespace Query

open Registry

/-- Names and indexes lead from one node at most to one node at most.  Whenever a query that the
parser returns is applied to a document, one node is current in every comparison that is made, a
query that is compared selects one node at most, and it is read as the absent scalar exactly if it
selects nothing. -/
theorem compared_of_parse :
    (∀ (r : Registry) (root : Json) (anchor : Anchor) (ss : List Segment) (current : NodeList),
        Segment.allSingular ss → current.length ≤ 1 →
          (r.run root (anchorNodes root anchor current) ss).value.length ≤ 1) ∧
      ∀ (parsing : Registry) (c : ParserConfig) (text : String) (q : Query),
        (parse parsing c text).1 = .ok q → ∀ (r : Registry) (document : Json),
          ∀ x ∈ r.comparisons q document, (∃ node, x.current = [node]) ∧
            ∀ anchor ss, (x.left = .query anchor ss ∨ x.right = .query anchor ss) →
              (r.run document (anchorNodes document anchor x.current) ss).value.length ≤ 1 ∧
                ((r.eval document x.current (.query anchor ss)).value.toScalar = none ↔
                  (r.run document (anchorNodes document anchor x.current) ss).value = []) := by
  constructor
  · intro r root anchor ss current hsingular hcurrent
    refine length_run_le_one hsingular ?_
    cases anchor with
    | root => exact Nat.le_refl 1
    | current => exact hcurrent
  · intro parsing c text q hparse r document x hx
    have hwritable := (writable_of_parse hparse).1
    simp only [isWritable, Bool.and_eq_true] at hwritable
    have hplain := isPlain_run q.segments hwritable.2 [document] x hx
    obtain ⟨node, hcurrent⟩ := hplain.current
    refine ⟨⟨node, hcurrent⟩, fun anchor ss hoperand => ?_⟩
    have hquery : (Expr.query anchor ss).isWritable .operand := by
      rcases hoperand with hleft | hright
      · exact hleft ▸ hplain.left
      · exact hright ▸ hplain.right
    rw [hcurrent]
    have hlength : (r.run document (anchorNodes document anchor [node]) ss).value.length ≤ 1 :=
      length_eval_query_le_one hquery node
    exact ⟨hlength, Typed.toScalar_nodes_eq_none_iff hlength⟩

/-- A query that compares a member with the first element of another one. -/
def memberAndElement : Query :=
  ⟨.root, [.filter (.compare .eq (.query .current [.key "a"])
    (.query .current [.key "b", .index 0]))]⟩

lemma parse_memberAndElement :
    (parse .standard {} "$[?@.a == @.b[0]]").1 = .ok memberAndElement := by
  have hscan : Token.scanAll "$[?@.a == @.b[0]]" =
      .ok [⟨.root, 0, 1⟩, ⟨.leftBracket, 1, 2⟩, ⟨.question, 2, 3⟩, ⟨.current, 3, 4⟩,
        ⟨.dot, 4, 5⟩, ⟨.name "a", 5, 6⟩, ⟨.comparison .eq, 7, 9⟩, ⟨.current, 10, 11⟩,
        ⟨.dot, 11, 12⟩, ⟨.name "b", 12, 13⟩, ⟨.leftBracket, 13, 14⟩, ⟨.number "0", 14, 15⟩,
        ⟨.rightBracket, 15, 16⟩, ⟨.rightBracket, 16, 17⟩] :=
    eq_ok_of_toOption (by decide +kernel)
  rw [parse, hscan]
  rfl

/-- Both children are compared.  In the second one `@.b[0]` selects nothing. -/
theorem compared_of_parse_memberAndElement :
    let full : Json := .object [("a", .ofNat 1), ("b", .array [.ofNat 1])]
    let bare : Json := .object [("b", .array [])]
    let left : Expr := .query .current [.key "a"]
    let right : Expr := .query .current [.key "b", .index 0]
    (parse .standard {} "$[?@.a == @.b[0]]").1 = .ok memberAndElement ∧
      standard.comparisons memberAndElement (.array [full, bare]) =
        [⟨[full], left, right⟩, ⟨[bare], left, right⟩] ∧
      ((standard.eval (.array [full, bare]) [bare] right).value.toScalar = none ↔
        (standard.run (.array [full, bare]) [bare] [.key "b", .index 0]).value = []) := by
  intro full bare left right
  have hmade : standard.comparisons memberAndElement (.array [full, bare]) =
      [⟨[full], left, right⟩, ⟨[bare], left, right⟩] := rfl
  obtain ⟨-, hcompared⟩ := compared_of_parse
  obtain ⟨-, hoperands⟩ := hcompared .standard {} _ _ parse_memberAndElement standard
    (.array [full, bare]) ⟨[bare], left, right⟩ (by rw [hmade]; simp)
  exact ⟨parse_memberAndElement, hmade, (hoperands .current _ (.inr rfl)).2⟩

end Query

end JsonPath
