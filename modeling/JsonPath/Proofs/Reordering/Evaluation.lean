import JsonPath.Proofs.Reordering.Operations

/-!
# Queries do not see the order of members

A query selects the same nodes from member-equivalent documents, in another order perhaps, and
reports the same diagnostics, in another order perhaps (`Registry.apply_memberEquiv`).

Two runs of the evaluator go side by side.  Lists of nodes are rearranged up to `Json.Alike`,
results of filter expressions are related by `Typed.Alike`, and results with reports agree.
Evaluators that a registry attaches to its functions may look at the order of what they are given,
so there must be none.
-/

namespace JsonPath

/-- Results of filter expressions that differ in the order of nodes and members only. -/
inductive Typed.Alike : Typed → Typed → Prop
  | value {x y : Option Json} (h : Option.Rel Json.Alike x y) : Typed.Alike (.value x) (.value y)
  | nodes {xs ys : NodeList} (h : Rearranged Json.Alike xs ys) : Typed.Alike (.nodes xs) (.nodes ys)
  | logical (outcome : Bool) : Typed.Alike (.logical outcome) (.logical outcome)

/-- The only node of a list does not change its place. -/
lemma NodeList.single?_rel {R : Json → Json → Prop} {xs ys : NodeList} (h : Rearranged R xs ys) :
    Option.Rel R (NodeList.single? xs) (NodeList.single? ys) := by
  obtain ⟨zs, hzs, hrel⟩ := h
  cases hrel with
  | nil =>
    rw [hzs.eq_nil]
    exact .none
  | cons hhead htail =>
    cases htail with
    | nil =>
      rw [List.perm_singleton.mp hzs]
      exact .some hhead
    | cons _ _ =>
      match xs, hzs.length_eq with
      | _ :: _ :: _, _ => exact .none

namespace Typed.Alike

variable {s t : Typed}

lemma toLogical_eq (h : Typed.Alike s t) : s.toLogical = t.toLogical := by
  cases h with
  | value _ => rfl
  | @nodes xs ys h =>
    have hlength := h.length_eq
    cases xs <;> cases ys <;> first | rfl | simp at hlength
  | logical _ => rfl

lemma toScalar_rel (h : Typed.Alike s t) : Option.Rel Json.Alike s.toScalar t.toScalar := by
  cases h with
  | value h => exact h
  | nodes h => exact NodeList.single?_rel h
  | logical _ => exact .none

lemma evalLength (h : Typed.Alike s t) : Typed.Alike (evalLength s) (evalLength t) := by
  unfold JsonPath.evalLength
  rw [lengthOf?_eq h.toScalar_rel]
  cases (lengthOf? t.toScalar).map Json.ofNat with
  | none => exact .value .none
  | some x => exact .value (.some (.refl x))

/-- Counting sees the length of a list of nodes, and of anything else its type. -/
lemma evalCount (h : Typed.Alike s t) :
    Reported.Agree Typed.Alike (evalCount s) (evalCount t) := by
  have hnumber : ∀ n, Typed.Alike (.value (some (Json.ofNat n))) (.value (some (Json.ofNat n))) :=
    fun n => .value (.some (.refl _))
  cases h with
  | value _ => exact (Reported.Agree.report _).bind fun _ _ _ => .pure (hnumber 0)
  | @nodes xs ys h =>
    have hcounts : Typed.Alike (.value (some (Json.ofNat xs.length)))
        (.value (some (Json.ofNat ys.length))) := by
      rw [h.length_eq]
      exact hnumber ys.length
    exact .pure hcounts
  | logical _ => exact (Reported.Agree.report _).bind fun _ _ _ => .pure (hnumber 0)

end Typed.Alike

namespace Registry

/-! ## Calls -/

/-- A registry without evaluators runs built-in functions only. -/
lemma resolve_ne_registered {r : Registry} (hr : r.evaluators = []) {function : String}
    {count : Nat} {callee : Callee} (h : r.resolve function count = .ok callee)
    (evaluator : Evaluator) : callee ≠ .registered evaluator := by
  have hother : ∀ name n c, r.resolveOther name n ≠ .ok c := by
    intro name n c
    simp [resolveOther, evaluator?, hr, NameTable.find?]
  rintro rfl
  unfold resolve at h
  split at h
  · simp at h
  · simp at h
  · simp at h
  · simp at h
  · split at h
    · simp at h
    · exact hother _ _ _ h

lemma Callee.apply_agree {callee : Callee} (hcallee : ∀ evaluator, callee ≠ .registered evaluator)
    {ss ts : List Typed} (h : List.Forall₂ Typed.Alike ss ts) :
    Reported.Agree Typed.Alike (callee.apply ss) (callee.apply ts) := by
  have hfalse : Reported.Agree Typed.Alike (pure (.logical false)) (pure (.logical false)) :=
    .pure (.logical false)
  cases callee with
  | length =>
    rcases h with _ | ⟨hfirst, _ | ⟨_, _⟩⟩
    · exact hfalse
    · exact .pure hfirst.evalLength
    · exact hfalse
  | count =>
    rcases h with _ | ⟨hfirst, _ | ⟨_, _⟩⟩
    · exact hfalse
    · exact hfirst.evalCount
    · exact hfalse
  | test anchoring =>
    rcases h with _ | ⟨hfirst, _ | ⟨hsecond, _ | ⟨_, _⟩⟩⟩
    · exact hfalse
    · exact hfalse
    · show Reported.Agree _ (_ <$> testPattern _ _ _) (_ <$> testPattern _ _ _)
      rw [testPattern_eq anchoring hfirst.toScalar_rel hsecond.toScalar_rel]
      exact ⟨.logical _, .refl _⟩
    · exact hfalse
  | registered evaluator => exact absurd rfl (hcallee evaluator)

/-! ## Two runs -/

/-- A test of two results that are alike. -/
lemma agree_logical {s s' t t' : Reported Typed} {f : Typed → Typed → Bool}
    (hs : Reported.Agree Typed.Alike s s') (ht : Reported.Agree Typed.Alike t t')
    (hf : ∀ x x' y y', Typed.Alike x x' → Typed.Alike y y' → f x y = f x' y') :
    Reported.Agree Typed.Alike (do let x ← s; let y ← t; return .logical (f x y))
      (do let x ← s'; let y ← t'; return .logical (f x y)) := by
  refine hs.bind fun x x' hx => ?_
  refine ht.bind fun y y' hy => ?_
  rw [hf x x' y y' hx hy]
  exact .pure (.logical _)

variable {r : Registry} {root root' : Json}

lemma anchorNodes_rel (hroot : Json.Alike root root') (anchor : Anchor)
    {current current' : NodeList} (h : Rearranged Json.Alike current current') :
    Rearranged Json.Alike (anchorNodes root anchor current)
      (anchorNodes root' anchor current') := by
  cases anchor with
  | root => exact .singleton hroot
  | current => exact h

mutual

lemma select_agree (hr : r.evaluators = []) (hroot : Json.Alike root root') {node node' : Json}
    (hnode : Json.Alike node node') (s : Segment) :
    Reported.Agree (Rearranged Json.Alike) (r.select root node s) (r.select root' node' s) := by
  match s with
  | .key name => exact .pure (.toList (hnode.member? name))
  | .index i =>
    cases hnode.view with
    | array helements => exact .pure (.toList (elementAt?_rel helements i))
    | object _ _ => exact .pure .nil
    | scalar hscalar => cases node <;> first | exact .pure .nil | simp [Json.isContainer] at hscalar
  | .slice start stop step =>
    cases hnode.view with
    | @array xs ys helements =>
      have hplaces : Slice.places xs.length start stop step =
          Slice.places ys.length start stop step := by rw [helements.length_eq]
      have hslots := ofSlots_forall₂ helements (Slice.places xs.length start stop step)
      exact .pure (.of_forall₂ (hplaces ▸ hslots))
    | object _ _ => exact .pure .nil
    | scalar hscalar => cases node <;> first | exact .pure .nil | simp [Json.isContainer] at hscalar
  | .wildcard => exact .pure hnode.children
  | .union selectors => exact selectAll_agree hr hroot hnode selectors
  | .descendant selector =>
    exact .concatMap hnode.containers fun x y hxy => select_agree hr hroot hxy selector
  | .filter test =>
    refine .filter hnode.children fun x y hxy => ?_
    have htest := eval_agree hr hroot (.singleton hxy) test
    exact htest.map fun s t hst => hst.toLogical_eq

lemma selectAll_agree (hr : r.evaluators = []) (hroot : Json.Alike root root')
    {node node' : Json} (hnode : Json.Alike node node') (ss : List Segment) :
    Reported.Agree (Rearranged Json.Alike) (r.selectAll root node ss)
      (r.selectAll root' node' ss) := by
  match ss with
  | [] => exact .pure .nil
  | s :: rest =>
    refine (select_agree hr hroot hnode s).bind fun xs ys hxs => ?_
    refine (selectAll_agree hr hroot hnode rest).bind fun xs' ys' hxs' => ?_
    exact .pure (hxs.append hxs')

theorem run_agree (hr : r.evaluators = []) (hroot : Json.Alike root root') {nodes nodes' : NodeList}
    (hnodes : Rearranged Json.Alike nodes nodes') (ss : List Segment) :
    Reported.Agree (Rearranged Json.Alike) (r.run root nodes ss) (r.run root' nodes' ss) := by
  match ss with
  | [] => exact .pure hnodes
  | s :: rest =>
    have hstep := Reported.Agree.concatMap hnodes fun x y hxy => select_agree hr hroot hxy s
    exact hstep.bind fun xs ys hxs => run_agree hr hroot hxs rest

theorem eval_agree (hr : r.evaluators = []) (hroot : Json.Alike root root')
    {current current' : NodeList} (hcurrent : Rearranged Json.Alike current current') (e : Expr) :
    Reported.Agree Typed.Alike (r.eval root current e) (r.eval root' current' e) := by
  match e with
  | .literal value => exact .pure (.value (.some (.refl value)))
  | .query anchor segments =>
    have hrun := run_agree hr hroot (anchorNodes_rel hroot anchor hcurrent) segments
    exact hrun.map fun xs ys hxs => .nodes hxs
  | .not e =>
    refine (eval_agree hr hroot hcurrent e).bind fun s t hst => ?_
    rw [hst.toLogical_eq]
    exact .pure (.logical _)
  | .and left right =>
    refine agree_logical (eval_agree hr hroot hcurrent left) (eval_agree hr hroot hcurrent right) ?_
    intro x x' y y' hx hy
    rw [hx.toLogical_eq, hy.toLogical_eq]
  | .or left right =>
    refine agree_logical (eval_agree hr hroot hcurrent left) (eval_agree hr hroot hcurrent right) ?_
    intro x x' y y' hx hy
    rw [hx.toLogical_eq, hy.toLogical_eq]
  | .compare op left right =>
    refine agree_logical (eval_agree hr hroot hcurrent left) (eval_agree hr hroot hcurrent right) ?_
    intro x x' y y' hx hy
    exact op.holds_eq hx.toScalar_rel hy.toScalar_rel
  | .call function arguments =>
    unfold eval
    cases hresolve : r.resolve function arguments.length with
    | error problem =>
      exact (Reported.Agree.report problem).bind fun _ _ _ => .pure (.logical false)
    | ok callee =>
      refine (evalAll_agree hr hroot hcurrent arguments).bind fun ss ts hst => ?_
      exact Callee.apply_agree (resolve_ne_registered hr hresolve) hst

lemma evalAll_agree (hr : r.evaluators = []) (hroot : Json.Alike root root')
    {current current' : NodeList} (hcurrent : Rearranged Json.Alike current current')
    (es : List Expr) :
    Reported.Agree (List.Forall₂ Typed.Alike) (r.evalAll root current es)
      (r.evalAll root' current' es) := by
  match es with
  | [] => exact .pure .nil
  | e :: rest =>
    refine (eval_agree hr hroot hcurrent e).bind fun s t hst => ?_
    refine (evalAll_agree hr hroot hcurrent rest).bind fun ss ts hsts => ?_
    exact .pure (.cons hst hsts)

end

/-! ## Whole queries -/

/-- Without evaluators of the registry, a query selects member-equivalent nodes from
member-equivalent documents, each as often, and reports the same up to order. -/
theorem apply_memberEquiv (r : Registry) (hr : r.evaluators = []) (q : Query)
    {document document' : Json} (hunique : document.HasUniqueNames)
    (h : Json.MemberEquiv document document') :
    Rearranged Json.MemberEquiv (r.apply q document).value (r.apply q document').value ∧
      (r.apply q document).diagnostics.Perm (r.apply q document').diagnostics := by
  have hdocument : Json.Alike document document' := ⟨h, .inl hunique⟩
  have hrun := run_agree hr hdocument (.singleton hdocument) q.segments
  exact ⟨hrun.value.imp fun x y hxy => hxy.1, hrun.diagnostics⟩

/-- A document with two objects that hold bad patterns. -/
def badPatterns : Json :=
  .object [("x", .object [("p", .string "("), ("q", .string "t")]),
    ("y", .object [("p", .string "["), ("q", .string "t")])]

/-- The same document in another order, outside and inside. -/
def badPatternsReordered : Json :=
  .object [("y", .object [("p", .string "["), ("q", .string "t")]),
    ("x", .object [("q", .string "t"), ("p", .string "(")])]

/-- The query `$[?!search(@['q'], @['p'])]`. -/
def unmatchedQuery : Query :=
  ⟨.root, [.filter (.not
    (.call "search" [.query .current [.key "q"], .query .current [.key "p"]]))]⟩

theorem apply_memberEquiv_badPatterns :
    standard.evaluators = [] ∧ badPatterns.HasUniqueNames ∧
      Json.MemberEquiv badPatterns badPatternsReordered ∧
      (standard.apply unmatchedQuery badPatterns).value = badPatterns.children ∧
      (standard.apply unmatchedQuery badPatternsReordered).value = badPatternsReordered.children ∧
      Rearranged Json.MemberEquiv (standard.apply unmatchedQuery badPatterns).value
        (standard.apply unmatchedQuery badPatternsReordered).value ∧
      (standard.apply unmatchedQuery badPatterns).diagnostics.Perm
        (standard.apply unmatchedQuery badPatternsReordered).diagnostics := by
  have hx : Json.MemberEquiv (.object [("p", .string "("), ("q", .string "t")])
      (.object [("q", .string "t"), ("p", .string "(")]) :=
    .object rfl (List.forall₂_same.mpr fun x _ => .refl x) (.swap _ _ _)
  have hequiv : Json.MemberEquiv badPatterns badPatternsReordered :=
    @Json.MemberEquiv.object _
      [("x", .object [("q", .string "t"), ("p", .string "(")]),
        ("y", .object [("p", .string "["), ("q", .string "t")])] _
      rfl (.cons hx (.cons (.refl _) .nil)) (.swap _ _ _)
  have hstring : ∀ s, (Json.string s).HasUniqueNames := fun s => .scalar rfl
  have hunique : badPatterns.HasUniqueNames := by
    refine .object (by decide) fun m hm => ?_
    simp only [List.mem_cons, List.not_mem_nil, or_false] at hm
    rcases hm with rfl | rfl
    · exact .object (by decide) (by simp [hstring])
    · exact .object (by decide) (by simp [hstring])
  exact ⟨rfl, hunique, hequiv, rfl, rfl,
    apply_memberEquiv standard rfl unmatchedQuery hunique hequiv⟩

end Registry

end JsonPath
