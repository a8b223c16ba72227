import JsonPath.Evaluation.Basic
import Mathlib.Data.List.Basic

/-!
# Evaluation with a record of its coercions

Wherever evaluation uses the result of an expression as a test or as a scalar, it reads it by
`Typed.toLogical` or `Typed.toScalar`, which accept every type and fall back where the type does
not fit.  The traced evaluation of this file is the evaluation of queries again, with these two
readings as arguments (`Coercions`) and with a record of every result that is read by one of them
(`Handover`).

With the two readings of `Typed`, forgetting the record gives the evaluation of `Registry.apply`
(`Registry.reported_traceApply`), so the record belongs to the very run that it is taken from.  And
the record is complete: readings that agree on what it holds give the same run, whatever they make
of all other results (`Registry.traceApplyWith_eq`).
-/

namespace JsonPath

/-- How results are read as tests and as scalars. -/
structure Coercions where
  toLogical : Typed → Bool
  toScalar : Typed → Option Json

/-- The readings of results that evaluation uses. -/
def Coercions.ofTyped : Coercions := ⟨Typed.toLogical, Typed.toScalar⟩

/-- A result of an expression at the place where it is read. -/
inductive Handover where
  /-- The body of a filter, or an operand of a logical operator. -/
  | test (result : Typed)
  /-- An operand of a comparison, or an argument that is read as a value. -/
  | scalar (result : Typed)

/-- Both readings make the same of what is handed over. -/
def Coercions.Agree (c c' : Coercions) : Handover → Prop
  | .test result => c'.toLogical result = c.toLogical result
  | .scalar result => c'.toScalar result = c.toScalar result

/-- A reported value and what has been handed over on the way to it. -/
structure Traced (α : Type) where
  reported : Reported α
  handovers : List Handover

namespace Traced

variable {α β : Type}

instance : Monad Traced where
  pure x := ⟨pure x, []⟩
  bind t f :=
    let next := f t.reported.value
    ⟨t.reported >>= fun x => (f x).reported, t.handovers ++ next.handovers⟩

/-- A computation that reads no result. -/
def lift (r : Reported α) : Traced α := ⟨r, []⟩

/-- Reads a result as a test. -/
def asTest (c : Coercions) (result : Typed) : Traced Bool :=
  ⟨pure (c.toLogical result), [.test result]⟩

/-- Reads a result as a scalar. -/
def asScalar (c : Coercions) (result : Typed) : Traced (Option Json) :=
  ⟨pure (c.toScalar result), [.scalar result]⟩

/-- The lists for all members of a list, one after the other. -/
def concatMap (f : α → Traced (List β)) (xs : List α) : Traced (List β) :=
  ⟨Reported.concatMap (fun x => (f x).reported) xs, xs.flatMap fun x => (f x).handovers⟩

/-- The members of a list that pass a test. -/
def filter (test : α → Traced Bool) (xs : List α) : Traced (List α) :=
  ⟨Reported.filter (fun x => (test x).reported) xs, xs.flatMap fun x => (test x).handovers⟩

section Laws

variable (x : α) (r : Reported α) (t : Traced α) (f : α → Traced β) (g : α → β)

@[simp] lemma reported_pure : (pure x : Traced α).reported = pure x := rfl

@[simp] lemma handovers_pure : (pure x : Traced α).handovers = [] := rfl

@[simp] lemma reported_bind :
    (t >>= f).reported = t.reported >>= fun x => (f x).reported := rfl

@[simp] lemma handovers_bind :
    (t >>= f).handovers = t.handovers ++ (f t.reported.value).handovers := rfl

@[simp] lemma reported_map : (g <$> t).reported = g <$> t.reported := rfl

@[simp] lemma handovers_map : (g <$> t).handovers = t.handovers :=
  List.append_nil t.handovers

@[simp] lemma reported_lift : (lift r).reported = r := rfl

@[simp] lemma handovers_lift : (lift r).handovers = [] := rfl

end Laws

/-! ### Computations with other readings -/

section Readings

variable {c c' : Coercions} {xs : List α}

/-- The second computation is the first one if the readings make the same of all results that the
first one reads. -/
def Settles (c c' : Coercions) (t t' : Traced α) : Prop :=
  (∀ h ∈ t.handovers, c.Agree c' h) → t' = t

namespace Settles

lemma refl (t : Traced α) : Settles c c' t t := fun _ => rfl

lemma asTest (result : Typed) : Settles c c' (asTest c result) (asTest c' result) := by
  intro hagree
  have hresult : c'.toLogical result = c.toLogical result := hagree (.test result) (by
    simp [Traced.asTest])
  rw [Traced.asTest, Traced.asTest, hresult]

lemma asScalar (result : Typed) : Settles c c' (asScalar c result) (asScalar c' result) := by
  intro hagree
  have hresult : c'.toScalar result = c.toScalar result := hagree (.scalar result) (by
    simp [Traced.asScalar])
  rw [Traced.asScalar, Traced.asScalar, hresult]

/-- What comes after a computation has to be settled for its value only. -/
lemma bind {t t' : Traced α} {f f' : α → Traced β} (ht : Settles c c' t t')
    (hf : Settles c c' (f t.reported.value) (f' t.reported.value)) :
    Settles c c' (t >>= f) (t' >>= f') := by
  intro hagree
  rw [handovers_bind, List.forall_mem_append] at hagree
  rw [ht hagree.1]
  have hnext := hf hagree.2
  have hreported : (t.reported >>= fun x => (f' x).reported) =
      t.reported >>= fun x => (f x).reported :=
    Reported.bind_congr_value (congrArg reported hnext)
  show Traced.mk (t.reported >>= fun x => (f' x).reported) (t.handovers ++ _) = _
  rw [hnext, hreported]
  rfl

lemma map {t t' : Traced α} (g : α → β) (ht : Settles c c' t t') :
    Settles c c' (g <$> t) (g <$> t') := ht.bind (refl _)

lemma concatMap {f f' : α → Traced (List β)} (h : ∀ x ∈ xs, Settles c c' (f x) (f' x)) :
    Settles c c' (Traced.concatMap f xs) (Traced.concatMap f' xs) := by
  intro hagree
  have hsame : ∀ x ∈ xs, f' x = f x := fun x hx =>
    h x hx fun y hy => hagree y (List.mem_flatMap.2 ⟨x, hx, hy⟩)
  rw [Traced.concatMap, Traced.concatMap,
    Reported.concatMap_congr fun x hx => congrArg reported (hsame x hx),
    List.flatMap_congr fun x hx => congrArg handovers (hsame x hx)]

lemma filter {test test' : α → Traced Bool} (h : ∀ x ∈ xs, Settles c c' (test x) (test' x)) :
    Settles c c' (Traced.filter test xs) (Traced.filter test' xs) := by
  intro hagree
  have hsame : ∀ x ∈ xs, test' x = test x := fun x hx =>
    h x hx fun y hy => hagree y (List.mem_flatMap.2 ⟨x, hx, hy⟩)
  rw [Traced.filter, Traced.filter,
    Reported.filter_congr fun x hx => congrArg reported (hsame x hx),
    List.flatMap_congr fun x hx => congrArg handovers (hsame x hx)]

end Settles

end Readings

end Traced

namespace Registry

open Traced

/-! ## Traced evaluation -/

/-- What `Callee.apply` does, traced. -/
def Callee.trace (c : Coercions) : Callee → List Typed → Traced Typed
  | .length, [argument] => do
    let scalar ← asScalar c argument
    return .value ((lengthOf? scalar).map Json.ofNat)
  | .test anchoring, [subject, pattern] => do
    let subject ← asScalar c subject
    let pattern ← asScalar c pattern
    lift (.logical <$> testPattern anchoring subject pattern)
  | callee, results => lift (callee.apply results)

variable (r : Registry) (c : Coercions) (root : Json)

mutual

/-- What `Registry.select` does, traced. -/
def traceSelect (node : Json) : Segment → Traced NodeList
  | .key name => lift (r.select root node (.key name))
  | .index i => lift (r.select root node (.index i))
  | .slice start stop step => lift (r.select root node (.slice start stop step))
  | .wildcard => lift (r.select root node .wildcard)
  | .union selectors => traceSelectAll node selectors
  | .descendant selector =>
    Traced.concatMap (fun container => traceSelect container selector) node.containers
  | .filter test =>
    Traced.filter (fun child => do asTest c (← traceEval [child] test)) node.children

/-- What `Registry.selectAll` does, traced. -/
def traceSelectAll (node : Json) : List Segment → Traced NodeList
  | [] => pure []
  | s :: rest => do
    let nodes ← traceSelect node s
    let others ← traceSelectAll node rest
    return nodes ++ others

/-- What `Registry.run` does, traced. -/
def traceRun (nodes : NodeList) : List Segment → Traced NodeList
  | [] => pure nodes
  | s :: rest => do
    let next ← Traced.concatMap (fun node => traceSelect node s) nodes
    traceRun next rest

/-- What `Registry.eval` does, traced. -/
def traceEval (current : NodeList) : Expr → Traced Typed
  | .literal value => pure (.value (some value))
  | .query anchor segments => .nodes <$> traceRun (anchorNodes root anchor current) segments
  | .not e => do
    let holds ← asTest c (← traceEval current e)
    return .logical (!holds)
  | .and left right => do
    let left ← traceEval current left
    let right ← traceEval current right
    return .logical ((← asTest c left) && (← asTest c right))
  | .or left right => do
    let left ← traceEval current left
    let right ← traceEval current right
    return .logical ((← asTest c left) || (← asTest c right))
  | .compare op left right => do
    let left ← traceEval current left
    let right ← traceEval current right
    return .logical (op.holds (← asScalar c left) (← asScalar c right))
  | .call function arguments =>
    match r.resolve function arguments.length with
    | .error problem => do
      lift (Reported.report problem)
      return .logical false
    | .ok callee => do
      let results ← traceEvalAll current arguments
      callee.trace c results

/-- What `Registry.evalAll` does, traced. -/
def traceEvalAll (current : NodeList) : List Expr → Traced (List Typed)
  | [] => pure []
  | e :: rest => do
    let result ← traceEval current e
    let results ← traceEvalAll current rest
    return result :: results

end

/-- What `Registry.apply` does with other readings of results, traced. -/
def traceApplyWith (q : Query) (document : Json) : Traced NodeList :=
  r.traceRun c document [document] q.segments

/-- What `Registry.apply` does, traced. -/
def traceApply (q : Query) (document : Json) : Traced NodeList :=
  r.traceApplyWith .ofTyped q document

/-! ## Forgetting the record -/

lemma Callee.reported_trace (callee : Callee) (results : List Typed) :
    (callee.trace .ofTyped results).reported = callee.apply results := by
  unfold Callee.trace
  split
  · rfl
  · rfl
  · rfl

mutual

lemma reported_traceSelect (node : Json) (s : Segment) :
    (r.traceSelect .ofTyped root node s).reported = r.select root node s := by
  cases s with
  | union selectors => exact reported_traceSelectAll node selectors
  | descendant selector =>
    have h : (fun container => (r.traceSelect .ofTyped root container selector).reported) =
        fun container => r.select root container selector :=
      funext fun container => reported_traceSelect container selector
    show Reported.concatMap _ _ = _
    rw [h]
    rfl
  | filter test =>
    have h : (fun child => (r.traceEval .ofTyped root [child] test >>= asTest .ofTyped).reported) =
        fun child => (·.toLogical) <$> r.eval root [child] test :=
      funext fun child => by
        rw [reported_bind, reported_traceEval [child] test]
        rfl
    show Reported.filter _ _ = _
    rw [h]
    rfl
  | _ => rfl

lemma reported_traceSelectAll (node : Json) (ss : List Segment) :
    (r.traceSelectAll .ofTyped root node ss).reported = r.selectAll root node ss := by
  match ss with
  | [] => rfl
  | s :: rest =>
    have hs := reported_traceSelect node s
    have hrest := reported_traceSelectAll node rest
    simp only [traceSelectAll, selectAll, reported_bind, reported_pure, hs, hrest]

lemma reported_traceRun (nodes : NodeList) (ss : List Segment) :
    (r.traceRun .ofTyped root nodes ss).reported = r.run root nodes ss := by
  match ss with
  | [] => rfl
  | s :: rest =>
    have hs : (fun node => (r.traceSelect .ofTyped root node s).reported) =
        fun node => r.select root node s :=
      funext fun node => reported_traceSelect node s
    have hrest : (fun next => (r.traceRun .ofTyped root next rest).reported) =
        fun next => r.run root next rest :=
      funext fun next => reported_traceRun next rest
    rw [traceRun, reported_bind, run, hrest, Traced.concatMap, hs]

lemma reported_traceEval (current : NodeList) (e : Expr) :
    (r.traceEval .ofTyped root current e).reported = r.eval root current e := by
  cases e with
  | literal value => rfl
  | query anchor segments =>
    rw [traceEval, reported_map, reported_traceRun, eval]
  | not e =>
    rw [traceEval, reported_bind, reported_traceEval current e]
    rfl
  | and left right =>
    simp only [traceEval, reported_bind, reported_traceEval current left,
      reported_traceEval current right]
    rfl
  | or left right =>
    simp only [traceEval, reported_bind, reported_traceEval current left,
      reported_traceEval current right]
    rfl
  | compare op left right =>
    simp only [traceEval, reported_bind, reported_traceEval current left,
      reported_traceEval current right]
    rfl
  | call function arguments =>
    rw [traceEval, eval]
    cases r.resolve function arguments.length with
    | error problem => rfl
    | ok callee =>
      have hresults := reported_traceEvalAll current arguments
      simp only [reported_bind, hresults, Callee.reported_trace]

lemma reported_traceEvalAll (current : NodeList) (es : List Expr) :
    (r.traceEvalAll .ofTyped root current es).reported = r.evalAll root current es := by
  match es with
  | [] => rfl
  | e :: rest =>
    have he := reported_traceEval current e
    have hrest := reported_traceEvalAll current rest
    simp only [traceEvalAll, evalAll, reported_bind, reported_pure, he, hrest]

end

/-- The traced run of a query is its run. -/
theorem reported_traceApply (q : Query) (document : Json) :
    (r.traceApply q document).reported = r.apply q document :=
  reported_traceRun r document [document] q.segments

/-! ## The record is complete -/

section Complete

variable {c c' : Coercions}

lemma Callee.settles_trace (callee : Callee) (results : List Typed) :
    Settles c c' (callee.trace c results) (callee.trace c' results) := by
  unfold Callee.trace
  split
  · exact (Settles.asScalar _).bind (.refl _)
  · exact (Settles.asScalar _).bind ((Settles.asScalar _).bind (.refl _))
  · exact .refl _

mutual

lemma settles_traceSelect (node : Json) (s : Segment) :
    Settles c c' (r.traceSelect c root node s) (r.traceSelect c' root node s) := by
  cases s with
  | union selectors => exact settles_traceSelectAll node selectors
  | descendant selector =>
    exact .concatMap fun container _ => settles_traceSelect container selector
  | filter test =>
    exact .filter fun child _ => (settles_traceEval [child] test).bind (.asTest _)
  | _ => exact .refl _

lemma settles_traceSelectAll (node : Json) (ss : List Segment) :
    Settles c c' (r.traceSelectAll c root node ss) (r.traceSelectAll c' root node ss) := by
  match ss with
  | [] => exact .refl _
  | s :: rest =>
    exact (settles_traceSelect node s).bind ((settles_traceSelectAll node rest).bind (.refl _))

lemma settles_traceRun (nodes : NodeList) (ss : List Segment) :
    Settles c c' (r.traceRun c root nodes ss) (r.traceRun c' root nodes ss) := by
  match ss with
  | [] => exact .refl _
  | s :: rest =>
    have hs : Settles c c' (Traced.concatMap (fun node => r.traceSelect c root node s) nodes)
        (Traced.concatMap (fun node => r.traceSelect c' root node s) nodes) :=
      .concatMap fun node _ => settles_traceSelect node s
    exact hs.bind (settles_traceRun _ rest)

lemma settles_traceEval (current : NodeList) (e : Expr) :
    Settles c c' (r.traceEval c root current e) (r.traceEval c' root current e) := by
  cases e with
  | literal value => exact .refl _
  | query anchor segments => exact (settles_traceRun _ segments).map _
  | not e => exact (settles_traceEval current e).bind ((Settles.asTest _).bind (.refl _))
  | and left right | or left right =>
    refine (settles_traceEval current left).bind ((settles_traceEval current right).bind ?_)
    exact (Settles.asTest _).bind ((Settles.asTest _).bind (.refl _))
  | compare op left right =>
    refine (settles_traceEval current left).bind ((settles_traceEval current right).bind ?_)
    exact (Settles.asScalar _).bind ((Settles.asScalar _).bind (.refl _))
  | call function arguments =>
    rw [traceEval, traceEval]
    cases r.resolve function arguments.length with
    | error problem => exact .refl _
    | ok callee => exact (settles_traceEvalAll current arguments).bind (callee.settles_trace _)

lemma settles_traceEvalAll (current : NodeList) (es : List Expr) :
    Settles c c' (r.traceEvalAll c root current es) (r.traceEvalAll c' root current es) := by
  match es with
  | [] => exact .refl _
  | e :: rest =>
    exact (settles_traceEval current e).bind ((settles_traceEvalAll current rest).bind (.refl _))

end

end Complete

/-- Readings that make the same of all results that a run reads give the same run. -/
theorem traceApplyWith_eq (q : Query) (document : Json) {c' : Coercions}
    (h : ∀ x ∈ (r.traceApplyWith c q document).handovers, c.Agree c' x) :
    r.traceApplyWith c' q document = r.traceApplyWith c q document :=
  settles_traceRun r document [document] q.segments h

end Registry

end JsonPath
