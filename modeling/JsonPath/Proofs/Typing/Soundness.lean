import JsonPath.Proofs.Typing.Check
import JsonPath.Proofs.Typing.Trace
import Mathlib.Data.List.Forall2

/-!
# Soundness of the check for the built-in functions

`Registry.sound_of_checkQuery`: a query whose check reports nothing under the built-in functions
is applied without a coercion that falls back, and reports bad patterns only.  What the coercions
fall back on might as well be anything else (`Registry.apply_of_readsFitting`).

The theorem goes through the typing judgements.  No built-in function has a logical parameter, so
a silent check makes a query well-typed, and then one invariant is carried through the traced
evaluation: each expression gives a result that fits the place where it stands
(`Typed.FitsType`).  Of the functions only their signatures and one rule each are used
(`Registry.exists_callee`).
-/

namespace JsonPath

/-! ## Fitting results -/

/-- The result is of the type, or it is a list of nodes, which serves as a value or a test. -/
def Typed.FitsType (required : FunctionType) (result : Typed) : Prop :=
  result.type = required ∨ result.type = .nodes

/-- Only a list of nodes fits where nodes are required. -/
lemma Typed.FitsType.exists_nodes {result : Typed} (h : result.FitsType .nodes) :
    ∃ list, result = .nodes list := by
  cases result with
  | nodes list => exact ⟨list, rfl⟩
  | value scalar => rcases h with h | h <;> cases h
  | logical outcome => rcases h with h | h <;> cases h

/-- The result that is handed over is of a type that the reader is meant for. -/
def Handover.Fits : Handover → Prop
  | .test result => result.FitsType .logical
  | .scalar result => result.FitsType .value

/-- Readings that differ from those of `Typed` at most where these fall back. -/
structure Coercions.ReadsFitting (c : Coercions) : Prop where
  toLogical_eq : ∀ result, result.FitsType .logical → c.toLogical result = result.toLogical
  toScalar_eq : ∀ result, result.FitsType .value → c.toScalar result = result.toScalar

lemma Coercions.ReadsFitting.agree {c : Coercions} (hc : c.ReadsFitting) {x : Handover}
    (hx : x.Fits) : Coercions.ofTyped.Agree c x := by
  cases x with
  | test result => exact hc.toLogical_eq result hx
  | scalar result => exact hc.toScalar_eq result hx

/-- The diagnostic is about a pattern. -/
def Diagnostic.IsInvalidPattern (d : Diagnostic) : Prop :=
  ∃ pattern reason, d = .invalidPattern pattern reason

namespace Traced

variable {α β : Type}

/-- No diagnostic but about patterns, and no result handed over where it does not fit. -/
structure Sound (t : Traced α) : Prop where
  diagnostics : ∀ d ∈ t.reported.diagnostics, d.IsInvalidPattern
  handovers : ∀ h ∈ t.handovers, h.Fits

lemma Sound.pure (x : α) : (pure x : Traced α).Sound :=
  ⟨by simp, by simp⟩

lemma Sound.bind {t : Traced α} {f : α → Traced β} (ht : t.Sound)
    (hf : (f t.reported.value).Sound) : (t >>= f).Sound where
  diagnostics := List.forall_mem_append.2 ⟨ht.diagnostics, hf.diagnostics⟩
  handovers := List.forall_mem_append.2 ⟨ht.handovers, hf.handovers⟩

lemma Sound.map {t : Traced α} (g : α → β) (ht : t.Sound) : (g <$> t).Sound :=
  ht.bind (.pure _)

lemma Sound.lift {r : Reported α} (h : ∀ d ∈ r.diagnostics, d.IsInvalidPattern) :
    (lift r).Sound :=
  ⟨h, by simp⟩

lemma Sound.asTest {c : Coercions} {result : Typed} (h : result.FitsType .logical) :
    (asTest c result).Sound :=
  ⟨by simp [Traced.asTest], List.forall_mem_singleton.2 h⟩

lemma Sound.asScalar {c : Coercions} {result : Typed} (h : result.FitsType .value) :
    (asScalar c result).Sound :=
  ⟨by simp [Traced.asScalar], List.forall_mem_singleton.2 h⟩

lemma Sound.concatMap {f : α → Traced (List β)} {xs : List α} (h : ∀ x ∈ xs, (f x).Sound) :
    (Traced.concatMap f xs).Sound := by
  constructor
  · intro d hd
    rw [Traced.concatMap, Reported.diagnostics_concatMap] at hd
    obtain ⟨x, hx, hd⟩ := List.mem_flatMap.1 hd
    exact (h x hx).diagnostics d hd
  · intro handover hhandover
    obtain ⟨x, hx, hhandover⟩ := List.mem_flatMap.1 hhandover
    exact (h x hx).handovers handover hhandover

lemma Sound.filter {test : α → Traced Bool} {xs : List α} (h : ∀ x ∈ xs, (test x).Sound) :
    (Traced.filter test xs).Sound := by
  constructor
  · intro d hd
    rw [Traced.filter, Reported.diagnostics_filter] at hd
    obtain ⟨x, hx, hd⟩ := List.mem_flatMap.1 hd
    exact (h x hx).diagnostics d hd
  · intro handover hhandover
    obtain ⟨x, hx, hhandover⟩ := List.mem_flatMap.1 hhandover
    exact (h x hx).handovers handover hhandover

end Traced

/-! ## The built-in functions -/

lemma readPattern_diagnostics {pattern text : String} :
    ∀ d ∈ (readPattern pattern text).diagnostics, d.IsInvalidPattern := by
  unfold readPattern
  split
  · simp
  · rename_i e _
    simpa using ⟨pattern, e.kind, rfl⟩

/-- Testing a pattern reports nothing but that it is none. -/
lemma testPattern_diagnostics (anchoring : Anchoring) (subject pattern : Option Json) :
    ∀ d ∈ (testPattern anchoring subject pattern).diagnostics, d.IsInvalidPattern := by
  unfold testPattern
  split
  · rw [Reported.diagnostics_bind]
    refine List.forall_mem_append.2 ⟨readPattern_diagnostics, ?_⟩
    split
    · simp
    · cases anchoring with
      | anywhere => simp
      | whole =>
        simp only [Reported.diagnostics_bind]
        refine List.forall_mem_append.2 ⟨readPattern_diagnostics, ?_⟩
        split
        · simp
        · simp
  · simp

namespace Registry

lemma mem_of_find? {α : Type} {name : String} {entry : α} {table : NameTable α}
    (h : table.find? name = some entry) : (name, entry) ∈ table := by
  induction table with
  | nil => cases h
  | cons head rest ih =>
    rw [NameTable.find?] at h
    split_ifs at h with hname
    · cases h
      rw [← hname]
      exact List.mem_cons_self
    · exact List.mem_cons_of_mem _ (ih h)

lemma standard_signature? {function : String} {signature : Signature}
    (h : standard.signature? function = some signature) : (function, signature) ∈ builtIns := by
  have hall : ∀ entry ∈ standard.signatures, entry ∈ builtIns := by decide +kernel
  exact hall _ (mem_of_find? h)

lemma standard_hasNoLogicalParameter : standard.HasNoLogicalParameter := by
  intro function signature h
  have hmem := standard_signature? h
  have hall : ∀ entry ∈ builtIns, .logical ∉ entry.2.parameters := by decide
  exact hall _ hmem

variable {c : Coercions}

lemma sound_trace_test (anchoring : Anchoring) {results : List Typed}
    (h : List.Forall₂ Typed.FitsType [.value, .value] results) :
    ((Callee.test anchoring).trace c results).Sound ∧
      ((Callee.test anchoring).trace c results).reported.value.type = .logical := by
  obtain ⟨subject, rest, hsubject, hrest, rfl⟩ := List.forall₂_cons_left_iff.1 h
  obtain ⟨pattern, others, hpattern, hothers, rfl⟩ := List.forall₂_cons_left_iff.1 hrest
  obtain rfl := List.forall₂_nil_left_iff.1 hothers
  refine ⟨(Traced.Sound.asScalar hsubject).bind ((Traced.Sound.asScalar hpattern).bind ?_), rfl⟩
  exact .lift (by simpa using testPattern_diagnostics anchoring _ _)

lemma sound_trace_length {results : List Typed}
    (h : List.Forall₂ Typed.FitsType [.value] results) :
    (Callee.length.trace c results).Sound ∧
      (Callee.length.trace c results).reported.value.type = .value := by
  obtain ⟨argument, rest, hargument, hrest, rfl⟩ := List.forall₂_cons_left_iff.1 h
  obtain rfl := List.forall₂_nil_left_iff.1 hrest
  exact ⟨(Traced.Sound.asScalar hargument).bind (.pure _), rfl⟩

lemma sound_trace_count {results : List Typed}
    (h : List.Forall₂ Typed.FitsType [.nodes] results) :
    (Callee.count.trace c results).Sound ∧
      (Callee.count.trace c results).reported.value.type = .value := by
  obtain ⟨argument, rest, hargument, hrest, rfl⟩ := List.forall₂_cons_left_iff.1 h
  obtain rfl := List.forall₂_nil_left_iff.1 hrest
  obtain ⟨list, rfl⟩ := hargument.exists_nodes
  exact ⟨.lift (by simp [Callee.apply, evalCount]), rfl⟩

/-- A built-in function runs on arguments that fit its parameters, and gives a result of its
type. -/
theorem exists_callee {function : String} {signature : Signature}
    (h : standard.signature? function = some signature) :
    ∃ callee, standard.resolve function signature.arity = .ok callee ∧
      ∀ results, List.Forall₂ Typed.FitsType signature.parameters results →
        (callee.trace c results).Sound ∧
          (callee.trace c results).reported.value.type = signature.returns := by
  have hmem := standard_signature? h
  simp only [builtIns, List.mem_cons, Prod.mk.injEq, List.not_mem_nil, or_false] at hmem
  obtain ⟨rfl, rfl⟩ | ⟨rfl, rfl⟩ | ⟨rfl, rfl⟩ | ⟨rfl, rfl⟩ := hmem
  · exact ⟨.length, rfl, fun _ => sound_trace_length⟩
  · exact ⟨.count, rfl, fun _ => sound_trace_count⟩
  · exact ⟨.test .whole, rfl, fun _ => sound_trace_test .whole⟩
  · exact ⟨.test .anywhere, rfl, fun _ => sound_trace_test .anywhere⟩

/-! ## Arguments with an operator at their top -/

lemma wellTypedArgument_not {r : Registry} {e : Expr} {t : FunctionType}
    (h : WellTypedArgument r (.not e) t) : t = .logical ∧ WellTypedTest r e := by
  cases h with
  | value h => cases h
  | logical h => cases h with | not h => exact ⟨rfl, h⟩

lemma wellTypedArgument_and {r : Registry} {left right : Expr} {t : FunctionType}
    (h : WellTypedArgument r (.and left right) t) :
    t = .logical ∧ WellTypedTest r left ∧ WellTypedTest r right := by
  cases h with
  | value h => cases h
  | logical h => cases h with | and hleft hright => exact ⟨rfl, hleft, hright⟩

lemma wellTypedArgument_or {r : Registry} {left right : Expr} {t : FunctionType}
    (h : WellTypedArgument r (.or left right) t) :
    t = .logical ∧ WellTypedTest r left ∧ WellTypedTest r right := by
  cases h with
  | value h => cases h
  | logical h => cases h with | or hleft hright => exact ⟨rfl, hleft, hright⟩

lemma wellTypedArgument_compare {r : Registry} {op : Comparison} {left right : Expr}
    {t : FunctionType} (h : WellTypedArgument r (.compare op left right) t) :
    t = .logical ∧ WellTypedComparable r left ∧ WellTypedComparable r right := by
  cases h with
  | value h => cases h
  | logical h => cases h with | compare _ hleft hright => exact ⟨rfl, hleft, hright⟩

/-! ## The invariant -/

section Invariant

variable (c : Coercions) (root : Json)

/-- The expression gives a result of the type wherever it is evaluated, and nothing falls back on
the way to it. -/
def EvaluatesTo (c : Coercions) (root : Json) (e : Expr) (required : FunctionType) : Prop :=
  ∀ current, (standard.traceEval c root current e).Sound ∧
    (standard.traceEval c root current e).reported.value.FitsType required

/-- A call of a built-in function evaluates to its type. -/
lemma evaluatesTo_call {function : String} {arguments : List Expr}
    {returns required : FunctionType} (h : WellTypedCall standard function arguments returns)
    (hreturns : returns = required ∨ returns = .nodes)
    (harguments : ∀ ts current, WellTypedArguments standard arguments ts →
      (standard.traceEvalAll c root current arguments).Sound ∧ List.Forall₂ Typed.FitsType ts
        (standard.traceEvalAll c root current arguments).reported.value) :
    EvaluatesTo c root (.call function arguments) required := by
  intro current
  obtain ⟨signature, hsignature, rfl, htyped⟩ := wellTypedCall_iff.1 h
  obtain ⟨callee, hresolve, hcallee⟩ := exists_callee hsignature
  obtain ⟨hsound, hfits⟩ := harguments _ current htyped
  obtain ⟨htrace, htype⟩ := hcallee _ hfits
  have hresolve : standard.resolve function arguments.length = .ok callee := by
    rw [htyped.length_eq]
    exact hresolve
  rw [traceEval, hresolve]
  refine ⟨hsound.bind htrace, ?_⟩
  show Typed.type _ = _ ∨ Typed.type _ = _
  rw [← htype] at hreturns
  exact hreturns

mutual

lemma sound_traceSelect (s : Segment) (h : WellTypedSegment standard s) (node : Json) :
    (standard.traceSelect c root node s).Sound := by
  cases s with
  | key name => exact .lift (by simp [select])
  | index i => cases node <;> exact .lift (by simp [select])
  | slice start stop step => cases node <;> exact .lift (by simp [select])
  | wildcard => exact .lift (by simp [select])
  | union selectors =>
    cases h with
    | union h => exact sound_traceSelectAll selectors h node
  | descendant selector =>
    cases h with
    | descendant h => exact .concatMap fun container _ => sound_traceSelect selector h container
  | filter test =>
    cases h with
    | filter h =>
      refine .filter fun child _ => ?_
      obtain ⟨hsound, hfits⟩ := evaluatesTo test .logical (.logical h) [child]
      exact hsound.bind (.asTest hfits)

lemma sound_traceSelectAll (ss : List Segment) (h : WellTypedSegments standard ss)
    (node : Json) : (standard.traceSelectAll c root node ss).Sound := by
  match ss with
  | [] => exact .pure _
  | s :: rest =>
    rw [wellTypedSegments_cons] at h
    have hs := sound_traceSelect s h.1 node
    have hrest := sound_traceSelectAll rest h.2 node
    exact hs.bind (hrest.bind (.pure _))

lemma sound_traceRun (ss : List Segment) (h : WellTypedSegments standard ss)
    (nodes : NodeList) : (standard.traceRun c root nodes ss).Sound := by
  match ss with
  | [] => exact .pure _
  | s :: rest =>
    rw [wellTypedSegments_cons] at h
    have hs : (Traced.concatMap (fun node => standard.traceSelect c root node s) nodes).Sound :=
      .concatMap fun node _ => sound_traceSelect s h.1 node
    exact hs.bind (sound_traceRun rest h.2 _)

theorem evaluatesTo (e : Expr) (t : FunctionType) (h : WellTypedArgument standard e t) :
    EvaluatesTo c root e t := by
  intro current
  cases e with
  | literal value =>
    cases h with
    | value h => exact ⟨.pure _, .inl rfl⟩
    | logical h => cases h
  | query anchor segments =>
    exact ⟨(sound_traceRun segments (wellTypedArgument_query_iff.1 h) _).map _, .inr rfl⟩
  | not e =>
    obtain ⟨rfl, he⟩ := wellTypedArgument_not h
    obtain ⟨hsound, hfits⟩ := evaluatesTo e .logical (.logical he) current
    exact ⟨hsound.bind ((Traced.Sound.asTest hfits).bind (.pure _)), .inl rfl⟩
  | and left right =>
    obtain ⟨rfl, hleft, hright⟩ := wellTypedArgument_and h
    obtain ⟨hl, hlfits⟩ := evaluatesTo left .logical (.logical hleft) current
    obtain ⟨hr, hrfits⟩ := evaluatesTo right .logical (.logical hright) current
    refine ⟨hl.bind (hr.bind ?_), .inl rfl⟩
    exact (Traced.Sound.asTest hlfits).bind ((Traced.Sound.asTest hrfits).bind (.pure _))
  | or left right =>
    obtain ⟨rfl, hleft, hright⟩ := wellTypedArgument_or h
    obtain ⟨hl, hlfits⟩ := evaluatesTo left .logical (.logical hleft) current
    obtain ⟨hr, hrfits⟩ := evaluatesTo right .logical (.logical hright) current
    refine ⟨hl.bind (hr.bind ?_), .inl rfl⟩
    exact (Traced.Sound.asTest hlfits).bind ((Traced.Sound.asTest hrfits).bind (.pure _))
  | compare op left right =>
    obtain ⟨rfl, hleft, hright⟩ := wellTypedArgument_compare h
    obtain ⟨hl, hlfits⟩ := evaluatesTo left .value (.value hleft) current
    obtain ⟨hr, hrfits⟩ := evaluatesTo right .value (.value hright) current
    refine ⟨hl.bind (hr.bind ?_), .inl rfl⟩
    exact (Traced.Sound.asScalar hlfits).bind ((Traced.Sound.asScalar hrfits).bind (.pure _))
  | call function arguments =>
    obtain ⟨returns, hcall, hreturns⟩ := wellTypedArgument_call_iff.1 h
    exact evaluatesTo_call c root hcall hreturns (sound_traceEvalAll arguments) current

lemma sound_traceEvalAll (es : List Expr) (ts : List FunctionType) (current : NodeList)
    (h : WellTypedArguments standard es ts) :
    (standard.traceEvalAll c root current es).Sound ∧
      List.Forall₂ Typed.FitsType ts (standard.traceEvalAll c root current es).reported.value := by
  match es, ts, h with
  | [], [], _ => exact ⟨.pure _, .nil⟩
  | e :: es, t :: ts, h =>
    rw [wellTypedArguments_cons] at h
    obtain ⟨hsound, hfits⟩ := evaluatesTo e t h.1 current
    obtain ⟨hrest, hall⟩ := sound_traceEvalAll es ts current h.2
    exact ⟨hsound.bind (hrest.bind (.pure _)), .cons hfits hall⟩

end

end Invariant

lemma sound_traceApplyWith (q : Query) (document : Json)
    (h : (standard.checkQuery q).diagnostics = []) :
    (standard.traceApplyWith c q document).Sound := by
  have htyped : WellTypedSegments standard q.segments :=
    (wellTypedSegments_iff_of_hasNoLogicalParameter standard_hasNoLogicalParameter _).2 h
  exact sound_traceRun c document q.segments htyped [document]

/-- A query whose check reports nothing under the built-in functions is applied in the same way by
all readings that agree on the results that they are meant for, whatever they fall back on. -/
theorem apply_of_readsFitting (q : Query) (document : Json)
    (h : (standard.checkQuery q).diagnostics = []) (hc : c.ReadsFitting) :
    (standard.traceApplyWith c q document).reported = standard.apply q document := by
  have hsound : (standard.traceApply q document).Sound := sound_traceApplyWith q document h
  have hsame := standard.traceApplyWith_eq .ofTyped q document fun x hx =>
    hc.agree (hsound.handovers x hx)
  rw [hsame]
  exact reported_traceApply standard q document

/-- A query whose check reports nothing under the built-in functions is applied without a report
but about patterns, no test is made of a value, and no outcome of a test is used as a value.  All
results that the run reads are looked at here: what other readings make of other results does not
show in it. -/
theorem sound_of_checkQuery (q : Query) (document : Json)
    (h : (standard.checkQuery q).diagnostics = []) :
    (∀ d ∈ (standard.apply q document).diagnostics,
        ∃ pattern reason, d = .invalidPattern pattern reason) ∧
      (standard.traceApply q document).reported = standard.apply q document ∧
      (∀ result, .test result ∈ (standard.traceApply q document).handovers →
        result.type ≠ .value) ∧
      (∀ result, .scalar result ∈ (standard.traceApply q document).handovers →
        result.type ≠ .logical) ∧
      ∀ c : Coercions,
        (∀ x ∈ (standard.traceApply q document).handovers, Coercions.ofTyped.Agree c x) →
          standard.traceApplyWith c q document = standard.traceApply q document := by
  have hsound : (standard.traceApply q document).Sound := sound_traceApplyWith q document h
  have herase := reported_traceApply standard q document
  refine ⟨?_, herase, ?_, ?_, fun c => standard.traceApplyWith_eq .ofTyped q document⟩
  · rw [← herase]
    exact hsound.diagnostics
  · intro result hresult
    obtain htype | htype := hsound.handovers _ hresult
    · simp [htype]
    · simp [htype]
  · intro result hresult
    obtain htype | htype := hsound.handovers _ hresult
    · simp [htype]
    · simp [htype]

/-- The query `$[?!@.a && (count(@[*]) == length(@.b) || match(@.c, '['))]`. -/
def callingQuery : Query :=
  ⟨.root, [.filter (.and (.not (.query .current [.key "a"]))
    (.or
      (.compare .eq (.call "count" [.query .current [.wildcard]])
        (.call "length" [.query .current [.key "b"]]))
      (.call "match" [.query .current [.key "c"], .literal (.string "[")])))]⟩

/-- The only child makes eleven handovers: a test for each operand of a logical operator and for the
filter, and a scalar for each operand of `==` and for each argument of `length` and `match`.  What
has no length is compared as the absent scalar. -/
theorem sound_of_checkQuery_callingQuery :
    let document : Json := .array [.object [("b", .bool true), ("c", .string "y")]]
    (standard.checkQuery callingQuery).diagnostics = [] ∧
      (standard.traceApply callingQuery document).handovers =
        [.test (.nodes []), .scalar (.nodes [.bool true]),
          .scalar (.value (some (.ofNat 2))), .scalar (.value none),
          .scalar (.nodes [.string "y"]), .scalar (.value (some (.string "["))),
          .test (.logical false), .test (.logical false),
          .test (.logical true), .test (.logical false), .test (.logical false)] ∧
      (∀ d ∈ (standard.apply callingQuery document).diagnostics,
        ∃ pattern reason, d = .invalidPattern pattern reason) ∧
      (standard.traceApply callingQuery document).reported =
        standard.apply callingQuery document ∧
      (∀ result, .test result ∈ (standard.traceApply callingQuery document).handovers →
        result.type ≠ .value) ∧
      (∀ result, .scalar result ∈ (standard.traceApply callingQuery document).handovers →
        result.type ≠ .logical) ∧
      ∀ c : Coercions,
        (∀ x ∈ (standard.traceApply callingQuery document).handovers,
          Coercions.ofTyped.Agree c x) →
          standard.traceApplyWith c callingQuery document =
            standard.traceApply callingQuery document := by
  intro document
  have hsilent : (standard.checkQuery callingQuery).diagnostics = [] := by decide +kernel
  exact ⟨hsilent, rfl, sound_of_checkQuery callingQuery document hsilent⟩

end Registry

end JsonPath
