import JsonPath.Proofs.Typing.WellTyped
import Mathlib.Tactic.SplitIfs

/-!
# What the check of a query decides

`Registry.wellTypedQuery_iff` says exactly what the check notices: a query is well-typed if and
only if the check reports nothing and the arguments that it skips are well-typed tests.  A skipped
argument is never noticed, so a query can be ill-typed without a report.  Only a function with a
logical parameter has such arguments, since elsewhere the check reports them.

The check of a call looks at its arguments twice, once for their declared types and once for the
queries among them.  The two walks are taken together here (`Registry.ArgumentsAgree`), because
neither decides a judgement alone.
-/

namespace JsonPath.Registry

variable {r : Registry}

/-! ## The declared type -/

/-- The declared type of the expression is accepted where `required` is required, and nothing is
reported on the way to it. -/
def Accepts (r : Registry) (e : Expr) (required : FunctionType) : Prop :=
  (r.declaredType e).diagnostics = [] ∧ fits (r.declaredType e).value required

lemma fits_iff {declared : Option FunctionType} {required : FunctionType} :
    fits declared required ↔ declared = some required ∨ declared = some .nodes := by
  cases declared with
  | none => simp [fits]
  | some t => simp [fits]

lemma judge_silent_iff {e : Expr} {declared : Option FunctionType} {required : FunctionType}
    {context : Option String} :
    (judge e declared required context).diagnostics = [] ↔ fits declared required := by
  unfold judge
  split_ifs with h
  · simp [h]
  · simp [h]

lemma declaredAs_silent_iff {e : Expr} {required : FunctionType} :
    (r.declaredAs e required).diagnostics = [] ↔ r.Accepts e required := by
  rw [declaredAs, Reported.diagnostics_bind, List.append_eq_nil_iff, judge_silent_iff]
  rfl

lemma checkArguments_silent_iff {context : String} {e : Expr} {es : List Expr} {t : FunctionType}
    {ts : List FunctionType} :
    (r.checkArguments context (e :: es) (t :: ts)).diagnostics = [] ↔
      r.Accepts e t ∧ (r.checkArguments context es ts).diagnostics = [] := by
  rw [checkArguments]
  simp only [Reported.diagnostics_bind, List.append_eq_nil_iff, judge_silent_iff]
  rw [← and_assoc]
  rfl

/-- An expression that is no call has its type whatever it holds. -/
lemma accepts_iff {e : Expr} {declared required : FunctionType}
    (h : r.declaredType e = pure (some declared)) :
    r.Accepts e required ↔ declared = required ∨ declared = .nodes := by
  rw [Accepts, h, fits_iff]
  simp

/-- The two walks over the arguments of a call, and the arguments that both skip, decide whether
the arguments are well-typed. -/
def ArgumentsAgree (r : Registry) (es : List Expr) : Prop :=
  ∀ context ts, es.length = ts.length →
    (WellTypedArguments r es ts ↔
      (r.checkArguments context es ts).diagnostics = [] ∧ (r.checkNested es).diagnostics = [] ∧
        ∀ e ∈ Expr.skippedArguments es, WellTypedTest r e)

/-- A call that is accepted is a well-typed call with a fitting result. -/
lemma accepts_call_iff {function : String} {arguments : List Expr} {required : FunctionType}
    (h : ArgumentsAgree r arguments) :
    (∃ returns, WellTypedCall r function arguments returns ∧
        (returns = required ∨ returns = .nodes)) ↔
      r.Accepts (.call function arguments) required ∧ (r.checkNested arguments).diagnostics = [] ∧
        ∀ e ∈ Expr.skippedArguments arguments, WellTypedTest r e := by
  simp only [wellTypedCall_iff, Accepts, fits_iff]
  cases hsignature : r.signature? function with
  | none => simp [declaredType, hsignature]
  | some signature =>
    by_cases harity : signature.arity = arguments.length
    · have hargs := h (Expr.call function arguments).text signature.parameters harity.symm
      have hdeclared : r.declaredType (.call function arguments) = do
          r.checkArguments (Expr.call function arguments).text arguments signature.parameters
          return some signature.returns := by
        rw [declaredType, hsignature]
        simp only [if_pos harity]
      rw [hdeclared]
      simp only [Option.some.injEq, exists_eq_left', Reported.diagnostics_bind,
        Reported.value_bind, Reported.diagnostics_pure, Reported.value_pure, List.append_nil]
      constructor
      · rintro ⟨returns, ⟨rfl, harguments⟩, hreturns⟩
        obtain ⟨hcheck, hnested, hskipped⟩ := hargs.1 harguments
        exact ⟨⟨hcheck, hreturns⟩, hnested, hskipped⟩
      · rintro ⟨⟨hcheck, hreturns⟩, hnested, hskipped⟩
        exact ⟨_, ⟨rfl, hargs.2 ⟨hcheck, hnested, hskipped⟩⟩, hreturns⟩
    · -- A call with a wrong number of arguments is reported, and no judgement holds of it.
      constructor
      · rintro ⟨returns, ⟨_, ⟨rfl⟩, _, harguments⟩, _⟩
        exact absurd harguments.length_eq.symm harity
      · rintro ⟨⟨hcheck, _⟩, _⟩
        simp [declaredType, hsignature, if_neg harity] at hcheck

/-! ## One argument -/

/-- An argument with an operator at its top fits a logical parameter, if it is a test. -/
lemma wellTypedArgument_operator_iff {e : Expr} {t : FunctionType}
    (hdeclared : r.declaredType e = pure (some .logical)) (hcomparable : ¬WellTypedComparable r e)
    (hnodes : ¬WellTypedArgument r e .nodes) :
    WellTypedArgument r e t ↔ r.Accepts e t ∧ WellTypedTest r e := by
  rw [accepts_iff hdeclared]
  constructor
  · intro h
    cases h with
    | value h => exact absurd h hcomparable
    | logical h => exact ⟨.inl rfl, h⟩
    | nodesQuery anchor h => exact absurd (.nodesQuery anchor h) hnodes
    | nodesCall h => exact absurd (.nodesCall h) hnodes
  · rintro ⟨ht | ht, h⟩
    · subst ht
      exact .logical h
    · cases ht

lemma wellTypedArgument_query_iff {anchor : Anchor} {segments : List Segment}
    {t : FunctionType} :
    WellTypedArgument r (.query anchor segments) t ↔ WellTypedSegments r segments := by
  constructor
  · intro h
    cases h with
    | value h => cases h with | query _ h => exact h
    | logical h => cases h with | query _ h => exact h
    | nodesQuery _ h => exact h
  · intro h
    cases t with
    | value => exact .value (.query anchor h)
    | nodes => exact .nodesQuery anchor h
    | logical => exact .logical (.query anchor h)

lemma wellTypedArgument_call_iff {function : String} {arguments : List Expr}
    {t : FunctionType} :
    WellTypedArgument r (.call function arguments) t ↔
      ∃ returns, WellTypedCall r function arguments returns ∧ (returns = t ∨ returns = .nodes) := by
  constructor
  · intro h
    cases h with
    | value h => cases h with | call h hreturns => exact ⟨_, h, hreturns⟩
    | logical h => cases h with | call h hreturns => exact ⟨_, h, hreturns⟩
    | nodesCall h => exact ⟨_, h, .inl rfl⟩
  · rintro ⟨returns, h, hreturns⟩
    cases t with
    | value => exact .value (.call h hreturns)
    | nodes =>
      obtain rfl : returns = .nodes := by simpa using hreturns
      exact .nodesCall h
    | logical => exact .logical (.call h hreturns)

/-- A literal fits a value parameter only. -/
lemma wellTypedArgument_literal_iff {value : Json} {t : FunctionType} :
    WellTypedArgument r (.literal value) t ↔ r.Accepts (.literal value) t := by
  have hdeclared : r.declaredType (.literal value) = pure (some .value) := rfl
  rw [accepts_iff hdeclared]
  constructor
  · intro h
    cases h with
    | value h => exact .inl rfl
    | logical h => cases h
  · rintro (rfl | h)
    · exact .value (.literal value)
    · cases h

/-- An operand of a comparison with an operator at its top is always reported. -/
lemma checkComparable_operator {e : Expr} (hdeclared : r.declaredType e = pure (some .logical))
    (hcheck : (r.checkComparable e).diagnostics = (r.declaredAs e .value).diagnostics) :
    (r.checkComparable e).diagnostics ≠ [] := by
  intro h
  rw [hcheck, declaredAs_silent_iff, accepts_iff hdeclared] at h
  simp at h

lemma wellTypedComparable_operator_iff {e : Expr} {skipped : Prop}
    (hcheck : (r.checkComparable e).diagnostics ≠ []) (hcomparable : ¬WellTypedComparable r e) :
    WellTypedComparable r e ↔ (r.checkComparable e).diagnostics = [] ∧ skipped :=
  ⟨fun h => absurd h hcomparable, fun h => absurd h.1 hcheck⟩

/-! ## All arguments -/

lemma argumentsAgree_nil : ArgumentsAgree r [] := by
  intro context ts hlength
  obtain rfl := List.length_eq_zero_iff.1 hlength.symm
  refine ⟨fun _ => ⟨?_, ?_, ?_⟩, fun _ => .nil⟩
  · simp [checkArguments]
  · simp [checkNested]
  · simp [Expr.skippedArguments]

/-- One more argument, of which `nested` says what the second walk finds in it and `skipped` what
both walks leave out. -/
lemma ArgumentsAgree.cons {e : Expr} {es : List Expr} (nested skipped : Prop)
    (hnested : (r.checkNested (e :: es)).diagnostics = [] ↔
      nested ∧ (r.checkNested es).diagnostics = [])
    (hskipped : (∀ x ∈ Expr.skippedArguments (e :: es), WellTypedTest r x) ↔
      skipped ∧ ∀ x ∈ Expr.skippedArguments es, WellTypedTest r x)
    (he : ∀ t, WellTypedArgument r e t ↔ r.Accepts e t ∧ nested ∧ skipped)
    (hes : ArgumentsAgree r es) : ArgumentsAgree r (e :: es) := by
  intro context ts hlength
  obtain ⟨t, ts, rfl⟩ := List.exists_cons_of_length_eq_add_one hlength.symm
  have hes := hes context ts (Nat.succ.inj hlength)
  rw [wellTypedArguments_cons, checkArguments_silent_iff, hnested, hskipped, he t, hes]
  constructor
  · rintro ⟨⟨haccepts, hnested, hskipped⟩, hcheck, hrest, hothers⟩
    exact ⟨⟨haccepts, hcheck⟩, ⟨hnested, hrest⟩, hskipped, hothers⟩
  · rintro ⟨⟨haccepts, hcheck⟩, ⟨hnested, hrest⟩, hskipped, hothers⟩
    exact ⟨⟨haccepts, hnested, hskipped⟩, hcheck, hrest, hothers⟩

/-- An argument that both walks leave out. -/
lemma ArgumentsAgree.cons_operator {e : Expr} {es : List Expr}
    (hdeclared : r.declaredType e = pure (some .logical)) (hcomparable : ¬WellTypedComparable r e)
    (hnodes : ¬WellTypedArgument r e .nodes)
    (hnested : r.checkNested (e :: es) = r.checkNested es)
    (hskipped : Expr.skippedArguments (e :: es) = e :: Expr.skippedArguments es)
    (hes : ArgumentsAgree r es) : ArgumentsAgree r (e :: es) := by
  refine .cons True (WellTypedTest r e) ?_ ?_ ?_ hes
  · rw [hnested, true_and]
  · rw [hskipped, List.forall_mem_cons]
  · intro t
    rw [wellTypedArgument_operator_iff hdeclared hcomparable hnodes, true_and]

/-- An argument in which there is nothing to check. -/
lemma ArgumentsAgree.cons_plain {e : Expr} {es : List Expr}
    (hnested : r.checkNested (e :: es) = r.checkNested es)
    (hskipped : Expr.skippedArguments (e :: es) = Expr.skippedArguments es)
    (he : ∀ t, WellTypedArgument r e t ↔ r.Accepts e t) (hes : ArgumentsAgree r es) :
    ArgumentsAgree r (e :: es) := by
  refine .cons True True ?_ ?_ ?_ hes
  · rw [hnested, true_and]
  · rw [hskipped, true_and]
  · intro t
    rw [he t, true_and, and_true]

/-! ## The induction -/

mutual

theorem wellTypedSegments_iff (ss : List Segment) :
    WellTypedSegments r ss ↔ (r.checkSegments ss).diagnostics = [] ∧
      ∀ e ∈ Segment.skippedTests ss, WellTypedTest r e := by
  match ss with
  | [] => exact ⟨fun _ => ⟨by simp [checkSegments], by simp [Segment.skippedTests]⟩, fun _ => .nil⟩
  | s :: rest =>
    rw [wellTypedSegments_cons, wellTypedSegment_iff s, wellTypedSegments_iff rest]
    simp only [checkSegments, Segment.skippedTests, Reported.diagnostics_bind,
      List.append_eq_nil_iff, List.forall_mem_append]
    exact and_and_and_comm

lemma wellTypedSegment_iff (s : Segment) :
    WellTypedSegment r s ↔ (r.checkSegment s).diagnostics = [] ∧
      ∀ e ∈ s.skipped, WellTypedTest r e := by
  cases s with
  | key name =>
    exact ⟨fun _ => ⟨by simp [checkSegment], by simp [Segment.skipped]⟩, fun _ => .key _⟩
  | index i =>
    exact ⟨fun _ => ⟨by simp [checkSegment], by simp [Segment.skipped]⟩, fun _ => .index _⟩
  | slice start stop step =>
    exact ⟨fun _ => ⟨by simp [checkSegment], by simp [Segment.skipped]⟩, fun _ => .slice _ _ _⟩
  | wildcard =>
    exact ⟨fun _ => ⟨by simp [checkSegment], by simp [Segment.skipped]⟩, fun _ => .wildcard⟩
  | union selectors =>
    rw [checkSegment, Segment.skipped, ← wellTypedSegments_iff selectors]
    exact ⟨fun h => by cases h; assumption, .union⟩
  | descendant selector =>
    rw [checkSegment, Segment.skipped, ← wellTypedSegment_iff selector]
    exact ⟨fun h => by cases h; assumption, .descendant⟩
  | filter test =>
    rw [checkSegment, Segment.skipped, ← wellTypedTest_iff test]
    exact ⟨fun h => by cases h; assumption, .filter⟩

theorem wellTypedTest_iff (e : Expr) :
    WellTypedTest r e ↔ (r.checkTest e).diagnostics = [] ∧
      ∀ x ∈ e.skipped, WellTypedTest r x := by
  cases e with
  | literal value =>
    have hdeclared : r.declaredType (.literal value) = pure (some .value) := rfl
    refine ⟨nofun, fun h => ?_⟩
    simp [checkTest, declaredAs_silent_iff, accepts_iff hdeclared] at h
  | query anchor segments =>
    rw [checkTest, Expr.skipped, ← wellTypedSegments_iff segments]
    exact ⟨fun h => by cases h; assumption, .query anchor⟩
  | not e =>
    rw [checkTest, Expr.skipped, ← wellTypedTest_iff e]
    exact ⟨fun h => by cases h; assumption, .not⟩
  | and left right =>
    simp only [checkTest, Expr.skipped, Reported.diagnostics_bind, List.append_eq_nil_iff,
      List.forall_mem_append]
    rw [and_and_and_comm, ← wellTypedTest_iff left, ← wellTypedTest_iff right]
    exact ⟨fun h => by cases h with | and hl hr => exact ⟨hl, hr⟩, fun h => .and h.1 h.2⟩
  | or left right =>
    simp only [checkTest, Expr.skipped, Reported.diagnostics_bind, List.append_eq_nil_iff,
      List.forall_mem_append]
    rw [and_and_and_comm, ← wellTypedTest_iff left, ← wellTypedTest_iff right]
    exact ⟨fun h => by cases h with | or hl hr => exact ⟨hl, hr⟩, fun h => .or h.1 h.2⟩
  | compare op left right =>
    simp only [checkTest, Expr.skipped, Reported.diagnostics_bind, List.append_eq_nil_iff,
      List.forall_mem_append]
    rw [and_and_and_comm, ← wellTypedComparable_iff left, ← wellTypedComparable_iff right]
    exact ⟨fun h => by cases h with | compare _ hl hr => exact ⟨hl, hr⟩,
      fun h => .compare op h.1 h.2⟩
  | call function arguments =>
    simp only [checkTest, Expr.skipped, Reported.diagnostics_bind, List.append_eq_nil_iff,
      declaredAs_silent_iff, and_assoc]
    rw [← accepts_call_iff (argumentsAgree arguments), ← wellTypedArgument_call_iff]
    exact ⟨.logical, fun h => by cases h; assumption⟩

lemma wellTypedComparable_iff (e : Expr) :
    WellTypedComparable r e ↔ (r.checkComparable e).diagnostics = [] ∧
      ∀ x ∈ e.skipped, WellTypedTest r x := by
  cases e with
  | literal value =>
    exact ⟨fun _ => ⟨by simp [checkComparable], by simp [Expr.skipped]⟩, fun _ => .literal value⟩
  | query anchor segments =>
    rw [checkComparable, Expr.skipped, ← wellTypedSegments_iff segments]
    exact ⟨fun h => by cases h; assumption, .query anchor⟩
  | call function arguments =>
    simp only [checkComparable, Expr.skipped, Reported.diagnostics_bind, List.append_eq_nil_iff,
      declaredAs_silent_iff, and_assoc]
    rw [← accepts_call_iff (argumentsAgree arguments), ← wellTypedArgument_call_iff]
    exact ⟨.value, fun h => by cases h; assumption⟩
  | not e =>
    exact wellTypedComparable_operator_iff
      (checkComparable_operator rfl (by simp [checkComparable])) nofun
  | and left right =>
    exact wellTypedComparable_operator_iff
      (checkComparable_operator rfl (by simp [checkComparable])) nofun
  | or left right =>
    exact wellTypedComparable_operator_iff
      (checkComparable_operator rfl (by simp [checkComparable])) nofun
  | compare op left right =>
    exact wellTypedComparable_operator_iff
      (checkComparable_operator rfl (by simp [checkComparable])) nofun

theorem argumentsAgree (es : List Expr) : ArgumentsAgree r es := by
  match es with
  | [] => exact argumentsAgree_nil
  | .literal value :: rest =>
    refine .cons_plain ?_ ?_ ?_ (argumentsAgree rest)
    · simp [checkNested]
    · simp [Expr.skippedArguments]
    · exact fun t => wellTypedArgument_literal_iff
  | .query anchor segments :: rest =>
    have hdeclared : r.declaredType (.query anchor segments) = pure (some .nodes) := rfl
    refine .cons ((r.checkSegments segments).diagnostics = [])
      (∀ x ∈ Segment.skippedTests segments, WellTypedTest r x) ?_ ?_ ?_ (argumentsAgree rest)
    · rw [checkNested, Reported.diagnostics_bind, List.append_eq_nil_iff]
    · rw [Expr.skippedArguments, List.forall_mem_append]
    · intro t
      rw [wellTypedArgument_query_iff, wellTypedSegments_iff segments, accepts_iff hdeclared]
      simp
  | .call function arguments :: rest =>
    refine .cons ((r.checkNested arguments).diagnostics = [])
      (∀ x ∈ Expr.skippedArguments arguments, WellTypedTest r x) ?_ ?_ ?_ (argumentsAgree rest)
    · rw [checkNested, Reported.diagnostics_bind, List.append_eq_nil_iff]
    · rw [Expr.skippedArguments, List.forall_mem_append]
    · intro t
      rw [wellTypedArgument_call_iff, accepts_call_iff (argumentsAgree arguments)]
  | .not e :: rest =>
    exact .cons_operator rfl nofun nofun (by simp [checkNested]) (by simp [Expr.skippedArguments])
      (argumentsAgree rest)
  | .and left right :: rest =>
    exact .cons_operator rfl nofun nofun (by simp [checkNested]) (by simp [Expr.skippedArguments])
      (argumentsAgree rest)
  | .or left right :: rest =>
    exact .cons_operator rfl nofun nofun (by simp [checkNested]) (by simp [Expr.skippedArguments])
      (argumentsAgree rest)
  | .compare op left right :: rest =>
    exact .cons_operator rfl nofun nofun (by simp [checkNested]) (by simp [Expr.skippedArguments])
      (argumentsAgree rest)

end

/-! ## Functions without logical parameters -/

/-- No function of the registry has a logical parameter. -/
def HasNoLogicalParameter (r : Registry) : Prop :=
  ∀ function signature, r.signature? function = some signature →
    .logical ∉ signature.parameters

/-- A call that is accepted has as many arguments as parameters, and they are accepted. -/
lemma Accepts.exists_signature {function : String} {arguments : List Expr}
    {required : FunctionType} (h : r.Accepts (.call function arguments) required) :
    ∃ signature, r.signature? function = some signature ∧
      arguments.length = signature.parameters.length ∧
      (r.checkArguments (Expr.call function arguments).text arguments
        signature.parameters).diagnostics = [] := by
  obtain ⟨hsilent, -⟩ := h
  rw [declaredType] at hsilent
  cases hsignature : r.signature? function with
  | none => simp [hsignature] at hsilent
  | some signature =>
    by_cases harity : signature.arity = arguments.length
    · refine ⟨signature, rfl, harity.symm, ?_⟩
      simpa [hsignature, harity] using hsilent
    · simp [hsignature, harity] at hsilent

/-- Where no parameter is logical, a silent first walk leaves no argument to skip. -/
def NothingSkipped (r : Registry) (es : List Expr) : Prop :=
  ∀ context ts, es.length = ts.length → .logical ∉ ts →
    (r.checkArguments context es ts).diagnostics = [] → (r.checkNested es).diagnostics = [] →
      Expr.skippedArguments es = []

lemma NothingSkipped.of_accepts {function : String} {arguments : List Expr}
    {required : FunctionType} (hr : r.HasNoLogicalParameter) (h : NothingSkipped r arguments)
    (haccepts : r.Accepts (.call function arguments) required)
    (hnested : (r.checkNested arguments).diagnostics = []) :
    Expr.skippedArguments arguments = [] := by
  obtain ⟨signature, hsignature, hlength, hcheck⟩ := haccepts.exists_signature
  exact h _ _ hlength (hr _ _ hsignature) hcheck hnested

/-- An operator at the top of an argument is reported where the parameter is not logical. -/
lemma nothingSkipped_operator {e : Expr} {es : List Expr}
    (hdeclared : r.declaredType e = pure (some .logical)) : NothingSkipped r (e :: es) := by
  intro context ts hlength hlogical hcheck _
  obtain ⟨t, ts, rfl⟩ := List.exists_cons_of_length_eq_add_one hlength.symm
  rw [checkArguments_silent_iff, accepts_iff hdeclared] at hcheck
  obtain ⟨ht | ht, -⟩ := hcheck
  · exact absurd (ht ▸ List.mem_cons_self) hlogical
  · cases ht

lemma NothingSkipped.cons {e : Expr} {es : List Expr} (hes : NothingSkipped r es)
    (he : ∀ t, r.Accepts e t → (r.checkNested (e :: es)).diagnostics = [] →
      (r.checkNested es).diagnostics = [] ∧
        (Expr.skippedArguments es = [] → Expr.skippedArguments (e :: es) = [])) :
    NothingSkipped r (e :: es) := by
  intro context ts hlength hlogical hcheck hnested
  obtain ⟨t, ts, rfl⟩ := List.exists_cons_of_length_eq_add_one hlength.symm
  rw [checkArguments_silent_iff] at hcheck
  obtain ⟨hothers, hskipped⟩ := he t hcheck.1 hnested
  have hlogical' : .logical ∉ ts := fun h => hlogical (List.mem_cons_of_mem t h)
  exact hskipped (hes context ts (Nat.succ.inj hlength) hlogical' hcheck.2 hothers)

mutual

lemma skippedTests_eq_nil (hr : r.HasNoLogicalParameter) (ss : List Segment)
    (h : (r.checkSegments ss).diagnostics = []) : Segment.skippedTests ss = [] := by
  match ss with
  | [] => rfl
  | s :: rest =>
    rw [checkSegments, Reported.diagnostics_bind, List.append_eq_nil_iff] at h
    rw [Segment.skippedTests, skipped_segment_eq_nil hr s h.1, skippedTests_eq_nil hr rest h.2]
    rfl

lemma skipped_segment_eq_nil (hr : r.HasNoLogicalParameter) (s : Segment)
    (h : (r.checkSegment s).diagnostics = []) : s.skipped = [] := by
  cases s with
  | union selectors => exact skippedTests_eq_nil hr selectors h
  | descendant selector => exact skipped_segment_eq_nil hr selector h
  | filter test => exact skipped_test_eq_nil hr test h
  | _ => rfl

lemma skipped_test_eq_nil (hr : r.HasNoLogicalParameter) (e : Expr)
    (h : (r.checkTest e).diagnostics = []) : e.skipped = [] := by
  cases e with
  | literal value => rfl
  | query anchor segments => exact skippedTests_eq_nil hr segments h
  | not e => exact skipped_test_eq_nil hr e h
  | and left right =>
    rw [checkTest, Reported.diagnostics_bind, List.append_eq_nil_iff] at h
    rw [Expr.skipped, skipped_test_eq_nil hr left h.1, skipped_test_eq_nil hr right h.2]
    rfl
  | or left right =>
    rw [checkTest, Reported.diagnostics_bind, List.append_eq_nil_iff] at h
    rw [Expr.skipped, skipped_test_eq_nil hr left h.1, skipped_test_eq_nil hr right h.2]
    rfl
  | compare op left right =>
    rw [checkTest, Reported.diagnostics_bind, List.append_eq_nil_iff] at h
    rw [Expr.skipped, skipped_comparable_eq_nil hr left h.1, skipped_comparable_eq_nil hr right h.2]
    rfl
  | call function arguments =>
    rw [checkTest, Reported.diagnostics_bind, List.append_eq_nil_iff, declaredAs_silent_iff] at h
    exact (nothingSkipped hr arguments).of_accepts hr h.1 h.2

lemma skipped_comparable_eq_nil (hr : r.HasNoLogicalParameter) (e : Expr)
    (h : (r.checkComparable e).diagnostics = []) : e.skipped = [] := by
  cases e with
  | literal value => rfl
  | query anchor segments => exact skippedTests_eq_nil hr segments h
  | call function arguments =>
    rw [checkComparable, Reported.diagnostics_bind, List.append_eq_nil_iff,
      declaredAs_silent_iff] at h
    exact (nothingSkipped hr arguments).of_accepts hr h.1 h.2
  | not e => exact absurd h (checkComparable_operator rfl (by simp [checkComparable]))
  | and left right => exact absurd h (checkComparable_operator rfl (by simp [checkComparable]))
  | or left right => exact absurd h (checkComparable_operator rfl (by simp [checkComparable]))
  | compare op left right =>
    exact absurd h (checkComparable_operator rfl (by simp [checkComparable]))

theorem nothingSkipped (hr : r.HasNoLogicalParameter) (es : List Expr) : NothingSkipped r es := by
  match es with
  | [] => exact fun _ _ _ _ _ _ => rfl
  | .literal value :: rest =>
    refine .cons (nothingSkipped hr rest) fun t _ hnested => ?_
    simpa [checkNested, Expr.skippedArguments] using hnested
  | .query anchor segments :: rest =>
    refine .cons (nothingSkipped hr rest) fun t _ hnested => ?_
    rw [checkNested, Reported.diagnostics_bind, List.append_eq_nil_iff] at hnested
    refine ⟨hnested.2, fun hrest => ?_⟩
    rw [Expr.skippedArguments, skippedTests_eq_nil hr segments hnested.1, hrest]
    rfl
  | .call function arguments :: rest =>
    refine .cons (nothingSkipped hr rest) fun t haccepts hnested => ?_
    rw [checkNested, Reported.diagnostics_bind, List.append_eq_nil_iff] at hnested
    refine ⟨hnested.2, fun hrest => ?_⟩
    have hskipped := (nothingSkipped hr arguments).of_accepts hr haccepts hnested.1
    rw [Expr.skippedArguments, hskipped, hrest]
    rfl
  | .not e :: rest => exact nothingSkipped_operator rfl
  | .and left right :: rest => exact nothingSkipped_operator rfl
  | .or left right :: rest => exact nothingSkipped_operator rfl
  | .compare op left right :: rest => exact nothingSkipped_operator rfl

end

/-- Where no parameter is logical, the check notices every ill-typed filter. -/
lemma wellTypedSegments_iff_of_hasNoLogicalParameter (hr : r.HasNoLogicalParameter)
    (ss : List Segment) : WellTypedSegments r ss ↔ (r.checkSegments ss).diagnostics = [] := by
  rw [wellTypedSegments_iff ss]
  refine ⟨And.left, fun h => ⟨h, ?_⟩⟩
  rw [skippedTests_eq_nil hr ss h]
  simp

/-! ## What the check notices -/

/-- A query is well-typed if and only if its check reports nothing and the arguments that the check
skips are well-typed tests.  So silence stands for well-typedness exactly where it takes the
skipped arguments for granted with right. -/
theorem wellTypedQuery_iff (r : Registry) (q : Query) :
    (WellTypedQuery r q ↔
        (r.checkQuery q).diagnostics = [] ∧ ∀ e ∈ q.skippedTests, WellTypedTest r e) ∧
      (((r.checkQuery q).diagnostics = [] ↔ WellTypedQuery r q) ↔
        ((r.checkQuery q).diagnostics = [] → ∀ e ∈ q.skippedTests, WellTypedTest r e)) := by
  have hiff : WellTypedQuery r q ↔
      (r.checkQuery q).diagnostics = [] ∧ ∀ e ∈ q.skippedTests, WellTypedTest r e :=
    wellTypedSegments_iff q.segments
  refine ⟨hiff, ?_⟩
  rw [hiff]
  exact ⟨fun h hsilent => (h.1 hsilent).2, fun h => ⟨fun hs => ⟨hs, h hs⟩, And.left⟩⟩

/-- A registry with one function, which has a logical parameter. -/
def withLogicalParameter : Registry := empty.register "f" ⟨.logical, [.logical]⟩

/-- The query `$[?f(!@[?nope()])]`, whose inner filter calls an unknown function. -/
def skippingQuery : Query :=
  ⟨.root, [.filter (.call "f" [.not (.query .current [.filter (.call "nope" [])])])]⟩

/-- The filter of a negated query among the arguments is never checked. -/
theorem check_skips_negated_argument :
    (withLogicalParameter.checkQuery skippingQuery).diagnostics = [] ∧
      ¬WellTypedQuery withLogicalParameter skippingQuery := by
  refine ⟨by decide +kernel, fun h => ?_⟩
  have hskipped := ((wellTypedSegments_iff _).1 h).2 _ List.mem_cons_self
  have hsilent := ((wellTypedTest_iff _).1 hskipped).1
  exact absurd hsilent (by decide +kernel)

end JsonPath.Registry
