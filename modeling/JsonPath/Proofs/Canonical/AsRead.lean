import JsonPath.Proofs.Canonical.Readable
import JsonPath.Proofs.Canonical.Writable
import JsonPath.Proofs.Typing.Check

/-!
# Queries as their text is read

The written form of a number always stands for a number, but a binary64 number can be read as
another one than was written.  `Query.asRead` puts for every number of a query the one that its
written form stands for; it is the query that the canonical text is read as.  It is the query
itself if all its numbers are read back.

Nothing but numbers is replaced.  So the check of the types reports something about `q.asRead` if
and only if it does about `q`, although the texts in its reports can differ.
-/

namespace JsonPath

/-- The number that the written form of a number stands for. -/
def Number.asRead (n : Number) : Number := (Number.ofText? n.text).get n.isSome_ofText?_text

lemma Number.ofText?_text (n : Number) : Number.ofText? n.text = some n.asRead :=
  (Option.some_get n.isSome_ofText?_text).symm

lemma Number.ReadsBack.asRead_eq {n : Number} (h : n.ReadsBack) : n.asRead = n := by
  have hread := n.ofText?_text
  rw [h.ofText?] at hread
  exact (Option.some.inj hread).symm

/-- The scalar that the literal of a scalar stands for. -/
def Json.asRead : Json → Json
  | .number n => .number n.asRead
  | value => value

mutual

/-- A segment with its numbers as they are read. -/
def Segment.asRead : Segment → Segment
  | .union selectors => .union (Segment.allAsRead selectors)
  | .descendant selector => .descendant selector.asRead
  | .filter test => .filter test.asRead
  | s => s

/-- Segments with their numbers as they are read. -/
def Segment.allAsRead : List Segment → List Segment
  | [] => []
  | s :: rest => s.asRead :: Segment.allAsRead rest

/-- An expression with its numbers as they are read. -/
def Expr.asRead : Expr → Expr
  | .literal value => .literal value.asRead
  | .query anchor segments => .query anchor (Segment.allAsRead segments)
  | .not e => .not e.asRead
  | .and l r => .and l.asRead r.asRead
  | .or l r => .or l.asRead r.asRead
  | .compare op l r => .compare op l.asRead r.asRead
  | .call function arguments => .call function (Expr.allAsRead arguments)

/-- Arguments with their numbers as they are read. -/
def Expr.allAsRead : List Expr → List Expr
  | [] => []
  | e :: rest => e.asRead :: Expr.allAsRead rest

end

/-- A query with its numbers as they are read. -/
def Query.asRead (q : Query) : Query := ⟨q.anchor, Segment.allAsRead q.segments⟩

lemma Segment.allAsRead_eq_map (ss : List Segment) :
    Segment.allAsRead ss = ss.map Segment.asRead := by
  induction ss with
  | nil => rfl
  | cons s rest ih => rw [Segment.allAsRead, ih, List.map_cons]

lemma Expr.allAsRead_eq_map (es : List Expr) : Expr.allAsRead es = es.map Expr.asRead := by
  induction es with
  | nil => rfl
  | cons e rest ih => rw [Expr.allAsRead, ih, List.map_cons]

@[simp] lemma Segment.isSingular_asRead (s : Segment) : s.asRead.isSingular = s.isSingular := by
  cases s <;> rfl

@[simp] lemma Segment.allSingular_allAsRead (ss : List Segment) :
    Segment.allSingular (Segment.allAsRead ss) = Segment.allSingular ss := by
  simp [Segment.allSingular, Segment.allAsRead_eq_map, Function.comp_def]

@[simp] lemma Expr.isNegatedBare_asRead (e : Expr) :
    e.asRead.isNegatedBare = e.isNegatedBare := by
  cases e <;> rfl

/-! ## Numbers that are read back -/

mutual

lemma Segment.asRead_eq (s : Segment) (h : ∀ x ∈ s.numbers, x.ReadsBack) : s.asRead = s := by
  cases s with
  | union selectors => rw [Segment.asRead, Segment.allAsRead_eq selectors h]
  | descendant selector => rw [Segment.asRead, Segment.asRead_eq selector h]
  | filter test => rw [Segment.asRead, Expr.asRead_eq test h]
  | _ => rfl

lemma Segment.allAsRead_eq (ss : List Segment)
    (h : ∀ x ∈ Segment.allNumbers ss, x.ReadsBack) : Segment.allAsRead ss = ss := by
  match ss with
  | [] => rfl
  | s :: rest =>
    simp only [Segment.allNumbers, List.forall_mem_append] at h
    rw [Segment.allAsRead, Segment.asRead_eq s h.1, Segment.allAsRead_eq rest h.2]

lemma Expr.asRead_eq (e : Expr) (h : ∀ x ∈ e.numbers, x.ReadsBack) : e.asRead = e := by
  cases e with
  | literal value =>
    cases value with
    | number n =>
      have hn : n.ReadsBack := h n (by simp [Expr.numbers])
      rw [Expr.asRead, Json.asRead, hn.asRead_eq]
    | _ => rfl
  | query anchor segments => rw [Expr.asRead, Segment.allAsRead_eq segments h]
  | not e => rw [Expr.asRead, Expr.asRead_eq e h]
  | and l r =>
    simp only [Expr.numbers, List.forall_mem_append] at h
    rw [Expr.asRead, Expr.asRead_eq l h.1, Expr.asRead_eq r h.2]
  | or l r =>
    simp only [Expr.numbers, List.forall_mem_append] at h
    rw [Expr.asRead, Expr.asRead_eq l h.1, Expr.asRead_eq r h.2]
  | compare op l r =>
    simp only [Expr.numbers, List.forall_mem_append] at h
    rw [Expr.asRead, Expr.asRead_eq l h.1, Expr.asRead_eq r h.2]
  | call function arguments => rw [Expr.asRead, Expr.allAsRead_eq arguments h]

lemma Expr.allAsRead_eq (es : List Expr) (h : ∀ x ∈ Expr.allNumbers es, x.ReadsBack) :
    Expr.allAsRead es = es := by
  match es with
  | [] => rfl
  | e :: rest =>
    simp only [Expr.allNumbers, List.forall_mem_append] at h
    rw [Expr.allAsRead, Expr.asRead_eq e h.1, Expr.allAsRead_eq rest h.2]

end

theorem Query.asRead_eq {q : Query} (h : ∀ x ∈ q.numbers, x.ReadsBack) : q.asRead = q := by
  rw [Query.asRead, Segment.allAsRead_eq q.segments h]

/-! ## Types -/

namespace Registry

variable {r : Registry}

/-- The type of a call does not depend on its arguments. -/
lemma value_declaredType_call (function : String) (arguments : List Expr) :
    (r.declaredType (.call function arguments)).value =
      (r.signature? function).map Signature.returns := by
  rw [declaredType]
  cases r.signature? function with
  | none => rfl
  | some signature =>
    dsimp only
    split_ifs <;> rfl

lemma value_declaredType_asRead (e : Expr) :
    (r.declaredType e.asRead).value = (r.declaredType e).value := by
  cases e with
  | call function arguments => rw [Expr.asRead, value_declaredType_call, value_declaredType_call]
  | _ => rfl

lemma Accepts.of_asRead_iff {e : Expr} {t : FunctionType}
    (h : (r.declaredType e.asRead).diagnostics = [] ↔ (r.declaredType e).diagnostics = []) :
    r.Accepts e.asRead t ↔ r.Accepts e t := by
  rw [Accepts, Accepts, h, value_declaredType_asRead]

mutual

lemma declaredType_asRead_silent_iff (e : Expr) :
    (r.declaredType e.asRead).diagnostics = [] ↔ (r.declaredType e).diagnostics = [] := by
  cases e with
  | call function arguments =>
    rw [Expr.asRead, declaredType, declaredType]
    cases r.signature? function with
    | none => simp
    | some signature =>
      dsimp only
      by_cases harity : signature.arity = arguments.length
      · have hlength : signature.arity = (Expr.allAsRead arguments).length := by
          rw [Expr.allAsRead_eq_map, List.length_map, harity]
        rw [if_pos harity, if_pos hlength]
        simp only [Reported.diagnostics_bind, Reported.diagnostics_pure, List.append_nil]
        exact checkArguments_asRead_silent_iff _ _ arguments signature.parameters
      · have hlength : ¬signature.arity = (Expr.allAsRead arguments).length := by
          rw [Expr.allAsRead_eq_map, List.length_map]
          exact harity
        rw [if_neg harity, if_neg hlength]
        simp
  | _ => rfl

lemma checkArguments_asRead_silent_iff (context context' : String) (es : List Expr)
    (ts : List FunctionType) :
    (r.checkArguments context (Expr.allAsRead es) ts).diagnostics = [] ↔
      (r.checkArguments context' es ts).diagnostics = [] := by
  match es, ts with
  | [], ts => simp [Expr.allAsRead, checkArguments]
  | e :: es, [] => simp [Expr.allAsRead, checkArguments]
  | e :: es, t :: ts =>
    rw [Expr.allAsRead, checkArguments_silent_iff, checkArguments_silent_iff,
      Accepts.of_asRead_iff (declaredType_asRead_silent_iff e),
      checkArguments_asRead_silent_iff context context' es ts]

end

lemma declaredAs_asRead_silent_iff (e : Expr) (t : FunctionType) :
    (r.declaredAs e.asRead t).diagnostics = [] ↔ (r.declaredAs e t).diagnostics = [] := by
  rw [declaredAs_silent_iff, declaredAs_silent_iff,
    Accepts.of_asRead_iff (declaredType_asRead_silent_iff e)]

mutual

lemma checkSegments_asRead_silent_iff (ss : List Segment) :
    (r.checkSegments (Segment.allAsRead ss)).diagnostics = [] ↔
      (r.checkSegments ss).diagnostics = [] := by
  match ss with
  | [] => rfl
  | s :: rest =>
    simp only [Segment.allAsRead, checkSegments, Reported.diagnostics_bind, List.append_eq_nil_iff]
    rw [checkSegment_asRead_silent_iff s, checkSegments_asRead_silent_iff rest]

lemma checkSegment_asRead_silent_iff (s : Segment) :
    (r.checkSegment s.asRead).diagnostics = [] ↔ (r.checkSegment s).diagnostics = [] := by
  cases s with
  | union selectors => exact checkSegments_asRead_silent_iff selectors
  | descendant selector => exact checkSegment_asRead_silent_iff selector
  | filter test => exact checkTest_asRead_silent_iff test
  | _ => rfl

lemma checkTest_asRead_silent_iff (e : Expr) :
    (r.checkTest e.asRead).diagnostics = [] ↔ (r.checkTest e).diagnostics = [] := by
  cases e with
  | literal value =>
    have h := @declaredAs_asRead_silent_iff r (.literal value) .logical
    simpa [Expr.asRead, checkTest] using h
  | query anchor segments => exact checkSegments_asRead_silent_iff segments
  | not e => exact checkTest_asRead_silent_iff e
  | and left right =>
    simp only [Expr.asRead, checkTest, Reported.diagnostics_bind, List.append_eq_nil_iff]
    rw [checkTest_asRead_silent_iff left, checkTest_asRead_silent_iff right]
  | or left right =>
    simp only [Expr.asRead, checkTest, Reported.diagnostics_bind, List.append_eq_nil_iff]
    rw [checkTest_asRead_silent_iff left, checkTest_asRead_silent_iff right]
  | compare op left right =>
    simp only [Expr.asRead, checkTest, Reported.diagnostics_bind, List.append_eq_nil_iff]
    rw [checkComparable_asRead_silent_iff left, checkComparable_asRead_silent_iff right]
  | call function arguments =>
    have h := @declaredAs_asRead_silent_iff r (.call function arguments) .logical
    rw [Expr.asRead] at h ⊢
    simp only [checkTest, Reported.diagnostics_bind, List.append_eq_nil_iff]
    rw [h, checkNested_asRead_silent_iff arguments]

lemma checkComparable_asRead_silent_iff (e : Expr) :
    (r.checkComparable e.asRead).diagnostics = [] ↔ (r.checkComparable e).diagnostics = [] := by
  cases e with
  | literal value => rfl
  | query anchor segments => exact checkSegments_asRead_silent_iff segments
  | call function arguments =>
    have h := @declaredAs_asRead_silent_iff r (.call function arguments) .value
    rw [Expr.asRead] at h ⊢
    simp only [checkComparable, Reported.diagnostics_bind, List.append_eq_nil_iff]
    rw [h, checkNested_asRead_silent_iff arguments]
  | not e =>
    have h := @declaredAs_asRead_silent_iff r (.not e) .value
    simpa [Expr.asRead, checkComparable] using h
  | and left right =>
    have h := @declaredAs_asRead_silent_iff r (.and left right) .value
    simpa [Expr.asRead, checkComparable] using h
  | or left right =>
    have h := @declaredAs_asRead_silent_iff r (.or left right) .value
    simpa [Expr.asRead, checkComparable] using h
  | compare op left right =>
    have h := @declaredAs_asRead_silent_iff r (.compare op left right) .value
    simpa [Expr.asRead, checkComparable] using h

lemma checkNested_asRead_silent_iff (es : List Expr) :
    (r.checkNested (Expr.allAsRead es)).diagnostics = [] ↔ (r.checkNested es).diagnostics = [] := by
  match es with
  | [] => rfl
  | .query anchor segments :: rest =>
    simp only [Expr.allAsRead, Expr.asRead, checkNested, Reported.diagnostics_bind,
      List.append_eq_nil_iff]
    rw [checkSegments_asRead_silent_iff segments, checkNested_asRead_silent_iff rest]
  | .call function arguments :: rest =>
    simp only [Expr.allAsRead, Expr.asRead, checkNested, Reported.diagnostics_bind,
      List.append_eq_nil_iff]
    rw [checkNested_asRead_silent_iff arguments, checkNested_asRead_silent_iff rest]
  | .literal value :: rest => exact checkNested_asRead_silent_iff rest
  | .not e :: rest => exact checkNested_asRead_silent_iff rest
  | .and left right :: rest => exact checkNested_asRead_silent_iff rest
  | .or left right :: rest => exact checkNested_asRead_silent_iff rest
  | .compare op left right :: rest => exact checkNested_asRead_silent_iff rest

end

/-- The check is silent on the query that is read if and only if it is silent on the one that was
written. -/
theorem checkQuery_asRead_silent_iff (r : Registry) (q : Query) :
    (r.checkQuery q.asRead).diagnostics = [] ↔ (r.checkQuery q).diagnostics = [] :=
  checkSegments_asRead_silent_iff q.segments

end Registry

end JsonPath
