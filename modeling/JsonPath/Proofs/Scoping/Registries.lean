import JsonPath.Proofs.Scoping.Dependence

/-!
# What queries see of a registry

Of a registry a query sees its own functions only, and of each of them little: nothing of the
built-in ones, whatever the registry says of their names; of another one its evaluator and, if it
has one, the number of its parameters (`Registry.EvaluatesAlike`).  Everything else can change
without a change of any result or report (`Registry.apply_noninterference`).  So it can be
registered, or replaced, at any time: signatures of the built-in functions, signatures without an
evaluator, and functions that are not called.
-/

namespace JsonPath

/-! ## Tables of names -/

/-- An entry is found under its own name, and every other name keeps what it had. -/
lemma NameTable.find?_insert {α : Type} (name key : String) (entry : α) (table : NameTable α) :
    find? name (insert key entry table) = if key = name then some entry else find? name table := by
  induction table with
  | nil => rfl
  | cons first rest ih =>
    obtain ⟨name', old⟩ := first
    rw [insert]
    split
    · rfl
    · split
      · rename_i hkey
        subst hkey
        simp only [find?]
        split <;> rfl
      · rename_i hkey
        simp only [find?, ih]
        split
        · rename_i hname
          subst hname
          rw [if_neg fun h => hkey h.symm]
        · rfl

namespace Registry

variable {r r' : Registry}

section Lookups

variable (r) (name function : String) (signature : Signature) (evaluator : Evaluator)

@[simp] lemma signature?_register : (r.register name signature).signature? function =
    if name = function then some signature else r.signature? function :=
  NameTable.find?_insert function name signature r.signatures

@[simp] lemma evaluator?_register :
    (r.register name signature).evaluator? function = r.evaluator? function := rfl

@[simp] lemma signature?_registerEvaluator :
    (r.registerEvaluator name signature evaluator).signature? function =
      if name = function then some signature else r.signature? function :=
  signature?_register r name function signature

@[simp] lemma evaluator?_registerEvaluator :
    (r.registerEvaluator name signature evaluator).evaluator? function =
      if name = function then some evaluator else r.evaluator? function :=
  NameTable.find?_insert function name evaluator r.evaluators

end Lookups

/-! ## What a call sees -/

/-- Two registries evaluate a function alike: both have no evaluator for it, or both have the same
one and agree on the number of its parameters. -/
def EvaluatesAlike (r r' : Registry) (function : String) : Prop :=
  (r.evaluator? function = none ∧ r'.evaluator? function = none) ∨
    ∃ evaluator, r.evaluator? function = some evaluator ∧
      r'.evaluator? function = some evaluator ∧
      (r.signature? function).map Signature.arity = (r'.signature? function).map Signature.arity

/-- Registries with the same entries of a function evaluate it alike. -/
lemma EvaluatesAlike.of_eq {function : String}
    (hevaluator : r.evaluator? function = r'.evaluator? function)
    (hsignature : r.signature? function = r'.signature? function) :
    EvaluatesAlike r r' function := by
  cases h : r.evaluator? function with
  | none => exact .inl ⟨h, hevaluator ▸ h⟩
  | some evaluator => exact .inr ⟨evaluator, h, hevaluator ▸ h, by rw [hsignature]⟩

lemma EvaluatesAlike.resolveOther_eq {function : String} (h : EvaluatesAlike r r' function)
    (count : Nat) : r.resolveOther function count = r'.resolveOther function count := by
  obtain ⟨hr, hr'⟩ | ⟨evaluator, hr, hr', harity⟩ := h
  · simp only [resolveOther, hr, hr']
  · simp only [resolveOther, hr, hr']
    cases hs : r.signature? function with
    | none =>
      cases hs' : r'.signature? function with
      | none => rfl
      | some signature' => simp [hs, hs'] at harity
    | some signature =>
      cases hs' : r'.signature? function with
      | none => simp [hs, hs'] at harity
      | some signature' =>
        have harity : signature.arity = signature'.arity := by simpa [hs, hs'] using harity
        simp only [harity]

lemma isSome_builtInArity? {function : String} (h : function ∈ NameTable.names builtIns) :
    (builtInArity? function).isSome := by
  obtain ⟨entry, hentry, rfl⟩ := List.mem_map.1 h
  rw [builtInArity?, Option.isSome_map, List.find?_isSome]
  exact ⟨entry, hentry, beq_self_eq_true _⟩

/-- What a call runs depends on the registry only where the function is not built in. -/
lemma resolve_eq {function : String}
    (h : function ∉ NameTable.names builtIns → EvaluatesAlike r r' function) (count : Nat) :
    r.resolve function count = r'.resolve function count := by
  unfold resolve
  split
  · rfl
  · rfl
  · rfl
  · rfl
  · split
    · rfl
    · rename_i hnone
      refine (h fun hmem => ?_).resolveOther_eq count
      simpa [hnone] using isSome_builtInArity? hmem

/-! ## What a query sees -/

/-- Registries that evaluate the functions of a query alike give the same nodes and reports. -/
lemma apply_congr {q : Query}
    (h : ∀ function ∈ q.functions, function ∉ NameTable.names builtIns →
      EvaluatesAlike r r' function) (document : Json) :
    r.apply q document = r'.apply q document :=
  run_congr q.segments
    ⟨fun function hfunction count => resolve_eq (h function hfunction) count, fun _ => rfl⟩
    [document]

/-- The nodes that a query selects and what it reports, in this order, depend on the registry only
through the functions of the query that are not built in: whether they have an evaluator, and if so
which one, and on how many arguments.  So nothing changes when a signature is registered for a
built-in function, for a function without an evaluator or for one that the query does not call, or
an evaluator for a built-in function or one that the query does not call. -/
theorem apply_noninterference (q : Query) (document : Json) :
    (∀ r r' : Registry,
      (∀ function ∈ q.functions, function ∉ NameTable.names builtIns →
        EvaluatesAlike r r' function) →
      r.apply q document = r'.apply q document) ∧
    (∀ (r : Registry) (name : String) (signature : Signature),
      (name ∈ NameTable.names builtIns ∨ r.evaluator? name = none ∨ name ∉ q.functions) →
      (r.register name signature).apply q document = r.apply q document) ∧
    ∀ (r : Registry) (name : String) (signature : Signature) (evaluator : Evaluator),
      (name ∈ NameTable.names builtIns ∨ name ∉ q.functions) →
      (r.registerEvaluator name signature evaluator).apply q document = r.apply q document := by
  refine ⟨fun r r' h => apply_congr h document, ?_, ?_⟩
  · intro r name signature hname
    refine apply_congr (fun function hfunction hother => ?_) document
    by_cases hne : name = function
    · subst hne
      have hnone : r.evaluator? name = none :=
        (hname.resolve_left hother).resolve_right (not_not_intro hfunction)
      exact .inl ⟨hnone, hnone⟩
    · exact .of_eq rfl (by rw [signature?_register, if_neg hne])
  · intro r name signature evaluator hname
    refine apply_congr (fun function hfunction hother => ?_) document
    have hne : name ≠ function := by
      rintro rfl
      exact (hname.resolve_left hother) hfunction
    exact .of_eq (by rw [evaluator?_registerEvaluator, if_neg hne])
      (by rw [signature?_registerEvaluator, if_neg hne])

/-- The query `$..[?f(@, match(@)) && g(length(@)) == 1]`. -/
def mixedCalls : Query :=
  ⟨.root, [.descendant (.filter (.and
    (.call "f" [.query .current [], .call "match" [.query .current []]])
    (.compare .eq (.call "g" [.call "length" [.query .current []]]) (.literal (.ofNat 1)))))]⟩

/-- An evaluator that gives its first argument back. -/
def firstResult : Evaluator := fun results => results.headD (.logical true)

/-- The two registries agree on the evaluator of `f` and on its two parameters, and on nothing
else. -/
theorem apply_noninterference_mixedCalls :
    let r := standard.registerEvaluator "f" ⟨.logical, [.value, .value]⟩ firstResult
    let r' := (empty.register "g" ⟨.value, [.value]⟩).registerEvaluator "f"
      ⟨.nodes, [.nodes, .logical]⟩ firstResult
    (∀ function ∈ mixedCalls.functions, function ∉ NameTable.names builtIns →
        EvaluatesAlike r r' function) ∧
      "match" ∈ NameTable.names builtIns ∧ r.evaluator? "g" = none ∧
      "h" ∉ mixedCalls.functions ∧
      ∀ document, r.apply mixedCalls document = r'.apply mixedCalls document ∧
        (r.register "match" ⟨.value, []⟩).apply mixedCalls document =
          r.apply mixedCalls document ∧
        (r.register "g" ⟨.value, [.value]⟩).apply mixedCalls document =
          r.apply mixedCalls document ∧
        (r.registerEvaluator "h" ⟨.value, []⟩ firstResult).apply mixedCalls document =
          r.apply mixedCalls document := by
  intro r r'
  have hother : ∀ function ∈ mixedCalls.functions, function ∉ NameTable.names builtIns →
      function = "f" ∨ function = "g" := by decide
  have hbuiltIn : "match" ∈ NameTable.names builtIns := by decide
  have hnone : r.evaluator? "g" = none := rfl
  have huncalled : "h" ∉ mixedCalls.functions := by decide
  have halike : ∀ function ∈ mixedCalls.functions, function ∉ NameTable.names builtIns →
      EvaluatesAlike r r' function := by
    intro function hcalled hfunction
    obtain rfl | rfl := hother function hcalled hfunction
    · exact .inr ⟨firstResult, by simp [r], by simp [r'], by simp [r, r', Signature.arity]⟩
    · exact .inl ⟨hnone, rfl⟩
  refine ⟨halike, hbuiltIn, hnone, huncalled, fun document => ?_⟩
  obtain ⟨hsame, hregister, hevaluator⟩ := apply_noninterference mixedCalls document
  exact ⟨hsame r r' halike, hregister r "match" _ (.inl hbuiltIn),
    hregister r "g" _ (.inr (.inl hnone)), hevaluator r "h" _ _ (.inr huncalled)⟩

end Registry

end JsonPath
