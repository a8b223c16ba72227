import JsonPath.Proofs.Registering.Histories

/-!
# Calls of evaluators

A call compares the number of its arguments with the signature that its function has at that time,
and makes no comparison where there is none.  So an evaluator could be handed any number of results
if it ever stood without a signature.  It never does in a registry that operations lead to
(`Registry.exists_follows`), whatever signatures have been registered over it since.

`Registry.calls` lists the calls of evaluators that the evaluation of a query makes, each with the
results that are handed over.  The list is complete: evaluators that act alike on the calls in it
give the same evaluation (`Registry.apply_mapEvaluators`).
-/

namespace JsonPath

/-- A call of an evaluator: the function and the results of its arguments. -/
structure Called where
  function : String
  results : List Typed

namespace Registry

/-- The call that running a callee is, unless the function is built in. -/
def Callee.called (function : String) (results : List Typed) : Callee → List Called
  | .registered _ => [⟨function, results⟩]
  | _ => []

variable (r : Registry) (root : Json)

/-! ## The calls of an evaluation -/

mutual

/-- The calls that `Registry.select` makes. -/
def callsOfSelect (node : Json) : Segment → List Called
  | .union selectors => callsOfSelectAll node selectors
  | .descendant selector =>
    node.containers.flatMap fun container => callsOfSelect container selector
  | .filter test => node.children.flatMap fun child => callsOfEval [child] test
  | _ => []

/-- The calls that `Registry.selectAll` makes. -/
def callsOfSelectAll (node : Json) : List Segment → List Called
  | [] => []
  | s :: rest => callsOfSelect node s ++ callsOfSelectAll node rest

/-- The calls that `Registry.run` makes. -/
def callsOfRun (nodes : NodeList) : List Segment → List Called
  | [] => []
  | s :: rest =>
    nodes.flatMap (fun node => callsOfSelect node s) ++
      callsOfRun (Reported.concatMap (fun node => r.select root node s) nodes).value rest

/-- The calls that `Registry.eval` makes. -/
def callsOfEval (current : NodeList) : Expr → List Called
  | .literal _ => []
  | .query anchor segments => callsOfRun (anchorNodes root anchor current) segments
  | .not e => callsOfEval current e
  | .and left right => callsOfEval current left ++ callsOfEval current right
  | .or left right => callsOfEval current left ++ callsOfEval current right
  | .compare _ left right => callsOfEval current left ++ callsOfEval current right
  | .call function arguments =>
    match r.resolve function arguments.length with
    | .error _ => []
    | .ok callee =>
      callsOfEvalAll current arguments ++
        callee.called function (r.evalAll root current arguments).value

/-- The calls that `Registry.evalAll` makes. -/
def callsOfEvalAll (current : NodeList) : List Expr → List Called
  | [] => []
  | e :: rest => callsOfEval current e ++ callsOfEvalAll current rest

end

/-- The calls that `Registry.apply` makes. -/
def calls (q : Query) (document : Json) : List Called :=
  r.callsOfRun document [document] q.segments

variable {r root}

/-! ## Numbers of arguments -/

lemma length_evalAll (current : NodeList) (es : List Expr) :
    (r.evalAll root current es).value.length = es.length := by
  induction es with
  | nil => rfl
  | cons e rest ih => exact congrArg (· + 1) ih

/-- An evaluator is called by its function, with as many arguments as the signature of the function
says if there is one. -/
lemma of_resolve_registered {function : String} {count : Nat} {evaluator : Evaluator}
    (h : r.resolve function count = .ok (.registered evaluator)) :
    r.evaluator? function = some evaluator ∧
      ∀ signature, r.signature? function = some signature → signature.arity = count := by
  have hother : r.resolveOther function count = .ok (.registered evaluator) := by
    unfold resolve at h
    split at h
    · cases h
    · cases h
    · cases h
    · cases h
    · split at h
      · cases h
      · exact h
  unfold resolveOther at hother
  split at hother
  · cases hother
  · rename_i hevaluator hsignature
    cases hother
    exact ⟨hevaluator, fun signature h => by rw [hsignature] at h; cases h⟩
  · rename_i hevaluator hsignature
    split at hother
    · rename_i harity
      cases hother
      refine ⟨hevaluator, fun signature h => ?_⟩
      rw [hsignature] at h
      cases h
      exact harity
    · cases hother

/-- The call has as many arguments as the signature of its function says. -/
def Admits (r : Registry) (call : Called) : Prop :=
  ∃ signature, r.signature? call.function = some signature ∧ call.results.length = signature.arity

lemma admits_called (h : r.EvaluatorsSigned) {function : String} {count : Nat} {callee : Callee}
    (hcallee : r.resolve function count = .ok callee) {results : List Typed}
    (hresults : results.length = count) :
    ∀ call ∈ callee.called function results, r.Admits call := by
  cases callee with
  | registered evaluator =>
    obtain ⟨hevaluator, harity⟩ := of_resolve_registered hcallee
    obtain ⟨signature, hsignature⟩ :=
      Option.isSome_iff_exists.1 (h function (by rw [hevaluator]; rfl))
    refine List.forall_mem_singleton.2 ⟨signature, hsignature, ?_⟩
    rw [harity signature hsignature]
    exact hresults
  | _ => exact nofun

mutual

lemma admits_select (h : r.EvaluatorsSigned) (node : Json) (s : Segment) :
    ∀ call ∈ r.callsOfSelect root node s, r.Admits call := by
  cases s with
  | union selectors => exact admits_selectAll h node selectors
  | descendant selector =>
    exact List.forall_mem_flatMap.2 fun container _ => admits_select h container selector
  | filter test => exact List.forall_mem_flatMap.2 fun child _ => admits_eval h [child] test
  | _ => exact nofun

lemma admits_selectAll (h : r.EvaluatorsSigned) (node : Json) (ss : List Segment) :
    ∀ call ∈ r.callsOfSelectAll root node ss, r.Admits call := by
  match ss with
  | [] => exact nofun
  | s :: rest =>
    exact List.forall_mem_append.2 ⟨admits_select h node s, admits_selectAll h node rest⟩

lemma admits_run (h : r.EvaluatorsSigned) (nodes : NodeList) (ss : List Segment) :
    ∀ call ∈ r.callsOfRun root nodes ss, r.Admits call := by
  match ss with
  | [] => exact nofun
  | s :: rest =>
    exact List.forall_mem_append.2
      ⟨List.forall_mem_flatMap.2 fun node _ => admits_select h node s, admits_run h _ rest⟩

lemma admits_eval (h : r.EvaluatorsSigned) (current : NodeList) (e : Expr) :
    ∀ call ∈ r.callsOfEval root current e, r.Admits call := by
  cases e with
  | literal value => exact nofun
  | query anchor segments => exact admits_run h _ segments
  | not e => exact admits_eval h current e
  | and left right =>
    exact List.forall_mem_append.2 ⟨admits_eval h current left, admits_eval h current right⟩
  | or left right =>
    exact List.forall_mem_append.2 ⟨admits_eval h current left, admits_eval h current right⟩
  | compare op left right =>
    exact List.forall_mem_append.2 ⟨admits_eval h current left, admits_eval h current right⟩
  | call function arguments =>
    rw [callsOfEval]
    split
    · exact nofun
    · rename_i callee hcallee
      exact List.forall_mem_append.2 ⟨admits_evalAll h current arguments,
        admits_called h hcallee (length_evalAll current arguments)⟩

lemma admits_evalAll (h : r.EvaluatorsSigned) (current : NodeList) (es : List Expr) :
    ∀ call ∈ r.callsOfEvalAll root current es, r.Admits call := by
  match es with
  | [] => exact nofun
  | e :: rest =>
    exact List.forall_mem_append.2 ⟨admits_eval h current e, admits_evalAll h current rest⟩

end

/-! ## Other evaluators -/

/-- The registry with each evaluator changed in a way that may depend on its function. -/
def mapEvaluators (r : Registry) (change : String → Evaluator → Evaluator) : Registry :=
  { r with evaluators := r.evaluators.map fun (name, evaluator) => (name, change name evaluator) }

/-- The callee with its evaluator changed. -/
def Callee.mapEvaluator (change : Evaluator → Evaluator) : Callee → Callee
  | .registered evaluator => .registered (change evaluator)
  | callee => callee

variable {change : String → Evaluator → Evaluator}

lemma evaluator?_mapEvaluators (function : String) :
    (r.mapEvaluators change).evaluator? function =
      (r.evaluator? function).map (change function) := by
  show NameTable.find? function (r.evaluators.map _) = (NameTable.find? function r.evaluators).map _
  induction r.evaluators with
  | nil => rfl
  | cons first rest ih =>
    rw [List.map_cons, NameTable.find?, NameTable.find?, ih]
    split
    · rename_i hname
      rw [hname]
      rfl
    · rfl

lemma resolve_mapEvaluators (function : String) (count : Nat) :
    (r.mapEvaluators change).resolve function count =
      (r.resolve function count).map (Callee.mapEvaluator (change function)) := by
  have hother : (r.mapEvaluators change).resolveOther function count =
      (r.resolveOther function count).map (Callee.mapEvaluator (change function)) := by
    have hsignature : (r.mapEvaluators change).signature? function = r.signature? function := rfl
    simp only [resolveOther, evaluator?_mapEvaluators, hsignature]
    cases r.evaluator? function with
    | none => rfl
    | some evaluator =>
      cases r.signature? function with
      | none => rfl
      | some signature =>
        simp only [Option.map_some]
        split <;> rfl
  unfold resolve
  split
  · rfl
  · rfl
  · rfl
  · rfl
  · split
    · rfl
    · exact hother

/-- The changes cannot be seen in the calls. -/
def Unseen (r : Registry) (change : String → Evaluator → Evaluator) (calls : List Called) : Prop :=
  ∀ call ∈ calls, ∀ evaluator, r.evaluator? call.function = some evaluator →
    change call.function evaluator call.results = evaluator call.results

lemma Unseen.left {calls calls' : List Called} (h : r.Unseen change (calls ++ calls')) :
    r.Unseen change calls :=
  (List.forall_mem_append.1 h).1

lemma Unseen.right {calls calls' : List Called} (h : r.Unseen change (calls ++ calls')) :
    r.Unseen change calls' :=
  (List.forall_mem_append.1 h).2

lemma Unseen.of_mem {α : Type} {f : α → List Called} {xs : List α}
    (h : r.Unseen change (xs.flatMap f)) {x : α} (hx : x ∈ xs) : r.Unseen change (f x) :=
  List.forall_mem_flatMap.1 h x hx

lemma apply_mapEvaluator {function : String} {count : Nat} {callee : Callee}
    (hcallee : r.resolve function count = .ok callee) {results : List Typed}
    (h : r.Unseen change (callee.called function results)) :
    (callee.mapEvaluator (change function)).apply results = callee.apply results := by
  cases callee with
  | registered evaluator =>
    have hsame : change function evaluator results = evaluator results :=
      h _ List.mem_cons_self evaluator (of_resolve_registered hcallee).1
    exact congrArg pure hsame
  | _ => rfl

mutual

lemma select_mapEvaluators (node : Json) (s : Segment)
    (h : r.Unseen change (r.callsOfSelect root node s)) :
    (r.mapEvaluators change).select root node s = r.select root node s := by
  cases s with
  | union selectors => exact selectAll_mapEvaluators node selectors h
  | descendant selector =>
    exact Reported.concatMap_congr fun container hcontainer =>
      select_mapEvaluators container selector (h.of_mem hcontainer)
  | filter test =>
    exact Reported.filter_congr fun child hchild =>
      congrArg _ (eval_mapEvaluators [child] test (h.of_mem hchild))
  | _ => rfl

lemma selectAll_mapEvaluators (node : Json) (ss : List Segment)
    (h : r.Unseen change (r.callsOfSelectAll root node ss)) :
    (r.mapEvaluators change).selectAll root node ss = r.selectAll root node ss := by
  match ss with
  | [] => rfl
  | s :: rest =>
    rw [selectAll, selectAll, select_mapEvaluators node s h.left,
      selectAll_mapEvaluators node rest h.right]

lemma run_mapEvaluators (nodes : NodeList) (ss : List Segment)
    (h : r.Unseen change (r.callsOfRun root nodes ss)) :
    (r.mapEvaluators change).run root nodes ss = r.run root nodes ss := by
  match ss with
  | [] => rfl
  | s :: rest =>
    have hnext :
        Reported.concatMap (fun node => (r.mapEvaluators change).select root node s) nodes =
          Reported.concatMap (fun node => r.select root node s) nodes :=
      Reported.concatMap_congr fun node hnode => select_mapEvaluators node s (h.left.of_mem hnode)
    rw [run, run, hnext]
    exact Reported.bind_congr_value (run_mapEvaluators _ rest h.right)

lemma eval_mapEvaluators (current : NodeList) (e : Expr)
    (h : r.Unseen change (r.callsOfEval root current e)) :
    (r.mapEvaluators change).eval root current e = r.eval root current e := by
  cases e with
  | literal value => rfl
  | query anchor segments => rw [eval, eval, run_mapEvaluators _ segments h]
  | not e => rw [eval, eval, eval_mapEvaluators current e h]
  | and left right =>
    rw [eval, eval, eval_mapEvaluators current left h.left,
      eval_mapEvaluators current right h.right]
  | or left right =>
    rw [eval, eval, eval_mapEvaluators current left h.left,
      eval_mapEvaluators current right h.right]
  | compare op left right =>
    rw [eval, eval, eval_mapEvaluators current left h.left,
      eval_mapEvaluators current right h.right]
  | call function arguments =>
    rw [eval, eval, resolve_mapEvaluators]
    rw [callsOfEval] at h
    cases hcallee : r.resolve function arguments.length with
    | error problem => rfl
    | ok callee =>
      rw [hcallee] at h
      have harguments := evalAll_mapEvaluators current arguments h.left
      simp only [Except.map, harguments]
      exact Reported.bind_congr_value (apply_mapEvaluator hcallee h.right)

lemma evalAll_mapEvaluators (current : NodeList) (es : List Expr)
    (h : r.Unseen change (r.callsOfEvalAll root current es)) :
    (r.mapEvaluators change).evalAll root current es = r.evalAll root current es := by
  match es with
  | [] => rfl
  | e :: rest =>
    rw [evalAll, evalAll, eval_mapEvaluators current e h.left,
      evalAll_mapEvaluators current rest h.right]

end

/-- A change of the evaluators that cannot be seen in the calls of a query leaves what the query
selects and reports as it is. -/
theorem apply_mapEvaluators {q : Query} {document : Json}
    (h : r.Unseen change (r.calls q document)) :
    (r.mapEvaluators change).apply q document = r.apply q document :=
  run_mapEvaluators [document] q.segments h

/-- The change is one of what evaluators do with another number of arguments than the signatures of
their functions say. -/
def ChangesMisfits (r : Registry) (change : String → Evaluator → Evaluator) : Prop :=
  ∀ name signature evaluator, r.signature? name = some signature →
    ∀ results : List Typed, results.length = signature.arity →
      change name evaluator results = evaluator results

lemma ChangesMisfits.unseen (h : r.ChangesMisfits change) {calls : List Called}
    (hcalls : ∀ call ∈ calls, r.Admits call) : r.Unseen change calls := by
  intro call hcall evaluator _
  obtain ⟨signature, hsignature, hlength⟩ := hcalls call hcall
  exact h call.function signature evaluator hsignature call.results hlength

/-! ## Registries that operations lead to -/

/-- In each registry that operations leave, a function has the signature that was registered last
for it in the history of the registry.  A registration by a code succeeds for nonempty codes over the
letters of the types, and gives the function the signature of that code; otherwise it leaves the
registry as it is, and its error names the first letter that is no type.  The names are in strict
order, and they are those of the functions with a signature.  A function with an evaluator has a
signature, and whatever is evaluated, the evaluator is called with as many arguments as the
signature says; so what it would do with another number of arguments makes no difference. -/
theorem holds_after_operations {operations : List Operation} {i : Nat}
    (h : (registriesAfter operations)[i]? = some r) :
    (∃ history, (historiesAfter operations)[i]? = some history ∧
        ∀ name, r.signature? name = history.signature? name) ∧
      (∀ name code,
        ((∃ r', r.registerCode name code = .ok r') ↔
          code ≠ "" ∧ ∀ c ∈ code.toList, c ∈ FunctionType.letters) ∧
        (∀ r', r.registerCode name code = .ok r' →
          ∃ signature : Signature, signature.code = code ∧ r' = r.register name signature ∧
            r'.signature? name = some signature) ∧
        ∀ e, r.registerCode name code = .error e →
          (Registration.ofCode name code).run r = r ∧
            ((code = "" ∧ e = .empty) ∨
              ∃ before c after, code.toList = before ++ c :: after ∧
                (∀ b ∈ before, b ∈ FunctionType.letters) ∧ c ∉ FunctionType.letters ∧
                e = .unknownType c code)) ∧
      r.names.Pairwise (· < ·) ∧
      (∀ name, name ∈ r.names ↔ (r.signature? name).isSome) ∧
      (∀ name, (r.evaluator? name).isSome → (r.signature? name).isSome) ∧
      (∀ root current e, ∀ call ∈ r.callsOfEval root current e,
        ∃ signature, r.signature? call.function = some signature ∧
          call.results.length = signature.arity) ∧
      (∀ q document, ∀ call ∈ r.calls q document,
        ∃ signature, r.signature? call.function = some signature ∧
          call.results.length = signature.arity) ∧
      ∀ change, r.ChangesMisfits change →
        (∀ root current e,
          (r.mapEvaluators change).eval root current e = r.eval root current e) ∧
        ∀ q document, (r.mapEvaluators change).apply q document = r.apply q document := by
  obtain ⟨history, hhistory, hfollows⟩ := exists_follows h
  have heval : ∀ root current e, ∀ call ∈ r.callsOfEval root current e, r.Admits call :=
    fun _ current e => admits_eval hfollows.evaluators current e
  have happly : ∀ q document, ∀ call ∈ r.calls q document, r.Admits call :=
    fun q document => admits_run hfollows.evaluators [document] q.segments
  refine ⟨⟨history, hhistory, hfollows.signatures⟩, fun name code => ⟨?_, ?_, ?_⟩,
    hfollows.ordered, fun name => NameTable.mem_names_iff, hfollows.evaluators, heval, happly,
    fun change hchange => ⟨fun root current e => ?_, fun q document => ?_⟩⟩
  · rw [← Signature.exists_code_eq_iff]
    constructor
    · rintro ⟨r', hok⟩
      obtain ⟨signature, hcode, -⟩ := registerCode_eq_ok_iff.1 hok
      exact ⟨signature, hcode⟩
    · rintro ⟨signature, hcode⟩
      exact ⟨_, registerCode_eq_ok_iff.2 ⟨signature, hcode, rfl⟩⟩
  · intro r' hok
    obtain ⟨signature, hcode, rfl⟩ := registerCode_eq_ok_iff.1 hok
    exact ⟨signature, hcode, rfl, by rw [signature?_register, if_pos rfl]⟩
  · intro e herror
    refine ⟨?_, registerCode_eq_error_iff.1 herror⟩
    rw [Registration.run, herror]
  · exact eval_mapEvaluators current e (hchange.unseen (heval root current e))
  · exact apply_mapEvaluators (hchange.unseen (happly q document))

/-- Two registries.  In the copy `f` gets an evaluator for one argument and then a signature with
two parameters, and a bad code is refused. -/
def copyAndExtend : List Operation :=
  [.standard, .clone 0, .register 1 (.ofEvaluator "f" ⟨.value, [.value]⟩ firstResult),
    .register 1 (.ofSignature "f" ⟨.value, [.value, .value]⟩), .register 1 (.ofCode "g" "lvx"),
    .register 0 (.ofCode "length" "ln")]

/-- The query `$[?f(@) || f(@, @)]`. -/
def callsOfBothKinds : Query :=
  ⟨.root, [.filter (.or (.call "f" [.query .current []])
    (.call "f" [.query .current [], .query .current []]))]⟩

/-- Only the second call is made, and the copy has nothing of what its source got later. -/
theorem holds_after_copyAndExtend :
    let r := (standard.registerEvaluator "f" ⟨.value, [.value]⟩ firstResult).register "f"
      ⟨.value, [.value, .value]⟩
    (registriesAfter copyAndExtend)[1]? = some r ∧
      r.names = ["count", "f", "length", "match", "search"] ∧
      r.names.Pairwise (· < ·) ∧
      r.calls callsOfBothKinds (.array [.null]) =
        [⟨"f", [.nodes [.null], .nodes [.null]]⟩] ∧
      (∃ signature, r.signature? "f" = some signature ∧
        [Typed.nodes [.null], .nodes [.null]].length = signature.arity) ∧
      ∃ r', r.registerCode "g" "lvn" = .ok r' := by
  intro r
  have hrefused : r.registerCode "g" "lvx" = .error (.unknownType 'x' "lvx") :=
    registerCode_eq_error_iff.2 (.inr ⟨['l', 'v'], 'x', [], rfl, by simp [FunctionType.letters],
      by simp [FunctionType.letters], rfl⟩)
  have hunchanged : (Registration.ofCode "g" "lvx").run r = r := by
    rw [Registration.run, hrefused]
  have hleaves : (registriesAfter copyAndExtend)[1]? = some r :=
    hunchanged ▸ (rfl : _ = some ((Registration.ofCode "g" "lvx").run r))
  obtain ⟨-, hcodes, hordered, -, -, -, hcalls, -⟩ := holds_after_operations hleaves
  have hmade : r.calls callsOfBothKinds (.array [.null]) =
      [⟨"f", [.nodes [.null], .nodes [.null]]⟩] := rfl
  refine ⟨hleaves, rfl, hordered, hmade,
    hcalls callsOfBothKinds (.array [.null]) ⟨"f", [.nodes [.null], .nodes [.null]]⟩ ?_, ?_⟩
  · rw [hmade]
    exact List.mem_cons_self
  · exact (hcodes "g" "lvn").1.2
      (Signature.exists_code_eq_iff.1 ⟨⟨.logical, [.value, .nodes]⟩, rfl⟩)

end Registry

end JsonPath
