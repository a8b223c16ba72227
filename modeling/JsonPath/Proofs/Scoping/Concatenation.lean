import JsonPath.Proofs.Reordering.Lists
import JsonPath.Proofs.Scoping.Dependence
import JsonPath.Query.Edit

/-!
# Queries one after the other

To append segments to a query is to apply a second query to each node that the first one selects,
each node as a document of its own (`Registry.apply_append`).  Two facts are behind it.  A run from
several nodes is the runs from the single nodes, one after the other; its reports come in another
order, since it takes each segment through all nodes before it goes on to the next one.  And where
the root is not referred to, a node may stand for the whole document.
-/

namespace JsonPath

/-- Reports are gathered in order, however the steps of a computation are grouped. -/
lemma Reported.bind_assoc {α β γ : Type} (x : Reported α) (f : α → Reported β)
    (g : β → Reported γ) : (x >>= f >>= g) = x >>= fun a => f a >>= g :=
  congrArg (Reported.mk _) (List.append_assoc _ _ _)

namespace Registry

variable (r : Registry) (root : Json)

/-! ## Runs from several nodes -/

/-- Appended segments start from what the segments before them select. -/
theorem run_append (nodes : NodeList) (ss ts : List Segment) :
    r.run root nodes (ss ++ ts) = (do r.run root (← r.run root nodes ss) ts) := by
  induction ss generalizing nodes with
  | nil => rfl
  | cons s rest ih =>
    rw [List.cons_append, run, run, Reported.bind_assoc]
    simp only [ih]

/-- The nodes selected from several nodes are those selected from the single ones, in order. -/
lemma value_run_eq_flatMap (nodes : NodeList) (ss : List Segment) :
    (r.run root nodes ss).value = nodes.flatMap fun node => (r.run root [node] ss).value := by
  induction ss generalizing nodes with
  | nil => simp [run]
  | cons s rest ih =>
    have hrun : ∀ nodes : NodeList, (r.run root nodes (s :: rest)).value =
        nodes.flatMap fun node =>
          (r.select root node s).value.flatMap fun next => (r.run root [next] rest).value := by
      intro nodes
      rw [run, Reported.value_bind, ih, Reported.value_concatMap, List.flatMap_assoc]
    rw [hrun nodes]
    refine List.flatMap_congr fun node _ => ?_
    rw [hrun [node], List.flatMap_singleton]

/-- What is reported on the way from several nodes is what is reported on the ways from the single
ones, in another order. -/
lemma diagnostics_run_perm_flatMap (nodes : NodeList) (ss : List Segment) :
    (r.run root nodes ss).diagnostics.Perm
      (nodes.flatMap fun node => (r.run root [node] ss).diagnostics) := by
  induction ss generalizing nodes with
  | nil => simp [run]
  | cons s rest ih =>
    -- what is reported from a node on by its first segment, and by the others
    let now := fun node => (r.select root node s).diagnostics
    let later := fun node => (r.select root node s).value.flatMap fun next =>
      (r.run root [next] rest).diagnostics
    have hrun : ∀ nodes : NodeList, (r.run root nodes (s :: rest)).diagnostics.Perm
        (nodes.flatMap now ++ nodes.flatMap later) := by
      intro nodes
      rw [run, Reported.diagnostics_bind, Reported.diagnostics_concatMap, Reported.value_concatMap,
        ← List.flatMap_assoc]
      exact (ih _).append_left _
    refine (hrun nodes).trans ((List.flatMap_append_perm nodes now later).trans ?_)
    refine List.Perm.flatMap_left nodes fun node _ => ?_
    simpa using (hrun [node]).symm

/-- A node can stand for the whole document where the root is not referred to. -/
lemma run_eq_apply (q : Query) (h : q.isRootFree = true) (node : Json) :
    r.run root [node] q.segments = r.apply q node := by
  have hsame : SameFor r r root node (Segment.allFunctions q.segments)
      (Segment.allRootFree q.segments) :=
    ⟨fun _ _ _ => rfl, fun hroot => absurd (h.symm.trans hroot) (by simp)⟩
  exact run_congr q.segments hsame [node]

/-! ## Appended queries -/

/-- A query with segments appended selects what a query of these segments selects from each node of
the first query, taken as a document of its own; it reports the same, in another order perhaps.  The
appended segments must not refer to the root, which is the whole document in one case and a node of
it in the other. -/
theorem apply_append (p q : Query) (h : q.isRootFree = true) (document : Json) :
    (r.apply (p.append q.segments) document).value =
        (r.apply p document).value.flatMap (fun node => (r.apply q node).value) ∧
      (r.apply (p.append q.segments) document).diagnostics.Perm
        ((r.apply p document).diagnostics ++
          (r.apply p document).value.flatMap fun node => (r.apply q node).diagnostics) := by
  have hsplit : r.apply (p.append q.segments) document =
      (do r.run document (← r.apply p document) q.segments) :=
    r.run_append document [document] p.segments q.segments
  rw [hsplit, Reported.value_bind, Reported.diagnostics_bind]
  constructor
  · rw [value_run_eq_flatMap]
    simp only [r.run_eq_apply document q h]
  · refine List.Perm.append_left _ ?_
    simpa only [r.run_eq_apply document q h] using
      r.diagnostics_run_perm_flatMap document (r.apply p document).value q.segments

/-- The query `$[*]`. -/
def everyChild : Query := ⟨.root, [.wildcard]⟩

/-- The query `$[?!first(@)][?!second(@)]`, whose functions are in no registry of this file. -/
def unknownCalls : Query :=
  ⟨.root, [.filter (.not (.call "first" [.query .current []])),
    .filter (.not (.call "second" [.query .current []]))]⟩

/-- Appended to `$[*]`, the query takes each filter through all nodes; on its own it reports what
both filters find in one node before it comes to the next. -/
theorem apply_append_unknownCalls :
    let document : Json := .array [.array [.array [.null]], .array [.array [.bool true]]]
    unknownCalls.isRootFree = true ∧
      (standard.apply (everyChild.append unknownCalls.segments) document).value =
        (standard.apply everyChild document).value.flatMap
          (fun node => (standard.apply unknownCalls node).value) ∧
      (standard.apply (everyChild.append unknownCalls.segments) document).diagnostics.Perm
        ((standard.apply everyChild document).diagnostics ++
          (standard.apply everyChild document).value.flatMap
            fun node => (standard.apply unknownCalls node).diagnostics) ∧
      (standard.apply (everyChild.append unknownCalls.segments) document).diagnostics =
        [.unknownFunction "first", .unknownFunction "first", .unknownFunction "second",
          .unknownFunction "second"] ∧
      (standard.apply everyChild document).value.flatMap
          (fun node => (standard.apply unknownCalls node).diagnostics) =
        [.unknownFunction "first", .unknownFunction "second", .unknownFunction "first",
          .unknownFunction "second"] := by
  intro document
  have hfree : unknownCalls.isRootFree = true := by decide
  obtain ⟨hvalue, hperm⟩ := apply_append standard everyChild unknownCalls hfree document
  exact ⟨hfree, hvalue, hperm, by decide +kernel, by decide +kernel⟩

end Registry

end JsonPath
