import JsonPath.Proofs.Locations.Selection

/-!
# Descendant segments

A descendant segment applies its selector to the containers that a walk with a stack meets.  By what
the recursion on the value gives, it applies the selector to the value itself and then goes on to
each child, and it reports in that order, too (`Registry.select_descendant`).

For the selector `*` this gives every value below the document once, and nothing else: each at a
path of its own, behind its parent, and together with its siblings in their order
(`Registry.located_everyDescendant`).  The list is put together from the children of containers, so
what is proved by induction on the document is how the paths below a value are made from those below
its children (`Located.descendants_eq`).
-/

namespace JsonPath

/-! ## The walk in a descendant segment -/

namespace Reported

variable {α β γ : Type}

lemma concatMap_cons (f : α → Reported (List β)) (x : α) (xs : List α) :
    concatMap f (x :: xs) = do
      let first ← f x
      let others ← concatMap f xs
      return first ++ others := by
  show mk ((f x).value ++ _) ((f x).diagnostics ++ _) = mk _ ((f x).diagnostics ++ (_ ++ []))
  rw [List.append_nil]
  rfl

lemma concatMap_flatMap (f : α → Reported (List β)) (g : γ → List α) (xs : List γ) :
    concatMap f (xs.flatMap g) = concatMap (fun x => concatMap f (g x)) xs := by
  have hvalue : (concatMap f (xs.flatMap g)).value =
      (concatMap (fun x => concatMap f (g x)) xs).value := by
    simp only [value_concatMap, List.flatMap_assoc]
  have hdiagnostics : (concatMap f (xs.flatMap g)).diagnostics =
      (concatMap (fun x => concatMap f (g x)) xs).diagnostics := by
    simp only [diagnostics_concatMap, List.flatMap_assoc]
  exact congrArg₂ mk hvalue hdiagnostics

end Reported

namespace Registry

variable (r : Registry)

/-- The walk that starts at a value is over after as many steps as there are values in it; by then
it has met what the recursion gives, and this is what a descendant segment goes through.  So the
segment selects nothing from a scalar; from a container it selects what its selector does, and then
what it selects itself from each child in order.  Diagnostics are reported in the same order. -/
theorem select_descendant (root value : Json) (selector : Segment) :
    (Walk.start value).after value.count = some ⟨value.containersRec.toArray, #[]⟩ ∧
      value.containers = value.containersRec ∧
      r.select root value (.descendant selector) =
        if value.isContainer then do
          let own ← r.select root value selector
          let below ← Reported.concatMap
            (fun child => r.select root child (.descendant selector)) value.children
          return own ++ below
        else pure [] := by
  refine ⟨?_, value.containers_eq, ?_⟩
  · simpa [Walk.count, Walk.order, Walk.start, Json.countOfElements] using
      Walk.after_count (Walk.start value)
  · rw [select, Json.containers_eq, Json.containersRec_eq]
    split
    · rw [List.singleton_append, Reported.concatMap_cons, Reported.concatMap_flatMap]
      simp only [select, Json.containers_eq]
    · next hscalar =>
      rw [Json.children_of_not_isContainer hscalar]
      rfl

end Registry

/-! ## The values below a value -/

namespace Located

lemma children_of_not_isContainer {n : Located} (h : ¬ n.value.isContainer) :
    n.children = [] := by
  have hvalues := n.map_value_children
  rw [Json.children_of_not_isContainer h] at hvalues
  exact List.map_eq_nil_iff.mp hvalues

/-- The children of all containers, as `..[*]` lists them. -/
def descendants (n : Located) : List Located := n.containers.flatMap children

theorem descendants_eq (n : Located) :
    n.descendants = n.children ++ n.children.flatMap descendants := by
  have hown : (if n.value.isContainer then [n] else []).flatMap children = n.children := by
    split
    · exact List.flatMap_singleton ..
    · next hscalar => rw [children_of_not_isContainer hscalar, List.flatMap_nil]
  rw [descendants, containers_eq, List.flatMap_append, hown, List.flatMap_assoc]
  rfl

/-- The paths that lead to the descendants. -/
def pathsBelow (n : Located) : List Path := n.descendants.map Located.path

lemma pathsBelow_eq (n : Located) :
    n.pathsBelow = n.children.map Located.path ++ n.children.flatMap pathsBelow := by
  rw [pathsBelow, descendants_eq, List.map_append, List.map_flatMap]
  rfl

section Unique

variable {n : Located}

lemma hasUniqueNames_of_mem_children (h : n.value.HasUniqueNames) {m : Located}
    (hm : m ∈ n.children) : m.value.HasUniqueNames :=
  h.of_mem_children (value_mem_children hm)

lemma nodup_paths_children (h : n.value.HasUniqueNames) :
    (n.children.map Located.path).Nodup := by
  rw [map_path_children]
  exact (Json.nodup_steps h).map fun step step' heq => by simpa using heq

/-- The paths below a located value are those that go on from its path to a value. -/
theorem mem_pathsBelow_iff (h : n.value.HasUniqueNames) {path : Path} :
    path ∈ n.pathsBelow ↔
      ∃ rest, rest ≠ [] ∧ path = n.path ++ rest ∧ (n.value.at? rest).isSome := by
  induction n using Located.induction generalizing path with
  | step n ih =>
    rw [pathsBelow_eq, List.mem_append, List.mem_map, List.mem_flatMap]
    constructor
    · rintro (⟨m, hm, rfl⟩ | ⟨m, hm, hpath⟩)
      · obtain ⟨step, child, hchild, rfl⟩ := (mem_children_iff h).mp hm
        exact ⟨[step], by simp, rfl, by simp [Json.at?, hchild]⟩
      · obtain ⟨rest, -, rfl, hsome⟩ := (ih m hm (hasUniqueNames_of_mem_children h hm)).mp hpath
        obtain ⟨step, child, hchild, rfl⟩ := (mem_children_iff h).mp hm
        exact ⟨step :: rest, by simp, by simp, by simpa [Json.at?, hchild] using hsome⟩
    · rintro ⟨rest, hne, rfl, hsome⟩
      obtain ⟨step, rest, rfl⟩ := List.exists_cons_of_ne_nil hne
      obtain ⟨x, hx⟩ := Option.isSome_iff_exists.mp hsome
      obtain ⟨child, hchild, hx⟩ := Option.bind_eq_some_iff.mp hx
      have hm : (⟨n.path ++ [step], child⟩ : Located) ∈ n.children :=
        (mem_children_iff h).mpr ⟨step, child, hchild, rfl⟩
      cases rest with
      | nil => exact .inl ⟨_, hm, rfl⟩
      | cons step' rest =>
        refine .inr ⟨_, hm, (ih _ hm (hasUniqueNames_of_mem_children h hm)).mpr ?_⟩
        exact ⟨step' :: rest, by simp, by simp, by rw [hx]; rfl⟩

lemma length_lt_of_mem_pathsBelow (h : n.value.HasUniqueNames) {path : Path}
    (hpath : path ∈ n.pathsBelow) : n.path.length < path.length := by
  obtain ⟨rest, hne, rfl, -⟩ := (mem_pathsBelow_iff h).mp hpath
  have := List.length_pos_iff.mpr hne
  rw [List.length_append]
  omega

lemma length_of_mem_children {m : Located} (hm : m ∈ n.children) :
    m.path.length = n.path.length + 1 := by
  have hpath : m.path ∈ n.children.map Located.path := List.mem_map_of_mem hm
  rw [map_path_children] at hpath
  obtain ⟨step, -, hstep⟩ := List.mem_map.mp hpath
  rw [← hstep, List.length_append, List.length_singleton]

/-- Below different children there are different paths. -/
lemma disjoint_pathsBelow (h : n.value.HasUniqueNames) {m m' : Located} (hm : m ∈ n.children)
    (hm' : m' ∈ n.children) (hne : m.path ≠ m'.path) : m.pathsBelow.Disjoint m'.pathsBelow := by
  intro path hpath hpath'
  obtain ⟨rest, -, heq, -⟩ := (mem_pathsBelow_iff (hasUniqueNames_of_mem_children h hm)).mp hpath
  obtain ⟨rest', -, heq', -⟩ :=
    (mem_pathsBelow_iff (hasUniqueNames_of_mem_children h hm')).mp hpath'
  refine hne (List.append_inj_left (heq.symm.trans heq') ?_)
  rw [length_of_mem_children hm, length_of_mem_children hm']

theorem nodup_pathsBelow (h : n.value.HasUniqueNames) : n.pathsBelow.Nodup := by
  induction n using Located.induction with
  | step n ih =>
    rw [pathsBelow_eq, List.nodup_append']
    refine ⟨nodup_paths_children h, ?_, ?_⟩
    · rw [List.nodup_flatMap]
      refine ⟨fun m hm => ih m hm (hasUniqueNames_of_mem_children h hm), ?_⟩
      have hpaths := List.pairwise_map.mp (nodup_paths_children h)
      exact hpaths.imp_of_mem fun hm hm' hne => disjoint_pathsBelow h hm hm' hne
    · intro path hpath hpath'
      obtain ⟨m, hm, rfl⟩ := List.mem_map.mp hpath
      obtain ⟨m', hm', hbelow⟩ := List.mem_flatMap.mp hpath'
      have hlt := length_lt_of_mem_pathsBelow (hasUniqueNames_of_mem_children h hm') hbelow
      rw [length_of_mem_children hm, length_of_mem_children hm'] at hlt
      omega

lemma infix_pathsBelow {m : Located} (hm : m ∈ n.children) :
    m.pathsBelow <:+: n.children.flatMap pathsBelow :=
  List.infix_of_mem_flatten (List.mem_map_of_mem hm)

/-- A path comes before its extensions by one step. -/
lemma pair_sublist_pathsBelow (h : n.value.HasUniqueNames) {path : Path} {step : Step}
    (hpath : path ∈ n.pathsBelow) (hstep : path ++ [step] ∈ n.pathsBelow) :
    [path, path ++ [step]].Sublist n.pathsBelow := by
  induction n using Located.induction with
  | step n ih =>
    rw [pathsBelow_eq] at hpath hstep ⊢
    obtain hpath | hpath := List.mem_append.mp hpath
    · -- The path of a child: what extends it is longer than the paths of children.
      have hbelow : path ++ [step] ∈ n.children.flatMap pathsBelow := by
        refine (List.mem_append.mp hstep).resolve_left fun hchild => ?_
        obtain ⟨m, hm, rfl⟩ := List.mem_map.mp hpath
        obtain ⟨m', hm', heq⟩ := List.mem_map.mp hchild
        have hlength := congrArg List.length heq
        rw [List.length_append, length_of_mem_children hm, length_of_mem_children hm'] at hlength
        simp at hlength
      exact (List.singleton_sublist.mpr hpath).append (List.singleton_sublist.mpr hbelow)
    · -- A path below a child: what extends it is below the same child.
      obtain ⟨m, hm, hpath⟩ := List.mem_flatMap.mp hpath
      have hunique := hasUniqueNames_of_mem_children h hm
      have hsame : path ++ [step] ∈ m.pathsBelow := by
        obtain ⟨rest, hne, rfl, -⟩ := (mem_pathsBelow_iff hunique).mp hpath
        obtain ⟨step', child, hchild, rfl⟩ := (mem_children_iff h).mp hm
        rw [← pathsBelow_eq] at hstep
        obtain ⟨rest', -, heq, hsome⟩ := (mem_pathsBelow_iff h).mp hstep
        obtain rfl : step' :: (rest ++ [step]) = rest' := by simpa using heq
        refine (mem_pathsBelow_iff hunique).mpr ⟨rest ++ [step], by simp, by simp, ?_⟩
        simpa [Json.at?, hchild] using hsome
      have hpair := ih m hm hunique hpath hsame
      exact (hpair.trans (infix_pathsBelow hm).sublist).trans (List.sublist_append_right _ _)

/-- The children of a value are listed next to each other and in their order. -/
lemma infix_children_pathsBelow (h : n.value.HasUniqueNames) {rest : Path} {x : Json}
    (hx : n.value.at? rest = some x) :
    (x.steps.map fun step => n.path ++ rest ++ [step]) <:+: n.pathsBelow := by
  induction rest generalizing n with
  | nil =>
    obtain rfl := Option.some.inj hx
    rw [pathsBelow_eq, map_path_children, List.append_nil]
    exact (List.prefix_append _ _).isInfix
  | cons step rest ih =>
    obtain ⟨child, hchild, hx⟩ := Option.bind_eq_some_iff.mp hx
    have hm : (⟨n.path ++ [step], child⟩ : Located) ∈ n.children :=
      (mem_children_iff h).mpr ⟨step, child, hchild, rfl⟩
    have hinfix := ih (hasUniqueNames_of_mem_children h hm) hx
    rw [pathsBelow_eq]
    refine List.IsInfix.trans ?_ (List.suffix_append _ _).isInfix
    refine List.IsInfix.trans ?_ (infix_pathsBelow hm)
    simpa using hinfix

end Unique

end Located

/-! ## All values below the document -/

/-- Each value below the document is listed once and nothing else is: at its path, behind its parent
where this is listed, and next to its siblings in their order. -/
structure ListsBelow (document : Json) (nodes : List Located) : Prop where
  at_path : ∀ node ∈ nodes, document.at? node.path = some node.value
  nodup : (nodes.map Located.path).Nodup
  mem_iff : ∀ path, path ∈ nodes.map Located.path ↔ path ≠ [] ∧ (document.at? path).isSome
  parent_first : ∀ path step, path ∈ nodes.map Located.path →
    path ++ [step] ∈ nodes.map Located.path →
      [path, path ++ [step]].Sublist (nodes.map Located.path)
  siblings_together : ∀ path x, document.at? path = some x →
    (x.steps.map fun step => path ++ [step]) <:+: nodes.map Located.path

/-- The query `$..[*]`. -/
def everyDescendant : Query := ⟨.root, [.descendant .wildcard]⟩

namespace Registry

lemma located_everyDescendant_eq (r : Registry) (document : Json) :
    r.located everyDescendant document = Located.descendants ⟨[], document⟩ :=
  List.append_nil _

/-- The query `$..[*]` selects every value below the document once and nothing else, each behind its
parent and next to its siblings, and reports nothing. -/
theorem located_everyDescendant (r : Registry) {document : Json} (h : document.HasUniqueNames) :
    r.apply everyDescendant document =
        ⟨(r.located everyDescendant document).map Located.value, []⟩ ∧
      ListsBelow document (r.located everyDescendant document) := by
  have hpaths : (r.located everyDescendant document).map Located.path =
      Located.pathsBelow ⟨[], document⟩ := by
    rw [located_everyDescendant_eq, Located.pathsBelow]
  refine ⟨?_, ?_⟩
  · have hsilent : (r.apply everyDescendant document).diagnostics = [] := by
      simp [apply, everyDescendant, run, select, Reported.diagnostics_concatMap]
    rw [map_value_located, ← hsilent]
  · refine ⟨fun node hnode => at?_of_mem_located _ h hnode, ?_, fun path => ?_, ?_, ?_⟩
    · rw [hpaths]
      exact Located.nodup_pathsBelow h
    · rw [hpaths, Located.mem_pathsBelow_iff h]
      simp
    · rw [hpaths]
      exact fun path step => Located.pair_sublist_pathsBelow h
    · intro path x hx
      rw [hpaths]
      exact @Located.infix_children_pathsBelow ⟨[], document⟩ h path x hx

/-- Two equal values are selected at different places. -/
theorem located_everyDescendant_equalValues :
    let document : Json := .object [("a", .array [.ofNat 1, .object [("b", .ofNat 2)]]),
      ("c", .array [.ofNat 1])]
    let nodes := standard.located everyDescendant document
    document.HasUniqueNames ∧
      standard.apply everyDescendant document = ⟨nodes.map Located.value, []⟩ ∧
      ListsBelow document nodes ∧
      nodes.map Located.path =
        [[.member "a"], [.member "c"], [.member "a", .element 0], [.member "a", .element 1],
          [.member "a", .element 1, .member "b"], [.member "c", .element 0]] := by
  intro document nodes
  have hunique : document.HasUniqueNames := by simp [document, Json.ofNat]
  have hpaths : nodes.map Located.path = Located.pathsBelow ⟨[], document⟩ := by
    rw [Located.pathsBelow, ← located_everyDescendant_eq]
  obtain ⟨happly, hlists⟩ := located_everyDescendant standard hunique
  refine ⟨hunique, happly, hlists, ?_⟩
  rw [hpaths]
  simp [document, Json.ofNat, Located.pathsBelow_eq, Located.children, Json.branches]

end Registry

end JsonPath
