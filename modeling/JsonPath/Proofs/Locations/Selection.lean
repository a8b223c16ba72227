import JsonPath.Evaluation.Basic
import JsonPath.Proofs.Locations.Paths

/-!
# Where the nodes of a query stand

What a query selects are values, and nodes with equal values look alike among them.
`Registry.located` selects located values.  It goes the way of the evaluator, and wherever the
evaluator goes from a node to a child it puts the step behind the path of the node.

Without their paths, the located nodes are the nodes that the evaluator selects
(`Registry.map_value_located`).  In a document with unique names each of them is the value that its
path leads to (`Registry.at?_of_mem_located`).
-/

namespace JsonPath

namespace Registry

variable (r : Registry) (root : Json)

/-! ## Selection with paths -/

mutual

/-- The located values that a segment selects from one of them. -/
def locate (node : Located) : Segment → List Located
  | .key name => (node.child? (.member name)).toList
  | .index i =>
    match node.value with
    | .array elements =>
      ((placeOfIndex? elements.length i).bind fun place => node.child? (.element place)).toList
    | _ => []
  | .slice start stop step =>
    match node.value with
    | .array elements =>
      (Slice.places elements.length start stop step).filterMap fun place =>
        node.child? (.element place)
    | _ => []
  | .wildcard => node.children
  | .union selectors => locateAll node selectors
  | .descendant selector => node.containers.flatMap fun container => locate container selector
  | .filter test =>
    node.children.filter fun child => (r.eval root [child.value] test).value.toLogical

/-- The located values that several selectors select from one of them, one selector after the
other. -/
def locateAll (node : Located) : List Segment → List Located
  | [] => []
  | s :: rest => locate node s ++ locateAll node rest

end

/-- The located values that segments select one after the other, from `nodes` on. -/
def locateRun (nodes : List Located) : List Segment → List Located
  | [] => nodes
  | s :: rest => locateRun (nodes.flatMap fun node => r.locate root node s) rest

/-- The located nodes that a query selects in a document. -/
def located (q : Query) (document : Json) : List Located :=
  r.locateRun document [⟨[], document⟩] q.segments

/-! ## Without the paths -/

variable {r root}

mutual

/-- The located values are those that the evaluator selects. -/
lemma map_value_locate (s : Segment) (node : Located) :
    (r.locate root node s).map Located.value = (r.select root node.value s).value := by
  obtain ⟨path, x⟩ := node
  match s with
  | .key name =>
    rw [locate, select, Located.child?, Json.child?]
    cases x.member? name <;> rfl
  | .index i =>
    cases x with
    | array elements =>
      simp only [locate, select, elementAt?, Reported.value_pure]
      cases placeOfIndex? elements.length i with
      | none => rfl
      | some place =>
        rw [Option.bind_some, Option.bind_some, Located.child?, Json.child?]
        cases elements[place]? <;> rfl
    | _ => rfl
  | .slice start stop step =>
    cases x with
    | array elements =>
      simp only [locate, select, NodeList.ofSlots, Reported.value_pure, List.map_filterMap,
        List.filterMap_map]
      refine List.filterMap_congr fun place _ => ?_
      rw [Located.child?, Option.map_map]
      exact Option.map_id'
    | _ => rfl
  | .wildcard => exact Located.map_value_children _
  | .union selectors => exact map_value_locateAll selectors _
  | .descendant selector =>
    rw [locate, select, Reported.value_concatMap, List.map_flatMap,
      ← Located.map_value_containers ⟨path, x⟩, List.flatMap_map]
    exact List.flatMap_congr fun container _ => map_value_locate selector container
  | .filter test =>
    rw [locate, select, Reported.value_filter, ← Located.map_value_children ⟨path, x⟩,
      List.filter_map]
    rfl

lemma map_value_locateAll (ss : List Segment) (node : Located) :
    (r.locateAll root node ss).map Located.value = (r.selectAll root node.value ss).value := by
  match ss with
  | [] => rfl
  | s :: rest =>
    rw [locateAll, List.map_append, map_value_locate s node, map_value_locateAll rest node]
    rfl

end

lemma map_value_locateRun (ss : List Segment) (nodes : List Located) :
    (r.locateRun root nodes ss).map Located.value =
      (r.run root (nodes.map Located.value) ss).value := by
  induction ss generalizing nodes with
  | nil => rfl
  | cons s rest ih =>
    rw [locateRun, run, ih, Reported.value_bind, Reported.value_concatMap, List.flatMap_map,
      List.map_flatMap]
    simp only [map_value_locate]

theorem map_value_located (q : Query) (document : Json) :
    (r.located q document).map Located.value = (r.apply q document).value :=
  map_value_locateRun q.segments [⟨[], document⟩]

end Registry

/-! ## Values under others -/

namespace Located

/-- The first located value is the second one or a value below it. -/
def IsUnder (m n : Located) : Prop :=
  ∃ rest, m.path = n.path ++ rest ∧ n.value.at? rest = some m.value

namespace IsUnder

lemma refl (n : Located) : n.IsUnder n := ⟨[], by simp, rfl⟩

lemma trans {l m n : Located} (hlm : l.IsUnder m) (hmn : m.IsUnder n) : l.IsUnder n := by
  obtain ⟨rest, hpath, hvalue⟩ := hlm
  obtain ⟨rest', hpath', hvalue'⟩ := hmn
  refine ⟨rest' ++ rest, by rw [hpath, hpath', List.append_assoc], ?_⟩
  rw [Json.at?_append, hvalue']
  exact hvalue

lemma of_child? {m n : Located} {step : Step} (h : n.child? step = some m) : m.IsUnder n := by
  obtain ⟨child, hchild, rfl⟩ := Option.map_eq_some_iff.mp h
  exact ⟨[step], rfl, by simp [Json.at?, hchild]⟩

lemma hasUniqueNames {m n : Located} (h : m.IsUnder n) (hn : n.value.HasUniqueNames) :
    m.value.HasUniqueNames := by
  obtain ⟨rest, -, hvalue⟩ := h
  exact hn.of_at? hvalue

end IsUnder

variable {n : Located}

lemma isUnder_of_mem_children (hn : n.value.HasUniqueNames) {m : Located} (h : m ∈ n.children) :
    m.IsUnder n := by
  obtain ⟨step, child, hchild, rfl⟩ := (mem_children_iff hn).mp h
  exact .of_child? (by rw [child?, hchild]; rfl)

lemma isUnder_of_mem_containers (hn : n.value.HasUniqueNames) {m : Located}
    (h : m ∈ n.containers) : m.IsUnder n := by
  induction n using Located.induction with
  | step n ih =>
    rw [containers_eq, List.mem_append, List.mem_flatMap] at h
    obtain hself | ⟨child, hchild, hm⟩ := h
    · split at hself
      · obtain rfl := List.mem_singleton.mp hself
        exact .refl m
      · cases hself
    · have hunder := isUnder_of_mem_children hn hchild
      exact (ih child hchild (hunder.hasUniqueNames hn) hm).trans hunder

end Located

namespace Registry

variable {r : Registry} {root : Json}

mutual

/-- A segment selects values below the one that it starts from. -/
lemma isUnder_of_mem_locate (s : Segment) {n : Located} (hn : n.value.HasUniqueNames) :
    ∀ m ∈ r.locate root n s, m.IsUnder n := by
  intro m hm
  match s with
  | .key name => exact .of_child? (Option.mem_toList.mp hm)
  | .index i =>
    rw [locate] at hm
    split at hm
    · obtain ⟨place, -, hplace⟩ := Option.bind_eq_some_iff.mp (Option.mem_toList.mp hm)
      exact .of_child? hplace
    · cases hm
  | .slice start stop step =>
    rw [locate] at hm
    split at hm
    · obtain ⟨place, -, hplace⟩ := List.mem_filterMap.mp hm
      exact .of_child? hplace
    · cases hm
  | .wildcard => exact Located.isUnder_of_mem_children hn hm
  | .union selectors => exact isUnder_of_mem_locateAll selectors hn m hm
  | .descendant selector =>
    obtain ⟨container, hcontainer, hm⟩ := List.mem_flatMap.mp hm
    have hunder := Located.isUnder_of_mem_containers hn hcontainer
    exact (isUnder_of_mem_locate selector (hunder.hasUniqueNames hn) m hm).trans hunder
  | .filter test => exact Located.isUnder_of_mem_children hn (List.mem_of_mem_filter hm)

lemma isUnder_of_mem_locateAll (ss : List Segment) {n : Located} (hn : n.value.HasUniqueNames) :
    ∀ m ∈ r.locateAll root n ss, m.IsUnder n := by
  intro m hm
  match ss with
  | [] => cases hm
  | s :: rest =>
    obtain hm | hm := List.mem_append.mp hm
    · exact isUnder_of_mem_locate s hn m hm
    · exact isUnder_of_mem_locateAll rest hn m hm

end

/-- A run selects values below those that it starts from. -/
lemma isUnder_of_mem_locateRun (ss : List Segment) {nodes : List Located}
    (hnodes : ∀ n ∈ nodes, n.value.HasUniqueNames) :
    ∀ m ∈ r.locateRun root nodes ss, ∃ n ∈ nodes, m.IsUnder n := by
  induction ss generalizing nodes with
  | nil => exact fun m hm => ⟨m, hm, .refl m⟩
  | cons s rest ih =>
    have hnext : ∀ m ∈ nodes.flatMap fun node => r.locate root node s,
        ∃ n ∈ nodes, m.IsUnder n := by
      intro m hm
      obtain ⟨n, hn, hm⟩ := List.mem_flatMap.mp hm
      exact ⟨n, hn, isUnder_of_mem_locate s (hnodes n hn) m hm⟩
    intro l hl
    have hunique : ∀ m ∈ nodes.flatMap fun node => r.locate root node s,
        m.value.HasUniqueNames := by
      intro m hm
      obtain ⟨n, hn, hunder⟩ := hnext m hm
      exact hunder.hasUniqueNames (hnodes n hn)
    obtain ⟨m, hm, hlm⟩ := ih hunique l hl
    obtain ⟨n, hn, hmn⟩ := hnext m hm
    exact ⟨n, hn, hlm.trans hmn⟩

/-- Whatever a query selects stands at its path in the document. -/
theorem at?_of_mem_located (q : Query) {document : Json} (h : document.HasUniqueNames)
    {node : Located} (hnode : node ∈ r.located q document) :
    document.at? node.path = some node.value := by
  have hroot : ∀ n ∈ [(⟨[], document⟩ : Located)], n.value.HasUniqueNames := by simpa using h
  obtain ⟨n, hn, rest, hpath, hvalue⟩ := isUnder_of_mem_locateRun q.segments hroot node hnode
  obtain rfl := List.mem_singleton.mp hn
  rw [hpath]
  exact hvalue

end Registry

end JsonPath
