import JsonPath.Proofs.Canonical.Writable
import JsonPath.Proofs.Results
import JsonPath.Query.Tagged

/-!
# The tagged form is lossless

`Query.ofTagged_eq_ok_iff`: a tagged value is read as a query exactly when the query has no
literals but scalars and is written as that value.  So writing and reading are inverse to each
other, between the queries with scalar literals and the values that are read at all: nothing of a
value is ignored, and no query has two tagged forms.  The same holds of expressions.

Symbols, integers and slice parts come first, each with both of its round trips.  What is written
is read back by induction on the query (`Segment.ofTagged_toTagged`).  What is read is written
back by induction on the reading (`ofTagged_readings`), which has one case for each clause of the
reader, so that a clause that falls through to a later one is met with the tags that it has
excluded.
-/

namespace JsonPath

/-! ## Symbols -/

@[simp] lemma Anchor.ofSymbol?_symbol (anchor : Anchor) :
    Anchor.ofSymbol? anchor.symbol = some anchor := by
  cases anchor <;> decide

lemma Anchor.symbol_of_ofSymbol? {symbol : String} {anchor : Anchor}
    (h : Anchor.ofSymbol? symbol = some anchor) : anchor.symbol = symbol := by
  unfold Anchor.ofSymbol? at h
  split at h
  · obtain rfl : Anchor.root = anchor := by simpa using h
    exact Eq.symm ‹_›
  · split at h
    · obtain rfl : Anchor.current = anchor := by simpa using h
      exact Eq.symm ‹_›
    · simp at h

@[simp] lemma Comparison.ofSymbol?_symbol (op : Comparison) :
    Comparison.ofSymbol? op.symbol = some op := by
  cases op <;> decide

lemma Comparison.symbol_of_ofSymbol? {symbol : String} {op : Comparison}
    (h : Comparison.ofSymbol? symbol = some op) : op.symbol = symbol := by
  have := List.find?_some h
  simpa using this

/-! ## Integers and slice parts -/

lemma Number.toInt64?_ofInt64 (i : Int64) : (Number.ofInt64 i).toInt64? = some i := by
  have hlow := i.minValue_le_toInt
  have hhigh := i.toInt_lt
  have hexact : Number.Exact i.toInt := by
    constructor <;> simp at hlow hhigh ⊢ <;> omega
  unfold Number.ofInt64 Number.ofInt
  rw [dif_pos hexact]
  simp only [Number.toInt64?]
  rw [if_pos (by simpa using hhigh), Int64.ofInt_toInt]

lemma Number.ofInt64_of_toInt64? {n : Number} {i : Int64} (h : n.toInt64? = some i) :
    Number.ofInt64 i = n := by
  cases n with
  | float x => simp [Number.toInt64?] at h
  | int j hexact =>
    simp only [Number.toInt64?] at h
    split at h
    · rename_i hhigh
      obtain rfl : Int64.ofInt j = i := by simpa using h
      have hvalue : (Int64.ofInt j).toInt = j :=
        Int64.toInt_ofInt_of_le (by simpa using hexact.1) (by simpa using hhigh)
      unfold Number.ofInt64 Number.ofInt
      simp only [hvalue]
      rw [dif_pos hexact]
    · simp at h

lemma Json.toInt64?_eq_some_iff {value : Json} {i : Int64} :
    value.toInt64? = some i ↔ value = .number (.ofInt64 i) := by
  constructor
  · intro h
    cases value with
    | number n => rw [Number.ofInt64_of_toInt64? h]
    | _ => simp [Json.toInt64?] at h
  · rintro rfl
    exact Number.toInt64?_ofInt64 i

lemma Json.toBound?_eq_some_iff {value : Json} {bound : Option Int64} :
    value.toBound? = some bound ↔ value = .ofBound bound := by
  cases value with
  | null => cases bound <;> simp [Json.toBound?, Json.ofBound]
  | _ =>
    cases bound with
    | none => simp [Json.toBound?, Json.ofBound]
    | some i => simp [Json.toBound?, Json.ofBound, Json.toInt64?_eq_some_iff]

lemma Segment.ofBounds?_eq_some_iff {start stop step : Json} {s : Segment} :
    Segment.ofBounds? start stop step = some s ↔
      ∃ a b c, start = .ofBound a ∧ stop = .ofBound b ∧ step = .ofBound c ∧ .slice a b c = s := by
  simp [Segment.ofBounds?, Option.bind_eq_some_iff, Json.toBound?_eq_some_iff]

/-! ## Literals -/

mutual

/-- The literals in the filters of a segment. -/
def Segment.literals : Segment → List Json
  | .union selectors => Segment.allLiterals selectors
  | .descendant selector => selector.literals
  | .filter test => test.literals
  | _ => []

/-- The literals in the filters of segments. -/
def Segment.allLiterals : List Segment → List Json
  | [] => []
  | s :: rest => s.literals ++ Segment.allLiterals rest

/-- The literals of an expression. -/
def Expr.literals : Expr → List Json
  | .literal value => [value]
  | .query _ segments => Segment.allLiterals segments
  | .not e => e.literals
  | .and l r => l.literals ++ r.literals
  | .or l r => l.literals ++ r.literals
  | .compare _ l r => l.literals ++ r.literals
  | .call _ arguments => Expr.allLiterals arguments

/-- The literals of the arguments of a call. -/
def Expr.allLiterals : List Expr → List Json
  | [] => []
  | e :: rest => e.literals ++ Expr.allLiterals rest

end

/-- The literals of a query. -/
def Query.literals (q : Query) : List Json := Segment.allLiterals q.segments

/-- Whether all values of a list are scalars. -/
def Json.AllScalar (values : List Json) : Prop := ∀ value ∈ values, value.isScalar

@[simp] lemma Json.allScalar_nil : Json.AllScalar [] := by simp [Json.AllScalar]

@[simp] lemma Json.allScalar_singleton (value : Json) :
    Json.AllScalar [value] ↔ value.isScalar := by
  simp [Json.AllScalar]

@[simp] lemma Json.allScalar_append (values values' : List Json) :
    Json.AllScalar (values ++ values') ↔ Json.AllScalar values ∧ Json.AllScalar values' :=
  List.forall_mem_append

/-! ## What is written is read back -/

mutual

theorem Segment.ofTagged_toTagged (s : Segment) (h : Json.AllScalar s.literals) :
    Segment.ofTagged s.toTagged = .ok s := by
  cases s with
  | key name => simp [Segment.toTagged, Segment.ofTagged]
  | index i => simp [Segment.toTagged, Segment.ofTagged, Number.toInt64?_ofInt64]
  | slice start stop step =>
    have hbounds : Segment.ofBounds? (.ofBound start) (.ofBound stop) (.ofBound step) =
        some (.slice start stop step) :=
      Segment.ofBounds?_eq_some_iff.2 ⟨start, stop, step, rfl, rfl, rfl, rfl⟩
    simp [Segment.toTagged, Segment.ofTagged, hbounds]
  | wildcard => simp [Segment.toTagged, Segment.ofTagged]
  | union selectors =>
    have hselectors := Segment.ofTaggedList_toTaggedList selectors h
    simp [Segment.toTagged, Segment.ofTagged, hselectors, Except.map]
  | descendant selector =>
    have hselector := Segment.ofTagged_toTagged selector h
    simp [Segment.toTagged, Segment.ofTagged, hselector, Except.map]
  | filter test =>
    have htest := Expr.ofTagged_toTagged test h
    simp [Segment.toTagged, Segment.ofTagged, htest, Except.map]

lemma Segment.ofTaggedList_toTaggedList (ss : List Segment)
    (h : Json.AllScalar (Segment.allLiterals ss)) :
    Segment.ofTaggedList (Segment.toTaggedList ss) = .ok ss := by
  match ss with
  | [] => rfl
  | s :: rest =>
    simp only [Segment.allLiterals, Json.allScalar_append] at h
    have hs := Segment.ofTagged_toTagged s h.1
    have hrest := Segment.ofTaggedList_toTaggedList rest h.2
    simp only [Segment.toTaggedList, Segment.ofTaggedList, hs, hrest]
    rfl

theorem Expr.ofTagged_toTagged (e : Expr) (h : Json.AllScalar e.literals) :
    Expr.ofTagged e.toTagged = .ok e := by
  cases e with
  | literal value =>
    have hscalar : value.isScalar := by simpa [Expr.literals] using h
    cases value with
    | array elements => simp [Json.isScalar, Json.isContainer] at hscalar
    | object members => simp [Json.isScalar, Json.isContainer] at hscalar
    | _ => simp [Expr.toTagged, Expr.ofTagged]
  | query anchor segments =>
    have hsegments := Segment.ofTaggedList_toTaggedList segments h
    cases anchor <;>
      simp [Expr.toTagged, Anchor.symbol, Expr.ofTagged, hsegments, Except.map]
  | not e =>
    have he := Expr.ofTagged_toTagged e h
    simp [Expr.toTagged, Expr.ofTagged, he, Except.map]
  | and l r =>
    simp only [Expr.literals, Json.allScalar_append] at h
    have hl := Expr.ofTagged_toTagged l h.1
    have hr := Expr.ofTagged_toTagged r h.2
    simp only [Expr.toTagged, Expr.ofTagged, hl, hr]
    rfl
  | or l r =>
    simp only [Expr.literals, Json.allScalar_append] at h
    have hl := Expr.ofTagged_toTagged l h.1
    have hr := Expr.ofTagged_toTagged r h.2
    simp only [Expr.toTagged, Expr.ofTagged, hl, hr]
    rfl
  | compare op l r =>
    simp only [Expr.literals, Json.allScalar_append] at h
    have hl := Expr.ofTagged_toTagged l h.1
    have hr := Expr.ofTagged_toTagged r h.2
    -- No symbol of a comparison is one of the other tags.
    have hread : Expr.ofTagged (.array [.string op.symbol, l.toTagged, r.toTagged]) =
        (do
          let l ← Expr.ofTagged l.toTagged
          let r ← Expr.ofTagged r.toTagged
          return .compare op l r) := by
      rw [Expr.ofTagged.eq_11, Comparison.ofSymbol?_symbol]
      all_goals cases op <;> simp [Comparison.symbol]
    rw [Expr.toTagged, hread, hl, hr]
    rfl
  | call function arguments =>
    have harguments := Expr.ofTaggedList_toTaggedList arguments h
    simp [Expr.toTagged, Expr.ofTagged, harguments, Except.map]

lemma Expr.ofTaggedList_toTaggedList (es : List Expr)
    (h : Json.AllScalar (Expr.allLiterals es)) :
    Expr.ofTaggedList (Expr.toTaggedList es) = .ok es := by
  match es with
  | [] => rfl
  | e :: rest =>
    simp only [Expr.allLiterals, Json.allScalar_append] at h
    have he := Expr.ofTagged_toTagged e h.1
    have hrest := Expr.ofTaggedList_toTaggedList rest h.2
    simp only [Expr.toTaggedList, Expr.ofTaggedList, he, hrest]
    rfl

end

/-! ## What is read is written back -/

/-- A segment read from the value has scalar literals and is written as that value. -/
def Segment.WritesBack (value : Json) : Prop :=
  ∀ s, Segment.ofTagged value = .ok s → Json.AllScalar s.literals ∧ s.toTagged = value

/-- Segments read from the values have scalar literals and are written as those values. -/
def Segment.AllWriteBack (values : List Json) : Prop :=
  ∀ ss, Segment.ofTaggedList values = .ok ss →
    Json.AllScalar (Segment.allLiterals ss) ∧ Segment.toTaggedList ss = values

/-- An expression read from the value has scalar literals and is written as that value. -/
def Expr.WritesBack (value : Json) : Prop :=
  ∀ e, Expr.ofTagged value = .ok e → Json.AllScalar e.literals ∧ e.toTagged = value

/-- Arguments read from the values have scalar literals and are written as those values. -/
def Expr.AllWriteBack (values : List Json) : Prop :=
  ∀ es, Expr.ofTaggedList values = .ok es →
    Json.AllScalar (Expr.allLiterals es) ∧ Expr.toTaggedList es = values

/-! ### Segments -/

lemma Segment.writesBack_key (name : String) : Segment.WritesBack (.string name) := by
  intro s h
  obtain rfl : Segment.key name = s := by simpa [Segment.ofTagged] using h
  exact ⟨Json.allScalar_nil, rfl⟩

lemma Segment.writesBack_index (n : Number) : Segment.WritesBack (.number n) := by
  intro s h
  cases hi : n.toInt64? with
  | none => simp [Segment.ofTagged, hi] at h
  | some i =>
    obtain rfl : Segment.index i = s := by simpa [Segment.ofTagged, hi] using h
    exact ⟨Json.allScalar_nil, by rw [Segment.toTagged, Number.ofInt64_of_toInt64? hi]⟩

lemma Segment.writesBack_wildcard : Segment.WritesBack (.array [.string "wild"]) := by
  intro s h
  obtain rfl : Segment.wildcard = s := by simpa [Segment.ofTagged] using h
  exact ⟨Json.allScalar_nil, rfl⟩

lemma Segment.writesBack_union {selectors : List Json} (ih : Segment.AllWriteBack selectors) :
    Segment.WritesBack (.array (.string "u" :: selectors)) := by
  intro s h
  rw [Segment.ofTagged] at h
  obtain ⟨ss, hss, rfl⟩ := exists_of_map_eq_ok h
  obtain ⟨hscalar, hwritten⟩ := ih ss hss
  exact ⟨hscalar, by rw [Segment.toTagged, hwritten]⟩

lemma Segment.writesBack_descendant {selector : Json} (ih : Segment.WritesBack selector) :
    Segment.WritesBack (.array [.string "desc", selector]) := by
  intro s h
  rw [Segment.ofTagged] at h
  obtain ⟨t, ht, rfl⟩ := exists_of_map_eq_ok h
  obtain ⟨hscalar, hwritten⟩ := ih t ht
  exact ⟨hscalar, by rw [Segment.toTagged, hwritten]⟩

lemma Segment.writesBack_slice (start stop step : Json) :
    Segment.WritesBack (.array [.string "slice", start, stop, step]) := by
  intro s h
  cases ht : Segment.ofBounds? start stop step with
  | none => simp [Segment.ofTagged, ht] at h
  | some t =>
    obtain rfl : t = s := by simpa [Segment.ofTagged, ht] using h
    obtain ⟨a, b, c, rfl, rfl, rfl, rfl⟩ := Segment.ofBounds?_eq_some_iff.1 ht
    exact ⟨Json.allScalar_nil, rfl⟩

lemma Segment.writesBack_filter {test : Json} (ih : Expr.WritesBack test) :
    Segment.WritesBack (.array [.string "filt", test]) := by
  intro s h
  rw [Segment.ofTagged] at h
  obtain ⟨e, he, rfl⟩ := exists_of_map_eq_ok h
  obtain ⟨hscalar, hwritten⟩ := ih e he
  exact ⟨hscalar, by rw [Segment.toTagged, hwritten]⟩

lemma Segment.allWriteBack_cons {value : Json} {rest : List Json}
    (hvalue : Segment.WritesBack value) (hrest : Segment.AllWriteBack rest) :
    Segment.AllWriteBack (value :: rest) := by
  intro ss h
  rw [Segment.ofTaggedList] at h
  obtain ⟨s, others, hs, hothers, rfl⟩ := exists_of_pair_eq_ok h
  obtain ⟨hscalar, hwritten⟩ := hvalue s hs
  obtain ⟨hscalars, hwrittens⟩ := hrest others hothers
  refine ⟨?_, by rw [Segment.toTaggedList, hwritten, hwrittens]⟩
  rw [Segment.allLiterals, Json.allScalar_append]
  exact ⟨hscalar, hscalars⟩

/-! ### Expressions -/

lemma Expr.writesBack_scalar {value : Json} (hscalar : value.isScalar)
    (hvalue : Expr.ofTagged value = .ok (.literal value)) : Expr.WritesBack value := by
  intro e h
  obtain rfl : Expr.literal value = e := by simpa [hvalue] using h
  exact ⟨(Json.allScalar_singleton value).2 hscalar, rfl⟩

lemma Expr.writesBack_query (anchor : Anchor) {segments : List Json}
    (ih : Segment.AllWriteBack segments) :
    Expr.WritesBack (.array (.string anchor.symbol :: segments)) := by
  intro e h
  have hread : Expr.ofTagged (.array (.string anchor.symbol :: segments)) =
      (Segment.ofTaggedList segments).map (.query anchor) := by
    cases anchor <;> simp [Anchor.symbol, Expr.ofTagged]
  rw [hread] at h
  obtain ⟨ss, hss, rfl⟩ := exists_of_map_eq_ok h
  obtain ⟨hscalar, hwritten⟩ := ih ss hss
  exact ⟨hscalar, by rw [Expr.toTagged, hwritten]⟩

lemma Expr.writesBack_not {operand : Json} (ih : Expr.WritesBack operand) :
    Expr.WritesBack (.array [.string "not", operand]) := by
  intro e h
  rw [Expr.ofTagged] at h
  obtain ⟨f, hf, rfl⟩ := exists_of_map_eq_ok h
  obtain ⟨hscalar, hwritten⟩ := ih f hf
  exact ⟨hscalar, by rw [Expr.toTagged, hwritten]⟩

/-- An operator of two operands that is read as `combine` and written so too. -/
lemma Expr.writesBack_operator (tag : String) (combine : Expr → Expr → Expr) {left right : Json}
    (hread : Expr.ofTagged (.array [.string tag, left, right]) =
      (do let l ← Expr.ofTagged left; let r ← Expr.ofTagged right; return combine l r))
    (hliterals : ∀ l r, (combine l r).literals = l.literals ++ r.literals)
    (hwritten : ∀ l r, (combine l r).toTagged = .array [.string tag, l.toTagged, r.toTagged])
    (hl : Expr.WritesBack left) (hr : Expr.WritesBack right) :
    Expr.WritesBack (.array [.string tag, left, right]) := by
  intro e h
  rw [hread] at h
  obtain ⟨l, r, hleft, hright, rfl⟩ := exists_of_pair_eq_ok h
  obtain ⟨hscalar, hwrittenLeft⟩ := hl l hleft
  obtain ⟨hscalar', hwrittenRight⟩ := hr r hright
  refine ⟨?_, by rw [hwritten, hwrittenLeft, hwrittenRight]⟩
  rw [hliterals, Json.allScalar_append]
  exact ⟨hscalar, hscalar'⟩

lemma Expr.writesBack_call (function : String) {arguments : List Json}
    (ih : Expr.AllWriteBack arguments) :
    Expr.WritesBack (.array (.string "func" :: .string function :: arguments)) := by
  intro e h
  rw [Expr.ofTagged] at h
  obtain ⟨es, hes, rfl⟩ := exists_of_map_eq_ok h
  obtain ⟨hscalar, hwritten⟩ := ih es hes
  exact ⟨hscalar, by rw [Expr.toTagged, hwritten]⟩

lemma Expr.allWriteBack_cons {value : Json} {rest : List Json}
    (hvalue : Expr.WritesBack value) (hrest : Expr.AllWriteBack rest) :
    Expr.AllWriteBack (value :: rest) := by
  intro es h
  rw [Expr.ofTaggedList] at h
  obtain ⟨e, others, he, hothers, rfl⟩ := exists_of_pair_eq_ok h
  obtain ⟨hscalar, hwritten⟩ := hvalue e he
  obtain ⟨hscalars, hwrittens⟩ := hrest others hothers
  refine ⟨?_, by rw [Expr.toTaggedList, hwritten, hwrittens]⟩
  rw [Expr.allLiterals, Json.allScalar_append]
  exact ⟨hscalar, hscalars⟩

/-! ### The induction -/

lemma ofTagged_writesBack :
    (∀ value, Segment.WritesBack value) ∧ (∀ value, Expr.WritesBack value) ∧
      (∀ values, Expr.AllWriteBack values) ∧ (∀ values, Segment.AllWriteBack values) := by
  apply Segment.ofTagged.mutual_induct
  -- segments
  · exact Segment.writesBack_key
  · exact fun n _ _ => Segment.writesBack_index n
  · exact fun n _ => Segment.writesBack_index n
  · exact Segment.writesBack_wildcard
  · exact fun _ => Segment.writesBack_union
  · exact fun _ => Segment.writesBack_descendant
  · exact fun start stop step _ _ => Segment.writesBack_slice start stop step
  · exact fun start stop step _ => Segment.writesBack_slice start stop step
  · exact fun _ => Segment.writesBack_filter
  · intro tag operands hu hwild hdesc hslice hfilt s h
    rw [Segment.ofTagged] at h <;> simp_all
  · intro value hstring hnumber harray s h
    rw [Segment.ofTagged] at h <;> simp_all
  -- expressions
  · exact Expr.writesBack_scalar rfl (by rw [Expr.ofTagged])
  · exact fun b => Expr.writesBack_scalar rfl (by rw [Expr.ofTagged])
  · exact fun n => Expr.writesBack_scalar rfl (by rw [Expr.ofTagged])
  · exact fun s => Expr.writesBack_scalar rfl (by rw [Expr.ofTagged])
  · exact fun _ => Expr.writesBack_query .root
  · exact fun _ => Expr.writesBack_query .current
  · intro l r
    exact Expr.writesBack_operator "and" .and (by rw [Expr.ofTagged]) (fun _ _ => rfl)
      fun _ _ => rfl
  · intro l r
    exact Expr.writesBack_operator "or" .or (by rw [Expr.ofTagged]) (fun _ _ => rfl)
      fun _ _ => rfl
  · exact fun _ => Expr.writesBack_not
  · exact fun function _ => Expr.writesBack_call function
  · intro symbol l r hroot hcurrent hand hor hfunc hnone e h
    rw [Expr.ofTagged] at h <;> simp_all
  · intro symbol l r hroot hcurrent hand hor hfunc op hop hl hr
    obtain rfl := Comparison.symbol_of_ofSymbol? hop
    refine Expr.writesBack_operator _ (.compare op) ?_ (fun _ _ => rfl) (fun _ _ => rfl) hl hr
    rw [Expr.ofTagged.eq_11 _ _ _ hroot hcurrent hand hor hfunc, hop]
  · intro tag operands hroot hcurrent hcompare hand hor hnot hfunc e h
    rw [Expr.ofTagged] at h <;> simp_all
  · intro value hnull hbool hnumber hstring harray e h
    rw [Expr.ofTagged] at h <;> simp_all
  -- lists
  · intro es h
    obtain rfl : [] = es := by simpa [Expr.ofTaggedList] using h
    exact ⟨Json.allScalar_nil, rfl⟩
  · exact fun _ _ => Expr.allWriteBack_cons
  · intro ss h
    obtain rfl : [] = ss := by simpa [Segment.ofTaggedList] using h
    exact ⟨Json.allScalar_nil, rfl⟩
  · exact fun _ _ => Segment.allWriteBack_cons

/-! ## Queries -/

theorem Query.ofTagged_toTagged {q : Query} (h : Json.AllScalar q.literals) :
    Query.ofTagged q.toTagged = .ok q := by
  have hsegments := Segment.ofTaggedList_toTaggedList q.segments h
  simp only [Query.toTagged, Query.ofTagged, Anchor.ofSymbol?_symbol, hsegments]
  rfl

lemma Query.toTagged_of_ofTagged {value : Json} {q : Query}
    (h : Query.ofTagged value = .ok q) : Json.AllScalar q.literals ∧ q.toTagged = value := by
  unfold Query.ofTagged at h
  split at h
  · rename_i symbol segments
    split at h
    · rename_i anchor hanchor
      obtain ⟨ss, hss, rfl⟩ := exists_of_map_eq_ok h
      obtain ⟨hscalar, hwritten⟩ := ofTagged_writesBack.2.2.2 segments ss hss
      refine ⟨hscalar, ?_⟩
      rw [Query.toTagged, hwritten, Anchor.symbol_of_ofSymbol? hanchor]
    · simp at h
  · simp at h

/-- Reading and writing tagged values are inverse to each other: a value is read as a query if and
only if the query has no literals but scalars and is written as exactly that value.  The same holds
of expressions. -/
theorem Query.ofTagged_eq_ok_iff :
    (∀ (value : Json) (q : Query),
      Query.ofTagged value = .ok q ↔ (∀ v ∈ q.literals, v.isScalar) ∧ q.toTagged = value) ∧
    (∀ (value : Json) (e : Expr),
      Expr.ofTagged value = .ok e ↔ (∀ v ∈ e.literals, v.isScalar) ∧ e.toTagged = value) := by
  constructor
  · intro value q
    constructor
    · exact Query.toTagged_of_ofTagged
    · rintro ⟨hscalar, rfl⟩
      exact Query.ofTagged_toTagged hscalar
  · intro value e
    constructor
    · exact ofTagged_writesBack.2.1 value e
    · rintro ⟨hscalar, rfl⟩
      exact Expr.ofTagged_toTagged e hscalar

end JsonPath
