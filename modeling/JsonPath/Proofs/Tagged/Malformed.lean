import JsonPath.Json.Containers
import JsonPath.Proofs.Results
import JsonPath.Query.Tagged
import Mathlib.Data.List.Flatten

/-!
# What a refused tagged query is refused for

Whether a part of a tagged query is of a shape that fits its place is seen from the part alone: from
its kind, its tag, the number of its operands, and the symbol, bounds or name among them.  If the
shape fits, it says which parts stand inside, and in places of which kinds
(`TaggedPlace.parts?`).  So a value has parts all the way down, in the order in which they are
written (`TaggedPlace.fragments`).

A value is read if all its parts fit.  Else it is refused with the first of them that does not: one
step of reading refuses its own part or goes on with those inside, from left to right
(`TaggedPlace.error?_eq`), and so does the whole of it (`TaggedPlace.error?_eq_find?`).
-/

namespace JsonPath

/-! ## Errors of readings -/

/-- The error of a reading that fails. -/
def errorOf {ε α : Type} : Except ε α → Option ε
  | .error e => some e
  | .ok _ => none

section Errors

variable {ε α β γ : Type} {x : Except ε α}

@[simp] lemma errorOf_ok (a : α) : errorOf (.ok a : Except ε α) = none := rfl

@[simp] lemma errorOf_error (e : ε) : errorOf (.error e : Except ε α) = some e := rfl

@[simp] lemma errorOf_map (f : α → β) : errorOf (x.map f) = errorOf x := by
  cases x <;> rfl

/-- Of two readings one after the other, the second one only matters if the first one succeeds. -/
lemma errorOf_pair (y : Except ε β) (f : α → β → γ) :
    errorOf (do let a ← x; let b ← y; return f a b) = (errorOf x).or (errorOf y) := by
  cases x with
  | error e => rfl
  | ok a => cases y <;> rfl

/-- Of several readings one after the other, the first one that fails decides. -/
lemma errorOf_list {read : β → Except ε α} {readList : List β → Except ε (List α)}
    (hnil : readList [] = .ok [])
    (hcons : ∀ b rest, readList (b :: rest) =
      do let a ← read b; let others ← readList rest; return a :: others) (bs : List β) :
    errorOf (readList bs) = bs.findSome? fun b => errorOf (read b) := by
  induction bs with
  | nil => rw [hnil, errorOf_ok, List.findSome?_nil]
  | cons b rest ih =>
    rw [hcons, errorOf_pair, ih, List.findSome?_cons]
    cases errorOf (read b) <;> rfl

lemma errorOf_eq_some_iff {e : ε} : errorOf x = some e ↔ x = .error e := by
  cases x <;> simp [errorOf]

lemma errorOf_eq_none_iff : errorOf x = none ↔ ∃ a, x = .ok a := by
  cases x <;> simp [errorOf]

end Errors

/-! ## Shapes -/

/-- The parts inside a query: segments behind an anchor. -/
def Query.parts? : Json → Option (List (TaggedPlace × Json))
  | .array (.string symbol :: segments) =>
    (Anchor.ofSymbol? symbol).map fun _ => segments.map (.segment, ·)
  | _ => none

/-- The parts inside a segment.  The bounds of a slice belong to its shape. -/
def Segment.parts? : Json → Option (List (TaggedPlace × Json))
  | .string _ => some []
  | .number n => n.toInt64?.map fun _ => []
  | .array (.string tag :: operands) =>
    match tag, operands with
    | "wild", [] => some []
    | "u", selectors => some (selectors.map (.segment, ·))
    | "desc", [selector] => some [(.segment, selector)]
    | "slice", [start, stop, step] =>
      if [start, stop, step].all (·.toBound?.isSome) then some [] else none
    | "filt", [test] => some [(.expression, test)]
    | _, _ => none
  | _ => none

/-- The parts inside an expression.  The name of a function belongs to the shape of its call. -/
def Expr.parts? : Json → Option (List (TaggedPlace × Json))
  | .array (.string tag :: operands) =>
    match tag, operands with
    | "$", segments => some (segments.map (.segment, ·))
    | "@", segments => some (segments.map (.segment, ·))
    | "not", [e] => some [(.expression, e)]
    | "func", .string _ :: arguments => some (arguments.map (.expression, ·))
    | operator, [l, r] =>
      if operator = "and" ∨ operator = "or" ∨ (Comparison.ofSymbol? operator).isSome then
        some [(.expression, l), (.expression, r)]
      else none
    | _, _ => none
  | .array _ => none
  | .object _ => none
  | _ => some []

/-- The parts that stand inside a part, with their places, if its own shape fits its place. -/
def TaggedPlace.parts? : TaggedPlace → Json → Option (List (TaggedPlace × Json))
  | .query => Query.parts?
  | .segment => Segment.parts?
  | .expression => Expr.parts?

/-- Whether the shape of a part fits its place. -/
def TaggedPlace.Fits (place : TaggedPlace) (value : Json) : Prop := (place.parts? value).isSome

/-! ### The parts inside a part

They are some of the elements in their order, and all of them are segments or all are
expressions. -/

section Inside

variable {value : Json} {parts : List (TaggedPlace × Json)}

/-- The parts are elements of a value, in their order, and stand in places of one kind. -/
def ArePartsOf (value : Json) (parts : List (TaggedPlace × Json)) : Prop :=
  ∃ (inside : TaggedPlace) (values : List Json), inside ≠ .query ∧
    values.Sublist value.children ∧ parts = values.map (inside, ·)

lemma arePartsOf_nil : ArePartsOf value [] := ⟨.segment, [], nofun, List.nil_sublist _, rfl⟩

/-- The elements behind a tag. -/
lemma arePartsOf_operands {tag : Json} {values : List Json} {inside : TaggedPlace}
    (h : inside ≠ .query) : ArePartsOf (.array (tag :: values)) (values.map (inside, ·)) :=
  ⟨inside, values, h, List.sublist_cons_self .., rfl⟩

lemma Query.arePartsOf (h : Query.parts? value = some parts) : ArePartsOf value parts := by
  unfold Query.parts? at h
  split at h
  · obtain ⟨_, -, rfl⟩ := Option.map_eq_some_iff.1 h
    exact arePartsOf_operands nofun
  · cases h

lemma Segment.arePartsOf (h : Segment.parts? value = some parts) : ArePartsOf value parts := by
  unfold Segment.parts? at h
  split at h
  · cases h
    exact arePartsOf_nil
  · obtain ⟨_, -, rfl⟩ := Option.map_eq_some_iff.1 h
    exact arePartsOf_nil
  · split at h
    · cases h
      exact arePartsOf_nil
    · cases h
      exact arePartsOf_operands nofun
    · cases h
      exact arePartsOf_operands nofun
    · obtain ⟨-, ⟨⟩⟩ := Option.ite_none_right_eq_some.1 h
      exact arePartsOf_nil
    · cases h
      exact arePartsOf_operands nofun
    · cases h
  · cases h

lemma Expr.arePartsOf (h : Expr.parts? value = some parts) : ArePartsOf value parts := by
  unfold Expr.parts? at h
  split at h
  · split at h
    · cases h
      exact arePartsOf_operands nofun
    · cases h
      exact arePartsOf_operands nofun
    · cases h
      exact arePartsOf_operands nofun
    · cases h
      exact ⟨.expression, _, nofun, (List.sublist_cons_self ..).cons _, rfl⟩
    · obtain ⟨-, ⟨⟩⟩ := Option.ite_none_right_eq_some.1 h
      exact arePartsOf_operands nofun
    · cases h
  · cases h
  · cases h
  · cases h
    exact arePartsOf_nil

end Inside

namespace TaggedPlace

variable (place : TaggedPlace) (value : Json)

/-- The parts inside a part; there are none if its shape does not fit. -/
def parts : List (TaggedPlace × Json) := (place.parts? value).getD []

lemma arePartsOf_parts : ArePartsOf value (place.parts value) := by
  unfold parts
  cases h : place.parts? value with
  | none => exact arePartsOf_nil
  | some parts =>
    cases place with
    | query => exact Query.arePartsOf h
    | segment => exact Segment.arePartsOf h
    | expression => exact Expr.arePartsOf h

lemma sublist_children_parts : ((place.parts value).map Prod.snd).Sublist value.children := by
  obtain ⟨inside, values, -, hsub, hparts⟩ := place.arePartsOf_parts value
  rw [hparts, List.map_map]
  exact (List.map_id values).symm ▸ hsub

variable {place value} {f : TaggedPlace × Json}

lemma mem_children_of_mem_parts (h : f ∈ place.parts value) : f.2 ∈ value.children :=
  (place.sublist_children_parts value).subset (List.mem_map_of_mem h)

lemma ne_query_of_mem_parts (h : f ∈ place.parts value) : f.1 ≠ .query := by
  obtain ⟨inside, values, hinside, -, hparts⟩ := place.arePartsOf_parts value
  rw [hparts] at h
  obtain ⟨x, -, rfl⟩ := List.mem_map.1 h
  exact hinside

end TaggedPlace

/-! ## All parts -/

/-- A value and all values inside it, each before those inside it and before those behind it. -/
def Json.subvalues (value : Json) : List Json :=
  value :: value.children.attach.flatMap fun child => child.1.subvalues
termination_by value.count
decreasing_by exact Json.count_lt_of_mem_children child.2

lemma Json.subvalues_eq (value : Json) :
    value.subvalues = value :: value.children.flatMap Json.subvalues := by
  rw [Json.subvalues, List.flatMap_subtype (g := Json.subvalues) fun _ _ => rfl,
    List.unattach_attach]

namespace TaggedPlace

/-- A part and all parts inside it, in the order of `Json.subvalues`. -/
def fragments (place : TaggedPlace) (value : Json) : List (TaggedPlace × Json) :=
  (place, value) :: (place.parts value).attach.flatMap fun f => fragments f.1.1 f.1.2
termination_by value.count
decreasing_by exact Json.count_lt_of_mem_children (mem_children_of_mem_parts f.2)

lemma fragments_eq (place : TaggedPlace) (value : Json) : place.fragments value =
    (place, value) :: (place.parts value).flatMap fun f => f.1.fragments f.2 := by
  rw [fragments, List.flatMap_subtype (g := fun f => f.1.fragments f.2) fun _ _ => rfl,
    List.unattach_attach]

/-- The parts are met in the order in which the values inside a value are written. -/
lemma sublist_subvalues_fragments (place : TaggedPlace) (value : Json) :
    ((place.fragments value).map Prod.snd).Sublist value.subvalues := by
  fun_induction fragments place value with
  | case1 place value ih =>
    have hparts : ∀ f ∈ place.parts value,
        ((f.1.fragments f.2).map Prod.snd).Sublist f.2.subvalues := fun f hf => ih ⟨f, hf⟩
    rw [← fragments, fragments_eq, Json.subvalues_eq, List.map_cons, List.map_flatMap]
    refine .cons_cons _ ((List.Sublist.flatMap_right _ hparts).trans ?_)
    have hchildren := (place.sublist_children_parts value).flatMap Json.subvalues
    rwa [List.flatMap_map] at hchildren

/-- Only the outermost part can stand in the place of a query. -/
lemma ne_query_of_mem_tail_fragments (place : TaggedPlace) (value : Json) :
    ∀ f ∈ (place.fragments value).tail, f.1 ≠ .query := by
  fun_induction fragments place value with
  | case1 place value ih =>
    rw [← fragments, fragments_eq, List.tail_cons]
    intro f hf
    obtain ⟨g, hg, hf⟩ := List.mem_flatMap.1 hf
    rw [fragments_eq] at hf
    rcases List.mem_cons.1 hf with rfl | hinside
    · exact ne_query_of_mem_parts hg
    · refine ih ⟨g, hg⟩ f ?_
      rwa [fragments_eq, List.tail_cons]

end TaggedPlace

/-! ## One step of reading -/

/-- What a value is refused with in a place. -/
def TaggedPlace.error? : TaggedPlace → Json → Option TaggedError
  | .query, value => errorOf (Query.ofTagged value)
  | .segment, value => errorOf (Segment.ofTagged value)
  | .expression, value => errorOf (Expr.ofTagged value)

lemma Segment.isBounds_iff {start stop step : Json} :
    [start, stop, step].all (·.toBound?.isSome) ↔
      ∃ s, Segment.ofBounds? start stop step = some s := by
  simp only [List.all_cons, List.all_nil, Bool.and_true, Bool.and_eq_true, Option.isSome_iff_exists,
    Segment.ofBounds?, Option.bind_eq_bind, Option.bind_eq_some_iff, Option.pure_def,
    Option.some.injEq]
  grind

lemma Segment.errorOf_ofTaggedList (values : List Json) :
    errorOf (Segment.ofTaggedList values) =
      (values.map (TaggedPlace.segment, ·)).findSome? fun f => f.1.error? f.2 := by
  rw [List.findSome?_map]
  exact errorOf_list (by rw [ofTaggedList]) (fun _ _ => by rw [ofTaggedList]) values

lemma Expr.errorOf_ofTaggedList (values : List Json) :
    errorOf (Expr.ofTaggedList values) =
      (values.map (TaggedPlace.expression, ·)).findSome? fun f => f.1.error? f.2 := by
  rw [List.findSome?_map]
  exact errorOf_list (by rw [ofTaggedList]) (fun _ _ => by rw [ofTaggedList]) values

namespace TaggedPlace

/-- One step of reading a value: what it is refused with if the parts inside it are `parts?`. -/
def firstError (place : TaggedPlace) (value : Json) :
    Option (List (TaggedPlace × Json)) → Option TaggedError
  | none => some ⟨place, value⟩
  | some parts => parts.findSome? fun f => f.1.error? f.2

section Steps

variable {place : TaggedPlace} {value : Json}

lemma firstError_one (inside : TaggedPlace) (part : Json) :
    place.firstError value (some [(inside, part)]) = inside.error? part := by
  rw [firstError, List.findSome?_cons]
  cases inside.error? part <;> rfl

lemma firstError_two (inside : TaggedPlace) (first second : Json) :
    place.firstError value (some [(inside, first), (inside, second)]) =
      (inside.error? first).or (inside.error? second) := by
  rw [firstError, List.findSome?_cons, List.findSome?_cons]
  cases inside.error? first <;> cases inside.error? second <;> rfl

/-- An operator of two operands, the first of which is read first. -/
lemma errorOf_operator {l r : Json} (combine : Expr → Expr → Expr)
    (hparts : Expr.parts? value = some [(expression, l), (expression, r)]) :
    errorOf (do let l ← Expr.ofTagged l; let r ← Expr.ofTagged r; return combine l r) =
      expression.firstError value (Expr.parts? value) := by
  rw [errorOf_pair, hparts]
  exact (firstError_two .expression l r).symm

end Steps

lemma error?_query (value : Json) :
    query.error? value = query.firstError value (Query.parts? value) := by
  show errorOf (Query.ofTagged value) = _
  fun_cases Query.ofTagged value with
  | case1 symbol segments anchor h =>
    rw [errorOf_map, Query.parts?, h]
    exact Segment.errorOf_ofTaggedList segments
  | case2 symbol segments h =>
    rw [Query.parts?, h]
    rfl
  | case3 value h =>
    rw [Query.parts?.eq_2 _ h]
    rfl

lemma error?_segment (value : Json) :
    segment.error? value = segment.firstError value (Segment.parts? value) := by
  show errorOf (Segment.ofTagged value) = _
  fun_cases Segment.ofTagged value with
  | case1 name => rfl
  | case2 n i h => rw [Segment.parts?, h]; rfl
  | case3 n h => rw [Segment.parts?, h]; rfl
  | case4 => rfl
  | case5 selectors =>
    rw [errorOf_map]
    exact Segment.errorOf_ofTaggedList selectors
  | case6 selector =>
    rw [errorOf_map]
    exact (firstError_one .segment selector).symm
  | case7 start stop step s h =>
    rw [Segment.parts?, if_pos (Segment.isBounds_iff.2 ⟨s, h⟩)]
    rfl
  | case8 start stop step h =>
    have hbounds : ¬ [start, stop, step].all (·.toBound?.isSome) := fun hall => by
      obtain ⟨s, hs⟩ := Segment.isBounds_iff.1 hall
      rw [h] at hs
      cases hs
    rw [Segment.parts?, if_neg hbounds]
    rfl
  | case9 test =>
    rw [errorOf_map]
    exact (firstError_one .expression test).symm
  -- What no clause of the reader takes has no shape either.
  | case10 tag operands => simp_all [Segment.parts?, firstError]
  | case11 value => simp_all [Segment.parts?, firstError]

lemma error?_expression (value : Json) :
    expression.error? value = expression.firstError value (Expr.parts? value) := by
  show errorOf (Expr.ofTagged value) = _
  fun_cases Expr.ofTagged value with
  | case1 => rfl
  | case2 b => rfl
  | case3 n => rfl
  | case4 s => rfl
  | case5 segments =>
    rw [errorOf_map]
    exact Segment.errorOf_ofTaggedList segments
  | case6 segments =>
    rw [errorOf_map]
    exact Segment.errorOf_ofTaggedList segments
  | case7 l r => exact errorOf_operator .and (by simp [Expr.parts?])
  | case8 l r => exact errorOf_operator .or (by simp [Expr.parts?])
  | case9 e =>
    rw [errorOf_map]
    exact (firstError_one .expression e).symm
  | case10 function arguments =>
    rw [errorOf_map]
    exact Expr.errorOf_ofTaggedList arguments
  | case11 symbol l r hroot hcurrent hand hor hfunc h => simp_all [Expr.parts?, firstError]
  | case12 symbol l r hroot hcurrent hand hor hfunc op h =>
    exact errorOf_operator (.compare op) (by simp_all [Expr.parts?])
  | case13 tag operands => simp_all [Expr.parts?, firstError]
  | case14 value hnull hbool hnumber hstring htagged =>
    cases value with
    | null => exact (hnull rfl).elim
    | bool b => exact (hbool b rfl).elim
    | number n => exact (hnumber n rfl).elim
    | string s => exact (hstring s rfl).elim
    | array elements =>
      rw [Expr.parts?]
      · rfl
      · rintro tag operands rfl
        exact htagged tag operands rfl
    | object members => rfl

/-- One step of reading: a part is refused if its shape does not fit its place, and else with the
error of the first part inside it that is refused. -/
theorem error?_eq (place : TaggedPlace) (value : Json) :
    place.error? value = place.firstError value (place.parts? value) := by
  cases place with
  | query => exact error?_query value
  | segment => exact error?_segment value
  | expression => exact error?_expression value

/-! ## The whole of it -/

lemma findSome?_congr_of_mem {α β : Type} {f g : α → Option β} {xs : List α}
    (h : ∀ x ∈ xs, f x = g x) : xs.findSome? f = xs.findSome? g := by
  induction xs with
  | nil => rfl
  | cons x xs ih =>
    rw [List.findSome?_cons, List.findSome?_cons, h x List.mem_cons_self,
      ih fun y hy => h y (List.mem_cons_of_mem x hy)]

/-- A value is refused with the first of its parts whose shape does not fit. -/
theorem error?_eq_find? (place : TaggedPlace) (value : Json) : place.error? value =
    ((place.fragments value).find? fun f => (f.1.parts? f.2).isNone).map fun f => ⟨f.1, f.2⟩ := by
  fun_induction fragments place value with
  | case1 place value ih =>
    rw [← fragments, fragments_eq, List.find?_cons, error?_eq]
    cases hparts : place.parts? value with
    | none => rfl
    | some parts =>
      have hinside : ∀ f ∈ parts, f.1.error? f.2 =
          ((f.1.fragments f.2).find? fun f => (f.1.parts? f.2).isNone).map
            fun f => ⟨f.1, f.2⟩ := by
        intro f hf
        exact ih ⟨f, by rwa [TaggedPlace.parts, hparts]⟩
      rw [firstError, findSome?_congr_of_mem hinside, TaggedPlace.parts, hparts]
      show _ = Option.map _ (List.find? _ (parts.flatMap _))
      rw [List.find?_flatMap, List.map_findSome?]
      rfl

lemma isNone_parts?_iff (f : TaggedPlace × Json) :
    (f.1.parts? f.2).isNone = true ↔ ¬ f.1.Fits f.2 := by
  rw [Fits, Option.isNone_iff_eq_none, Option.not_isSome_iff_eq_none]

section Outcome

variable (place : TaggedPlace) (value : Json)

lemma error?_eq_some_iff {e : TaggedError} : place.error? value = some e ↔ ∃ before behind,
    place.fragments value = before ++ (e.place, e.part) :: behind ∧
      (∀ f ∈ before, f.1.Fits f.2) ∧ ¬ e.place.Fits e.part := by
  rw [error?_eq_find?, Option.map_eq_some_iff]
  constructor
  · rintro ⟨f, hfind, rfl⟩
    obtain ⟨hmisfit, before, behind, hfragments, hbefore⟩ := List.find?_eq_some_iff_append.1 hfind
    refine ⟨before, behind, hfragments, fun g hg => ?_, (isNone_parts?_iff f).1 hmisfit⟩
    have hfits := hbefore g hg
    rwa [Option.not_isNone] at hfits
  · rintro ⟨before, behind, hfragments, hbefore, hmisfit⟩
    refine ⟨(e.place, e.part), List.find?_eq_some_iff_append.2
      ⟨(isNone_parts?_iff _).2 hmisfit, before, behind, hfragments, fun g hg => ?_⟩, rfl⟩
    rw [Option.not_isNone]
    exact hbefore g hg

lemma error?_eq_none_iff :
    place.error? value = none ↔ ∀ f ∈ place.fragments value, f.1.Fits f.2 := by
  rw [error?_eq_find?, Option.map_eq_none_iff, List.find?_eq_none]
  simp only [isNone_parts?_iff, Classical.not_not]

end Outcome

end TaggedPlace

/-- A tagged query is refused for its first malformed part.  The parts of a value are met in the
order in which they are written, and only the value itself stands in the place of a query.  It is
read if all its parts fit their places; else the error names the first one that does not, with its
place, and the message shows it as compact JSON. -/
theorem Query.ofTagged_refuses_first_malformed (value : Json) :
    ((TaggedPlace.query.fragments value).map Prod.snd).Sublist value.subvalues ∧
    (∀ f ∈ (TaggedPlace.query.fragments value).tail, f.1 ≠ .query) ∧
    ((∃ q, Query.ofTagged value = .ok q) ↔
      ∀ f ∈ TaggedPlace.query.fragments value, f.1.Fits f.2) ∧
    (∀ e, Query.ofTagged value = .error e ↔ ∃ before behind,
      TaggedPlace.query.fragments value = before ++ (e.place, e.part) :: behind ∧
        (∀ f ∈ before, f.1.Fits f.2) ∧ ¬ e.place.Fits e.part) ∧
    (∀ e, Query.ofTagged value = .error e → e.place = .query → e.part = value) ∧
    ∀ part, (TaggedError.mk .query part).message =
        "malformed query " ++ part.text ++ ": expected an array starting with \"$\" or \"@\"" ∧
      (TaggedError.mk .segment part).message = "malformed segment " ++ part.text ∧
      (TaggedError.mk .expression part).message =
        "malformed filter expression " ++ part.text := by
  have herror (e : TaggedError) : Query.ofTagged value = .error e ↔ ∃ before behind,
      TaggedPlace.query.fragments value = before ++ (e.place, e.part) :: behind ∧
        (∀ f ∈ before, f.1.Fits f.2) ∧ ¬ e.place.Fits e.part :=
    errorOf_eq_some_iff.symm.trans (TaggedPlace.error?_eq_some_iff .query value)
  refine ⟨TaggedPlace.sublist_subvalues_fragments _ value,
    TaggedPlace.ne_query_of_mem_tail_fragments _ value,
    errorOf_eq_none_iff.symm.trans (TaggedPlace.error?_eq_none_iff .query value), herror,
    fun e h hquery => ?_, fun part => ⟨rfl, rfl, rfl⟩⟩
  obtain ⟨before, behind, hfragments, -⟩ := (herror e).1 h
  have htail := TaggedPlace.ne_query_of_mem_tail_fragments .query value
  cases before with
  | nil =>
    rw [TaggedPlace.fragments_eq, List.nil_append] at hfragments
    exact (congrArg Prod.snd (List.cons.inj hfragments).1).symm
  | cons f before =>
    rw [hfragments] at htail
    exact absurd hquery (htail (e.place, e.part) (by simp))

/-- The slice is inside the left operand and is met before the unknown operator on the right. -/
example :
    let slice := Json.array [.string "slice", .string "x", .null, .null]
    Query.ofTagged (.array [.string "$", .string "a", .array [.string "filt",
      .array [.string "and", .array [.string "@", slice],
        .array [.string "nope", .null, .null]]], .bool true]) = .error ⟨.segment, slice⟩ := rfl

end JsonPath
