import JsonPath.Evaluation.Basic
import JsonPath.Proofs.Reordering.Lists

/-!
# Documents up to the order of members

Two values are *member-equivalent* if they differ only in the order of object members, at any depth
(`Json.MemberEquiv`).  The members of one name are told apart by their order alone, so only objects
with unique names can be looked into without regard to it (`Json.HasUniqueNames`).

Filters also compare nodes with the literals of the query, which are the same in both runs and need
no unique names.  `Json.Alike` holds of member-equivalent values with unique names and of any value
with itself, and everything that evaluation asks of a value respects it.
-/

namespace JsonPath

namespace Json

/-- Whether all objects in the value have unique names. -/
inductive HasUniqueNames : Json → Prop
  | scalar {x : Json} (h : x.isContainer = false) : HasUniqueNames x
  | array {xs : List Json} (elements : ∀ x ∈ xs, HasUniqueNames x) : HasUniqueNames (.array xs)
  | object {ms : List (String × Json)} (names : (ms.map Prod.fst).Nodup)
      (values : ∀ m ∈ ms, HasUniqueNames m.2) : HasUniqueNames (.object ms)

/-- Whether the second value results from the first by reordering the members of objects.  Members
are reordered inside the member values first and then in the object itself. -/
inductive MemberEquiv : Json → Json → Prop
  | scalar {x : Json} (h : x.isContainer = false) : MemberEquiv x x
  | array {xs ys : List Json} (elements : List.Forall₂ MemberEquiv xs ys) :
      MemberEquiv (.array xs) (.array ys)
  | object {xs zs ys : List (String × Json)} (names : xs.map Prod.fst = zs.map Prod.fst)
      (values : List.Forall₂ MemberEquiv (xs.map Prod.snd) (zs.map Prod.snd))
      (order : zs.Perm ys) : MemberEquiv (.object xs) (.object ys)

/-- What passes from the children of a value to the value holds of all values. -/
@[elab_as_elim]
theorem induction {P : Json → Prop} (step : ∀ x : Json, (∀ y ∈ x.children, P y) → P x)
    (x : Json) : P x := by
  refine @Json.rec P (fun xs => ∀ x ∈ xs, P x) (fun ms => ∀ x ∈ ms.map Prod.snd, P x)
    (fun m => P m.2) ?_ ?_ ?_ ?_ (fun xs ih => step (.array xs) ih)
    (fun ms ih => step (.object ms) ih) ?_ ?_ ?_ ?_ ?_ x
  · exact step .null (by simp [children])
  · exact fun b => step (.bool b) (by simp [children])
  · exact fun n => step (.number n) (by simp [children])
  · exact fun s => step (.string s) (by simp [children])
  · simp
  · intro x xs hx hxs
    exact List.forall_mem_cons.mpr ⟨hx, hxs⟩
  · simp
  · intro m ms hm hms
    exact List.forall_mem_cons.mpr ⟨hm, hms⟩
  · exact fun _ _ hx => hx

namespace MemberEquiv

lemma refl (x : Json) : MemberEquiv x x := by
  induction x using Json.induction with
  | step x ih =>
    cases x with
    | array xs => exact .array (List.forall₂_same.mpr ih)
    | object ms => exact .object rfl (List.forall₂_same.mpr ih) (.refl ms)
    | _ => exact .scalar rfl

end MemberEquiv

@[simp] lemma hasUniqueNames_null : null.HasUniqueNames := .scalar rfl

@[simp] lemma hasUniqueNames_bool (b : Bool) : (bool b).HasUniqueNames := .scalar rfl

@[simp] lemma hasUniqueNames_number (n : Number) : (number n).HasUniqueNames := .scalar rfl

@[simp] lemma hasUniqueNames_string (s : String) : (string s).HasUniqueNames := .scalar rfl

@[simp] lemma hasUniqueNames_array_iff {xs : List Json} :
    (array xs).HasUniqueNames ↔ ∀ x ∈ xs, x.HasUniqueNames := by
  constructor
  · rintro (h | h)
    · cases h
    · exact h
  · exact .array

@[simp] lemma hasUniqueNames_object_iff {ms : List (String × Json)} :
    (object ms).HasUniqueNames ↔ (ms.map Prod.fst).Nodup ∧ ∀ m ∈ ms, m.2.HasUniqueNames := by
  constructor
  · rintro (h | _ | ⟨names, values⟩)
    · cases h
    · exact ⟨names, values⟩
  · exact fun h => .object h.1 h.2

/-- The children of a value with unique names have unique names. -/
lemma HasUniqueNames.of_mem_children {x y : Json} (h : x.HasUniqueNames) (hy : y ∈ x.children) :
    y.HasUniqueNames := by
  cases x with
  | array xs => exact hasUniqueNames_array_iff.mp h y hy
  | object ms =>
    obtain ⟨m, hm, rfl⟩ := List.mem_map.mp hy
    exact (hasUniqueNames_object_iff.mp h).2 m hm
  | _ => cases hy

/-! ## Looking up names -/

lemma lookup_eq_none_iff {ms : List (String × Json)} {name : String} :
    lookup name ms = none ↔ name ∉ ms.map Prod.fst := by
  induction ms with
  | nil => simp [lookup]
  | cons m ms ih =>
    rw [lookup, List.map_cons, List.mem_cons, not_or, ← ih]
    split_ifs with hname
    · simp [hname]
    · simp [Ne.symm hname]

/-- Where names are unique, every member is found by its name. -/
lemma lookup_eq_some_iff {ms : List (String × Json)} (hnames : (ms.map Prod.fst).Nodup)
    {name : String} {x : Json} : lookup name ms = some x ↔ (name, x) ∈ ms := by
  induction ms with
  | nil => simp [lookup]
  | cons m ms ih =>
    obtain ⟨hfresh, hrest⟩ := List.nodup_cons.mp hnames
    rw [lookup, List.mem_cons]
    split_ifs with hname
    · have hother : (name, x) ∉ ms := fun hmem => hfresh (hname ▸ List.mem_map_of_mem hmem)
      simp [hother, Prod.ext_iff, hname, eq_comm]
    · simp [ih hrest, Prod.ext_iff, Ne.symm hname]

/-- Where names are unique, the order of the members does not matter to a lookup. -/
theorem lookup_perm {xs ys : List (String × Json)} (h : xs.Perm ys)
    (hnames : (xs.map Prod.fst).Nodup) (name : String) : lookup name xs = lookup name ys := by
  induction h with
  | nil => rfl
  | cons m _ ih =>
    rw [List.map_cons, List.nodup_cons] at hnames
    rw [lookup, lookup, ih hnames.2]
  | swap m n ms =>
    have hne : n.1 ≠ m.1 := by
      rw [List.map_cons, List.map_cons, List.nodup_cons, List.mem_cons, not_or] at hnames
      exact hnames.1.1
    by_cases hm : m.1 = name
    · have hn : n.1 ≠ name := fun hn => hne (hn.trans hm.symm)
      simp [lookup, hm, hn]
    · simp [lookup, hm]
  | trans hxy _ ih ih' => rw [ih hnames, ih' ((hxy.map Prod.fst).nodup_iff.mp hnames)]

/-- Members of one name with related values. -/
def SameMember (R : Json → Json → Prop) (m n : String × Json) : Prop := m.1 = n.1 ∧ R m.2 n.2

lemma forall₂_sameMember {R : Json → Json → Prop} {xs ys : List (String × Json)}
    (names : xs.map Prod.fst = ys.map Prod.fst)
    (values : List.Forall₂ R (xs.map Prod.snd) (ys.map Prod.snd)) :
    List.Forall₂ (SameMember R) xs ys := by
  induction xs generalizing ys with
  | nil =>
    obtain rfl : ys = [] := by simpa using names.symm
    exact .nil
  | cons m ms ih =>
    cases ys with
    | nil => simp at names
    | cons n ns =>
      rw [List.map_cons, List.map_cons, List.cons.injEq] at names
      rw [List.map_cons, List.map_cons, List.forall₂_cons] at values
      exact .cons ⟨names.1, values.1⟩ (ih names.2 values.2)

lemma lookup_forall₂ {R : Json → Json → Prop} {xs ys : List (String × Json)}
    (h : List.Forall₂ (SameMember R) xs ys) (name : String) :
    Option.Rel R (lookup name xs) (lookup name ys) := by
  induction h with
  | nil => exact .none
  | @cons m n ms ns hmn _ ih =>
    obtain ⟨hname, hvalue⟩ := hmn
    rw [lookup, lookup, ← hname]
    split_ifs
    · exact .some hvalue
    · exact ih

/-! ## Values that evaluation does not tell apart -/

/-- Member-equivalent values of which the first has unique names, or one value twice. -/
def Alike (x y : Json) : Prop := MemberEquiv x y ∧ (x.HasUniqueNames ∨ x = y)

/-- What two values that are alike are made of. -/
inductive AlikeView : Json → Json → Prop
  | scalar {x : Json} (h : x.isContainer = false) : AlikeView x x
  | array {xs ys : List Json} (elements : List.Forall₂ Alike xs ys) :
      AlikeView (.array xs) (.array ys)
  | object {xs ys : List (String × Json)} (members : Rearranged (SameMember Alike) xs ys)
      (lookups : ∀ name, Option.Rel Alike (lookup name xs) (lookup name ys)) :
      AlikeView (.object xs) (.object ys)

namespace Alike

lemma refl (x : Json) : Alike x x := ⟨.refl x, .inr rfl⟩

/-- Related values of which the first ones have unique names are alike. -/
lemma forall₂_of_unique {xs ys : List Json} (hunique : ∀ x ∈ xs, x.HasUniqueNames)
    (h : List.Forall₂ MemberEquiv xs ys) : List.Forall₂ Alike xs ys := by
  have hboth := (List.forall₂_and_left xs ys).mpr ⟨hunique, h⟩
  exact hboth.imp fun x y hxy => ⟨hxy.2, .inl hxy.1⟩

lemma view_refl (x : Json) : AlikeView x x := by
  cases x with
  | array xs => exact .array (List.forall₂_same.mpr fun x _ => refl x)
  | object ms =>
    have hmembers : List.Forall₂ (SameMember Alike) ms ms :=
      List.forall₂_same.mpr fun m _ => ⟨rfl, refl m.2⟩
    exact .object (.of_forall₂ hmembers) (lookup_forall₂ hmembers)
  | _ => exact .scalar rfl

lemma view {x y : Json} (h : Alike x y) : AlikeView x y := by
  obtain ⟨hequiv, hunique | rfl⟩ := h
  · cases hequiv with
    | scalar hscalar => exact .scalar hscalar
    | array helements =>
      cases hunique with
      | scalar hscalar => simp [isContainer] at hscalar
      | array hall => exact .array (forall₂_of_unique hall helements)
    | @object xs zs ys hnames hvalues horder =>
      cases hunique with
      | scalar hscalar => simp [isContainer] at hscalar
      | object hnodup hall =>
        have hall' : ∀ x ∈ xs.map Prod.snd, x.HasUniqueNames := by
          intro x hx
          obtain ⟨m, hm, rfl⟩ := List.mem_map.mp hx
          exact hall m hm
        have hmembers := forall₂_sameMember hnames (forall₂_of_unique hall' hvalues)
        refine .object (.of_forall₂_perm hmembers horder) fun name => ?_
        rw [hnames] at hnodup
        rw [← lookup_perm horder hnodup name]
        exact lookup_forall₂ hmembers name
  · exact view_refl x

/-- A value that is alike to a scalar is that scalar. -/
lemma eq_of_scalar {x y : Json} (h : Alike x y) (hscalar : x.isContainer = false) : y = x := by
  cases h.view with
  | scalar => rfl
  | array => simp [isContainer] at hscalar
  | object => simp [isContainer] at hscalar

lemma children {x y : Json} (h : Alike x y) : Rearranged Alike x.children y.children := by
  cases h.view with
  | scalar hscalar => exact .of_forall₂ (List.forall₂_same.mpr fun x _ => refl x)
  | array helements => exact .of_forall₂ helements
  | object hmembers _ => exact hmembers.map fun m n hmn => hmn.2

lemma member? {x y : Json} (h : Alike x y) (name : String) :
    Option.Rel Alike (x.member? name) (y.member? name) := by
  cases h.view with
  | @scalar x hscalar => cases x <;> first | exact .none | simp [isContainer] at hscalar
  | array _ => exact .none
  | object _ hlookups => exact hlookups name

lemma isContainer_eq {x y : Json} (h : Alike x y) : x.isContainer = y.isContainer := by
  cases h.view <;> rfl

lemma containersRec {x y : Json} (h : Alike x y) :
    Rearranged Alike x.containersRec y.containersRec := by
  induction x using Json.induction generalizing y with
  | step x ih =>
    have hself : Rearranged Alike (if x.isContainer then [x] else [])
        (if x.isContainer then [y] else []) := by
      split
      · exact .singleton h
      · exact .nil
    rw [containersRec_eq, containersRec_eq, ← h.isContainer_eq]
    refine hself.append (h.children.with_mem.flatMap ?_)
    rintro c d ⟨hc, hcd⟩
    exact ih c hc hcd

lemma containers {x y : Json} (h : Alike x y) : Rearranged Alike x.containers y.containers := by
  rw [containers_eq, containers_eq]
  exact h.containersRec

end Alike

end Json

end JsonPath
