import JsonPath.Proofs.Reordering.Documents

/-!
# What evaluation asks of values

Equality, order, lengths, places of arrays and the built-in functions give related results for
values that are alike.  Equality is the one that goes into the values: it tests all members of one
object and looks them up by name in the other, and neither depends on the order of members.
-/

namespace JsonPath

namespace Json

/-! ## Equality -/

/-- Whether a member has an equal member of its name in a list. -/
def memberIn (numbers : Number → Number → Bool) (ys : List (String × Json))
    (m : String × Json) : Bool :=
  match lookup m.1 ys with
  | some y => eqWith numbers m.2 y
  | none => false

lemma membersInWith_eq_all (numbers : Number → Number → Bool) (xs ys : List (String × Json)) :
    membersInWith numbers xs ys = xs.all (memberIn numbers ys) := by
  induction xs with
  | nil => rfl
  | cons m ms ih =>
    rw [membersInWith, ih, List.all_cons]
    rfl

/-- A scalar and a container are never equal. -/
lemma eqWith_eq_false {numbers : Number → Number → Bool} {x y : Json}
    (h : x.isContainer ≠ y.isContainer) : eqWith numbers x y = false := by
  cases x <;> cases y <;> first | rfl | exact absurd rfl h

namespace Alike

variable {numbers : Number → Number → Bool}

lemma elementsEqWith_eq {xs ys as bs : List Json} (hxy : List.Forall₂ Alike xs ys)
    (hab : List.Forall₂ Alike as bs)
    (h : ∀ x ∈ xs, ∀ y a b, Alike x y → Alike a b → eqWith numbers x a = eqWith numbers y b) :
    elementsEqWith numbers xs as = elementsEqWith numbers ys bs := by
  induction hxy generalizing as bs with
  | nil => cases hab <;> rfl
  | @cons x y xs ys hhead _ ih =>
    cases hab with
    | nil => rfl
    | cons hhead' htail' =>
      have hfirst := h x List.mem_cons_self _ _ _ hhead hhead'
      have hrest := ih htail' fun z hz => h z (List.mem_cons_of_mem x hz)
      rw [elementsEqWith, elementsEqWith, hfirst, hrest]

lemma memberIn_eq {as bs : List (String × Json)} {m n : String × Json}
    (hmn : SameMember Alike m n)
    (hlookups : ∀ name, Option.Rel Alike (lookup name as) (lookup name bs))
    (h : ∀ y a b, Alike m.2 y → Alike a b → eqWith numbers m.2 a = eqWith numbers y b) :
    memberIn numbers as m = memberIn numbers bs n := by
  obtain ⟨hname, hvalue⟩ := hmn
  have hlookup := hlookups m.1
  unfold memberIn
  rw [← hname]
  cases ha : lookup m.1 as with
  | none =>
    rw [ha] at hlookup
    cases hb : lookup m.1 bs with
    | none => rfl
    | some b => rw [hb] at hlookup; cases hlookup
  | some a =>
    rw [ha] at hlookup
    cases hb : lookup m.1 bs with
    | none => rw [hb] at hlookup; cases hlookup
    | some b =>
      rw [hb] at hlookup
      cases hlookup with
      | some hab => exact h _ _ _ hvalue hab

/-- Equality is the same for values that are alike, on either side. -/
theorem eqWith_eq {x y a b : Json} (hxy : Alike x y) (hab : Alike a b) :
    eqWith numbers x a = eqWith numbers y b := by
  induction x using Json.induction generalizing y a b with
  | step x ih =>
    by_cases hkind : x.isContainer = a.isContainer
    · cases hxy.view with
      | scalar hscalar =>
        rw [hab.eq_of_scalar (hkind.symm.trans hscalar)]
      | @array xs ys hxs =>
        cases hab.view with
        | scalar hscalar => exact absurd (hkind.trans hscalar) (by simp [isContainer])
        | array has =>
          refine elementsEqWith_eq hxs has fun x hx y a b hxy hab => ?_
          exact ih x hx hxy hab
        | object _ _ => rfl
      | @object xs ys hxs _ =>
        cases hab.view with
        | scalar hscalar => exact absurd (hkind.trans hscalar) (by simp [isContainer])
        | array _ => rfl
        | object has hlookups =>
          rw [eqWith, eqWith, membersInWith_eq_all, membersInWith_eq_all, hxs.length_eq,
            has.length_eq]
          refine congrArg (_ && ·) (hxs.with_mem.all_eq ?_)
          rintro m n ⟨hm, hmn⟩
          refine memberIn_eq hmn hlookups fun y a b hxy hab => ?_
          exact ih m.2 (List.mem_map_of_mem hm) hxy hab
    · have hkind' : y.isContainer ≠ b.isContainer := by
        rw [← hxy.isContainer_eq, ← hab.isContainer_eq]
        exact hkind
      rw [eqWith_eq_false hkind, eqWith_eq_false hkind']

end Alike

end Json

/-! ## Comparisons -/

section Scalars

variable {x x' y y' : Option Json}

lemma Scalar.equal_eq (hx : Option.Rel Json.Alike x x') (hy : Option.Rel Json.Alike y y') :
    Scalar.equal x y = Scalar.equal x' y' := by
  cases hx with
  | none => rfl
  | some hx =>
    cases hy with
    | none => rfl
    | some hy => exact hx.eqWith_eq hy

/-- What gives one answer for every container, on either side, sees no order of members. -/
lemma eq_of_ignores_containers {α : Type} {f : Option Json → Option Json → α} {answer : α}
    (hleft : ∀ c y, c.isContainer = true → f (some c) y = answer)
    (hright : ∀ x c, c.isContainer = true → f x (some c) = answer)
    (hx : Option.Rel Json.Alike x x') (hy : Option.Rel Json.Alike y y') : f x y = f x' y' := by
  have hcases : ∀ {z z' : Option Json}, Option.Rel Json.Alike z z' →
      z = z' ∨
        ∃ c c', z = some c ∧ z' = some c' ∧ c.isContainer = true ∧ c'.isContainer = true := by
    rintro z z' (h | _)
    · cases h.view with
      | scalar _ => exact .inl rfl
      | array _ => exact .inr ⟨_, _, rfl, rfl, rfl, rfl⟩
      | object _ _ => exact .inr ⟨_, _, rfl, rfl, rfl, rfl⟩
    · exact .inl rfl
  obtain rfl | ⟨c, c', rfl, rfl, hc, hc'⟩ := hcases hx
  · obtain rfl | ⟨c, c', rfl, rfl, hc, hc'⟩ := hcases hy
    · rfl
    · rw [hright _ c hc, hright _ c' hc']
  · rw [hleft c _ hc, hleft c' _ hc']

/-- Containers are not ordered. -/
lemma Scalar.less_eq (hx : Option.Rel Json.Alike x x') (hy : Option.Rel Json.Alike y y') :
    Scalar.less x y = Scalar.less x' y' := by
  refine @eq_of_ignores_containers _ _ _ _ _ Scalar.less false ?_ ?_ hx hy
  · intro c y hc
    cases c <;> first | rfl | simp [Json.isContainer] at hc
  · intro x c hc
    unfold Scalar.less
    split <;> simp_all [Json.isContainer]

lemma Comparison.holds_eq (op : Comparison) (hx : Option.Rel Json.Alike x x')
    (hy : Option.Rel Json.Alike y y') : op.holds x y = op.holds x' y' := by
  have hequal := Scalar.equal_eq hx hy
  have hequal' := Scalar.equal_eq hy hx
  have hless := Scalar.less_eq hx hy
  have hless' := Scalar.less_eq hy hx
  cases op with
  | eq => exact hequal
  | ne => exact congrArg not hequal
  | lt => exact hless
  | le =>
    show (Scalar.equal x y || Scalar.less x y) = (Scalar.equal x' y' || Scalar.less x' y')
    rw [hequal, hless]
  | gt => exact hless'
  | ge =>
    show (Scalar.equal y x || Scalar.less y x) = (Scalar.equal y' x' || Scalar.less y' x')
    rw [hequal', hless']

/-! ## Functions of scalars -/

lemma lengthOf?_eq (h : Option.Rel Json.Alike x x') : lengthOf? x = lengthOf? x' := by
  cases h with
  | none => rfl
  | some h =>
    cases h.view with
    | scalar _ => rfl
    | array helements => exact congrArg some helements.length_eq
    | object hmembers _ => exact congrArg some hmembers.length_eq

/-- A pattern is tested on strings only. -/
lemma testPattern_eq (anchoring : Anchoring) (hx : Option.Rel Json.Alike x x')
    (hy : Option.Rel Json.Alike y y') :
    testPattern anchoring x y = testPattern anchoring x' y' := by
  refine @eq_of_ignores_containers _ _ _ _ _ (testPattern anchoring) (pure false) ?_ ?_ hx hy
  · intro c y hc
    cases c <;> first | rfl | simp [Json.isContainer] at hc
  · intro x c hc
    unfold testPattern
    split <;> simp_all [Json.isContainer]

end Scalars

/-! ## Places of arrays -/

section Places

variable {R : Json → Json → Prop} {xs ys : List Json}

lemma Rearranged.toList {x y : Option Json} (h : Option.Rel R x y) :
    Rearranged R x.toList y.toList := by
  cases h with
  | none => exact .nil
  | some h => exact .singleton h

lemma getElem?_rel (h : List.Forall₂ R xs ys) (i : Nat) : Option.Rel R xs[i]? ys[i]? := by
  induction h generalizing i with
  | nil => exact .none
  | cons hhead _ ih =>
    cases i with
    | zero => exact .some hhead
    | succ i => exact ih i

lemma elementAt?_rel (h : List.Forall₂ R xs ys) (index : Int64) :
    Option.Rel R (elementAt? xs index) (elementAt? ys index) := by
  unfold elementAt?
  rw [h.length_eq]
  cases placeOfIndex? ys.length index with
  | none => exact .none
  | some place => exact getElem?_rel h place

/-- The elements at the same places, the empty slots dropped. -/
lemma ofSlots_forall₂ (h : List.Forall₂ R xs ys) (places : List Nat) :
    List.Forall₂ R (NodeList.ofSlots (places.map fun place => xs[place]?))
      (NodeList.ofSlots (places.map fun place => ys[place]?)) := by
  have hslots : List.Forall₂ (Option.Rel R) (places.map fun place => xs[place]?)
      (places.map fun place => ys[place]?) := by
    rw [List.forall₂_map_left_iff, List.forall₂_map_right_iff, List.forall₂_same]
    exact fun place _ => getElem?_rel h place
  exact List.rel_filterMap (fun _ _ hslot => hslot) hslots

end Places

end JsonPath
