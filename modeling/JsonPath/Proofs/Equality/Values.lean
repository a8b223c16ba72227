import JsonPath.Proofs.Equality.Numbers
import JsonPath.Proofs.Locations.Paths
import JsonPath.Proofs.Reordering.Operations

/-!
# Equality of values

Objects are compared one way only: they have equally many members, and each member of the first has
an equal one of its name in the second.  Where names are unique that is enough, because the second
has then no name left that the first does not have.  So values are equal exactly if the same steps
lead from them to equal children (`Json.SameHead.eqWith_iff`), and that is, if the same paths lead
to values with equal heads (`Json.eqWith_iff_paths`).  The laws of equality then follow from those
of numbers, path by path: it is reflexive, symmetric and blind to the order of members
(`Json.valueEq_refl_comm_memberEquiv`), and it is transitive except where numbers are not
(`Json.valueEq_trans_iff`).
-/

namespace JsonPath

namespace Json

variable {numbers : Number → Number → Bool}

/-! ## Heads -/

/-- Whether two values are of one kind, and equal if they are scalars. -/
inductive SameHead (numbers : Number → Number → Bool) : Json → Json → Prop
  | null : SameHead numbers .null .null
  | bool (b : Bool) : SameHead numbers (.bool b) (.bool b)
  | number {m n : Number} (h : numbers m n = true) : SameHead numbers (.number m) (.number n)
  | string (s : String) : SameHead numbers (.string s) (.string s)
  | array (xs ys : List Json) : SameHead numbers (.array xs) (.array ys)
  | object (xs ys : List (String × Json)) : SameHead numbers (.object xs) (.object ys)

@[simp] lemma sameHead_number_iff {m n : Number} :
    SameHead numbers (.number m) (.number n) ↔ numbers m n = true :=
  ⟨fun h => by cases h; assumption, .number⟩

namespace SameHead

lemma refl (hnumbers : ∀ n, numbers n n = true) (x : Json) : SameHead numbers x x := by
  cases x with
  | null => exact .null
  | bool b => exact .bool b
  | number n => exact .number (hnumbers n)
  | string s => exact .string s
  | array xs => exact .array xs xs
  | object ms => exact .object ms ms

lemma symm (hnumbers : ∀ m n, numbers m n = numbers n m) {x y : Json}
    (h : SameHead numbers x y) : SameHead numbers y x := by
  cases h with
  | null => exact .null
  | bool b => exact .bool b
  | number h => exact .number (hnumbers _ _ ▸ h)
  | string s => exact .string s
  | array xs ys => exact .array ys xs
  | object xs ys => exact .object ys xs

/-- Only numbers may stand in the way of transitivity. -/
lemma trans {x y z : Json} (hxy : SameHead numbers x y) (hyz : SameHead numbers y z)
    (hnumbers : ∀ m n k, x = .number m → y = .number n → z = .number k →
      numbers m n = true → numbers n k = true → numbers m k = true) :
    SameHead numbers x z := by
  cases hxy with
  | null => exact hyz
  | bool b => exact hyz
  | string s => exact hyz
  | number hmn =>
    cases hyz with
    | number hnk => exact .number (hnumbers _ _ _ rfl rfl rfl hmn hnk)
  | array xs ys => cases hyz with | array _ zs => exact .array xs zs
  | object xs ys => cases hyz with | object _ zs => exact .object xs zs

end SameHead

/-- Equal values have equal heads. -/
lemma sameHead_of_eqWith {x y : Json} (h : eqWith numbers x y = true) :
    SameHead numbers x y := by
  cases x <;> cases y <;> simp only [eqWith, beq_iff_eq, Bool.false_eq_true] at h
  case null.null => exact .null
  case bool.bool => exact h ▸ .bool _
  case number.number => exact .number h
  case string.string => exact h ▸ .string _
  case array.array => exact .array _ _
  case object.object => exact .object _ _

/-! ## Children -/

lemma elementsEqWith_iff {xs ys : List Json} :
    elementsEqWith numbers xs ys = true ↔ List.Forall₂ (eqWith numbers · ·) xs ys := by
  induction xs generalizing ys with
  | nil => cases ys <;> simp [elementsEqWith]
  | cons x xs ih => cases ys <;> simp [elementsEqWith, ih]

section Options

variable {R : Json → Json → Prop}

lemma ne_none_iff_of_rel {x y : Option Json} (h : Option.Rel R x y) : x ≠ none ↔ y ≠ none := by
  cases h <;> simp

lemma exists_of_rel_some {x : Json} {y : Option Json} (h : Option.Rel R (some x) y) :
    ∃ z, y = some z ∧ R x z := by
  cases h with
  | some hxy => exact ⟨_, rfl, hxy⟩

lemma rel_swap (hR : ∀ {x y}, R x y → R y x) {x y : Option Json} (h : Option.Rel R x y) :
    Option.Rel R y x := by
  cases h with
  | none => exact .none
  | some hxy => exact .some (hR hxy)

lemma rel_trans {x y z : Option Json} (hxy : Option.Rel R x y) (hyz : Option.Rel R y z)
    (hR : ∀ a b c, x = some a → y = some b → z = some c → R a b → R b c → R a c) :
    Option.Rel R x z := by
  cases hxy with
  | none => exact hyz
  | some hab =>
    cases hyz with
    | some hbc => exact .some (hR _ _ _ rfl rfl rfl hab hbc)

/-- Lists are related exactly if what stands at each place is. -/
lemma forall₂_iff_getElem? {xs ys : List Json} :
    List.Forall₂ R xs ys ↔ ∀ i : Nat, Option.Rel R xs[i]? ys[i]? := by
  refine ⟨getElem?_rel, fun h => ?_⟩
  induction xs generalizing ys with
  | nil =>
    cases ys with
    | nil => exact .nil
    | cons y ys => cases h 0
  | cons x xs ih =>
    cases ys with
    | nil => cases h 0
    | cons y ys =>
      cases h 0 with
      | some hxy => exact .cons hxy (ih fun i => h (i + 1))

end Options

lemma memberIn_iff {ys : List (String × Json)} {m : String × Json} :
    memberIn numbers ys m = true ↔
      ∃ y, lookup m.1 ys = some y ∧ eqWith numbers m.2 y = true := by
  unfold memberIn
  cases lookup m.1 ys <;> simp

lemma mem_names_iff {ms : List (String × Json)} {name : String} :
    name ∈ ms.map Prod.fst ↔ lookup name ms ≠ none := by
  rw [Ne, lookup_eq_none_iff, not_not]

section Objects

variable {xs ys : List (String × Json)}

/-- Where the first of two objects with equally many members has unique names, and the second has
them all, it has no others. -/
lemma perm_names (hxs : (xs.map Prod.fst).Nodup) (hlength : xs.length = ys.length)
    (hsub : xs.map Prod.fst ⊆ ys.map Prod.fst) :
    (xs.map Prod.fst).Perm (ys.map Prod.fst) :=
  (List.subperm_of_subset hxs hsub).perm_of_length_le (by simp [hlength])

/-- Objects with unique names are equal exactly if each name leads to nothing in both or to equal
values. -/
lemma eqWith_object_iff (hxs : (xs.map Prod.fst).Nodup) (hys : (ys.map Prod.fst).Nodup) :
    eqWith numbers (.object xs) (.object ys) = true ↔
      ∀ name, Option.Rel (eqWith numbers · ·) (lookup name xs) (lookup name ys) := by
  rw [eqWith, membersInWith_eq_all, Bool.and_eq_true, beq_iff_eq, List.all_eq_true]
  constructor
  · rintro ⟨hlength, hall⟩ name
    have hnames : (xs.map Prod.fst).Perm (ys.map Prod.fst) := by
      refine perm_names hxs hlength fun name hname => ?_
      obtain ⟨m, hm, rfl⟩ := List.mem_map.mp hname
      obtain ⟨y, hy, -⟩ := memberIn_iff.mp (hall m hm)
      simp [mem_names_iff, hy]
    cases hx : lookup name xs with
    | none =>
      have hy : lookup name ys = none := by
        rwa [lookup_eq_none_iff, ← hnames.mem_iff, ← lookup_eq_none_iff]
      rw [hy]
      exact .none
    | some x =>
      obtain ⟨y, hy, hxy⟩ := memberIn_iff.mp (hall _ ((lookup_eq_some_iff hxs).mp hx))
      rw [hy]
      exact .some hxy
  · intro h
    have hnames : (xs.map Prod.fst).Perm (ys.map Prod.fst) := by
      refine (List.perm_ext_iff_of_nodup hxs hys).mpr fun name => ?_
      rw [mem_names_iff, mem_names_iff]
      exact ne_none_iff_of_rel (h name)
    refine ⟨by simpa using hnames.length_eq, fun m hm => memberIn_iff.mpr ?_⟩
    have hm := (lookup_eq_some_iff hxs).mpr hm
    exact exists_of_rel_some (hm ▸ h m.1)

end Objects

section Unique

variable {x y : Json}

/-- Values of one kind are equal exactly if each step leads from both to nothing or to equal
children. -/
theorem SameHead.eqWith_iff (h : SameHead numbers x y) (hx : x.HasUniqueNames)
    (hy : y.HasUniqueNames) :
    eqWith numbers x y = true ↔
      ∀ step, Option.Rel (eqWith numbers · ·) (x.child? step) (y.child? step) := by
  cases h with
  | null => exact iff_of_true rfl fun step => by cases step <;> exact .none
  | bool b => exact iff_of_true (beq_self_eq_true b) fun step => by cases step <;> exact .none
  | number h => exact iff_of_true h fun step => by cases step <;> exact .none
  | string s => exact iff_of_true (beq_self_eq_true s) fun step => by cases step <;> exact .none
  | array xs ys =>
    rw [eqWith, elementsEqWith_iff, forall₂_iff_getElem?]
    refine ⟨fun h step => ?_, fun h i => h (.element i)⟩
    cases step with
    | member name => exact .none
    | element i => exact h i
  | object xs ys =>
    rw [hasUniqueNames_object_iff] at hx hy
    rw [eqWith_object_iff hx.1 hy.1]
    refine ⟨fun h step => ?_, fun h name => h (.member name)⟩
    cases step with
    | member name => exact h name
    | element i => exact .none

/-! ## Paths -/

/-- What equality of values is by paths, it is of values that may be absent. -/
lemma rel_iff_paths {u v : Option Json}
    (h : ∀ x, u = some x → ∀ y, v = some y → (eqWith numbers x y = true ↔
      ∀ path, Option.Rel (SameHead numbers) (x.at? path) (y.at? path))) :
    Option.Rel (eqWith numbers · ·) u v ↔ ∀ path, Option.Rel (SameHead numbers)
      (u.bind fun x => x.at? path) (v.bind fun y => y.at? path) := by
  cases u with
  | none =>
    cases v with
    | none => simp
    | some y => exact iff_of_false (by simp) fun hpaths => by simpa [at?] using hpaths []
  | some x =>
    cases v with
    | none => exact iff_of_false (by simp) fun hpaths => by simpa [at?] using hpaths []
    | some y => exact Option.rel_some_some.trans (h x rfl y rfl)

/-- Values with unique names are equal exactly if each path leads from both to nothing or to values
with equal heads. -/
theorem eqWith_iff_paths (hx : x.HasUniqueNames) (hy : y.HasUniqueNames) :
    eqWith numbers x y = true ↔
      ∀ path, Option.Rel (SameHead numbers) (x.at? path) (y.at? path) := by
  induction x using Json.induction generalizing y with
  | step x ih =>
    have hchildren : ∀ step, Option.Rel (eqWith numbers · ·) (x.child? step) (y.child? step) ↔
        ∀ path, Option.Rel (SameHead numbers) (x.at? (step :: path)) (y.at? (step :: path)) :=
      fun step => rel_iff_paths fun u hu v hv =>
        ih u (mem_children_of_child? hx hu) (hx.of_child? hu) (hy.of_child? hv)
    constructor
    · intro h path
      have hhead := sameHead_of_eqWith h
      cases path with
      | nil => exact .some hhead
      | cons step path => exact (hchildren step).mp ((hhead.eqWith_iff hx hy).mp h step) path
    · intro h
      have hhead : SameHead numbers x y := Option.rel_some_some.mp (h [])
      exact (hhead.eqWith_iff hx hy).mpr fun step =>
        (hchildren step).mpr fun path => h (step :: path)

/-! ## Laws -/

lemma eqWith_refl (hnumbers : ∀ n, numbers n n = true) (hx : x.HasUniqueNames) :
    eqWith numbers x x = true := by
  refine (eqWith_iff_paths hx hx).mpr fun path => ?_
  cases x.at? path with
  | none => exact .none
  | some z => exact .some (.refl hnumbers z)

lemma eqWith_symm (hnumbers : ∀ m n, numbers m n = numbers n m) (hx : x.HasUniqueNames)
    (hy : y.HasUniqueNames) (h : eqWith numbers x y = true) : eqWith numbers y x = true := by
  rw [eqWith_iff_paths hx hy] at h
  rw [eqWith_iff_paths hy hx]
  exact fun path => rel_swap (.symm hnumbers) (h path)

end Unique

/-- A document with the first integer that is no binary64 number. -/
def oddInteger : Json :=
  .object [("a", .array [.ofNat 9007199254740993, .ofNat 1]),
    ("b", .object [("c", .null), ("d", .ofNat 2)])]

/-- The same document in another order, outside and inside. -/
def oddIntegerReordered : Json :=
  .object [("b", .object [("d", .ofNat 2), ("c", .null)]),
    ("a", .array [.ofNat 9007199254740993, .ofNat 1])]

/-- The document with some integers rounded. -/
def roundedInteger : Json :=
  .object [("b", .object [("c", .null), ("d", .number (.float (.ofInt 2)))]),
    ("a", .array [.number (.float (.ofInt 9007199254740992)), .ofNat 1])]

/-- The document with the integer in front of the first one. -/
def evenInteger : Json :=
  .object [("a", .array [.ofNat 9007199254740992, .number (.float (.ofInt 1))]),
    ("b", .object [("c", .null), ("d", .ofNat 2)])]

lemma hasUniqueNames_oddInteger : oddInteger.HasUniqueNames := by
  simp [oddInteger, Json.ofNat]

lemma hasUniqueNames_roundedInteger : roundedInteger.HasUniqueNames := by
  simp [roundedInteger, Json.ofNat]

/-- Equality of values is reflexive and symmetric, and the members of an object may be reordered at
any depth. -/
theorem valueEq_refl_comm_memberEquiv {x y : Json} (hx : x.HasUniqueNames)
    (hy : y.HasUniqueNames) :
    x.valueEq x = true ∧ x.valueEq y = y.valueEq x ∧
      ∀ x', MemberEquiv x x' → x'.valueEq y = x.valueEq y := by
  refine ⟨eqWith_refl Number.valueEq_refl hx, ?_, fun x' hx' => ?_⟩
  · rw [Bool.eq_iff_iff]
    exact ⟨eqWith_symm Number.valueEq_comm hx hy, eqWith_symm Number.valueEq_comm hy hx⟩
  · have halike : Alike x x' := ⟨hx', .inl hx⟩
    exact (halike.eqWith_eq (.refl y)).symm

theorem valueEq_refl_comm_memberEquiv_nested :
    oddInteger.HasUniqueNames ∧ roundedInteger.HasUniqueNames ∧
      MemberEquiv oddInteger oddIntegerReordered ∧
      oddInteger.valueEq oddInteger = true ∧
      oddInteger.valueEq roundedInteger = roundedInteger.valueEq oddInteger ∧
      oddIntegerReordered.valueEq roundedInteger = oddInteger.valueEq roundedInteger ∧
      oddInteger.valueEq roundedInteger = true := by
  have hequiv : MemberEquiv oddInteger oddIntegerReordered :=
    @MemberEquiv.object _
      [("a", .array [.ofNat 9007199254740993, .ofNat 1]),
        ("b", .object [("d", .ofNat 2), ("c", .null)])] _
      rfl (.cons (.refl _) (.cons (.object rfl (List.forall₂_same.mpr fun x _ => .refl x)
        (.swap _ _ _)) .nil)) (.swap _ _ _)
  obtain ⟨hrefl, hcomm, hreorder⟩ :=
    valueEq_refl_comm_memberEquiv hasUniqueNames_oddInteger hasUniqueNames_roundedInteger
  exact ⟨hasUniqueNames_oddInteger, hasUniqueNames_roundedInteger, hequiv, hrefl, hcomm,
    hreorder _ hequiv, by decide +kernel⟩

/-- Whether a path leads to numbers of which the second merges the others. -/
def Merges (x y z : Json) : Prop :=
  ∃ path m n k, x.at? path = some (.number m) ∧ y.at? path = some (.number n) ∧
    z.at? path = some (.number k) ∧ Number.Merges m n k

/-- Values that are equal to one value are equal, unless that value merges numbers in them. -/
theorem valueEq_trans_iff {x y z : Json} (hx : x.HasUniqueNames) (hy : y.HasUniqueNames)
    (hz : z.HasUniqueNames) (hxy : x.valueEq y = true) (hyz : y.valueEq z = true) :
    x.valueEq z = true ↔ ¬ Merges x y z := by
  rw [valueEq, eqWith_iff_paths hx hy] at hxy
  rw [valueEq, eqWith_iff_paths hy hz] at hyz
  rw [valueEq, eqWith_iff_paths hx hz]
  constructor
  · rintro hxz ⟨path, m, n, k, hm, hn, hk, hmerges⟩
    have hmn := hxy path
    have hnk := hyz path
    have hmk := hxz path
    rw [hm, hn, Option.rel_some_some, sameHead_number_iff] at hmn
    rw [hn, hk, Option.rel_some_some, sameHead_number_iff] at hnk
    rw [hm, hk, Option.rel_some_some, sameHead_number_iff] at hmk
    exact (Number.trans_iff_not_merges hmn hnk).mp hmk hmerges
  · refine fun hapart path => rel_trans (hxy path) (hyz path) fun a b c ha hb hc hab hbc => ?_
    refine hab.trans hbc ?_
    rintro m n k rfl rfl rfl hmn hnk
    refine (Number.trans_iff_not_merges hmn hnk).mpr fun hmerges => ?_
    exact hapart ⟨path, m, n, k, ha, hb, hc, hmerges⟩

theorem valueEq_trans_iff_neighbours :
    oddInteger.HasUniqueNames ∧ roundedInteger.HasUniqueNames ∧ evenInteger.HasUniqueNames ∧
      oddInteger.valueEq roundedInteger = true ∧ roundedInteger.valueEq evenInteger = true ∧
      oddInteger.valueEq evenInteger = false ∧ Merges oddInteger roundedInteger evenInteger := by
  have heven : evenInteger.HasUniqueNames := by
    simp [evenInteger, Json.ofNat]
  have hxy : oddInteger.valueEq roundedInteger = true := by decide +kernel
  have hyz : roundedInteger.valueEq evenInteger = true := by decide +kernel
  have hxz : oddInteger.valueEq evenInteger = false := by decide +kernel
  refine ⟨hasUniqueNames_oddInteger, hasUniqueNames_roundedInteger, heven, hxy, hyz, hxz, ?_⟩
  by_contra hapart
  have hequal := (valueEq_trans_iff hasUniqueNames_oddInteger hasUniqueNames_roundedInteger heven
    hxy hyz).mpr hapart
  rw [hxz] at hequal
  cases hequal

/-- Two neighbouring integers are equal to the binary64 number of one of them, and not to each
other. -/
theorem valueEq_not_transitive :
    (Json.ofNat 9007199254740993).valueEq
        (.number (.float (.ofInt 9007199254740992))) = true ∧
      (Json.number (.float (.ofInt 9007199254740992))).valueEq
        (.ofNat 9007199254740992) = true ∧
      (Json.ofNat 9007199254740993).valueEq (.ofNat 9007199254740992) = false := by
  decide +kernel

end Json

end JsonPath
