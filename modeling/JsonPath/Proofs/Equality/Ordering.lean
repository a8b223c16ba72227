import JsonPath.Evaluation.Comparison
import JsonPath.Proofs.Equality.Values
import Mathlib.Data.String.Basic

/-!
# Order of scalars

Two integers are ordered exactly, and every other pair of numbers by the ranks of the nearest
binary64 numbers.  The two orders fit together because rounding is monotone
(`Binary64.rank_ofInt_le`): a number that is less than another one is not of a higher rank
(`Number.rank_le_of_valueLt`), and one of a lower rank is less (`Number.valueLt_of_rank_lt`).  So
the order of numbers is transitive, even where equality is not, and of two numbers exactly one is
less or both are equal.

`Comparison.holds_coherent` says what that means for the six comparisons: on numbers and on strings
they are the comparisons of a total order, and on all other scalars nothing is less than anything.
-/

namespace JsonPath

namespace Binary64

/-! ## Rounding is monotone -/

section Rounding

variable {p q : ℚ} {position position' field field' r r' : ℕ}

/-- The smaller quotient is in no higher binade. -/
lemma RoundsTo.field_le (h : RoundsTo p position field r) (h' : RoundsTo q position' field' r')
    (hlt : p < q) : field ≤ field' := by
  by_contra! hhigher
  have hone := h'.one_le
  have hbinade : (2 : ℚ) ^ ((field' : ℤ) - 1022) ≤ 2 ^ ((field : ℤ) - 1023) :=
    zpow_le_zpow_right₀ (by norm_num) (by omega)
  have hfloor := h.floor_le (by omega)
  have hceil := h'.lt_ceil
  linarith

/-- Within one binade the smaller quotient is rounded to no more units. -/
lemma RoundsTo.units_le (h : RoundsTo p position field r) (h' : RoundsTo q position' field r')
    (hlt : p < q) : r ≤ r' := by
  have hunit : (0 : ℚ) < 2 ^ ((field : ℤ) - 1075) := by positivity
  have hhalf : (2 : ℚ) ^ ((field : ℤ) - 1075) = 2 * 2 ^ ((field : ℤ) - 1076) := by
    rw [show (field : ℤ) - 1075 = (field : ℤ) - 1076 + 1 by ring, zpow_add_one₀ (by norm_num)]
    ring
  have herror := (abs_le.1 h.error).2
  have herror' := (abs_le.1 h'.error).1
  have hunits : (r : ℚ) * 2 ^ ((field : ℤ) - 1075) < (r' + 1) * 2 ^ ((field : ℤ) - 1075) := by
    linarith
  have hcast : (r : ℚ) < r' + 1 := lt_of_mul_lt_mul_right hunits hunit.le
  exact Nat.lt_succ_iff.1 (by exact_mod_cast hcast)

lemma RoundsTo.position_le (h : RoundsTo p position field r)
    (h' : RoundsTo q position' field' r') (hlt : p < q) : position ≤ position' := by
  rw [h.position_eq, h'.position_eq]
  rcases (h.field_le h' hlt).lt_or_eq with hlower | rfl
  · -- The units of a binade end where those of the next one start.
    have hone := h.one_le
    have hmost := h.le_two_pow
    have hleast := h'.two_pow_le (by omega)
    omega
  · exact Nat.add_le_add_left (h.units_le h' hlt) _

lemma nearestPosition_le {m n : ℕ} (h : m ≤ n) : nearestPosition m 1 ≤ nearestPosition n 1 := by
  rcases h.lt_or_eq with hlt | rfl
  · rcases Nat.eq_zero_or_pos m with rfl | hpos
    · exact Nat.zero_le _
    · obtain ⟨field, r, hm⟩ := exists_roundsTo hpos Nat.one_pos
      obtain ⟨field', r', hn⟩ := exists_roundsTo (hpos.trans hlt) Nat.one_pos
      exact hm.position_le hn (by simpa using hlt)
  · exact le_rfl

end Rounding

section Integers

variable {i j : ℤ}

lemma position_ofInt_le (h : i.natAbs ≤ j.natAbs) : (ofInt i).position ≤ (ofInt j).position :=
  min_le_min_right _ (nearestPosition_le h)

theorem rank_ofInt_le (h : i ≤ j) : (ofInt i).rank ≤ (ofInt j).rank := by
  have hnegative : ∀ k : ℤ, (ofInt k).negative = decide (k < 0) := fun _ => rfl
  simp only [rank, hnegative, decide_eq_true_eq]
  split_ifs with hi hj
  · have hposition := position_ofInt_le (i := j) (j := i) (by omega)
    omega
  · omega
  · omega
  · have hposition := position_ofInt_le (i := i) (j := j) (by omega)
    omega

lemma rank_ofInt_lt (hi : i < 0) (hj : 0 < j) (hexact : Number.Exact j) :
    (ofInt i).rank < (ofInt j).rank := by
  refine lt_of_le_of_ne (rank_ofInt_le (by omega)) fun heq => ?_
  have hapart := valueEq_ofInt_eq_false hi hj hexact
  rw [valueEq_iff.2 heq] at hapart
  cases hapart

end Integers

end Binary64

/-! ## Numbers -/

namespace Number

/-- The rank of the nearest binary64 number. -/
def rank (a : Number) : ℤ := a.toBinary64.rank

/-- How one number stands to another: integers as such, and others by their ranks. -/
def order : Number → Number → Ordering
  | .int i _, .int j _ => compare i j
  | a, b => compare a.rank b.rank

section Rules

variable {i j : ℤ} {hi : Exact i} {hj : Exact j}

lemma valueLt_int : (int i hi).valueLt (int j hj) = true ↔ i < j := by
  have hrules : (int i hi).valueLt (int j hj) = decide (i < j) := by
    unfold valueLt
    refine compareBy_int (fun m n => decide (m < n)) (fun m n => ?_) (fun m n => ?_)
      fun hsigns => ?_
    · simp only [Int64.lt_iff_toInt_lt]
    · simp only [UInt64.lt_iff_toNat_lt, Nat.cast_lt]
    · rw [Binary64.valueLt, decide_eq_decide]
      rcases hsigns with ⟨hneg, hpos⟩ | ⟨hneg, hpos⟩
      · exact iff_of_true (Binary64.rank_ofInt_lt hneg hpos hj) (by omega)
      · exact iff_of_false (Binary64.rank_ofInt_lt hneg hpos hi).not_gt (by omega)
  rw [hrules, decide_eq_true_eq]

lemma valueLt_float_left (x : Binary64) (b : Number) :
    (float x).valueLt b = true ↔ (float x).rank < b.rank := by
  rw [valueLt, compareBy_float_left, Binary64.valueLt, decide_eq_true_eq]
  rfl

lemma valueLt_float_right (a : Number) (x : Binary64) :
    a.valueLt (float x) = true ↔ a.rank < (float x).rank := by
  rw [valueLt, compareBy_float_right, Binary64.valueLt, decide_eq_true_eq]
  rfl

end Rules

/-! ### Less, equal and greater -/

lemma order_float_left (x : Binary64) (b : Number) :
    (float x).order b = compare (float x).rank b.rank := by
  cases b <;> rfl

lemma order_float_right (a : Number) (x : Binary64) :
    a.order (float x) = compare a.rank (float x).rank := by
  cases a <;> rfl

lemma valueLt_iff (a b : Number) : a.valueLt b = true ↔ a.order b = .lt := by
  cases a with
  | float x => rw [valueLt_float_left, order_float_left, compare_lt_iff_lt]
  | int i hi =>
    cases b with
    | float y => rw [valueLt_float_right, order_float_right, compare_lt_iff_lt]
    | int j hj => rw [valueLt_int, order, compare_lt_iff_lt]

lemma valueEq_iff (a b : Number) : a.valueEq b = true ↔ a.order b = .eq := by
  cases a with
  | float x =>
    rw [valueEq_float_left, Binary64.valueEq_iff, order_float_left, compare_eq_iff_eq]
    rfl
  | int i hi =>
    cases b with
    | float y =>
      rw [valueEq_float_right, Binary64.valueEq_iff, order_float_right, compare_eq_iff_eq]
      rfl
    | int j hj => rw [valueEq_int, beq_iff_eq, order, compare_eq_iff_eq]

lemma swap_order (a b : Number) : (a.order b).swap = b.order a := by
  cases a <;> cases b <;> exact Std.OrientedOrd.eq_swap.symm

/-! ### Transitivity -/

variable {a b c : Number}

theorem rank_le_of_valueLt (h : a.valueLt b = true) : a.rank ≤ b.rank := by
  cases a with
  | float x => exact ((valueLt_float_left x b).1 h).le
  | int i hi =>
    cases b with
    | float y => exact ((valueLt_float_right _ y).1 h).le
    | int j hj => exact Binary64.rank_ofInt_le (valueLt_int.1 h).le

theorem valueLt_of_rank_lt (h : a.rank < b.rank) : a.valueLt b = true := by
  cases a with
  | float x => exact (valueLt_float_left x b).2 h
  | int i hi =>
    cases b with
    | float y => exact (valueLt_float_right _ y).2 h
    | int j hj =>
      rw [valueLt_int]
      by_contra! hle
      exact absurd (Binary64.rank_ofInt_le hle) h.not_ge

/-- The order is transitive.  Only between two integers is it finer than the order of ranks, so of
two steps that lead over or to a binary64 number one raises the rank. -/
theorem valueLt_trans (hab : a.valueLt b = true) (hbc : b.valueLt c = true) :
    a.valueLt c = true := by
  have hab' := rank_le_of_valueLt hab
  have hbc' := rank_le_of_valueLt hbc
  cases b with
  | float y => exact valueLt_of_rank_lt (((valueLt_float_right a y).1 hab).trans_le hbc')
  | int j hj =>
    cases a with
    | float x => exact valueLt_of_rank_lt (((valueLt_float_left x _).1 hab).trans_le hbc')
    | int i hi =>
      cases c with
      | float z => exact valueLt_of_rank_lt (hab'.trans_lt ((valueLt_float_right _ z).1 hbc))
      | int k hk => exact valueLt_int.2 ((valueLt_int.1 hab).trans (valueLt_int.1 hbc))

end Number

/-! ## Scalars -/

namespace Scalar

/-- Whether two scalars are both numbers or both strings. -/
inductive IsOrdered : Option Json → Option Json → Prop
  | numbers (a b : Number) : IsOrdered (some (.number a)) (some (.number b))
  | strings (s t : String) : IsOrdered (some (.string s)) (some (.string t))

/-- One ordering tells how the first scalar stands to the second, and its reverse how the second
stands to the first. -/
structure Stands (x y : Option Json) (o : Ordering) : Prop where
  less_iff : less x y = true ↔ o = .lt
  equal_iff : equal x y = true ↔ o = .eq
  less_swap_iff : less y x = true ↔ o = .gt
  equal_swap_iff : equal y x = true ↔ o = .eq

variable {x y : Option Json}

lemma stands_numbers (a b : Number) :
    Stands (some (.number a)) (some (.number b)) (a.order b) where
  less_iff := a.valueLt_iff b
  equal_iff := a.valueEq_iff b
  less_swap_iff := by
    rw [less, Number.valueLt_iff, ← Number.swap_order]
    cases a.order b <;> decide
  equal_swap_iff := by
    rw [equal, Json.valueEq, Json.eqWith, Number.valueEq_comm, Number.valueEq_iff]

lemma stands_strings (s t : String) :
    Stands (some (.string s)) (some (.string t)) (compare s t) where
  less_iff := by rw [less, decide_eq_true_eq, compare_lt_iff_lt]
  equal_iff := by rw [equal, Json.valueEq, Json.eqWith, beq_iff_eq, compare_eq_iff_eq]
  less_swap_iff := by rw [less, decide_eq_true_eq, compare_gt_iff_gt]
  equal_swap_iff := by rw [equal, Json.valueEq, Json.eqWith, beq_iff_eq, compare_eq_iff_eq, eq_comm]

lemma IsOrdered.exists_stands (h : IsOrdered x y) : ∃ o, Stands x y o := by
  cases h with
  | numbers a b => exact ⟨_, stands_numbers a b⟩
  | strings s t => exact ⟨_, stands_strings s t⟩

lemma less_of_not_isOrdered (h : ¬ IsOrdered x y) : less x y = false := by
  unfold less
  split
  · exact absurd (.numbers _ _) h
  · exact absurd (.strings _ _) h
  · rfl

lemma IsOrdered.symm (h : IsOrdered x y) : IsOrdered y x := by
  cases h with
  | numbers a b => exact .numbers b a
  | strings s t => exact .strings t s

lemma equal_comm (hx : ∀ v ∈ x, v.HasUniqueNames) (hy : ∀ v ∈ y, v.HasUniqueNames) :
    equal x y = equal y x := by
  cases x with
  | none => cases y <;> rfl
  | some v =>
    cases y with
    | none => rfl
    | some w =>
      have hv := hx v rfl
      have hw := hy w rfl
      rw [equal, equal, Bool.eq_iff_iff]
      exact ⟨Json.eqWith_symm Number.valueEq_comm hv hw, Json.eqWith_symm Number.valueEq_comm hw hv⟩

end Scalar

namespace Comparison

open Scalar

variable {x y : Option Json}

/-- Where one ordering tells how two scalars stand, the comparisons are those of a total order. -/
lemma holds_of_stands {o : Ordering} (h : Stands x y o) :
    [Comparison.lt, .eq, .gt].countP (·.holds x y) = 1 ∧
      Comparison.le.holds x y = !Comparison.gt.holds x y ∧
      Comparison.ge.holds x y = !Comparison.lt.holds x y := by
  obtain ⟨hless, hequal, hgreater, hequal'⟩ := h
  cases o <;> simp_all [holds]

/-- Integers are compared exactly. -/
lemma holds_int {i j : ℤ} (hi : Number.Exact i) (hj : Number.Exact j) :
    let x := some (Json.number (.int i hi))
    let y := some (Json.number (.int j hj))
    less x y = decide (i < j) ∧ equal x y = decide (i = j) ∧ less y x = decide (j < i) ∧
      equal y x = decide (i = j) := by
  obtain ⟨hless, hequal, hgreater, hequal'⟩ := stands_numbers (.int i hi) (.int j hj)
  rw [Number.order] at hless hequal hgreater hequal'
  rw [compare_lt_iff_lt] at hless
  rw [compare_eq_iff_eq] at hequal hequal'
  rw [compare_gt_iff_gt] at hgreater
  have hdecide : ∀ {b : Bool} {p : Prop} [Decidable p], (b = true ↔ p) → b = decide p :=
    fun h => Bool.eq_iff_iff.2 (h.trans decide_eq_true_iff.symm)
  exact ⟨hdecide hless, hdecide hequal, hdecide hgreater, hdecide hequal'⟩

/-- Comparisons fit together.  On two numbers or two strings exactly one of `<`, `==` and `>` holds,
and `<=` and `>=` are the negations of `>` and `<`; on all other scalars, absent ones among them,
`<` and `>` never hold and `<=` and `>=` are `==`.  The order of numbers and that of strings are
transitive, and integers are compared exactly. -/
theorem holds_coherent :
    (∀ x y, IsOrdered x y →
      [Comparison.lt, .eq, .gt].countP (·.holds x y) = 1 ∧
        Comparison.le.holds x y = !Comparison.gt.holds x y ∧
        Comparison.ge.holds x y = !Comparison.lt.holds x y) ∧
    (∀ x y, ¬ IsOrdered x y →
      Comparison.lt.holds x y = false ∧ Comparison.gt.holds x y = false ∧
        Comparison.le.holds x y = Comparison.eq.holds x y ∧
        ((∀ v ∈ x, v.HasUniqueNames) → (∀ v ∈ y, v.HasUniqueNames) →
          Comparison.ge.holds x y = Comparison.eq.holds x y)) ∧
    (∀ a b c : Number,
      Comparison.lt.holds (some (.number a)) (some (.number b)) = true →
        Comparison.lt.holds (some (.number b)) (some (.number c)) = true →
        Comparison.lt.holds (some (.number a)) (some (.number c)) = true) ∧
    (∀ s t u : String,
      Comparison.lt.holds (some (.string s)) (some (.string t)) = true →
        Comparison.lt.holds (some (.string t)) (some (.string u)) = true →
        Comparison.lt.holds (some (.string s)) (some (.string u)) = true) ∧
    ∀ (i j : ℤ) (hi : Number.Exact i) (hj : Number.Exact j),
      let x := some (Json.number (.int i hi))
      let y := some (Json.number (.int j hj))
      Comparison.eq.holds x y = decide (i = j) ∧ Comparison.ne.holds x y = decide (i ≠ j) ∧
        Comparison.lt.holds x y = decide (i < j) ∧ Comparison.le.holds x y = decide (i ≤ j) ∧
        Comparison.gt.holds x y = decide (i > j) ∧ Comparison.ge.holds x y = decide (i ≥ j) := by
  refine ⟨fun x y h => ?_, fun x y h => ?_, fun a b c => Number.valueLt_trans, fun s t u => ?_,
    fun i j hi hj => ?_⟩
  · obtain ⟨o, ho⟩ := h.exists_stands
    exact holds_of_stands ho
  · have hless := less_of_not_isOrdered h
    have hgreater := less_of_not_isOrdered fun hswap => h hswap.symm
    refine ⟨hless, hgreater, by simp [holds, hless], fun hx hy => ?_⟩
    simp [holds, hgreater, equal_comm hy hx]
  · simp only [holds, less, decide_eq_true_eq]
    exact String.lt_trans
  · obtain ⟨hless, hequal, hgreater, hequal'⟩ := holds_int hi hj
    refine ⟨hequal, ?_, hless, ?_, hgreater, ?_⟩
    · rw [holds, hequal, decide_not]
    · rw [holds, hequal, hless, ← Bool.decide_or, decide_eq_decide]
      omega
    · rw [holds, hequal', hgreater, ← Bool.decide_or, decide_eq_decide]
      omega

/-- The least and the greatest integer with a binary64 number between them, three strings, and two
documents of which one has integers rounded. -/
theorem holds_coherent_greatestInteger :
    let least := some (Json.number (.int (-0x8000000000000000) (by decide)))
    let middle := some (Json.number (.float (.ofInt 0x8000000000000000)))
    let greatest := some (Json.number (.int 0xFFFFFFFFFFFFFFFF (by decide)))
    (IsOrdered least middle ∧ [Comparison.lt, .eq, .gt].countP (·.holds least middle) = 1) ∧
    (Comparison.lt.holds least middle = true ∧ Comparison.lt.holds middle greatest = true ∧
      Comparison.lt.holds least greatest = true) ∧
    (Comparison.lt.holds (some (.string "Z")) (some (.string "a")) = true ∧
      Comparison.lt.holds (some (.string "a")) (some (.string "é")) = true ∧
      Comparison.lt.holds (some (.string "Z")) (some (.string "é")) = true) ∧
    (¬ IsOrdered (some Json.oddInteger) (some Json.roundedInteger) ∧
      Json.oddInteger.HasUniqueNames ∧ Json.roundedInteger.HasUniqueNames ∧
      Comparison.ge.holds (some Json.oddInteger) (some Json.roundedInteger) =
        Comparison.eq.holds (some Json.oddInteger) (some Json.roundedInteger)) := by
  intro least middle greatest
  obtain ⟨hordered, hunordered, hnumbers, hstrings, -⟩ := holds_coherent
  have hlow : Comparison.lt.holds least middle = true := by decide +kernel
  have hhigh : Comparison.lt.holds middle greatest = true := by decide +kernel
  have hletters : Comparison.lt.holds (some (.string "Z")) (some (.string "a")) = true := by
    decide +kernel
  have haccent : Comparison.lt.holds (some (.string "a")) (some (.string "é")) = true := by
    decide +kernel
  have hscalars : ¬ IsOrdered (some Json.oddInteger) (some Json.roundedInteger) := nofun
  refine ⟨⟨.numbers _ _, (hordered _ _ (.numbers _ _)).1⟩,
    ⟨hlow, hhigh, hnumbers _ _ _ hlow hhigh⟩, ⟨hletters, haccent, hstrings _ _ _ hletters haccent⟩,
    hscalars, Json.hasUniqueNames_oddInteger, Json.hasUniqueNames_roundedInteger,
    (hunordered _ _ hscalars).2.2.2 ?_ ?_⟩
  · simpa using Json.hasUniqueNames_oddInteger
  · simpa using Json.hasUniqueNames_roundedInteger

end Comparison

end JsonPath
