import JsonPath.Number.Basic
import JsonPath.Proofs.Canonical.Rounding

/-!
# Equality of numbers

Two numbers are compared by the first of three rules that both have a part in.  The rules agree on
integers: by whichever of them two integers are compared, they are equal exactly if they are the
same (`Number.valueEq_int`).  All other pairs are compared as binary64 numbers, so that equality of
numbers is reflexive and symmetric.

It is not transitive.  An integer is rounded before it is compared with a binary64 number, and from
`2 ^ 53` on two integers may be rounded to one number, to which both are then equal.  There is no
other exception (`Number.trans_iff_not_merges`), since below `2 ^ 53` rounding changes no integer
(`Binary64.magnitude_ofInt_of_lt`) and no larger one gets there (`Binary64.le_magnitude_ofInt`).
-/

namespace JsonPath

namespace Binary64

/-! ## Values -/

/-- The number as a rational number. -/
def toRat (x : Binary64) : ℚ := if x.negative then -x.magnitude else x.magnitude

variable {x y : Binary64}

lemma abs_toRat (x : Binary64) : |x.toRat| = x.magnitude := by
  unfold toRat
  split_ifs
  · rw [abs_neg, abs_of_nonneg x.magnitude_nonneg]
  · exact abs_of_nonneg x.magnitude_nonneg

lemma magnitude_eq_of_position (h : x.position = y.position) : x.magnitude = y.magnitude := by
  unfold magnitude numerator denominator significand scale exponentField
  rw [h]

lemma magnitude_eq_zero (h : x.position = 0) : x.magnitude = 0 := by
  simp [magnitude_eq, significand, exponentField, h]

lemma valueEq_iff : x.valueEq y = true ↔ x.rank = y.rank := beq_iff_eq

lemma valueEq_comm (x y : Binary64) : x.valueEq y = y.valueEq x := by
  rw [valueEq, valueEq, BEq.comm]

/-- Equal numbers have one value. -/
lemma toRat_eq_of_valueEq (h : x.valueEq y = true) : x.toRat = y.toRat := by
  rw [valueEq_iff, rank, rank] at h
  unfold toRat
  -- Where the signs differ, both numbers are zero.
  split_ifs at h ⊢
  · rw [magnitude_eq_of_position (x := x) (y := y) (by omega)]
  · rw [magnitude_eq_zero (by omega : x.position = 0),
      magnitude_eq_zero (by omega : y.position = 0), neg_zero]
  · rw [magnitude_eq_zero (by omega : x.position = 0),
      magnitude_eq_zero (by omega : y.position = 0), neg_zero]
  · exact magnitude_eq_of_position (by omega)

/-! ## Whole numbers -/

lemma two_pow_le_overflow : (2 : ℚ) ^ 64 ≤ overflow := by
  have hunit : (2 : ℚ) ^ (64 : ℤ) ≤ halfUnit := by
    unfold halfUnit
    exact zpow_le_zpow_right₀ (by norm_num) (by norm_num)
  calc (2 : ℚ) ^ 64 = 1 * 2 ^ (64 : ℤ) := by norm_num
    _ ≤ (2 ^ 54 - 1) * halfUnit := by gcongr; norm_num

/-- The units of a binade below `2 ^ 53` are parts of one, so no whole number there is missed. -/
lemma RoundsTo.units_eq {n position field r : ℕ} (h : RoundsTo n position field r)
    (hfield : field ≤ 1075) : (r : ℚ) * 2 ^ ((field : ℤ) - 1075) = n := by
  obtain ⟨k, hk⟩ : ∃ k : ℕ, (field : ℤ) - 1075 = -k := ⟨1075 - field, by omega⟩
  have herror := h.error
  rw [show (field : ℤ) - 1076 = -k - 1 by omega, hk, zpow_sub_one₀ two_ne_zero, zpow_neg,
    zpow_natCast, ← div_eq_mul_inv] at herror
  have hpos : (0 : ℚ) < 2 ^ k := by positivity
  have hscaled : |(r : ℚ) - n * 2 ^ k| < 1 := by
    calc |(r : ℚ) - n * 2 ^ k| = |(r : ℚ) / 2 ^ k - n| * 2 ^ k := by
          rw [← abs_of_pos hpos, ← abs_mul, abs_of_pos hpos, sub_mul, div_mul_cancel₀ _ hpos.ne']
      _ ≤ (2 ^ k)⁻¹ * 2⁻¹ * 2 ^ k := by gcongr
      _ = 2⁻¹ := by field_simp
      _ < 1 := by norm_num
  have hwhole : (r : ℤ) - n * 2 ^ k = 0 := Int.abs_lt_one_iff.1 (by exact_mod_cast hscaled)
  have hr : (r : ℚ) = n * 2 ^ k := by exact_mod_cast sub_eq_zero.1 hwhole
  rw [hk, zpow_neg, zpow_natCast, hr, mul_inv_cancel_right₀ hpos.ne']

/-- Below `2 ^ 53` every whole number is a binary64 number. -/
theorem magnitude_ofInt_of_lt {n : ℕ} (hn : n < 2 ^ 53) : (ofInt n).magnitude = n := by
  rcases Nat.eq_zero_or_pos n with rfl | hpos
  · exact magnitude_ofInt_zero.trans Nat.cast_zero.symm
  have hcast : (n : ℚ) < 2 ^ (53 : ℤ) := by exact_mod_cast hn
  obtain ⟨field, r, hr⟩ := exists_roundsTo_ofInt hpos
    ((hcast.trans (by norm_num)).trans_le two_pow_le_overflow)
  rw [magnitude_of_position hr.position_eq hr.one_le hr.le_two_pow hr.two_pow_le]
  refine hr.units_eq ?_
  by_contra hlarge
  have hbinade : (2 : ℚ) ^ (53 : ℤ) ≤ 2 ^ ((field : ℤ) - 1023) :=
    zpow_le_zpow_right₀ (by norm_num) (by omega)
  exact absurd (hbinade.trans (hr.floor_le (by omega))) (not_le.2 hcast)

/-- From `2 ^ 53` on no whole number is rounded to less than that. -/
theorem le_magnitude_ofInt {n : ℕ} (hlow : 2 ^ 53 ≤ n) (hhigh : (n : ℚ) < overflow) :
    2 ^ 53 ≤ (ofInt n).magnitude := by
  have hcast : (2 : ℚ) ^ (53 : ℤ) ≤ n := by exact_mod_cast hlow
  obtain ⟨field, r, hr⟩ := exists_roundsTo_ofInt (by omega) hhigh
  have hfield : 1076 ≤ field := by
    by_contra hsmall
    have hbinade : (2 : ℚ) ^ ((field : ℤ) - 1022) ≤ 2 ^ (53 : ℤ) :=
      zpow_le_zpow_right₀ (by norm_num) (by omega)
    exact absurd (hbinade.trans hcast) (not_le.2 hr.lt_ceil)
  have hunits : (2 : ℚ) ^ 52 ≤ r := by exact_mod_cast hr.two_pow_le (by omega)
  have hunit : (2 : ℚ) ^ (1 : ℤ) ≤ 2 ^ ((field : ℤ) - 1075) :=
    zpow_le_zpow_right₀ (by norm_num) (by omega)
  rw [magnitude_of_position hr.position_eq hr.one_le hr.le_two_pow hr.two_pow_le]
  calc (2 : ℚ) ^ 53 = 2 ^ 52 * 2 ^ (1 : ℤ) := by norm_num
    _ ≤ (r : ℚ) * 2 ^ ((field : ℤ) - 1075) := by gcongr

/-! ## Integers -/

section Integers

variable {i j : ℤ}

lemma natAbs_lt_overflow (h : Number.Exact i) : (i.natAbs : ℚ) < overflow := by
  obtain ⟨hlow, hhigh⟩ := h
  have hlt : i.natAbs < 2 ^ 64 := by omega
  exact lt_of_lt_of_le (by exact_mod_cast hlt) two_pow_le_overflow

lemma magnitude_ofInt_natAbs (i : ℤ) : (ofInt i).magnitude = (ofInt i.natAbs).magnitude :=
  magnitude_eq_of_position rfl

lemma toRat_ofInt (h : i.natAbs < 2 ^ 53) : (ofInt i).toRat = i := by
  have hmagnitude : (ofInt i).magnitude = (|i| : ℤ) := by
    rw [magnitude_ofInt_natAbs, magnitude_ofInt_of_lt h, Nat.cast_natAbs]
  rw [toRat, hmagnitude, ofInt]
  dsimp only
  split_ifs with hneg
  · rw [abs_of_neg (decide_eq_true_iff.1 hneg), Int.cast_neg, neg_neg]
  · rw [abs_of_nonneg (by simpa using hneg)]

/-- An integer that is rounded to a magnitude below `2 ^ 53` is not changed by that. -/
lemma toRat_ofInt_of_magnitude (hi : Number.Exact i) (h : (ofInt i).magnitude < 2 ^ 53) :
    (ofInt i).toRat = i := by
  refine toRat_ofInt ?_
  by_contra hlarge
  rw [magnitude_ofInt_natAbs] at h
  exact absurd (le_magnitude_ofInt (not_lt.1 hlarge) (natAbs_lt_overflow hi)) (not_le.2 h)

lemma magnitude_ofInt_pos (hi : Number.Exact i) (h : i ≠ 0) : 0 < (ofInt i).magnitude := by
  rcases lt_or_ge (ofInt i).magnitude (2 ^ 53) with hsmall | hlarge
  · rw [← abs_toRat, toRat_ofInt_of_magnitude hi hsmall, abs_pos]
    exact_mod_cast h
  · exact lt_of_lt_of_le (by norm_num) hlarge

/-- Rounding keeps integers of opposite signs apart. -/
lemma valueEq_ofInt_eq_false (hi : i < 0) (hj : 0 < j) (hexact : Number.Exact j) :
    (ofInt i).valueEq (ofInt j) = false := by
  rw [← Bool.not_eq_true]
  intro h
  have hvalue := toRat_eq_of_valueEq h
  have hneg : (ofInt i).toRat = -(ofInt i).magnitude := if_pos (decide_eq_true hi)
  have hpos : (ofInt j).toRat = (ofInt j).magnitude := if_neg (by simp [ofInt, hj.le])
  have := magnitude_nonneg (ofInt i)
  have := magnitude_ofInt_pos hexact hj.ne'
  linarith

end Integers

end Binary64

namespace Number

/-! ## The three rules -/

section Rules

variable {i j : ℤ} {hi : Exact i} {hj : Exact j}

lemma toInt_of_toInt64? {n : Int64} (h : (int i hi).toInt64? = some n) : n.toInt = i := by
  have hlow := hi.1
  simp only [toInt64?] at h
  split_ifs at h with hhigh
  obtain rfl := Option.some.inj h
  exact Int64.toInt_ofInt_of_le (by simpa using hlow) (by simpa using hhigh)

lemma toNat_of_toUInt64? {n : UInt64} (h : (int i hi).toUInt64? = some n) : (n.toNat : ℤ) = i := by
  have hhigh := hi.2
  simp only [toUInt64?] at h
  split_ifs at h with hlow
  obtain rfl := Option.some.inj h
  rw [UInt64.toNat_ofNat_of_lt' (by simp [UInt64.size]; omega), Int.toNat_of_nonneg hlow]

/-- Rules that agree on integers give their answer, whichever of them two integers are compared by.
As binary64 numbers only integers of opposite signs are compared. -/
lemma compareBy_int {signed : Int64 → Int64 → Bool} {unsigned : UInt64 → UInt64 → Bool}
    {binary64 : Binary64 → Binary64 → Bool} (answer : ℤ → ℤ → Bool)
    (hsigned : ∀ m n, signed m n = answer m.toInt n.toInt)
    (hunsigned : ∀ m n, unsigned m n = answer m.toNat n.toNat)
    (hbinary64 : i < 0 ∧ 0 < j ∨ j < 0 ∧ 0 < i →
      binary64 (.ofInt i) (.ofInt j) = answer i j) :
    compareBy signed unsigned binary64 (int i hi) (int j hj) = answer i j := by
  unfold compareBy
  split
  next m n hm hn => rw [hsigned, toInt_of_toInt64? hm, toInt_of_toInt64? hn]
  next hnotSigned =>
    split
    next m n hm hn => rw [hunsigned, toNat_of_toUInt64? hm, toNat_of_toUInt64? hn]
    next hnotUnsigned =>
      -- One is negative, and the other is too large for a signed integer.
      have hlarge : 0x8000000000000000 ≤ i ∨ 0x8000000000000000 ≤ j := by
        by_contra! hsmall
        exact hnotSigned _ _ (if_pos hsmall.1) (if_pos hsmall.2)
      have hnegative : i < 0 ∨ j < 0 := by
        by_contra! hpos
        exact hnotUnsigned _ _ (if_pos hpos.1) (if_pos hpos.2)
      exact hbinary64 (by omega)

/-- Two integers are equal exactly if they are the same. -/
theorem valueEq_int : (int i hi).valueEq (int j hj) = (i == j) := by
  unfold valueEq
  refine compareBy_int (· == ·) (fun m n => ?_) (fun m n => ?_) fun hsigns => ?_
  · rw [Bool.eq_iff_iff, beq_iff_eq, beq_iff_eq, Int64.toInt_inj]
  · rw [Bool.eq_iff_iff, beq_iff_eq, beq_iff_eq, Nat.cast_inj, UInt64.toNat_inj]
  · rw [beq_eq_false_iff_ne.2 (by omega : i ≠ j)]
    rcases hsigns with ⟨hneg, hpos⟩ | ⟨hneg, hpos⟩
    · exact Binary64.valueEq_ofInt_eq_false hneg hpos hj
    · rw [Binary64.valueEq_comm]
      exact Binary64.valueEq_ofInt_eq_false hneg hpos hi

section Floats

variable (signed : Int64 → Int64 → Bool) (unsigned : UInt64 → UInt64 → Bool)
  (binary64 : Binary64 → Binary64 → Bool)

lemma compareBy_float_left (x : Binary64) (b : Number) :
    compareBy signed unsigned binary64 (float x) b = binary64 x b.toBinary64 := by
  simp [compareBy, toInt64?, toUInt64?, toBinary64]

lemma compareBy_float_right (a : Number) (x : Binary64) :
    compareBy signed unsigned binary64 a (float x) = binary64 a.toBinary64 x := by
  simp [compareBy, toInt64?, toUInt64?, toBinary64]

end Floats

lemma valueEq_float_left (x : Binary64) (b : Number) :
    (float x).valueEq b = x.valueEq b.toBinary64 := compareBy_float_left ..

lemma valueEq_float_right (a : Number) (x : Binary64) :
    a.valueEq (float x) = a.toBinary64.valueEq x := compareBy_float_right ..

end Rules

/-! ## Reflexivity and symmetry -/

lemma valueEq_refl (a : Number) : a.valueEq a = true := by
  cases a with
  | int i hi => rw [valueEq_int, beq_self_eq_true]
  | float x => rw [valueEq_float_left, Binary64.valueEq_iff, toBinary64]

lemma valueEq_comm (a b : Number) : a.valueEq b = b.valueEq a := by
  cases a with
  | int i hi =>
    cases b with
    | int j hj => rw [valueEq_int, valueEq_int, BEq.comm]
    | float y => rw [valueEq_float_left, valueEq_float_right, Binary64.valueEq_comm]
  | float x => rw [valueEq_float_left, valueEq_float_right, Binary64.valueEq_comm]

/-! ## Transitivity -/

/-- Whether the first and the last number are different integers, and the one between them is a
binary64 number so large that integers may share it. -/
inductive Merges : Number → Number → Number → Prop
  | integers {i j : ℤ} {x : Binary64} (hi : Exact i) (hj : Exact j) (hne : i ≠ j)
      (hlarge : 2 ^ 53 ≤ x.magnitude) : Merges (.int i hi) (.float x) (.int j hj)

/-- Equal numbers are rounded to equal numbers. -/
lemma toBinary64_valueEq {a b : Number} (h : a.valueEq b = true) :
    a.toBinary64.valueEq b.toBinary64 = true := by
  cases a with
  | int i hi =>
    cases b with
    | int j hj =>
      obtain rfl : i = j := by simpa [valueEq_int] using h
      exact Binary64.valueEq_iff.2 rfl
    | float y => rwa [valueEq_float_right] at h
  | float x => rwa [valueEq_float_left] at h

/-- Integers that are equal to one binary64 number below `2 ^ 53` are the same. -/
lemma eq_of_valueEq_float {i j : ℤ} {hi : Exact i} {hj : Exact j} {x : Binary64}
    (hx : x.magnitude < 2 ^ 53) (hix : (int i hi).valueEq (.float x) = true)
    (hjx : (int j hj).valueEq (.float x) = true) : i = j := by
  have hvalue : ∀ {k : ℤ}, Exact k → (Binary64.ofInt k).valueEq x = true → x.toRat = k := by
    intro k hk hkx
    have heq := Binary64.toRat_eq_of_valueEq hkx
    rw [← heq]
    refine Binary64.toRat_ofInt_of_magnitude hk ?_
    rwa [← Binary64.abs_toRat, heq, Binary64.abs_toRat]
  rw [valueEq_float_right] at hix hjx
  exact_mod_cast (hvalue hi hix).symm.trans (hvalue hj hjx)

/-- Numbers that are equal to one number are equal, unless that number merges them. -/
theorem trans_iff_not_merges {a b c : Number} (hab : a.valueEq b = true)
    (hbc : b.valueEq c = true) : a.valueEq c = true ↔ ¬ Merges a b c := by
  have hrounded : a.toBinary64.valueEq c.toBinary64 = true := by
    have hab := Binary64.valueEq_iff.1 (toBinary64_valueEq hab)
    exact Binary64.valueEq_iff.2 (hab.trans (Binary64.valueEq_iff.1 (toBinary64_valueEq hbc)))
  cases a with
  | float x => exact iff_of_true (valueEq_float_left x c ▸ hrounded) nofun
  | int i hi =>
    cases c with
    | float y => exact iff_of_true (valueEq_float_right _ y ▸ hrounded) nofun
    | int k hk =>
      cases b with
      | int j hj =>
        rw [valueEq_int, beq_iff_eq] at hab hbc ⊢
        exact iff_of_true (hab.trans hbc) nofun
      | float x =>
        rw [valueEq_int, beq_iff_eq]
        constructor
        · rintro heq ⟨_, _, hne, _⟩
          exact hne heq
        · intro hapart
          by_contra hne
          refine hapart (.integers hi hk hne ?_)
          by_contra hsmall
          rw [valueEq_comm] at hbc
          exact hne (eq_of_valueEq_float (not_le.1 hsmall) hab hbc)

end Number

end JsonPath
