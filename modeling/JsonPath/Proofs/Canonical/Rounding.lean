import JsonPath.Number.Binary64
import Mathlib.Algebra.Order.Field.Power
import Mathlib.Data.Rat.Cast.Order
import Mathlib.Tactic.FieldSimp
import Mathlib.Tactic.Linarith
import Mathlib.Tactic.NormNum
import Mathlib.Tactic.Positivity
import Mathlib.Tactic.Ring
import Mathlib.Tactic.SplitIfs

/-!
# How far rounding goes

Bounds for the roundings of `Binary64`, over the rationals.  A quotient is rounded to whole units of
its binade, which a position counts (`Binary64.RoundsTo`, `Binary64.magnitude_of_position`); so it
is missed by half a unit at most.  What follows is about the end of the finite range: a quotient
below `Binary64.overflow` is rounded to a finite number (`Binary64.nearestPosition_lt`), and one
that is rounded to none of the last two leaves room (`Binary64.le_of_nearestPosition`).

Whatever is near the end of the range is counted in the unit `Binary64.halfUnit`, which is kept
irreducible because its power is too large to be evaluated.
-/

namespace JsonPath.Binary64

/-! ## Quotients and powers of two -/

/-- The quotient is rounded by at most a half. -/
lemma roundDiv_bounds {num den : ℕ} (hden : 0 < den) :
    (num / den : ℚ) - 1 / 2 ≤ roundDiv num den ∧ (roundDiv num den : ℚ) ≤ num / den + 1 / 2 := by
  have hpos : (0 : ℚ) < den := by exact_mod_cast hden
  have hnum : (num : ℚ) / den = (num / den : ℕ) + (num % den : ℕ) / den := by
    have hsplit : (num : ℚ) = den * (num / den : ℕ) + (num % den : ℕ) := by
      exact_mod_cast (Nat.div_add_mod num den).symm
    rw [div_eq_iff hpos.ne', add_mul, div_mul_cancel₀ _ hpos.ne', mul_comm]
    exact hsplit
  have hnonneg : (0 : ℚ) ≤ (num % den : ℕ) / den := by positivity
  have hlt : ((num % den : ℕ) : ℚ) / den < 1 := by
    rw [div_lt_one hpos]
    exact_mod_cast Nat.mod_lt num hden
  rw [hnum]
  unfold roundDiv
  dsimp only
  split_ifs with hdown
  · have hle : 2 * (num % den) ≤ den := by
      simp only [Bool.or_eq_true, decide_eq_true_eq, Bool.and_eq_true, beq_iff_eq] at hdown
      omega
    have hhalf : ((num % den : ℕ) : ℚ) / den ≤ 1 / 2 := by
      rw [div_le_iff₀ hpos]
      have : (2 : ℚ) * (num % den : ℕ) ≤ den := by exact_mod_cast hle
      linarith
    constructor <;> linarith
  · have hle : den ≤ 2 * (num % den) := by
      simp only [Bool.or_eq_true, decide_eq_true_eq, Bool.and_eq_true, beq_iff_eq, not_or] at hdown
      omega
    have hhalf : 1 / 2 ≤ ((num % den : ℕ) : ℚ) / den := by
      rw [le_div_iff₀ hpos]
      have : (den : ℚ) ≤ 2 * (num % den : ℕ) := by exact_mod_cast hle
      linarith
    push_cast
    constructor <;> linarith

/-- A power with an exponent of any sign, by natural exponents. -/
lemma zpow_eq_div (b : ℚ) (e : ℤ) : b ^ e = b ^ e.toNat / b ^ (-e).toNat := by
  rcases le_total 0 e with he | he
  · rw [show (-e).toNat = 0 by omega, pow_zero, div_one, ← zpow_natCast, Int.toNat_of_nonneg he]
  · rw [show e.toNat = 0 by omega, pow_zero, one_div, ← zpow_natCast,
      Int.toNat_of_nonneg (by omega), zpow_neg, inv_inv]

lemma shiftLeft_le_iff {num den : ℕ} (hden : 0 < den) (e : ℤ) :
    den <<< e.toNat ≤ num <<< (-e).toNat ↔ (2 : ℚ) ^ e ≤ num / den := by
  have hpos : (0 : ℚ) < den := by exact_mod_cast hden
  rw [zpow_eq_div, div_le_div_iff₀ (by positivity) hpos, Nat.shiftLeft_eq,
    Nat.shiftLeft_eq, mul_comm den]
  norm_cast

/-- The logarithm is the exponent of the binade of the quotient. -/
lemma floorLog2_spec {num den : ℕ} (hnum : 0 < num) (hden : 0 < den) :
    (2 : ℚ) ^ floorLog2 num den ≤ num / den ∧ (num / den : ℚ) < 2 ^ (floorLog2 num den + 1) := by
  have hpos : (0 : ℚ) < den := by exact_mod_cast hden
  have hnumLow : (2 : ℚ) ^ (num.log2 : ℤ) ≤ num := by
    rw [zpow_natCast]
    exact_mod_cast Nat.log2_self_le hnum.ne'
  have hnumHigh : (num : ℚ) < 2 ^ ((num.log2 : ℤ) + 1) := by
    rw [← Nat.cast_succ, zpow_natCast]
    exact_mod_cast Nat.lt_log2_self
  have hdenLow : (2 : ℚ) ^ (den.log2 : ℤ) ≤ den := by
    rw [zpow_natCast]
    exact_mod_cast Nat.log2_self_le hden.ne'
  have hdenHigh : (den : ℚ) < 2 ^ ((den.log2 : ℤ) + 1) := by
    rw [← Nat.cast_succ, zpow_natCast]
    exact_mod_cast Nat.lt_log2_self
  unfold floorLog2
  dsimp only
  split_ifs with hestimate
  · refine ⟨(shiftLeft_le_iff hden _).1 hestimate, ?_⟩
    rw [div_lt_iff₀ hpos]
    calc (num : ℚ) < 2 ^ ((num.log2 : ℤ) + 1) := hnumHigh
      _ = 2 ^ ((num.log2 : ℤ) - den.log2 + 1) * 2 ^ (den.log2 : ℤ) := by
        rw [← zpow_add₀ (by norm_num)]
        congr 1
        ring
      _ ≤ 2 ^ ((num.log2 : ℤ) - den.log2 + 1) * den := by gcongr
  · rw [shiftLeft_le_iff hden, not_le] at hestimate
    refine ⟨?_, by simpa using hestimate⟩
    rw [le_div_iff₀ hpos]
    calc (2 : ℚ) ^ ((num.log2 : ℤ) - den.log2 - 1) * den
        ≤ 2 ^ ((num.log2 : ℤ) - den.log2 - 1) * 2 ^ ((den.log2 : ℤ) + 1) := by gcongr
      _ = 2 ^ (num.log2 : ℤ) := by
        rw [← zpow_add₀ (by norm_num)]
        congr 1
        ring
      _ ≤ num := hnumLow

/-! ## Positions and magnitudes -/

/-- A quotient `q` rounds to a position: to `r` units of the binade that `field` names.  Below the
second binade the leading bit may be missing. -/
structure RoundsTo (q : ℚ) (position field r : ℕ) : Prop where
  position_eq : position = (field - 1) * 2 ^ 52 + r
  one_le : 1 ≤ field
  le_two_pow : r ≤ 2 ^ 53
  two_pow_le : field ≠ 1 → 2 ^ 52 ≤ r
  floor_le : field ≠ 1 → (2 : ℚ) ^ ((field : ℤ) - 1023) ≤ q
  lt_ceil : q < 2 ^ ((field : ℤ) - 1022)
  error : |(r : ℚ) * 2 ^ ((field : ℤ) - 1075) - q| ≤ 2 ^ ((field : ℤ) - 1076)

lemma exists_roundsTo {num den : ℕ} (hnum : 0 < num) (hden : 0 < den) :
    ∃ field r, RoundsTo (num / den) (nearestPosition num den) field r := by
  obtain ⟨hfloor, hceil⟩ := floorLog2_spec hnum hden
  have hpos : (0 : ℚ) < den := by exact_mod_cast hden
  unfold nearestPosition
  rw [if_neg hnum.ne']
  dsimp only
  generalize hfield : (max 1 (floorLog2 num den + 1023)).toNat = field
  have hone : 1 ≤ field := by omega
  have hlog : floorLog2 num den + 1 ≤ (field : ℤ) - 1022 := by omega
  have hlog' : field ≠ 1 → (field : ℤ) - 1023 = floorLog2 num den := by omega
  have hunit : (0 : ℚ) < 2 ^ ((field : ℤ) - 1075) := by positivity
  -- The quotient that is rounded is `num / den` in units of the binade.
  have hquotient : ((num <<< (1075 - field) : ℕ) : ℚ) / (den <<< (field - 1075) : ℕ) =
      num / den / 2 ^ ((field : ℤ) - 1075) := by
    rw [zpow_eq_div, Nat.shiftLeft_eq, Nat.shiftLeft_eq,
      show ((field : ℤ) - 1075).toNat = field - 1075 by omega,
      show (-((field : ℤ) - 1075)).toNat = 1075 - field by omega]
    push_cast
    field_simp
  have hshifted : 0 < den <<< (field - 1075) := by
    rw [Nat.shiftLeft_eq]
    positivity
  obtain ⟨hlow, hhigh⟩ := @roundDiv_bounds (num <<< (1075 - field)) _ hshifted
  rw [hquotient] at hlow hhigh
  generalize roundDiv (num <<< (1075 - field)) (den <<< (field - 1075)) = r at hlow hhigh ⊢
  have hlt : (num / den : ℚ) / 2 ^ ((field : ℤ) - 1075) < 2 ^ 53 := by
    rw [div_lt_iff₀ hunit, ← zpow_natCast, ← zpow_add₀ (by norm_num)]
    calc (num / den : ℚ) < 2 ^ (floorLog2 num den + 1) := hceil
      _ ≤ 2 ^ (((53 : ℕ) : ℤ) + ((field : ℤ) - 1075)) := by
        apply zpow_le_zpow_right₀ (by norm_num)
        omega
  refine ⟨field, r, rfl, hone, ?_, fun hne => ?_, fun hne => ?_, ?_, ?_⟩
  · have hbound : (r : ℚ) < 2 ^ 53 + 1 := by linarith
    have hbound : r < 2 ^ 53 + 1 := by exact_mod_cast hbound
    omega
  · have hge : (2 : ℚ) ^ 52 ≤ num / den / 2 ^ ((field : ℤ) - 1075) := by
      rw [le_div_iff₀ hunit, ← zpow_natCast, ← zpow_add₀ (by norm_num)]
      calc (2 : ℚ) ^ (((52 : ℕ) : ℤ) + ((field : ℤ) - 1075)) = 2 ^ floorLog2 num den := by
            rw [← hlog' hne]
            congr 1
            push_cast
            ring
        _ ≤ num / den := hfloor
    have hbound : (2 : ℚ) ^ 52 < r + 1 := by linarith
    have hbound : 2 ^ 52 < r + 1 := by exact_mod_cast hbound
    omega
  · rw [hlog' hne]
    exact hfloor
  · exact hceil.trans_le (zpow_le_zpow_right₀ (by norm_num) hlog)
  · have herror : |(r : ℚ) - num / den / 2 ^ ((field : ℤ) - 1075)| ≤ 1 / 2 := by
      rw [abs_le]
      constructor <;> linarith
    calc |(r : ℚ) * 2 ^ ((field : ℤ) - 1075) - num / den|
        = |(r : ℚ) - num / den / 2 ^ ((field : ℤ) - 1075)| * 2 ^ ((field : ℤ) - 1075) := by
          rw [← abs_of_pos hunit, ← abs_mul, sub_mul, abs_of_pos hunit,
            div_mul_cancel₀ _ hunit.ne']
      _ ≤ 1 / 2 * 2 ^ ((field : ℤ) - 1075) := by gcongr
      _ = 2 ^ ((field : ℤ) - 1076) := by
          rw [show (field : ℤ) - 1075 = (field : ℤ) - 1076 + 1 by ring, zpow_add_one₀ (by norm_num)]
          ring

/-- The magnitude of a number, exactly. -/
def magnitude (x : Binary64) : ℚ := x.numerator / x.denominator

lemma magnitude_nonneg (x : Binary64) : 0 ≤ x.magnitude := by
  unfold magnitude
  positivity

lemma denominator_pos (x : Binary64) : 0 < x.denominator := by
  unfold denominator
  rw [Nat.shiftLeft_eq]
  positivity

lemma magnitude_eq (x : Binary64) : x.magnitude = x.significand * 2 ^ x.scale := by
  unfold magnitude numerator denominator
  rw [zpow_eq_div, Nat.shiftLeft_eq, Nat.shiftLeft_eq]
  push_cast
  ring

/-- The magnitude at a position that is written as units of a binade. -/
theorem magnitude_of_position {x : Binary64} {field r : ℕ}
    (hposition : x.position = (field - 1) * 2 ^ 52 + r) (hone : 1 ≤ field) (hr : r ≤ 2 ^ 53)
    (hlow : field ≠ 1 → 2 ^ 52 ≤ r) : x.magnitude = r * 2 ^ ((field : ℤ) - 1075) := by
  rw [magnitude_eq]
  unfold significand scale exponentField
  dsimp only
  rcases Nat.lt_or_ge r (2 ^ 52) with hsmall | hlarge
  · -- A number without its leading bit.
    obtain rfl : field = 1 := by
      by_contra hne
      exact absurd (hlow hne) (Nat.not_le.2 hsmall)
    have hfield : x.position / 0x10000000000000 = 0 := by omega
    have hbits : x.position % 0x10000000000000 = r := by omega
    rw [hfield, hbits, if_pos rfl, if_pos rfl]
    norm_num
  · rcases Nat.lt_or_ge r (2 ^ 53) with hnormal | hcarry
    · have hfield : x.position / 0x10000000000000 = field := by omega
      have hbits : 0x10000000000000 + x.position % 0x10000000000000 = r := by omega
      rw [hfield, if_neg (by omega), if_neg (by omega), hbits]
    · -- Rounding up has reached the next binade.
      obtain rfl : r = 2 ^ 53 := by omega
      have hfield : x.position / 0x10000000000000 = field + 1 := by omega
      have hbits : 0x10000000000000 + x.position % 0x10000000000000 = 2 ^ 52 := by omega
      rw [hfield, if_neg (by omega), if_neg (by omega), hbits,
        show ((field + 1 : ℕ) : ℤ) - 1075 = (field : ℤ) - 1075 + 1 by push_cast; ring,
        zpow_add_one₀ (by norm_num)]
      push_cast
      ring

/-! ## The finite range -/

/-- Half a unit of the last binade. -/
@[irreducible]
def halfUnit : ℚ := 2 ^ (970 : ℤ)

lemma halfUnit_pos : 0 < halfUnit := by
  unfold halfUnit
  positivity

lemma zpow_eq_halfUnit (k : ℕ) {e : ℤ} (he : e = 970 + k) :
    (2 : ℚ) ^ e = 2 ^ k * halfUnit := by
  rw [he, zpow_add₀ (by norm_num), zpow_natCast, mul_comm, halfUnit]

/-- The least magnitude that is rounded to no finite number. -/
def overflow : ℚ := (2 ^ 54 - 1) * halfUnit

lemma overflow_pos : 0 < overflow := mul_pos (by norm_num) halfUnit_pos

/-- Units of a binade are bounded by those of the last one. -/
lemma units_le {field r n : ℕ} (hfield : field ≤ 2046) (hr : r ≤ 2 ^ 53) (hn : 2 ^ 52 ≤ n)
    (hlast : field = 2046 → r ≤ n) :
    (r : ℚ) * 2 ^ ((field : ℤ) - 1075) ≤ n * (2 * halfUnit) := by
  have hpos := halfUnit_pos
  rcases Nat.lt_or_ge field 2046 with hlt | hge
  · have hunit : (2 : ℚ) ^ ((field : ℤ) - 1075) ≤ halfUnit := by
      unfold halfUnit
      exact zpow_le_zpow_right₀ (by norm_num) (by omega)
    have hle : (r : ℚ) ≤ 2 * n := by exact_mod_cast (by omega : r ≤ 2 * n)
    calc (r : ℚ) * 2 ^ ((field : ℤ) - 1075) ≤ 2 * n * halfUnit := by gcongr
      _ = n * (2 * halfUnit) := by ring
  · obtain rfl : field = 2046 := by omega
    have hle : (r : ℚ) ≤ n := by exact_mod_cast hlast rfl
    rw [zpow_eq_halfUnit 1 (by norm_num), pow_one]
    gcongr

/-- What is below the overflow is rounded to a finite number. -/
theorem nearestPosition_lt {num den : ℕ} (hden : 0 < den) (h : (num / den : ℚ) < overflow) :
    nearestPosition num den < positions := by
  rcases Nat.eq_zero_or_pos num with rfl | hnum
  · rw [nearestPosition, if_pos rfl]
    decide
  have hpos := halfUnit_pos
  unfold overflow at h
  obtain ⟨field, r, hr⟩ := exists_roundsTo hnum hden
  have hposition := hr.position_eq
  have hlarge := hr.le_two_pow
  have hfield : field ≤ 2046 := by
    by_contra hlt
    have hbinade : (2 : ℚ) ^ (1024 : ℤ) ≤ 2 ^ ((field : ℤ) - 1023) :=
      zpow_le_zpow_right₀ (by norm_num) (by omega)
    have hfloor := hr.floor_le (by omega)
    rw [zpow_eq_halfUnit 54 (by norm_num)] at hbinade
    linarith
  rcases Nat.lt_or_ge field 2046 with hlt | hge
  · rw [positions]
    omega
  · obtain rfl : field = 2046 := by omega
    have herror := (abs_le.1 hr.error).2
    rw [zpow_eq_halfUnit 1 (by norm_num), zpow_eq_halfUnit 0 (by norm_num)] at herror
    have hunits : (r : ℚ) * (2 * halfUnit) < 2 ^ 53 * (2 * halfUnit) := by linarith
    have hlt : (r : ℚ) < 2 ^ 53 := lt_of_mul_lt_mul_right hunits (by positivity)
    have hlt : r < 2 ^ 53 := by exact_mod_cast hlt
    rw [positions]
    omega

/-- What is rounded to a number, but not to one of the last two, leaves room below the overflow. -/
theorem le_of_nearestPosition {num den : ℕ} (hnum : 0 < num) (hden : 0 < den)
    (h : nearestPosition num den ≤ positions - 3) : (num / den : ℚ) ≤ (2 ^ 54 - 5) * halfUnit := by
  obtain ⟨field, r, hr⟩ := exists_roundsTo hnum hden
  have hposition := hr.position_eq
  have hlow := hr.two_pow_le
  rw [positions] at h
  have hfield : field ≤ 2046 := by omega
  have hunits : (r : ℚ) * 2 ^ ((field : ℤ) - 1075) ≤ ((2 ^ 53 - 3 : ℕ) : ℚ) * (2 * halfUnit) :=
    units_le hfield hr.le_two_pow (by norm_num) (by omega)
  have herror := (abs_le.1 hr.error).1
  have hhalf : (2 : ℚ) ^ ((field : ℤ) - 1076) ≤ halfUnit := by
    unfold halfUnit
    exact zpow_le_zpow_right₀ (by norm_num) (by omega)
  have hcast : ((2 ^ 53 - 3 : ℕ) : ℚ) = 2 ^ 53 - 3 := by norm_num
  rw [hcast] at hunits
  linarith

/-- A position counts units of a binade. -/
lemma exists_units (x : Binary64) : ∃ field r, x.position = (field - 1) * 2 ^ 52 + r ∧
    1 ≤ field ∧ r < 2 ^ 53 ∧ (field ≠ 1 → 2 ^ 52 ≤ r) := by
  refine ⟨max 1 (x.position / 2 ^ 52), x.position - (max 1 (x.position / 2 ^ 52) - 1) * 2 ^ 52, ?_⟩
  omega

lemma magnitude_le {x : Binary64} {n : ℕ} (hn : 2 ^ 52 ≤ n)
    (h : x.position ≤ 2045 * 2 ^ 52 + n) : x.magnitude ≤ n * (2 * halfUnit) := by
  obtain ⟨field, r, hposition, hone, hr, hlow⟩ := x.exists_units
  rw [magnitude_of_position hposition hone hr.le hlow]
  have hlt := x.position_lt
  rw [positions] at hlt
  exact units_le (by omega) hr.le hn (by omega)

lemma magnitude_lt_overflow (x : Binary64) : x.magnitude < overflow := by
  have hlt := x.position_lt
  rw [positions] at hlt
  have hle : x.magnitude ≤ ((2 ^ 53 - 1 : ℕ) : ℚ) * (2 * halfUnit) :=
    magnitude_le (by norm_num) (by omega)
  have hcast : ((2 ^ 53 - 1 : ℕ) : ℚ) = 2 ^ 53 - 1 := by norm_num
  have hpos := halfUnit_pos
  rw [hcast] at hle
  unfold overflow
  linarith

/-- A whole number in the finite range rounds to the position of the number nearest to it. -/
lemma exists_roundsTo_ofInt {n : ℕ} (hn : 0 < n) (h : (n : ℚ) < overflow) :
    ∃ field r, RoundsTo n (ofInt n).position field r := by
  obtain ⟨field, r, hr⟩ := exists_roundsTo hn Nat.one_pos
  have hfinite : nearestPosition n 1 < positions :=
    nearestPosition_lt Nat.one_pos (by simpa using h)
  have hposition : (ofInt n).position = nearestPosition n 1 := by
    show min (nearestPosition (n : ℤ).natAbs 1) (positions - 1) = _
    rw [Int.natAbs_natCast]
    omega
  rw [Nat.cast_one, div_one] at hr
  exact ⟨field, r, hposition ▸ hr⟩

/-- The number nearest to a whole number misses it by half a unit of its last place at most. -/
lemma magnitude_ofInt_bounds {n : ℕ} (hn : 0 < n) (h : (n : ℚ) < overflow) :
    |(ofInt n).magnitude - n| ≤ n / 2 ^ 53 := by
  obtain ⟨field, r, hr⟩ := exists_roundsTo_ofInt hn h
  have hmagnitude :=
    magnitude_of_position hr.position_eq hr.one_le hr.le_two_pow hr.two_pow_le
  have herror := hr.error
  have hceil := hr.lt_ceil
  have hone : (1 : ℚ) ≤ n := by exact_mod_cast hn
  have hne : field ≠ 1 := by
    rintro rfl
    have hsmall : (2 : ℚ) ^ (((1 : ℕ) : ℤ) - 1022) ≤ 2 ^ (0 : ℤ) :=
      zpow_le_zpow_right₀ (by norm_num) (by norm_num)
    rw [zpow_zero] at hsmall
    linarith
  have hfloor := hr.floor_le hne
  rw [hmagnitude, le_div_iff₀ (by positivity)]
  calc |(r : ℚ) * 2 ^ ((field : ℤ) - 1075) - n| * 2 ^ 53
      ≤ 2 ^ ((field : ℤ) - 1076) * 2 ^ 53 := by gcongr
    _ = 2 ^ ((field : ℤ) - 1023) := by
        rw [← zpow_natCast, ← zpow_add₀ (by norm_num)]
        congr 1
        push_cast
        ring
    _ ≤ n := hfloor

lemma magnitude_ofInt_zero : (ofInt 0).magnitude = 0 := by
  have hposition : (ofInt 0).position = (1 - 1) * 2 ^ 52 + 0 := by decide +kernel
  rw [magnitude_of_position hposition le_rfl (by norm_num) (by simp)]
  simp

/-! ## Products and quotients -/

lemma isSome_ofRatio? (negative : Bool) {num den : ℕ} (hden : 0 < den)
    (h : (num / den : ℚ) < overflow) : (ofRatio? negative num den).isSome := by
  unfold ofRatio?
  dsimp only
  rw [dif_pos (nearestPosition_lt hden h)]
  rfl

lemma isSome_mul? {x y : Binary64} (h : x.magnitude * y.magnitude < overflow) :
    (x.mul? y).isSome := by
  refine isSome_ofRatio? _ (Nat.mul_pos x.denominator_pos y.denominator_pos) ?_
  push_cast
  rwa [mul_div_mul_comm]

/-- No quotient by a number that is at least one is beyond the finite numbers. -/
lemma isSome_div? (x : Binary64) {y : Binary64} (h : 1 ≤ y.magnitude) : (x.div? y).isSome := by
  have hy : 0 < y.numerator := by
    rcases Nat.eq_zero_or_pos y.numerator with hzero | hpos
    · rw [magnitude, hzero] at h
      norm_num at h
    · exact hpos
  unfold div?
  rw [if_neg hy.ne']
  refine isSome_ofRatio? _ (Nat.mul_pos x.denominator_pos hy) ?_
  have hquotient : ((x.numerator * y.denominator : ℕ) : ℚ) / (x.denominator * y.numerator : ℕ) =
      x.magnitude / y.magnitude := by
    unfold magnitude
    push_cast
    rw [div_div_div_eq]
  rw [hquotient]
  exact (div_le_self x.magnitude_nonneg h).trans_lt x.magnitude_lt_overflow

end JsonPath.Binary64
