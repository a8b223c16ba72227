import JsonPath.Proofs.Canonical.Numeral
import JsonPath.Proofs.Canonical.Rounding

/-!
# Every written number is read

The written form of a number stands for a number (`Number.isSome_ofText?_text`), though not always
for the same one.  Reading can only fail where its roundings leave the finite range.  It rounds the
significand, the power of ten and their product, so a numeral whose value is low enough cannot get
there (`Numeral.isSome_scale?`), and the written form of a binary64 number is within half a unit of
it.  Only for the two greatest magnitudes does that leave no room; their texts are read one by one.
-/

namespace JsonPath

/-! ## Scaling by a power of ten -/

namespace Numeral

open Binary64

/-- A decimal value that stays finite through three roundings. -/
def safeBound : ℚ := (2 ^ 54 - 5) * halfUnit

lemma safeBound_lt_overflow : safeBound < overflow :=
  mul_lt_mul_of_pos_right (by norm_num) halfUnit_pos

lemma halfUnit_eq_cast : halfUnit = ((2 ^ 970 : ℕ) : ℚ) := by
  unfold halfUnit
  rw [Nat.cast_pow, ← zpow_natCast]
  rfl

lemma safeBound_lt : safeBound < 10 ^ 309 := by
  have hnat : 2 ^ 54 * 2 ^ 970 < 10 ^ 309 := by decide +kernel
  calc safeBound < 2 ^ 54 * halfUnit := mul_lt_mul_of_pos_right (by norm_num) halfUnit_pos
    _ = ((2 ^ 54 * 2 ^ 970 : ℕ) : ℚ) := by rw [halfUnit_eq_cast, Nat.cast_mul, Nat.cast_pow]; rfl
    _ < ((10 ^ 309 : ℕ) : ℚ) := Nat.cast_lt.2 hnat
    _ = 10 ^ 309 := Nat.cast_pow 10 309

lemma pow_lt_overflow {k : ℕ} (hk : k ≤ 308) : (10 : ℚ) ^ k < overflow := by
  have hnat : 10 ^ 308 < (2 ^ 54 - 1) * 2 ^ 970 := by decide +kernel
  have hcast : ((2 ^ 54 - 1 : ℕ) : ℚ) = 2 ^ 54 - 1 := by norm_num
  calc (10 : ℚ) ^ k ≤ 10 ^ 308 := pow_le_pow_right₀ (by norm_num) hk
    _ = ((10 ^ 308 : ℕ) : ℚ) := (Nat.cast_pow 10 308).symm
    _ < (((2 ^ 54 - 1) * 2 ^ 970 : ℕ) : ℚ) := Nat.cast_lt.2 hnat
    _ = overflow := by rw [Nat.cast_mul, hcast, ← halfUnit_eq_cast, overflow]

/-- A whole number is rounded up by a small part of it at most. -/
lemma magnitude_ofInt_le {n : ℕ} (h : (n : ℚ) < overflow) :
    (ofInt n).magnitude ≤ n * (1 + 1 / 2 ^ 53) := by
  rcases Nat.eq_zero_or_pos n with rfl | hn
  · rw [Nat.cast_zero, magnitude_ofInt_zero]
    simp
  · have hbounds := (abs_le.1 (magnitude_ofInt_bounds hn h)).2
    linarith

lemma one_le_powerOfTen {k : ℕ} (hk : 1 ≤ k) (hk' : k ≤ 308) : 1 ≤ (powerOfTen k).magnitude := by
  have hcast : ((10 ^ k : ℕ) : ℚ) = 10 ^ k := by push_cast; rfl
  have hbounds := (abs_le.1 (magnitude_ofInt_bounds (n := 10 ^ k) (by positivity)
    (by rw [hcast]; exact pow_lt_overflow hk'))).1
  have hten : (10 : ℚ) ^ 1 ≤ 10 ^ k := pow_le_pow_right₀ (by norm_num) hk
  rw [hcast] at hbounds
  show 1 ≤ (ofInt ((10 ^ k : ℕ) : ℤ)).magnitude
  linarith

/-- A negative power of ten leads nowhere beyond the finite numbers. -/
lemma isSome_scale?_of_neg (x : Binary64) (power : ℤ) (hpower : power < 0) :
    (scale? x power).isSome := by
  induction x, power using scale?.induct with
  | case1 x power hsmall hnonneg => omega
  | case2 x power hsmall hneg =>
    rw [scale?, if_pos hsmall, if_neg hneg]
    exact isSome_div? x (one_le_powerOfTen (by omega) hsmall)
  | case3 x power hlarge hzero =>
    rw [scale?, if_neg hlarge, if_pos hzero]
    rfl
  | case4 x power hlarge hne hnonneg => omega
  | case5 x power hlarge hne hneg ih =>
    rw [scale?, if_neg hlarge, if_neg hne, if_neg hneg]
    obtain ⟨y, hy⟩ := Option.isSome_iff_exists.1
      (isSome_div? x (one_le_powerOfTen (k := 308) (by omega) (by omega)))
    rw [hy]
    exact ih y (by omega)

/-- A decimal value below the bound is rounded to a finite number. -/
theorem isSome_scale? (significand : ℕ) (power : ℤ)
    (h : 0 ≤ power → (significand : ℚ) * 10 ^ power ≤ safeBound) :
    (scale? (.ofInt significand) power).isSome := by
  rcases lt_or_ge power 0 with hneg | hnonneg
  · exact isSome_scale?_of_neg _ power hneg
  obtain ⟨k, rfl⟩ := Int.eq_ofNat_of_zero_le hnonneg
  have hvalue := h hnonneg
  rw [zpow_natCast] at hvalue
  have hsafe := safeBound_lt_overflow
  rcases Nat.eq_zero_or_pos significand with rfl | hpos
  · rw [scale?]
    split_ifs
    · refine isSome_mul? ?_
      rw [Nat.cast_zero, magnitude_ofInt_zero, zero_mul]
      exact overflow_pos
    · rfl
    · rename_i hne
      exact absurd (by decide +kernel) hne
  · have hone : (1 : ℚ) ≤ significand := by exact_mod_cast hpos
    have hpower : (10 : ℚ) ^ k ≤ significand * 10 ^ k := le_mul_of_one_le_left (by positivity) hone
    have hk : k ≤ 308 := by
      by_contra hlt
      have hmono : (10 : ℚ) ^ 309 ≤ 10 ^ k := pow_le_pow_right₀ (by norm_num) (by omega)
      exact absurd (hmono.trans (hpower.trans hvalue)) (not_le.2 safeBound_lt)
    have hsignificand : (significand : ℚ) ≤ significand * 10 ^ k :=
      le_mul_of_one_le_right (by positivity) (one_le_pow₀ (by norm_num))
    have hx := magnitude_ofInt_le (n := significand) (by linarith)
    have hcast : ((10 ^ k : ℕ) : ℚ) = 10 ^ k := by push_cast; rfl
    have hy := magnitude_ofInt_le (n := 10 ^ k) (by rw [hcast]; exact pow_lt_overflow hk)
    rw [hcast] at hy
    rw [scale?, if_pos (by simpa using hk), if_pos hnonneg]
    refine isSome_mul? ?_
    show (ofInt significand).magnitude * (ofInt ((10 ^ k : ℕ) : ℤ)).magnitude < overflow
    calc (ofInt significand).magnitude * (ofInt ((10 ^ k : ℕ) : ℤ)).magnitude
        ≤ significand * (1 + 1 / 2 ^ 53) * (10 ^ k * (1 + 1 / 2 ^ 53)) := by
          gcongr
          unfold magnitude
          positivity
      _ = significand * 10 ^ k * (1 + 1 / 2 ^ 53) ^ 2 := by ring
      _ ≤ safeBound * (1 + 1 / 2 ^ 53) ^ 2 := by gcongr
      _ = (2 ^ 54 - 5) * (1 + 1 / 2 ^ 53) ^ 2 * halfUnit := mul_right_comm _ _ _
      _ < overflow := mul_lt_mul_of_pos_right (by norm_num) halfUnit_pos

/-! ## The leading digits -/

/-- Digits that cannot exceed the bound are all gathered. -/
lemma gather_eq {cs : List Char} (hdigits : ∀ c ∈ cs, c.isDigit = true) {significand : ℕ}
    (h : (significand + 1) * 10 ^ cs.length ≤ significandLimit) :
    gather significand cs = (Nat.ofDigitChars 10 cs significand, []) := by
  induction cs generalizing significand with
  | nil => rfl
  | cons c cs ih =>
    have hc : 48 ≤ c.toNat ∧ c.toNat ≤ 57 := Char.isDigit_iff_toNat.1 (hdigits c (by simp))
    have hnext : Nat.ofDigitChars 10 [c] significand + 1 ≤ (significand + 1) * 10 := by
      rw [Nat.ofDigitChars_cons, Nat.ofDigitChars_nil]
      have hzero : '0'.toNat = 48 := rfl
      omega
    have hle : (Nat.ofDigitChars 10 [c] significand + 1) * 10 ^ cs.length ≤ significandLimit := by
      refine (Nat.mul_le_mul_right _ hnext).trans ?_
      rw [List.length_cons, Nat.pow_succ'] at h
      rwa [Nat.mul_assoc]
    have hlt : Nat.ofDigitChars 10 [c] significand < significandLimit :=
      (Nat.le_mul_of_pos_right _ (by positivity)).trans hle
    rw [gather, if_pos hlt, ih (fun d hd => hdigits d (by simp [hd])) hle]
    rfl

/-- Digits that are left over count as zeros, which makes the value no greater. -/
lemma gather_le (cs : List Char) (significand : ℕ) :
    (gather significand cs).1 * 10 ^ (gather significand cs).2.length ≤
        Nat.ofDigitChars 10 cs significand ∧
      (gather significand cs).2.length ≤ cs.length := by
  induction cs generalizing significand with
  | nil => simp [gather, Nat.ofDigitChars_nil]
  | cons c cs ih =>
    rw [gather]
    split_ifs with hlt
    · obtain ⟨hvalue, hlength⟩ := ih (Nat.ofDigitChars 10 [c] significand)
      exact ⟨hvalue, hlength.trans (Nat.le_succ _)⟩
    · refine ⟨?_, le_rfl⟩
      rw [Nat.ofDigitChars_eq_ofDigitChars_zero, Nat.mul_comm]
      exact Nat.le_add_right _ _

/-! ## Scanning the parts -/

lemma scanPower_written (leading : ℤ) :
    scanPower ((if leading < 0 then '-' else '+') :: Nat.toDigits 10 leading.natAbs) =
      some (leading, []) := by
  have hdigits : scanDigits (Nat.toDigits 10 leading.natAbs) =
      some (Nat.toDigits 10 leading.natAbs, []) := by
    simpa using @scanDigits_append _ [] (isDigits_toDigits leading.natAbs) (by simp)
  unfold scanPower
  split_ifs with hneg
  · simp only [hdigits, Option.map_some, Nat.ofDigitChars_ten_toDigits, if_true]
    rw [show -((leading.natAbs : ℕ) : ℤ) = leading by omega]
  · simp only [hdigits, Option.map_some, Nat.ofDigitChars_ten_toDigits]
    rw [show ((leading.natAbs : ℕ) : ℤ) = leading by omega]
    rfl

lemma scan_of_parts {s t u v rest whole fraction : List Char} {negative : Bool}
    {exponent : Option Int} (hsign : scanSign s = (negative, t))
    (hwhole : scanWhole t = some (whole, u)) (hfraction : scanFraction u = some (fraction, v))
    (hexponent : scanExponent v = some (exponent, rest)) :
    scan s = some (⟨negative, whole, fraction, exponent⟩, rest) := by
  simp [scan, hsign, hwhole, hfraction, hexponent]

/-- The sign of a number, which begins its text. -/
def signText (negative : Bool) : List Char := if negative then ['-'] else []

lemma scanSign_signText (negative : Bool) {c : Char} (hc : c.isDigit) (s : List Char) :
    scanSign (signText negative ++ c :: s) = (negative, c :: s) := by
  cases negative with
  | true => rfl
  | false =>
    show scanSign (c :: s) = (false, c :: s)
    unfold scanSign
    split
    · rename_i heq
      obtain ⟨rfl, -⟩ := List.cons.inj heq
      exact absurd hc (by decide)
    · rfl

/-- A numeral with a point and no exponent. -/
lemma scan_point (negative : Bool) {whole fraction : List Char} (hwhole : IsDigits whole)
    (hzero : whole.head? = some '0' → whole = ['0']) (hfraction : IsDigits fraction) :
    scan (signText negative ++ (whole ++ '.' :: fraction)) =
      some (⟨negative, whole, fraction, none⟩, []) := by
  obtain ⟨c, cs, rfl⟩ := List.exists_cons_of_ne_nil hwhole.1
  have hpoint : scanWhole (c :: cs ++ '.' :: fraction) = some (c :: cs, '.' :: fraction) :=
    scanWhole_append hwhole hzero (by simp)
  have hdigits : scanFraction ('.' :: fraction) = some (fraction, []) := by
    simpa [scanFraction] using @scanDigits_append _ [] hfraction (by simp)
  exact scan_of_parts (scanSign_signText negative (hwhole.2 c (by simp)) _) hpoint hdigits rfl

/-- A numeral with one digit before its exponent, and perhaps a fraction. -/
lemma scan_exponent (negative : Bool) {c : Char} {cs : List Char} (hc : c.isDigit)
    (hcs : ∀ d ∈ cs, d.isDigit = true) (leading : ℤ) :
    scan (signText negative ++ c :: ((if cs = [] then [] else '.' :: cs) ++
        'e' :: (if leading < 0 then '-' else '+') :: Nat.toDigits 10 leading.natAbs)) =
      some (⟨negative, [c], cs, some leading⟩, []) := by
  have hone : IsDigits [c] := ⟨by simp, by simpa using hc⟩
  have hexponent : scanExponent ('e' :: (if leading < 0 then '-' else '+') ::
      Nat.toDigits 10 leading.natAbs) = some (some leading, []) := by
    rw [scanExponent, scanPower_written]
    rfl
  have hsign := scanSign_signText negative hc ((if cs = [] then [] else '.' :: cs) ++
    'e' :: (if leading < 0 then '-' else '+') :: Nat.toDigits 10 leading.natAbs)
  have hwhole := @scanWhole_append [c] ((if cs = [] then [] else '.' :: cs) ++
    'e' :: (if leading < 0 then '-' else '+') :: Nat.toDigits 10 leading.natAbs) hone (by simp)
      (by split_ifs <;> simp)
  refine scan_of_parts hsign hwhole ?_ hexponent
  by_cases hempty : cs = []
  · rw [if_pos hempty, hempty]
    rfl
  · rw [if_neg hempty]
    exact scanDigits_append ⟨hempty, hcs⟩ (by simp)

/-! ## The values of numerals -/

lemma gather_lt {significand : ℕ} (h : significand < significandLimit) (cs : List Char) :
    (gather significand cs).1 < significandLimit := by
  induction cs generalizing significand with
  | nil => exact h
  | cons c cs ih =>
    rw [gather]
    split_ifs with hlt
    · exact ih hlt
    · exact h

lemma leadingDigits_lt (n : Numeral) : n.leadingDigits.1 < significandLimit :=
  gather_lt (gather_lt (by decide) n.whole) n.fraction

lemma le_safeBound {n : ℕ} (h : n < significandLimit) : (n : ℚ) ≤ safeBound := by
  have hnat : significandLimit ≤ (2 ^ 54 - 5) * 2 ^ 970 := by decide +kernel
  have hcast : ((2 ^ 54 - 5 : ℕ) : ℚ) = 2 ^ 54 - 5 := by norm_num
  calc (n : ℚ) ≤ (((2 ^ 54 - 5) * 2 ^ 970 : ℕ) : ℚ) := Nat.cast_le.2 (h.le.trans hnat)
    _ = safeBound := by rw [Nat.cast_mul, hcast, ← halfUnit_eq_cast, safeBound]

/-- A numeral that is no integer stands for a number if its leading digits do. -/
lemma isSome_value? {n : Numeral} (hexact : n.exactInt? = none)
    (h : 0 ≤ n.leadingDigits.2 →
      (n.leadingDigits.1 : ℚ) * 10 ^ n.leadingDigits.2 ≤ safeBound) : n.value?.isSome := by
  unfold value?
  rw [hexact]
  dsimp only
  rw [Option.isSome_map]
  exact isSome_scale? _ _ h

/-- A numeral without an exponent has few whole digits, and no others count. -/
lemma isSome_value?_point (negative : Bool) {whole fraction : List Char}
    (hwhole : ∀ c ∈ whole, c.isDigit = true) (hlength : whole.length ≤ 16)
    (hfraction : fraction ≠ []) : (Numeral.value? ⟨negative, whole, fraction, none⟩).isSome := by
  have hpow : (0 + 1) * 10 ^ whole.length ≤ significandLimit := by
    have hmono : 10 ^ whole.length ≤ 10 ^ 16 := Nat.pow_le_pow_right (by norm_num) hlength
    have hlimit : 10 ^ 16 ≤ significandLimit := by decide
    omega
  have hpower : (leadingDigits ⟨negative, whole, fraction, none⟩).2 ≤ 0 := by
    unfold leadingDigits
    simp [gather_eq hwhole hpow]
  refine isSome_value? (by simp [exactInt?, hfraction]) fun hnonneg => ?_
  rw [le_antisymm hpower hnonneg, zpow_zero, mul_one]
  exact le_safeBound (leadingDigits_lt _)

end Numeral

/-! ## Decimals -/

namespace Decimal

open Numeral

/-- The value of a decimal. -/
def value (d : Decimal) : ℚ := d.digits * 10 ^ d.exponent

lemma value_eq (d : Decimal) : (d.numerator : ℚ) / d.denominator = d.value := by
  unfold numerator denominator value
  rw [Binary64.zpow_eq_div]
  simp only [Nat.pow_eq, Nat.cast_mul, Nat.cast_pow, Nat.cast_ofNat]
  ring

lemma denominator_pos (d : Decimal) : 0 < d.denominator := by
  unfold denominator
  exact Nat.pow_pos (by norm_num)

/-- Zeros at the end of the digits are dropped without a change of value. -/
lemma dropZeros_spec (fuel : ℕ) (d : Decimal) :
    (d.dropZeros fuel).value = d.value ∧ (d.digits ≠ 0 → (d.dropZeros fuel).digits ≠ 0) := by
  induction fuel generalizing d with
  | zero => exact ⟨rfl, id⟩
  | succ fuel ih =>
    rw [dropZeros]
    split_ifs with hzero
    · obtain ⟨hvalue, hdigits⟩ := ih ⟨d.digits / 10, d.exponent + 1⟩
      refine ⟨hvalue.trans ?_, fun _ => hdigits ?_⟩
      · have hten : d.digits = d.digits / 10 * 10 := by omega
        unfold value
        dsimp only
        rw [zpow_add_one₀ (by norm_num)]
        nth_rewrite 2 [hten]
        push_cast
        ring
      · show d.digits / 10 ≠ 0
        omega
    · exact ⟨rfl, id⟩

end Decimal

namespace Numeral

/-- A numeral with one digit before its exponent is no greater than all its digits say. -/
lemma isSome_value?_exponent (negative : Bool) {c : Char} {cs : List Char} (hc : c.isDigit)
    (leading : ℤ) (h : (Nat.ofDigitChars 10 (c :: cs) 0 : ℚ) * 10 ^ (leading - cs.length) ≤
      safeBound) : (Numeral.value? ⟨negative, [c], cs, some leading⟩).isSome := by
  have hgather : gather 0 [c] = (Nat.ofDigitChars 10 [c] 0, []) :=
    gather_eq (by simpa using hc) (by decide : (0 + 1) * 10 ^ 1 ≤ significandLimit)
  obtain ⟨hvalue, hlength⟩ := gather_le cs (Nat.ofDigitChars 10 [c] 0)
  have hleading : leadingDigits ⟨negative, [c], cs, some leading⟩ =
      ((gather (Nat.ofDigitChars 10 [c] 0) cs).1,
        leading - cs.length + (gather (Nat.ofDigitChars 10 [c] 0) cs).2.length) := by
    unfold leadingDigits
    simp only [hgather, Prod.mk.injEq, true_and, Option.getD_some, List.length_nil]
    omega
  refine isSome_value? (by simp [exactInt?]) fun _ => ?_
  rw [hleading]
  dsimp only
  generalize gather (Nat.ofDigitChars 10 [c] 0) cs = found at hvalue
  have hcast : (found.1 : ℚ) * 10 ^ found.2.length ≤ Nat.ofDigitChars 10 (c :: cs) 0 := by
    exact_mod_cast hvalue
  calc (found.1 : ℚ) * 10 ^ (leading - cs.length + found.2.length)
      = found.1 * 10 ^ found.2.length * 10 ^ (leading - cs.length) := by
        rw [zpow_add₀ (by norm_num), zpow_natCast]
        ring
    _ ≤ Nat.ofDigitChars 10 (c :: cs) 0 * 10 ^ (leading - cs.length) := by gcongr
    _ ≤ safeBound := h

end Numeral

namespace Decimal

open Numeral

/-- A decimal that is low enough stands for a number, after either sign. -/
lemma isSome_value?_text (negative : Bool) {d : Decimal} (hdigits : d.digits ≠ 0)
    (hvalue : d.value ≤ safeBound) :
    ∃ n : Numeral, Numeral.scan (signText negative ++ d.text.toList) = some (n, []) ∧
      n.value?.isSome := by
  have hall := isDigits_toDigits d.digits
  have hzero := head_toDigits_ne_zero hdigits
  unfold text
  dsimp only
  split_ifs with hplain
  · simp only [isPlain, Bool.and_eq_true, decide_eq_true_eq] at hplain
    obtain ⟨whole, fraction, htext, hwhole, hfraction, hhead, hlength⟩ := exists_plainText hall rfl
    rw [htext]
    exact ⟨_, scan_point negative hwhole (hhead hzero) hfraction,
      isSome_value?_point negative hwhole.2 (hlength hplain.2) hfraction.1⟩
  · have hofDigits : Nat.ofDigitChars 10 (Nat.toDigits 10 d.digits) 0 = d.digits :=
      Nat.ofDigitChars_ten_toDigits
    generalize Nat.toDigits 10 d.digits = digits at hall hofDigits
    obtain ⟨c, cs, rfl⟩ := List.exists_cons_of_ne_nil hall.1
    have hc : c.isDigit := hall.2 c (by simp)
    have hcs : ∀ e ∈ cs, e.isDigit = true := fun e he => hall.2 e (by simp [he])
    rw [toList_scientificText]
    refine ⟨_, scan_exponent negative hc hcs _, isSome_value?_exponent negative hc _ ?_⟩
    rw [hofDigits]
    have hexponent : d.exponent + ((c :: cs).length - 1 : ℕ) - cs.length = d.exponent := by
      rw [List.length_cons]
      omega
    rw [hexponent]
    exact hvalue

end Decimal

/-! ## The shortest decimal -/

namespace Binary64

open Decimal Numeral

lemma isReadFrom_of_onGrid? {x : Binary64} {exponent : ℤ} {d : Decimal}
    (h : x.onGrid? exponent = some d) : x.IsReadFrom d := by
  unfold onGrid? at h
  dsimp only at h
  split_ifs at h <;> simp_all

lemma value_exactDecimal (x : Binary64) : x.exactDecimal.value = x.magnitude := by
  have hpow : (5 : ℚ) ^ (-x.scale).toNat * 10 ^ (-((-x.scale).toNat : ℤ)) =
      1 / 2 ^ (-x.scale).toNat := by
    rw [zpow_neg, zpow_natCast, show (10 : ℚ) = 5 * 2 by norm_num, mul_pow]
    field_simp
  unfold exactDecimal value magnitude numerator denominator
  dsimp only
  simp only [Nat.pow_eq, Nat.cast_mul, Nat.cast_pow, Nat.cast_ofNat]
  rw [mul_assoc, hpow, Nat.one_shiftLeft]
  push_cast
  ring

/-- What is read as a number other than zero, and not as one of the two greatest, is low enough. -/
lemma IsReadFrom.value_le {x : Binary64} {d : Decimal} (h : x.IsReadFrom d)
    (hzero : x.position ≠ 0) :
    d.digits ≠ 0 ∧ (x.position ≤ positions - 3 → d.value ≤ safeBound) := by
  have hnumerator : 0 < d.numerator := by
    rcases Nat.eq_zero_or_pos d.numerator with hnone | hpos
    · rw [IsReadFrom, hnone, nearestPosition, if_pos rfl] at h
      exact absurd h.symm hzero
    · exact hpos
  refine ⟨?_, fun hlow => ?_⟩
  · intro hdigits
    rw [Decimal.numerator, hdigits, Nat.zero_mul] at hnumerator
    exact absurd hnumerator (by decide)
  · rw [← value_eq]
    exact le_of_nearestPosition hnumerator d.denominator_pos (by rwa [h])

lemma exactDecimal_le {x : Binary64} (hzero : x.position ≠ 0) :
    x.exactDecimal.digits ≠ 0 ∧
      (x.position ≤ positions - 3 → x.exactDecimal.value ≤ safeBound) := by
  refine ⟨?_, fun hlow => ?_⟩
  · have hsignificand : x.significand ≠ 0 := by
      unfold significand exponentField
      dsimp only
      split_ifs <;> omega
    unfold exactDecimal
    dsimp only
    rw [Nat.shiftLeft_eq, Nat.pow_eq]
    positivity
  · rw [value_exactDecimal]
    rw [positions] at hlow
    have hle : x.magnitude ≤ ((2 ^ 53 - 3 : ℕ) : ℚ) * (2 * halfUnit) :=
      magnitude_le (by norm_num) (by omega)
    have hcast : ((2 ^ 53 - 3 : ℕ) : ℚ) = 2 ^ 53 - 3 := by norm_num
    have hpos := halfUnit_pos
    rw [hcast] at hle
    unfold safeBound
    linarith

/-- The decimal that is written for a number is low enough, except for the two greatest. -/
lemma shortest_le {x : Binary64} (hzero : x.position ≠ 0) :
    x.shortest.digits ≠ 0 ∧ (x.position ≤ positions - 3 → x.shortest.value ≤ safeBound) := by
  unfold shortest
  rw [if_neg hzero]
  dsimp only
  generalize hfound : (List.range 17).findSome?
    (fun n : ℕ => x.onGrid? (x.decimalPlaces - (n + 1))) = found
  have hdecimal : (found.getD x.exactDecimal).digits ≠ 0 ∧
      (x.position ≤ positions - 3 → (found.getD x.exactDecimal).value ≤ safeBound) := by
    cases found with
    | none => exact exactDecimal_le hzero
    | some d =>
      obtain ⟨n, -, hgrid⟩ := List.exists_of_findSome?_eq_some hfound
      exact (isReadFrom_of_onGrid? hgrid).value_le hzero
  obtain ⟨hvalue, hdigits⟩ := dropZeros_spec 20 (found.getD x.exactDecimal)
  rw [hvalue]
  exact ⟨hdigits hdecimal.1, hdecimal.2⟩

lemma toList_text (x : Binary64) :
    x.text.toList = signText x.negative ++ x.shortest.text.toList := by
  unfold text signText
  split_ifs <;> simp

end Binary64

/-! ## Every number -/

/-- The two greatest magnitudes are read, though their texts leave no room below the overflow. -/
lemma isSome_ofText?_greatest (negative : Bool) :
    (Number.ofText? (Number.float ⟨negative, 0x7FEFFFFFFFFFFFFE, by decide⟩).text).isSome ∧
      (Number.ofText? (Number.float ⟨negative, 0x7FEFFFFFFFFFFFFF, by decide⟩).text).isSome := by
  cases negative <;> decide +kernel

/-- The written form of every number is the form of some number. -/
theorem Number.isSome_ofText?_text (n : Number) : (Number.ofText? n.text).isSome := by
  cases n with
  | int i hi => rw [ofText?_int i hi]; rfl
  | float x =>
    obtain ⟨negative, position, hposition⟩ := x
    rcases Nat.eq_zero_or_pos position with rfl | hpos
    · rw [ofText?_zero negative]
      rfl
    obtain hgreat | hlow : position = 0x7FEFFFFFFFFFFFFF ∨ position = 0x7FEFFFFFFFFFFFFE ∨
        position ≤ Binary64.positions - 3 := by
      rw [Binary64.positions] at hposition ⊢
      omega
    · subst hgreat
      exact (isSome_ofText?_greatest negative).2
    obtain hgreat | hlow := hlow
    · subst hgreat
      exact (isSome_ofText?_greatest negative).1
    obtain ⟨hdigits, hvalue⟩ :=
      @Binary64.shortest_le ⟨negative, position, hposition⟩ hpos.ne'
    obtain ⟨n, hscan, hn⟩ := Decimal.isSome_value?_text negative hdigits (hvalue hlow)
    obtain ⟨m, hm⟩ := Option.isSome_iff_exists.1 hn
    unfold Number.ofText? Number.scan
    rw [show (Number.float ⟨negative, position, hposition⟩).text.toList = _ from
      Binary64.toList_text _, hscan]
    simp [hm]

end JsonPath
