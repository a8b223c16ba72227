import JsonPath.Number.Text
import JsonPath.Proofs.Canonical.Writable
import Mathlib.Tactic.ByContra
import Mathlib.Tactic.SplitIfs

/-!
# Written numbers are number tokens

Every number is written as one numeral: an optional sign, digits, and perhaps a fraction and an
exponent (`IsNumeral`).  The scanner of number tokens takes the whole of a numeral, no more and no
less, wherever a character follows that continues no token (`scanNumber_append`).

Integers are read back to themselves, both as the index of a segment (`integer?_ofInt`) and as a
literal (`readsBack_int`).  For binary64 numbers, whose written form is read with roundings of its
own, `Number.ReadsBack` is a property that a number may have.
-/

namespace JsonPath

/-! ## Numerals -/

/-- A nonempty list of digits. -/
def IsDigits (s : List Char) : Prop := s ≠ [] ∧ ∀ c ∈ s, c.isDigit = true

/-- Nothing, or a point with digits after it. -/
def IsFraction (s : List Char) : Prop := s = [] ∨ ∃ digits, IsDigits digits ∧ s = '.' :: digits

/-- Nothing, or `e` with a sign and digits after it. -/
def IsExponent (s : List Char) : Prop :=
  s = [] ∨ ∃ sign digits, (sign = '+' ∨ sign = '-') ∧ IsDigits digits ∧ s = 'e' :: sign :: digits

/-- A numeral without its sign. -/
def IsMagnitude (s : List Char) : Prop :=
  ∃ whole fraction exponent, IsDigits whole ∧ IsFraction fraction ∧ IsExponent exponent ∧
    s = whole ++ (fraction ++ exponent)

/-- A numeral as numbers are written. -/
def IsNumeral (s : List Char) : Prop := ∃ t, IsMagnitude t ∧ (s = t ∨ s = '-' :: t)

/-- What may follow a token without going on with it: nothing, or a character that belongs to no
word, no number and no longer sign. -/
def EndsToken (rest : List Char) : Prop :=
  ∀ c ∈ rest.head?, Token.isNameChar c = false ∧ c ≠ '.' ∧ c ≠ '='

lemma EndsToken.nil : EndsToken [] := by simp [EndsToken]

lemma EndsToken.cons {c : Char} {rest : List Char} (hname : Token.isNameChar c = false)
    (hdot : c ≠ '.') (hequal : c ≠ '=') : EndsToken (c :: rest) := by
  intro d hd
  obtain rfl : c = d := by simpa using hd
  exact ⟨hname, hdot, hequal⟩

lemma isNameChar_of_isDigit {c : Char} (h : c.isDigit) : Token.isNameChar c := by
  simp [Token.isNameChar, h]

/-- A token is ended by no digit and by no letter of an exponent. -/
lemma EndsToken.head_ne {rest : List Char} (h : EndsToken rest) :
    ∀ c ∈ rest.head?, c.isDigit = false ∧ c ≠ '.' ∧ c ≠ 'e' ∧ c ≠ 'E' := by
  intro c hc
  obtain ⟨hname, hdot, -⟩ := h c hc
  refine ⟨?_, hdot, ?_, ?_⟩
  · cases hdigit : c.isDigit with
    | false => rfl
    | true => exact absurd (isNameChar_of_isDigit hdigit) (by simp [hname])
  · rintro rfl
    exact absurd hname (by decide)
  · rintro rfl
    exact absurd hname (by decide)

/-! ## Digits -/

lemma IsDigits.takeWhile_append {digits rest : List Char} (h : IsDigits digits)
    (hrest : ∀ c ∈ rest.head?, c.isDigit = false) :
    (digits ++ rest).takeWhile Char.isDigit = digits := by
  rw [List.takeWhile_append_of_pos h.2]
  cases rest with
  | nil => simp
  | cons c rest => simp [hrest c (by simp)]

lemma IsDigits.dropWhile_append {digits rest : List Char} (h : IsDigits digits)
    (hrest : ∀ c ∈ rest.head?, c.isDigit = false) :
    (digits ++ rest).dropWhile Char.isDigit = rest := by
  rw [List.dropWhile_append_of_pos h.2]
  cases rest with
  | nil => simp
  | cons c rest => simp [hrest c (by simp)]

lemma IsDigits.append {s t : List Char} (hs : IsDigits s) (ht : ∀ c ∈ t, c.isDigit = true) :
    IsDigits (s ++ t) := by
  refine ⟨by simp [hs.1], fun c hc => ?_⟩
  rcases List.mem_append.mp hc with h | h
  · exact hs.2 c h
  · exact ht c h

lemma isDigits_toDigits (n : Nat) : IsDigits (Nat.toDigits 10 n) :=
  ⟨Nat.toDigits_ne_nil, fun _ hc => Nat.isDigit_of_mem_toDigits (by decide) (by decide) hc⟩

lemma isDigit_of_mem_zeros {n : Nat} : ∀ c ∈ List.replicate n '0', c.isDigit = true := by
  intro c hc
  rw [List.eq_of_mem_replicate hc]
  decide

lemma digitChar_ne_zero : ∀ n < 10, n ≠ 0 → Nat.digitChar n ≠ '0' := by decide

/-- A decimal representation starts with a zero only if it is the one of zero. -/
lemma head_toDigits_ne_zero {n : Nat} (h : n ≠ 0) : (Nat.toDigits 10 n).head? ≠ some '0' := by
  induction n using Nat.strongRecOn with
  | _ n ih =>
    rcases Nat.lt_or_ge n 10 with hlt | hge
    · rw [Nat.toDigits_of_lt_base hlt]
      simpa using digitChar_ne_zero n hlt h
    · rw [Nat.toDigits_of_base_le (by decide) hge]
      have hne : n / 10 ≠ 0 := by omega
      have hdigits : Nat.toDigits 10 (n / 10) ≠ [] := Nat.toDigits_ne_nil
      obtain ⟨c, cs, hcs⟩ := List.exists_cons_of_ne_nil hdigits
      have := ih (n / 10) (by omega) hne
      rw [hcs] at this ⊢
      exact this

/-! ## Scanning a numeral -/

lemma scanDigits_append {offset : Nat} {digits rest : List Char} (h : IsDigits digits)
    (hrest : ∀ c ∈ rest.head?, c.isDigit = false) :
    Token.scanDigits offset (digits ++ rest) = .ok (digits, rest) := by
  unfold Token.scanDigits
  rw [h.takeWhile_append hrest, h.dropWhile_append hrest]
  obtain ⟨c, cs, rfl⟩ := List.exists_cons_of_ne_nil h.1
  rfl

lemma scanFraction_append {offset : Nat} {fraction rest : List Char} (h : IsFraction fraction)
    (hrest : ∀ c ∈ rest.head?, c.isDigit = false ∧ c ≠ '.') :
    Token.scanFraction offset (fraction ++ rest) = .ok (fraction, rest) := by
  rcases h with rfl | ⟨digits, hdigits, rfl⟩
  · rw [List.nil_append]
    unfold Token.scanFraction
    split
    · exact absurd rfl (hrest '.' (by simp)).2
    · rfl
  · have := @scanDigits_append (offset + 1) _ _ hdigits fun c hc => (hrest c hc).1
    simp only [List.cons_append, Token.scanFraction, this, Except.map]

lemma scanExponent_append {offset : Nat} {exponent rest : List Char} (h : IsExponent exponent)
    (hrest : ∀ c ∈ rest.head?, c.isDigit = false ∧ c ≠ '.' ∧ c ≠ 'e' ∧ c ≠ 'E') :
    Token.scanExponent offset (exponent ++ rest) = .ok (exponent, rest) := by
  rcases h with rfl | ⟨sign, digits, hsign, hdigits, rfl⟩
  · rw [List.nil_append]
    unfold Token.scanExponent
    split
    · exact absurd rfl (hrest 'e' (by simp)).2.2.1
    · exact absurd rfl (hrest 'E' (by simp)).2.2.2
    · rfl
  · have := @scanDigits_append (offset + 1 + 1) _ _ hdigits fun c hc => (hrest c hc).1
    rcases hsign with rfl | rfl <;>
      simp only [List.cons_append, Token.scanExponent, Token.scanPower, Token.scanExponentSign,
        bind, Except.bind, pure, Except.pure, List.length_singleton, this, List.nil_append]

/-- What follows the whole digits of a numeral is no digit. -/
lemma head_fraction_append {fraction exponent rest : List Char} (hfraction : IsFraction fraction)
    (hexponent : IsExponent exponent) (hrest : ∀ c ∈ rest.head?, c.isDigit = false) :
    ∀ c ∈ (fraction ++ (exponent ++ rest)).head?, c.isDigit = false := by
  rcases hfraction with rfl | ⟨digits, -, rfl⟩
  · rcases hexponent with rfl | ⟨sign, digits, -, -, rfl⟩
    · simpa using hrest
    · intro c hc
      obtain rfl : 'e' = c := by simpa using hc
      decide
  · intro c hc
    obtain rfl : '.' = c := by simpa using hc
    decide

/-- What follows the fraction of a numeral is neither a digit nor a point. -/
lemma head_exponent_append {exponent rest : List Char} (hexponent : IsExponent exponent)
    (hrest : ∀ c ∈ rest.head?, c.isDigit = false ∧ c ≠ '.') :
    ∀ c ∈ (exponent ++ rest).head?, c.isDigit = false ∧ c ≠ '.' := by
  rcases hexponent with rfl | ⟨sign, digits, -, -, rfl⟩
  · simpa using hrest
  · intro c hc
    obtain rfl : 'e' = c := by simpa using hc
    decide

lemma scanMinus_magnitude {s rest : List Char} (h : IsMagnitude s) :
    Token.scanMinus (s ++ rest) = ([], s ++ rest) := by
  obtain ⟨whole, fraction, exponent, hwhole, -, -, rfl⟩ := h
  obtain ⟨c, cs, rfl⟩ := List.exists_cons_of_ne_nil hwhole.1
  have hc : c.isDigit := hwhole.2 c (by simp)
  simp only [List.cons_append]
  unfold Token.scanMinus
  split
  · rename_i heq
    rw [List.cons.injEq] at heq
    rw [heq.1] at hc
    exact absurd hc (by decide)
  · rfl

/-- The scanner of numbers takes the whole of a numeral, if nothing after it goes on with it. -/
theorem scanNumber_append {offset : Nat} {s rest : List Char} (h : IsNumeral s)
    (hrest : EndsToken rest) : Token.scanNumber offset (s ++ rest) = .ok (s, rest) := by
  obtain ⟨t, ht, hs⟩ := h
  have hminus : Token.scanMinus (s ++ rest) = (s.take (s.length - t.length), t ++ rest) := by
    rcases hs with rfl | rfl
    · simpa using scanMinus_magnitude ht
    · simp [Token.scanMinus]
  have hsign : s.take (s.length - t.length) ++ t = s := by rcases hs with rfl | rfl <;> simp
  obtain ⟨whole, fraction, exponent, hwhole, hfraction, hexponent, rfl⟩ := ht
  have hend := hrest.head_ne
  have hpoint := head_exponent_append hexponent fun c hc => ⟨(hend c hc).1, (hend c hc).2.1⟩
  have hdigit := head_fraction_append hfraction hexponent fun c hc => (hend c hc).1
  simp only [List.append_assoc] at hminus hsign ⊢
  unfold Token.scanNumber
  simp only [hminus, bind, Except.bind, scanDigits_append hwhole hdigit,
    scanFraction_append hfraction hpoint, scanExponent_append hexponent hend, pure, Except.pure,
    List.append_assoc, hsign]

/-! ## Numbers as they are written -/

lemma isMagnitude_digits {s : List Char} (h : IsDigits s) : IsMagnitude s :=
  ⟨s, [], [], h, .inl rfl, .inl rfl, by simp⟩

lemma isMagnitude_point {whole fraction : List Char} (hwhole : IsDigits whole)
    (hfraction : IsDigits fraction) : IsMagnitude (whole ++ '.' :: fraction) :=
  ⟨whole, '.' :: fraction, [], hwhole, .inr ⟨fraction, hfraction, rfl⟩, .inl rfl, by simp⟩

/-- A decimal in plain notation is whole digits, a point and other digits.  The whole digits begin
with a zero only if there is no other, and are few where plain notation is used. -/
lemma Decimal.exists_plainText {digits : List Char} {exponent leading : Int}
    (hdigits : IsDigits digits) (hleading : leading = exponent + (digits.length - 1 : Nat)) :
    ∃ whole fraction, (plainText digits exponent leading).toList = whole ++ '.' :: fraction ∧
      IsDigits whole ∧ IsDigits fraction ∧
      (digits.head? ≠ some '0' → whole.head? = some '0' → whole = ['0']) ∧
      (leading ≤ 15 → whole.length ≤ 16) := by
  have hpos : 0 < digits.length := List.length_pos_iff.mpr hdigits.1
  have hone : IsDigits ['0'] := ⟨by simp, by simp⟩
  obtain ⟨c, cs, rfl⟩ := List.exists_cons_of_ne_nil hdigits.1
  unfold plainText
  split_ifs with hexponent hnonneg
  · have hwhole := hdigits.append (@isDigit_of_mem_zeros exponent.toNat)
    refine ⟨_, ['0'], by simp, hwhole, hone, fun hc => by simp_all, fun hhigh => ?_⟩
    rw [List.length_append, List.length_replicate]
    omega
  · -- The point stands inside the digits, since the exponent is negative.
    have htake : IsDigits ((c :: cs).take (leading.toNat + 1)) :=
      ⟨by simp, fun d hd => hdigits.2 d (List.mem_of_mem_take hd)⟩
    have hdrop : IsDigits ((c :: cs).drop (leading.toNat + 1)) :=
      ⟨by simp only [ne_eq, List.drop_eq_nil_iff]; omega,
        fun d hd => hdigits.2 d (List.mem_of_mem_drop hd)⟩
    refine ⟨_, _, by simp, htake, hdrop, fun hc => by simp_all, fun hhigh => ?_⟩
    rw [List.length_take]
    omega
  · have hzeros : IsDigits (List.replicate (-leading - 1).toNat '0' ++ c :: cs) := by
      refine ⟨by simp, fun d hd => ?_⟩
      rcases List.mem_append.mp hd with h | h
      · exact isDigit_of_mem_zeros d h
      · exact hdigits.2 d h
    exact ⟨['0'], _, by simp, hone, hzeros, fun _ _ => rfl, fun _ => by simp⟩

lemma isMagnitude_plainText {digits : List Char} {exponent leading : Int}
    (hdigits : IsDigits digits) (hleading : leading = exponent + (digits.length - 1 : Nat)) :
    IsMagnitude (Decimal.plainText digits exponent leading).toList := by
  obtain ⟨whole, fraction, htext, hwhole, hfraction, -, -⟩ :=
    Decimal.exists_plainText hdigits hleading
  rw [htext]
  exact isMagnitude_point hwhole hfraction

/-- A decimal in scientific notation has one digit before its exponent, and perhaps a fraction. -/
lemma Decimal.toList_scientificText (c : Char) (cs : List Char) (leading : Int) :
    (scientificText (c :: cs) leading).toList =
      c :: ((if cs = [] then [] else '.' :: cs) ++
        'e' :: (if leading < 0 then '-' else '+') :: Nat.toDigits 10 leading.natAbs) := by
  unfold scientificText
  cases cs <;> split_ifs <;> simp_all [Nat.toList_repr]

lemma isMagnitude_scientificText {digits : List Char} {leading : Int}
    (hdigits : IsDigits digits) : IsMagnitude (Decimal.scientificText digits leading).toList := by
  obtain ⟨c, cs, rfl⟩ := List.exists_cons_of_ne_nil hdigits.1
  have hfirst : IsDigits [c] := ⟨by simp, by simpa using hdigits.2 c (by simp)⟩
  have hexponent : IsExponent ('e' :: (if leading < 0 then '-' else '+') ::
      Nat.toDigits 10 leading.natAbs) :=
    .inr ⟨_, _, by split <;> simp, isDigits_toDigits _, rfl⟩
  have hfraction : IsFraction (if cs = [] then [] else '.' :: cs) := by
    split_ifs with hempty
    · exact .inl rfl
    · exact .inr ⟨cs, ⟨hempty, fun d hd => hdigits.2 d (by simp [hd])⟩, rfl⟩
  rw [Decimal.toList_scientificText]
  exact ⟨[c], _, _, hfirst, hfraction, hexponent, by simp⟩

lemma isMagnitude_decimalText (d : Decimal) : IsMagnitude d.text.toList := by
  unfold Decimal.text
  simp only []
  split_ifs
  · exact isMagnitude_plainText (isDigits_toDigits _) rfl
  · exact isMagnitude_scientificText (isDigits_toDigits _)

lemma isNumeral_ofInt (i : Int) : IsNumeral (Text.ofInt i).toList := by
  refine ⟨Nat.toDigits 10 i.natAbs, isMagnitude_digits (isDigits_toDigits _), ?_⟩
  unfold Text.ofInt
  split_ifs <;> simp [Nat.toList_repr]

/-- Every number is written as a numeral. -/
lemma isNumeral_text (n : Number) : IsNumeral n.text.toList := by
  cases n with
  | int i _ => exact isNumeral_ofInt i
  | float x =>
    refine ⟨x.shortest.text.toList, isMagnitude_decimalText _, ?_⟩
    show (Binary64.text x).toList = _ ∨ (Binary64.text x).toList = _
    unfold Binary64.text
    split_ifs <;> simp

/-! ## Integers read back -/

lemma IsDigits.scanSign_eq {digits : List Char} (h : IsDigits digits) :
    Numeral.scanSign digits = (false, digits) := by
  obtain ⟨c, cs, rfl⟩ := List.exists_cons_of_ne_nil h.1
  have hc : c.isDigit := h.2 c (by simp)
  unfold Numeral.scanSign
  split
  · rename_i heq
    rw [List.cons.injEq] at heq
    rw [heq.1] at hc
    exact absurd hc (by decide)
  · rfl

lemma scanSign_ofInt (i : Int) :
    Numeral.scanSign (Text.ofInt i).toList = (decide (i < 0), Nat.toDigits 10 i.natAbs) := by
  unfold Text.ofInt
  split_ifs with h
  · simp [Numeral.scanSign, Nat.toList_repr, h]
  · rw [Nat.toList_repr, (isDigits_toDigits _).scanSign_eq, decide_eq_false h]

/-- The integers within the limit are read as indexes in the form in which they are written. -/
theorem integer?_ofInt {i : Int64} (h : Parser.inLimit i) :
    Parser.integer? (Text.ofInt i.toInt) = some i := by
  have hdigits := isDigits_toDigits i.toInt.natAbs
  have hall : (Nat.toDigits 10 i.toInt.natAbs).all Char.isDigit = true :=
    List.all_eq_true.mpr hdigits.2
  have hzero : (Nat.toDigits 10 i.toInt.natAbs).head? = some '0' →
      Nat.toDigits 10 i.toInt.natAbs = ['0'] ∧ ¬ i.toInt < 0 := by
    intro hhead
    have habs : i.toInt.natAbs = 0 := by
      by_contra hne
      exact head_toDigits_ne_zero hne hhead
    exact ⟨by rw [habs, Nat.toDigits_zero], by omega⟩
  have hlimit : (i.toInt.natAbs : Int) ≤ Parser.integerLimit := by
    simp only [Parser.inLimit, Bool.and_eq_true, decide_eq_true_eq] at h
    omega
  have hvalue : (if i.toInt < 0 then -(i.toInt.natAbs : Int) else i.toInt.natAbs) = i.toInt := by
    split_ifs <;> omega
  unfold Parser.integer?
  rw [scanSign_ofInt]
  simp only [hall, Bool.not_true, Bool.or_false, List.isEmpty_iff, hdigits.1,
    Nat.ofDigitChars_ten_toDigits, decide_eq_true_eq, if_false, hlimit, if_true, hvalue]
  rw [if_neg, Int64.ofInt_toInt]
  rw [Bool.and_eq_true, decide_eq_true_eq, not_and]
  intro hhead
  obtain ⟨hone, hsign⟩ := hzero hhead
  simp [hone, hsign]

/-! ## Literals read back

A number is *read back* if its written form stands for a number that is equal to it as data.  This
holds of every integer.  It may fail for a binary64 number, since reading rounds more than once.
-/

/-- Whether the written form of a number stands for an equal number. -/
def Number.ReadsBack (n : Number) : Prop :=
  ∃ m, Number.ofText? n.text = some m ∧ m.sameKindEq n = true

lemma Numeral.scanDigits_append {digits rest : List Char} (h : IsDigits digits)
    (hrest : ∀ c ∈ rest.head?, c.isDigit = false) :
    scanDigits (digits ++ rest) = some (digits, rest) := by
  unfold scanDigits
  rw [h.takeWhile_append hrest, h.dropWhile_append hrest]
  obtain ⟨c, cs, rfl⟩ := List.exists_cons_of_ne_nil h.1
  rfl

lemma Numeral.scanWhole_append {digits rest : List Char} (h : IsDigits digits)
    (hzero : digits.head? = some '0' → digits = ['0'])
    (hrest : ∀ c ∈ rest.head?, c.isDigit = false) :
    scanWhole (digits ++ rest) = some (digits, rest) := by
  unfold scanWhole
  rw [scanDigits_append h hrest]
  split
  · rename_i heq
    simp only [Option.some.injEq, Prod.mk.injEq] at heq
    have hone := hzero (by rw [heq.1]; rfl)
    rw [heq.1] at hone
    simp at hone
  · rfl

lemma scan_numeral_digits {s : List Char} {negative : Bool} {digits : List Char}
    (hsign : Numeral.scanSign s = (negative, digits)) (hdigits : IsDigits digits)
    (hzero : digits.head? = some '0' → digits = ['0']) :
    Numeral.scan s = some (⟨negative, digits, [], none⟩, []) := by
  have hwhole : Numeral.scanWhole digits = some (digits, []) := by
    simpa using @Numeral.scanWhole_append _ [] hdigits hzero (by simp)
  simp [Numeral.scan, hsign, hwhole, Numeral.scanFraction, Numeral.scanExponent]

/-- An integer in plain digits is read as itself. -/
lemma ofText?_int (i : Int) (h : Number.Exact i) :
    Number.ofText? (Number.int i h).text = some (.int i h) := by
  have hzero : (Nat.toDigits 10 i.natAbs).head? = some '0' → Nat.toDigits 10 i.natAbs = ['0'] := by
    intro hhead
    have habs : i.natAbs = 0 := by
      by_contra hne
      exact head_toDigits_ne_zero hne hhead
    rw [habs, Nat.toDigits_zero]
  have hscan := scan_numeral_digits (scanSign_ofInt i) (isDigits_toDigits _) hzero
  have hvalue : (if i < 0 then -(i.natAbs : Int) else i.natAbs) = i := by split_ifs <;> omega
  have hnegative : (decide (i < 0) && i.natAbs == 0) = false := by
    simp only [Bool.and_eq_false_iff, decide_eq_false_iff_not, beq_eq_false_iff_ne]
    omega
  have hexact : Numeral.exactInt? ⟨decide (i < 0), Nat.toDigits 10 i.natAbs, [], none⟩ =
      some (.int i h) := by
    simp only [Numeral.exactInt?, Nat.ofDigitChars_ten_toDigits, hnegative, decide_eq_true_eq,
      hvalue]
    simp [h]
  unfold Number.ofText? Number.scan
  rw [show (Number.int i h).text = Text.ofInt i from rfl, hscan]
  simp [Numeral.value?, hexact]

theorem readsBack_int (i : Int) (h : Number.Exact i) : (Number.int i h).ReadsBack :=
  ⟨_, ofText?_int i h, by simp [Number.sameKindEq]⟩

/-- Numbers are read back if those that are no integers are. -/
lemma readsBack_of_floats {numbers : List Number}
    (h : ∀ x, Number.float x ∈ numbers → (Number.float x).ReadsBack) :
    ∀ x ∈ numbers, x.ReadsBack := by
  intro x hx
  cases x with
  | int i hi => exact readsBack_int i hi
  | float x => exact h x hx

/-- The zeros are written and read with their signs. -/
lemma ofText?_zero (negative : Bool) :
    Number.ofText? (Number.float ⟨negative, 0, by decide⟩).text =
      some (.float ⟨negative, 0, by decide⟩) := by
  cases negative <;> decide +kernel

/-- A number that is read back is read as itself, since only the zeros are equal to another
number. -/
lemma Number.ReadsBack.ofText? {n : Number} (h : n.ReadsBack) :
    Number.ofText? n.text = some n := by
  obtain ⟨m, hm, hsame⟩ := h
  cases n with
  | int i hi => exact ofText?_int i hi
  | float x =>
    cases m with
    | int i hi => simp [Number.sameKindEq] at hsame
    | float y =>
      obtain ⟨negative, position, hposition⟩ := x
      rcases Nat.eq_zero_or_pos position with rfl | hpos
      · exact ofText?_zero negative
      · obtain ⟨negative', position', hposition'⟩ := y
        simp only [Number.sameKindEq, Binary64.valueEq, Binary64.rank, beq_iff_eq] at hsame
        have hsign : negative' = negative := by
          cases negative' <;> cases negative <;> simp at hsame ⊢ <;> omega
        subst hsign
        have : position' = position := by split_ifs at hsame <;> omega
        subst this
        exact hm

end JsonPath
