import JsonPath.Proofs.Spacing.Scanning

/-!
# Quoted strings

What stands between the quotes of a string is a sequence of units, each of which stands for one
character: the character itself, an escape of one letter, or its code in hexadecimal digits, beyond
`U+FFFF` as a pair of surrogates (`Token.IsUnit`).  The scanner reads exactly the texts that start
with units and a closing quote (`Token.scanString_eq_ok_iff`), and since it finds the units from the
left, a text can be cut into units in one way only (`Token.IsBody.unique`).

Every code that the scanner decodes is one of a character: a code of four digits is below `U+10000`
and no surrogate, and a pair stays within the planes above.  So the failure that a code is of no
character never arises (`knowsCodes_scanAll`).
-/

namespace JsonPath

/-! ## Codes -/

namespace Text

/-- A hexadecimal digit of either case and its value. -/
def IsHexDigit (c : Char) (n : Nat) : Prop :=
  "0123456789abcdef".toList[n]? = some c ∨ "0123456789ABCDEF".toList[n]? = some c

instance (c : Char) (n : Nat) : Decidable (IsHexDigit c n) := inferInstanceAs (Decidable (_ ∨ _))

/-- Four hexadecimal digits and the code that they are written for. -/
inductive IsHex4 : List Char → Nat → Prop
  | digits {a b c d : Char} {i j k l : Nat} (ha : IsHexDigit a i) (hb : IsHexDigit b j)
      (hc : IsHexDigit c k) (hd : IsHexDigit d l) :
      IsHex4 [a, b, c, d] (((i * 16 + j) * 16 + k) * 16 + l)

section Hex

variable {c : Char} {n : Nat}

lemma lt_of_isHexDigit (h : IsHexDigit c n) : n < 16 := by
  rcases h with h | h <;> exact (List.getElem?_eq_some_iff.1 h).1

lemma hexValue?_eq_some_iff : hexValue? c = some n ↔ IsHexDigit c n := by
  constructor
  · intro h
    have hascii : c.toNat < 128 := by
      have hsize := utf8Size_of_hexValue? h
      rw [Char.utf8Size_eq_one_iff, UInt32.le_iff_toNat_le] at hsize
      exact Nat.lt_succ_of_le hsize
    have hall : ∀ k < 128, (hexValue? (Char.ofNat k)).all fun m =>
        decide (IsHexDigit (Char.ofNat k) m) := by
      decide +kernel
    have hdigit := hall c.toNat hascii
    rw [Char.ofNat_toNat, h] at hdigit
    exact of_decide_eq_true hdigit
  · have hlower : ∀ d ∈ "0123456789abcdef".toList.zipIdx, hexValue? d.1 = some d.2 := by decide
    have hupper : ∀ d ∈ "0123456789ABCDEF".toList.zipIdx, hexValue? d.1 = some d.2 := by decide
    rintro (hdigit | hdigit)
    · exact hlower (c, n) (List.mem_zipIdx_iff_getElem?.2 hdigit)
    · exact hupper (c, n) (List.mem_zipIdx_iff_getElem?.2 hdigit)

end Hex

variable {s digits rest : List Char} {code : Nat}

lemma scanHex4_eq_some_iff :
    scanHex4 s = some (code, rest) ↔ ∃ digits, IsHex4 digits code ∧ s = digits ++ rest := by
  constructor
  · intro h
    unfold scanHex4 at h
    split at h
    · simp only [bind, Option.bind_eq_some_iff, pure, Option.some.injEq, Prod.mk.injEq] at h
      obtain ⟨i, ha, j, hb, k, hc, l, hd, rfl, rfl⟩ := h
      rw [hexValue?_eq_some_iff] at ha hb hc hd
      exact ⟨_, .digits ha hb hc hd, rfl⟩
    · cases h
  · rintro ⟨_, ⟨ha, hb, hc, hd⟩, rfl⟩
    rw [← hexValue?_eq_some_iff] at ha hb hc hd
    simp [scanHex4, ha, hb, hc, hd]

namespace IsHex4

lemma lt (h : IsHex4 digits code) : code < 0x10000 := by
  obtain ⟨ha, hb, hc, hd⟩ := h
  have := lt_of_isHexDigit ha
  have := lt_of_isHexDigit hb
  have := lt_of_isHexDigit hc
  have := lt_of_isHexDigit hd
  omega

lemma length_eq (h : IsHex4 digits code) : digits.length = 4 := by
  cases h
  rfl

lemma byteLength_eq (h : IsHex4 digits code) : byteLength digits = 4 := by
  obtain ⟨ha, hb, hc, hd⟩ := h
  rw [← hexValue?_eq_some_iff] at ha hb hc hd
  simp [byteLength, utf8Size_of_hexValue? ha, utf8Size_of_hexValue? hb, utf8Size_of_hexValue? hc,
    utf8Size_of_hexValue? hd]

lemma scanHex4_append (h : IsHex4 digits code) (rest : List Char) :
    scanHex4 (digits ++ rest) = some (code, rest) :=
  scanHex4_eq_some_iff.2 ⟨digits, h, rfl⟩

end IsHex4

lemma isHighSurrogate_iff : isHighSurrogate code = true ↔ 0xD800 ≤ code ∧ code < 0xDC00 := by
  simp [isHighSurrogate]

lemma isLowSurrogate_iff : isLowSurrogate code = true ↔ 0xDC00 ≤ code ∧ code < 0xE000 := by
  simp [isLowSurrogate]

end Text

/-! ## Units -/

/-- The letters of the short escapes, and the characters that they stand for. -/
def Token.shortEscapes : List (Char × Char) :=
  [('b', '\x08'), ('f', '\x0c'), ('n', '\n'), ('r', '\r'), ('t', '\t'), ('/', '/'), ('\\', '\\')]

/-- A unit between quotes `quote`, and the character that it stands for.  No character has the code
of a surrogate, so a code of four digits stands for a character only if it is none. -/
inductive Token.IsUnit (quote : Char) : List Char → Char → Prop
  | plain {c : Char} (hprintable : 0x20 ≤ c.toNat) (hquote : c ≠ quote) (hbackslash : c ≠ '\\') :
      IsUnit quote [c] c
  | short {letter c : Char} (h : (letter, c) ∈ shortEscapes) : IsUnit quote ['\\', letter] c
  | quote : IsUnit quote ['\\', quote] quote
  | code {digits : List Char} {c : Char} (h : Text.IsHex4 digits c.toNat) :
      IsUnit quote ('\\' :: 'u' :: digits) c
  | pair {high low : List Char} {i j : Nat} {c : Char} (hi : i < 0x400) (hj : j < 0x400)
      (hhigh : Text.IsHex4 high (0xD800 + i)) (hlow : Text.IsHex4 low (0xDC00 + j))
      (hc : c.toNat = 0x10000 + i * 0x400 + j) :
      IsUnit quote ('\\' :: 'u' :: (high ++ '\\' :: 'u' :: low)) c

/-- A sequence of units, and the characters that they stand for. -/
inductive Token.IsBody (quote : Char) : List Char → List Char → Prop
  | nil : IsBody quote [] []
  | cons {unit written : List Char} {c : Char} {chars : List Char} (hunit : IsUnit quote unit c)
      (hbody : IsBody quote written chars) : IsBody quote (unit ++ written) (c :: chars)

/-! ### Units are read -/

section Reading

variable {quote c : Char} {s written : List Char}

theorem ofCode_eq_ok_iff {code : Nat} : Token.ofCode code = .ok c ↔ c.toNat = code := by
  unfold Token.ofCode
  split_ifs with hvalid
  · rw [Except.ok.injEq]
    constructor
    · rintro rfl
      rw [Char.ofNat, dif_pos hvalid]
      rfl
    · rintro rfl
      exact Char.ofNat_toNat c
  · refine iff_of_false nofun ?_
    rintro rfl
    exact hvalid c.valid

lemma decodeUnicode_code {digits : List Char} (h : Text.IsHex4 digits c.toNat)
    (rest : List Char) : Token.decodeUnicode (digits ++ rest) = .ok (c, 4) := by
  have hvalid : c.toNat < 0xD800 ∨ 0xDFFF < c.toNat ∧ c.toNat < 0x110000 := c.valid
  have hhigh : ¬ Text.isHighSurrogate c.toNat = true := by
    rw [Text.isHighSurrogate_iff]
    omega
  have hlow : ¬ Text.isLowSurrogate c.toNat = true := by
    rw [Text.isLowSurrogate_iff]
    omega
  rw [Token.decodeUnicode, h.scanHex4_append]
  dsimp only
  rw [if_neg hhigh, if_neg hlow, ofCode_eq_ok_iff.2 rfl]
  rfl

lemma decodeUnicode_pair {high low : List Char} {i j : Nat} (hi : i < 0x400) (hj : j < 0x400)
    (hhigh : Text.IsHex4 high (0xD800 + i)) (hlow : Text.IsHex4 low (0xDC00 + j))
    (hc : c.toNat = 0x10000 + i * 0x400 + j) (rest : List Char) :
    Token.decodeUnicode (high ++ '\\' :: 'u' :: low ++ rest) = .ok (c, 10) := by
  have hfirst : Text.isHighSurrogate (0xD800 + i) = true := Text.isHighSurrogate_iff.2 (by omega)
  have hsecond : Text.isLowSurrogate (0xDC00 + j) = true := Text.isLowSurrogate_iff.2 (by omega)
  have hjoin : Text.joinSurrogates (0xD800 + i) (0xDC00 + j) = c.toNat := by
    unfold Text.joinSurrogates
    rw [hc]
    omega
  rw [List.append_assoc, Token.decodeUnicode, hhigh.scanHex4_append]
  dsimp only [List.cons_append]
  rw [if_pos hfirst, Token.decodeLowSurrogate, hlow.scanHex4_append]
  dsimp only
  rw [if_pos hsecond, hjoin, ofCode_eq_ok_iff.2 rfl]
  rfl

lemma readsUnit_unicode {letters : List Char} (hquote : IsQuote quote)
    (hsize : Text.byteLength letters = letters.length)
    (h : ∀ rest, Token.decodeUnicode (letters ++ rest) = .ok (c, letters.length)) :
    ReadsUnit quote c ('\\' :: 'u' :: letters) := by
  have hletter : 'u'.utf8Size = 1 := by decide
  refine readsUnit_escape hquote ?_ fun rest => ?_
  · rw [Text.byteLength, hletter, hsize, List.length_cons, Nat.add_comm]
  · rw [List.cons_append, decodeEscape_letter hquote, h]
    rfl

lemma decodeEscape_shortEscapes (quote : Char) {letter : Char}
    (h : (letter, c) ∈ Token.shortEscapes) (rest : List Char) :
    letter.utf8Size = 1 ∧ Token.decodeEscape quote (letter :: rest) = .ok (c, 1) := by
  simp only [Token.shortEscapes, List.mem_cons, Prod.mk.injEq, List.not_mem_nil, or_false] at h
  rcases h with ⟨rfl, rfl⟩ | ⟨rfl, rfl⟩ | ⟨rfl, rfl⟩ | ⟨rfl, rfl⟩ | ⟨rfl, rfl⟩ | ⟨rfl, rfl⟩ |
    ⟨rfl, rfl⟩ <;> exact ⟨by decide, rfl⟩

lemma decodeEscape_quote (hquote : quote = '\'' ∨ quote = '"') (rest : List Char) :
    Token.decodeEscape quote (quote :: rest) = .ok (quote, 1) := by
  rcases hquote with rfl | rfl <;> rfl

/-- A unit is read as the character that it stands for. -/
lemma Token.IsUnit.readsUnit (hquote : quote = '\'' ∨ quote = '"')
    (h : Token.IsUnit quote written c) : ReadsUnit quote c written := by
  have hone : quote.utf8Size = 1 := by rcases hquote with rfl | rfl <;> decide
  have hne := isQuote_of_eq hquote
  cases h with
  | plain hprintable hc hbackslash => exact readsUnit_plain hc hbackslash hprintable.not_gt
  | short h =>
    exact readsUnit_short hne (decodeEscape_shortEscapes quote h []).1 fun rest =>
      (decodeEscape_shortEscapes quote h rest).2
  | quote => exact readsUnit_short hne hone (decodeEscape_quote hquote)
  | code h =>
    refine readsUnit_unicode hne (h.byteLength_eq.trans h.length_eq.symm) fun rest => ?_
    rw [h.length_eq, decodeUnicode_code h]
  | pair hi hj hhigh hlow hc =>
    have hbackslash : '\\'.utf8Size = 1 := by decide
    have hletter : 'u'.utf8Size = 1 := by decide
    refine readsUnit_unicode hne ?_ fun rest => ?_
    · simp [Piece.byteLength_append, Text.byteLength, hhigh.byteLength_eq, hlow.byteLength_eq,
        hhigh.length_eq, hlow.length_eq, hbackslash, hletter]
    · rw [decodeUnicode_pair hi hj hhigh hlow hc]
      simp [hhigh.length_eq, hlow.length_eq]

end Reading

/-! ### What is read is a unit -/

section Units

variable {quote c : Char} {s : List Char} {n : Nat}

lemma exists_of_decodeLowSurrogate {high : Nat} (hhigh : Text.isHighSurrogate high = true)
    (h : Token.decodeLowSurrogate high s = .ok c) : ∃ i j low, i < 0x400 ∧ j < 0x400 ∧
      high = 0xD800 + i ∧ Text.IsHex4 low (0xDC00 + j) ∧ c.toNat = 0x10000 + i * 0x400 + j ∧
      s = '\\' :: 'u' :: low ++ s.drop 6 := by
  rw [Text.isHighSurrogate_iff] at hhigh
  unfold Token.decodeLowSurrogate at h
  split at h
  · split at h
    · cases h
    · next low rest hscan =>
      split_ifs at h with hlow
      rw [Text.isLowSurrogate_iff] at hlow
      obtain ⟨digits, hdigits, rfl⟩ := Text.scanHex4_eq_some_iff.1 hscan
      rw [ofCode_eq_ok_iff] at h
      unfold Text.joinSurrogates at h
      refine ⟨high - 0xD800, low - 0xDC00, digits, by omega, by omega, by omega, ?_, h, ?_⟩
      · rwa [Nat.add_sub_of_le hlow.1]
      · simp [hdigits.length_eq]
  · cases h

lemma exists_of_decodeUnicode (h : Token.decodeUnicode s = .ok (c, n)) :
    ∃ written, Token.IsUnit quote ('\\' :: 'u' :: written) c ∧ s = written ++ s.drop n := by
  unfold Token.decodeUnicode at h
  split at h
  · cases h
  next code rest hscan =>
  obtain ⟨digits, hdigits, rfl⟩ := Text.scanHex4_eq_some_iff.1 hscan
  split_ifs at h with hhigh hlow
  · obtain ⟨d, hpair, ⟨⟩⟩ := exists_of_map_eq_ok h
    obtain ⟨i, j, low, hi, hj, rfl, hlow, hc, hrest⟩ := exists_of_decodeLowSurrogate hhigh hpair
    refine ⟨_, .pair hi hj hdigits hlow hc, ?_⟩
    have hdrop : (digits ++ rest).drop 10 = rest.drop 6 := by
      rw [List.drop_append, hdigits.length_eq, List.drop_of_length_le (by simp [hdigits.length_eq])]
      rfl
    rw [hdrop, List.append_assoc, ← hrest]
  · obtain ⟨d, hcode, ⟨⟩⟩ := exists_of_map_eq_ok h
    obtain rfl := ofCode_eq_ok_iff.1 hcode
    exact ⟨digits, .code hdigits, by simp [hdigits.length_eq]⟩

lemma exists_of_decodeEscape (hquote : quote = '\'' ∨ quote = '"')
    (h : Token.decodeEscape quote s = .ok (c, n)) :
    ∃ written, Token.IsUnit quote ('\\' :: written) c ∧ s = written ++ s.drop n := by
  cases s with
  | nil => cases h
  | cons letter t =>
    by_cases hletter : letter = 'u'
    · subst hletter
      rw [decodeEscape_letter (isQuote_of_eq hquote)] at h
      obtain ⟨⟨d, m⟩, hcode, ⟨⟩⟩ := exists_of_map_eq_ok h
      obtain ⟨written, hunit, ht⟩ := exists_of_decodeUnicode hcode
      refine ⟨'u' :: written, hunit, ?_⟩
      rw [List.drop_succ_cons, List.cons_append, ← ht]
    by_cases hself : letter = quote
    · subst hself
      rw [decodeEscape_quote hquote] at h
      cases h
      exact ⟨[_], .quote, rfl⟩
    · rw [Token.decodeEscape, if_neg hletter, if_neg hself] at h
      split_ifs at h with hb hf hn hr ht hslash hbackslash
      all_goals
        cases h
        subst_vars
        exact ⟨[_], .short (by decide), rfl⟩

end Units

/-- Units and a closing quote are read, and behind the quote the scanner stops. -/
lemma Token.IsBody.scanString {quote : Char} (hquote : quote = '\'' ∨ quote = '"')
    {written chars : List Char} (h : IsBody quote written chars) (start offset : Nat)
    (read rest : List Char) :
    Token.scanString quote start offset read (written ++ quote :: rest) =
      .ok (String.ofList (read.reverse ++ chars), offset + Text.byteLength written + 1, rest) := by
  induction h generalizing offset read with
  | nil =>
    rw [List.nil_append, Token.scanString, if_pos rfl, List.append_nil]
    rfl
  | cons hunit _ ih =>
    rw [List.append_assoc, hunit.readsUnit hquote, ih]
    simp [Piece.byteLength_append, Nat.add_assoc]

/-- What the scanner reads of a string: units up to a closing quote, and behind them it stops. -/
theorem Token.scanString_eq_ok_iff {quote : Char} (hquote : quote = '\'' ∨ quote = '"')
    {start offset stop : Nat} {read s rest : List Char} {value : String} :
    Token.scanString quote start offset read s = .ok (value, stop, rest) ↔
      ∃ written chars, Token.IsBody quote written chars ∧ s = written ++ quote :: rest ∧
        value = String.ofList (read.reverse ++ chars) ∧
        stop = offset + Text.byteLength written + 1 := by
  constructor
  · intro h
    have hne := isQuote_of_eq hquote
    have hone : quote.utf8Size = 1 := by rcases hquote with rfl | rfl <;> decide
    fun_induction Token.scanString quote start offset read s with
    | case1 => cases h
    | case2 =>
      cases h
      exact ⟨[], [], .nil, rfl, by rw [List.append_nil], rfl⟩
    | case3 => cases h
    | case4 offset read t c n hescape _ ih =>
      obtain ⟨written, chars, hbody, hrest, hvalue, rfl⟩ := ih h
      obtain ⟨letters, tail, rfl, rfl, hsize, -⟩ := readsHead_decodeEscape hne hone hescape
      obtain ⟨unit, hunit, hletters⟩ := exists_of_decodeEscape hquote hescape
      rw [List.drop_left] at hrest hletters
      obtain rfl := List.append_cancel_right hletters
      have hbackslash : '\\'.utf8Size = 1 := by decide
      refine ⟨_, _, .cons hunit hbody, ?_, ?_, ?_⟩
      · rw [hrest, List.append_assoc, List.cons_append]
      · simpa using hvalue
      · rw [Piece.byteLength_append, Text.byteLength, hbackslash, hsize]
        omega
    | case5 => cases h
    | case6 offset read t c hc hbackslash hcontrol ih =>
      obtain ⟨written, chars, hbody, rfl, hvalue, rfl⟩ := ih h
      refine ⟨_, _, .cons (.plain (Nat.le_of_not_lt hcontrol) hc hbackslash) hbody, rfl, ?_, ?_⟩
      · simpa using hvalue
      · simp [Text.byteLength, Nat.add_assoc]
  · rintro ⟨written, chars, hbody, rfl, rfl, rfl⟩
    exact hbody.scanString hquote start offset read rest

/-- A text can be cut into units and a closing quote in one way only. -/
theorem Token.IsBody.unique {quote : Char} (hquote : quote = '\'' ∨ quote = '"')
    {written written' chars chars' rest rest' : List Char} (h : IsBody quote written chars)
    (h' : IsBody quote written' chars')
    (hsame : written ++ quote :: rest = written' ++ quote :: rest') :
    written = written' ∧ chars = chars' ∧ rest = rest' := by
  have hscan := h.scanString hquote 0 0 [] rest
  rw [hsame, h'.scanString hquote] at hscan
  simp only [Except.ok.injEq, Prod.mk.injEq, List.reverse_nil, List.nil_append,
    String.ofList_inj] at hscan
  obtain ⟨rfl, -, rfl⟩ := hscan
  exact ⟨List.append_cancel_right hsame, rfl, rfl⟩

/-! ## Codes of no character -/

/-- The reading does not fail because a code is one of no character. -/
def KnowsCodes {α : Type} (x : Except Failure α) : Prop :=
  ∀ position, x ≠ .error ⟨position, .expected .unicodeEscape⟩

namespace KnowsCodes

variable {α β : Type} {x : Except Failure α}

lemma ok (a : α) : KnowsCodes (.ok a : Except Failure α) := nofun

lemma error {what : Expectation} (position : Nat) (h : what ≠ .unicodeEscape) :
    KnowsCodes (.error ⟨position, .expected what⟩ : Except Failure α) := by
  rintro _ ⟨⟩
  exact h rfl

lemma map (h : KnowsCodes x) (f : α → β) : KnowsCodes (x.map f) := fun position herror =>
  h position (eq_error_of_map_eq_error herror)

lemma bind (h : KnowsCodes x) {f : α → Except Failure β} (hf : ∀ a, KnowsCodes (f a)) :
    KnowsCodes (x >>= f) := by
  intro position herror
  rcases error_or_exists_of_bind_eq_error herror with hx | ⟨a, -, hfa⟩
  · exact h position hx
  · exact hf a position hfa

end KnowsCodes

section Escapes

variable {quote : Char} {s : List Char}

lemma ofCode_ne_error {code : Nat} (h : code.isValidChar) {what : Expectation} :
    Token.ofCode code ≠ .error what := by
  rw [Token.ofCode, if_pos h]
  simp

lemma decodeLowSurrogate_ne_error {high : Nat} (hhigh : Text.isHighSurrogate high = true) :
    Token.decodeLowSurrogate high s ≠ .error .unicodeEscape := by
  rw [Text.isHighSurrogate_iff] at hhigh
  unfold Token.decodeLowSurrogate
  split
  · split
    · simp
    · next low _ _ =>
      split_ifs with hlow
      · rw [Text.isLowSurrogate_iff] at hlow
        refine ofCode_ne_error (.inr ?_)
        unfold Text.joinSurrogates
        omega
      · simp
  · simp

lemma decodeUnicode_ne_error : Token.decodeUnicode s ≠ .error .unicodeEscape := by
  unfold Token.decodeUnicode
  split
  · simp
  next code rest hscan =>
  obtain ⟨digits, hdigits, rfl⟩ := Text.scanHex4_eq_some_iff.1 hscan
  split_ifs with hhigh hlow
  · exact fun h => decodeLowSurrogate_ne_error hhigh (eq_error_of_map_eq_error h)
  · simp
  · refine fun h => ofCode_ne_error ?_ (eq_error_of_map_eq_error h)
    rw [Text.isHighSurrogate_iff] at hhigh
    rw [Text.isLowSurrogate_iff] at hlow
    have hsmall := hdigits.lt
    show code < 0xD800 ∨ 0xDFFF < code ∧ code < 0x110000
    omega

lemma decodeEscape_ne_error : Token.decodeEscape quote s ≠ .error .unicodeEscape := by
  cases s with
  | nil => simp [Token.decodeEscape]
  | cons letter t =>
    rw [Token.decodeEscape]
    split_ifs <;>
      first
      | exact fun h => decodeUnicode_ne_error (eq_error_of_map_eq_error h)
      | simp

end Escapes

section Tokens

variable {offset : Nat} {s : List Char}

lemma knowsCodes_scanString (quote : Char) (start : Nat) (read : List Char) :
    KnowsCodes (Token.scanString quote start offset read s) := by
  fun_induction Token.scanString quote start offset read s with
  | case1 => exact .error _ (by simp)
  | case2 => exact .ok _
  | case3 offset read t what hescape => exact .error _ fun h => decodeEscape_ne_error (h ▸ hescape)
  | case4 _ _ _ _ _ _ _ ih => exact ih
  | case5 => exact .error _ (by simp)
  | case6 _ _ _ _ _ _ _ ih => exact ih

lemma knowsCodes_scanDigits : KnowsCodes (Token.scanDigits offset s) := by
  unfold Token.scanDigits
  split
  · exact .error _ (by simp)
  · exact .ok _

lemma knowsCodes_scanFraction : KnowsCodes (Token.scanFraction offset s) := by
  unfold Token.scanFraction
  split
  · exact knowsCodes_scanDigits.map _
  · exact .ok _

lemma knowsCodes_scanExponent : KnowsCodes (Token.scanExponent offset s) := by
  unfold Token.scanExponent
  split
  · exact knowsCodes_scanDigits.bind fun _ => .ok _
  · exact knowsCodes_scanDigits.bind fun _ => .ok _
  · exact .ok _

lemma knowsCodes_scanNumber : KnowsCodes (Token.scanNumber offset s) :=
  knowsCodes_scanDigits.bind fun _ => knowsCodes_scanFraction.bind fun _ =>
    knowsCodes_scanExponent.bind fun _ => .ok _

lemma knowsCodes_scanDoubled (sign : Char) (token : Token) {what : Expectation}
    (h : what ≠ .unicodeEscape) : KnowsCodes (Token.scanDoubled sign token what offset s) := by
  unfold Token.scanDoubled
  split
  · split_ifs
    · exact .ok _
    · exact .error _ h
  · exact .error _ h

lemma knowsCodes_scan (c : Char) : KnowsCodes (Token.scan offset c s) := by
  unfold Token.scan
  split
  case h_11 => split <;> exact .ok _
  case h_12 => exact knowsCodes_scanDoubled _ _ (by simp)
  case h_13 => exact knowsCodes_scanDoubled _ _ (by simp)
  case h_14 => exact knowsCodes_scanDoubled _ _ (by simp)
  case h_18 =>
    split_ifs
    · exact (knowsCodes_scanString _ _ _).map _
    · exact knowsCodes_scanNumber.map _
    · exact .ok _
    · exact .error _ (by simp)
  all_goals exact .ok _

lemma knowsCodes_scanFrom : KnowsCodes (Token.scanFrom offset s) := by
  fun_induction Token.scanFrom offset s with
  | case1 => exact .ok _
  | case2 _ _ _ _ ih => exact ih
  | case3 offset c rest _ e hscan =>
    rintro position ⟨⟩
    exact knowsCodes_scan c position hscan
  | case4 _ _ _ _ _ _ _ _ ih => exact ih.map _

/-- No text fails because of a code that is one of no character. -/
theorem knowsCodes_scanAll (text : String) : KnowsCodes (Token.scanAll text) :=
  knowsCodes_scanFrom

end Tokens

/-! ## Strings as tokens -/

/-- A string is read if and only if units and a closing quote follow its opening quote; it ends
there and holds the characters that the units stand for. -/
lemma Token.scan_eq_string_iff {quote : Char} (hquote : quote = '\'' ∨ quote = '"')
    {offset stop : Nat} {s rest : List Char} {token : Token} :
    Token.scan offset quote s = .ok (token, stop, rest) ↔
      ∃ written chars, Token.IsBody quote written chars ∧ s = written ++ quote :: rest ∧
        token = .string (String.ofList chars) ∧
        stop = offset + Text.byteLength (quote :: written ++ [quote]) := by
  have hone : quote.utf8Size = 1 := by rcases hquote with rfl | rfl <;> decide
  have hsize (written : List Char) : offset + Text.byteLength (quote :: written ++ [quote]) =
      offset + 1 + Text.byteLength written + 1 := by
    simp [Text.byteLength, Piece.byteLength_append, hone]
    omega
  rw [scan_quote hquote]
  constructor
  · intro h
    obtain ⟨⟨value, stop, rest⟩, hstring, ⟨⟩⟩ := exists_of_map_eq_ok h
    obtain ⟨written, chars, hbody, hs, rfl, hstop⟩ :=
      (Token.scanString_eq_ok_iff hquote).1 hstring
    exact ⟨written, chars, hbody, hs, rfl, hstop.trans (hsize written).symm⟩
  · rintro ⟨written, chars, hbody, hs, rfl, rfl⟩
    rw [(Token.scanString_eq_ok_iff hquote).2 ⟨written, chars, hbody, hs, rfl, hsize written⟩]
    rfl

/-- A piece between quotes is read back as the string that it is written for. -/
lemma Piece.Scans.scan_quoted {value : String} {quote : Char} {body : List Char}
    (h : ∀ rest, (Piece.lexeme (.string value) (quote :: body)).Scans rest) (offset : Nat)
    (rest : List Char) : Token.scan offset quote (body ++ rest) =
      .ok (.string value, offset + Text.byteLength (quote :: body), rest) := by
  obtain ⟨c, cs, hwritten, -, hscan⟩ := h rest
  obtain ⟨rfl, rfl⟩ := List.cons.inj hwritten
  exact hscan offset

/-- Quoted strings are read exactly: behind either quote, what is read is a sequence of units up to
the same quote, as the characters that they stand for, and nothing else is.  Names and strings as
they are written are read back, and no code is taken for one of no character. -/
theorem Token.string_literals_exact :
    (∀ quote, quote = '\'' ∨ quote = '"' → ∀ offset s token stop rest,
      Token.scan offset quote s = .ok (token, stop, rest) ↔
        ∃ written chars, Token.IsBody quote written chars ∧ s = written ++ quote :: rest ∧
          token = .string (String.ofList chars) ∧
          stop = offset + Text.byteLength (quote :: written ++ [quote])) ∧
    (∀ name, ∃ body, (Text.quoteName name).toList = '\'' :: body ∧ ∀ offset rest,
      Token.scan offset '\'' (body ++ rest) =
        .ok (.string name, offset + Text.byteLength ('\'' :: body), rest)) ∧
    (∀ value, ∃ body, (Json.string value).text.toList = '"' :: body ∧ ∀ offset rest,
      Token.scan offset '"' (body ++ rest) =
        .ok (.string value, offset + Text.byteLength ('"' :: body), rest)) ∧
    ∀ text position, Token.scanAll text ≠ .error ⟨position, .expected .unicodeEscape⟩ := by
  refine ⟨fun quote hquote offset s token stop rest => Token.scan_eq_string_iff hquote,
    fun name => ?_, fun value => ?_, knowsCodes_scanAll⟩
  · have hname : (Text.quoteName name).toList =
        '\'' :: (name.toList.flatMap Text.escapeNameChar ++ ['\'']) := by simp [Text.quoteName]
    exact ⟨_, hname, Piece.Scans.scan_quoted fun rest => hname ▸ Piece.scans_name name rest⟩
  · have hvalue : (Json.string value).text.toList =
        '"' :: (value.toList.flatMap Json.escapeChar ++ ['"']) := by
      simp [Json.text, Json.write, Json.quote]
    have htext : (Json.string value).text = Json.quote value := by simp [Json.text, Json.write]
    exact ⟨_, hvalue, Piece.Scans.scan_quoted fun rest =>
      hvalue ▸ htext ▸ Piece.scans_quote value rest⟩

/-- A surrogate pair in digits of both cases, the other quote, and the quote itself escaped. -/
theorem Token.string_literals_exact_surrogates :
    ('\'' = '\'' ∨ '\'' = '"') ∧
      Token.scan 3 '\'' ("\\uD83d\\uDe00\"\\'" ++ "' == 1").toList =
        .ok (.string "😀\"'", 20, " == 1".toList) := by
  have hhigh : Text.IsHex4 "D83d".toList (0xD800 + 0x3D) :=
    .digits (i := 13) (j := 8) (k := 3) (l := 13) (.inr rfl) (.inl rfl) (.inl rfl) (.inl rfl)
  have hlow : Text.IsHex4 "De00".toList (0xDC00 + 0x200) :=
    .digits (i := 13) (j := 14) (k := 0) (l := 0) (.inr rfl) (.inl rfl) (.inl rfl) (.inl rfl)
  have hbody : Token.IsBody '\'' "\\uD83d\\uDe00\"\\'".toList ['😀', '"', '\''] :=
    .cons (.pair (by decide) (by decide) hhigh hlow (by decide))
      (.cons (.plain (by decide) (by decide) (by decide)) (.cons .quote .nil))
  refine ⟨.inl rfl, (Token.string_literals_exact.1 '\'' (.inl rfl) 3 _ _ _ _).2 ?_⟩
  exact ⟨_, _, hbody, rfl, rfl, rfl⟩

end JsonPath
