import JsonPath.Proofs.Canonical.Scanning
import JsonPath.Proofs.Results
import Mathlib.Data.List.TakeWhile

/-!
# What a token depends on

The scanner decides on the end of a token by the one character behind it.  So a token stays as it
is when the text behind it is replaced by one that starts with the same character or with a blank
(`Replaces`): a blank continues no token.  Neither does the position matter.
`scansLocally_of_scan` says this of every token.
-/

namespace JsonPath

/-- The text `rest'` starts with the same character as `rest`, or with a blank, or is empty. -/
def Replaces (rest rest' : List Char) : Prop :=
  ∀ c ∈ rest'.head?, rest.head? = some c ∨ Token.isBlank c

namespace Replaces

variable {rest rest' : List Char}

lemma refl (rest : List Char) : Replaces rest rest := fun _ hc => .inl hc

lemma trans {rest'' : List Char} (h : Replaces rest rest') (h' : Replaces rest' rest'') :
    Replaces rest rest'' := by
  intro c hc
  rcases h' c hc with hc | hblank
  · exact h c hc
  · exact .inr hblank

lemma append (h : Replaces rest rest') (s : List Char) : Replaces (s ++ rest) (s ++ rest') := by
  cases s with
  | nil => exact h
  | cons c s => exact fun _ hd => .inl hd

/-- A class of characters without blanks is avoided behind a token as before. -/
lemma avoids (h : Replaces rest rest') {p : Char → Bool}
    (hblank : ∀ c, Token.isBlank c → p c = false) (hrest : ∀ c ∈ rest.head?, p c = false) :
    ∀ c ∈ rest'.head?, p c = false := by
  intro c hc
  rcases h c hc with hsame | hc
  · exact hrest c hsame
  · exact hblank c hc

lemma head_ne (h : Replaces rest rest') {d : Char} (hd : Token.isBlank d = false)
    (hrest : rest.head? ≠ some d) : rest'.head? ≠ some d := by
  intro hc
  rcases h d hc with hsame | hblank
  · exact hrest hsame
  · rw [hd] at hblank
    cases hblank

end Replaces

lemma isNameChar_of_isBlank {c : Char} (h : Token.isBlank c) : Token.isNameChar c = false := by
  cases hname : Token.isNameChar c with
  | false => rfl
  | true =>
    rw [isBlank_of_isNameChar (.inr hname)] at h
    cases h

lemma isDigit_of_isBlank {c : Char} (h : Token.isBlank c) : c.isDigit = false := by
  have hname := isNameChar_of_isBlank h
  rw [Token.isNameChar, Bool.or_eq_false_iff] at hname
  exact hname.2

/-- The characters behind the longest run of a class start with none of that class. -/
lemma head_dropWhile {p : Char → Bool} (s : List Char) :
    ∀ c ∈ (s.dropWhile p).head?, p c = false := by
  intro c hc
  have h := List.head?_dropWhile_not p s
  rw [hc] at h
  exact h

/-! ## Numbers -/

/-- The text starts with characters of one byte each that the scanner takes, at every position and
before everything that may replace the text behind them. -/
def TakesLocally (scanner : Nat → List Char → Except Failure (List Char × List Char))
    (s found rest : List Char) : Prop :=
  s = found ++ rest ∧ Text.byteLength found = found.length ∧
    ∀ offset rest', Replaces rest rest' → scanner offset (found ++ rest') = .ok (found, rest')

/-- The scanner takes all characters that it returns in this way. -/
def IsLocal (scanner : Nat → List Char → Except Failure (List Char × List Char)) : Prop :=
  ∀ {offset s found rest}, scanner offset s = .ok (found, rest) →
    TakesLocally scanner s found rest

lemma IsDigits.byteLength_eq {digits : List Char} (h : IsDigits digits) :
    Text.byteLength digits = digits.length :=
  byteLength_eq_length fun c hc => utf8Size_of_isDigit (h.2 c hc)

lemma isDigits_of_scanDigits {offset : Nat} {s digits rest : List Char}
    (h : Token.scanDigits offset s = .ok (digits, rest)) :
    IsDigits digits ∧ s = digits ++ rest ∧ ∀ c ∈ rest.head?, c.isDigit = false := by
  unfold Token.scanDigits at h
  split at h
  · cases h
  · rename_i hsome
    cases h
    have hdigits : ∀ c ∈ s.takeWhile Char.isDigit, c.isDigit = true :=
      fun c hc => List.mem_takeWhile_imp hc
    exact ⟨⟨hsome, hdigits⟩, List.takeWhile_append_dropWhile.symm, head_dropWhile s⟩

lemma isLocal_scanDigits : IsLocal Token.scanDigits := by
  intro offset s digits rest h
  obtain ⟨hdigits, hs, hrest⟩ := isDigits_of_scanDigits h
  refine ⟨hs, hdigits.byteLength_eq, fun offset' rest' hreplaces => ?_⟩
  exact scanDigits_append hdigits (hreplaces.avoids (fun _ => isDigit_of_isBlank) hrest)

lemma scanFraction_of_head_ne {offset : Nat} {s : List Char} (h : s.head? ≠ some '.') :
    Token.scanFraction offset s = .ok ([], s) := by
  unfold Token.scanFraction
  split
  · exact absurd rfl h
  · rfl

lemma isLocal_scanFraction : IsLocal Token.scanFraction := by
  intro offset s found rest h
  by_cases hpoint : s.head? = some '.'
  · obtain ⟨t, rfl⟩ := List.head?_eq_some_iff.1 hpoint
    obtain ⟨⟨digits, rest⟩, hdigits, ⟨⟩⟩ := exists_of_map_eq_ok h
    obtain ⟨rfl, hsize, hsame⟩ := isLocal_scanDigits hdigits
    refine ⟨rfl, ?_, fun offset' rest' hreplaces => ?_⟩
    · have hone : '.'.utf8Size = 1 := by decide
      rw [Text.byteLength, hsize, hone, List.length_cons, Nat.add_comm]
    · rw [List.cons_append, Token.scanFraction, hsame _ _ hreplaces]
      rfl
  · rw [scanFraction_of_head_ne hpoint] at h
    cases h
    refine ⟨rfl, rfl, fun offset' rest' hreplaces => ?_⟩
    exact scanFraction_of_head_ne (hreplaces.head_ne (by decide) hpoint)

/-- The reader takes a sign or nothing, and which of them is decided by the first character. -/
def TakesSign (reader : List Char → List Char × List Char) : Prop :=
  ∀ s, ∃ sign t, reader s = (sign, t) ∧ s = sign ++ t ∧ Text.byteLength sign = sign.length ∧
    ∀ t', t'.head? = t.head? → reader (sign ++ t') = (sign, t')

lemma takesSign_of_signs {reader : List Char → List Char × List Char} (signs : List Char)
    (hsize : ∀ c ∈ signs, c.utf8Size = 1) (hsome : ∀ c ∈ signs, ∀ t, reader (c :: t) = ([c], t))
    (hnone : ∀ s, (∀ c ∈ signs, s.head? ≠ some c) → reader s = ([], s)) : TakesSign reader := by
  intro s
  by_cases h : ∃ c ∈ signs, s.head? = some c
  · obtain ⟨c, hc, hhead⟩ := h
    obtain ⟨t, rfl⟩ := List.head?_eq_some_iff.1 hhead
    refine ⟨[c], t, hsome c hc t, rfl, ?_, fun t' _ => hsome c hc t'⟩
    simp [Text.byteLength, hsize c hc]
  · have hs : ∀ c ∈ signs, s.head? ≠ some c := fun c hc hhead => h ⟨c, hc, hhead⟩
    refine ⟨[], s, hnone s hs, rfl, rfl, fun t' hhead => hnone t' fun c hc => ?_⟩
    rw [hhead]
    exact hs c hc

lemma takesSign_scanExponentSign : TakesSign Token.scanExponentSign := by
  have hsize : ∀ c ∈ ['+', '-'], c.utf8Size = 1 :=
    List.forall_mem_cons.2 ⟨by decide, List.forall_mem_singleton.2 (by decide)⟩
  refine takesSign_of_signs ['+', '-'] hsize ?_ fun s hs => ?_
  · simp [Token.scanExponentSign]
  · unfold Token.scanExponentSign
    split <;> simp_all

lemma takesSign_scanMinus : TakesSign Token.scanMinus := by
  have hsize : ∀ c ∈ ['-'], c.utf8Size = 1 := List.forall_mem_singleton.2 (by decide)
  refine takesSign_of_signs ['-'] hsize ?_ fun s hs => ?_
  · simp [Token.scanMinus]
  · unfold Token.scanMinus
    split <;> simp_all

lemma head_append {digits : List Char} (h : IsDigits digits) (rest rest' : List Char) :
    (digits ++ rest).head? = (digits ++ rest').head? := by
  obtain ⟨c, cs, rfl⟩ := List.exists_cons_of_ne_nil h.1
  rfl

/-- The letter of an exponent, its sign and its digits. -/
lemma scanPower_append {letter : Char} {offset : Nat} {s found rest : List Char}
    (h : Token.scanPower letter offset s = .ok (found, rest)) :
    ∃ power, found = letter :: power ∧ s = power ++ rest ∧
      Text.byteLength power = power.length ∧
      ∀ offset' rest', Replaces rest rest' →
        Token.scanPower letter offset' (power ++ rest') = .ok (found, rest') := by
  obtain ⟨sign, t, hsign, rfl, hsize, hsame⟩ := takesSign_scanExponentSign s
  rw [Token.scanPower, hsign] at h
  obtain ⟨⟨digits, rest⟩, hdigits, ⟨⟩⟩ := exists_of_bind_eq_ok h
  obtain ⟨rfl, hsize', hdigits'⟩ := isLocal_scanDigits hdigits
  have hnonempty := (isDigits_of_scanDigits hdigits).1
  refine ⟨sign ++ digits, rfl, (List.append_assoc ..).symm, ?_,
    fun offset' rest' hreplaces => ?_⟩
  · rw [Piece.byteLength_append, hsize, hsize', List.length_append]
  · rw [List.append_assoc]
    simp only [Token.scanPower, hsame _ (head_append hnonempty rest' rest),
      hdigits' _ _ hreplaces, bind, Except.bind, pure, Except.pure]

lemma scanExponent_of_head_ne {offset : Nat} {s : List Char} (hlower : s.head? ≠ some 'e')
    (hupper : s.head? ≠ some 'E') : Token.scanExponent offset s = .ok ([], s) := by
  unfold Token.scanExponent
  split
  · exact absurd rfl hlower
  · exact absurd rfl hupper
  · rfl

/-- An exponent behind one of its two letters. -/
lemma scanExponent_letter {letter : Char} (hone : letter.utf8Size = 1)
    (hpower : ∀ offset t, Token.scanExponent offset (letter :: t) =
      Token.scanPower letter (offset + 1) t)
    {offset : Nat} {t found rest : List Char}
    (h : Token.scanExponent offset (letter :: t) = .ok (found, rest)) :
    TakesLocally Token.scanExponent (letter :: t) found rest := by
  rw [hpower] at h
  obtain ⟨power, rfl, rfl, hsize, hsame⟩ := scanPower_append h
  refine ⟨rfl, ?_, fun offset' rest' hreplaces => ?_⟩
  · rw [Text.byteLength, hsize, hone, List.length_cons, Nat.add_comm]
  · rw [List.cons_append, hpower, hsame _ _ hreplaces]

lemma isLocal_scanExponent : IsLocal Token.scanExponent := by
  intro offset s found rest h
  by_cases hlower : s.head? = some 'e'
  · obtain ⟨t, rfl⟩ := List.head?_eq_some_iff.1 hlower
    exact scanExponent_letter (by decide) (fun _ _ => rfl) h
  by_cases hupper : s.head? = some 'E'
  · obtain ⟨t, rfl⟩ := List.head?_eq_some_iff.1 hupper
    exact scanExponent_letter (by decide) (fun _ _ => rfl) h
  rw [scanExponent_of_head_ne hlower hupper] at h
  cases h
  refine ⟨rfl, rfl, fun offset' rest' hreplaces => ?_⟩
  exact scanExponent_of_head_ne (hreplaces.head_ne (by decide) hlower)
    (hreplaces.head_ne (by decide) hupper)

lemma isLocal_scanNumber : IsLocal Token.scanNumber := by
  intro offset s found rest h
  obtain ⟨sign, t, hsign, rfl, hsize, hsame⟩ := takesSign_scanMinus s
  rw [Token.scanNumber, hsign] at h
  obtain ⟨⟨whole, t⟩, hwhole, h⟩ := exists_of_bind_eq_ok h
  obtain ⟨⟨fraction, t⟩, hfraction, h⟩ := exists_of_bind_eq_ok h
  obtain ⟨⟨exponent, t⟩, hexponent, ⟨⟩⟩ := exists_of_bind_eq_ok h
  have hnonempty := (isDigits_of_scanDigits hwhole).1
  obtain ⟨rfl, hwholeSize, hwhole⟩ := isLocal_scanDigits hwhole
  obtain ⟨rfl, hfractionSize, hfraction⟩ := isLocal_scanFraction hfraction
  obtain ⟨rfl, hexponentSize, hexponent⟩ := isLocal_scanExponent hexponent
  refine ⟨by simp only [List.append_assoc], ?_, fun offset' rest' hreplaces => ?_⟩
  · simp only [Piece.byteLength_append, List.length_append, hsize, hwholeSize, hfractionSize,
      hexponentSize]
  · have hreplaces' := hreplaces.append exponent
    simp only [List.append_assoc]
    simp only [Token.scanNumber, hsame _ (head_append hnonempty _ _),
      hwhole _ _ (hreplaces'.append fraction), hfraction _ _ hreplaces', hexponent _ _ hreplaces,
      bind, Except.bind, pure, Except.pure, List.append_assoc]

/-! ## Strings -/

lemma utf8Size_of_hexValue? {c : Char} {n : Nat} (h : Text.hexValue? c = some n) :
    c.utf8Size = 1 := by
  have hascii : ∀ d : Char, d.toNat < 0x80 → c ≤ d → c.utf8Size = 1 := by
    intro d hd hle
    have hval : c.val.toNat ≤ d.val.toNat := hle
    have hd' : d.val.toNat < 0x80 := hd
    rw [Char.utf8Size_eq_one_iff, UInt32.le_iff_toNat_le]
    show c.val.toNat ≤ 127
    omega
  unfold Text.hexValue? at h
  split at h
  · rename_i hdigit
    exact utf8Size_of_isDigit hdigit
  split at h
  · rename_i hlower
    simp only [Bool.and_eq_true, decide_eq_true_eq] at hlower
    exact hascii 'f' (by decide) hlower.2
  split at h
  · rename_i hupper
    simp only [Bool.and_eq_true, decide_eq_true_eq] at hupper
    exact hascii 'F' (by decide) hupper.2
  · cases h

/-- The text starts with `n` characters, each of one byte, that the reader turns into the same
result before every text. -/
def ReadsHead {α : Type} (reader : List Char → α) (s : List Char) (n : Nat) (result : α) : Prop :=
  ∃ written rest, s = written ++ rest ∧ written.length = n ∧ Text.byteLength written = n ∧
    ∀ rest', reader (written ++ rest') = result

lemma ReadsHead.cons {α β : Type} {reader : List Char → α} {reader' : List Char → β} {c : Char}
    {s : List Char} {n : Nat} {result : α} (f : α → β) (hone : c.utf8Size = 1)
    (h : ReadsHead reader s n result) (hf : ∀ t, reader' (c :: t) = f (reader t)) :
    ReadsHead reader' (c :: s) (n + 1) (f result) := by
  obtain ⟨written, rest, rfl, hlength, hsize, hsame⟩ := h
  refine ⟨c :: written, rest, rfl, by simp [hlength], ?_, fun rest' => ?_⟩
  · rw [Text.byteLength, hone, hsize, Nat.add_comm]
  · rw [List.cons_append, hf, hsame]

lemma scanHex4_append {s rest : List Char} {code : Nat}
    (h : Text.scanHex4 s = some (code, rest)) :
    ∃ written, s = written ++ rest ∧ written.length = 4 ∧ Text.byteLength written = 4 ∧
      ∀ rest', Text.scanHex4 (written ++ rest') = some (code, rest') := by
  unfold Text.scanHex4 at h
  split at h
  · rename_i a b c d t
    simp only [bind, Option.bind_eq_some_iff, pure, Option.some.injEq, Prod.mk.injEq] at h
    obtain ⟨va, ha, vb, hb, vc, hc, vd, hd, hcode, rfl⟩ := h
    refine ⟨[a, b, c, d], rfl, rfl, ?_, fun rest' => ?_⟩
    · simp [Text.byteLength, utf8Size_of_hexValue? ha, utf8Size_of_hexValue? hb,
        utf8Size_of_hexValue? hc, utf8Size_of_hexValue? hd]
    · simp [Text.scanHex4, ha, hb, hc, hd, hcode]
  · cases h

lemma readsHead_decodeLowSurrogate {high : Nat} {s : List Char} {c : Char}
    (h : Token.decodeLowSurrogate high s = .ok c) :
    ReadsHead (Token.decodeLowSurrogate high) s 6 (.ok c) := by
  unfold Token.decodeLowSurrogate at h
  split at h
  · split at h
    · cases h
    · rename_i low rest hscan
      obtain ⟨written, rfl, hlength, hsize, hsame⟩ := scanHex4_append hscan
      refine ⟨'\\' :: 'u' :: written, rest, rfl, by simp [hlength], ?_, fun rest' => ?_⟩
      · have hbackslash : '\\'.utf8Size = 1 := by decide
        have hletter : 'u'.utf8Size = 1 := by decide
        simp [Text.byteLength, hbackslash, hletter, hsize]
      · rw [List.cons_append, List.cons_append, Token.decodeLowSurrogate, hsame]
        exact h
  · cases h

lemma readsHead_decodeUnicode {s : List Char} {c : Char} {n : Nat}
    (h : Token.decodeUnicode s = .ok (c, n)) : ReadsHead Token.decodeUnicode s n (.ok (c, n)) := by
  unfold Token.decodeUnicode at h
  split at h
  · cases h
  rename_i code rest hscan
  obtain ⟨written, rfl, hlength, hsize, hsame⟩ := scanHex4_append hscan
  split_ifs at h with hhigh hlow
  · obtain ⟨d, hpair, ⟨⟩⟩ := exists_of_map_eq_ok h
    obtain ⟨low, rest, rfl, hlength', hsize', hpair⟩ := readsHead_decodeLowSurrogate hpair
    refine ⟨written ++ low, rest, (List.append_assoc ..).symm, ?_, ?_, fun rest' => ?_⟩
    · rw [List.length_append, hlength, hlength']
    · rw [Piece.byteLength_append, hsize, hsize']
    · simp only [Token.decodeUnicode, List.append_assoc, hsame, hhigh, if_true, hpair, Except.map]
  · obtain ⟨d, hcode, ⟨⟩⟩ := exists_of_map_eq_ok h
    refine ⟨written, rest, rfl, hlength, hsize, fun rest' => ?_⟩
    simp only [Token.decodeUnicode, hsame, hhigh, hlow, hcode, Bool.false_eq_true, if_false,
      Except.map]

lemma decodeEscape_letter {quote : Char} (hquote : IsQuote quote) (t : List Char) :
    Token.decodeEscape quote ('u' :: t) =
      (Token.decodeUnicode t).map fun (c, n) => (c, n + 1) := by
  simp [Token.decodeEscape, hquote.ne_letter.symm]

/-- An escape of one character is a quote or a letter. -/
lemma decodeEscape_short {quote c d : Char} {t : List Char} {n : Nat} (hone : quote.utf8Size = 1)
    (hd : d ≠ 'u') (h : Token.decodeEscape quote (d :: t) = .ok (c, n)) :
    n = 1 ∧ d.utf8Size = 1 := by
  rw [Token.decodeEscape, if_neg hd] at h
  split_ifs at h <;> rename_i heq <;> cases h <;> refine ⟨rfl, ?_⟩ <;> rw [heq]
  all_goals first | decide | exact hone

lemma readsHead_decodeEscape {quote : Char} (hquote : IsQuote quote)
    (hone : quote.utf8Size = 1) {s : List Char} {c : Char} {n : Nat}
    (h : Token.decodeEscape quote s = .ok (c, n)) :
    ReadsHead (Token.decodeEscape quote) s n (.ok (c, n)) := by
  cases s with
  | nil => cases h
  | cons d t =>
    by_cases hd : d = 'u'
    · subst hd
      rw [decodeEscape_letter hquote] at h
      obtain ⟨⟨c, n⟩, hcode, ⟨⟩⟩ := exists_of_map_eq_ok h
      exact (readsHead_decodeUnicode hcode).cons (Except.map fun (c, n) => (c, n + 1))
        (by decide) (decodeEscape_letter hquote)
    · obtain ⟨rfl, hsize⟩ := decodeEscape_short hone hd h
      refine ⟨[d], t, rfl, rfl, by simp [Text.byteLength, hsize], fun rest' => ?_⟩
      rw [← h, List.singleton_append]
      simp only [Token.decodeEscape, hd, if_false]

/-- The text starts with the rest of a string, up to its closing quote, which is of `width` bytes
and is read in the same way at every position and before every text. -/
def ReadsString (quote : Char) (read s : List Char) (width : Nat) (value : String)
    (rest : List Char) : Prop :=
  ∃ written, s = written ++ rest ∧ Text.byteLength written = width ∧
    ∀ start offset rest', Token.scanString quote start offset read (written ++ rest') =
      .ok (value, offset + width, rest')

lemma ReadsString.unit {quote c : Char} {unit read s rest : List Char} {width : Nat}
    {value : String} (hunit : ReadsUnit quote c unit)
    (h : ReadsString quote (c :: read) s width value rest) :
    ReadsString quote read (unit ++ s) (Text.byteLength unit + width) value rest := by
  obtain ⟨written, rfl, hsize, hsame⟩ := h
  refine ⟨unit ++ written, (List.append_assoc ..).symm, ?_, fun start offset rest' => ?_⟩
  · rw [Piece.byteLength_append, hsize]
  · rw [List.append_assoc, hunit, hsame, Nat.add_assoc]

lemma readsString_close {quote : Char} (hone : quote.utf8Size = 1) (read rest : List Char) :
    ReadsString quote read (quote :: rest) 1 (String.ofList read.reverse) rest := by
  refine ⟨[quote], rfl, by simp [Text.byteLength, hone], fun start offset rest' => ?_⟩
  rw [List.singleton_append, Token.scanString, if_pos rfl]

lemma exists_of_scanString {quote : Char} (hquote : IsQuote quote) (hone : quote.utf8Size = 1)
    {start offset stop : Nat} {read s rest : List Char} {value : String}
    (h : Token.scanString quote start offset read s = .ok (value, stop, rest)) :
    ∃ width, stop = offset + width ∧ ReadsString quote read s width value rest := by
  fun_induction Token.scanString quote start offset read s with
  | case1 => cases h
  | case2 =>
    cases h
    exact ⟨1, rfl, readsString_close hone _ _⟩
  | case3 => cases h
  | case4 offset read t c n hescape _ ih =>
    obtain ⟨width, rfl, hrest⟩ := ih h
    obtain ⟨letters, tail, rfl, rfl, hsize, hsame⟩ := readsHead_decodeEscape hquote hone hescape
    rw [List.drop_left] at hrest
    have hunit := readsUnit_escape hquote hsize hsame
    have hbackslash : '\\'.utf8Size = 1 := by decide
    refine ⟨_, ?_, hrest.unit hunit⟩
    simp only [Text.byteLength, hbackslash, hsize, Nat.add_assoc]
  | case5 => cases h
  | case6 offset read c t hne hbackslash hcontrol ih =>
    obtain ⟨width, rfl, hrest⟩ := ih h
    have hunit := readsUnit_plain hne hbackslash hcontrol
    refine ⟨_, ?_, hrest.unit hunit⟩
    simp [Text.byteLength, Nat.add_assoc]

/-! ## Tokens -/

/-- The text starts with a token of `width` bytes, which is scanned at every position and before
everything that may replace the text behind it. -/
def ScansLocally (s : List Char) (token : Token) (width : Nat) (rest : List Char) : Prop :=
  ∃ c cs, s = c :: (cs ++ rest) ∧ Token.isBlank c = false ∧ Text.byteLength (c :: cs) = width ∧
    ∀ offset rest', Replaces rest rest' →
      Token.scan offset c (cs ++ rest') = .ok (token, offset + width, rest')

section Tokens

variable {offset stop : Nat} {c : Char} {s rest : List Char} {token : Token}

/-- A sign with a longer form, which an equal sign makes of it. -/
lemma scansLocally_withEqual (bare withEqual : Token) (hone : c.utf8Size = 1)
    (hblank : Token.isBlank c = false)
    (hscan : ∀ offset s, Token.scan offset c s =
      .ok (Token.scanWithEqual bare withEqual offset s))
    (h : Token.scanWithEqual bare withEqual offset s = (token, stop, rest)) :
    ∃ width, stop = offset + width ∧ ScansLocally (c :: s) token width rest := by
  have hbare : ∀ offset s, s.head? ≠ some '=' →
      Token.scanWithEqual bare withEqual offset s = (bare, offset + 1, s) := by
    intro offset s hs
    unfold Token.scanWithEqual
    split
    · exact absurd rfl hs
    · rfl
  by_cases hs : s.head? = some '='
  · obtain ⟨t, rfl⟩ := List.head?_eq_some_iff.1 hs
    cases h
    have hequal : '='.utf8Size = 1 := by decide
    refine ⟨2, rfl, c, ['='], rfl, hblank, by simp [Text.byteLength, hone, hequal], ?_⟩
    exact fun offset rest' _ => hscan offset ('=' :: rest')
  · rw [hbare offset s hs] at h
    cases h
    refine ⟨1, rfl, c, [], rfl, hblank, by simp [Text.byteLength, hone], ?_⟩
    intro offset rest' hreplaces
    rw [List.nil_append, hscan, hbare offset rest' (hreplaces.head_ne (by decide) hs)]

lemma scansLocally_doubled {what : Expectation} (hone : c.utf8Size = 1)
    (hblank : Token.isBlank c = false)
    (hscan : ∀ offset s, Token.scan offset c s = Token.scanDoubled c token what offset s)
    {token' : Token} (h : Token.scanDoubled c token what offset s = .ok (token', stop, rest)) :
    ∃ width, stop = offset + width ∧ ScansLocally (c :: s) token' width rest := by
  unfold Token.scanDoubled at h
  split at h
  · split at h
    · rename_i t heq
      cases h
      subst heq
      refine ⟨2, rfl, _, [_], rfl, hblank, by simp [Text.byteLength, hone], ?_⟩
      intro offset rest' _
      rw [hscan, List.singleton_append, Token.scanDoubled, if_pos rfl]
    · cases h
  · cases h

lemma scan_dot_of_head_ne (h : s.head? ≠ some '.') (offset : Nat) :
    Token.scan offset '.' s = .ok (.dot, offset + 1, s) := by
  unfold Token.scan
  split
  case h_11 =>
    split
    · exact absurd rfl h
    · rfl
  all_goals simp_all

lemma scansLocally_dot (h : Token.scan offset '.' s = .ok (token, stop, rest)) :
    ∃ width, stop = offset + width ∧ ScansLocally ('.' :: s) token width rest := by
  by_cases hs : s.head? = some '.'
  · obtain ⟨t, rfl⟩ := List.head?_eq_some_iff.1 hs
    cases h
    exact ⟨2, rfl, '.', ['.'], rfl, by decide, by decide, fun _ _ _ => rfl⟩
  · rw [scan_dot_of_head_ne hs] at h
    cases h
    refine ⟨1, rfl, '.', [], rfl, by decide, by decide, fun offset rest' hreplaces => ?_⟩
    exact scan_dot_of_head_ne (hreplaces.head_ne (by decide) hs) offset

lemma isQuote_of_eq (hquote : c = '\'' ∨ c = '"') : IsQuote c := by
  rcases hquote with rfl | rfl
  · exact isQuote_single
  · exact isQuote_double

/-- A quote starts a string. -/
lemma scan_quote (hquote : c = '\'' ∨ c = '"') (offset : Nat) (s : List Char) :
    Token.scan offset c s =
      (Token.scanString c offset (offset + 1) [] s).map fun (value, stop, rest) =>
        (.string value, stop, rest) := by
  have hmem : c ∉ signChars := by rcases hquote with rfl | rfl <;> decide
  rw [scan_of_not_mem hmem, if_pos (by simpa using hquote)]

lemma scansLocally_quoted (hquote : c = '\'' ∨ c = '"')
    (h : Token.scan offset c s = .ok (token, stop, rest)) :
    ∃ width, stop = offset + width ∧ ScansLocally (c :: s) token width rest := by
  have hblank : Token.isBlank c = false := by rcases hquote with rfl | rfl <;> decide
  have hone : c.utf8Size = 1 := by rcases hquote with rfl | rfl <;> decide
  rw [scan_quote hquote] at h
  obtain ⟨⟨value, stop, rest⟩, hstring, ⟨⟩⟩ := exists_of_map_eq_ok h
  obtain ⟨width, rfl, written, rfl, hsize, hsame⟩ :=
    exists_of_scanString (isQuote_of_eq hquote) hone hstring
  refine ⟨1 + width, Nat.add_assoc .., c, written, rfl, hblank, ?_, ?_⟩
  · rw [Text.byteLength, hone, hsize]
  · intro offset rest' _
    rw [scan_quote hquote, hsame, Nat.add_assoc]
    rfl

/-- A minus sign or a digit starts a number. -/
lemma scan_number (hfirst : c = '-' ∨ c.isDigit) (offset : Nat) (s : List Char) :
    Token.scan offset c s =
      (Token.scanNumber offset (c :: s)).map fun (lexeme, rest) =>
        (.number (String.ofList lexeme), offset + lexeme.length, rest) := by
  have hquote : ¬(c = '\'' ∨ c = '"') := by rintro (rfl | rfl) <;> simp +decide at hfirst
  rw [scan_of_not_mem (not_mem_signChars_of_isDigit hfirst), if_neg (by simpa using hquote),
    if_pos (by simpa using hfirst)]

lemma scansLocally_number (hfirst : c = '-' ∨ c.isDigit)
    (h : Token.scan offset c s = .ok (token, stop, rest)) :
    ∃ width, stop = offset + width ∧ ScansLocally (c :: s) token width rest := by
  rw [scan_number hfirst] at h
  obtain ⟨⟨lexeme, rest⟩, hnumber, ⟨⟩⟩ := exists_of_map_eq_ok h
  have hlength := Token.length_of_scanNumber hnumber
  obtain ⟨hs, hsize, hsame⟩ := isLocal_scanNumber hnumber
  cases lexeme with
  | nil =>
    rw [hs] at hlength
    exact absurd hlength (Nat.lt_irrefl _)
  | cons d digits =>
    rw [List.cons_append, List.cons.injEq] at hs
    obtain ⟨rfl, rfl⟩ := hs
    have hname : c = '-' ∨ Token.isNameChar c := hfirst.imp_right isNameChar_of_isDigit
    refine ⟨_, rfl, c, digits, rfl, isBlank_of_isNameChar hname, hsize, ?_⟩
    intro offset rest' hreplaces
    rw [scan_number hfirst, ← List.cons_append, hsame offset rest' hreplaces]
    rfl

/-- The first character of a word starts the longest word that there is. -/
lemma scan_word (hfirst : Token.isNameFirst c) (offset : Nat) (s : List Char) :
    Token.scan offset c s =
      .ok (.ofWord (String.ofList (c :: s.takeWhile Token.isNameChar)),
        offset + Text.byteLength (c :: s.takeWhile Token.isNameChar),
        s.dropWhile Token.isNameChar) := by
  have hmem : c ∉ signChars := fun h => by simp [isNameFirst_of_mem_signChars c h] at hfirst
  have hquote : ¬(c = '\'' ∨ c = '"') := by rintro (rfl | rfl) <;> simp +decide at hfirst
  have hnumber : ¬(c = '-' ∨ c.isDigit) := by
    rintro (rfl | hdigit)
    · simp +decide at hfirst
    · simp [isDigit_of_isNameFirst hfirst] at hdigit
  rw [scan_of_not_mem hmem, if_neg (by simpa using hquote), if_neg (by simpa using hnumber),
    if_pos hfirst]

lemma scansLocally_word (hfirst : Token.isNameFirst c)
    (h : Token.scan offset c s = .ok (token, stop, rest)) :
    ∃ width, stop = offset + width ∧ ScansLocally (c :: s) token width rest := by
  have hblank : Token.isBlank c = false :=
    isBlank_of_isNameChar (.inr (by simp [Token.isNameChar, hfirst]))
  rw [scan_word hfirst] at h
  cases h
  refine ⟨_, rfl, c, s.takeWhile Token.isNameChar, ?_, hblank, rfl, ?_⟩
  · rw [List.takeWhile_append_dropWhile]
  · intro offset rest' hreplaces
    have hword : ∀ d ∈ s.takeWhile Token.isNameChar, Token.isNameChar d :=
      fun d hd => List.mem_takeWhile_imp hd
    have hrest := hreplaces.avoids (fun _ => isNameChar_of_isBlank) (head_dropWhile s)
    rw [scan_word hfirst, List.takeWhile_append_of_pos hword, List.dropWhile_append_of_pos hword]
    cases rest' with
    | nil => simp
    | cons d rest' => simp [hrest d (by simp)]

/-- What is scanned of a text depends on the text up to the end of the token and on the character
behind it only. -/
theorem scansLocally_of_scan (hblank : Token.isBlank c = false)
    (h : Token.scan offset c s = .ok (token, stop, rest)) :
    ∃ width, stop = offset + width ∧ ScansLocally (c :: s) token width rest := by
  have h' := h
  unfold Token.scan at h
  split at h
  case h_11 => exact scansLocally_dot h'
  case h_12 => exact scansLocally_doubled (by decide) (by decide) (fun _ _ => rfl) h
  case h_13 => exact scansLocally_doubled (by decide) (by decide) (fun _ _ => rfl) h
  case h_14 => exact scansLocally_doubled (by decide) (by decide) (fun _ _ => rfl) h
  case h_15 =>
    exact scansLocally_withEqual _ _ (by decide) (by decide) (fun _ _ => rfl) (Except.ok.inj h)
  case h_16 =>
    exact scansLocally_withEqual _ _ (by decide) (by decide) (fun _ _ => rfl) (Except.ok.inj h)
  case h_17 =>
    exact scansLocally_withEqual _ _ (by decide) (by decide) (fun _ _ => rfl) (Except.ok.inj h)
  case h_18 =>
    split_ifs at h with hquote hnumber hword
    · exact scansLocally_quoted (by simpa using hquote) h'
    · exact scansLocally_number (by simpa using hnumber) h'
    · exact scansLocally_word hword h'
  all_goals
    cases h
    exact ⟨1, rfl, _, [], rfl, by decide, by decide, fun _ _ _ => rfl⟩

end Tokens

end JsonPath
