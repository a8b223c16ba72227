import JsonPath.Proofs.Canonical.Numeral
import JsonPath.Proofs.Canonical.Spelling

/-!
# Scanning canonical text

The scanner cuts the canonical text of a writable query into the tokens of its pieces
(`Query.scanAll_text`).  A token takes as many characters as it can, so whether a piece is read
depends on what follows: `Piece.Scans` says that a piece is read before a given text, and
`Piece.AllScan` that each piece of a list is read before the pieces after it.
-/

namespace JsonPath

/-! ## Quoted strings -/

/-- The characters `written` between quotes `quote` are read as the character `c`. -/
def ReadsUnit (quote c : Char) (written : List Char) : Prop :=
  ∀ (start offset : Nat) (read rest : List Char),
    Token.scanString quote start offset read (written ++ rest) =
      Token.scanString quote start (offset + Text.byteLength written) (c :: read) rest

/-- Both quotes differ from the backslash and from the letter of a code. -/
structure IsQuote (quote : Char) : Prop where
  ne_backslash : quote ≠ '\\'
  ne_letter : quote ≠ 'u'

lemma readsUnit_plain {quote c : Char} (hquote : c ≠ quote) (hbackslash : c ≠ '\\')
    (hcontrol : ¬ c.toNat < 0x20) : ReadsUnit quote c [c] := by
  intro start offset read rest
  rw [List.singleton_append, Token.scanString]
  simp [hquote, hbackslash, hcontrol, Text.byteLength]

lemma readsUnit_escape {quote c : Char} {written : List Char} (hquote : IsQuote quote)
    (hwritten : Text.byteLength written = written.length)
    (h : ∀ rest, Token.decodeEscape quote (written ++ rest) = .ok (c, written.length)) :
    ReadsUnit quote c ('\\' :: written) := by
  intro start offset read rest
  rw [List.cons_append, Token.scanString]
  have hsize : '\\'.utf8Size = 1 := by decide
  simp [hquote.ne_backslash.symm, h, Text.byteLength, hwritten, hsize, Nat.add_assoc]

/-- A letter of one of the short escapes. -/
lemma readsUnit_short {quote c d : Char} (hquote : IsQuote quote) (hsize : d.utf8Size = 1)
    (h : ∀ rest, Token.decodeEscape quote (d :: rest) = .ok (c, 1)) :
    ReadsUnit quote c ['\\', d] :=
  readsUnit_escape hquote (by simp [Text.byteLength, hsize]) h

lemma hexValue?_hexDigit : ∀ n < 16, Text.hexValue? (Text.hexDigit n) = some n := by decide

lemma utf8Size_hexDigit : ∀ n < 16, (Text.hexDigit n).utf8Size = 1 := by decide

lemma decodeUnicode_control {c : Char} (h : c.toNat < 0x20) (rest : List Char) :
    Token.decodeUnicode ('0' :: '0' :: Text.hexDigit (c.toNat / 16) ::
      Text.hexDigit (c.toNat % 16) :: rest) = .ok (c, 4) := by
  have hhigh := hexValue?_hexDigit (c.toNat / 16) (by omega)
  have hlow := hexValue?_hexDigit (c.toNat % 16) (by omega)
  have hzero : Text.hexValue? '0' = some 0 := by decide
  have hcode : ((0 * 16 + 0) * 16 + c.toNat / 16) * 16 + c.toNat % 16 = c.toNat := by omega
  have hscan : Text.scanHex4 ('0' :: '0' :: Text.hexDigit (c.toNat / 16) ::
      Text.hexDigit (c.toNat % 16) :: rest) = some (c.toNat, rest) := by
    simp only [Text.scanHex4, hhigh, hlow, hzero, bind, Option.bind, pure, hcode]
  have hhighHalf : Text.isHighSurrogate c.toNat = false := by
    simp only [Text.isHighSurrogate, Bool.and_eq_false_iff, decide_eq_false_iff_not]
    omega
  have hlowHalf : Text.isLowSurrogate c.toNat = false := by
    simp only [Text.isLowSurrogate, Bool.and_eq_false_iff, decide_eq_false_iff_not]
    omega
  have hvalid : c.toNat.isValidChar := c.valid
  unfold Token.decodeUnicode
  rw [hscan]
  simp [hhighHalf, hlowHalf, Token.ofCode, hvalid, Except.map]

/-- A control character written by its code. -/
lemma readsUnit_control {quote c : Char} (hquote : IsQuote quote) (h : c.toNat < 0x20) :
    ReadsUnit quote c
      ['\\', 'u', '0', '0', Text.hexDigit (c.toNat / 16), Text.hexDigit (c.toNat % 16)] := by
  have hhigh := utf8Size_hexDigit (c.toNat / 16) (by omega)
  have hlow := utf8Size_hexDigit (c.toNat % 16) (by omega)
  refine readsUnit_escape hquote ?_ fun rest => ?_
  · simp only [Text.byteLength, hhigh, hlow, List.length_cons, List.length_nil]
    decide
  · simp only [List.cons_append, List.nil_append, Token.decodeEscape, Char.reduceEq, if_false,
      hquote.ne_letter.symm, if_true, decodeUnicode_control h, Except.map, List.length_cons,
      List.length_nil]

lemma isQuote_single : IsQuote '\'' := ⟨by decide, by decide⟩

lemma isQuote_double : IsQuote '"' := ⟨by decide, by decide⟩

/-- A character of a name is read as itself. -/
lemma readsUnit_escapeNameChar (c : Char) : ReadsUnit '\'' c (Text.escapeNameChar c) := by
  have short := @readsUnit_short '\''
  unfold Text.escapeNameChar
  split
  case h_8 hquote hbackslash _ _ _ _ _ =>
    split_ifs with hcontrol
    · exact readsUnit_control isQuote_single hcontrol
    · exact readsUnit_plain hquote hbackslash hcontrol
  all_goals exact short isQuote_single (by decide) fun _ => rfl

/-- A character of a string literal is read as itself. -/
lemma readsUnit_escapeChar (c : Char) : ReadsUnit '"' c (Json.escapeChar c) := by
  have short := @readsUnit_short '"'
  unfold Json.escapeChar
  split
  case h_8 hquote hbackslash _ _ _ _ _ =>
    split_ifs with hcontrol
    · exact readsUnit_control isQuote_double hcontrol
    · exact readsUnit_plain hquote hbackslash hcontrol
  all_goals exact short isQuote_double (by decide) fun _ => rfl

/-- A string whose characters are read as themselves is read up to its closing quote. -/
lemma scanString_escaped {quote : Char} {escape : Char → List Char}
    (h : ∀ c, ReadsUnit quote c (escape c)) (start offset : Nat) (read s rest : List Char) :
    Token.scanString quote start offset read (s.flatMap escape ++ quote :: rest) =
      .ok (String.ofList (read.reverse ++ s),
        offset + Text.byteLength (s.flatMap escape) + 1, rest) := by
  induction s generalizing offset read with
  | nil =>
    rw [List.flatMap_nil, List.nil_append, Token.scanString]
    simp [Text.byteLength]
  | cons c s ih =>
    rw [List.flatMap_cons, List.append_assoc, h c start offset read, ih]
    simp [Piece.byteLength_append, Nat.add_assoc]

/-! ## Words and numbers -/

/-- The characters that start a sign of the language. -/
def signChars : List Char :=
  ['$', '@', '[', ']', '(', ')', ',', ':', '?', '*', '.', '=', '&', '|', '!', '<', '>']

/-- A character that starts no sign starts a string, a number or a word. -/
lemma scan_of_not_mem {c : Char} (h : c ∉ signChars) (offset : Nat) (rest : List Char) :
    Token.scan offset c rest =
      if c = '\'' || c = '"' then
        (Token.scanString c offset (offset + 1) [] rest).map fun (value, stop, rest) =>
          (.string value, stop, rest)
      else if c = '-' || c.isDigit then
        (Token.scanNumber offset (c :: rest)).map fun (lexeme, rest) =>
          (.number (String.ofList lexeme), offset + lexeme.length, rest)
      else if Token.isNameFirst c then
        .ok (.ofWord (String.ofList (c :: rest.takeWhile Token.isNameChar)),
          offset + Text.byteLength (c :: rest.takeWhile Token.isNameChar),
          rest.dropWhile Token.isNameChar)
      else .error ⟨offset, .expected .anyToken⟩ := by
  unfold Token.scan
  split
  case h_18 => rfl
  all_goals exact absurd h (by decide)

lemma isDigit_of_mem_signChars : ∀ c ∈ signChars, c.isDigit = false := by simp [signChars]

lemma isNameFirst_of_mem_signChars : ∀ c ∈ signChars, Token.isNameFirst c = false := by
  simp [signChars, Token.isNameFirst]

lemma toNat_of_isDigit {c : Char} (h : c.isDigit) : 48 ≤ c.toNat ∧ c.toNat ≤ 57 :=
  Char.isDigit_iff_toNat.mp h

/-- A letter, an underscore or a character beyond ASCII is no digit. -/
lemma isDigit_of_isNameFirst {c : Char} (h : Token.isNameFirst c) : c.isDigit = false := by
  cases hdigit : c.isDigit with
  | false => rfl
  | true =>
    obtain ⟨hlow, hhigh⟩ := toNat_of_isDigit hdigit
    have hcodes : ∀ n < 58, 48 ≤ n → Token.isNameFirst (Char.ofNat n) = false := by decide
    have := hcodes c.toNat (by omega) hlow
    rw [Char.ofNat_toNat] at this
    simp [this] at h

lemma utf8Size_of_isDigit {c : Char} (h : c.isDigit) : c.utf8Size = 1 := by
  have hhigh : c.val.toNat ≤ 57 := (toNat_of_isDigit h).2
  rw [Char.utf8Size_eq_one_iff, UInt32.le_iff_toNat_le]
  exact Nat.le_trans hhigh (by decide)

lemma byteLength_eq_length {s : List Char} (h : ∀ c ∈ s, c.utf8Size = 1) :
    Text.byteLength s = s.length := by
  induction s with
  | nil => rfl
  | cons c s ih =>
    rw [Text.byteLength, h c (by simp), ih fun d hd => h d (by simp [hd]), List.length_cons,
      Nat.add_comm]

/-- Each character of a numeral is a digit or one of its few signs. -/
lemma IsNumeral.mem {s : List Char} (h : IsNumeral s) :
    ∀ c ∈ s, c.isDigit ∨ c ∈ ['-', '+', '.', 'e'] := by
  obtain ⟨t, ⟨whole, fraction, exponent, hwhole, hfraction, hexponent, rfl⟩, hs⟩ := h
  have ht : ∀ c ∈ whole ++ (fraction ++ exponent), c.isDigit ∨ c ∈ ['-', '+', '.', 'e'] := by
    intro c hc
    simp only [List.mem_append] at hc
    rcases hc with hc | hc | hc
    · exact .inl (hwhole.2 c hc)
    · rcases hfraction with rfl | ⟨digits, hdigits, rfl⟩
      · simp at hc
      · rcases List.mem_cons.mp hc with rfl | hc
        · simp
        · exact .inl (hdigits.2 c hc)
    · rcases hexponent with rfl | ⟨sign, digits, hsign, hdigits, rfl⟩
      · simp at hc
      · simp only [List.mem_cons] at hc
        rcases hc with rfl | rfl | hc
        · simp
        · rcases hsign with rfl | rfl <;> simp
        · exact .inl (hdigits.2 c hc)
  rcases hs with rfl | rfl
  · exact ht
  · intro c hc
    rcases List.mem_cons.mp hc with rfl | hc
    · simp
    · exact ht c hc

lemma IsNumeral.byteLength_eq {s : List Char} (h : IsNumeral s) :
    Text.byteLength s = s.length := by
  refine byteLength_eq_length fun c hc => ?_
  rcases h.mem c hc with hdigit | hsign
  · exact utf8Size_of_isDigit hdigit
  · have hsize : ∀ d ∈ ['-', '+', '.', 'e'], d.utf8Size = 1 := by simp [Char.utf8Size]
    exact hsize c hsign

/-- A numeral starts with a digit or a minus. -/
lemma IsNumeral.exists_cons {s : List Char} (h : IsNumeral s) :
    ∃ c cs, s = c :: cs ∧ (c = '-' ∨ c.isDigit) := by
  obtain ⟨t, ⟨whole, fraction, exponent, hwhole, -, -, rfl⟩, hs⟩ := h
  obtain ⟨c, cs, rfl⟩ := List.exists_cons_of_ne_nil hwhole.1
  rcases hs with rfl | rfl
  · exact ⟨c, _, rfl, .inr (hwhole.2 c (by simp))⟩
  · exact ⟨'-', _, rfl, .inl rfl⟩

lemma not_mem_signChars_of_isDigit {c : Char} (h : c = '-' ∨ c.isDigit) : c ∉ signChars := by
  intro hmem
  rcases h with rfl | h
  · exact absurd hmem (by decide)
  · simp [isDigit_of_mem_signChars c hmem] at h

lemma isBlank_of_isNameChar {c : Char} (h : c = '-' ∨ Token.isNameChar c) :
    Token.isBlank c = false := by
  have hblank : ∀ d ∈ [' ', '\t', '\n', '\r'], ¬(d = '-' ∨ Token.isNameChar d) := by
    simp [Token.isNameChar, Token.isNameFirst]
  cases hc : Token.isBlank c with
  | false => rfl
  | true =>
    refine (hblank c ?_ h).elim
    simpa [Token.isBlank, or_assoc] using hc

/-! ## Pieces -/

namespace Piece

/-- The scanner reads the piece when `rest` follows it. -/
def Scans : Piece → List Char → Prop
  | .blank, _ => True
  | .lexeme token written, rest =>
    ∃ c cs, written = c :: cs ∧ Token.isBlank c = false ∧
      ∀ offset, Token.scan offset c (cs ++ rest) =
        .ok (token, offset + Text.byteLength written, rest)

/-- The scanner reads all pieces of a list when `rest` follows the last one. -/
def AllScan : List Piece → List Char → Prop
  | [], _ => True
  | p :: ps, rest => p.Scans (allChars ps ++ rest) ∧ AllScan ps rest

lemma allScan_append {ps qs : List Piece} {rest : List Char} :
    AllScan (ps ++ qs) rest ↔ AllScan ps (allChars qs ++ rest) ∧ AllScan qs rest := by
  induction ps with
  | nil => simp [AllScan]
  | cons p ps ih => simp [AllScan, ih, and_assoc]

/-- What the scanner makes of pieces that it reads: their tokens, in their places. -/
lemma scanFrom_allChars {ps : List Piece} {rest : List Char} (h : AllScan ps rest)
    (offset : Nat) :
    Token.scanFrom offset (allChars ps ++ rest) =
      (Token.scanFrom (offset + width ps) rest).map (place offset ps ++ ·) := by
  induction ps generalizing offset with
  | nil =>
    rw [allChars_nil, List.nil_append, width_nil, Nat.add_zero]
    cases Token.scanFrom offset rest <;> rfl
  | cons p ps ih =>
    obtain ⟨hp, hps⟩ := h
    cases p with
    | blank =>
      have hblank : Token.isBlank ' ' = true := by decide
      rw [allChars_blank, List.cons_append, Token.scanFrom, hblank, if_pos rfl, ih hps, place,
        width_blank, Nat.add_assoc]
    | lexeme token written =>
      obtain ⟨c, cs, rfl, hblank, hscan⟩ := hp
      rw [allChars_lexeme, List.append_assoc, List.cons_append, Token.scanFrom, hblank]
      simp only [Bool.false_eq_true, if_false]
      split
      · rename_i e he
        rw [hscan] at he
        simp at he
      · rename_i token' stop rest' he
        rw [hscan, Except.ok.injEq, Prod.mk.injEq, Prod.mk.injEq] at he
        obtain ⟨rfl, rfl, rfl⟩ := he
        rw [ih hps, place, width_lexeme, Nat.add_assoc]
        cases Token.scanFrom (offset + (Text.byteLength (c :: cs) + width ps)) rest <;> rfl

end Piece

/-! ## Written tokens -/

namespace Piece

/-- The signs that go on with no following character. -/
def closedSigns : List (Token × List Char) :=
  [(.root, ['$']), (.current, ['@']), (.doubleDot, ['.', '.']), (.leftBracket, ['[']),
    (.rightBracket, [']']), (.leftParen, ['(']), (.rightParen, [')']), (.comma, [',']),
    (.colon, [':']), (.question, ['?']), (.star, ['*']), (.and, ['&', '&']), (.or, ['|', '|'])]

lemma scans_closed {token : Token} {written : List Char} (h : (token, written) ∈ closedSigns)
    (rest : List Char) : Scans (.lexeme token written) rest := by
  simp only [closedSigns, List.mem_cons, Prod.mk.injEq, List.not_mem_nil, or_false] at h
  rcases h with ⟨rfl, rfl⟩ | ⟨rfl, rfl⟩ | ⟨rfl, rfl⟩ | ⟨rfl, rfl⟩ | ⟨rfl, rfl⟩ | ⟨rfl, rfl⟩ |
    ⟨rfl, rfl⟩ | ⟨rfl, rfl⟩ | ⟨rfl, rfl⟩ | ⟨rfl, rfl⟩ | ⟨rfl, rfl⟩ | ⟨rfl, rfl⟩ | ⟨rfl, rfl⟩ <;>
    exact ⟨_, _, rfl, by decide, fun _ => rfl⟩

/-- An operator of a comparison before its blank. -/
lemma scans_comparison (op : Comparison) (rest : List Char) :
    Scans (.lexeme (.comparison op) op.symbol.toList) (' ' :: rest) := by
  cases op <;> exact ⟨_, _, rfl, by decide, fun _ => rfl⟩

lemma scans_not {c : Char} (h : c ≠ '=') (rest : List Char) :
    Scans (.lexeme .not ['!']) (c :: rest) := by
  refine ⟨'!', [], rfl, by decide, fun offset => ?_⟩
  rw [List.nil_append]
  show Except.ok (Token.scanWithEqual .not (.comparison .ne) offset (c :: rest)) = _
  unfold Token.scanWithEqual
  split
  · rename_i heq
    exact absurd (List.cons.inj heq).1 h
  · rfl

lemma scans_number {text : String} {rest : List Char} (h : IsNumeral text.toList)
    (hrest : EndsToken rest) : Scans (.lexeme (.number text) text.toList) rest := by
  obtain ⟨c, cs, hcs, hc⟩ := h.exists_cons
  have hnumber : c ≠ '\'' ∧ c ≠ '"' := by
    constructor <;> rintro rfl <;> simp +decide at hc
  have hname : c = '-' ∨ Token.isNameChar c := hc.imp_right isNameChar_of_isDigit
  refine ⟨c, cs, hcs, isBlank_of_isNameChar hname, fun offset => ?_⟩
  have hscan := @scanNumber_append offset _ _ h hrest
  rw [hcs, List.cons_append] at hscan
  rw [scan_of_not_mem (not_mem_signChars_of_isDigit hc), h.byteLength_eq, hscan, hcs]
  have htext : String.ofList (c :: cs) = text := by rw [← hcs, String.ofList_toList]
  simp [hnumber.1, hnumber.2, hc, Except.map, htext]

/-- A string between quotes, of which the characters are read as themselves. -/
lemma scans_quoted {quote : Char} {escape : Char → List Char} {value : String}
    (hquote : quote = '\'' ∨ quote = '"') (h : ∀ c, ReadsUnit quote c (escape c))
    (rest : List Char) :
    Scans (.lexeme (.string value) (quote :: (value.toList.flatMap escape ++ [quote]))) rest := by
  have hmem : quote ∉ signChars := by rcases hquote with rfl | rfl <;> decide
  have hblank : Token.isBlank quote = false := by rcases hquote with rfl | rfl <;> decide
  have hsize : quote.utf8Size = 1 := by rcases hquote with rfl | rfl <;> decide
  refine ⟨quote, _, rfl, hblank, fun offset => ?_⟩
  have hscan := scanString_escaped h offset (offset + 1) [] value.toList rest
  rw [scan_of_not_mem hmem, List.append_assoc, List.singleton_append, hscan]
  rcases hquote with rfl | rfl <;>
    simp [Except.map, Text.byteLength, byteLength_append, hsize, Nat.add_assoc,
      Nat.add_comm 1]

lemma scans_name (name : String) (rest : List Char) :
    Scans (.lexeme (.string name) (Text.quoteName name).toList) rest := by
  have hname : (Text.quoteName name).toList =
      '\'' :: (name.toList.flatMap Text.escapeNameChar ++ ['\'']) := by simp [Text.quoteName]
  rw [hname]
  exact scans_quoted (.inl rfl) readsUnit_escapeNameChar rest

lemma scans_quote (value : String) (rest : List Char) :
    Scans (.lexeme (.string value) (Json.quote value).toList) rest := by
  have hvalue : (Json.quote value).toList =
      '"' :: (value.toList.flatMap Json.escapeChar ++ ['"']) := by simp [Json.quote]
  rw [hvalue]
  exact scans_quoted (.inr rfl) readsUnit_escapeChar rest

/-- A bare word, up to a character that is part of no word. -/
lemma scans_word {c : Char} {cs rest : List Char} (hfirst : Token.isNameFirst c)
    (hword : ∀ d ∈ cs, Token.isNameChar d) (hrest : EndsToken rest) :
    Scans (.lexeme (.ofWord (String.ofList (c :: cs))) (c :: cs)) rest := by
  have hchar : Token.isNameChar c := by simp [Token.isNameChar, hfirst]
  have hmem : c ∉ signChars := fun h => by simp [isNameFirst_of_mem_signChars c h] at hfirst
  have hquote : c ≠ '\'' ∧ c ≠ '"' ∧ c ≠ '-' := by
    refine ⟨?_, ?_, ?_⟩ <;> rintro rfl <;> simp +decide at hfirst
  have htake : (cs ++ rest).takeWhile Token.isNameChar = cs := by
    rw [List.takeWhile_append_of_pos hword]
    cases rest with
    | nil => simp
    | cons d rest => simp [(hrest d (by simp)).1]
  have hdrop : (cs ++ rest).dropWhile Token.isNameChar = rest := by
    rw [List.dropWhile_append_of_pos hword]
    cases rest with
    | nil => simp
    | cons d rest => simp [(hrest d (by simp)).1]
  refine ⟨c, cs, rfl, isBlank_of_isNameChar (.inr hchar), fun offset => ?_⟩
  rw [scan_of_not_mem hmem, htake, hdrop]
  simp [hquote, isDigit_of_isNameFirst hfirst, hfirst]

/-- The name of a function that can be called. -/
lemma scans_function {function : String} {rest : List Char} (h : Parser.isCallable function)
    (hrest : EndsToken rest) : Scans (.lexeme (.name function) function.toList) rest := by
  simp only [Parser.isCallable, Parser.isFunctionName, Bool.and_eq_true, Bool.not_eq_true',
    Bool.or_eq_false_iff, beq_eq_false_iff_ne] at h
  obtain ⟨hname, ⟨htrue, hfalse⟩, hnull⟩ := h
  have htoken : Token.ofWord function = .name function := by
    simp [Token.ofWord, htrue, hfalse, hnull]
  split at hname
  · simp at hname
  · rename_i c cs hcs
    rw [Bool.and_eq_true, List.all_eq_true] at hname
    have hlower : ∀ d : Char, d.isLower → Token.isNameFirst d := by
      intro d hd
      show ((d.isUpper || d.isLower) || d == '_' || decide (0x80 ≤ d.toNat)) = true
      rw [hd, Bool.or_true, Bool.true_or, Bool.true_or]
    have hword : ∀ d ∈ cs, Token.isNameChar d := by
      intro d hd
      have := hname.2 d hd
      simp only [Bool.or_eq_true, beq_iff_eq] at this
      rcases this with (hd | hd) | rfl
      · simp [Token.isNameChar, hlower d hd]
      · exact isNameChar_of_isDigit hd
      · decide
    have hofList : String.ofList (c :: cs) = function := by rw [← hcs, String.ofList_toList]
    have hscan := scans_word (hlower c hname.1) hword hrest
    rw [hofList, htoken] at hscan
    rw [hcs]
    exact hscan

/-- The written form of a scalar. -/
lemma scans_literal {value : Json} {rest : List Char} (h : value.isScalar)
    (hrest : EndsToken rest) : (literal value).Scans rest := by
  have hletter : ∀ d : Char, d.isAlpha → Token.isNameChar d := by
    intro d hd
    simp [Token.isNameChar, Token.isNameFirst, hd]
  cases value with
  | null => exact @scans_word 'n' ['u', 'l', 'l'] _ (by decide) (by simp [hletter]) hrest
  | bool b =>
    cases b with
    | true => exact @scans_word 't' ['r', 'u', 'e'] _ (by decide) (by simp [hletter]) hrest
    | false => exact @scans_word 'f' ['a', 'l', 's', 'e'] _ (by decide) (by simp [hletter]) hrest
  | number n =>
    have htext : (Json.number n).text = n.text := by simp [Json.text, Json.write]
    rw [literal, htext]
    exact scans_number (isNumeral_text n) hrest
  | string s =>
    have htext : (Json.string s).text = Json.quote s := by simp [Json.text, Json.write]
    rw [literal, htext]
    exact scans_quote s rest
  | array _ => simp [Json.isScalar, Json.isContainer] at h
  | object _ => simp [Json.isScalar, Json.isContainer] at h

end Piece

/-! ## The pieces of a query -/

/-- The characters that follow a selector, an expression or a number in canonical text. -/
lemma endsToken_of_mem {c : Char} (h : c ∈ [' ', ',', ':', ']', ')', '(']) (rest : List Char) :
    EndsToken (c :: rest) := by
  have hall : ∀ d ∈ [' ', ',', ':', ']', ')', '('],
      Token.isNameChar d = false ∧ d ≠ '.' ∧ d ≠ '=' := by
    simp [Token.isNameChar, Token.isNameFirst]
  obtain ⟨hname, hdot, hequal⟩ := hall c h
  exact .cons hname hdot hequal

namespace Piece

lemma allScan_closed {token : Token} {written : List Char} {ps : List Piece} {rest : List Char}
    (h : (token, written) ∈ closedSigns) (hps : AllScan ps rest) :
    AllScan (.lexeme token written :: ps) rest :=
  ⟨scans_closed h _, hps⟩

lemma allScan_integer {i : Int64} {ps : List Piece} {rest : List Char}
    (hrest : EndsToken (allChars ps ++ rest)) (hps : AllScan ps rest) :
    AllScan (integer i :: ps) rest :=
  ⟨scans_number (isNumeral_ofInt i.toInt) hrest, hps⟩

lemma allScan_slice (start stop step : Option Int64) {rest : List Char} (hrest : EndsToken rest) :
    AllScan (Segment.slice start stop step).selectorPieces rest := by
  have hcolon : ∀ s, EndsToken (':' :: s) := endsToken_of_mem (by decide)
  have hstep : AllScan (Piece.step step) rest ∧ EndsToken (allChars (Piece.step step) ++ rest) := by
    cases step with
    | none => exact ⟨trivial, hrest⟩
    | some i =>
      exact ⟨allScan_closed (by decide) (allScan_integer (by simpa using hrest) trivial),
        hcolon _⟩
  have hstop : AllScan (bound stop ++ Piece.step step) rest := by
    cases stop with
    | none => exact hstep.1
    | some i => exact allScan_integer hstep.2 hstep.1
  cases start with
  | none => exact allScan_closed (by decide) hstop
  | some i => exact allScan_integer (hcolon _) (allScan_closed (by decide) hstop)

lemma allScan_parenthesize {ps : List Piece} {rest : List Char} (needed : Bool)
    (h : ∀ rest, EndsToken rest → AllScan ps rest) (hrest : EndsToken rest) :
    AllScan (parenthesize needed ps) rest := by
  cases needed with
  | false => exact h rest hrest
  | true =>
    have hclose : AllScan [.lexeme .rightParen [')']] rest := allScan_closed (by decide) trivial
    refine allScan_closed (by decide) (allScan_append.mpr ⟨h _ ?_, hclose⟩)
    exact endsToken_of_mem (by decide) rest

/-- Two operands, perhaps in parentheses, with an operator between them. -/
lemma allScan_operator {ps qs : List Piece} {token : Token} {written rest : List Char}
    (needed needed' : Bool) (hoperator : ∀ rest, Scans (.lexeme token written) (' ' :: rest))
    (hps : ∀ rest, EndsToken rest → AllScan ps rest)
    (hqs : ∀ rest, EndsToken rest → AllScan qs rest) (hrest : EndsToken rest) :
    AllScan (parenthesize needed ps ++ (operator token written ++ parenthesize needed' qs))
      rest := by
  have hright := allScan_parenthesize needed' hqs hrest
  have hleft : ∀ s, AllScan (parenthesize needed ps) (' ' :: s) := fun s =>
    allScan_parenthesize needed hps (endsToken_of_mem (by decide) s)
  exact allScan_append.mpr ⟨hleft _, trivial, hoperator _, trivial, hright⟩

end Piece

/-- The operand of `!` does not start with an equal sign. -/
lemma Expr.head_pieces_of_isNegatedBare {e : Expr} {place : ExprPlace}
    (hbare : e.isNegatedBare) (h : e.isWritable place) :
    ∃ c cs, Piece.allChars e.pieces = c :: cs ∧ c ≠ '=' := by
  cases e with
  | query anchor segments =>
    cases anchor
    · exact ⟨'$', _, rfl, by decide⟩
    · exact ⟨'@', _, rfl, by decide⟩
  | call function arguments =>
    have hcallable : Parser.isCallable function := by
      simp only [Expr.isWritable, Bool.and_eq_true] at h
      exact h.1
    simp only [Parser.isCallable, Parser.isFunctionName, Bool.and_eq_true] at hcallable
    have hname := hcallable.1
    split at hname
    · simp at hname
    · rename_i c cs hcs
      rw [Bool.and_eq_true] at hname
      refine ⟨c, _, by simp only [Expr.pieces, Piece.allChars_lexeme, hcs]; rfl, ?_⟩
      rintro rfl
      exact absurd hname.1 (by decide)
  | _ => simp [Expr.isNegatedBare] at hbare

mutual

lemma Segment.allScan_selectorPieces (s : Segment) (h : s.isWritable) {rest : List Char}
    (hrest : EndsToken rest) : Piece.AllScan s.selectorPieces rest := by
  cases s with
  | key name => exact ⟨Piece.scans_name name _, trivial⟩
  | index i => exact Piece.allScan_integer hrest trivial
  | slice start stop step => exact Piece.allScan_slice start stop step hrest
  | wildcard => exact Piece.allScan_closed (by decide) trivial
  | union selectors =>
    simp only [Segment.isWritable, Bool.and_eq_true] at h
    exact Segment.allScan_unionPieces selectors h.2 hrest
  | descendant selector =>
    simp only [Segment.isWritable, Bool.and_eq_true] at h
    exact Piece.allScan_closed (by decide) (Segment.allScan_selectorPieces selector h.2 hrest)
  | filter test => exact Piece.allScan_closed (by decide) (Expr.allScan_pieces test h hrest)

lemma Segment.allScan_unionPieces (ss : List Segment) (h : Segment.allWritable ss)
    {rest : List Char} (hrest : EndsToken rest) : Piece.AllScan (Segment.unionPieces ss) rest := by
  match ss with
  | [] => trivial
  | [s] =>
    simp only [Segment.allWritable, Bool.and_eq_true] at h
    exact Segment.allScan_selectorPieces s h.1 hrest
  | s :: s' :: others =>
    rw [Segment.allWritable, Bool.and_eq_true] at h
    have hself : ∀ t, Piece.AllScan s.selectorPieces (',' :: t) := fun t =>
      Segment.allScan_selectorPieces s h.1 (endsToken_of_mem (by decide) t)
    have hothers := Segment.allScan_unionPieces (s' :: others) h.2 hrest
    exact Piece.allScan_append.mpr ⟨hself _, Piece.allScan_closed (by decide) ⟨trivial, hothers⟩⟩

lemma Segment.allScan_pieces (ss : List Segment) (h : Segment.allWritable ss)
    (rest : List Char) : Piece.AllScan (Segment.pieces ss) rest := by
  match ss with
  | [] => trivial
  | s :: others =>
    rw [Segment.allWritable, Bool.and_eq_true] at h
    have hothers := Segment.allScan_pieces others h.2 rest
    cases hs : s.isDescendant with
    | false =>
      have hself : ∀ t, Piece.AllScan s.selectorPieces (']' :: t) := fun t =>
        Segment.allScan_selectorPieces s h.1 (endsToken_of_mem (by decide) t)
      rw [Segment.pieces_cons hs]
      exact Piece.allScan_closed (by decide)
        (Piece.allScan_append.mpr ⟨hself _, Piece.allScan_closed (by decide) hothers⟩)
    | true =>
      cases s with
      | descendant selector =>
        have hwritable := h.1
        simp only [Segment.isWritable, Bool.and_eq_true] at hwritable
        have hself : ∀ t, Piece.AllScan selector.selectorPieces (']' :: t) := fun t =>
          Segment.allScan_selectorPieces selector hwritable.2 (endsToken_of_mem (by decide) t)
        exact Piece.allScan_closed (by decide) (Piece.allScan_closed (by decide)
          (Piece.allScan_append.mpr ⟨hself _, Piece.allScan_closed (by decide) hothers⟩))
      | _ => simp [Segment.isDescendant] at hs

lemma Expr.allScan_pieces (e : Expr) {place : ExprPlace} (h : e.isWritable place)
    {rest : List Char} (hrest : EndsToken rest) : Piece.AllScan e.pieces rest := by
  cases e with
  | literal value =>
    rw [Expr.isWritable, Bool.and_eq_true] at h
    exact ⟨Piece.scans_literal h.2 hrest, trivial⟩
  | query anchor segments =>
    rw [Expr.isWritable, Bool.and_eq_true] at h
    have hsegments := Segment.allScan_pieces segments h.2 rest
    cases anchor <;> exact Piece.allScan_closed (by decide) hsegments
  | not e =>
    rw [Expr.isWritable, Bool.and_eq_true] at h
    have hscan : ∀ t, EndsToken t → Piece.AllScan e.pieces t := fun t ht =>
      Expr.allScan_pieces e h.2 ht
    refine ⟨?_, Piece.allScan_parenthesize _ hscan hrest⟩
    cases hbare : e.isNegatedBare with
    | false => exact Piece.scans_not (by decide) _
    | true =>
      obtain ⟨c, cs, hcs, hc⟩ := Expr.head_pieces_of_isNegatedBare hbare h.2
      show Piece.Scans _ (Piece.allChars e.pieces ++ rest)
      rw [hcs]
      exact Piece.scans_not hc _
  | and l r =>
    rw [Expr.isWritable, Bool.and_eq_true, Bool.and_eq_true] at h
    have hl : ∀ t, EndsToken t → Piece.AllScan l.pieces t := fun t ht =>
      Expr.allScan_pieces l h.1.2 ht
    have hr : ∀ t, EndsToken t → Piece.AllScan r.pieces t := fun t ht =>
      Expr.allScan_pieces r h.2 ht
    exact Piece.allScan_operator _ _ (fun _ => Piece.scans_closed (by decide) _) hl hr hrest
  | or l r =>
    rw [Expr.isWritable, Bool.and_eq_true, Bool.and_eq_true] at h
    have hl : ∀ t, EndsToken t → Piece.AllScan l.pieces t := fun t ht =>
      Expr.allScan_pieces l h.1.2 ht
    have hr : ∀ t, EndsToken t → Piece.AllScan r.pieces t := fun t ht =>
      Expr.allScan_pieces r h.2 ht
    exact Piece.allScan_operator _ _ (fun _ => Piece.scans_closed (by decide) _) hl hr hrest
  | compare op l r =>
    rw [Expr.isWritable, Bool.and_eq_true, Bool.and_eq_true] at h
    have hl : ∀ t, EndsToken t → Piece.AllScan l.pieces t := fun t ht =>
      Expr.allScan_pieces l h.1.2 ht
    have hr : ∀ t, EndsToken t → Piece.AllScan r.pieces t := fun t ht =>
      Expr.allScan_pieces r h.2 ht
    exact Piece.allScan_operator _ _ (Piece.scans_comparison op) hl hr hrest
  | call function arguments =>
    rw [Expr.isWritable, Bool.and_eq_true] at h
    have hparen : ∀ t, EndsToken ('(' :: t) := endsToken_of_mem (by decide)
    have harguments := Expr.allScan_argumentPieces arguments h.2 rest
    exact ⟨Piece.scans_function h.1 (hparen _), Piece.allScan_closed (by decide)
      (Piece.allScan_append.mpr ⟨harguments, Piece.allScan_closed (by decide) trivial⟩)⟩

lemma Expr.allScan_argumentPieces (es : List Expr) (h : Expr.allWritable es)
    (rest : List Char) : Piece.AllScan (Expr.argumentPieces es) (')' :: rest) := by
  match es with
  | [] => trivial
  | [e] =>
    simp only [Expr.allWritable, Bool.and_eq_true] at h
    exact Expr.allScan_pieces e h.1 (endsToken_of_mem (by decide) rest)
  | e :: e' :: others =>
    rw [Expr.allWritable, Bool.and_eq_true] at h
    have hself : ∀ t, Piece.AllScan e.pieces (',' :: t) := fun t =>
      Expr.allScan_pieces e h.1 (endsToken_of_mem (by decide) t)
    have hothers := Expr.allScan_argumentPieces (e' :: others) h.2 rest
    exact Piece.allScan_append.mpr ⟨hself _, Piece.allScan_closed (by decide) ⟨trivial, hothers⟩⟩

end

/-- The scanner reads the canonical text of a writable query as the tokens of its pieces. -/
theorem Query.scanAll_text {q : Query} (h : q.isWritable) :
    Token.scanAll q.text = .ok (Piece.place 0 q.pieces) := by
  rw [Query.isWritable, Bool.and_eq_true] at h
  have hsegments := Segment.allScan_pieces q.segments h.2 []
  have hscan : Piece.AllScan q.pieces [] := by
    unfold Query.pieces
    cases q.anchor <;> exact Piece.allScan_closed (by decide) hsegments
  have hall := Piece.scanFrom_allChars hscan 0
  rw [List.append_nil, Query.allChars_pieces] at hall
  rw [Token.scanAll, hall, Token.scanFrom]
  simp [Except.map]

end JsonPath
