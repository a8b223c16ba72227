import JsonPath.Query.Token
import JsonPath.Query.Failure
import JsonPath.Text.Hex

/-!
# From text to tokens

`Token.scanAll` cuts a text into tokens.  Each token takes as many characters as it can; blanks
between tokens are dropped.  Positions are counted in bytes.  The first character that continues
no token is a failure.
-/

namespace JsonPath

namespace Token

/-! ## Classes of characters -/

/-- The blanks that may stand between tokens. -/
def isBlank (c : Char) : Bool := c == ' ' || c == '\t' || c == '\n' || c == '\r'

/-- The characters that a bare word starts with. -/
def isNameFirst (c : Char) : Bool := c.isAlpha || c == '_' || 0x80 ≤ c.toNat

/-- The characters of a bare word. -/
def isNameChar (c : Char) : Bool := isNameFirst c || c.isDigit

/-! ## Numbers and words -/

/-- Digits, of which there has to be one at the position `offset`. -/
def scanDigits (offset : Nat) (s : List Char) : Except Failure (List Char × List Char) :=
  match s.takeWhile Char.isDigit with
  | [] => .error ⟨offset, .expected .digit⟩
  | digits => .ok (digits, s.dropWhile Char.isDigit)

/-- The sign of a number. -/
def scanMinus : List Char → List Char × List Char
  | '-' :: rest => (['-'], rest)
  | s => ([], s)

/-- The point of a number with the digits after it. -/
def scanFraction (offset : Nat) : List Char → Except Failure (List Char × List Char)
  | '.' :: rest => (scanDigits (offset + 1) rest).map fun (digits, rest) => ('.' :: digits, rest)
  | s => .ok ([], s)

/-- The sign of an exponent. -/
def scanExponentSign : List Char → List Char × List Char
  | '+' :: rest => (['+'], rest)
  | '-' :: rest => (['-'], rest)
  | s => ([], s)

/-- The exponent of a number after its letter. -/
def scanPower (letter : Char) (offset : Nat) (s : List Char) :
    Except Failure (List Char × List Char) := do
  let (sign, s) := scanExponentSign s
  let (digits, rest) ← scanDigits (offset + sign.length) s
  return (letter :: sign ++ digits, rest)

/-- The exponent of a number. -/
def scanExponent (offset : Nat) : List Char → Except Failure (List Char × List Char)
  | 'e' :: rest => scanPower 'e' (offset + 1) rest
  | 'E' :: rest => scanPower 'E' (offset + 1) rest
  | s => .ok ([], s)

/-- The characters of a number at the position `offset`, and what follows them. -/
def scanNumber (offset : Nat) (s : List Char) : Except Failure (List Char × List Char) := do
  let (sign, s) := scanMinus s
  let (whole, s) ← scanDigits (offset + sign.length) s
  let (fraction, s) ← scanFraction (offset + sign.length + whole.length) s
  let (exponent, s) ← scanExponent (offset + sign.length + whole.length + fraction.length) s
  return (sign ++ whole ++ fraction ++ exponent, s)

/-! ## Strings -/

/-- A character with that code, if there is one. -/
def ofCode (code : Nat) : Except Expectation Char :=
  if code.isValidChar then .ok (Char.ofNat code) else .error .unicodeEscape

/-- The character of a surrogate pair: the low surrogate has to be written after the high one. -/
def decodeLowSurrogate (high : Nat) : List Char → Except Expectation Char
  | '\\' :: 'u' :: rest =>
    match Text.scanHex4 rest with
    | none => .error .hexDigits
    | some (low, _) =>
      if Text.isLowSurrogate low then ofCode (Text.joinSurrogates high low)
      else .error .lowSurrogate
  | _ => .error .lowSurrogate

/-- What `\u` stands for: the character with the code of four hexadecimal digits, or the one of a
surrogate pair written as two such codes.  Also returns the number of characters read. -/
def decodeUnicode (s : List Char) : Except Expectation (Char × Nat) :=
  match Text.scanHex4 s with
  | none => .error .hexDigits
  | some (code, rest) =>
    if Text.isHighSurrogate code then (decodeLowSurrogate code rest).map fun c => (c, 10)
    else if Text.isLowSurrogate code then .error .highSurrogate
    else (ofCode code).map fun c => (c, 4)

/-- What an escape stands for, after its backslash and between quotes `quote`.  Also returns the
number of characters read, which are all of one byte. -/
def decodeEscape (quote : Char) : List Char → Except Expectation (Char × Nat)
  | [] => .error .escapeSequence
  | c :: rest =>
    if c = 'b' then .ok ('\x08', 1)
    else if c = 'f' then .ok ('\x0c', 1)
    else if c = 'n' then .ok ('\n', 1)
    else if c = 'r' then .ok ('\r', 1)
    else if c = 't' then .ok ('\t', 1)
    else if c = '/' then .ok ('/', 1)
    else if c = '\\' then .ok ('\\', 1)
    else if c = quote then .ok (c, 1)
    else if c = 'u' then (decodeUnicode rest).map fun (c, n) => (c, n + 1)
    else .error .escapeSequence

/-- The rest of a string that was opened by `quote` at the position `start`.  `offset` is the
position of the text that is left, and `read` holds the characters so far, the last one first.
Returns the string, the position after its closing quote and what follows. -/
def scanString (quote : Char) (start offset : Nat) (read : List Char) (s : List Char) :
    Except Failure (String × Nat × List Char) :=
  match s with
  | [] => .error ⟨start, .expected (.closingQuote quote)⟩
  | c :: rest =>
    if c = quote then .ok (String.ofList read.reverse, offset + 1, rest)
    else if c = '\\' then
      match decodeEscape quote rest with
      | .error what => .error ⟨offset, .expected what⟩
      | .ok (d, n) => scanString quote start (offset + 1 + n) (d :: read) (rest.drop n)
    else if c.toNat < 0x20 then .error ⟨offset, .expected .escapedControl⟩
    else scanString quote start (offset + c.utf8Size) (c :: read) rest
termination_by s.length
decreasing_by
  · simp only [List.length_drop, List.length_cons]
    omega
  · simp

theorem length_of_scanString {quote : Char} {start offset stop : Nat} {read s rest : List Char}
    {value : String} (h : scanString quote start offset read s = .ok (value, stop, rest)) :
    rest.length < s.length := by
  fun_induction scanString quote start offset read s with
  | case1 => simp at h
  | case2 => simp_all
  | case3 => simp at h
  | case4 =>
    rename_i ih
    have := ih h
    simp only [List.length_drop] at this
    simp only [List.length_cons]
    omega
  | case5 => simp at h
  | case6 =>
    rename_i ih
    have := ih h
    simp only [List.length_cons]
    omega

/-! ## Tokens -/

/-- A sign that an equal sign may follow: `bare` without it and `withEqual` with it. -/
def scanWithEqual (bare withEqual : Token) (offset : Nat) (rest : List Char) :
    Token × Nat × List Char :=
  match rest with
  | '=' :: rest => (withEqual, offset + 2, rest)
  | rest => (bare, offset + 1, rest)

/-- A sign that has to be written twice. -/
def scanDoubled (sign : Char) (token : Token) (what : Expectation) (offset : Nat)
    (rest : List Char) : Except Failure (Token × Nat × List Char) :=
  match rest with
  | c :: rest =>
    if c = sign then .ok (token, offset + 2, rest) else .error ⟨offset, .expected what⟩
  | [] => .error ⟨offset, .expected what⟩

/-- The token that starts with the character `c` at the position `offset`, when `rest` follows.
Returns the token, the position after it and what follows it. -/
def scan (offset : Nat) (c : Char) (rest : List Char) :
    Except Failure (Token × Nat × List Char) :=
  match c with
  | '$' => .ok (.root, offset + 1, rest)
  | '@' => .ok (.current, offset + 1, rest)
  | '[' => .ok (.leftBracket, offset + 1, rest)
  | ']' => .ok (.rightBracket, offset + 1, rest)
  | '(' => .ok (.leftParen, offset + 1, rest)
  | ')' => .ok (.rightParen, offset + 1, rest)
  | ',' => .ok (.comma, offset + 1, rest)
  | ':' => .ok (.colon, offset + 1, rest)
  | '?' => .ok (.question, offset + 1, rest)
  | '*' => .ok (.star, offset + 1, rest)
  | '.' =>
    match rest with
    | '.' :: rest => .ok (.doubleDot, offset + 2, rest)
    | rest => .ok (.dot, offset + 1, rest)
  | '=' => scanDoubled '=' (.comparison .eq) .equalSign offset rest
  | '&' => scanDoubled '&' .and .andSign offset rest
  | '|' => scanDoubled '|' .or .orSign offset rest
  | '!' => .ok (scanWithEqual .not (.comparison .ne) offset rest)
  | '<' => .ok (scanWithEqual (.comparison .lt) (.comparison .le) offset rest)
  | '>' => .ok (scanWithEqual (.comparison .gt) (.comparison .ge) offset rest)
  | c =>
    if c = '\'' || c = '"' then
      (scanString c offset (offset + 1) [] rest).map fun (value, stop, rest) =>
        (.string value, stop, rest)
    else if c = '-' || c.isDigit then
      (scanNumber offset (c :: rest)).map fun (lexeme, rest) =>
        (.number (String.ofList lexeme), offset + lexeme.length, rest)
    else if isNameFirst c then
      let word := c :: rest.takeWhile isNameChar
      .ok (.ofWord (String.ofList word), offset + Text.byteLength word,
        rest.dropWhile isNameChar)
    else .error ⟨offset, .expected .anyToken⟩

theorem length_of_scanDigits {offset : Nat} {s digits rest : List Char}
    (h : scanDigits offset s = .ok (digits, rest)) : rest.length < s.length := by
  unfold scanDigits at h
  split at h
  · simp at h
  · rename_i hne
    simp only [Except.ok.injEq, Prod.mk.injEq] at h
    have hlen := congrArg List.length (List.takeWhile_append_dropWhile (p := Char.isDigit) (l := s))
    rw [List.length_append, h.1, h.2] at hlen
    have : 0 < digits.length := List.length_pos_iff.mpr fun hnil => hne (h.1.trans hnil)
    omega

theorem length_of_scanFraction {offset : Nat} {s found rest : List Char}
    (h : scanFraction offset s = .ok (found, rest)) : rest.length ≤ s.length := by
  unfold scanFraction at h
  split at h
  · simp only [Except.map] at h
    split at h
    · simp at h
    · rename_i r hr
      obtain ⟨_, _⟩ := r
      have := length_of_scanDigits hr
      simp only [Except.ok.injEq, Prod.mk.injEq] at h
      simp only [List.length_cons, ← h.2]
      omega
  · simp_all

theorem length_of_scanExponentSign (s : List Char) :
    (scanExponentSign s).2.length ≤ s.length := by
  unfold scanExponentSign
  split <;> simp

theorem length_of_scanPower {letter : Char} {offset : Nat} {s found rest : List Char}
    (h : scanPower letter offset s = .ok (found, rest)) : rest.length ≤ s.length := by
  unfold scanPower at h
  simp only [bind, Except.bind] at h
  split at h
  · simp at h
  · rename_i r hr
    obtain ⟨_, _⟩ := r
    have := length_of_scanDigits hr
    have := length_of_scanExponentSign s
    simp only [pure, Except.pure, Except.ok.injEq, Prod.mk.injEq] at h
    rw [← h.2]
    omega

theorem length_of_scanExponent {offset : Nat} {s found rest : List Char}
    (h : scanExponent offset s = .ok (found, rest)) : rest.length ≤ s.length := by
  unfold scanExponent at h
  split at h
  · have := length_of_scanPower h
    simp only [List.length_cons]
    omega
  · have := length_of_scanPower h
    simp only [List.length_cons]
    omega
  · simp_all

theorem length_of_scanMinus (s : List Char) : (scanMinus s).2.length ≤ s.length := by
  unfold scanMinus
  split <;> simp

theorem length_of_scanNumber {offset : Nat} {s lexeme rest : List Char}
    (h : scanNumber offset s = .ok (lexeme, rest)) : rest.length < s.length := by
  unfold scanNumber at h
  simp only [bind, Except.bind] at h
  split at h
  · simp at h
  · rename_i whole hwhole
    obtain ⟨_, _⟩ := whole
    split at h
    · simp at h
    · rename_i fraction hfraction
      obtain ⟨_, _⟩ := fraction
      split at h
      · simp at h
      · rename_i exponent hexponent
        obtain ⟨_, _⟩ := exponent
        have := length_of_scanMinus s
        have := length_of_scanDigits hwhole
        have := length_of_scanFraction hfraction
        have := length_of_scanExponent hexponent
        simp only [pure, Except.pure, Except.ok.injEq, Prod.mk.injEq] at h
        rw [← h.2]
        dsimp only at *
        omega

theorem length_of_scanWithEqual (bare withEqual : Token) (offset : Nat) (s : List Char) :
    (scanWithEqual bare withEqual offset s).2.2.length ≤ s.length := by
  unfold scanWithEqual
  split <;> simp

theorem length_of_scanDoubled {sign : Char} {token t : Token} {what : Expectation}
    {offset stop : Nat} {s rest : List Char}
    (h : scanDoubled sign token what offset s = .ok (t, stop, rest)) :
    rest.length ≤ s.length := by
  unfold scanDoubled at h
  split at h
  · split at h
    · simp only [Except.ok.injEq, Prod.mk.injEq] at h
      simp [← h.2.2]
    · simp at h
  · simp at h

/-- A token takes at least its first character. -/
theorem length_of_scan {offset stop : Nat} {c : Char} {s rest : List Char} {t : Token}
    (h : scan offset c s = .ok (t, stop, rest)) : rest.length ≤ s.length := by
  unfold scan at h
  split at h
  case h_11 =>
    split at h <;> simp only [Except.ok.injEq, Prod.mk.injEq] at h <;> simp [← h.2.2]
  case h_12 => exact length_of_scanDoubled h
  case h_13 => exact length_of_scanDoubled h
  case h_14 => exact length_of_scanDoubled h
  case h_15 =>
    have := length_of_scanWithEqual .not (.comparison .ne) offset s
    simp_all
  case h_16 =>
    have := length_of_scanWithEqual (.comparison .lt) (.comparison .le) offset s
    simp_all
  case h_17 =>
    have := length_of_scanWithEqual (.comparison .gt) (.comparison .ge) offset s
    simp_all
  case h_18 =>
    split at h
    · simp only [Except.map] at h
      split at h
      · simp at h
      · rename_i r hr
        obtain ⟨_, _, _⟩ := r
        have := length_of_scanString hr
        simp only [Except.ok.injEq, Prod.mk.injEq] at h
        rw [← h.2.2]
        exact Nat.le_of_lt this
    · split at h
      · simp only [Except.map] at h
        split at h
        · simp at h
        · rename_i r hr
          obtain ⟨_, _⟩ := r
          have := length_of_scanNumber hr
          simp only [Except.ok.injEq, Prod.mk.injEq] at h
          rw [← h.2.2]
          simp only [List.length_cons] at this
          omega
      · split at h
        · simp only [Except.ok.injEq, Prod.mk.injEq] at h
          rw [← h.2.2]
          exact (List.dropWhile_suffix _).length_le
        · simp at h
  all_goals simp_all

/-- The tokens of a text whose first character stands at the position `offset`. -/
def scanFrom (offset : Nat) (s : List Char) : Except Failure (List Spanned) :=
  match s with
  | [] => .ok []
  | c :: rest =>
    if isBlank c then scanFrom (offset + 1) rest
    else
      match _h : scan offset c rest with
      | .error e => .error e
      | .ok (token, stop, rest') => (scanFrom stop rest').map (⟨token, offset, stop⟩ :: ·)
termination_by s.length
decreasing_by
  · simp
  · have := length_of_scan _h
    simp only [List.length_cons]
    omega

/-- The tokens of a text. -/
def scanAll (text : String) : Except Failure (List Spanned) := scanFrom 0 text.toList

end Token

end JsonPath
