import JsonPath.Proofs.Extending.Texts

/-!
# Completing tokens

Where the scanner fails within a number or a string, a digit or a closing quote completes what it
has read of it.  All other failures of the scanner are where a token starts.  So the text in front
of a failure, with one more character behind it where it is needed, is cut into tokens
(`exists_cuts_of_error`).
-/

namespace JsonPath

/-! ## Numbers -/

/-- The scanner fails behind these characters, and would succeed if a digit stood there. -/
def WantsDigit (scanner : Nat → List Char → Except Failure (List Char × List Char)) (offset : Nat)
    (s : List Char) (e : Failure) (before : List Char) : Prop :=
  ∃ after found, s = before ++ after ∧ e.offset = offset + before.length ∧
    Text.byteLength before = before.length ∧
    ∀ offset', scanner offset' (before ++ ['1']) = .ok (found, [])

section Numbers

variable {offset : Nat} {s : List Char} {e : Failure}

lemma wantsDigit_scanDigits (h : Token.scanDigits offset s = .error e) :
    WantsDigit Token.scanDigits offset s e [] := by
  unfold Token.scanDigits at h
  split at h <;> cases h
  exact ⟨s, ['1'], rfl, rfl, rfl, fun _ => rfl⟩

lemma wantsDigit_scanFraction (h : Token.scanFraction offset s = .error e) :
    WantsDigit Token.scanFraction offset s e ['.'] := by
  unfold Token.scanFraction at h
  split at h
  · obtain ⟨_, _, -, hoffset, -⟩ := wantsDigit_scanDigits (eq_error_of_map_eq_error h)
    exact ⟨_, ['.', '1'], rfl, hoffset, by decide, fun _ => rfl⟩
  · cases h

lemma wantsDigit_scanPower {letter : Char} (h : Token.scanPower letter offset s = .error e) :
    ∃ sign, WantsDigit (Token.scanPower letter) offset s e sign := by
  unfold Token.scanPower at h
  rcases error_or_exists_of_bind_eq_error h with h | ⟨_, _, h⟩
  · obtain ⟨_, _, -, hoffset, -⟩ := wantsDigit_scanDigits h
    split at hoffset
    · exact ⟨['+'], _, _, rfl, hoffset, by decide, fun _ => rfl⟩
    · exact ⟨['-'], _, _, rfl, hoffset, by decide, fun _ => rfl⟩
    · exact ⟨[], _, _, rfl, hoffset, rfl, fun _ => rfl⟩
  · cases h

lemma wantsDigit_letter {letter : Char} (hone : letter.utf8Size = 1)
    (hpower : ∀ offset t, Token.scanExponent offset (letter :: t) =
      Token.scanPower letter (offset + 1) t)
    (h : Token.scanPower letter (offset + 1) s = .error e) :
    ∃ sign, WantsDigit Token.scanExponent offset (letter :: s) e (letter :: sign) := by
  obtain ⟨sign, after, found, rfl, hoffset, hsize, hdigit⟩ := wantsDigit_scanPower h
  refine ⟨sign, after, found, rfl, ?_, ?_, fun offset' => ?_⟩
  · rw [hoffset, List.length_cons, Nat.add_assoc, Nat.add_comm 1]
  · rw [Text.byteLength, hone, hsize, List.length_cons, Nat.add_comm]
  · rw [List.cons_append, hpower, hdigit]

lemma wantsDigit_scanExponent (h : Token.scanExponent offset s = .error e) :
    ∃ letter sign, WantsDigit Token.scanExponent offset s e (letter :: sign) := by
  unfold Token.scanExponent at h
  split at h
  · exact ⟨'e', wantsDigit_letter (by decide) (fun _ _ => rfl) h⟩
  · exact ⟨'E', wantsDigit_letter (by decide) (fun _ _ => rfl) h⟩
  · cases h

/-- What stands behind a character that is kept may be changed. -/
lemma replaces_append {before : List Char} (h : before ≠ []) (s t : List Char) :
    Replaces (before ++ s) (before ++ t) := by
  obtain ⟨c, cs, rfl⟩ := List.exists_cons_of_ne_nil h
  exact fun _ hd => .inl hd

lemma scanMinus_cases (s : List Char) :
    (∃ t, s = '-' :: t ∧ Token.scanMinus s = (['-'], t)) ∨ Token.scanMinus s = ([], s) := by
  unfold Token.scanMinus
  split
  · exact .inl ⟨_, rfl, rfl⟩
  · exact .inr rfl

/-- A number fails behind its sign, its point or its exponent. -/
lemma wantsDigit_scanNumber (h : Token.scanNumber offset s = .error e) :
    ∃ before, WantsDigit Token.scanNumber offset s e before := by
  obtain ⟨sign, t, hsign, rfl, hsize, hsame⟩ := takesSign_scanMinus s
  rw [Token.scanNumber, hsign] at h
  rcases error_or_exists_of_bind_eq_error h with herror | ⟨⟨whole, t⟩, hwhole, h₁⟩
  · obtain ⟨_, _, -, hoffset, -⟩ := wantsDigit_scanDigits herror
    rcases scanMinus_cases (sign ++ t) with ⟨u, hu, hminus⟩ | hminus
    · obtain ⟨rfl, rfl⟩ := Prod.mk.inj (hsign.symm.trans hminus)
      exact ⟨['-'], _, _, rfl, hoffset, hsize, fun _ => rfl⟩
    · obtain ⟨rfl, -⟩ := Prod.mk.inj (hsign.symm.trans hminus)
      exact ⟨[], _, _, rfl, hoffset, hsize, fun _ => rfl⟩
  have hdigits := (isDigits_of_scanDigits hwhole).1
  obtain ⟨rfl, hwholeSize, hwhole⟩ := isLocal_scanDigits hwhole
  rcases error_or_exists_of_bind_eq_error h₁ with herror | ⟨⟨fraction, t⟩, hfraction, h₂⟩
  · obtain ⟨after, found, rfl, hoffset, hpointSize, hdigit⟩ := wantsDigit_scanFraction herror
    refine ⟨sign ++ (whole ++ ['.']), after, sign ++ whole ++ found, by simp, ?_, ?_,
      fun offset' => ?_⟩
    · rw [hoffset]
      simp only [List.length_append]
      omega
    · simp only [Piece.byteLength_append, List.length_append, hsize, hwholeSize, hpointSize]
    · have hreplaces : Replaces (['.'] ++ after) (['.'] ++ ['1']) := replaces_append (by simp) _ _
      simp only [List.append_assoc]
      simp only [Token.scanNumber, hsame _ (head_append hdigits _ _), hwhole _ _ hreplaces, hdigit,
        Token.scanExponent, bind, Except.bind, pure, Except.pure, List.append_assoc,
        List.append_nil]
  obtain ⟨rfl, hfractionSize, hfraction⟩ := isLocal_scanFraction hfraction
  rcases error_or_exists_of_bind_eq_error h₂ with herror | ⟨_, _, hpure⟩
  · obtain ⟨letter, power, after, found, rfl, hoffset, hpowerSize, hdigit⟩ :=
      wantsDigit_scanExponent herror
    refine ⟨sign ++ (whole ++ (fraction ++ letter :: power)), after,
      sign ++ whole ++ fraction ++ found, by simp, ?_, ?_, fun offset' => ?_⟩
    · rw [hoffset]
      simp only [List.length_append]
      omega
    · simp only [Piece.byteLength_append, List.length_append, hsize, hwholeSize, hfractionSize,
        hpowerSize]
    · have hreplaces := replaces_append (List.cons_ne_nil letter power) after ['1']
      simp only [List.append_assoc]
      simp only [Token.scanNumber, hsame _ (head_append hdigits _ _),
        hwhole _ _ (hreplaces.append fraction), hfraction _ _ hreplaces, hdigit,
        bind, Except.bind, pure, Except.pure, List.append_assoc]
  · cases hpure

end Numbers

/-! ## Strings -/

/-- A string fails where it starts, or where a closing quote would end it. -/
lemma scanString_error {quote : Char} (hquote : IsQuote quote) (hone : quote.utf8Size = 1)
    {start offset : Nat} {read s : List Char} {e : Failure}
    (h : Token.scanString quote start offset read s = .error e) :
    e.offset = start ∨ ∃ before after width value, s = before ++ after ∧
      e.offset = offset + Text.byteLength before ∧
      ReadsString quote read (before ++ [quote]) width value [] := by
  fun_induction Token.scanString quote start offset read s with
  | case1 =>
    cases h
    exact .inl rfl
  | case2 => cases h
  | case3 =>
    cases h
    exact .inr ⟨[], _, _, _, rfl, rfl, readsString_close hone _ _⟩
  | case4 offset read t c n hescape _ ih =>
    obtain ⟨letters, tail, rfl, rfl, hsize, hsame⟩ := readsHead_decodeEscape hquote hone hescape
    rw [List.drop_left] at h ih
    rcases ih h with hstart | ⟨before, after, width, value, htail, hoffset, hread⟩
    · exact .inl hstart
    have hbackslash : '\\'.utf8Size = 1 := by decide
    have hunit := hread.unit (readsUnit_escape hquote hsize hsame)
    rw [← List.append_assoc] at hunit
    refine .inr ⟨'\\' :: letters ++ before, after, _, value, by simp [htail], ?_, hunit⟩
    rw [hoffset, Piece.byteLength_append, Text.byteLength, hbackslash, hsize]
    omega
  | case5 =>
    cases h
    exact .inr ⟨[], _, _, _, rfl, rfl, readsString_close hone _ _⟩
  | case6 offset read c t hne hbackslash hcontrol ih =>
    rcases ih h with hstart | ⟨before, after, width, value, htail, hoffset, hread⟩
    · exact .inl hstart
    have hunit := hread.unit (readsUnit_plain hne hbackslash hcontrol)
    refine .inr ⟨c :: before, after, _, value, by simp [htail], ?_, hunit⟩
    rw [hoffset, Text.byteLength, Nat.add_assoc]

/-! ## Tokens -/

/-- What stands in front of the position is cut into tokens, where need be with more behind it. -/
def IsCutWithMore (offset : Nat) (s : List Char) (position : Nat) : Prop :=
  ∃ before after more ts, s = before ++ after ∧ position = offset + Text.byteLength before ∧
    (before = [] → more = []) ∧ more.length ≤ 1 ∧ Cuts offset (before ++ more) ts

section Tokens

variable {offset : Nat} {c : Char} {s : List Char} {e : Failure}

/-- In front of the first token there is nothing. -/
lemma isCutWithMore_start (offset : Nat) (s : List Char) : IsCutWithMore offset s offset :=
  ⟨[], s, [], [], rfl, rfl, fun _ => rfl, Nat.zero_le 1, .nil offset⟩

/-- A token that one more character completes. -/
lemma isCutWithMore_of_scan {before : List Char} (after : List Char) {d : Char} {token : Token}
    {stop : Nat}
    (hblank : Token.isBlank c = false)
    (hscan : Token.scan offset c (before ++ [d]) = .ok (token, stop, [])) :
    IsCutWithMore offset (c :: (before ++ after)) (offset + Text.byteLength (c :: before)) :=
  ⟨c :: before, after, [d], _, rfl, rfl, by simp, Nat.le_refl 1, .cons hblank hscan (.nil _)⟩

lemma isCutWithMore_quoted (hquote : c = '\'' ∨ c = '"')
    (h : Token.scan offset c s = .error e) : IsCutWithMore offset (c :: s) e.offset := by
  have hone : c.utf8Size = 1 := by rcases hquote with rfl | rfl <;> decide
  have hblank : Token.isBlank c = false := by rcases hquote with rfl | rfl <;> decide
  rw [scan_quote hquote] at h
  rcases scanString_error (isQuote_of_eq hquote) hone (eq_error_of_map_eq_error h) with
    hstart | ⟨before, after, width, value, rfl, hoffset, written, hwritten, -, hread⟩
  · rw [hstart]
    exact isCutWithMore_start offset _
  · have hscan : Token.scan offset c (before ++ [c]) =
        .ok (.string value, offset + 1 + width, []) := by
      rw [scan_quote hquote, hwritten, hread]
      rfl
    have hcut := isCutWithMore_of_scan after hblank hscan
    rwa [Text.byteLength, hone, ← Nat.add_assoc, ← hoffset] at hcut

lemma isCutWithMore_number (hfirst : c = '-' ∨ c.isDigit)
    (h : Token.scan offset c s = .error e) : IsCutWithMore offset (c :: s) e.offset := by
  have hblank : Token.isBlank c = false :=
    isBlank_of_isNameChar (hfirst.imp_right isNameChar_of_isDigit)
  rw [scan_number hfirst] at h
  obtain ⟨before, after, found, hbefore, hoffset, hsize, hdigit⟩ :=
    wantsDigit_scanNumber (eq_error_of_map_eq_error h)
  cases before with
  | nil =>
    rw [hoffset]
    exact isCutWithMore_start offset _
  | cons d before =>
    obtain ⟨rfl, rfl⟩ := List.cons.inj hbefore
    have hscan : Token.scan offset c (before ++ ['1']) =
        .ok (.number (String.ofList found), offset + found.length, []) := by
      rw [scan_number hfirst, ← List.cons_append, hdigit]
      rfl
    have hcut := isCutWithMore_of_scan after hblank hscan
    rwa [hsize, ← hoffset] at hcut

lemma scanDoubled_error {sign : Char} {token : Token} {what : Expectation}
    (h : Token.scanDoubled sign token what offset s = .error e) : e.offset = offset := by
  unfold Token.scanDoubled at h
  split at h
  · split at h <;> cases h
    rfl
  · cases h
    rfl

lemma isCutWithMore_of_scan_error (h : Token.scan offset c s = .error e) :
    IsCutWithMore offset (c :: s) e.offset := by
  have hstart (hoffset : e.offset = offset) : IsCutWithMore offset (c :: s) e.offset := by
    rw [hoffset]
    exact isCutWithMore_start offset _
  have h' := h
  unfold Token.scan at h
  split at h
  case h_11 => split at h <;> cases h
  case h_12 => exact hstart (scanDoubled_error h)
  case h_13 => exact hstart (scanDoubled_error h)
  case h_14 => exact hstart (scanDoubled_error h)
  case h_18 =>
    split_ifs at h with hquote hnumber hword
    · exact isCutWithMore_quoted (by simpa using hquote) h'
    · exact isCutWithMore_number (by simpa using hnumber) h'
    · cases h
      exact hstart rfl
  all_goals cases h

lemma scanFrom_of_scan_error (hblank : Token.isBlank c = false)
    (h : Token.scan offset c s = .error e) : Token.scanFrom offset (c :: s) = .error e := by
  rw [Token.scanFrom, if_neg (by simp [hblank])]
  split
  · rename_i hscan
    rw [h] at hscan
    cases hscan
    rfl
  · rename_i hscan
    rw [h] at hscan
    cases hscan

/-- Where the scanner fails, the text in front is cut into tokens, with one more character where it
fails within a token. -/
theorem exists_cuts_of_error (h : Token.scanFrom offset s = .error e) :
    IsCutWithMore offset s e.offset := by
  fun_induction Token.scanFrom offset s with
  | case1 => cases h
  | case2 offset c s hblank ih =>
    obtain ⟨before, after, more, ts, rfl, hoffset, -, hlength, hcuts⟩ := ih h
    refine ⟨c :: before, after, more, ts, rfl, ?_, by simp, hlength,
      .blank hblank hcuts⟩
    rw [hoffset, Text.byteLength, utf8Size_of_isBlank hblank, Nat.add_assoc]
  | case3 offset c s hblank e' hscan =>
    cases h
    exact isCutWithMore_of_scan_error hscan
  | case4 offset c s hblank token stop rest hscan ih =>
    obtain ⟨width, rfl, d, cs, hs, hblank, hsize, hlocal⟩ :=
      scansLocally_of_scan (by simpa using hblank) hscan
    obtain ⟨rfl, rfl⟩ := List.cons.inj hs
    obtain ⟨before, after, more, ts, rfl, hoffset, hmore, hlength, hcuts⟩ :=
      ih (eq_error_of_map_eq_error h)
    have hreplaces : Replaces (before ++ after) (before ++ more) := by
      cases before with
      | nil =>
        rw [hmore rfl]
        exact replaces_nil _
      | cons b before => exact replaces_append (List.cons_ne_nil b before) after more
    refine ⟨c :: (cs ++ before), after, more, ⟨token, offset, offset + width⟩ :: ts, by simp, ?_,
      by simp, hlength, ?_⟩
    · rw [hoffset, ← List.cons_append, Piece.byteLength_append, hsize, Nat.add_assoc]
    · rw [List.cons_append, List.append_assoc]
      exact .cons hblank (hlocal _ _ hreplaces) hcuts

end Tokens

end JsonPath
