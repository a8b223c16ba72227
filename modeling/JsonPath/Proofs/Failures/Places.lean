import JsonPath.Proofs.Spacing.Gaps

/-!
# Places in a text

A place is a position between two characters of a text, or at one of its ends, that does not part a
carriage return from the line feed behind it.  The tokens of a text start and stop at places, and
where the scanner fails it points to one (`scanFrom_places`).

`Reaches` follows the scanner over the characters of a token, none of which is a carriage return,
and `Halts` says of a scanner that it only gets to positions that are reached in this way, whether
it finds its token or fails.
-/

namespace JsonPath

/-- The position stands between two characters or at an end, and not within a line end. -/
def Text.IsPlace (text : List Char) (position : Nat) : Prop :=
  ∃ before after, text = before ++ after ∧ Text.byteLength before = position ∧
    (after.head? = some '\n' → before.getLast? ≠ some '\r')

/-- From the text `s` at the position `offset` one comes to the text `rest` at `stop` without
passing over a carriage return. -/
inductive Reaches : Nat → List Char → Nat → List Char → Prop
  | refl {offset : Nat} {s : List Char} : Reaches offset s offset s
  | step {offset stop : Nat} {c : Char} {s rest : List Char} (hc : c ≠ '\r')
      (h : Reaches (offset + c.utf8Size) s stop rest) : Reaches offset (c :: s) stop rest

/-- The scanner succeeds at a position that it reaches, or fails at one. -/
inductive Halts {α : Type} (offset : Nat) (s : List Char) (behind : α → Nat × List Char) :
    Except Failure α → Prop
  | ok {x : α} (h : Reaches offset s (behind x).1 (behind x).2) : Halts offset s behind (.ok x)
  | error {e : Failure} {rest : List Char} (h : Reaches offset s e.offset rest) :
      Halts offset s behind (.error e)

variable {α β : Type} {offset offset' stop : Nat} {c : Char} {s s' rest : List Char}
  {behind : α → Nat × List Char} {behind' : β → Nat × List Char}

/-! ## Reached positions -/

namespace Reaches

lemma of_eq (h : offset = stop) : Reaches offset s stop s := h ▸ .refl

lemma trans (h : Reaches offset s offset' s') (h' : Reaches offset' s' stop rest) :
    Reaches offset s stop rest := by
  induction h with
  | refl => exact h'
  | step hc _ ih => exact .step hc (ih h')

/-- Passes over a character of one byte. -/
lemma cons (hc : c ≠ '\r') (hone : c.utf8Size = 1) (h : Reaches (offset + 1) s stop rest) :
    Reaches offset (c :: s) stop rest :=
  .step hc (hone.symm ▸ h)

lemma append {passed : List Char} (h : '\r' ∉ passed) (rest : List Char) (offset : Nat) :
    Reaches offset (passed ++ rest) (offset + Text.byteLength passed) rest := by
  induction passed generalizing offset with
  | nil => exact .refl
  | cons c passed ih =>
    rw [List.mem_cons, not_or] at h
    rw [Text.byteLength, ← Nat.add_assoc]
    exact .step (Ne.symm h.1) (ih h.2 _)

lemma digits {digits : List Char} (h : IsDigits digits) (offset : Nat) :
    Reaches offset (digits ++ rest) (offset + digits.length) rest := by
  have hreturn : '\r' ∉ digits := fun hmem => absurd (h.2 _ hmem) (by decide)
  have happend := append hreturn rest offset
  rwa [h.byteLength_eq] at happend

lemma exists_passed (h : Reaches offset s stop rest) :
    ∃ passed, s = passed ++ rest ∧ offset + Text.byteLength passed = stop := by
  induction h with
  | refl => exact ⟨[], rfl, rfl⟩
  | @step offset stop c s rest _ _ ih =>
    obtain ⟨passed, rfl, hstop⟩ := ih
    exact ⟨c :: passed, rfl, by rw [Text.byteLength, ← Nat.add_assoc, hstop]⟩

/-- From a place one gets to places. -/
lemma isPlace {before : List Char} (h : Reaches offset s stop rest)
    (hoffset : Text.byteLength before = offset)
    (hend : s.head? = some '\n' → before.getLast? ≠ some '\r') :
    Text.IsPlace (before ++ s) stop := by
  induction h generalizing before with
  | refl => exact ⟨before, _, rfl, hoffset, hend⟩
  | @step offset stop c s rest hc _ ih =>
    have hnext : Text.byteLength (before ++ [c]) = offset + c.utf8Size := by
      rw [Piece.byteLength_append, hoffset]
      rfl
    have hplace := ih hnext (by simpa using fun _ => hc)
    rwa [List.append_assoc] at hplace

end Reaches

/-! ## Scanners -/

namespace Halts

lemma of_reaches (h : Reaches offset s offset' s') {x : Except Failure α}
    (hx : Halts offset' s' behind x) : Halts offset s behind x := by
  cases hx with
  | ok h' => exact .ok (h.trans h')
  | error h' => exact .error (h.trans h')

lemma bind {x : Except Failure α} {f : α → Except Failure β} (hx : Halts offset s behind x)
    (hf : ∀ a, Halts (behind a).1 (behind a).2 behind' (f a)) :
    Halts offset s behind' (x >>= f) := by
  cases hx with
  | ok h => exact (hf _).of_reaches h
  | error h => exact .error h

lemma map {x : Except Failure α} {g : α → β} (hx : Halts offset s behind x)
    (hg : ∀ a, behind' (g a) = behind a) : Halts offset s behind' (x.map g) := by
  cases hx with
  | ok h =>
    refine .ok ?_
    rw [hg]
    exact h
  | error h => exact .error h

end Halts

/-! ## Numbers -/

/-- Where a number scanner leaves off that has started at `offset`.  Its characters are of one byte
each. -/
def behindFound (offset : Nat) (x : List Char × List Char) : Nat × List Char :=
  (offset + x.1.length, x.2)

lemma halts_scanDigits (offset : Nat) (s : List Char) :
    Halts offset s (behindFound offset) (Token.scanDigits offset s) := by
  cases h : Token.scanDigits offset s with
  | error e =>
    unfold Token.scanDigits at h
    split at h
    · cases h
      exact .error .refl
    · cases h
  | ok x =>
    obtain ⟨hdigits, rfl, -⟩ := isDigits_of_scanDigits h
    exact .ok (.digits hdigits offset)

lemma reaches_scanMinus (offset : Nat) (s : List Char) :
    Reaches offset s (offset + (Token.scanMinus s).1.length) (Token.scanMinus s).2 := by
  unfold Token.scanMinus
  split
  · exact .cons (by decide) (by decide) .refl
  · exact .refl

lemma reaches_scanExponentSign (offset : Nat) (s : List Char) :
    Reaches offset s (offset + (Token.scanExponentSign s).1.length)
      (Token.scanExponentSign s).2 := by
  unfold Token.scanExponentSign
  split
  · exact .cons (by decide) (by decide) .refl
  · exact .cons (by decide) (by decide) .refl
  · exact .refl

lemma halts_scanFraction (offset : Nat) (s : List Char) :
    Halts offset s (behindFound offset) (Token.scanFraction offset s) := by
  unfold Token.scanFraction
  split
  · rename_i t
    have hpoint : Reaches offset ('.' :: t) (offset + 1) t := .cons (by decide) (by decide) .refl
    refine .of_reaches hpoint ((halts_scanDigits (offset + 1) t).map fun x => ?_)
    simp only [behindFound, List.length_cons, Nat.add_assoc, Nat.add_comm 1]
  · exact .ok .refl

lemma halts_scanPower (letter : Char) (offset : Nat) (s : List Char) :
    Halts (offset + 1) s (behindFound offset) (Token.scanPower letter (offset + 1) s) := by
  have hsign := reaches_scanExponentSign (offset + 1) s
  unfold Token.scanPower
  generalize Token.scanExponentSign s = x at hsign ⊢
  obtain ⟨sign, t⟩ := x
  refine .of_reaches hsign ?_
  refine (halts_scanDigits _ _).bind fun digits => .ok (.of_eq ?_)
  simp only [behindFound, List.length_append, List.length_cons]
  omega

lemma halts_scanExponent (offset : Nat) (s : List Char) :
    Halts offset s (behindFound offset) (Token.scanExponent offset s) := by
  unfold Token.scanExponent
  split
  · exact .of_reaches (.cons (by decide) (by decide) .refl) (halts_scanPower 'e' offset _)
  · exact .of_reaches (.cons (by decide) (by decide) .refl) (halts_scanPower 'E' offset _)
  · exact .ok .refl

lemma halts_scanNumber (offset : Nat) (s : List Char) :
    Halts offset s (behindFound offset) (Token.scanNumber offset s) := by
  have hsign := reaches_scanMinus offset s
  unfold Token.scanNumber
  generalize Token.scanMinus s = x at hsign ⊢
  obtain ⟨sign, t⟩ := x
  refine .of_reaches hsign ?_
  refine (halts_scanDigits _ _).bind fun whole => ?_
  refine (halts_scanFraction _ _).bind fun fraction => ?_
  refine (halts_scanExponent _ _).bind fun exponent => .ok (.of_eq ?_)
  simp only [behindFound, List.length_append]
  omega

/-! ## Strings -/

lemma ne_of_hexValue? {n : Nat} (h : Text.hexValue? c = some n) : c ≠ '\r' := by
  rintro rfl
  have hnone : Text.hexValue? '\r' = none := by decide
  rw [hnone] at h
  cases h

lemma reaches_scanHex4 {code : Nat} (h : Text.scanHex4 s = some (code, rest)) (offset : Nat) :
    Reaches offset s (offset + 4) rest ∧ rest = s.drop 4 := by
  unfold Text.scanHex4 at h
  split at h
  · simp only [bind, Option.bind_eq_some_iff, pure, Option.some.injEq, Prod.mk.injEq] at h
    obtain ⟨_, ha, _, hb, _, hc, _, hd, -, rfl⟩ := h
    exact ⟨.cons (ne_of_hexValue? ha) (utf8Size_of_hexValue? ha) <|
      .cons (ne_of_hexValue? hb) (utf8Size_of_hexValue? hb) <|
      .cons (ne_of_hexValue? hc) (utf8Size_of_hexValue? hc) <|
      .cons (ne_of_hexValue? hd) (utf8Size_of_hexValue? hd) .refl, rfl⟩
  · cases h

lemma reaches_decodeLowSurrogate {high : Nat}
    (h : Token.decodeLowSurrogate high s = .ok c) (offset : Nat) :
    Reaches offset s (offset + 6) (s.drop 6) := by
  unfold Token.decodeLowSurrogate at h
  split at h
  · split at h
    · cases h
    · rename_i low rest hscan
      obtain ⟨hreaches, rfl⟩ := reaches_scanHex4 hscan (offset + 2)
      exact .cons (by decide) (by decide) (.cons (by decide) (by decide) hreaches)
  · cases h

lemma reaches_decodeUnicode {n : Nat} (h : Token.decodeUnicode s = .ok (c, n)) (offset : Nat) :
    Reaches offset s (offset + n) (s.drop n) := by
  unfold Token.decodeUnicode at h
  split at h
  · cases h
  rename_i code rest hscan
  obtain ⟨hcode, rfl⟩ := reaches_scanHex4 hscan offset
  split_ifs at h
  · obtain ⟨d, hlow, ⟨⟩⟩ := exists_of_map_eq_ok h
    have hpair := hcode.trans (reaches_decodeLowSurrogate hlow (offset + 4))
    rwa [List.drop_drop] at hpair
  · obtain ⟨d, -, ⟨⟩⟩ := exists_of_map_eq_ok h
    exact hcode

lemma reaches_decodeEscape {quote : Char} (hquote : quote = '\'' ∨ quote = '"') {n : Nat}
    (h : Token.decodeEscape quote s = .ok (c, n)) (offset : Nat) :
    Reaches offset s (offset + n) (s.drop n) := by
  cases s with
  | nil => cases h
  | cons d t =>
    have hone : quote.utf8Size = 1 := by rcases hquote with rfl | rfl <;> decide
    have hne : quote ≠ '\r' := by rcases hquote with rfl | rfl <;> decide
    by_cases hd : d = 'u'
    · subst hd
      rw [decodeEscape_letter (isQuote_of_eq hquote)] at h
      obtain ⟨⟨d, m⟩, hunicode, ⟨⟩⟩ := exists_of_map_eq_ok h
      rw [Nat.add_comm m, ← Nat.add_assoc, Nat.add_comm 1 m]
      exact .cons (by decide) (by decide) (reaches_decodeUnicode hunicode (offset + 1))
    · obtain ⟨rfl, hsize⟩ := decodeEscape_short hone hd h
      have hreturn : d ≠ '\r' := by
        rintro rfl
        simp [Token.decodeEscape, hne.symm] at h
      exact .cons hreturn hsize .refl

lemma reaches_quote {quote : Char} (hquote : quote = '\'' ∨ quote = '"') :
    Reaches offset (quote :: s) (offset + 1) s := by
  rcases hquote with rfl | rfl <;> exact .cons (by decide) (by decide) .refl

/-- The rest of a string fails within the string or where it starts. -/
lemma halts_scanString {quote : Char} (hquote : quote = '\'' ∨ quote = '"') {start : Nat}
    {whole read : List Char} (h : Reaches start whole offset s) :
    Halts start whole (fun x => (x.2.1, x.2.2)) (Token.scanString quote start offset read s) := by
  fun_induction Token.scanString quote start offset read s with
  | case1 => exact .error .refl
  | case2 offset read t => exact .ok (h.trans (reaches_quote hquote))
  | case3 => exact .error h
  | case4 offset read t c n hescape _ ih =>
    have hbackslash : Reaches offset ('\\' :: t) (offset + 1) t :=
      .cons (by decide) (by decide) .refl
    exact ih (h.trans (hbackslash.trans (reaches_decodeEscape hquote hescape (offset + 1))))
  | case5 => exact .error h
  | case6 offset read c t _ _ hcontrol ih =>
    have hreturn : c ≠ '\r' := by
      rintro rfl
      exact hcontrol (by decide)
    exact ih (h.trans (.step hreturn .refl))

/-! ## Tokens -/

lemma reaches_scanWithEqual (bare withEqual : Token) (hc : c ≠ '\r') (hone : c.utf8Size = 1)
    (offset : Nat) (s : List Char) :
    Reaches offset (c :: s) (Token.scanWithEqual bare withEqual offset s).2.1
      (Token.scanWithEqual bare withEqual offset s).2.2 := by
  unfold Token.scanWithEqual
  split
  · exact .cons hc hone (.cons (by decide) (by decide) .refl)
  · exact .cons hc hone .refl

lemma halts_scanDoubled {token : Token} {what : Expectation} (hc : c ≠ '\r')
    (hone : c.utf8Size = 1) (offset : Nat) (s : List Char) :
    Halts offset (c :: s) (fun x => (x.2.1, x.2.2)) (Token.scanDoubled c token what offset s) := by
  unfold Token.scanDoubled
  split
  · split
    · rename_i heq
      subst heq
      exact .ok (.cons hc hone (.cons hc hone .refl))
    · exact .error .refl
  · exact .error .refl

lemma halts_scan (offset : Nat) (c : Char) (s : List Char) :
    Halts offset (c :: s) (fun x => (x.2.1, x.2.2)) (Token.scan offset c s) := by
  unfold Token.scan
  split
  case h_11 =>
    split
    · exact .ok (.cons (by decide) (by decide) (.cons (by decide) (by decide) .refl))
    · exact .ok (.cons (by decide) (by decide) .refl)
  case h_12 => exact halts_scanDoubled (by decide) (by decide) _ _
  case h_13 => exact halts_scanDoubled (by decide) (by decide) _ _
  case h_14 => exact halts_scanDoubled (by decide) (by decide) _ _
  case h_15 => exact .ok (reaches_scanWithEqual _ _ (by decide) (by decide) _ _)
  case h_16 => exact .ok (reaches_scanWithEqual _ _ (by decide) (by decide) _ _)
  case h_17 => exact .ok (reaches_scanWithEqual _ _ (by decide) (by decide) _ _)
  case h_18 =>
    split_ifs with hquote hnumber hword
    · have hquote : c = '\'' ∨ c = '"' := by simpa using hquote
      exact (halts_scanString hquote (reaches_quote hquote)).map fun _ => rfl
    · exact (halts_scanNumber offset (c :: s)).map fun _ => rfl
    · have hreturn : '\r' ∉ c :: s.takeWhile Token.isNameChar := by
        rintro (_ | ⟨_, hmem⟩)
        · exact absurd hword (by decide)
        · exact absurd (List.mem_takeWhile_imp hmem) (by decide)
      have hpassed := Reaches.append hreturn (s.dropWhile Token.isNameChar) offset
      rw [List.cons_append, List.takeWhile_append_dropWhile] at hpassed
      exact .ok hpassed
    · exact .error .refl
  all_goals exact .ok (.cons (by decide) (by decide) .refl)

/-! ## Texts -/

/-- What the scanner makes of a text stands at places. -/
def AtPlaces (place : Nat → Prop) : Except Failure (List Spanned) → Prop
  | .ok ts => ∀ t ∈ ts, place t.start ∧ place t.stop
  | .error e => place e.offset

lemma AtPlaces.cons {place : Nat → Prop} {t : Spanned} {x : Except Failure (List Spanned)}
    (hstart : place t.start) (hstop : place t.stop) (hx : AtPlaces place x) :
    AtPlaces place (x.map (t :: ·)) := by
  cases x with
  | error e => exact hx
  | ok ts => exact List.forall_mem_cons.2 ⟨⟨hstart, hstop⟩, hx⟩

/-- A position that is reached from the start of a token is a place. -/
lemma Reaches.isPlace_of_not_isBlank {before : List Char} (hblank : Token.isBlank c = false)
    (h : Reaches (Text.byteLength before) (c :: s) stop rest) :
    Text.IsPlace (before ++ c :: s) stop := by
  refine h.isPlace rfl fun hfeed => ?_
  obtain rfl : c = '\n' := by simpa using hfeed
  cases hblank

theorem scanFrom_places (before s : List Char) :
    AtPlaces (Text.IsPlace (before ++ s)) (Token.scanFrom (Text.byteLength before) s) := by
  generalize hoffset : Text.byteLength before = offset
  fun_induction Token.scanFrom offset s generalizing before with
  | case1 => exact List.forall_mem_nil _
  | case2 offset c s hblank ih =>
    have hnext := ih (before ++ [c])
    rw [Piece.byteLength_append, hoffset, Text.byteLength, utf8Size_of_isBlank hblank,
      List.append_assoc] at hnext
    exact hnext rfl
  | case3 offset c s hblank e hscan =>
    subst hoffset
    have hhalts := halts_scan (Text.byteLength before) c s
    rw [hscan] at hhalts
    cases hhalts with
    | error h => exact h.isPlace_of_not_isBlank (by simpa using hblank)
  | case4 offset c s hblank token stop rest hscan ih =>
    subst hoffset
    have hhalts := halts_scan (Text.byteLength before) c s
    rw [hscan] at hhalts
    cases hhalts with
    | ok h =>
      have hblank : Token.isBlank c = false := by simpa using hblank
      have hstart : Text.IsPlace (before ++ c :: s) (Text.byteLength before) :=
        Reaches.refl.isPlace_of_not_isBlank hblank
      refine .cons hstart (h.isPlace_of_not_isBlank hblank) ?_
      obtain ⟨passed, htext, rfl⟩ := h.exists_passed
      rw [htext, ← List.append_assoc]
      exact ih (before ++ passed) (Piece.byteLength_append before passed)

end JsonPath
