import JsonPath.Proofs.Extending.Completions
import JsonPath.Proofs.Failures.Places

/-!
# Completing texts

What has been found for tokens is brought back to texts.  A text is cut in front of a token, and
fillers are written there instead of what follows: each of them behind a blank (`Cuts.far`), or,
where no blank may stand, the first one directly behind the dot or the name that is continued
(`Cuts.near`).  `exists_filled` puts both together: the text in front of the position of a failure
has the tokens that were read up to there, and with the fillers behind it ends with its last token.
-/

namespace JsonPath

/-! ## Fillers in a text -/

namespace Filler

/-- The characters of a filler. -/
def written : Filler → List Char
  | .current => ['@']
  | .word => ['a']
  | .string => (Text.quoteName "a").toList
  | .number => ['0']
  | .equals => ['=', '=']
  | .leftBracket => ['[']
  | .rightBracket => [']']
  | .leftParen => ['(']
  | .rightParen => [')']

/-- Fillers with a blank before each of them. -/
def pieces (fs : List Filler) : List Piece :=
  fs.flatMap fun f => [.blank, .lexeme f.token f.written]

lemma scans (f : Filler) {rest : List Char} (hrest : EndsToken rest) :
    Piece.Scans (.lexeme f.token f.written) rest := by
  cases f with
  | word => exact @Piece.scans_word 'a' [] rest (by decide) (by simp) hrest
  | string => exact Piece.scans_name "a" rest
  | number =>
    exact @Piece.scans_number "0" rest
      ⟨['0'], ⟨['0'], [], [], ⟨by simp, by simp⟩, .inl rfl, .inl rfl, rfl⟩, .inl rfl⟩ hrest
  | equals => exact ⟨_, _, rfl, by decide, fun _ => rfl⟩
  | _ => exact Piece.scans_closed (by simp [token, written, Piece.closedSigns]) rest

lemma endsToken_pieces (fs : List Filler) : EndsToken (Piece.allChars (pieces fs)) := by
  cases fs with
  | nil => exact .nil
  | cons f fs => exact .cons (by decide) (by decide) (by decide)

lemma allScan_pieces (fs : List Filler) : Piece.AllScan (pieces fs) [] := by
  induction fs with
  | nil => trivial
  | cons f fs ih =>
    refine ⟨trivial, scans f ?_, ih⟩
    rw [List.append_nil]
    exact endsToken_pieces fs

lemma are_place (fs : List Filler) (offset : Nat) : Are fs (Piece.place offset (pieces fs)) := by
  induction fs generalizing offset with
  | nil => rfl
  | cons f fs ih => exact congrArg _ (ih _)

/-- The last of the fillers ends the text. -/
lemma stop_pieces (f : Filler) (fs : List Filler) (offset : Nat) :
    (Piece.place offset (pieces (f :: fs))).getLast?.map Spanned.stop =
      some (offset + Piece.width (pieces (f :: fs))) := by
  have hcons (f : Filler) (fs : List Filler) :
      pieces (f :: fs) = .blank :: .lexeme f.token f.written :: pieces fs := rfl
  induction fs generalizing f offset with
  | nil =>
    rw [hcons, Piece.width_blank, Piece.width_lexeme]
    simp [pieces, Piece.place, Piece.width_nil, Nat.add_assoc]
  | cons g fs ih =>
    have hne : Piece.place (offset + 1 + Text.byteLength f.written) (pieces (g :: fs)) ≠ [] := by
      simp [hcons, Piece.place]
    rw [hcons, Piece.place, Piece.place, List.getLast?_cons_of_ne_nil hne, ih, Piece.width_blank,
      Piece.width_lexeme]
    simp [Nat.add_assoc]

/-- The fillers with blanks before them, except for the first one. -/
def nearPieces : List Filler → List Piece
  | [] => []
  | f :: fs => .lexeme f.token f.written :: pieces fs

lemma allScan_nearPieces (fs : List Filler) : Piece.AllScan (nearPieces fs) [] := by
  cases fs with
  | nil => trivial
  | cons f fs => exact (allScan_pieces (f :: fs)).2

lemma stop_nearPieces (f : Filler) (fs : List Filler) (offset : Nat) :
    (Piece.place offset (nearPieces (f :: fs))).getLast?.map Spanned.stop =
      some (offset + Piece.width (nearPieces (f :: fs))) := by
  cases fs with
  | nil => simp [nearPieces, pieces, Piece.place, Piece.width_lexeme, Piece.width_nil]
  | cons g fs =>
    have hne : Piece.place (offset + Text.byteLength f.written) (pieces (g :: fs)) ≠ [] := by
      simp [pieces, Piece.place]
    rw [nearPieces, Piece.place, List.getLast?_cons_of_ne_nil hne, stop_pieces, Piece.width_lexeme]
    simp [Nat.add_assoc]

lemma are_nearPieces (fs : List Filler) (offset : Nat) :
    Are fs (Piece.place offset (nearPieces fs)) := by
  cases fs with
  | nil => rfl
  | cons f fs => exact congrArg _ (are_place fs _)

end Filler

/-! ## Signs and words at the end of a text -/

section Ends

variable {offset stop : Nat} {c : Char} {s rest : List Char}

/-- The tokens that a filler may stand directly behind. -/
def IsNear (token : Token) : Prop := ∃ f, Filler.continues token f

lemma isNear_iff {token : Token} :
    IsNear token ↔ token = .dot ∨ token = .doubleDot ∨ ∃ name, token = .name name := by
  constructor
  · rintro ⟨f, hf⟩
    cases token <;> simp_all [Filler.continues]
  · rintro (rfl | rfl | ⟨name, rfl⟩)
    · exact ⟨.word, rfl⟩
    · exact ⟨.word, rfl⟩
    · exact ⟨.leftParen, rfl⟩

lemma scanDoubled_token {sign : Char} {token t : Token} {what : Expectation}
    (h : Token.scanDoubled sign token what offset s = .ok (t, stop, rest)) : t = token := by
  unfold Token.scanDoubled at h
  split at h
  · split at h
    · cases h
      rfl
    · cases h
  · cases h

lemma scanWithEqual_token {bare withEqual t : Token}
    (h : (.ok (Token.scanWithEqual bare withEqual offset s) : Except Failure _) =
      .ok (t, stop, rest)) : t = bare ∨ t = withEqual := by
  unfold Token.scanWithEqual at h
  split at h <;> cases h
  · exact .inr rfl
  · exact .inl rfl

/-- Dots and names are scanned from a dot and from the first character of a word. -/
lemma scan_near {token : Token} (h : Token.scan offset c s = .ok (token, stop, rest))
    (htoken : IsNear token) :
    (c = '.' ∧ ((token = .dot ∧ s = rest) ∨ (token = .doubleDot ∧ s = '.' :: rest))) ∨
      (Token.isNameFirst c ∧
        token = .ofWord (String.ofList (c :: s.takeWhile Token.isNameChar)) ∧
        rest = s.dropWhile Token.isNameChar) := by
  rw [isNear_iff] at htoken
  unfold Token.scan at h
  split at h
  case h_11 =>
    refine .inl ⟨rfl, ?_⟩
    split at h <;> cases h
    · exact .inr ⟨rfl, rfl⟩
    · exact .inl ⟨rfl, rfl⟩
  case h_12 => simp [scanDoubled_token h] at htoken
  case h_13 => simp [scanDoubled_token h] at htoken
  case h_14 => simp [scanDoubled_token h] at htoken
  case h_15 => rcases scanWithEqual_token h with rfl | rfl <;> simp at htoken
  case h_16 => rcases scanWithEqual_token h with rfl | rfl <;> simp at htoken
  case h_17 => rcases scanWithEqual_token h with rfl | rfl <;> simp at htoken
  case h_18 =>
    split_ifs at h with hquote hnumber hword
    · obtain ⟨_, -, ⟨⟩⟩ := exists_of_map_eq_ok h
      simp at htoken
    · obtain ⟨_, -, ⟨⟩⟩ := exists_of_map_eq_ok h
      simp at htoken
    · cases h
      exact .inr ⟨hword, rfl, rfl⟩
  all_goals cases h; simp at htoken

/-- A filler directly behind a dot or a name does not go on with it. -/
lemma scan_continued {token : Token} {f : Filler}
    (h : ∀ offset, Token.scan offset c s = .ok (token, offset + stop, []))
    (hcontinues : Filler.continues token f) (rest : List Char) (offset : Nat) :
    Token.scan offset c (s ++ (f.written ++ rest)) =
      .ok (token, offset + stop, f.written ++ rest) := by
  rcases scan_near (h offset) ⟨f, hcontinues⟩ with
    ⟨rfl, ⟨rfl, rfl⟩ | ⟨rfl, rfl⟩⟩ | ⟨hfirst, htoken, hrest⟩
  · cases f with
    | word =>
      have hstop : offset + 1 = offset + stop := congrArg (·.2.1) (Except.ok.inj (h offset))
      rw [← hstop]
      exact scan_dot_of_head_ne (by simp [Filler.written]) offset
    | _ => cases hcontinues
  · cases f with
    | word =>
      have hstop : offset + 2 = offset + stop := congrArg (·.2.1) (Except.ok.inj (h offset))
      rw [← hstop]
      rfl
    | _ => cases hcontinues
  · have hparen : f = .leftParen := by
      rw [htoken, Token.ofWord] at hcontinues
      split_ifs at hcontinues <;> cases f <;> first | rfl | cases hcontinues
    subst hparen
    have hname : ∀ d ∈ s, Token.isNameChar d := List.dropWhile_eq_nil_iff.1 hrest.symm
    have htake : (s ++ (Filler.leftParen.written ++ rest)).takeWhile Token.isNameChar =
        s.takeWhile Token.isNameChar := by
      rw [List.takeWhile_append_of_pos hname, List.takeWhile_eq_self_iff.2 hname]
      simp +decide [Filler.written]
    have hdrop : (s ++ (Filler.leftParen.written ++ rest)).dropWhile Token.isNameChar =
        Filler.leftParen.written ++ rest := by
      rw [List.dropWhile_append_of_pos hname]
      simp +decide [Filler.written]
    have hscan := h offset
    rw [scan_word hfirst, Except.ok.injEq, Prod.mk.injEq, Prod.mk.injEq] at hscan
    rw [scan_word hfirst, htake, hdrop, hscan.1, hscan.2.1]

end Ends

/-! ## Cutting a text -/

lemma replaces_nil (s : List Char) : Replaces s [] := fun _ h => nomatch h

lemma Filler.replaces_pieces (fs : List Filler) (s : List Char) :
    Replaces s (Piece.allChars (pieces fs)) := by
  cases fs with
  | nil => exact replaces_nil s
  | cons f fs =>
    intro c hc
    obtain rfl : ' ' = c := by simpa [pieces, Piece.allChars, Piece.chars] using hc
    exact .inr (by decide)

lemma cuts_of_allScan {ps : List Piece} (h : Piece.AllScan ps []) (offset : Nat) :
    Cuts offset (Piece.allChars ps) (Piece.place offset ps) := by
  rw [cuts_iff]
  have hscan := Piece.scanFrom_allChars h offset
  rw [List.append_nil, Token.scanFrom] at hscan
  simpa [Except.map] using hscan

section Cutting

variable {text : List Char} {us vs : List Spanned}

lemma Cuts.isPlace {ts : List Spanned} (h : Cuts 0 text ts) :
    ∀ t ∈ ts, Text.IsPlace text t.start ∧ Text.IsPlace text t.stop := by
  have hplaces := scanFrom_places [] text
  rw [Text.byteLength, h.scanFrom_eq] at hplaces
  exact hplaces

lemma Text.IsPlace.le {position : Nat} (h : Text.IsPlace text position) :
    position ≤ Text.byteLength text := by
  obtain ⟨before, after, rfl, rfl, -⟩ := h
  rw [Piece.byteLength_append]
  exact Nat.le_add_right _ _

/-- Where the tokens `vs` start is behind the tokens `us`. -/
lemma Cuts.stop_le_startOf (h : Cuts 0 text (us ++ vs)) :
    ∀ t ∈ us.getLast?, t.stop ≤ Parser.startOf (Text.byteLength text) vs := by
  intro t ht
  have hmem := List.mem_of_getLast? ht
  cases vs with
  | nil => exact (h.isPlace t (by simp [hmem])).2.le
  | cons v vs => exact (List.pairwise_append.1 h.sorted).2.2 t hmem v List.mem_cons_self

lemma Cuts.startOf_le (vs : List Spanned) (n : Nat) :
    ∀ v ∈ vs.head?, Parser.startOf n vs ≤ v.start := by
  cases vs <;> simp [Parser.startOf]

lemma Cuts.isPlace_startOf (h : Cuts 0 text (us ++ vs)) :
    Text.IsPlace text (Parser.startOf (Text.byteLength text) vs) := by
  cases vs with
  | nil => exact ⟨text, [], by simp, rfl, by simp⟩
  | cons v vs => exact (h.isPlace v (by simp)).1

/-- A text can be cut in front of the tokens `vs`, and what stands there can be replaced. -/
lemma Cuts.cut (h : Cuts 0 text (us ++ vs)) :
    ∃ before after, text = before ++ after ∧
      Text.byteLength before = Parser.startOf (Text.byteLength text) vs ∧
      Cuts (Text.byteLength before) after vs ∧
      ∀ after' ts, Replaces after after' → Cuts (Text.byteLength before) after' ts →
        Cuts 0 (before ++ after') (us ++ ts) := by
  obtain ⟨before, after, htext, hposition, -⟩ := h.isPlace_startOf
  have hus := h.stop_le_startOf
  have hvs := startOf_le vs (Text.byteLength text)
  rw [← hposition] at hus hvs
  rw [htext] at h
  have hsplit := h.split (by simpa using hus) (by simpa using hvs)
  rw [Nat.zero_add] at hsplit
  exact ⟨before, after, htext, hposition, hsplit⟩

/-- Fillers can be put there behind blanks. -/
theorem Cuts.far (h : Cuts 0 text (us ++ vs)) :
    ∃ before after, text = before ++ after ∧
      Text.byteLength before = Parser.startOf (Text.byteLength text) vs ∧ Cuts 0 before us ∧
      ∀ fs, Cuts 0 (before ++ Piece.allChars (Filler.pieces fs))
        (us ++ Piece.place (Text.byteLength before) (Filler.pieces fs)) := by
  obtain ⟨before, after, htext, hposition, -, hreplace⟩ := h.cut
  refine ⟨before, after, htext, hposition, ?_, fun fs => ?_⟩
  · simpa using hreplace [] [] (replaces_nil _) (.nil _)
  · exact hreplace _ _ (Filler.replaces_pieces fs after)
      (cuts_of_allScan (Filler.allScan_pieces fs) _)

lemma Cuts.cons {offset stop : Nat} {c : Char} {s rest : List Char} {token : Token}
    {ts : List Spanned} (hblank : Token.isBlank c = false)
    (hscan : Token.scan offset c s = .ok (token, stop, rest)) (h : Cuts stop rest ts) :
    Cuts offset (c :: s) (⟨token, offset, stop⟩ :: ts) := by
  rw [cuts_iff, scanFrom_of_scan hblank hscan, h.scanFrom_eq]
  rfl

/-- The first token is scanned from the first character, where it stands there. -/
lemma Cuts.scansLocally {offset : Nat} {s : List Char} {t : Spanned} (h : Cuts offset s (t :: vs))
    (hstart : t.start = offset) :
    ∃ width rest, t.stop = offset + width ∧ ScansLocally s t.token width rest := by
  cases h with
  | blank _ h =>
    have := (h.place t List.mem_cons_self).1
    omega
  | token hscan _ => exact ⟨_, _, rfl, hscan⟩

/-- Directly behind a token a filler that continues it can be put without a blank. -/
theorem Cuts.near {t : Spanned} (h : Cuts 0 text (us ++ t :: vs)) :
    ∃ before after, text = before ++ after ∧ Text.byteLength before = t.stop ∧
      Cuts 0 before (us ++ [t]) ∧
      ∀ f fs, Filler.continues t.token f →
        Cuts 0 (before ++ Piece.allChars (Filler.nearPieces (f :: fs)))
          (us ++ t :: Piece.place t.stop (Filler.nearPieces (f :: fs))) := by
  obtain ⟨before, after, rfl, hposition, hafter, hreplace⟩ := h.cut
  have hstart : t.start = Text.byteLength before := hposition.symm
  obtain ⟨width, rest, hstop, c, cs, rfl, hblank, hwidth, hscan⟩ := hafter.scansLocally hstart
  obtain ⟨token, _, _⟩ := t
  obtain rfl := hstart
  obtain rfl := hstop
  have hfirst (s : List Char) : Replaces (c :: (cs ++ rest)) (c :: s) := fun _ hd => .inl hd
  have hscan' (offset : Nat) : Token.scan offset c cs = .ok (token, offset + width, []) := by
    simpa using hscan offset [] (replaces_nil _)
  refine ⟨before ++ c :: cs, rest, by simp, ?_, ?_, fun f fs hcontinues => ?_⟩
  · rw [Piece.byteLength_append, hwidth]
  · exact hreplace _ _ (hfirst cs) (.cons hblank (hscan' _) (.nil _))
  · rw [List.append_assoc, List.cons_append]
    exact hreplace _ _ (hfirst _) (.cons hblank (scan_continued hscan' hcontinues _ _)
      (cuts_of_allScan (Filler.allScan_nearPieces (f :: fs)) _))

lemma getLast?_append_of_stop {ts ks : List Spanned} {stop : Nat}
    (h : ks.getLast?.map Spanned.stop = some stop) :
    (ts ++ ks).getLast?.map Spanned.stop = some stop := by
  cases hlast : ks.getLast? with
  | none => simp [hlast] at h
  | some k => rw [List.getLast?_append, hlast, Option.some_or, ← hlast, h]

/-- The text in front of the position is cut into the tokens there, and fillers can be put behind
it, so that the last token ends with the text. -/
theorem exists_filled {position : Nat} {near : Bool} {fs : List Filler} (h : Cuts 0 text (us ++ vs))
    (hedge : Parser.IsEdge us vs (Text.byteLength text) fs near position)
    (hlast : fs ≠ [] ∨ near = true) :
    ∃ before after, text = before ++ after ∧ Text.byteLength before = position ∧ Cuts 0 before us ∧
      ∃ more ks, Cuts 0 (before ++ more) (us ++ ks) ∧ Filler.Are fs ks ∧
        (near = true → ∀ k ∈ ks.head?, k.start = position) ∧
        (us ++ ks).getLast?.map Spanned.stop = some (Text.byteLength (before ++ more)) := by
  cases hedge with
  | far hposition =>
    obtain ⟨before, after, htext, hbefore, hus, hfar⟩ := h.far
    refine ⟨before, after, htext, hbefore.trans hposition.symm, hus, _, _, hfar fs,
      Filler.are_place fs _, by simp, ?_⟩
    obtain ⟨f, fs, rfl⟩ := List.exists_cons_of_ne_nil (hlast.resolve_right (by simp))
    rw [getLast?_append_of_stop (Filler.stop_pieces f fs _), Piece.byteLength_append, Piece.width]
  | @near _ t ht hcontinues hposition =>
    obtain ⟨us, rfl⟩ := List.getLast?_eq_some_iff.1 ht
    rw [List.append_assoc] at h
    obtain ⟨before, after, htext, hbefore, hus, hnear⟩ := h.near
    refine ⟨before, after, htext, hbefore.trans hposition.symm, hus, ?_⟩
    cases fs with
    | nil =>
      refine ⟨[], [], by simpa using hus, rfl, by simp, ?_⟩
      simp [hbefore]
    | cons f fs =>
      have hnear := hnear f fs (hcontinues f rfl)
      refine ⟨_, _, by simpa using hnear, Filler.are_nearPieces (f :: fs) t.stop, ?_, ?_⟩
      · rintro - k hk
        obtain rfl := Option.some.inj hk
        exact hposition.symm
      · rw [getLast?_append_of_stop (Filler.stop_nearPieces f fs _), Piece.byteLength_append,
          hbefore, Piece.width]

end Cutting

end JsonPath
