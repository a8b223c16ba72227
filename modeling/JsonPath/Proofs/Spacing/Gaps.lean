import JsonPath.Proofs.Spacing.Scanning

/-!
# Blanks between tokens

`Cuts offset s ts` derives the tokens `ts` of the text `s` that stands at the position `offset`,
one blank or one token at a time; such a derivation exists exactly when the scanner succeeds with
these tokens (`cuts_iff`).  Over derivations it is seen that blanks inserted between two tokens
move the tokens behind them and change nothing else (`Cuts.insert`).
-/

namespace JsonPath

/-- The token, with its place `n` bytes further on. -/
def Spanned.shift (n : Nat) (t : Spanned) : Spanned := ⟨t.token, t.start + n, t.stop + n⟩

/-- The text at the position is cut into these tokens. -/
inductive Cuts : Nat → List Char → List Spanned → Prop
  | nil (offset : Nat) : Cuts offset [] []
  | blank {offset : Nat} {c : Char} {s : List Char} {ts : List Spanned} (hc : Token.isBlank c)
      (h : Cuts (offset + 1) s ts) : Cuts offset (c :: s) ts
  | token {offset width : Nat} {token : Token} {s rest : List Char} {ts : List Spanned}
      (hscan : ScansLocally s token width rest) (h : Cuts (offset + width) rest ts) :
      Cuts offset s (⟨token, offset, offset + width⟩ :: ts)

/-! ## The scanner -/

section Scanner

variable {offset : Nat} {s : List Char} {ts : List Spanned}

lemma scanFrom_of_scan {c : Char} {rest : List Char} {token : Token} {stop : Nat}
    (hblank : Token.isBlank c = false) (h : Token.scan offset c s = .ok (token, stop, rest)) :
    Token.scanFrom offset (c :: s) =
      (Token.scanFrom stop rest).map (⟨token, offset, stop⟩ :: ·) := by
  rw [Token.scanFrom, if_neg (by simp [hblank])]
  split
  · rename_i hscan
    rw [h] at hscan
    cases hscan
  · rename_i hscan
    rw [h] at hscan
    cases hscan
    rfl

lemma Cuts.scanFrom_eq (h : Cuts offset s ts) : Token.scanFrom offset s = .ok ts := by
  induction h with
  | nil offset => rw [Token.scanFrom]
  | blank hc _ ih => rw [Token.scanFrom, if_pos hc, ih]
  | token hscan _ ih =>
    obtain ⟨c, cs, rfl, hblank, -, hsame⟩ := hscan
    rw [scanFrom_of_scan hblank (hsame _ _ (.refl _)), ih]
    rfl

lemma cuts_of_scanFrom (h : Token.scanFrom offset s = .ok ts) : Cuts offset s ts := by
  fun_induction Token.scanFrom offset s generalizing ts with
  | case1 offset =>
    cases h
    exact .nil offset
  | case2 offset c rest hblank ih => exact .blank hblank (ih h)
  | case3 => cases h
  | case4 offset c s hblank token stop rest hscan ih =>
    have hblank : Token.isBlank c = false := by simpa using hblank
    obtain ⟨width, rfl, hlocal⟩ := scansLocally_of_scan hblank hscan
    obtain ⟨us, hrest, rfl⟩ := exists_of_map_eq_ok h
    exact .token hlocal (ih hrest)

theorem cuts_iff : Cuts offset s ts ↔ Token.scanFrom offset s = .ok ts :=
  ⟨Cuts.scanFrom_eq, cuts_of_scanFrom⟩

end Scanner

/-! ## Places -/

namespace Cuts

variable {offset : Nat} {s : List Char} {ts : List Spanned}

/-- No token is empty, and none starts before the text. -/
lemma place (h : Cuts offset s ts) : ∀ t ∈ ts, offset ≤ t.start ∧ t.start < t.stop := by
  induction h with
  | nil => simp
  | blank _ _ ih =>
    intro t ht
    exact ⟨Nat.le_of_succ_le (ih t ht).1, (ih t ht).2⟩
  | token hscan _ ih =>
    obtain ⟨c, cs, -, -, rfl, -⟩ := hscan
    have hpos : 0 < Text.byteLength (c :: cs) :=
      Nat.lt_of_lt_of_le c.utf8Size_pos (Nat.le_add_right _ _)
    intro t ht
    rcases List.mem_cons.1 ht with rfl | ht
    · exact ⟨Nat.le_refl _, Nat.lt_add_of_pos_right hpos⟩
    · exact ⟨Nat.le_of_add_right_le (ih t ht).1, (ih t ht).2⟩

/-- The tokens follow one another. -/
lemma sorted (h : Cuts offset s ts) : ts.Pairwise fun t u => t.stop ≤ u.start := by
  induction h with
  | nil => exact .nil
  | blank _ _ ih => exact ih
  | token _ h ih => exact .cons (fun u hu => (h.place u hu).1) ih

/-- A place behind the last token on its left is behind all of them. -/
lemma stop_le {left right : List Spanned} {place : Nat} (h : Cuts offset s (left ++ right))
    (hplace : ∀ t ∈ left.getLast?, t.stop ≤ place) : ∀ t ∈ left, t.stop ≤ place := by
  rcases List.eq_nil_or_concat left with rfl | ⟨left, u, rfl⟩
  · simp
  · have hlast := hplace u (by simp)
    have hu := h.place u (by simp)
    have hsorted := (List.pairwise_append.1 h.sorted).1
    rw [List.concat_eq_append, List.pairwise_append] at hsorted
    intro t ht
    rw [List.concat_eq_append] at ht
    rcases List.mem_append.1 ht with ht | ht
    · have := hsorted.2.2 t ht u (by simp)
      omega
    · obtain rfl := List.mem_singleton.1 ht
      exact hlast

/-- A place before the first token on its right is before all of them. -/
lemma le_start {left right : List Spanned} {place : Nat} (h : Cuts offset s (left ++ right))
    (hplace : ∀ u ∈ right.head?, place ≤ u.start) : ∀ u ∈ right, place ≤ u.start := by
  cases right with
  | nil => simp
  | cons t right =>
    have hfirst := hplace t rfl
    have ht := h.place t (by simp)
    have hsorted := (List.pairwise_cons.1 (List.pairwise_append.1 h.sorted).2.1).1
    intro u hu
    rcases List.mem_cons.1 hu with rfl | hu
    · exact hfirst
    · have := hsorted u hu
      omega

/-- The text may stand anywhere. -/
lemma shift (h : Cuts offset s ts) (n : Nat) :
    Cuts (offset + n) s (ts.map (Spanned.shift n)) := by
  induction h with
  | nil => exact .nil _
  | blank hc _ ih =>
    rw [Nat.add_right_comm] at ih
    exact .blank hc ih
  | @token offset width _ _ _ _ hscan _ ih =>
    rw [Nat.add_right_comm] at ih
    have := Cuts.token hscan ih
    rwa [Nat.add_right_comm offset n width] at this

/-! ## Insertion -/

variable {blanks : List Char}

lemma blanks_append (hblanks : ∀ c ∈ blanks, Token.isBlank c)
    (h : Cuts (offset + blanks.length) s ts) : Cuts offset (blanks ++ s) ts := by
  induction blanks generalizing offset with
  | nil => exact h
  | cons c blanks ih =>
    refine .blank (hblanks c (by simp)) (ih (fun d hd => hblanks d (by simp [hd])) ?_)
    rwa [List.length_cons, Nat.add_comm blanks.length, ← Nat.add_assoc] at h

end Cuts

lemma replaces_blanks {blanks : List Char} (hblanks : ∀ c ∈ blanks, Token.isBlank c)
    (s : List Char) : Replaces s (blanks ++ s) := by
  cases blanks with
  | nil => exact .refl s
  | cons c blanks =>
    intro d hd
    obtain rfl : c = d := by simpa using hd
    exact .inr (hblanks c (by simp))

lemma utf8Size_of_isBlank {c : Char} (h : Token.isBlank c) : c.utf8Size = 1 := by
  have hmem : c = ' ' ∨ c = '\t' ∨ c = '\n' ∨ c = '\r' := by
    simpa [Token.isBlank, or_assoc] using h
  rcases hmem with rfl | rfl | rfl | rfl <;> decide

lemma eq_nil_of_byteLength {s : List Char} (h : Text.byteLength s = 0) : s = [] := by
  cases s with
  | nil => rfl
  | cons c s =>
    have hpos := c.utf8Size_pos
    rw [Text.byteLength] at h
    omega

/-- A part at the front of a text that is no longer than another one is a part of that one. -/
lemma exists_append_of_byteLength_le {written rest before after : List Char}
    (h : written ++ rest = before ++ after)
    (hle : Text.byteLength written ≤ Text.byteLength before) :
    ∃ s, before = written ++ s ∧ rest = s ++ after := by
  rcases List.append_eq_append_iff.1 h with ⟨s, hbefore, hrest⟩ | ⟨s, rfl, rfl⟩
  · exact ⟨s, hbefore, hrest⟩
  · rw [Piece.byteLength_append] at hle
    obtain rfl := eq_nil_of_byteLength (s := s) (by omega)
    exact ⟨[], by simp, rfl⟩

/-- Nothing stands before the cut. -/
lemma Cuts.split_front {offset : Nat} {after : List Char} {ts us : List Spanned}
    (h : Cuts offset after (ts ++ us)) (hts : ∀ t ∈ ts, t.stop ≤ offset) :
    Cuts offset after us ∧
      ∀ after' us', Replaces after after' → Cuts offset after' us' →
        Cuts offset after' (ts ++ us') := by
  cases ts with
  | nil => exact ⟨h, fun after' us' _ h' => h'⟩
  | cons t ts =>
    have hplace := h.place t (by simp)
    have hstop := hts t (by simp)
    omega

/-- A text can be cut between the tokens `ts` and the tokens `us`, and what stands behind the cut
can be replaced. -/
lemma Cuts.split {offset : Nat} {before after : List Char} {ts us : List Spanned}
    (h : Cuts offset (before ++ after) (ts ++ us))
    (hts : ∀ t ∈ ts.getLast?, t.stop ≤ offset + Text.byteLength before)
    (hus : ∀ u ∈ us.head?, offset + Text.byteLength before ≤ u.start) :
    Cuts (offset + Text.byteLength before) after us ∧
      ∀ after' us', Replaces after after' → Cuts (offset + Text.byteLength before) after' us' →
        Cuts offset (before ++ after') (ts ++ us') := by
  replace hts := h.stop_le hts
  replace hus := h.le_start hus
  generalize hs : before ++ after = s at h
  generalize hall : ts ++ us = all at h
  induction h generalizing before ts with
  | nil offset =>
    obtain ⟨rfl, rfl⟩ := List.append_eq_nil_iff.1 hs
    exact split_front (hall ▸ .nil offset) hts
  | @blank offset c s all hc h ih =>
    cases before with
    | nil =>
      subst hs hall
      exact split_front (.blank hc h) hts
    | cons d before =>
      obtain ⟨rfl, rfl⟩ := List.cons.inj hs
      rw [Text.byteLength, utf8Size_of_isBlank hc, ← Nat.add_assoc] at hts hus ⊢
      obtain ⟨hafter, hreplace⟩ := ih hts hus rfl hall
      exact ⟨hafter, fun after' us' hreplaces h' => .blank hc (hreplace after' us' hreplaces h')⟩
  | @token offset width token s rest all hscan h ih =>
    by_cases hnil : before = []
    · subst hnil hs
      exact split_front (hall ▸ .token hscan h) hts
    cases ts with
    | nil =>
      -- The token would have to start behind the cut, but some text stands before it.
      subst hall
      have hstart : offset + Text.byteLength before ≤ offset := hus _ List.mem_cons_self
      exact absurd (eq_nil_of_byteLength (by omega)) hnil
    | cons t ts =>
      obtain ⟨rfl, rfl⟩ := List.cons.inj hall
      obtain ⟨c, cs, rfl, hblank, hsize, hsame⟩ := hscan
      have hstop : offset + width ≤ offset + Text.byteLength before := hts _ List.mem_cons_self
      obtain ⟨between, rfl, rfl⟩ :=
        @exists_append_of_byteLength_le (c :: cs) _ _ _ hs.symm (by omega)
      rw [Piece.byteLength_append, hsize, ← Nat.add_assoc] at hts hus ⊢
      obtain ⟨hafter, hreplace⟩ := ih (fun t ht => hts t (by simp [ht])) hus rfl rfl
      refine ⟨hafter, fun after' us' hreplaces h' => ?_⟩
      refine .token ⟨c, cs, ?_, hblank, hsize, fun offset' rest' hrest => ?_⟩
        (hreplace after' us' hreplaces h')
      · rw [List.append_assoc, List.cons_append]
      · exact hsame offset' rest' ((hreplaces.append between).trans hrest)

/-- Blanks between the tokens `ts` and the tokens `us` move the latter. -/
theorem Cuts.insert {offset : Nat} {before after blanks : List Char} {ts us : List Spanned}
    (hblanks : ∀ c ∈ blanks, Token.isBlank c) (h : Cuts offset (before ++ after) (ts ++ us))
    (hts : ∀ t ∈ ts.getLast?, t.stop ≤ offset + Text.byteLength before)
    (hus : ∀ u ∈ us.head?, offset + Text.byteLength before ≤ u.start) :
    Cuts offset (before ++ (blanks ++ after)) (ts ++ us.map (Spanned.shift blanks.length)) := by
  obtain ⟨hafter, hreplace⟩ := h.split hts hus
  exact hreplace _ _ (replaces_blanks hblanks after)
    (blanks_append hblanks (hafter.shift blanks.length))

end JsonPath
