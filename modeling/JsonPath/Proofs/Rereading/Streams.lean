import JsonPath.Proofs.Canonical.Scanning
import JsonPath.Proofs.Canonical.Reading

/-!
# The tokens of canonical text that may not be writable

Canonical text exists for every query, also for one that the query language has no form for.  The
scanner may refuse such a text, and where it does not, its tokens need not be those of the pieces.
So nothing is said here of whether a text is scanned.  `TokensOf s ts` says that `ts` are the
tokens of the text `s`, and the lemmas below tell the first of them from the first characters.
-/

namespace JsonPath

/-- The text is cut into these tokens, wherever it stands. -/
def TokensOf (s : List Char) (ts : List Token) : Prop :=
  ∃ offset spanned, Token.scanFrom offset s = .ok spanned ∧ spanned.map Spanned.token = ts

namespace TokensOf

variable {s written rest : List Char} {token : Token} {ts : List Token}

lemma eq_nil (h : TokensOf [] ts) : ts = [] := by
  obtain ⟨offset, spanned, hscan, rfl⟩ := h
  rw [Token.scanFrom] at hscan
  cases hscan
  rfl

lemma blank (h : TokensOf (' ' :: s) ts) : TokensOf s ts := by
  obtain ⟨offset, spanned, hscan, rfl⟩ := h
  have hblank : Token.isBlank ' ' = true := by decide
  rw [Token.scanFrom, if_pos hblank] at hscan
  exact ⟨offset + 1, spanned, hscan, rfl⟩

/-- The first token of a text that begins with a written token. -/
lemma lexeme (hscans : (Piece.lexeme token written).Scans rest)
    (h : TokensOf (written ++ rest) ts) : ∃ ts', ts = token :: ts' ∧ TokensOf rest ts' := by
  obtain ⟨offset, spanned, hscan, rfl⟩ := h
  obtain ⟨c, cs, rfl, hblank, hwritten⟩ := hscans
  rw [List.cons_append, Token.scanFrom, if_neg (by simp [hblank])] at hscan
  split at hscan
  · cases hscan
  · rename_i found stop rest' hfound
    rw [hwritten, Except.ok.injEq, Prod.mk.injEq, Prod.mk.injEq] at hfound
    obtain ⟨rfl, rfl, rfl⟩ := hfound
    cases htail : Token.scanFrom (offset + Text.byteLength (c :: cs)) rest with
    | error e =>
      rw [htail] at hscan
      cases hscan
    | ok spanned' =>
      rw [htail] at hscan
      cases hscan
      exact ⟨spanned'.map Spanned.token, rfl, _, spanned', htail, rfl⟩

/-- The first token of a text that begins with a sign that nothing goes on with. -/
lemma closed (token : Token) (hsign : (token, written) ∈ Piece.closedSigns)
    (h : TokensOf (written ++ rest) ts) : ∃ ts', ts = token :: ts' ∧ TokensOf rest ts' :=
  h.lexeme (Piece.scans_closed hsign rest)

/-- The same for a sign of one character. -/
lemma sign {c : Char} (token : Token) (hsign : (token, [c]) ∈ Piece.closedSigns)
    (h : TokensOf (c :: rest) ts) : ∃ ts', ts = token :: ts' ∧ TokensOf rest ts' :=
  closed token hsign h

/-- A brace outside of strings starts no token. -/
lemma not_brace : ¬ TokensOf ('\x7b' :: rest) ts := by
  rintro ⟨offset, spanned, hscan, -⟩
  have hblank : ¬ Token.isBlank '\x7b' = true := by decide
  have hnone : Token.scan offset '\x7b' rest = .error ⟨offset, .expected .anyToken⟩ := rfl
  rw [Token.scanFrom, if_neg hblank] at hscan
  split at hscan
  · cases hscan
  · rename_i hfound
    rw [hnone] at hfound
    cases hfound

end TokensOf

/-! ## What follows -/

/-- What follows ends the token before it, and binds an expression before it less tightly than
`bound`. -/
structure Follows (bound : Nat) (rest : List Char) : Prop where
  ends : EndsToken rest
  binds : ∀ t ts, TokensOf rest (t :: ts) → Parser.binding t < bound

lemma Follows.mono {low high : Nat} {rest : List Char} (h : Follows low rest)
    (hle : low ≤ high) : Follows high rest :=
  ⟨h.ends, fun t ts hts => Nat.lt_of_lt_of_le (h.binds t ts hts) hle⟩

lemma Follows.head {bound : Nat} {rest : List Char} {ts : List Token} {token : Token}
    (h : Follows bound rest) (hts : TokensOf rest ts) (htoken : bound ≤ Parser.binding token) :
    ts.head? ≠ some token := by
  intro hhead
  obtain ⟨ts', rfl⟩ := List.head?_eq_some_iff.1 hhead
  exact absurd (h.binds token ts' hts) (Nat.not_lt.2 htoken)

lemma follows_nil : Follows 1 [] where
  ends := .nil
  binds t ts hts := absurd hts.eq_nil (List.cons_ne_nil t ts)

/-- An operator with a blank before it. -/
lemma follows_operator {token : Token} {written rest : List Char} {bound : Nat}
    (hscans : (Piece.lexeme token written).Scans rest) (hbound : Parser.binding token < bound) :
    Follows bound (' ' :: (written ++ rest)) where
  ends := endsToken_of_mem (by decide) _
  binds t ts hts := by
    obtain ⟨ts', heq, -⟩ := hts.blank.lexeme hscans
    cases heq
    exact hbound

/-- What follows ends an item of a list in brackets: a comma, or the sign that closes the list. -/
structure ItemEnds (close : Token) (rest : List Char) : Prop where
  ends : EndsToken rest
  head : ∀ ts, TokensOf rest ts → ts.head? = some .comma ∨ ts.head? = some close

lemma itemEnds_comma (close : Token) (rest : List Char) : ItemEnds close (',' :: rest) where
  ends := endsToken_of_mem (by decide) rest
  head ts hts := by
    obtain ⟨ts', rfl, -⟩ := hts.sign .comma (by decide)
    exact .inl rfl

lemma itemEnds_bracket (rest : List Char) : ItemEnds .rightBracket (']' :: rest) where
  ends := endsToken_of_mem (by decide) rest
  head ts hts := by
    obtain ⟨ts', rfl, -⟩ := hts.sign .rightBracket (by decide)
    exact .inr rfl

lemma itemEnds_paren (rest : List Char) : ItemEnds .rightParen (')' :: rest) where
  ends := endsToken_of_mem (by decide) rest
  head ts hts := by
    obtain ⟨ts', rfl, -⟩ := hts.sign .rightParen (by decide)
    exact .inr rfl

lemma ItemEnds.follows {close : Token} {rest : List Char} (h : ItemEnds close rest)
    (hclose : Parser.binding close = 0) : Follows 1 rest where
  ends := h.ends
  binds t ts hts := by
    rcases h.head _ hts with heq | heq
    · cases heq
      decide
    · cases heq
      rw [hclose]
      decide

/-! ## Literals -/

/-- A separator before every item but the first. -/
lemma exists_separator (first : Bool) (out : String) :
    ∃ written, (if first then out else out ++ ",").toList = out.toList ++ written := by
  cases first with
  | true => exact ⟨[], (List.append_nil _).symm⟩
  | false => exact ⟨_, String.toList_append⟩

mutual

/-- Writing a value only appends to what is there. -/
lemma Json.exists_write (out : String) (value : Json) :
    ∃ written, (value.write out).toList = out.toList ++ written := by
  cases value with
  | null => exact ⟨_, String.toList_append⟩
  | bool b => cases b <;> exact ⟨_, String.toList_append⟩
  | number n => exact ⟨_, String.toList_append⟩
  | string s => exact ⟨_, String.toList_append⟩
  | array elements =>
    obtain ⟨written, h⟩ := Json.exists_writeElements (out ++ "[") true elements
    rw [Json.write, String.toList_append, h, String.toList_append, List.append_assoc,
      List.append_assoc]
    exact ⟨_, rfl⟩
  | object members =>
    obtain ⟨written, h⟩ := Json.exists_writeMembers (out ++ "\x7b") true members
    rw [Json.write, String.toList_append, h, String.toList_append, List.append_assoc,
      List.append_assoc]
    exact ⟨_, rfl⟩

lemma Json.exists_writeElements (out : String) (first : Bool) (elements : List Json) :
    ∃ written, (Json.writeElements out first elements).toList = out.toList ++ written := by
  match elements with
  | [] => exact ⟨[], (List.append_nil _).symm⟩
  | x :: xs =>
    obtain ⟨separator, hseparator⟩ := exists_separator first out
    obtain ⟨written, hx⟩ := Json.exists_write (if first then out else out ++ ",") x
    obtain ⟨others, hxs⟩ :=
      Json.exists_writeElements (x.write (if first then out else out ++ ",")) false xs
    rw [Json.writeElements, hxs, hx, hseparator, List.append_assoc, List.append_assoc]
    exact ⟨_, rfl⟩

lemma Json.exists_writeMembers (out : String) (first : Bool) (members : List (String × Json)) :
    ∃ written, (Json.writeMembers out first members).toList = out.toList ++ written := by
  match members with
  | [] => exact ⟨[], (List.append_nil _).symm⟩
  | (name, x) :: ms =>
    obtain ⟨separator, hseparator⟩ := exists_separator first out
    obtain ⟨written, hx⟩ :=
      Json.exists_write ((if first then out else out ++ ",") ++ Json.quote name ++ ":") x
    obtain ⟨others, hms⟩ := Json.exists_writeMembers
      (x.write ((if first then out else out ++ ",") ++ Json.quote name ++ ":")) false ms
    rw [Json.writeMembers, hms, hx, String.toList_append, String.toList_append, hseparator]
    simp only [List.append_assoc]
    exact ⟨_, rfl⟩

end

/-- An array or an object begins with its bracket, which starts no operand. -/
lemma TokensOf.container {value : Json} {rest : List Char} {ts : List Token}
    (hvalue : value.isScalar = false) (h : TokensOf (value.text.toList ++ rest) ts) :
    ts.head? = some .leftBracket := by
  cases value with
  | array elements =>
    obtain ⟨written, hwritten⟩ := Json.exists_writeElements ("" ++ "[") true elements
    have htext : (Json.array elements).text.toList = '[' :: (written ++ [']']) := by
      rw [Json.text, Json.write, String.toList_append, hwritten]
      rfl
    rw [htext] at h
    obtain ⟨ts', rfl, -⟩ := h.sign .leftBracket (by decide)
    rfl
  | object members =>
    obtain ⟨written, hwritten⟩ := Json.exists_writeMembers ("" ++ "\x7b") true members
    have htext : (Json.object members).text.toList = '\x7b' :: (written ++ ['\x7d']) := by
      rw [Json.text, Json.write, String.toList_append, hwritten]
      rfl
    rw [htext] at h
    exact absurd h TokensOf.not_brace
  | _ => simp [Json.isScalar, Json.isContainer] at hvalue

/-! ## Names of functions -/

/-- Whether a name is a bare word: a letter, an underscore or a character beyond ASCII, and then
such characters and digits. -/
def Token.isWord (name : String) : Bool :=
  match name.toList with
  | [] => Bool.false
  | c :: cs => Token.isNameFirst c && cs.all Token.isNameChar

mutual

/-- The functions that are called in the filters of a segment. -/
def Segment.functions : Segment → List String
  | .union selectors => Segment.allFunctions selectors
  | .descendant selector => selector.functions
  | .filter test => test.functions
  | _ => []

/-- The functions that are called in the filters of segments. -/
def Segment.allFunctions : List Segment → List String
  | [] => []
  | s :: rest => s.functions ++ Segment.allFunctions rest

/-- The functions that are called in an expression. -/
def Expr.functions : Expr → List String
  | .literal _ => []
  | .query _ segments => Segment.allFunctions segments
  | .not e => e.functions
  | .and l r => l.functions ++ r.functions
  | .or l r => l.functions ++ r.functions
  | .compare _ l r => l.functions ++ r.functions
  | .call function arguments => function :: Expr.allFunctions arguments

/-- The functions that are called in the arguments of a call. -/
def Expr.allFunctions : List Expr → List String
  | [] => []
  | e :: rest => e.functions ++ Expr.allFunctions rest

end

/-- The functions that are called in a query. -/
def Query.functions (q : Query) : List String := Segment.allFunctions q.segments

/-- A word is scanned as the token of that word, which need not be a name. -/
lemma TokensOf.word {name : String} {rest : List Char} {ts : List Token}
    (hname : Token.isWord name) (hrest : EndsToken rest)
    (h : TokensOf (name.toList ++ rest) ts) :
    ∃ ts', ts = Token.ofWord name :: ts' ∧ TokensOf rest ts' := by
  unfold Token.isWord at hname
  split at hname
  · cases hname
  · rename_i c cs hcs
    rw [Bool.and_eq_true, List.all_eq_true] at hname
    have hscans := Piece.scans_word hname.1 hname.2 hrest
    rw [← hcs, String.ofList_toList] at hscans
    exact h.lexeme hscans

end JsonPath
