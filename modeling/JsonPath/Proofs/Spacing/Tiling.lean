import JsonPath.Proofs.Canonical.RoundTrip
import JsonPath.Proofs.Parser.Progress
import JsonPath.Proofs.Spacing.Gaps

/-!
# Tokens tile the text

The tokens of a text stand side by side in it, each on a part that is not empty and that is scanned
to the same token when it stands alone, and all that is left between them are blanks
(`Token.spans_tile`).  The positions of tokens are counted in bytes, so it takes the characters
before a token to tell that it starts between two of them.

No token stands for the end of the text.  Readers of the tokens that have come behind the last one
stand at the size of the text instead (`ParserState.StandsIn`), which is behind all tokens.

What holds of each token comes from the derivation of the tokens (`Cuts`), whose one step for a
token says what is scanned behind every text that may follow, and so also where nothing follows.
-/

namespace JsonPath

/-- A part of the text from the token's start up to its stop is scanned to the token, and to nothing
else, when it stands alone. -/
def Spanned.IsPartOf (t : Spanned) (text : List Char) : Prop :=
  ∃ before written after, text = before ++ (written ++ after) ∧
    Text.byteLength before = t.start ∧ Text.byteLength (before ++ written) = t.stop ∧
    Token.scanAll (String.ofList written) = .ok [⟨t.token, 0, t.stop - t.start⟩]

/-- The position is one of a byte that the token covers. -/
def Spanned.Covers (t : Spanned) (position : Nat) : Prop := t.start ≤ position ∧ position < t.stop

/-- The reader has passed over some of the tokens and stands at the next one, or behind the last one
at the size of the text. -/
def ParserState.StandsIn (ts : List Spanned) (size : Nat) (state : ParserState) : Prop :=
  state.tokens <:+ ts ∧
    Parser.offset state = .ok ((state.tokens.head?.map Spanned.start).getD size) state

variable {offset width : Nat} {s rest : List Char} {token : Token} {ts : List Spanned}

/-- A token stays the same when nothing follows it. -/
lemma ScansLocally.scanAll_eq (h : ScansLocally s token width rest) :
    ∃ written, s = written ++ rest ∧ Text.byteLength written = width ∧
      Token.scanAll (String.ofList written) = .ok [⟨token, 0, width⟩] := by
  obtain ⟨c, cs, rfl, hblank, hsize, hsame⟩ := h
  refine ⟨c :: cs, rfl, hsize, ?_⟩
  have hscan := hsame 0 [] (fun _ hc => nomatch hc)
  rw [List.append_nil, Nat.zero_add] at hscan
  rw [Token.scanAll, String.toList_ofList, scanFrom_of_scan hblank hscan, Token.scanFrom]
  rfl

namespace Cuts

/-- All tokens stop before the end of the text. -/
lemma stop_le_end (h : Cuts offset s ts) : ∀ t ∈ ts, t.stop ≤ offset + Text.byteLength s := by
  induction h with
  | nil => simp
  | blank hc _ ih =>
    intro t ht
    have := ih t ht
    rw [Text.byteLength, utf8Size_of_isBlank hc]
    omega
  | token hscan _ ih =>
    obtain ⟨written, rfl, hsize, -⟩ := hscan.scanAll_eq
    rw [Piece.byteLength_append, hsize]
    refine List.forall_mem_cons.2 ⟨by dsimp only; omega, fun t ht => ?_⟩
    have := ih t ht
    omega

/-- Behind the text `front`, each token covers a part of the text. -/
lemma isPartOf (h : Cuts offset s ts) (front : List Char)
    (hfront : Text.byteLength front = offset) : ∀ t ∈ ts, t.IsPartOf (front ++ s) := by
  induction h generalizing front with
  | nil => simp
  | @blank _ c s _ hc _ ih =>
    have hsize : Text.byteLength (front ++ [c]) = Text.byteLength front + 1 := by
      rw [Piece.byteLength_append, Text.byteLength, utf8Size_of_isBlank hc, Text.byteLength]
    simpa using ih (front ++ [c]) (by rw [hsize, hfront])
  | token hscan _ ih =>
    obtain ⟨written, rfl, hsize, halone⟩ := hscan.scanAll_eq
    have hstop : Text.byteLength (front ++ written) = _ := Piece.byteLength_append front written
    rw [hfront, hsize] at hstop
    refine List.forall_mem_cons.2 ⟨⟨front, written, _, rfl, hfront, hstop, ?_⟩, ?_⟩
    · dsimp only
      rw [Nat.add_sub_cancel_left]
      exact halone
    · simpa using ih (front ++ written) hstop

/-- Behind the text `front`, every character that no token covers is a blank. -/
lemma isBlank_of_not_covers (h : Cuts offset s ts) {before after : List Char} {c : Char}
    (hs : s = before ++ c :: after)
    (hfree : ∀ t ∈ ts, ¬t.Covers (offset + Text.byteLength before)) : Token.isBlank c = true := by
  induction h generalizing before with
  | nil => simp at hs
  | @blank _ d s _ hd _ ih =>
    cases before with
    | nil =>
      obtain ⟨rfl, -⟩ := List.cons.inj hs
      exact hd
    | cons e before =>
      obtain ⟨rfl, hrest⟩ := List.cons.inj hs
      rw [Text.byteLength, utf8Size_of_isBlank hd, ← Nat.add_assoc] at hfree
      exact ih hrest hfree
  | @token offset width _ _ rest _ hscan _ ih =>
    obtain ⟨written, rfl, hsize, -⟩ := hscan.scanAll_eq
    obtain ⟨hfirst, hfree⟩ := List.forall_mem_cons.1 hfree
    have hle : Text.byteLength written ≤ Text.byteLength before := by
      unfold Spanned.Covers at hfirst
      dsimp only at hfirst
      omega
    -- The character stands behind the token.
    obtain ⟨between, rfl, hrest⟩ := exists_append_of_byteLength_le hs hle
    rw [Piece.byteLength_append, hsize, ← Nat.add_assoc] at hfree
    exact ih hrest hfree

end Cuts

/-- Wherever the reader of queries leaves off, it has come to one of the tokens or to the end. -/
theorem Parser.standsIn_query (ts : List Spanned) (size : Nat) (r : Registry) (c : ParserConfig) :
    (after (query r c) ⟨ts, 0, size, []⟩).StandsIn ts size := by
  obtain ⟨htokens, hend⟩ := passesOver_query r c ⟨ts, 0, size, []⟩
  refine ⟨htokens, ?_⟩
  generalize after (query r c) ⟨ts, 0, size, []⟩ = state at hend
  obtain rfl : state.textEnd = size := hend
  rfl

/-- The tokens of a text stand on parts of it that are not empty, one behind the other and before
the end of the text, and each of these parts alone is scanned to its token and nothing else.  All
other characters of the text are blanks.  Behind the last token, the reader of the text stands at
its size. -/
theorem Token.spans_tile {text : String} (h : Token.scanAll text = .ok ts) :
    (∀ t ∈ ts, t.start < t.stop ∧ t.stop ≤ text.utf8ByteSize) ∧
      (ts.Pairwise fun t u => t.stop ≤ u.start) ∧
      (∀ t ∈ ts, t.IsPartOf text.toList) ∧
      (∀ before c after, text.toList = before ++ c :: after →
        (∀ t ∈ ts, ¬t.Covers (Text.byteLength before)) → c ∈ [' ', '\t', '\n', '\r']) ∧
      ∀ (r : Registry) (c : ParserConfig),
        (Parser.after (Parser.query r c) ⟨ts, 0, text.utf8ByteSize, []⟩).StandsIn ts
          text.utf8ByteSize := by
  have hcuts : Cuts 0 text.toList ts := cuts_iff.2 h
  have hlength : Text.byteLength text.toList = text.utf8ByteSize := by
    rw [Text.byteLength_eq_utf8ByteSize, String.ofList_toList]
  refine ⟨fun t ht => ⟨(hcuts.place t ht).2, ?_⟩, hcuts.sorted, hcuts.isPartOf [] rfl,
    fun before c after htext hfree => ?_, Parser.standsIn_query ts _⟩
  · have hstop := hcuts.stop_le_end t ht
    rwa [Nat.zero_add, hlength] at hstop
  · have hblank := hcuts.isBlank_of_not_covers htext (by simpa using hfree)
    simpa [Token.isBlank, or_assoc] using hblank

/-- Blanks stand between the tokens, within a string they do not, and the accent takes two bytes. -/
theorem Token.spans_tile_blanks :
    Token.scanAll "$['\\u0065 é']\t>= 1.5e-3" =
        .ok [⟨.root, 0, 1⟩, ⟨.leftBracket, 1, 2⟩, ⟨.string "e é", 2, 13⟩, ⟨.rightBracket, 13, 14⟩,
          ⟨.comparison .ge, 15, 17⟩, ⟨.number "1.5e-3", 18, 24⟩] ∧
      (⟨.string "e é", 2, 13⟩ : Spanned).IsPartOf "$['\\u0065 é']\t>= 1.5e-3".toList := by
  have hscan : Token.scanAll "$['\\u0065 é']\t>= 1.5e-3" =
      .ok [⟨.root, 0, 1⟩, ⟨.leftBracket, 1, 2⟩, ⟨.string "e é", 2, 13⟩, ⟨.rightBracket, 13, 14⟩,
        ⟨.comparison .ge, 15, 17⟩, ⟨.number "1.5e-3", 18, 24⟩] :=
    eq_ok_of_toOption (by decide +kernel)
  exact ⟨hscan, (Token.spans_tile hscan).2.2.1 _ (by simp)⟩

end JsonPath
