import JsonPath.Proofs.Canonical.RoundTrip
import JsonPath.Proofs.Spacing.Gaps
import JsonPath.Proofs.Spacing.Readers
import Mathlib.Logic.Relation

/-!
# Blanks in the text of a query

An `Insertion` puts blanks between the tokens of a text, or before or behind all of them.  Where
the two tokens next to the place need not be adjacent, the text is read as before, with the same
reports; everywhere else it is refused (`Query.parse_insertion`).  So blanks may stand neither at
the ends of the text, nor behind a dot, nor between the name of a function and its parenthesis, and
anywhere else between tokens.

Two results are put together.  The scanner only moves the tokens behind the blanks
(`Insertion.scanAll_result`), and the parser reads the same whenever the tokens, wherever they
stand, fill the text (`Parser.query_respaced`).
-/

namespace JsonPath

/-! ## Gaps between tokens -/

/-- Blanks may stand between the tokens `left` and the tokens `right`: there are tokens on either
side, and the two next to the place need not be adjacent. -/
def MaySeparate (left right : List Spanned) : Prop :=
  ∃ t u, left.getLast? = some t ∧ right.head? = some u ∧ t.token.joins u.token = false

/-- The other places are the ends of the text and those between tokens that have to be adjacent. -/
lemma not_maySeparate_iff {left right : List Spanned} :
    ¬ MaySeparate left right ↔ left = [] ∨ right = [] ∨
      ∃ t u, left.getLast? = some t ∧ right.head? = some u ∧ t.token.joins u.token = true := by
  unfold MaySeparate
  rcases List.eq_nil_or_concat left with rfl | ⟨left, t, rfl⟩
  · simp
  · cases right with
    | nil => simp
    | cons u right => simp

lemma joined_shift {ts : List Spanned} (n : Nat) (h : Joined ts) :
    Joined (ts.map (Spanned.shift n)) := by
  refine (List.isChain_map _).2 (List.IsChain.imp ?_ h)
  intro t u hstop hjoins
  show t.stop + n = u.start + n
  rw [hstop hjoins]

/-- The tokens on the right of a place are moved.  All tokens are in their places afterwards if
blanks may stand there, and only then. -/
lemma fillsText_shift_iff {left right : List Spanned} {textEnd n : Nat} (hn : 0 < n)
    (h : Parser.FillsText (left ++ right) textEnd) :
    Parser.FillsText (left ++ right.map (Spanned.shift n)) (textEnd + n) ↔
      MaySeparate left right := by
  obtain ⟨hstart, hstop, hjoined⟩ := h
  obtain ⟨hleft, hright, hacross⟩ := List.isChain_append.1 hjoined
  constructor
  · rintro ⟨hstart', hstop', hjoined'⟩
    by_contra hnot
    rcases not_maySeparate_iff.1 hnot with rfl | rfl | ⟨t, u, ht, hu, hjoins⟩
    · -- the first token has been moved
      rw [List.nil_append] at hstart hstart'
      obtain ⟨u, hu, hzero⟩ := Option.map_eq_some_iff.1 hstart
      simp only [List.head?_map, hu, Option.map_some, Spanned.shift, Option.some.injEq] at hstart'
      omega
    · -- the text is longer, but its last token ends where it ended
      simp only [List.map_nil, hstop, Option.some.injEq] at hstop'
      omega
    · -- the tokens on either side are no longer adjacent
      obtain ⟨-, -, hacross'⟩ := List.isChain_append.1 hjoined'
      have hstop := hacross t ht u hu hjoins
      have hstop' := hacross' t ht (u.shift n) (by simp [Option.mem_def.1 hu]) hjoins
      simp only [Spanned.shift] at hstop'
      omega
  · rintro ⟨t, u, ht, hu, hjoins⟩
    refine ⟨?_, ?_, List.isChain_append.2 ⟨hleft, joined_shift n hright, ?_⟩⟩
    · have hne : left.head? ≠ none := by
        rintro hnil
        simp [List.head?_eq_none_iff.1 hnil] at ht
      rw [← hstart, List.head?_append, List.head?_append]
      cases hhead : left.head? with
      | none => exact absurd hhead hne
      | some v => rfl
    · rw [List.getLast?_append] at hstop ⊢
      rw [List.getLast?_map]
      cases hlast : right.getLast? with
      | none => simp [List.getLast?_eq_none_iff.1 hlast] at hu
      | some v =>
        rw [hlast] at hstop
        exact congrArg (Option.map (· + n)) hstop
    · intro t' ht' u' hu' hjoins'
      obtain rfl : t = t' := Option.some.inj (ht.symm.trans ht')
      rw [List.head?_map, hu] at hu'
      obtain rfl : u.shift n = u' := Option.some.inj hu'
      rw [Spanned.shift, hjoins] at hjoins'
      cases hjoins'

/-- A place between the tokens `left` and `right` of a text, and blanks to put there. -/
structure Insertion (text : String) where
  /-- The text up to the place. -/
  before : List Char
  /-- The text from the place on. -/
  after : List Char
  blanks : List Char
  left : List Spanned
  right : List Spanned
  toList_eq : text.toList = before ++ after
  isBlank : ∀ c ∈ blanks, Token.isBlank c
  length_pos : 0 < blanks.length
  scanAll_eq : Token.scanAll text = .ok (left ++ right)
  stop_le : ∀ t ∈ left.getLast?, t.stop ≤ Text.byteLength before
  le_start : ∀ u ∈ right.head?, Text.byteLength before ≤ u.start

namespace Insertion

variable {text : String} (i : Insertion text)

/-- The text with the blanks in their place. -/
def result : String := String.ofList (i.before ++ (i.blanks ++ i.after))

/-- Blanks may stand in that place. -/
def IsFree : Prop := MaySeparate i.left i.right

/-- The tokens behind the blanks are moved, and all others stay as they are. -/
theorem scanAll_result :
    Token.scanAll i.result = .ok (i.left ++ i.right.map (Spanned.shift i.blanks.length)) := by
  have hscan := i.scanAll_eq
  rw [Token.scanAll, i.toList_eq] at hscan
  rw [result, Token.scanAll, String.toList_ofList]
  refine cuts_iff.1 (Cuts.insert i.isBlank (cuts_iff.2 hscan) ?_ ?_)
  · simpa using i.stop_le
  · simpa using i.le_start

lemma utf8ByteSize_result : i.result.utf8ByteSize = text.utf8ByteSize + i.blanks.length := by
  have htext : text.utf8ByteSize = Text.byteLength (i.before ++ i.after) := by
    rw [← i.toList_eq, Text.byteLength_eq_utf8ByteSize, String.ofList_toList]
  rw [htext, result, ← Text.byteLength_eq_utf8ByteSize]
  have hblanks := byteLength_eq_length fun c hc => utf8Size_of_isBlank (i.isBlank c hc)
  simp only [Piece.byteLength_append, hblanks]
  omega

end Insertion

/-! ## Whole queries -/

/-- The second text is the first one with blanks put in free places, any number of times. -/
def Loosens : String → String → Prop :=
  Relation.ReflTransGen fun text text' => ∃ i : Insertion text, i.IsFree ∧ i.result = text'

namespace Query

variable {r : Registry} {c : ParserConfig} {text : String} {q : Query}

lemma parse_of_query {tokens : List Spanned} {last : ParserState}
    (hscan : Token.scanAll text = .ok tokens)
    (hquery : Parser.query r c ⟨tokens, 0, text.utf8ByteSize, []⟩ = .ok q last) :
    parse r c text = (.ok q, last.diagnostics) := by
  have hrun : (Parser.query r c).run ⟨tokens, 0, text.utf8ByteSize, []⟩ = .ok q last := hquery
  rw [parse, hscan]
  dsimp only
  rw [hrun]

/-- The tokens of a text that is read are in their places. -/
lemma fillsText_of_parse {tokens : List Spanned} (h : (parse r c text).1 = .ok q)
    (hscan : Token.scanAll text = .ok tokens) : Parser.FillsText tokens text.utf8ByteSize := by
  obtain ⟨tokens', last, hscan', hquery⟩ := exists_of_parse h
  obtain rfl : tokens' = tokens := Except.ok.inj (hscan'.symm.trans hscan)
  exact Parser.fillsText_of_query hquery

/-- Blanks in a free place change nothing. -/
lemma parse_result_of_isFree (h : (parse r c text).1 = .ok q) (i : Insertion text)
    (hfree : i.IsFree) : parse r c i.result = parse r c text := by
  obtain ⟨tokens, last, hscan, hquery⟩ := exists_of_parse h
  obtain rfl : tokens = i.left ++ i.right := Except.ok.inj (hscan.symm.trans i.scanAll_eq)
  have hfills := (fillsText_shift_iff i.length_pos (fillsText_of_parse h hscan)).2 hfree
  rw [← i.utf8ByteSize_result] at hfills
  have htokens : (i.left ++ i.right.map (Spanned.shift i.blanks.length)).map Spanned.token =
      (i.left ++ i.right).map Spanned.token := by
    simp [Spanned.shift, Function.comp_def]
  obtain ⟨last', hquery', hdiagnostics⟩ := Parser.query_respaced hquery
    ⟨_, 0, _, []⟩ htokens rfl hfills
  rw [parse_of_query i.scanAll_result hquery', parse_of_query hscan hquery, hdiagnostics]

/-- With blanks in any other place the text is refused. -/
lemma parse_result_of_not_isFree (h : (parse r c text).1 = .ok q) (i : Insertion text)
    (hfree : ¬ i.IsFree) : ∃ e, (parse r c i.result).1 = .error e := by
  cases hresult : (parse r c i.result).1 with
  | error e => exact ⟨e, rfl⟩
  | ok q' =>
    have hfills := fillsText_of_parse hresult i.scanAll_result
    rw [i.utf8ByteSize_result] at hfills
    have htext := fillsText_of_parse h i.scanAll_eq
    exact absurd ((fillsText_shift_iff i.length_pos htext).1 hfills) hfree

/-- A text that is read is read to the same query, with the same reports, after blanks have been put
in free places.  With blanks in a place that is not free it is refused: before the first token or
behind the last one, behind `.` or `..`, or between a name and the parenthesis of its call
(`not_maySeparate_iff`). -/
theorem parse_insertion (r : Registry) (c : ParserConfig) {text : String} {q : Query}
    (h : (parse r c text).1 = .ok q) :
    (∀ text', Loosens text text' → parse r c text' = parse r c text) ∧
      ∀ i : Insertion text, ¬ i.IsFree → ∃ e, (parse r c i.result).1 = .error e := by
  refine ⟨fun text' hloosens => ?_, parse_result_of_not_isFree h⟩
  induction hloosens with
  | refl => rfl
  | tail _ hstep ih =>
    obtain ⟨i, hfree, rfl⟩ := hstep
    rw [parse_result_of_isFree (ih ▸ h) i hfree, ih]

/-- The tokens of a filter with a call. -/
def lengthFilterTokens : List Spanned :=
  [⟨.root, 0, 1⟩, ⟨.leftBracket, 1, 2⟩, ⟨.question, 2, 3⟩, ⟨.name "length", 3, 9⟩,
    ⟨.leftParen, 9, 10⟩, ⟨.current, 10, 11⟩, ⟨.dot, 11, 12⟩, ⟨.name "a", 12, 13⟩,
    ⟨.rightParen, 13, 14⟩, ⟨.comparison .eq, 14, 16⟩, ⟨.number "1", 16, 17⟩,
    ⟨.rightBracket, 17, 18⟩]

lemma scanAll_lengthFilter :
    Token.scanAll "$[?length(@.a)==1]" = .ok lengthFilterTokens :=
    eq_ok_of_toOption (by decide +kernel)

/-- Blanks before the operator. -/
def beforeOperator : Insertion "$[?length(@.a)==1]" where
  before := ['$', '[', '?', 'l', 'e', 'n', 'g', 't', 'h', '(', '@', '.', 'a', ')']
  after := ['=', '=', '1', ']']
  blanks := ['\n', ' ']
  left := lengthFilterTokens.take 9
  right := lengthFilterTokens.drop 9
  toList_eq := by decide
  isBlank := by simp [Token.isBlank]
  length_pos := by decide
  scanAll_eq := by rw [List.take_append_drop, scanAll_lengthFilter]
  stop_le := by decide
  le_start := by decide

/-- A blank before the parenthesis of the call. -/
def beforeParenthesis : Insertion "$[?length(@.a)==1]" where
  before := ['$', '[', '?', 'l', 'e', 'n', 'g', 't', 'h']
  after := ['(', '@', '.', 'a', ')', '=', '=', '1', ']']
  blanks := [' ']
  left := lengthFilterTokens.take 4
  right := lengthFilterTokens.drop 4
  toList_eq := by decide
  isBlank := by simp [Token.isBlank]
  length_pos := by decide
  scanAll_eq := by rw [List.take_append_drop, scanAll_lengthFilter]
  stop_le := by decide
  le_start := by decide

lemma parse_lengthFilter :
    (parse .standard ⟨64, false⟩ "$[?length(@.a)==1]").1 =
      .ok ⟨.root, [.filter (.compare .eq (.call "length" [.query .current [.key "a"]])
        (.literal (.number (.int 1 (by decide)))))]⟩ := by
  rw [parse, scanAll_lengthFilter]
  rfl

/-- A line feed before the operator is ignored, and a blank before the parenthesis is refused. -/
theorem parse_insertion_lengthFilter :
    parse .standard ⟨64, false⟩ "$[?length(@.a)\n ==1]" =
        parse .standard ⟨64, false⟩ "$[?length(@.a)==1]" ∧
      ∃ e, (parse .standard ⟨64, false⟩ "$[?length (@.a)==1]").1 = .error e := by
  obtain ⟨hfree, hrefused⟩ := parse_insertion .standard ⟨64, false⟩ parse_lengthFilter
  constructor
  · exact hfree _ (.single ⟨beforeOperator, ⟨_, _, rfl, rfl, rfl⟩, by decide⟩)
  · refine hrefused beforeParenthesis ?_
    exact not_maySeparate_iff.2 (.inr (.inr ⟨_, _, rfl, rfl, rfl⟩))

end Query

end JsonPath
