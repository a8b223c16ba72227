import JsonPath.Proofs.Parser.Accepted
import JsonPath.Proofs.Rereading.Tests

/-!
# Canonical text keeps the meaning of a query

`Query.apply_reparsed`: whatever query the parser reads from the canonical text of a query, the two
select the same nodes with the same reports from every document.  The query need not be writable;
its text may be read as another tree, or not at all.

Two things have to hold of the query.  The text shows the names of functions as they are, so they
have to be bare words: a call of the function with the empty name is written as an expression in
parentheses, and is read as one.  And its binary64 numbers have to be read back from their text, as
for `Query.parse_text`.  `Query.apply_reparsed_ne` shows that neither condition can be left out.
-/

namespace JsonPath

namespace Parser

variable {r : Registry} {limit : Nat}

/-- What the parser makes of a segment, between brackets and among the segments of a query. -/
structure RereadsInQuery (r : Registry) (limit : Nat) (s : Segment) : Prop where
  selectors : RereadsSelectors r limit s
  segment : RereadsSegment r limit s

lemma RereadsSelectors.rereadsInQuery {s : Segment} (h : RereadsSelectors r limit s)
    (hs : s.isDescendant = false) : RereadsInQuery r limit s where
  selectors := h
  segment := h.rereadsSegment hs

/-- What the parser makes of an expression, among arguments and in every other place. -/
structure RereadsInFilter (r : Registry) (limit : Nat) (e : Expr) : Prop
    extends RereadsExpr r limit e where
  argument : RereadsArgument r limit e

variable {e : Expr}

/-- A query or a call. -/
lemma RereadsOperand.rereadsInFilter (h : RereadsOperand r limit e) (hbare : e.isNegatedBare)
    (hwords : ∀ f ∈ e.functions, Token.isWord f) : RereadsInFilter r limit e where
  operand _ := h
  closed hoperand := by simp [Expr.isOperand_of_isNegatedBare hbare] at hoperand
  test := h.rereadsTest
  argument := by
    refine h.rereadsTest.rereadsArgument hwords ?_
    rintro value rfl
    simp [Expr.isNegatedBare] at hbare

/-- An expression with an operator. -/
lemma RereadsClosed.rereadsInFilter (h : RereadsClosed r limit e) (htest : RereadsTest r limit e)
    (hoperand : e.isOperand = false) (hwords : ∀ f ∈ e.functions, Token.isWord f) :
    RereadsInFilter r limit e where
  operand he := by simp [hoperand] at he
  closed _ := h
  test := htest
  argument := by
    refine htest.rereadsArgument hwords ?_
    rintro value rfl
    simp [Expr.isOperand] at hoperand

/-- An expression with a binary operator. -/
lemma RereadsTest.rereadsInFilter (h : RereadsTest r limit e) (hprecedence : e.precedence < 4)
    (hwords : ∀ f ∈ e.functions, Token.isWord f) : RereadsInFilter r limit e := by
  have hoperand : e.isOperand = false := by
    cases he : e.isOperand with
    | false => rfl
    | true => exact absurd (Expr.precedence_of_isOperand he) (Nat.ne_of_lt hprecedence)
  exact (h.rereadsClosed hprecedence).rereadsInFilter h hoperand hwords

lemma rereadsInFilter_literal {value : Json} (hnumber : ∀ n, value = .number n → n.ReadsBack) :
    RereadsInFilter r limit (.literal value) where
  operand _ := rereadsOperand_literal hnumber
  closed hoperand := by simp [Expr.isOperand] at hoperand
  test := (rereadsOperand_literal hnumber).rereadsTest
  argument := rereadsArgument_literal hnumber

/-- A negation, with and without parentheses. -/
lemma RereadsExpr.rereadsInFilter_not (h : RereadsExpr r limit e)
    (hwords : ∀ f ∈ e.functions, Token.isWord f) : RereadsInFilter r limit (.not e) := by
  have hbasic : ∀ n, RereadsAs r 4 (basic limit (expressionWithin limit n))
      (Expr.not e).text.toList (.not e) := by
    intro n
    cases hbare : e.isNegatedBare with
    | true =>
      have hoperand := h.operand (Expr.isOperand_of_isNegatedBare hbare)
      exact hoperand.rereadsAs_not hbare hwords n
    | false => exact h.test.expression.rereadsAs_not hbare hwords n
  have htest : RereadsTest r limit (.not e) :=
    rereadsTest_of_basic fun n => (hbasic n).mono (by decide)
  exact (rereadsClosed_not hwords hbasic).rereadsInFilter htest rfl hwords

end Parser

open JsonPath.Parser

/-! ## The induction -/

mutual

theorem Segment.rereads (r : Registry) (limit : Nat) (s : Segment)
    (hwords : ∀ f ∈ s.functions, Token.isWord f) (hnumbers : ∀ x ∈ s.numbers, x.ReadsBack) :
    RereadsInQuery r limit s := by
  cases s with
  | key name => exact (rereadsSelectors_key name).rereadsInQuery rfl
  | index i => exact (rereadsSelectors_index i).rereadsInQuery rfl
  | slice start stop step => exact (rereadsSelectors_slice start stop step).rereadsInQuery rfl
  | wildcard => exact rereadsSelectors_wildcard.rereadsInQuery rfl
  | union selectors =>
    have hall := Segment.allReread r limit selectors hwords hnumbers
    have hunion := rereadsSelectors_union selectors fun s hs => (hall s hs).selectors
    exact hunion.rereadsInQuery rfl
  | descendant selector =>
    have hselector := Segment.rereads r limit selector hwords hnumbers
    exact ⟨rereadsSelectors_descendant selector, hselector.selectors.rereadsSegment_descendant⟩
  | filter test =>
    have htest := Expr.rereads r limit test hwords hnumbers
    exact (rereadsSelectors_filter htest.test.expression).rereadsInQuery rfl

lemma Segment.allReread (r : Registry) (limit : Nat) (ss : List Segment)
    (hwords : ∀ f ∈ Segment.allFunctions ss, Token.isWord f)
    (hnumbers : ∀ x ∈ Segment.allNumbers ss, x.ReadsBack) :
    ∀ s ∈ ss, RereadsInQuery r limit s := by
  match ss with
  | [] => simp
  | s :: rest =>
    simp only [Segment.allFunctions, List.forall_mem_append] at hwords
    simp only [Segment.allNumbers, List.forall_mem_append] at hnumbers
    rw [List.forall_mem_cons]
    exact ⟨Segment.rereads r limit s hwords.1 hnumbers.1,
      Segment.allReread r limit rest hwords.2 hnumbers.2⟩

theorem Expr.rereads (r : Registry) (limit : Nat) (e : Expr)
    (hwords : ∀ f ∈ e.functions, Token.isWord f) (hnumbers : ∀ x ∈ e.numbers, x.ReadsBack) :
    RereadsInFilter r limit e := by
  cases e with
  | literal value =>
    refine rereadsInFilter_literal ?_
    rintro n rfl
    exact hnumbers n (by simp [Expr.numbers])
  | query anchor segments =>
    have hall := Segment.allReread r limit segments hwords hnumbers
    have hquery : RereadsOperand r limit (.query anchor segments) :=
      rereadsOperand_query fun s hs => (hall s hs).segment
    exact hquery.rereadsInFilter rfl hwords
  | not e =>
    have he := Expr.rereads r limit e hwords hnumbers
    exact he.toRereadsExpr.rereadsInFilter_not hwords
  | and left right =>
    have hboth := hwords
    simp only [Expr.functions, List.forall_mem_append] at hboth
    simp only [Expr.numbers, List.forall_mem_append] at hnumbers
    have hleft := Expr.rereads r limit left hboth.1 hnumbers.1
    have hright := Expr.rereads r limit right hboth.2 hnumbers.2
    have hand := rereadsTest_and hleft.test hright.test
    exact hand.rereadsInFilter (by simp [Expr.precedence]) hwords
  | or left right =>
    have hboth := hwords
    simp only [Expr.functions, List.forall_mem_append] at hboth
    simp only [Expr.numbers, List.forall_mem_append] at hnumbers
    have hleft := Expr.rereads r limit left hboth.1 hnumbers.1
    have hright := Expr.rereads r limit right hboth.2 hnumbers.2
    have hor := rereadsTest_or hleft.test hright.test
    exact hor.rereadsInFilter (by simp [Expr.precedence]) hwords
  | compare op left right =>
    have hboth := hwords
    simp only [Expr.functions, List.forall_mem_append] at hboth
    simp only [Expr.numbers, List.forall_mem_append] at hnumbers
    have hleft := Expr.rereads r limit left hboth.1 hnumbers.1
    have hright := Expr.rereads r limit right hboth.2 hnumbers.2
    have hcompare : RereadsTest r limit (.compare op left right) :=
      rereadsTest_of_basic (rereadsAs_compare hleft.toRereadsExpr hright.toRereadsExpr)
    exact hcompare.rereadsInFilter (by simp [Expr.precedence]) hwords
  | call function arguments =>
    have hboth := hwords
    simp only [Expr.functions, List.forall_mem_cons] at hboth
    have hall := Expr.allReread r limit arguments hboth.2 hnumbers
    have hcall : RereadsOperand r limit (.call function arguments) :=
      rereadsOperand_call hboth.1 fun e he => (hall e he).argument
    exact hcall.rereadsInFilter rfl hwords

lemma Expr.allReread (r : Registry) (limit : Nat) (es : List Expr)
    (hwords : ∀ f ∈ Expr.allFunctions es, Token.isWord f)
    (hnumbers : ∀ x ∈ Expr.allNumbers es, x.ReadsBack) :
    ∀ e ∈ es, RereadsInFilter r limit e := by
  match es with
  | [] => simp
  | e :: rest =>
    simp only [Expr.allFunctions, List.forall_mem_append] at hwords
    simp only [Expr.allNumbers, List.forall_mem_append] at hnumbers
    rw [List.forall_mem_cons]
    exact ⟨Expr.rereads r limit e hwords.1 hnumbers.1,
      Expr.allReread r limit rest hwords.2 hnumbers.2⟩

end

/-! ## Whole queries -/

/-- The segments that are read from canonical text run as those that were written. -/
theorem Parser.ensures_query (r : Registry) (c : ParserConfig) {q : Query}
    (hwords : ∀ f ∈ q.functions, Token.isWord f) (hnumbers : ∀ x ∈ q.numbers, x.ReadsBack)
    {ts : List Token} (hts : TokensOf q.text.toList ts) :
    Ensures (Parser.query r c) ts fun q' _ => r.RunsAs q'.segments q.segments := by
  obtain ⟨anchor, ss⟩ := q
  have hsegments : ∀ s ∈ ss, RereadsSegment r c.maxDepth s := fun s hs =>
    (Segment.allReread r c.maxDepth ss hwords hnumbers s hs).segment
  have hfilter : IsFilterReader c.maxDepth
      (filter c.maxDepth (expressionWithin c.maxDepth c.maxDepth) (checkFilter r c.strict)) :=
    ⟨_, _, sameTokens_checkFilter r c.strict, rfl⟩
  have htext : TokensOf ((Expr.query anchor ss).text.toList ++ []) ts := by
    rw [List.append_nil]
    exact hts
  obtain ⟨ts', rfl, hts'⟩ := htext.anchor
  refine Ensures.offset fun position => Ensures.peek ?_
  split
  · exact ensures_failAt _ _
  · have hread := ensures_segments hfilter (follows_nil.mono (by decide)) ss hsegments hts'
    refine Ensures.advance (hread.bind fun xs ts'' hxs => Ensures.peek ?_)
    split
    · exact ensures_failHere _
    · refine Ensures.isAdjacent fun adjacent => ?_
      split
      · exact ensures_failAtStop _
      · exact .pure hxs.1

namespace Query

/-- A query that is read from the canonical text of a query has the same meaning, under any
registry and configuration, if the text spells the functions as bare words and if its numbers are
read back. -/
theorem apply_reparsed (r : Registry) (c : ParserConfig) (q q' : Query) (document : Json)
    (hwords : ∀ f ∈ q.functions, Token.isWord f)
    (hnumbers : ∀ x, Number.float x ∈ q.numbers → (Number.float x).ReadsBack)
    (h : (parse r c q.text).1 = .ok q') : r.apply q' document = r.apply q document := by
  obtain ⟨tokens, state, hscan, hread⟩ := exists_of_parse h
  have htokens : TokensOf q.text.toList (tokens.map Spanned.token) := ⟨0, tokens, hscan, rfl⟩
  have hruns := ensures_query r c hwords (readsBack_of_floats hnumbers) htokens _ q' state rfl hread
  exact hruns document [document]

/-- Unions in a union, a union of one selector, and parentheses that group to the right. -/
def nested : Query :=
  ⟨.root, [.descendant (.union
    [.union [.key "a", .index 0],
     .union [.filter (.or (.query .root [.wildcard])
       (.or (.call "f" [.query .current [.union [.slice none none none]]])
         (.compare .lt (.literal (.number (.float threeHalves)))
           (.query .current []))))]])]⟩

/-- What is read from the text of `nested`. -/
def flattened : Query :=
  ⟨.root, [.descendant (.union
    [.key "a", .index 0,
     .filter (.or (.query .root [.wildcard])
       (.or (.call "f" [.query .current [.slice none none none]])
         (.compare .lt (.literal (.number (.float threeHalves)))
           (.query .current []))))])]⟩

lemma readsBack_nested :
    ∀ x, Number.float x ∈ nested.numbers → (Number.float x).ReadsBack := by
  intro x hx
  obtain rfl : x = threeHalves := by
    simpa [nested, numbers, Segment.allNumbers, Segment.numbers, Expr.numbers,
      Expr.allNumbers] using hx
  exact readsBack_threeHalves

/-- The text of `nested` is the canonical text of `flattened`. -/
lemma parse_nested : (parse .empty {} nested.text).1 = .ok flattened := by
  have htext : nested.text = flattened.text := by decide +kernel
  have hread : flattened.asRead = flattened := asRead_eq (readsBack_of_floats readsBack_nested)
  rw [htext, parse_text_asRead .empty (by decide +kernel) rfl (by decide +kernel), hread]

theorem apply_reparsed_nested :
    (∀ f ∈ nested.functions, Token.isWord f) ∧
      (∀ x, Number.float x ∈ nested.numbers → (Number.float x).ReadsBack) ∧
      (parse .empty {} nested.text).1 = .ok flattened ∧
      ∀ document,
        Registry.empty.apply flattened document = Registry.empty.apply nested document := by
  have hwords : ∀ f ∈ nested.functions, Token.isWord f := by decide +kernel
  exact ⟨hwords, readsBack_nested, parse_nested, fun document =>
    apply_reparsed .empty {} nested flattened document hwords readsBack_nested parse_nested⟩

/-! ## Where the meaning changes -/

/-- A call of the function with the empty name, on the first element of the current node. -/
def unnamed : Query := ⟨.root, [.filter (.call "" [.query .current [.index 0]])]⟩

/-- The elements or members that are equal to a number. -/
def equalTo (x : Binary64) : Query :=
  ⟨.root, [.filter (.compare .eq (.query .current []) (.literal (.number (.float x))))]⟩

/-- The number 9.751933893243156e40, whose text is read as the number after it. -/
def misread : Binary64 := ⟨false, 0x4871e9565802cae9, by decide⟩

/-- A query that is read, and that selects another number of nodes than the one that was written. -/
lemma exists_ne_of_length {q : Query} {document : Json} {n : Nat}
    (hread : ((parse .standard {} q.text).1.toOption.map fun q' =>
      (Registry.standard.apply q' document).value.length) = some n)
    (hne : (Registry.standard.apply q document).value.length ≠ n) :
    ∃ q', (parse .standard {} q.text).1 = .ok q' ∧
      Registry.standard.apply q' document ≠ Registry.standard.apply q document := by
  cases hparse : (parse .standard {} q.text).1 with
  | error e => simp [hparse, Except.toOption] at hread
  | ok q' =>
    refine ⟨q', rfl, fun heq => hne ?_⟩
    rw [← heq]
    simpa [hparse, Except.toOption] using hread

/-- A call without a name is read as the parentheses around its argument, and a number can be read
as another one. -/
theorem apply_reparsed_ne :
    (∃ q', (parse .standard {} unnamed.text).1 = .ok q' ∧
      Registry.standard.apply q' (.array [.array [.null]]) ≠
        Registry.standard.apply unnamed (.array [.array [.null]])) ∧
    ∃ q', (parse .standard {} (equalTo misread).text).1 = .ok q' ∧
      Registry.standard.apply q' (.array [.number (.float misread)]) ≠
        Registry.standard.apply (equalTo misread) (.array [.number (.float misread)]) := by
  constructor
  · have htext : unnamed.text = "$[?(@[0])]" := by decide +kernel
    have hscan : Token.scanAll "$[?(@[0])]" =
        .ok [⟨.root, 0, 1⟩, ⟨.leftBracket, 1, 2⟩, ⟨.question, 2, 3⟩, ⟨.leftParen, 3, 4⟩,
          ⟨.current, 4, 5⟩, ⟨.leftBracket, 5, 6⟩, ⟨.number "0", 6, 7⟩, ⟨.rightBracket, 7, 8⟩,
          ⟨.rightParen, 8, 9⟩, ⟨.rightBracket, 9, 10⟩] :=
      eq_ok_of_toOption (by decide +kernel)
    refine exists_ne_of_length (n := 1) ?_ (by decide +kernel)
    rw [htext, parse, hscan]
    decide +kernel
  · have htext : (equalTo misread).text = "$[?@ == 9.751933893243156e+40]" := by decide +kernel
    have hscan : Token.scanAll "$[?@ == 9.751933893243156e+40]" =
        .ok [⟨.root, 0, 1⟩, ⟨.leftBracket, 1, 2⟩, ⟨.question, 2, 3⟩, ⟨.current, 3, 4⟩,
          ⟨.comparison .eq, 5, 7⟩, ⟨.number "9.751933893243156e+40", 8, 29⟩,
          ⟨.rightBracket, 29, 30⟩] :=
      eq_ok_of_toOption (by decide +kernel)
    refine exists_ne_of_length (n := 0) ?_ (by decide +kernel)
    rw [htext, parse, hscan]
    decide +kernel

end Query

end JsonPath
