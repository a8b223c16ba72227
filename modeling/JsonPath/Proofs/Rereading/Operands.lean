import JsonPath.Proofs.Canonical.Operands
import JsonPath.Proofs.Rereading.Selectors

/-!
# Reading canonical operands again

A literal, a query and a call are operands.  What the parser reads from the text of one has the
meaning of that operand, with one exception: a call whose name is the word of a literal is read as
that literal in front of a parenthesis, where nothing can go on.

The name of a function is printed as it is.  Here it has to be a bare word, for any other text may
mean anything in front of the parenthesis.
-/

namespace JsonPath

/-! ## How operands begin -/

section Openings

variable {rest : List Char} {ts : List Token}

lemma TokensOf.anchor {anchor : Anchor} {segments : List Segment}
    (h : TokensOf ((Expr.query anchor segments).text.toList ++ rest) ts) :
    ∃ ts', ts = anchor.token :: ts' ∧ TokensOf ((Segment.texts segments).toList ++ rest) ts' := by
  cases anchor with
  | root =>
    have hroot : TokensOf ('$' :: ((Segment.texts segments).toList ++ rest)) ts := by
      simpa [Expr.text, Anchor.symbol] using h
    exact hroot.sign .root (by decide)
  | current =>
    have hcurrent : TokensOf ('@' :: ((Segment.texts segments).toList ++ rest)) ts := by
      simpa [Expr.text, Anchor.symbol] using h
    exact hcurrent.sign .current (by decide)

/-- A call begins with the token of its word and a parenthesis. -/
lemma TokensOf.call {function : String} {arguments : List Expr} (hword : Token.isWord function)
    (h : TokensOf ((Expr.call function arguments).text.toList ++ rest) ts) :
    ∃ ts', ts = Token.ofWord function :: .leftParen :: ts' ∧
      TokensOf ((Expr.argumentTexts arguments).toList ++ ')' :: rest) ts' := by
  have hcall : TokensOf (function.toList ++
      '(' :: ((Expr.argumentTexts arguments).toList ++ ')' :: rest)) ts := by
    simpa [Expr.text] using h
  obtain ⟨ts', rfl, hts'⟩ := hcall.word hword (endsToken_of_mem (by decide) _)
  obtain ⟨ts'', rfl, hts''⟩ := hts'.sign .leftParen (by decide)
  exact ⟨ts'', rfl, hts''⟩

/-- A literal begins with its only token, or with a bracket that starts no operand. -/
lemma TokensOf.literal {value : Json} (hrest : EndsToken rest)
    (h : TokensOf ((Expr.literal value).text.toList ++ rest) ts) :
    ts.head? = some .leftBracket ∨ value.isScalar ∧ ∃ token ts', ts = token :: ts' ∧
      TokensOf rest ts' ∧ Piece.literal value = .lexeme token value.text.toList ∧
      token.isLiteral := by
  cases hscalar : value.isScalar with
  | false => exact .inl (TokensOf.container hscalar h)
  | true =>
    obtain ⟨token, written, hpiece, htoken⟩ := Parser.isLiteral_literal hscalar
    have hscans := Piece.scans_literal hscalar hrest
    obtain rfl : value.text.toList = written := by
      unfold Piece.literal at hpiece
      exact (Piece.lexeme.inj hpiece).2
    rw [hpiece] at hscans
    obtain ⟨ts', rfl, hts'⟩ := h.lexeme hscans
    exact .inr ⟨rfl, token, ts', rfl, hts', hpiece, htoken⟩

end Openings

namespace Parser

variable {r : Registry} {limit : Nat} {rest : List Char} {ts : List Token}

/-! ## Literals and operands -/

/-- The token of a scalar is read as that scalar. -/
lemma ensures_literal {value : Json} {token : Token} {written : List Char}
    (hscalar : value.isScalar) (hpiece : Piece.literal value = .lexeme token written)
    (hnumber : ∀ n, value = .number n → n.ReadsBack) :
    Ensures literal (token :: ts) fun v ts' => v = value ∧ ts' = ts := by
  refine Ensures.offset fun position => Ensures.peek (Ensures.advance ?_)
  obtain ⟨rfl, -⟩ := Piece.lexeme.inj hpiece
  cases value with
  | null => exact .pure ⟨rfl, rfl⟩
  | bool b => cases b <;> exact .pure ⟨rfl, rfl⟩
  | number n =>
    have hn := (hnumber n rfl).ofText?
    dsimp only [List.head?_cons]
    rw [hn]
    exact .pure ⟨rfl, rfl⟩
  | string s => exact .pure ⟨rfl, rfl⟩
  | array elements => simp [Json.isScalar, Json.isContainer] at hscalar
  | object members => simp [Json.isScalar, Json.isContainer] at hscalar

/-- Whatever literal is read, it is one token. -/
lemma ensures_literal_tail : Ensures literal ts fun _ ts' => ts' = ts.tail := by
  refine Ensures.offset fun position => Ensures.peek (Ensures.advance ?_)
  split
  · exact .pure rfl
  · split
    · exact .pure rfl
    · exact ensures_failAt _ _
  · exact .pure rfl
  · exact .pure rfl
  · exact .pure rfl
  · exact ensures_failAt _ _

/-- The operand that is read has the meaning of `e`, in front of the text `rest`; or the word of a
literal has been read, which was written as the name of a function. -/
def OperandOutcome (r : Registry) (e : Expr) (rest : List Char) (x : Expr) (ts : List Token) :
    Prop :=
  r.EvaluatesAs x e ∧ TokensOf rest ts ∨
    (∃ value, x = .literal value) ∧ ts.head? = some .leftParen

/-- An operand begins with no sign of an operator.  The reader of operands makes this of its text,
at every level. -/
structure RereadsOperand (r : Registry) (limit : Nat) (e : Expr) : Prop where
  opens : ∀ rest ts, EndsToken rest → TokensOf (e.text.toList ++ rest) ts →
    ts.head? ∉ [some .not, some .leftParen]
  reads : ∀ n rest ts, Follows 4 rest → TokensOf (e.text.toList ++ rest) ts →
    Ensures (operand limit (expressionWithin limit n)) ts (OperandOutcome r e rest)

/-- No operand begins with these signs. -/
lemma ensures_operand_none {deeper? : Option (Parser Expr)} {Q : Expr → List Token → Prop}
    (hhead : ts.head? ∈ [some .leftBracket, some .leftParen, some .not]) :
    Ensures (operand limit deeper?) ts Q := by
  refine Ensures.peek ?_
  simp only [List.mem_cons, List.not_mem_nil, or_false] at hhead
  rcases hhead with hhead | hhead | hhead <;> rw [hhead] <;> exact ensures_failHere _

lemma ensures_operand_of_isLiteral {deeper? : Option (Parser Expr)} {token : Token}
    (htoken : token.isLiteral) {Q : Expr → List Token → Prop}
    (h : Ensures literal (token :: ts) fun value ts' => Q (.literal value) ts') :
    Ensures (operand limit deeper?) (token :: ts) Q := by
  have hread : Ensures (do return Expr.literal (← literal)) (token :: ts) Q :=
    h.bind fun value ts' hvalue => .pure hvalue
  refine Ensures.peek ?_
  cases token <;> first | exact hread | simp [Token.isLiteral] at htoken

/-- The token of a literal is no sign of an operator. -/
lemma not_mem_of_isLiteral {token : Token} (h : token.isLiteral) (ts : List Token) :
    (token :: ts).head? ∉ [some .not, some .leftParen] := by
  cases token <;> simp [Token.isLiteral] at h ⊢

theorem rereadsOperand_literal {value : Json} (hnumber : ∀ n, value = .number n → n.ReadsBack) :
    RereadsOperand r limit (.literal value) := by
  constructor
  · intro rest ts hrest hts
    rcases hts.literal hrest with hhead | ⟨_, token, ts', rfl, _, _, hliteral⟩
    · simp [hhead]
    · exact not_mem_of_isLiteral hliteral ts'
  · intro n rest ts hrest hts
    rcases hts.literal hrest.ends with hhead | ⟨hscalar, token, ts', rfl, hts', hpiece, hliteral⟩
    · exact ensures_operand_none (by simp [hhead])
    · refine ensures_operand_of_isLiteral hliteral ?_
      refine (ensures_literal hscalar hpiece hnumber).imp ?_
      rintro _ _ ⟨rfl, rfl⟩
      exact .inl ⟨fun _ _ => rfl, hts'⟩

theorem rereadsOperand_query {anchor : Anchor} {ss : List Segment}
    (h : ∀ s ∈ ss, RereadsSegment r limit s) : RereadsOperand r limit (.query anchor ss) := by
  constructor
  · intro rest ts _ hts
    obtain ⟨ts', rfl, -⟩ := hts.anchor
    cases anchor <;> simp [Anchor.token]
  · intro n rest ts hrest hts
    obtain ⟨ts', rfl, hts'⟩ := hts.anchor
    have hfilter : IsFilterReader limit
        (filter limit (expressionWithin limit n) fun _ _ => pure ()) :=
      ⟨n, fun _ _ => pure (), fun _ _ _ => rfl, rfl⟩
    have hquery : Ensures (embedded limit (expressionWithin limit n) anchor) (anchor.token :: ts')
        (OperandOutcome r (.query anchor ss) rest) := by
      refine Ensures.advance ((ensures_segments hfilter hrest ss h hts').bind ?_)
      exact fun xs ts'' hxs => .pure (.inl ⟨hxs.1.query anchor, hxs.2⟩)
    refine Ensures.peek ?_
    cases anchor <;> exact hquery

/-! ## Calls -/

/-- What the reader of arguments makes of the text of `e`, at every level. -/
def RereadsArgument (r : Registry) (limit : Nat) (e : Expr) : Prop :=
  ∀ n rest ts, ItemEnds .rightParen rest → TokensOf (e.text.toList ++ rest) ts →
    ts.head? ≠ some .rightParen ∧
    Ensures (argument (expression limit (expressionWithin limit n))) ts (Outcome r e rest)

/-- The arguments that are read together with the text behind them. -/
def ArgumentsOutcome (r : Registry) (es : List Expr) (rest : List Char) (xs : List Expr)
    (ts : List Token) : Prop := r.EvaluatesAllAs xs es ∧ TokensOf rest ts ∨ Stuck ts

lemma keeps_argumentWithin (limit n : Nat) :
    Keeps Shrinks (argument (expression limit (expressionWithin limit n))) :=
  keeps_argument isKept_shrinks
    (keeps_expressionWithin isKept_shrinks limit (n + 1) _ rfl)

/-- Arguments go on the list one by one. -/
lemma ensures_collected_arguments (n : Nat) (es : List Expr) (e : Expr)
    (h : ∀ f ∈ e :: es, RereadsArgument r limit f) (before : List Expr)
    (hts : TokensOf ((Expr.argumentTexts (e :: es)).toList ++ ')' :: rest) ts) :
    Ensures (argument (expression limit (expressionWithin limit n)) >>= fun x =>
        collected .comma (argument (expression limit (expressionWithin limit n))) (before ++ [x]))
      ts fun zs ts' =>
        ∃ xs, zs = before ++ xs ∧ ArgumentsOutcome r (e :: es) (')' :: rest) xs ts' := by
  induction es generalizing e before ts with
  | nil =>
    have he := (h e (by simp) n _ ts (itemEnds_paren rest) hts).2
    refine he.bind fun x ts' hx => ?_
    rcases hx with ⟨hmeaning, hts'⟩ | hstuck
    · obtain ⟨ts'', rfl, -⟩ := hts'.sign .rightParen (by decide)
      refine ensures_collected (keeps_argumentWithin limit n) (by simp) fun _ => ?_
      exact ⟨[x], rfl, .inl ⟨hmeaning.evaluatesAllAs_cons ⟨rfl, fun _ _ => rfl⟩, hts'⟩⟩
    · exact hstuck.ensures_collected (by simp) (by simp) (keeps_argumentWithin limit n)
        ⟨[x], rfl, .inr hstuck⟩
  | cons f es ih =>
    have hfirst : TokensOf (e.text.toList ++ ',' :: ' ' ::
        ((Expr.argumentTexts (f :: es)).toList ++ ')' :: rest)) ts := by
      simpa [Expr.argumentTexts] using hts
    have he := (h e (by simp) n _ ts (itemEnds_comma _ _) hfirst).2
    refine he.bind fun x ts' hx => ?_
    rcases hx with ⟨hmeaning, hts'⟩ | hstuck
    · obtain ⟨ts'', rfl, hts''⟩ := hts'.sign .comma (by decide)
      refine ensures_collected (keeps_argumentWithin limit n) ?_ (by simp)
      rintro _ ⟨⟩
      have hothers := ih f (fun g hg => h g (List.mem_cons_of_mem e hg)) (before ++ [x]) hts''.blank
      refine hothers.imp ?_
      rintro zs ts₃ ⟨xs, rfl, hxs⟩
      refine ⟨x :: xs, by rw [List.append_assoc]; rfl, ?_⟩
      exact hxs.imp_left fun hread => ⟨hmeaning.evaluatesAllAs_cons hread.1, hread.2⟩
    · exact hstuck.ensures_collected (by simp) (by simp) (keeps_argumentWithin limit n)
        ⟨[x], rfl, .inr hstuck⟩

lemma ensures_arguments (n : Nat) (es : List Expr) (h : ∀ f ∈ es, RereadsArgument r limit f)
    (hts : TokensOf ((Expr.argumentTexts es).toList ++ ')' :: rest) ts) :
    Ensures (arguments (expression limit (expressionWithin limit n))) ts
      (ArgumentsOutcome r es (')' :: rest)) := by
  refine Ensures.peek ?_
  cases es with
  | nil =>
    have hts : TokensOf (')' :: rest) ts := hts
    obtain ⟨ts', rfl, -⟩ := hts.sign .rightParen (by decide)
    rw [if_pos List.head?_cons]
    exact .pure (.inl ⟨⟨rfl, fun _ _ => rfl⟩, hts⟩)
  | cons e es =>
    have hhead : ts.head? ≠ some .rightParen := by
      cases es with
      | nil => exact (h e (by simp) n _ ts (itemEnds_paren rest) hts).1
      | cons f es =>
        have hfirst : TokensOf (e.text.toList ++ ',' :: ' ' ::
            ((Expr.argumentTexts (f :: es)).toList ++ ')' :: rest)) ts := by
          simpa [Expr.argumentTexts] using hts
        exact (h e (by simp) n _ ts (itemEnds_comma _ _) hfirst).1
    rw [if_neg hhead]
    have hlist := ensures_separated (ensures_collected_arguments n es e h [] hts)
    refine hlist.bind ?_
    rintro ⟨first, others⟩ ts' ⟨xs, heq, hxs⟩
    refine .pure ?_
    rw [List.nil_append] at heq
    rw [heq]
    exact hxs

lemma ofWord_cases (word : String) :
    Token.ofWord word = .name word ∨ (Token.ofWord word).isLiteral := by
  unfold Token.ofWord
  split_ifs
  · exact .inr rfl
  · exact .inr rfl
  · exact .inr rfl
  · exact .inl rfl

/-- The call of a function that comes next, from readings of its arguments. -/
lemma ensures_call {n : Nat} {function : String} {es : List Expr}
    (h : ∀ e ∈ es, RereadsArgument r limit e)
    (hts : TokensOf ((Expr.argumentTexts es).toList ++ ')' :: rest) ts) :
    Ensures (call limit (expressionWithin limit n) function)
      (.name function :: .leftParen :: ts) (OperandOutcome r (.call function es) rest) := by
  unfold call
  split
  · exact ensures_failHere _
  · refine Ensures.advance (Ensures.isAdjacent fun adjacent => ?_)
    split
    · exact ensures_failAtStop _
    · refine Ensures.offset fun position => Ensures.advance (ensures_enter_bind fun m _ => ?_)
      refine (ensures_arguments m es h hts).bind fun xs ts' hxs => ?_
      rcases hxs with ⟨hmeaning, hts'⟩ | hstuck
      · obtain ⟨ts'', rfl, hts''⟩ := hts'.sign .rightParen (by decide)
        refine Ensures.expect ?_
        rintro _ ⟨⟩
        exact .pure (.inl ⟨hmeaning.call function, hts''⟩)
      · exact hstuck.ensures_expect (by simp) (by simp)

/-- The name of a function is read as one, unless it is the word of a literal. -/
theorem rereadsOperand_call {function : String} {es : List Expr} (hword : Token.isWord function)
    (h : ∀ e ∈ es, RereadsArgument r limit e) : RereadsOperand r limit (.call function es) := by
  constructor
  · intro rest ts _ hts
    obtain ⟨ts', rfl, -⟩ := hts.call hword
    rcases ofWord_cases function with htoken | htoken
    · simp [htoken]
    · exact not_mem_of_isLiteral htoken _
  · intro n rest ts _ hts
    obtain ⟨ts', rfl, hts'⟩ := hts.call hword
    rcases ofWord_cases function with htoken | htoken
    · rw [htoken]
      refine Ensures.peek (Ensures.peekSecond ?_)
      rw [if_pos (by rfl)]
      exact ensures_call h hts'
    · refine ensures_operand_of_isLiteral htoken (ensures_literal_tail.imp ?_)
      rintro value _ rfl
      exact .inr ⟨⟨value, rfl⟩, rfl⟩

end Parser

end JsonPath
