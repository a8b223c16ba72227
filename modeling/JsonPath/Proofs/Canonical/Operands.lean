import JsonPath.Proofs.Canonical.Reading

/-!
# Reading the pieces of expressions

The rules for operands, comparisons, calls and the logical operators, one for each constructor and
each from readings of the parts.

The parser has one reader for each rank of operators.  `Parser.ReadsTest` says of an expression
what each of them does with its pieces: an expression that binds tightly enough is one item of a
chain, and a conjunction or a disjunction is a chain of its own.  Parentheses turn any expression
into an item (`ReadsTest.takes_basic`), which is why the canonical text needs them exactly where
the operand binds too loosely.
-/

namespace JsonPath

/-- The pieces of arguments begin with those of the first one. -/
lemma Expr.argumentPieces_cons (e : Expr) (es : List Expr) :
    ∃ qs, Expr.argumentPieces (e :: es) = e.pieces ++ qs := by
  cases es with
  | nil => exact ⟨[], by simp [Expr.argumentPieces]⟩
  | cons f es => exact ⟨_, by rw [Expr.argumentPieces]; simp⟩

lemma Expr.one_le_precedence (e : Expr) : 1 ≤ e.precedence := by
  cases e <;> simp [Expr.precedence]

/-- An operand without parentheses binds tightly enough. -/
lemma Expr.le_precedence {e : Expr} {rank : Nat} (h : decide (e.precedence < rank) = false) :
    rank ≤ e.precedence := Nat.not_lt.1 (of_decide_eq_false h)

namespace Parser

variable {limit : Nat}

/-! ## Operands -/

/-- An expression reads as an operand, and begins as no other expression does. -/
structure ReadsOperand (limit : Nat) (e : Expr) : Prop where
  opens : ∃ token written ps, e.pieces = .lexeme token written :: ps ∧
    token ∉ [Token.not, .leftParen, .rightParen] ∧ (token.isLiteral → ps = [])
  reads : ∀ n off k, e.openDepth ≤ n → nextBinding k < 4 →
    Takes (operand limit (expressionWithin limit n)) off e.pieces k e.asRead

lemma takes_literal {value : Json} (hscalar : value.isScalar) (off : Nat) (k : List Spanned) :
    Takes literal off [.literal value] k value.asRead := by
  intro stop
  refine Reads.offset_bind fun position => ?_
  refine (reads_peek _).bind ?_
  refine (reads_advance _ _ _).bind ?_
  cases value with
  | null => exact .pure _ _
  | bool b => cases b <;> exact .pure _ _
  | number n =>
    simp only [Cursor.next?, Piece.place, Piece.literal, List.cons_append, List.head?_cons,
      Option.map_some, n.ofText?_text]
    exact .pure _ _
  | string s => exact .pure _ _
  | array elements => simp [Json.isScalar, Json.isContainer] at hscalar
  | object members => simp [Json.isScalar, Json.isContainer] at hscalar

lemma readsOperand_literal {value : Json} (hscalar : value.isScalar) :
    ReadsOperand limit (.literal value) := by
  have h := takes_literal hscalar
  constructor
  · refine ⟨_, _, [], rfl, ?_, fun _ => rfl⟩
    cases value with
    | bool b => cases b <;> simp
    | _ => simp
  · intro n off k _ _
    refine Takes.peek ?_
    cases value with
    | bool b => cases b <;> exact (h off k).before fun _ => .pure _ _
    | array elements => simp [Json.isScalar, Json.isContainer] at hscalar
    | object members => simp [Json.isScalar, Json.isContainer] at hscalar
    | _ => exact (h off k).before fun _ => .pure _ _

lemma readsOperand_query {anchor : Anchor} {ss : List Segment}
    (h : ∀ s ∈ ss, ReadsSegment limit s) : ReadsOperand limit (.query anchor ss) := by
  constructor
  · refine ⟨_, _, _, rfl, ?_⟩
    cases anchor with
    | root => exact ⟨by simp [Anchor.token], by simp [Anchor.token, Token.isLiteral]⟩
    | current => exact ⟨by simp [Anchor.token], by simp [Anchor.token, Token.isLiteral]⟩
  · intro n off k hn hk
    have hss := takes_segments finishes_pure hk h hn (off + Text.byteLength anchor.symbol.toList)
    have hquery : Takes (embedded limit (expressionWithin limit n) anchor) off
        (Expr.query anchor ss).pieces k (Expr.query anchor ss).asRead := by
      refine (takes_advance _ _ off _).cons ?_
      exact hss.before fun _ => .pure _ _
    cases anchor with
    | root => exact Takes.peek hquery
    | current => exact Takes.peek hquery

/-! ## Tests -/

/-- How the pieces of a test begin.  A literal at the start is the left side of a comparison. -/
inductive OpensTest : List Piece → Prop
  | sign {token : Token} {written : List Char} {ps : List Piece}
      (hliteral : token.isLiteral = false) (hparen : token ≠ .rightParen) :
      OpensTest (.lexeme token written :: ps)
  | literal {token : Token} {written written' : List Char} {op : Comparison} {ps : List Piece}
      (hparen : token ≠ .rightParen) :
      OpensTest (.lexeme token written :: .blank :: .lexeme (.comparison op) written' :: ps)

lemma OpensTest.append {ps : List Piece} (h : OpensTest ps) (qs : List Piece) :
    OpensTest (ps ++ qs) := by
  cases h with
  | sign hliteral hparen => exact .sign hliteral hparen
  | literal hparen => exact .literal hparen

lemma OpensTest.parenthesize {ps : List Piece} (h : OpensTest ps) (needed : Bool) :
    OpensTest (Piece.parenthesize needed ps) := by
  cases needed with
  | false => exact h
  | true => exact .sign rfl (by simp)

/-- An expression reads as a test, as tightly as its outermost operator binds. -/
structure ReadsTest (limit : Nat) (e : Expr) : Prop where
  opens : OpensTest e.pieces
  basic : 3 ≤ e.precedence → ∀ n off k, e.openDepth ≤ n → nextBinding k < 3 →
    Takes (basic limit (expressionWithin limit n)) off e.pieces k e.asRead
  conjunction : 2 ≤ e.precedence → ∀ n off k stop, e.openDepth ≤ n → nextBinding k < 3 →
    ReadsChain .and .and (Parser.basic limit (expressionWithin limit n))
      ⟨Piece.place off e.pieces ++ k, stop⟩ e.asRead ⟨k, Piece.lastStop stop off e.pieces⟩
  disjunction : ∀ n off k stop, e.openDepth ≤ n → nextBinding k < 2 →
    ReadsChain .or .or (chained .and .and (Parser.basic limit (expressionWithin limit n)))
      ⟨Piece.place off e.pieces ++ k, stop⟩ e.asRead ⟨k, Piece.lastStop stop off e.pieces⟩

/-- A test is a whole expression where no operator follows. -/
lemma ReadsTest.expression {e : Expr} (h : ReadsTest limit e) {n off : Nat} {k : List Spanned}
    (hn : e.openDepth ≤ n) (hk : nextBinding k = 0) :
    Takes (expression limit (expressionWithin limit n)) off e.pieces k e.asRead := by
  intro stop
  have hchain := h.disjunction n off k stop hn (by omega)
  exact hchain.reads (next?_ne_of_nextBinding (by simp [hk, binding]) _)

/-- What is a chain of conjuncts is one item of a chain of disjuncts. -/
lemma readsTest_of_conjunction {e : Expr} (hopens : OpensTest e.pieces)
    (hprecedence : e.precedence = 2)
    (h : ∀ n off k stop, e.openDepth ≤ n → nextBinding k < 3 →
      ReadsChain .and .and (basic limit (expressionWithin limit n))
        ⟨Piece.place off e.pieces ++ k, stop⟩ e.asRead ⟨k, Piece.lastStop stop off e.pieces⟩) :
    ReadsTest limit e where
  opens := hopens
  basic hbasic := by omega
  conjunction _ := h
  disjunction n off k stop hn hk := by
    have hchain := h n off k stop hn (by omega)
    exact .single (hchain.reads (next?_ne_of_nextBinding hk _))

/-- What is one conjunct is a test. -/
lemma readsTest_of_basic {e : Expr} (hopens : OpensTest e.pieces)
    (h : ∀ n off k, e.openDepth ≤ n → nextBinding k < 3 →
      Takes (basic limit (expressionWithin limit n)) off e.pieces k e.asRead) :
    ReadsTest limit e where
  opens := hopens
  basic _ := h
  conjunction _ n off k stop hn hk := .single (h n off k hn hk stop)
  disjunction n off k stop hn hk := by
    have hitem := @ReadsChain.single _ _ .and .and _ _ (h n off k hn (by omega) stop)
    exact .single (hitem.reads (next?_ne_of_nextBinding hk _))

/-! ## Parentheses -/

lemma takes_parenthesized {e : Expr} (h : ReadsTest limit e) {n off : Nat} {k : List Spanned}
    (hn : e.openDepth + 1 ≤ n) :
    Takes (parenthesized limit (expressionWithin limit n)) off (Piece.parenthesize true e.pieces) k
      e.asRead := by
  obtain ⟨n, rfl⟩ : ∃ m, n = m + 1 := ⟨n - 1, by omega⟩
  rw [Piece.parenthesize, if_pos rfl]
  refine Takes.offset fun position => ?_
  refine (takes_advance .leftParen ['('] off _).cons ?_
  refine Takes.after (fun _ => reads_enter limit n position _) ?_
  refine (h.expression (Nat.le_of_succ_le_succ hn) rfl).bind ?_
  exact (takes_expect .rightParen [')'] _ _ k).before fun _ => .pure _ _

/-- A test in parentheses, or one that binds as tightly as a comparison, is one conjunct. -/
theorem ReadsTest.takes_basic {e : Expr} (h : ReadsTest limit e) {needed : Bool}
    (hprecedence : needed = false → 3 ≤ e.precedence) {n off : Nat} {k : List Spanned}
    (hn : e.openDepth + needed.toNat ≤ n) (hk : nextBinding k < 3) :
    Takes (Parser.basic limit (expressionWithin limit n)) off
      (Piece.parenthesize needed e.pieces) k e.asRead := by
  cases needed with
  | false => exact h.basic (hprecedence rfl) n off k hn hk
  | true =>
    refine Takes.after (fun stop => reads_eat_of_ne (by simp [Cursor.next?, Piece.parenthesize,
      Piece.place])) ?_
    refine Takes.peek ?_
    exact takes_parenthesized h hn

/-- A test in parentheses, or one that binds as tightly as a conjunction, is a chain of
conjuncts. -/
lemma ReadsTest.chain_and {e : Expr} (h : ReadsTest limit e) {needed : Bool}
    (hprecedence : needed = false → 2 ≤ e.precedence) {n off stop : Nat} {k : List Spanned}
    (hn : e.openDepth + needed.toNat ≤ n) (hk : nextBinding k < 3) :
    ReadsChain .and .and (Parser.basic limit (expressionWithin limit n))
      ⟨Piece.place off (Piece.parenthesize needed e.pieces) ++ k, stop⟩ e.asRead
      ⟨k, Piece.lastStop stop off (Piece.parenthesize needed e.pieces)⟩ := by
  cases needed with
  | false => exact h.conjunction (hprecedence rfl) n off k stop hn hk
  | true => exact .single (h.takes_basic (by simp) hn hk stop)

/-! ## Logical operators -/

lemma readsTest_and {l r : Expr} (hl : ReadsTest limit l) (hr : ReadsTest limit r) :
    ReadsTest limit (.and l r) := by
  refine readsTest_of_conjunction ?_ rfl ?_
  · rw [Expr.pieces]
    exact (hl.opens.parenthesize _).append _
  · intro n off k stop hn hk
    have hln : l.openDepth + (decide (l.precedence < 2)).toNat ≤ n :=
      Nat.le_trans (Nat.le_max_left _ _) hn
    have hrn : r.openDepth + (decide (r.precedence < 3)).toNat ≤ n :=
      Nat.le_trans (Nat.le_max_right _ _) hn
    rw [Expr.pieces, Piece.place_append, Piece.lastStop_append, List.append_assoc]
    refine (hl.chain_and Expr.le_precedence hln (by simp [nextBinding, binding])).snoc rfl ?_ ?_
    · exact hr.takes_basic Expr.le_precedence hrn hk _
    · simp

lemma readsTest_or {l r : Expr} (hl : ReadsTest limit l) (hr : ReadsTest limit r) :
    ReadsTest limit (.or l r) := by
  have hlow : ¬l.precedence < 1 := Nat.not_lt.2 l.one_le_precedence
  constructor
  · rw [Expr.pieces]
    exact (hl.opens.parenthesize _).append _
  · exact fun h => absurd h (by simp [Expr.precedence])
  · exact fun h => absurd h (by simp [Expr.precedence])
  · intro n off k stop hn hk
    have hln : l.openDepth + (decide (l.precedence < 1)).toNat ≤ n :=
      Nat.le_trans (Nat.le_max_left _ _) hn
    have hrn : r.openDepth + (decide (r.precedence < 2)).toNat ≤ n :=
      Nat.le_trans (Nat.le_max_right _ _) hn
    rw [Expr.pieces, Piece.place_append, Piece.lastStop_append, List.append_assoc]
    rw [Piece.parenthesize, if_neg (by simp [hlow])]
    refine (hl.disjunction n off _ stop (by omega) (by simp [nextBinding, binding])).snoc rfl ?_ ?_
    · have hk3 : nextBinding k < 3 := by omega
      exact (hr.chain_and Expr.le_precedence hrn hk3).reads (next?_ne_of_nextBinding hk _)
    · simp

lemma reads_requireTest {e : Expr} (hbare : e.isNegatedBare) (position : Nat)
    (what : Expectation) (c : Cursor) : Reads (requireTest e position what) c () c := by
  cases e <;> first | exact .pure _ _ | simp [Expr.isNegatedBare] at hbare

/-- The operand of `!` without parentheses. -/
lemma readsTest_not_bare {e : Expr} (h : ReadsOperand limit e) (hbare : e.isNegatedBare) :
    ReadsTest limit (.not e) := by
  refine readsTest_of_basic (.sign rfl (by simp)) ?_
  intro n off k hn hk
  have hne : e.openDepth ≤ n := Nat.le_trans (Nat.le_add_right _ _) hn
  have he := h.reads n (off + Text.byteLength ['!']) k hne (by omega)
  obtain ⟨token, written, ps, hpieces, htoken, _⟩ := h.opens
  rw [Expr.pieces, Piece.parenthesize, if_neg (by simp [hbare])]
  refine (takes_eat .not ['!'] off _).cons ?_
  rw [if_pos rfl]
  rw [hpieces] at he ⊢
  refine Takes.peek ?_
  rw [if_neg (by simp at htoken; simp [htoken])]
  refine Takes.offset fun position => ?_
  refine he.before fun stop => ?_
  exact (reads_requireTest (by simpa using hbare) position _ _).bind (.pure _ _)

/-- The operand of `!` in parentheses. -/
lemma readsTest_not {e : Expr} (h : ReadsTest limit e) (hbare : e.isNegatedBare = false) :
    ReadsTest limit (.not e) := by
  refine readsTest_of_basic (.sign rfl (by simp)) ?_
  intro n off k hn hk
  have hne : e.openDepth + 1 ≤ n := by simpa [Expr.openDepth, hbare] using hn
  rw [Expr.pieces, hbare]
  refine (takes_eat .not ['!'] off _).cons ?_
  rw [if_pos rfl]
  refine Takes.peek ?_
  rw [if_pos rfl]
  exact (takes_parenthesized h hne).before fun _ => .pure _ _

/-! ## Comparisons and operands as tests -/

/-- The reader of operands is reached where neither `!` nor a parenthesis comes next. -/
lemma takes_basic_of_operand {e : Expr} {token : Token} {written : List Char} {off n : Nat}
    {ps : List Piece} {k : List Spanned} (htoken : token ∉ [Token.not, .leftParen, .rightParen])
    (h : Takes (comparisonOrTest limit (expressionWithin limit n)) off
      (.lexeme token written :: ps) k e) :
    Takes (basic limit (expressionWithin limit n)) off (.lexeme token written :: ps) k e := by
  simp only [List.mem_cons, not_or] at htoken
  refine Takes.after (fun stop => reads_eat_of_ne ?_) ?_
  · simp [Cursor.next?, Piece.place, htoken]
  · refine Takes.peek ?_
    rw [if_neg (by simp [htoken])]
    exact h

lemma reads_requireComparable {e : Expr} (h : e.isWritable .operand) (position : Nat)
    (c : Cursor) : Reads (requireComparable e.asRead position) c () c := by
  cases e with
  | query anchor ss =>
    have hss : Segment.allSingular ss := by
      simp only [Expr.isWritable, bne_self_eq_false, Bool.false_or, Bool.and_eq_true] at h
      exact h.1
    rw [Expr.asRead, requireComparable, if_pos (by simpa using hss)]
    exact .pure _ _
  | _ => exact .pure _ _

/-- An operand of a comparison binds more tightly than any operator. -/
lemma precedence_of_isWritable_operand {e : Expr} (h : e.isWritable .operand) :
    e.precedence = 4 := by
  cases e <;> first | rfl | simp [Expr.isWritable] at h

lemma readsTest_compare {op : Comparison} {l r : Expr} (hl : ReadsOperand limit l)
    (hr : ReadsOperand limit r) (hlw : l.isWritable .operand) (hrw : r.isWritable .operand) :
    ReadsTest limit (.compare op l r) := by
  have hlp := precedence_of_isWritable_operand hlw
  have hrp := precedence_of_isWritable_operand hrw
  have hpieces : (Expr.compare op l r).pieces =
      l.pieces ++ (Piece.operator (.comparison op) op.symbol.toList ++ r.pieces) := by
    simp [Expr.pieces, Piece.parenthesize, hlp, hrp]
  obtain ⟨token, written, ps, hl_pieces, htoken, hliteral⟩ := hl.opens
  refine readsTest_of_basic ?_ ?_
  · rw [hpieces, hl_pieces]
    by_cases h : token.isLiteral
    · rw [hliteral h]
      exact .literal (by simp at htoken; simp [htoken])
    · exact .sign (by simpa using h) (by simp at htoken; simp [htoken])
  · intro n off k hn hk
    have hdepth : max l.openDepth r.openDepth ≤ n := by
      simpa [Expr.openDepth, hlp, hrp] using hn
    have hln : l.openDepth ≤ n := Nat.le_trans (Nat.le_max_left _ _) hdepth
    have hrn : r.openDepth ≤ n := Nat.le_trans (Nat.le_max_right _ _) hdepth
    have hcompare : Takes (comparisonOrTest limit (expressionWithin limit n)) off
        (Expr.compare op l r).pieces k (Expr.compare op l r).asRead := by
      refine Takes.offset fun leftPosition => ?_
      rw [hpieces]
      refine (hl.reads n off _ hln (by simp [Piece.operator, Piece.place,
        nextBinding, binding])).bind ?_
      refine Takes.blank (Takes.peek ?_)
      refine (takes_advance _ _ _ _).cons ?_
      refine Takes.after (fun _ => reads_requireComparable hlw leftPosition _) ?_
      refine Takes.offset fun rightPosition => Takes.blank ?_
      refine (hr.reads n _ k hrn (by omega)).before fun stop => ?_
      exact (reads_requireComparable hrw rightPosition _).bind (.pure _ _)
    rw [hpieces, hl_pieces] at hcompare ⊢
    exact takes_basic_of_operand htoken hcompare

/-- A query or a call is a test by itself. -/
lemma ReadsOperand.readsTest {e : Expr} (h : ReadsOperand limit e) (hbare : e.isNegatedBare) :
    ReadsTest limit e := by
  refine readsTest_of_basic ?_ ?_
  · cases e with
    | query anchor ss => cases anchor <;> exact .sign rfl (by simp [Anchor.token])
    | call function arguments => exact .sign rfl (by simp)
    | _ => simp [Expr.isNegatedBare] at hbare
  · intro n off k hn hk
    obtain ⟨token, written, ps, hpieces, htoken, _⟩ := h.opens
    have hoperand : Takes (comparisonOrTest limit (expressionWithin limit n)) off e.pieces k
        e.asRead := by
      refine Takes.offset fun leftPosition => ?_
      refine (h.reads n off k hn (by omega)).before fun stop => ?_
      refine (reads_peek _).bind ?_
      split
      · rename_i op heq
        exact absurd heq (next?_ne_of_nextBinding hk stop)
      · refine Reads.offset_bind fun position => ?_
        exact (reads_requireTest (by simpa using hbare) position _ _).bind (.pure _ _)
    rw [hpieces] at hoperand ⊢
    exact takes_basic_of_operand htoken hoperand

/-! ## Calls -/

/-- An expression reads as an argument of a call. -/
structure ReadsArgument (limit : Nat) (e : Expr) : Prop where
  opens : ∃ token written ps, e.pieces = .lexeme token written :: ps ∧ token ≠ .rightParen
  reads : ∀ n off k, e.openDepth ≤ n → EndsItem .rightParen k →
    Takes (argument (expression limit (expressionWithin limit n))) off e.pieces k e.asRead

/-- The token of a scalar is that of a literal. -/
lemma isLiteral_literal {value : Json} (h : value.isScalar) :
    ∃ token written, Piece.literal value = .lexeme token written ∧ token.isLiteral := by
  refine ⟨_, _, rfl, ?_⟩
  cases value with
  | bool b => cases b <;> rfl
  | array elements => simp [Json.isScalar, Json.isContainer] at h
  | object members => simp [Json.isScalar, Json.isContainer] at h
  | _ => rfl

lemma takes_argument_literal {value : Json} (hscalar : value.isScalar) (deeper : Parser Expr)
    (off : Nat) {k : List Spanned} (hk : EndsItem .rightParen k) :
    Takes (argument deeper) off (Expr.literal value).pieces k (Expr.literal value).asRead := by
  have hliteral := takes_literal hscalar off k
  obtain ⟨t, rest, rfl, ht⟩ := hk
  obtain ⟨token, written, hpiece, htoken⟩ := isLiteral_literal hscalar
  rw [hpiece] at hliteral
  rw [Expr.pieces, hpiece]
  refine Takes.peek ?_
  refine Takes.peekSecond ?_
  rw [if_pos]
  · exact hliteral.before fun _ => .pure _ _
  · simpa [htoken, Piece.place] using ht

/-- A literal that stands alone is not read as an expression. -/
lemma readsArgument_literal {value : Json} (hscalar : value.isScalar) :
    ReadsArgument limit (.literal value) := by
  obtain ⟨token, written, ps, hpieces, htoken, _⟩ := (@readsOperand_literal limit _ hscalar).opens
  constructor
  · refine ⟨token, written, ps, hpieces, ?_⟩
    simp only [List.mem_cons, not_or] at htoken
    exact htoken.2.2.1
  · exact fun n off k _ hk => takes_argument_literal hscalar _ off hk

/-- A test among the arguments is read as an expression, even if it begins with a literal. -/
lemma OpensTest.takes_argument {ps : List Piece} (h : OpensTest ps) {deeper : Parser Expr}
    {off : Nat} {k : List Spanned} {e : Expr} (hdeeper : Takes deeper off ps k e) :
    Takes (argument deeper) off ps k e := by
  cases h with
  | sign hliteral _ =>
    refine Takes.peek ?_
    refine Takes.peekSecond ?_
    simpa [hliteral] using hdeeper
  | literal _ =>
    refine Takes.peek ?_
    refine Takes.peekSecond ?_
    simpa [Piece.place] using hdeeper

lemma OpensTest.opens {ps : List Piece} (h : OpensTest ps) :
    ∃ token written qs, ps = .lexeme token written :: qs ∧ token ≠ .rightParen := by
  cases h with
  | sign _ hparen => exact ⟨_, _, _, rfl, hparen⟩
  | literal hparen => exact ⟨_, _, _, rfl, hparen⟩

lemma ReadsTest.readsArgument {e : Expr} (h : ReadsTest limit e) : ReadsArgument limit e where
  opens := h.opens.opens
  reads _ _ _ hn hk := h.opens.takes_argument (h.expression hn (hk.nextBinding_eq rfl))

/-- The arguments of a call, from readings of each. -/
lemma takes_arguments {es : List Expr} (h : ∀ e ∈ es, ReadsArgument limit e) {n : Nat}
    (hn : Expr.openDepths es ≤ n) (off : Nat) {t : Spanned} (ht : t.token = .rightParen)
    (rest : List Spanned) :
    Takes (arguments (expression limit (expressionWithin limit n))) off (Expr.argumentPieces es)
      (t :: rest) (Expr.allAsRead es) := by
  intro stop
  refine (reads_peek _).bind ?_
  cases es with
  | nil =>
    rw [if_pos (by simp [Cursor.next?, Expr.argumentPieces, Piece.place, ht])]
    exact .pure _ _
  | cons e es =>
    obtain ⟨token, written, ps, hpieces, hparen⟩ := (h e (by simp)).opens
    obtain ⟨qs, hqs⟩ := Expr.argumentPieces_cons e es
    rw [if_neg (by simp [Cursor.next?, hqs, hpieces, Piece.place, hparen])]
    have hitem : ∀ f ∈ e :: es, ∀ off k, EndsItem .rightParen k →
        Takes (argument (expression limit (expressionWithin limit n))) off f.pieces k f.asRead :=
      fun f hf off k =>
        (h f hf).reads n off k (Nat.le_trans (Expr.openDepth_le_openDepths hf) hn)
    rw [Expr.argumentPieces_eq, Expr.allAsRead_eq_map]
    refine (takes_commaSeparated ⟨t, rest, rfl, .inr ht⟩ ?_ es e hitem off stop).bind ?_
    · exact fun _ => by simp [Cursor.next?, ht]
    · exact .pure _ _

/-- The arguments of a call and its closing parenthesis. -/
lemma takes_call_arguments {es : List Expr} (h : ∀ e ∈ es, ReadsArgument limit e) {n : Nat}
    (hn : Expr.openDepths es ≤ n) (function : String) (off : Nat) (k : List Spanned) :
    Takes (do
        let results ← arguments (expression limit (expressionWithin limit n))
        expect .rightParen .commaOrParen
        return Expr.call function results)
      off (Expr.argumentPieces es ++ [.lexeme .rightParen [')']]) k
      (.call function (Expr.allAsRead es)) := by
  refine (takes_arguments h hn off rfl _).bind ?_
  exact (takes_expect _ _ _ _ k).before fun _ => .pure _ _

lemma readsOperand_call {function : String} {arguments : List Expr}
    (hcallable : isCallable function) (h : ∀ e ∈ arguments, ReadsArgument limit e) :
    ReadsOperand limit (.call function arguments) := by
  constructor
  · exact ⟨_, _, _, rfl, by simp, by simp [Token.isLiteral]⟩
  · intro n off k hn _ stop
    obtain ⟨n, rfl⟩ : ∃ m, n = m + 1 := ⟨n - 1, by rw [Expr.openDepth] at hn; omega⟩
    have hdepth : Expr.openDepths arguments ≤ n := Nat.le_of_succ_le_succ hn
    have hname : isFunctionName function := by
      simp only [isCallable, Bool.and_eq_true] at hcallable
      exact hcallable.1
    refine (reads_peek _).bind ?_
    refine (reads_peekSecond _).bind ?_
    rw [if_pos (by simp [Expr.pieces, Piece.place]), call, if_neg (by simp [hname])]
    refine (reads_advance _ _ stop).bind ?_
    refine (reads_isAdjacent _ _ _ rfl).bind ?_
    rw [if_neg (by simp)]
    refine Reads.offset_bind fun position => ?_
    refine (reads_advance _ _ _).bind ?_
    refine (reads_enter limit n position _).bind ?_
    exact takes_call_arguments h hdepth function _ k _

end Parser

end JsonPath
