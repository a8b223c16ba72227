import JsonPath.Proofs.Rereading.Operands

/-!
# Reading canonical tests again

The rules for the operators, for operands that stand as tests, and for arguments, one for each
constructor and each from what the parser makes of the parts.

`Parser.RereadsTest` says of an expression what each reader of operators makes of its text.  The
ranks of the operators are kept by the parentheses of the text, so a chain is read again as that
chain.  A comparison is different: an operand of one may be anything in the tree, and no reader
takes an operator there.  A left operand with an operator is read by itself, up to the sign, where
nothing can go on (`Parser.Stuck`), and a right one is refused.
-/

namespace JsonPath

/-- Whether an expression is a literal, a query or a call. -/
def Expr.isOperand : Expr → Bool
  | .literal _ => true
  | .query _ _ => true
  | .call _ _ => true
  | _ => false

lemma Expr.isOperand_of_isNegatedBare {e : Expr} (h : e.isNegatedBare) : e.isOperand := by
  cases e <;> first | rfl | simp [Expr.isNegatedBare] at h

/-- An operand never needs parentheses. -/
lemma Expr.precedence_of_isOperand {e : Expr} (h : e.isOperand) : e.precedence = 4 := by
  cases e <;> first | rfl | simp [Expr.isOperand] at h

/-! ## How operators are written -/

lemma Expr.toList_and (l r : Expr) :
    (Expr.and l r).text.toList =
      (Text.parenthesize (l.precedence < 2) l.text).toList ++ ' ' :: (['&', '&'] ++
        ' ' :: (Text.parenthesize (r.precedence < 3) r.text).toList) := by
  simp [Expr.text]

lemma Expr.toList_or (l r : Expr) :
    (Expr.or l r).text.toList =
      (Text.parenthesize (l.precedence < 1) l.text).toList ++ ' ' :: (['|', '|'] ++
        ' ' :: (Text.parenthesize (r.precedence < 2) r.text).toList) := by
  simp [Expr.text]

lemma Expr.toList_compare (op : Comparison) (l r : Expr) :
    (Expr.compare op l r).text.toList =
      (Text.parenthesize (l.precedence < 4) l.text).toList ++ ' ' :: (op.symbol.toList ++
        ' ' :: (Text.parenthesize (r.precedence < 4) r.text).toList) := by
  simp [Expr.text]

section Openings

variable {rest : List Char} {ts : List Token}

/-- Parentheses begin with the opening one. -/
lemma TokensOf.parenthesize {text : String}
    (h : TokensOf ((Text.parenthesize true text).toList ++ rest) ts) :
    ∃ ts', ts = .leftParen :: ts' ∧ TokensOf (text.toList ++ ')' :: rest) ts' := by
  have hparen : TokensOf ('(' :: (text.toList ++ ')' :: rest)) ts := by
    simpa [Text.parenthesize] using h
  exact hparen.sign .leftParen (by decide)

/-- The operand of `!` does not begin with an equal sign. -/
lemma Expr.head?_negated {e : Expr} (hwords : ∀ f ∈ e.functions, Token.isWord f) :
    ∃ c cs, (Text.parenthesize (!e.isNegatedBare) e.text).toList = c :: cs ∧ c ≠ '=' := by
  cases hbare : e.isNegatedBare with
  | false => exact ⟨'(', e.text.toList ++ [')'], by simp [Text.parenthesize], by decide⟩
  | true =>
    cases e with
    | query anchor segments =>
      have htext : (Text.parenthesize (!true) (Expr.query anchor segments).text).toList =
          anchor.symbol.toList ++ (Segment.texts segments).toList := by
        simp [Text.parenthesize, Expr.text]
      rw [htext]
      cases anchor with
      | root => exact ⟨'$', _, rfl, by decide⟩
      | current => exact ⟨'@', _, rfl, by decide⟩
    | call function arguments =>
      have hword : Token.isWord function := hwords function (by simp [Expr.functions])
      unfold Token.isWord at hword
      split at hword
      · cases hword
      · rename_i c cs hcs
        rw [Bool.and_eq_true] at hword
        refine ⟨c, _, by simp [Text.parenthesize, Expr.text, hcs]; rfl, ?_⟩
        rintro rfl
        exact absurd hword.1 (by decide)
    | _ => simp [Expr.isNegatedBare] at hbare

lemma TokensOf.not {e : Expr} (hwords : ∀ f ∈ e.functions, Token.isWord f)
    (h : TokensOf ((Expr.not e).text.toList ++ rest) ts) :
    ∃ ts', ts = .not :: ts' ∧
      TokensOf ((Text.parenthesize (!e.isNegatedBare) e.text).toList ++ rest) ts' := by
  have hnot : TokensOf (['!'] ++
      ((Text.parenthesize (!e.isNegatedBare) e.text).toList ++ rest)) ts := by
    simpa [Expr.text] using h
  obtain ⟨c, cs, heq, hc⟩ := Expr.head?_negated hwords
  rw [heq, List.cons_append] at hnot ⊢
  exact hnot.lexeme (Piece.scans_not hc (cs ++ rest))

end Openings

namespace Parser

variable {r : Registry} {limit bound : Nat}

/-! ## Chains of one rank -/

section Chains

variable {operator : Token} {combine : Expr → Expr → Expr} {item : Parser Expr}
  {written : List Char} {e : Expr}

/-- The items that are read from the text `written`, combined from the left, have the meaning of
`e`.  The chain may go on with what is read behind the text. -/
def RereadsChain (r : Registry) (bound : Nat) (operator : Token) (combine : Expr → Expr → Expr)
    (item : Parser Expr) (written : List Char) (e : Expr) : Prop :=
  ∀ rest ts (Q : List Expr → List Token → Prop), Follows bound rest →
    TokensOf (written ++ rest) ts →
    (∀ x xs ts', r.EvaluatesAs (xs.foldl combine x) e → TokensOf rest ts' →
      Ensures (collected operator item (x :: xs)) ts' Q) →
    (∀ x xs ts', Stuck ts' → Q (x :: xs) ts') →
    Ensures (item >>= fun x => collected operator item [x]) ts Q

variable (hoperator : operator ∈ [Token.and, .or]) (hitem : Keeps Shrinks item)

include hoperator hitem in
lemma Stuck.ensures_chain {ts : List Token} (h : Stuck ts) {items : List Expr}
    {Q : List Expr → List Token → Prop} (hQ : Q items ts) :
    Ensures (collected operator item items) ts Q := by
  refine h.ensures_collected ?_ (fun op => ?_) hitem hQ
  · rintro rfl
    simp at hoperator
  · rintro rfl
    simp at hoperator

include hoperator hitem in
/-- One item is a chain. -/
lemma RereadsAs.chain (h : RereadsAs r bound item written e) :
    RereadsChain r bound operator combine item written e := by
  intro rest ts Q hrest hts hgo hstuck
  refine (h rest ts hrest hts).bind fun x ts' hx => ?_
  rcases hx with ⟨hmeaning, hts'⟩ | hstops
  · exact hgo x [] ts' hmeaning hts'
  · exact hstops.ensures_chain hoperator hitem (hstuck x [] ts' hstops)

include hoperator hitem in
/-- A chain goes on with an operator and one more item. -/
lemma RereadsChain.snoc {l : Expr} {left right sign : List Char}
    (hl : RereadsChain r bound operator combine item left l)
    (hr : RereadsAs r bound item right e) (hsign : (operator, sign) ∈ Piece.closedSigns)
    (hbinding : binding operator < bound)
    (hcombine : ∀ {x y}, r.EvaluatesAs x l → r.EvaluatesAs y e →
      r.EvaluatesAs (combine x y) (combine l e)) :
    RereadsChain r bound operator combine item (left ++ ' ' :: (sign ++ ' ' :: right))
      (combine l e) := by
  intro rest ts Q hrest hts hgo hstuck
  have hscans := Piece.scans_closed hsign (' ' :: (right ++ rest))
  have hleft : TokensOf (left ++ ' ' :: (sign ++ ' ' :: (right ++ rest))) ts := by
    simpa using hts
  refine hl _ ts Q (follows_operator hscans hbinding) hleft ?_ hstuck
  -- The items of the left text have been read, and the sign comes next.
  intro x xs ts' hmeaning hts'
  obtain ⟨ts'', rfl, hts''⟩ := hts'.blank.closed operator hsign
  refine ensures_collected hitem ?_ (by simp)
  rintro _ ⟨⟩
  refine (hr rest ts'' hrest hts''.blank).bind fun y ts₃ hy => ?_
  rcases hy with ⟨hright, hts₃⟩ | hstops
  · refine hgo x (xs ++ [y]) ts₃ ?_ hts₃
    rw [List.foldl_append]
    exact hcombine hmeaning hright
  · exact hstops.ensures_chain hoperator hitem (hstuck x (xs ++ [y]) ts₃ hstops)

include hitem in
/-- The reader of chains reads a whole chain where its operator does not follow. -/
lemma RereadsChain.rereadsAs {low : Nat}
    (h : RereadsChain r bound operator combine item written e) (hle : low ≤ bound)
    (hend : low ≤ binding operator) :
    RereadsAs r low (chained operator combine item) written e := by
  intro rest ts hrest hts
  have hlist : Ensures (item >>= fun x => collected operator item [x]) ts fun xs ts' =>
      ∃ x ys, xs = x :: ys ∧ Outcome r e rest (ys.foldl combine x) ts' := by
    refine h rest ts _ (hrest.mono hle) hts ?_ fun x xs ts' hstops => ⟨x, xs, rfl, .inr hstops⟩
    intro x xs ts' hmeaning hts'
    refine ensures_collected hitem (fun ts'' hts'' => ?_) fun _ => ?_
    · exact absurd (by rw [hts'']; rfl) (hrest.head hts' hend)
    · exact ⟨x, xs, rfl, .inl ⟨hmeaning, hts'⟩⟩
  refine (ensures_separated hlist).bind ?_
  rintro ⟨first, others⟩ ts' ⟨x, ys, heq, hxs⟩
  obtain ⟨rfl, rfl⟩ := List.cons.inj heq
  exact .pure hxs

end Chains

/-! ## Tests -/

lemma keeps_conjunct (limit n : Nat) : Keeps Shrinks (basic limit (expressionWithin limit n)) :=
  keeps_basic isKept_shrinks limit (keeps_expressionWithin isKept_shrinks limit n)

lemma keeps_disjunct (limit n : Nat) :
    Keeps Shrinks (chained .and .and (basic limit (expressionWithin limit n))) :=
  keeps_chained isKept_shrinks _ _ (keeps_conjunct limit n)

/-- What the readers of the operators make of the text of `e`, as tightly as its outermost operator
binds. -/
structure RereadsTest (r : Registry) (limit : Nat) (e : Expr) : Prop where
  basic : 3 ≤ e.precedence → ∀ n,
    RereadsAs r 3 (basic limit (expressionWithin limit n)) e.text.toList e
  conjunction : 2 ≤ e.precedence → ∀ n,
    RereadsChain r 3 .and .and (Parser.basic limit (expressionWithin limit n)) e.text.toList e
  disjunction : ∀ n,
    RereadsChain r 2 .or .or (chained .and .and (Parser.basic limit (expressionWithin limit n)))
      e.text.toList e

variable {e : Expr}

/-- A test is a whole expression where no operator follows. -/
lemma RereadsTest.expression (h : RereadsTest r limit e) : RereadsExpression r limit e :=
  fun n => (h.disjunction n).rereadsAs (keeps_disjunct limit n) (by decide) (by decide)

/-- What is a chain of conjuncts is one item of a chain of disjuncts. -/
lemma rereadsTest_of_conjunction (hprecedence : e.precedence = 2)
    (h : ∀ n, RereadsChain r 3 .and .and (basic limit (expressionWithin limit n))
      e.text.toList e) : RereadsTest r limit e where
  basic hbasic := by omega
  conjunction _ := h
  disjunction n :=
    ((h n).rereadsAs (keeps_conjunct limit n) (by decide) (by decide)).chain (by simp)
      (keeps_disjunct limit n)

/-- What is one conjunct is a test. -/
lemma rereadsTest_of_basic
    (h : ∀ n, RereadsAs r 3 (basic limit (expressionWithin limit n)) e.text.toList e) :
    RereadsTest r limit e where
  basic _ := h
  conjunction _ n := (h n).chain (by simp) (keeps_conjunct limit n)
  disjunction n := by
    have hchain : RereadsChain r 3 .and .and (basic limit (expressionWithin limit n))
        e.text.toList e := (h n).chain (by simp) (keeps_conjunct limit n)
    exact (hchain.rereadsAs (keeps_conjunct limit n) (by decide) (by decide)).chain (by simp)
      (keeps_disjunct limit n)

/-! ## Parentheses -/

lemma RereadsExpression.ensures_parenthesized (h : RereadsExpression r limit e) (n : Nat)
    {rest : List Char} {ts : List Token} (hts : TokensOf (e.text.toList ++ ')' :: rest) ts) :
    Ensures (parenthesized limit (expressionWithin limit n)) (.leftParen :: ts)
      fun x ts' => r.EvaluatesAs x e ∧ TokensOf rest ts' := by
  refine Ensures.offset fun position => Ensures.advance (ensures_enter_bind fun m _ => ?_)
  refine (h m _ ts ((itemEnds_paren rest).follows rfl) hts).bind fun x ts' hx => ?_
  rcases hx with ⟨hmeaning, hts'⟩ | hstuck
  · obtain ⟨ts'', rfl, hts''⟩ := hts'.sign .rightParen (by decide)
    refine Ensures.expect ?_
    rintro _ ⟨⟩
    exact .pure ⟨hmeaning, hts''⟩
  · exact hstuck.ensures_expect (by simp) (by simp)

/-- An expression in parentheses is one conjunct, whatever follows. -/
lemma RereadsExpression.basic_parenthesize (h : RereadsExpression r limit e) (n : Nat) :
    RereadsAs r bound (basic limit (expressionWithin limit n))
      (Text.parenthesize true e.text).toList e := by
  intro rest ts hrest hts
  obtain ⟨ts', rfl, hts'⟩ := hts.parenthesize
  refine Ensures.eat (by simp) fun _ => ?_
  rw [if_neg (by simp)]
  refine Ensures.peek ?_
  rw [if_pos (by rfl)]
  exact (h.ensures_parenthesized n hts').imp fun x ts'' hx => .inl hx

/-- A test in parentheses, or one that binds as tightly as a comparison, is one conjunct. -/
lemma RereadsTest.basic_parenthesize (h : RereadsTest r limit e) {needed : Bool}
    (hprecedence : needed = false → 3 ≤ e.precedence) (n : Nat) :
    RereadsAs r 3 (Parser.basic limit (expressionWithin limit n))
      (Text.parenthesize needed e.text).toList e := by
  cases needed with
  | false => exact h.basic (hprecedence rfl) n
  | true => exact h.expression.basic_parenthesize n

/-- A test in parentheses, or one that binds as tightly as a conjunction, is a chain of
conjuncts. -/
lemma RereadsTest.conjunction_parenthesize (h : RereadsTest r limit e) {needed : Bool}
    (hprecedence : needed = false → 2 ≤ e.precedence) (n : Nat) :
    RereadsChain r 3 .and .and (Parser.basic limit (expressionWithin limit n))
      (Text.parenthesize needed e.text).toList e := by
  cases needed with
  | false => exact h.conjunction (hprecedence rfl) n
  | true => exact (h.expression.basic_parenthesize n).chain (by simp) (keeps_conjunct limit n)

/-! ## Logical operators -/

lemma rereadsTest_and {l e : Expr} (hl : RereadsTest r limit l) (he : RereadsTest r limit e) :
    RereadsTest r limit (.and l e) := by
  refine rereadsTest_of_conjunction rfl fun n => ?_
  rw [Expr.toList_and]
  have hleft := hl.conjunction_parenthesize Expr.le_precedence n
  have hright := he.basic_parenthesize Expr.le_precedence n
  exact hleft.snoc (by simp) (keeps_conjunct limit n) hright (by decide) (by decide)
    Registry.EvaluatesAs.and

lemma rereadsTest_or {l e : Expr} (hl : RereadsTest r limit l) (he : RereadsTest r limit e) :
    RereadsTest r limit (.or l e) := by
  have hlow : ¬l.precedence < 1 := Nat.not_lt.2 l.one_le_precedence
  constructor
  · exact fun h => absurd h (by simp [Expr.precedence])
  · exact fun h => absurd h (by simp [Expr.precedence])
  · intro n
    rw [Expr.toList_or, Text.parenthesize, if_neg (by simp [hlow])]
    have hright := (he.conjunction_parenthesize Expr.le_precedence n).rereadsAs
      (keeps_conjunct limit n) (Nat.le_succ 2) (Nat.le_refl 2)
    exact (hl.disjunction n).snoc (by simp) (keeps_disjunct limit n) hright (by decide) (by decide)
      Registry.EvaluatesAs.or

/-! ## Operands as tests -/

lemma ensures_requireTest {ts : List Token} (e : Expr) (position : Nat) (what : Expectation) :
    Ensures (requireTest e position what) ts fun _ ts' =>
      (∀ value, e ≠ .literal value) ∧ ts' = ts := by
  cases e with
  | literal value => exact ensures_failAt _ _
  | _ => exact .pure ⟨by simp, rfl⟩

/-- Where a literal is refused, an operand has been read as it was written. -/
lemma OperandOutcome.of_test {rest : List Char} {x : Expr} {ts : List Token}
    (h : OperandOutcome r e rest x ts) (hx : ∀ value, x ≠ .literal value) :
    r.EvaluatesAs x e ∧ TokensOf rest ts := by
  rcases h with h | ⟨⟨value, rfl⟩, -⟩
  · exact h
  · exact absurd rfl (hx value)

/-- The reader of operands is reached where neither `!` nor a parenthesis comes next. -/
lemma ensures_basic_of_operand {deeper? : Option (Parser Expr)} {ts : List Token}
    {Q : Expr → List Token → Prop} (hhead : ts.head? ∉ [some .not, some .leftParen])
    (h : Ensures (comparisonOrTest limit deeper?) ts Q) : Ensures (basic limit deeper?) ts Q := by
  simp only [List.mem_cons, List.not_mem_nil, or_false, not_or] at hhead
  refine Ensures.eat (fun rest hts => ?_) fun _ => ?_
  · exact absurd (by rw [hts]; rfl) hhead.1
  · rw [if_neg (by simp)]
    refine Ensures.peek ?_
    rw [if_neg hhead.2]
    exact h

/-- An operand is a test by itself where no comparison follows.  A literal is refused there. -/
lemma RereadsOperand.rereadsTest (h : RereadsOperand r limit e) : RereadsTest r limit e := by
  refine rereadsTest_of_basic fun n rest ts hrest hts => ?_
  refine ensures_basic_of_operand (h.opens rest ts hrest.ends hts) ?_
  refine Ensures.offset fun leftPosition => ?_
  refine (h.reads n rest ts (hrest.mono (by decide)) hts).bind fun x ts' hx => Ensures.peek ?_
  split
  · rename_i op hcomparison
    rcases hx with ⟨-, hts'⟩ | ⟨-, hparen⟩
    · exact absurd hcomparison (hrest.head hts' (Nat.le_refl 3))
    · simp [hparen] at hcomparison
  · refine Ensures.offset fun position => (ensures_requireTest x position _).bind ?_
    rintro _ _ ⟨htest, rfl⟩
    exact .pure (.inl (hx.of_test htest))

/-- The operand of `!` without parentheses.  Any operator may follow. -/
lemma RereadsOperand.rereadsAs_not (h : RereadsOperand r limit e) (hbare : e.isNegatedBare)
    (hwords : ∀ f ∈ e.functions, Token.isWord f) (n : Nat) :
    RereadsAs r 4 (basic limit (expressionWithin limit n)) (Expr.not e).text.toList (.not e) := by
  intro rest ts hrest hts
  obtain ⟨ts', rfl, hparenthesized⟩ := hts.not hwords
  have hts' : TokensOf (e.text.toList ++ rest) ts' := by
    simpa [hbare, Text.parenthesize] using hparenthesized
  have hhead := h.opens rest ts' hrest.ends hts'
  simp only [List.mem_cons, List.not_mem_nil, or_false, not_or] at hhead
  refine Ensures.eat ?_ (by simp)
  rintro _ ⟨⟩
  rw [if_pos rfl]
  refine Ensures.peek ?_
  rw [if_neg hhead.2]
  refine Ensures.offset fun position => ?_
  refine (h.reads n rest ts' hrest hts').bind fun x ts'' hx => ?_
  refine (ensures_requireTest x position _).bind ?_
  rintro _ _ ⟨htest, rfl⟩
  exact .pure (.inl ⟨(hx.of_test htest).1.not, (hx.of_test htest).2⟩)

/-- The operand of `!` in parentheses. -/
lemma RereadsExpression.rereadsAs_not (h : RereadsExpression r limit e)
    (hbare : e.isNegatedBare = false) (hwords : ∀ f ∈ e.functions, Token.isWord f) (n : Nat) :
    RereadsAs r bound (basic limit (expressionWithin limit n)) (Expr.not e).text.toList
      (.not e) := by
  intro rest ts hrest hts
  obtain ⟨ts', rfl, hparenthesized⟩ := hts.not hwords
  rw [hbare] at hparenthesized
  obtain ⟨ts'', rfl, hts''⟩ := hparenthesized.parenthesize
  refine Ensures.eat ?_ (by simp)
  rintro _ ⟨⟩
  rw [if_pos rfl]
  refine Ensures.peek ?_
  rw [if_pos (by rfl)]
  refine (h.ensures_parenthesized n hts'').bind fun x ts₃ hx => ?_
  exact .pure (.inl ⟨hx.1.not, hx.2⟩)

/-! ## Comparisons -/

/-- An operand of a comparison that is none for the parser: it begins with the sign of an operator,
and the reader of conjuncts reads it as a whole. -/
structure RereadsClosed (r : Registry) (limit : Nat) (e : Expr) : Prop where
  opens : ∀ rest ts, TokensOf ((Text.parenthesize (e.precedence < 4) e.text).toList ++ rest) ts →
    ts.head? ∈ [some .not, some .leftParen]
  basic : ∀ n, RereadsAs r 4 (basic limit (expressionWithin limit n))
    (Text.parenthesize (e.precedence < 4) e.text).toList e

lemma RereadsTest.rereadsClosed (h : RereadsTest r limit e) (hprecedence : e.precedence < 4) :
    RereadsClosed r limit e := by
  have hneeded : decide (e.precedence < 4) = true := decide_eq_true hprecedence
  constructor
  · intro rest ts hts
    rw [hneeded] at hts
    obtain ⟨ts', rfl, -⟩ := hts.parenthesize
    simp
  · intro n
    rw [hneeded]
    exact h.expression.basic_parenthesize n

lemma rereadsClosed_not (hwords : ∀ f ∈ e.functions, Token.isWord f)
    (h : ∀ n, RereadsAs r 4 (basic limit (expressionWithin limit n)) (Expr.not e).text.toList
      (.not e)) : RereadsClosed r limit (.not e) where
  opens rest ts hts := by
    obtain ⟨ts', rfl, -⟩ := TokensOf.not hwords hts
    simp
  basic := h

/-- What the parser makes of an expression, in each place where it can stand. -/
structure RereadsExpr (r : Registry) (limit : Nat) (e : Expr) : Prop where
  operand : e.isOperand → RereadsOperand r limit e
  closed : e.isOperand = false → RereadsClosed r limit e
  test : RereadsTest r limit e

lemma ensures_requireComparable {ts : List Token} (e : Expr) (position : Nat) :
    Ensures (requireComparable e position) ts fun _ ts' => ts' = ts := by
  unfold requireComparable
  split
  · split
    · exact .pure rfl
    · exact ensures_failAt _ _
  · exact .pure rfl

/-- The right operand of a comparison, where the left one has been read as `x`. -/
lemma ensures_right {op : Comparison} {l x : Expr} (hx : r.EvaluatesAs x l)
    (he : RereadsExpr r limit e) {n : Nat} {rest : List Char} {ts : List Token}
    (hrest : Follows 3 rest)
    (hts : TokensOf ((Text.parenthesize (e.precedence < 4) e.text).toList ++ rest) ts) :
    Ensures (do
        let rightPosition ← offset
        let right ← operand limit (expressionWithin limit n)
        requireComparable right rightPosition
        return .compare op x right)
      ts (Outcome r (.compare op l e) rest) := by
  refine Ensures.offset fun rightPosition => ?_
  cases hoperand : e.isOperand with
  | false =>
    have hhead := (he.closed hoperand).opens rest ts hts
    have hnone : Ensures (operand limit (expressionWithin limit n)) ts fun _ _ => False := by
      refine ensures_operand_none ?_
      simp only [List.mem_cons, List.not_mem_nil, or_false] at hhead ⊢
      exact .inr hhead.symm
    exact hnone.bind fun _ _ hfalse => hfalse.elim
  | true =>
    have hbare : TokensOf (e.text.toList ++ rest) ts := by
      simpa [Expr.precedence_of_isOperand hoperand, Text.parenthesize] using hts
    have hread := (he.operand hoperand).reads n rest ts (hrest.mono (by decide)) hbare
    refine hread.bind fun y ts' hy => (ensures_requireComparable y rightPosition).bind ?_
    rintro _ _ rfl
    refine .pure ?_
    rcases hy with ⟨hmeaning, hts'⟩ | ⟨-, hparen⟩
    · exact .inl ⟨hx.compare op hmeaning, hts'⟩
    · exact .inr (.inl hparen)

lemma rereadsAs_compare {op : Comparison} {l : Expr} (hl : RereadsExpr r limit l)
    (he : RereadsExpr r limit e) (n : Nat) :
    RereadsAs r 3 (basic limit (expressionWithin limit n)) (Expr.compare op l e).text.toList
      (.compare op l e) := by
  intro rest ts hrest hts
  generalize hright : (Text.parenthesize (e.precedence < 4) e.text).toList ++ rest = right at *
  have hleft : TokensOf ((Text.parenthesize (l.precedence < 4) l.text).toList ++
      ' ' :: (op.symbol.toList ++ ' ' :: right)) ts := by
    rw [Expr.toList_compare] at hts
    simpa [← hright] using hts
  have hsign : ∀ {ts'}, TokensOf (' ' :: (op.symbol.toList ++ ' ' :: right)) ts' →
      ∃ ts'', ts' = .comparison op :: ts'' ∧ TokensOf right ts'' := fun hts' => by
    obtain ⟨ts'', rfl, hts''⟩ := hts'.blank.lexeme (Piece.scans_comparison op right)
    exact ⟨ts'', rfl, hts''.blank⟩
  have hfollows : Follows 4 (' ' :: (op.symbol.toList ++ ' ' :: right)) :=
    follows_operator (Piece.scans_comparison op right) (Nat.lt_succ_self 3)
  cases hoperand : l.isOperand with
  | false =>
    -- The left operand is read alone, and the sign of the comparison comes next.
    refine ((hl.closed hoperand).basic n _ ts hfollows hleft).imp fun x ts' hx => .inr ?_
    rcases hx with ⟨-, hts'⟩ | hstuck
    · obtain ⟨ts'', rfl, -⟩ := hsign hts'
      exact .inr ⟨op, rfl⟩
    · exact hstuck
  | true =>
    have hbare : TokensOf (l.text.toList ++ ' ' :: (op.symbol.toList ++ ' ' :: right)) ts := by
      simpa [Expr.precedence_of_isOperand hoperand, Text.parenthesize] using hleft
    have hl := hl.operand hoperand
    refine ensures_basic_of_operand (hl.opens _ ts hfollows.ends hbare) ?_
    refine Ensures.offset fun leftPosition => ?_
    refine (hl.reads n _ ts hfollows hbare).bind fun x ts' hx => Ensures.peek ?_
    rcases hx with ⟨hmeaning, hts'⟩ | ⟨⟨value, rfl⟩, hparen⟩
    · obtain ⟨ts'', rfl, hts''⟩ := hsign hts'
      refine Ensures.advance ((ensures_requireComparable x leftPosition).bind ?_)
      rintro _ _ rfl
      rw [← hright] at hts''
      exact ensures_right hmeaning he hrest hts''
    · rw [hparen]
      exact Ensures.offset fun position => (ensures_failAt _ _).bind fun _ _ hfalse => hfalse

/-! ## Arguments -/

/-- The tokens begin neither with a closing parenthesis nor with a literal that stands alone. -/
def OpensArgument (ts : List Token) : Prop :=
  ts.head? ≠ some .rightParen ∧
    ∀ token, ts.head? = some token → token.isLiteral →
      ts.tail.head? ∉ [some .comma, some .rightParen]

lemma opensArgument_of_sign {token : Token} {ts : List Token} (hhead : ts.head? = some token)
    (hliteral : token.isLiteral = false) (hparen : token ≠ .rightParen) : OpensArgument ts := by
  refine ⟨by simpa [hhead] using hparen, fun found hfound htoken => ?_⟩
  have heq : found = token := Option.some.inj (hfound.symm.trans hhead)
  rw [heq, hliteral] at htoken
  cases htoken

/-- A literal in front of something else than the end of an argument. -/
lemma opensArgument_of_second {token : Token} {ts : List Token} (htoken : token.isLiteral)
    (hsecond : ts.head? ∉ [some .comma, some .rightParen]) : OpensArgument (token :: ts) := by
  refine ⟨?_, fun _ _ _ => hsecond⟩
  rintro ⟨⟩
  simp [Token.isLiteral] at htoken

/-- A binary operator has its sign behind its left operand, which may be a literal. -/
lemma opensArgument_operator {l : Expr} {needed : Bool} {sign : Token}
    {written rest : List Char} {ts : List Token}
    (ih : ∀ rest ts, EndsToken rest →
      (∀ value, l = .literal value →
        ∀ ts', TokensOf rest ts' → ts'.head? ∉ [some .comma, some .rightParen]) →
      TokensOf (l.text.toList ++ rest) ts → OpensArgument ts)
    (hscans : (Piece.lexeme sign written).Scans rest) (hsign : sign ∉ [Token.comma, .rightParen])
    (hts : TokensOf ((Text.parenthesize needed l.text).toList ++ ' ' :: (written ++ rest)) ts) :
    OpensArgument ts := by
  cases needed with
  | true =>
    obtain ⟨ts', rfl, -⟩ := hts.parenthesize
    exact opensArgument_of_sign rfl rfl (by simp)
  | false =>
    refine ih _ ts (endsToken_of_mem (by decide) _) (fun _ _ ts' hts' => ?_) hts
    obtain ⟨ts'', rfl, -⟩ := hts'.blank.lexeme hscans
    simpa using hsign

/-- No expression but a literal begins with a literal that stands alone. -/
lemma opensArgument_text (e : Expr) (hwords : ∀ f ∈ e.functions, Token.isWord f)
    (rest : List Char) (ts : List Token) (hrest : EndsToken rest)
    (hliteral : ∀ value, e = .literal value →
      ∀ ts', TokensOf rest ts' → ts'.head? ∉ [some .comma, some .rightParen])
    (hts : TokensOf (e.text.toList ++ rest) ts) : OpensArgument ts := by
  cases e with
  | literal value =>
    rcases hts.literal hrest with hhead | ⟨-, token, ts', rfl, hts', -, htoken⟩
    · exact opensArgument_of_sign hhead rfl (by simp)
    · exact opensArgument_of_second htoken (hliteral value rfl ts' hts')
  | query anchor segments =>
    obtain ⟨ts', rfl, -⟩ := hts.anchor
    cases anchor <;> exact opensArgument_of_sign rfl rfl (by simp [Anchor.token])
  | not e =>
    have hinner : ∀ f ∈ e.functions, Token.isWord f := hwords
    obtain ⟨ts', rfl, -⟩ := hts.not hinner
    exact opensArgument_of_sign rfl rfl (by simp)
  | and l e =>
    rw [Expr.functions, List.forall_mem_append] at hwords
    have hsign : (Token.and, ['&', '&']) ∈ Piece.closedSigns := by decide
    rw [Expr.toList_and, List.append_assoc, List.cons_append, List.append_assoc] at hts
    exact opensArgument_operator (opensArgument_text l hwords.1) (Piece.scans_closed hsign _)
      (by simp) hts
  | or l e =>
    rw [Expr.functions, List.forall_mem_append] at hwords
    have hsign : (Token.or, ['|', '|']) ∈ Piece.closedSigns := by decide
    rw [Expr.toList_or, List.append_assoc, List.cons_append, List.append_assoc] at hts
    exact opensArgument_operator (opensArgument_text l hwords.1) (Piece.scans_closed hsign _)
      (by simp) hts
  | compare op l e =>
    rw [Expr.functions, List.forall_mem_append] at hwords
    rw [Expr.toList_compare, List.append_assoc, List.cons_append, List.append_assoc,
      List.cons_append] at hts
    exact opensArgument_operator (opensArgument_text l hwords.1)
      (Piece.scans_comparison op _) (by simp) hts
  | call function arguments =>
    obtain ⟨ts', rfl, -⟩ := hts.call (hwords function (by simp [Expr.functions]))
    rcases ofWord_cases function with htoken | htoken
    · exact opensArgument_of_sign (by rw [htoken]; rfl) rfl (by simp)
    · exact opensArgument_of_second htoken (by simp)

/-- An argument is read as an expression if it is not a literal that stands alone. -/
lemma OpensArgument.ensures {ts : List Token} (h : OpensArgument ts) {deeper : Parser Expr}
    {Q : Expr → List Token → Prop} (hdeeper : Ensures deeper ts Q) :
    Ensures (argument deeper) ts Q := by
  refine Ensures.peek ?_
  split
  · rename_i token hhead
    refine Ensures.peekSecond ?_
    have hsecond := h.2 token hhead
    simp only [List.mem_cons, List.not_mem_nil, or_false, not_or] at hsecond
    rw [if_neg]
    · exact hdeeper
    · simpa using hsecond
  · exact hdeeper

lemma RereadsTest.rereadsArgument (h : RereadsTest r limit e)
    (hwords : ∀ f ∈ e.functions, Token.isWord f) (hliteral : ∀ value, e ≠ .literal value) :
    RereadsArgument r limit e := by
  intro n rest ts hrest hts
  have hopens : OpensArgument ts := opensArgument_text e hwords rest ts hrest.ends
    (fun value hvalue => absurd hvalue (hliteral value)) hts
  exact ⟨hopens.1, hopens.ensures (h.expression n rest ts (hrest.follows rfl) hts)⟩

/-- A literal among the arguments stands alone, or is none that the parser reads. -/
lemma rereadsArgument_literal {value : Json} (hnumber : ∀ n, value = .number n → n.ReadsBack) :
    RereadsArgument r limit (.literal value) := by
  intro n rest ts hrest hts
  rcases hts.literal hrest.ends with hhead | ⟨hscalar, token, ts', rfl, hts', hpiece, htoken⟩
  · have hopens : OpensArgument ts := opensArgument_of_sign hhead rfl (by simp)
    have hoperand : RereadsOperand r limit (.literal value) := rereadsOperand_literal hnumber
    have hread := hoperand.rereadsTest.expression
    exact ⟨hopens.1, hopens.ensures (hread n rest ts (hrest.follows rfl) hts)⟩
  · refine ⟨by rintro ⟨⟩; simp [Token.isLiteral] at htoken, Ensures.peek (Ensures.peekSecond ?_)⟩
    have hend := hrest.head ts' hts'
    rw [if_pos (by
      rw [Bool.and_eq_true, Bool.or_eq_true]
      exact ⟨htoken, hend.imp decide_eq_true decide_eq_true⟩)]
    refine (ensures_literal hscalar hpiece hnumber).bind ?_
    rintro _ _ ⟨rfl, rfl⟩
    exact .pure (.inl ⟨fun _ _ => rfl, hts'⟩)

end Parser

end JsonPath
