import JsonPath.Proofs.Parser.Outcomes
import JsonPath.Proofs.Rereading.Meaning
import JsonPath.Proofs.Rereading.Streams

/-!
# Reading canonical segments again

The text of a segment need not be one that the parser accepts, and where it does, the segment that
it reads need not be the one that was written: the members of a union in a union are written side by
side, and a union of one member like that member alone.  `Parser.RereadsSelectors` says that the
selectors that are read together select what the written segment selects.

It is stated for a list of which some selectors have been read already, and for whatever is read
behind them, since a union in a union neither begins nor ends the list.

A filter may be read only in part, in front of a sign that neither a list nor a bracket goes on
with (`Parser.Stuck`).  The bracket around it then fails.
-/

namespace JsonPath.Parser

variable {r : Registry} {limit : Nat} {rest : List Char} {ts : List Token}

/-! ## Readings that cannot go on -/

/-- No list, no chain and no bracket goes on with these tokens. -/
def Stuck (ts : List Token) : Prop :=
  ts.head? = some .leftParen ∨ ∃ op, ts.head? = some (.comparison op)

lemma Stuck.head_ne (h : Stuck ts) {token : Token} (hparen : token ≠ .leftParen)
    (hcomparison : ∀ op, token ≠ .comparison op) : ts.head? ≠ some token := by
  intro hhead
  rcases h with h | ⟨op, h⟩
  · exact hparen (Option.some.inj (hhead.symm.trans h))
  · exact hcomparison op (Option.some.inj (hhead.symm.trans h))

lemma Stuck.ensures_expect {α : Type} (h : Stuck ts) {token : Token} (hparen : token ≠ .leftParen)
    (hcomparison : ∀ op, token ≠ .comparison op) {what : Expectation} {f : Unit → Parser α}
    {Q : α → List Token → Prop} : Ensures (expect token what >>= f) ts Q := by
  refine Ensures.expect fun rest hts => ?_
  exact absurd (by rw [hts]; rfl) (h.head_ne hparen hcomparison)

lemma Stuck.ensures_collected {α : Type} (h : Stuck ts) {token : Token}
    (hparen : token ≠ .leftParen) (hcomparison : ∀ op, token ≠ .comparison op) {item : Parser α}
    (hitem : Keeps Shrinks item) {items : List α} {Q : List α → List Token → Prop}
    (hQ : Q items ts) : Ensures (collected token item items) ts Q := by
  refine Parser.ensures_collected hitem (fun rest hts => ?_) fun _ => hQ
  exact absurd (by rw [hts]; rfl) (h.head_ne hparen hcomparison)

/-! ## What is said of the parts -/

/-- The expression that is read has the meaning of `e`, in front of the text `rest`; or the reading
is stuck. -/
def Outcome (r : Registry) (e : Expr) (rest : List Char) (x : Expr) (ts : List Token) : Prop :=
  r.EvaluatesAs x e ∧ TokensOf rest ts ∨ Stuck ts

/-- The reader makes of the text `written` an expression with the meaning of `e`, where nothing
follows that binds as tightly as `bound`. -/
def RereadsAs (r : Registry) (bound : Nat) (p : Parser Expr) (written : List Char) (e : Expr) :
    Prop :=
  ∀ rest ts, Follows bound rest → TokensOf (written ++ rest) ts → Ensures p ts (Outcome r e rest)

lemma RereadsAs.mono {low bound : Nat} {p : Parser Expr} {written : List Char} {e : Expr}
    (h : RereadsAs r bound p written e) (hle : low ≤ bound) : RereadsAs r low p written e :=
  fun rest ts hrest => h rest ts (hrest.mono hle)

/-- What the reader of expressions makes of the text of `e`, at every level. -/
def RereadsExpression (r : Registry) (limit : Nat) (e : Expr) : Prop :=
  ∀ n, RereadsAs r 1 (expression limit (expressionWithin limit n)) e.text.toList e

/-- A reader of filters at some level, with a finishing step that passes over no token. -/
def IsFilterReader (limit : Nat) (p : Parser Segment) : Prop :=
  ∃ n finish, (∀ position e, Keeps SameTokens (finish position e)) ∧
    p = filter limit (expressionWithin limit n) finish

lemma IsFilterReader.keeps {p : Parser Segment} (h : IsFilterReader limit p) :
    Keeps Shrinks p := by
  obtain ⟨n, finish, hfinish, rfl⟩ := h
  exact keeps_filter isKept_shrinks limit (keeps_expressionWithin isKept_shrinks limit n)
    fun position e _ => (hfinish position e).shrinks_of_same

/-- What the reader of a list of selectors makes of the text of `s`, where it has read the selectors
`before`: it goes on with selectors that together have the meaning of `s`, in front of the text
`rest`, or it is stuck. -/
def RereadsSelectors (r : Registry) (limit : Nat) (s : Segment) : Prop :=
  ∀ filter before rest ts (Q : List Segment → List Token → Prop), IsFilterReader limit filter →
    ItemEnds .rightBracket rest → TokensOf (s.selectorText.toList ++ rest) ts →
    (∀ xs ts', r.SelectsAllAs xs s → TokensOf rest ts' →
      Ensures (collected .comma (selector filter) (before ++ xs)) ts' Q) →
    (∀ xs ts', Stuck ts' → Q xs ts') →
    Ensures (selector filter >>= fun x => collected .comma (selector filter) (before ++ [x])) ts Q

/-- What the reader of segments makes of the text of `s`. -/
def RereadsSegment (r : Registry) (limit : Nat) (s : Segment) : Prop :=
  ∀ filter rest ts, IsFilterReader limit filter →
    TokensOf ((Segment.texts [s]).toList ++ rest) ts →
    Ensures (segment? filter) ts fun x? ts' =>
      ∃ x, x? = some x ∧ r.SelectsAs x s ∧ TokensOf rest ts'

/-! ## Single selectors -/

/-- A segment that is one selector goes on the list as one. -/
lemma RereadsSelectors.of_selector {s : Segment}
    (h : ∀ filter rest ts, IsFilterReader limit filter → ItemEnds .rightBracket rest →
      TokensOf (s.selectorText.toList ++ rest) ts →
      Ensures (selector filter) ts fun x ts' => r.SelectsAs x s ∧ TokensOf rest ts' ∨ Stuck ts') :
    RereadsSelectors r limit s := by
  intro filter before rest ts Q hfilter hrest hts hgo hstuck
  refine (h filter rest ts hfilter hrest hts).bind fun x ts' hx => ?_
  rcases hx with ⟨hmeaning, hts'⟩ | hstops
  · exact hgo [x] ts' hmeaning.selectsAllAs hts'
  · exact hstops.ensures_collected (by simp) (by simp)
      (keeps_selector isKept_shrinks hfilter.keeps) (hstuck _ ts' hstops)

lemma rereadsSelectors_key (name : String) : RereadsSelectors r limit (.key name) := by
  refine .of_selector fun filter rest ts _ _ hts => ?_
  obtain ⟨ts', rfl, hts'⟩ := hts.lexeme (Piece.scans_name name rest)
  exact Ensures.peek (Ensures.advance (.pure (.inl ⟨fun _ _ => rfl, hts'⟩)))

lemma rereadsSelectors_wildcard : RereadsSelectors r limit .wildcard := by
  refine .of_selector fun filter rest ts _ _ hts => ?_
  have hstar : TokensOf ('*' :: rest) ts := by simpa [Segment.selectorText] using hts
  obtain ⟨ts', rfl, hts'⟩ := hstar.sign .star (by decide)
  exact Ensures.peek (Ensures.advance (.pure (.inl ⟨fun _ _ => rfl, hts'⟩)))

/-- An integer that is read from the text of an integer is that integer. -/
lemma eq_of_integer?_ofInt {i j : Int64} (h : integer? (Text.ofInt i.toInt) = some j) :
    j = i := by
  cases hi : inLimit i with
  | true =>
    rw [integer?_ofInt hi] at h
    exact (Option.some.inj h).symm
  | false =>
    have hlimit : ¬(i.toInt.natAbs : Int) ≤ integerLimit := by
      simp only [inLimit, Bool.and_eq_false_iff, decide_eq_false_iff_not] at hi
      omega
    unfold integer? at h
    rw [scanSign_ofInt] at h
    simp only [Nat.ofDigitChars_ten_toDigits, if_neg hlimit] at h
    split at h
    · cases h
    · split at h <;> cases h

lemma ensures_optionalInteger {i : Int64} (hrest : EndsToken rest)
    (hts : TokensOf ((Text.ofInt i.toInt).toList ++ rest) ts) :
    Ensures optionalInteger ts fun j ts' => j = some i ∧ TokensOf rest ts' := by
  obtain ⟨ts', rfl, hts'⟩ := hts.lexeme (Piece.scans_number (isNumeral_ofInt i.toInt) hrest)
  refine Ensures.peek ?_
  dsimp only [List.head?_cons]
  split
  · rename_i j hj
    rw [eq_of_integer?_ofInt hj]
    exact Ensures.advance (.pure ⟨rfl, hts'⟩)
  · exact ensures_failHere _

/-- A part of a slice that may be missing, in front of something else than a number. -/
lemma ensures_bound {bound : Option Int64} (hrest : EndsToken rest)
    (hnumber : ∀ ts', TokensOf rest ts' → ∀ lexeme, ts'.head? ≠ some (.number lexeme))
    (hts : TokensOf ((Text.ofBound bound).toList ++ rest) ts) :
    Ensures optionalInteger ts fun j ts' => j = bound ∧ TokensOf rest ts' := by
  cases bound with
  | some i => exact ensures_optionalInteger hrest hts
  | none =>
    have hts : TokensOf rest ts := hts
    refine Ensures.peek ?_
    split
    · rename_i lexeme hhead
      exact absurd hhead (hnumber ts hts lexeme)
    · exact .pure ⟨rfl, hts⟩

lemma ensures_index {i : Int64} (hrest : ItemEnds .rightBracket rest)
    (hts : TokensOf ((Text.ofInt i.toInt).toList ++ rest) ts) :
    Ensures indexOrSlice ts fun x ts' => x = .index i ∧ TokensOf rest ts' := by
  refine (ensures_optionalInteger hrest.ends hts).bind ?_
  rintro _ ts' ⟨rfl, hts'⟩
  refine Ensures.eat (fun rest' hcolon => ?_) fun _ => .pure ⟨rfl, hts'⟩
  rcases hrest.head ts' hts' with hhead | hhead <;> simp [hcolon] at hhead

lemma head?_of_colon (hts : TokensOf (':' :: rest) ts) : ts.head? = some .colon := by
  obtain ⟨ts', rfl, -⟩ := hts.sign .colon (by decide)
  rfl

/-- What follows the second part of a slice: the second colon, or the end of the selector. -/
lemma ensures_step {step : Option Int64} (hrest : ItemEnds .rightBracket rest)
    (hts : TokensOf ((Piece.allChars (Piece.step step)) ++ rest) ts) {start stop : Option Int64} :
    Ensures (do
        let step ← if ← eat .colon then optionalInteger else pure none
        return Segment.slice start stop step) ts
      fun x ts' => x = .slice start stop step ∧ TokensOf rest ts' := by
  cases step with
  | none =>
    have hts : TokensOf rest ts := hts
    refine Ensures.eat (fun rest' hcolon => ?_) fun _ => .pure ⟨rfl, hts⟩
    rcases hrest.head ts hts with hhead | hhead <;> simp [hcolon] at hhead
  | some i =>
    have hts : TokensOf (':' :: ((Text.ofInt i.toInt).toList ++ rest)) ts := by
      simpa [Piece.step] using hts
    refine Ensures.eat (fun rest' hcolon => ?_) fun hne => absurd (head?_of_colon hts) hne
    subst hcolon
    obtain ⟨ts', heq, hts'⟩ := hts.sign .colon (by decide)
    cases heq
    refine (ensures_optionalInteger hrest.ends hts').bind ?_
    rintro _ ts'' ⟨rfl, hts''⟩
    exact .pure ⟨rfl, hts''⟩

lemma toList_ofSlice (start stop step : Option Int64) (rest : List Char) :
    (Text.ofSlice start stop step).toList ++ rest =
      (Text.ofBound start).toList ++ ':' ::
        ((Text.ofBound stop).toList ++ (Piece.allChars (Piece.step step) ++ rest)) := by
  cases step <;> simp [Text.ofSlice, Piece.step]

lemma ensures_slice {start stop step : Option Int64} (hrest : ItemEnds .rightBracket rest)
    (hts : TokensOf ((Text.ofSlice start stop step).toList ++ rest) ts) :
    Ensures indexOrSlice ts fun x ts' => x = .slice start stop step ∧ TokensOf rest ts' := by
  have hstep : EndsToken (Piece.allChars (Piece.step step) ++ rest) ∧
      ∀ ts', TokensOf (Piece.allChars (Piece.step step) ++ rest) ts' →
        ∀ lexeme, ts'.head? ≠ some (.number lexeme) := by
    cases step with
    | none =>
      refine ⟨hrest.ends, fun ts' hts' lexeme => ?_⟩
      rcases hrest.head ts' hts' with hhead | hhead <;> simp [hhead]
    | some i =>
      refine ⟨endsToken_of_mem (by decide) _, fun ts' hts' lexeme => ?_⟩
      simp [head?_of_colon hts']
  rw [toList_ofSlice] at hts
  refine (ensures_bound (endsToken_of_mem (by decide) _) (fun ts' hts' lexeme => ?_) hts).bind ?_
  · simp [head?_of_colon hts']
  · rintro _ ts' ⟨rfl, hts'⟩
    refine Ensures.eat (fun rest' hcolon => ?_) fun hne => absurd (head?_of_colon hts') hne
    subst hcolon
    obtain ⟨ts'', heq, hts''⟩ := hts'.sign .colon (by decide)
    cases heq
    refine (ensures_bound hstep.1 hstep.2 hts'').bind ?_
    rintro _ ts₃ ⟨rfl, hlast⟩
    exact ensures_step hrest hlast

/-- The text of an index or a slice begins with a number or a colon. -/
lemma ensures_selector_of_indexOrSlice {filter : Parser Segment}
    {Q : Segment → List Token → Prop}
    (hhead : (∃ lexeme, ts.head? = some (.number lexeme)) ∨ ts.head? = some .colon)
    (h : Ensures indexOrSlice ts Q) : Ensures (selector filter) ts Q := by
  refine Ensures.peek ?_
  rcases hhead with ⟨lexeme, hhead⟩ | hhead <;> rw [hhead] <;> exact h

lemma rereadsSelectors_index (i : Int64) : RereadsSelectors r limit (.index i) := by
  refine .of_selector fun filter rest ts _ hrest hts => ?_
  obtain ⟨ts', rfl, -⟩ := hts.lexeme (Piece.scans_number (isNumeral_ofInt i.toInt) hrest.ends)
  refine ensures_selector_of_indexOrSlice (.inl ⟨_, rfl⟩) ((ensures_index hrest hts).imp ?_)
  rintro _ ts'' ⟨rfl, hts''⟩
  exact .inl ⟨fun _ _ => rfl, hts''⟩

lemma rereadsSelectors_slice (start stop step : Option Int64) :
    RereadsSelectors r limit (.slice start stop step) := by
  refine .of_selector fun filter rest ts _ hrest hts => ?_
  have hhead : (∃ lexeme, ts.head? = some (.number lexeme)) ∨ ts.head? = some .colon := by
    rw [Segment.selectorText, toList_ofSlice] at hts
    cases start with
    | none => exact .inr (head?_of_colon hts)
    | some i =>
      have hcolon : ∀ s, EndsToken (':' :: s) := endsToken_of_mem (by decide)
      obtain ⟨ts', rfl, -⟩ := hts.lexeme (Piece.scans_number (isNumeral_ofInt i.toInt) (hcolon _))
      exact .inl ⟨_, rfl⟩
  refine ensures_selector_of_indexOrSlice hhead ((ensures_slice hrest hts).imp ?_)
  rintro _ ts' ⟨rfl, hts'⟩
  exact .inl ⟨fun _ _ => rfl, hts'⟩

/-! ## Filters and unions -/

/-- A reader goes one level deeper where there is one. -/
lemma ensures_enter_bind {α : Type} {n position : Nat} {f : Parser Expr → Parser α}
    {Q : α → List Token → Prop}
    (h : ∀ m, n = m + 1 → Ensures (f (expression limit (expressionWithin limit m))) ts Q) :
    Ensures (enter limit (expressionWithin limit n) position >>= f) ts Q := by
  cases n with
  | zero => exact ensures_throw _
  | succ m => exact h m rfl

lemma rereadsSelectors_filter {test : Expr} (h : RereadsExpression r limit test) :
    RereadsSelectors r limit (.filter test) := by
  refine .of_selector fun filter rest ts hfilter hrest hts => ?_
  obtain ⟨n, finish, hfinish, rfl⟩ := hfilter
  have hquestion : TokensOf ('?' :: (test.text.toList ++ rest)) ts := by
    simpa [Segment.selectorText] using hts
  obtain ⟨ts', rfl, hts'⟩ := hquestion.sign .question (by decide)
  refine Ensures.peek (Ensures.offset fun position => Ensures.advance ?_)
  refine ensures_enter_bind fun m _ => ?_
  refine (h m rest ts' (hrest.follows rfl) hts').bind fun x ts'' hx => ?_
  refine (hfinish position x).ensures_same.bind ?_
  rintro _ _ rfl
  exact .pure (hx.imp_left fun hread => ⟨hread.1.filter, hread.2⟩)

/-- A descendant segment is no selector. -/
lemma rereadsSelectors_descendant (s : Segment) : RereadsSelectors r limit (.descendant s) := by
  refine .of_selector fun filter rest ts _ _ hts => ?_
  have hdots : TokensOf (['.', '.'] ++ (s.selectorText.toList ++ rest)) ts := by
    simpa [Segment.selectorText] using hts
  obtain ⟨ts', rfl, -⟩ := hdots.closed .doubleDot (by decide)
  exact Ensures.peek (ensures_failHere _)

/-- The selectors of a union go on the list one after the other.  A union without selectors leaves
a gap that the parser refuses. -/
lemma rereadsSelectors_union (ss : List Segment) (h : ∀ s ∈ ss, RereadsSelectors r limit s) :
    RereadsSelectors r limit (.union ss) := by
  induction ss with
  | nil =>
    refine .of_selector fun filter rest ts _ hrest hts => Ensures.peek ?_
    rcases hrest.head ts hts with hhead | hhead <;> rw [hhead] <;> exact ensures_failHere _
  | cons s rest ih =>
    intro filter before text ts Q hfilter htext hts hgo hstuck
    cases rest with
    | nil =>
      exact h s (by simp) filter before text ts Q hfilter htext hts
        (fun xs ts' hxs => hgo xs ts' (Registry.selectsAllAs_single hxs)) hstuck
    | cons t rest =>
      have hs : TokensOf (s.selectorText.toList ++ ',' :: ' ' ::
          ((Segment.union (t :: rest)).selectorText.toList ++ text)) ts := by
        simpa [Segment.selectorText, Segment.selectorTexts] using hts
      refine h s (by simp) filter before _ ts Q hfilter (itemEnds_comma _ _) hs ?_ hstuck
      intro xs ts' hxs hts'
      obtain ⟨ts'', rfl, hts''⟩ := hts'.sign .comma (by decide)
      refine ensures_collected (keeps_selector isKept_shrinks hfilter.keeps) ?_ (by simp)
      rintro _ ⟨⟩
      refine ih (fun u hu => h u (List.mem_cons_of_mem s hu)) filter (before ++ xs) text ts'' Q
        hfilter htext hts''.blank (fun ys ts' hys hts' => ?_) hstuck
      rw [List.append_assoc]
      exact hgo (xs ++ ys) ts' (hxs.append hys) hts'

/-! ## Brackets and segments -/

lemma ensures_bracketed {filter : Parser Segment} {s : Segment}
    (h : RereadsSelectors r limit s) (hfilter : IsFilterReader limit filter)
    (hts : TokensOf ('[' :: (s.selectorText.toList ++ ']' :: rest)) ts) :
    Ensures (bracketed filter) ts fun x ts' => r.SelectsAs x s ∧ TokensOf rest ts' := by
  obtain ⟨ts', rfl, hts'⟩ := hts.sign .leftBracket (by decide)
  have hkeeps := keeps_selector isKept_shrinks hfilter.keeps
  have hlist : Ensures (separated .comma (selector filter)) ts' fun xs ts'' =>
      r.SelectsAllAs (xs.1 :: xs.2) s ∧ TokensOf (']' :: rest) ts'' ∨ Stuck ts'' := by
    refine ensures_separated (Q := fun xs ts'' =>
      r.SelectsAllAs xs s ∧ TokensOf (']' :: rest) ts'' ∨ Stuck ts'') ?_
    refine h filter [] (']' :: rest) ts' _ hfilter (itemEnds_bracket _) hts' ?_ fun _ _ => .inr
    intro xs ts'' hxs hts''
    obtain ⟨ts₃, rfl, -⟩ := hts''.sign .rightBracket (by decide)
    exact ensures_collected hkeeps (by simp) fun _ => .inl ⟨hxs, hts''⟩
  refine Ensures.advance (hlist.bind ?_)
  rintro ⟨first, others⟩ ts'' (⟨hmeaning, hts''⟩ | hstuck)
  · obtain ⟨ts₃, rfl, hrest⟩ := hts''.sign .rightBracket (by decide)
    refine Ensures.expect ?_
    rintro _ ⟨⟩
    cases others with
    | nil => exact .pure ⟨hmeaning.selectsAs, hrest⟩
    | cons second others => exact .pure ⟨hmeaning, hrest⟩
  · exact hstuck.ensures_expect (by simp) (by simp)

/-- A segment that is not a descendant segment is one pair of brackets. -/
lemma RereadsSelectors.rereadsSegment {s : Segment} (h : RereadsSelectors r limit s)
    (hs : s.isDescendant = false) : RereadsSegment r limit s := by
  intro filter rest ts hfilter hts
  have hbracket : TokensOf ('[' :: (s.selectorText.toList ++ ']' :: rest)) ts := by
    rw [Segment.texts_cons hs] at hts
    simpa [Segment.texts] using hts
  obtain ⟨ts', rfl, -⟩ := hbracket.sign .leftBracket (by decide)
  refine Ensures.peek (.map ((ensures_bracketed h hfilter hbracket).imp fun x ts'' hx => ?_))
  exact ⟨x, rfl, hx⟩

lemma RereadsSelectors.rereadsSegment_descendant {s : Segment}
    (h : RereadsSelectors r limit s) : RereadsSegment r limit (.descendant s) := by
  intro filter rest ts hfilter hts
  have hdots : TokensOf (['.', '.'] ++ '[' :: (s.selectorText.toList ++ ']' :: rest)) ts := by
    simpa [Segment.texts] using hts
  obtain ⟨ts', rfl, hbracket⟩ := hdots.closed .doubleDot (by decide)
  refine Ensures.peek (Ensures.advance (Ensures.peek (Ensures.isAdjacent fun adjacent => ?_)))
  split
  · refine (ensures_bracketed h hfilter hbracket).bind fun x ts'' hx => .pure ?_
    exact ⟨.descendant x, rfl, hx.1.descendant, hx.2⟩
  · -- A bracket that does not stand directly behind the dots is no member name either.
    obtain ⟨ts'', rfl, -⟩ := hbracket.sign .leftBracket (by decide)
    have hfails : Ensures (shorthand .memberAfterDoubleDot) (.leftBracket :: ts'')
        fun _ _ => False := by
      refine Ensures.isAdjacent fun adjacent => ?_
      split
      · exact ensures_failAtStop _
      · exact Ensures.peek (ensures_failHere _)
    exact hfails.bind fun _ _ hfalse => hfalse.elim

lemma ensures_shorter {α : Type} {p : Parser α} (hp : Keeps Shrinks p) {token : Token}
    (hhead : ts.head? = some token) :
    Ensures p ts.tail fun _ ts' => ts'.length < ts.length := by
  obtain ⟨ts', rfl⟩ := List.head?_eq_some_iff.1 hhead
  exact hp.ensures_length.imp fun _ _ => Nat.lt_succ_of_le

/-- Every segment has a token. -/
lemma isStep_segment? {filter : Parser Segment} (hfilter : Keeps Shrinks filter) :
    IsStep (segment? filter) := by
  have hbracketed : ∀ {ts : List Token}, ts.head? = some .leftBracket →
      Ensures (bracketed filter) ts fun _ ts' => ts'.length < ts.length := by
    intro ts hhead
    refine Ensures.advance (ensures_shorter ?_ hhead)
    refine isKept_shrinks.bind (keeps_separated isKept_shrinks .comma
      (keeps_selector isKept_shrinks hfilter)) fun selectors => ?_
    refine isKept_shrinks.bind (keeps_expect isKept_shrinks _ _) fun _ => ?_
    split <;> exact isKept_shrinks.pure _
  refine .of_ensures (fun ts => Ensures.peek ?_) ?_
  · split
    · rename_i hhead
      have hname := isKept_shrinks.map some (keeps_shorthand isKept_shrinks .memberAfterDot)
      exact Ensures.advance ((ensures_shorter hname hhead).imp fun _ _ hlt _ => hlt)
    · rename_i hhead
      refine Ensures.advance ((ensures_shorter ?_ hhead).imp fun _ _ hlt _ => hlt)
      refine isKept_shrinks.bind (keeps_peek isKept_shrinks) fun bracket => ?_
      refine isKept_shrinks.bind (keeps_isAdjacent isKept_shrinks) fun adjacent => ?_
      split
      · exact isKept_shrinks.bind (keeps_bracketed isKept_shrinks hfilter)
          fun _ => isKept_shrinks.pure _
      · exact isKept_shrinks.bind (keeps_shorthand isKept_shrinks _)
          fun _ => isKept_shrinks.pure _
    · rename_i hhead
      exact .map ((hbracketed hhead).imp fun _ _ hlt _ => hlt)
    · exact .pure fun h => by simp at h
  · rintro ⟨tokens, stop, textEnd, diagnostics⟩ rfl
    rfl

lemma toList_texts_cons (s : Segment) (ss : List Segment) (rest : List Char) :
    (Segment.texts (s :: ss)).toList ++ rest =
      (Segment.texts [s]).toList ++ ((Segment.texts ss).toList ++ rest) := by
  cases s <;> simp [Segment.texts]

/-- The segments of a query are read one after the other, up to something that is no segment. -/
theorem ensures_segments {filter : Parser Segment} (hfilter : IsFilterReader limit filter)
    (hrest : Follows 4 rest) (ss : List Segment) (h : ∀ s ∈ ss, RereadsSegment r limit s)
    (hts : TokensOf ((Segment.texts ss).toList ++ rest) ts) :
    Ensures (segments filter) ts fun xs ts' => r.RunsAs xs ss ∧ TokensOf rest ts' := by
  induction ss generalizing ts with
  | nil =>
    have hts : TokensOf rest ts := hts
    rw [segments, (isStep_segment? hfilter.keeps).many_eq]
    have hnone : Ensures (segment? filter) ts fun x? ts' => x? = none ∧ ts' = ts := by
      refine Ensures.peek ?_
      split
      · rename_i hhead
        exact absurd hhead (hrest.head hts (Nat.le_refl _))
      · rename_i hhead
        exact absurd hhead (hrest.head hts (Nat.le_refl _))
      · rename_i hhead
        exact absurd hhead (hrest.head hts (Nat.le_refl _))
      · exact .pure ⟨rfl, rfl⟩
    refine hnone.bind ?_
    rintro _ _ ⟨rfl, rfl⟩
    exact .pure ⟨fun _ _ => rfl, hts⟩
  | cons s ss ih =>
    rw [toList_texts_cons] at hts
    rw [segments, (isStep_segment? hfilter.keeps).many_eq]
    refine (h s (by simp) filter _ ts hfilter hts).bind ?_
    rintro _ ts' ⟨x, rfl, hx, hts'⟩
    refine (ih (fun t ht => h t (List.mem_cons_of_mem s ht)) hts').bind fun xs ts'' hxs => ?_
    exact .pure ⟨hx.runsAs_cons hxs.1, hxs.2⟩

end JsonPath.Parser
