import JsonPath.Proofs.Spacing.Adjacency

/-!
# Which places of tokens a query allows

Every reader of the grammar reads the same when its tokens stand in other places, as long as those
that have to be adjacent are (`Parser.Respaces`).  The readers are gone through one by one, and
those of expressions by induction on the levels that are left (`respaces_expressionWithin`).

For whole queries this says which places are allowed.  The tokens of a query that is read fill the
text (`FillsText`, `fillsText_of_query`): no blank stands before the first of them or behind the
last one, and they are adjacent wherever they have to be.  And any other tokens that fill their
text, and differ in their places only, are read as the same query (`query_respaced`).
-/

namespace JsonPath.Parser

variable {α β : Type} {lead : Lead} {state : ParserState}

/-! ## Segments -/

lemma respaces_optionalInteger (state : ParserState) :
    Respaces .noParen optionalInteger optionalInteger state := by
  refine .peek ?_
  split
  · rename_i hnext
    split
    · exact .over hnext (fun _ => rfl) (.inr ⟨rfl, by simp⟩) fun _ _ => .any (.pure _)
    · exact respaces_failHere _ _
  · exact .pure _

lemma joins_of_memberName? {t : Token} {name : String} (ht : t.memberName? = some name) :
    t ≠ .leftParen ∧ ∀ u, u ≠ .leftParen → t.joins u = false := by
  cases t <;> simp_all [Token.memberName?, Token.joins]

/-- A member behind a dot. -/
lemma respaces_shorthand (what : Expectation) {t : Token} (ht : ∀ u, t.joins u = true)
    (state : ParserState) : Respaces (.behind t) (shorthand what) (shorthand what) state := by
  refine .adjacent (fun u _ => ht u) (fun _ x next hx => ?_) (fun hnone x next hx => ?_) ?_
  · cases hx
  · rw [if_neg (by simp), bind_of_ok (peek_eq state), hnone] at hx
    cases hx
  · refine .peek ?_
    split
    · rename_i hnext
      exact .over hnext (fun _ => rfl) (.inl rfl) fun _ _ => .any (.pure _)
    · rename_i token _ hnext
      split
      · rename_i name hname
        refine .advance hnext (.inl rfl) fun _ _ => ?_
        exact .behind_word (joins_of_memberName? hname).2 (.pure _)
      · exact respaces_failHere _ _
    · exact respaces_failHere _ _

/-- No member is read behind a blank. -/
lemma shorthand_of_far {what : Expectation} (h : isAdjacent state = .ok false state)
    (x : Segment) (next : ParserState) : shorthand what state ≠ .ok x next := by
  intro hx
  rw [shorthand, bind_of_ok h] at hx
  cases hx

lemma respaces_indexOrSlice (state : ParserState) :
    Respaces .noParen indexOrSlice indexOrSlice state := by
  have hcolon : ∀ u, Token.colon.joins u = false := fun _ => rfl
  refine (respaces_optionalInteger state).bind fun start next => ?_
  refine .eat hcolon (by simp) (.inr rfl) (fun next => ?_) fun _ => ?_
  · refine (Respaces.any (respaces_optionalInteger next)).bind fun stop next => ?_
    refine .eat hcolon (by simp) (.inr rfl) (fun next => ?_) fun _ => ?_
    · exact .any ((respaces_optionalInteger next).bind fun step next => .pure _)
    · exact .pure _
  · cases start with
    | some i => exact .pure _
    | none => exact respaces_failHere _ _

section Filter

variable {filter : Parser Segment}
  (hfilter : ∀ state, next? state = some .question → Respaces .noParen filter filter state)
include hfilter

lemma respaces_selector (state : ParserState) :
    Respaces .noParen (selector filter) (selector filter) state := by
  refine .peek ?_
  split
  · rename_i hnext
    exact .over hnext (fun _ => rfl) (.inr ⟨rfl, by simp⟩) fun _ _ => .any (.pure _)
  · rename_i hnext
    exact .over hnext (fun _ => rfl) (.inr ⟨rfl, by simp⟩) fun _ _ => .any (.pure _)
  · rename_i hnext
    exact hfilter state hnext
  · exact respaces_indexOrSlice state
  · exact respaces_indexOrSlice state
  · exact respaces_failHere _ _

lemma respaces_bracketed (hnext : next? state = some .leftBracket)
    (hlead : lead = .any ∨ lead = .noParen) :
    Respaces lead (bracketed filter) (bracketed filter) state := by
  refine .over hnext (fun _ => rfl) (hlead.imp_right fun h => ⟨h, by simp⟩) fun next _ => ?_
  have hitem := fun state => Respaces.any (respaces_selector hfilter state)
  refine (respaces_separated (fun _ => rfl) (by simp) hitem (hitem next)).bind fun read next => ?_
  refine .expect (fun _ => rfl) (by simp) fun next => ?_
  split
  · exact .any (.pure _)
  · exact .any (.pure _)

lemma respaces_segment? (state : ParserState) :
    Respaces .noParen (segment? filter) (segment? filter) state := by
  refine .peek ?_
  split
  · rename_i hnext
    refine .advance hnext (.inr ⟨rfl, by simp⟩) fun next _ => ?_
    exact (respaces_shorthand _ (fun _ => rfl) next).map some
  · rename_i hnext
    refine .advance hnext (.inr ⟨rfl, by simp⟩) fun next _ => ?_
    refine .peek ?_
    by_cases hbracket : next? next = some .leftBracket
    · refine .adjacent (fun _ _ => rfl) (fun hfar x last hx => ?_) (fun hnone => ?_) ?_
      · rw [if_neg (by simp)] at hx
        cases hmember : shorthand .memberAfterDoubleDot next with
        | error e last => 
          rw [bind_of_error hmember] at hx
          cases hx
        | ok x last => exact shorthand_of_far hfar x last hmember
      · rw [hbracket] at hnone
        cases hnone
      · rw [if_pos (by simp [hbracket])]
        exact (respaces_bracketed hfilter hbracket (.inl rfl)).bind fun x next => .pure _
    · refine .isAdjacent fun adjacent adjacent' => ?_
      rw [if_neg (by simp [hbracket]), if_neg (by simp [hbracket])]
      exact (respaces_shorthand _ (fun _ => rfl) next).bind fun x next => .pure _
  · rename_i hnext
    exact (respaces_bracketed hfilter hnext (.inr rfl)).map some
  · exact .pure _

lemma respaces_segments (state : ParserState) :
    Respaces .noParen (segments filter) (segments filter) state :=
  respaces_many (respaces_segment? hfilter) state

end Filter

/-! ## Expressions -/

lemma joins_of_isLiteral {t : Token} (ht : t.isLiteral = true) :
    t ≠ .leftParen ∧ ∀ u, t.joins u = false := by
  cases t <;> simp_all [Token.isLiteral, Token.joins]

lemma respaces_literal {t : Token} (hnext : next? state = some t) (ht : t.isLiteral = true) :
    Respaces .noParen literal literal state := by
  obtain ⟨hparen, hjoins⟩ := joins_of_isLiteral ht
  refine .offset fun position position' => ?_
  refine .peek ?_
  refine .over hnext hjoins (.inr ⟨rfl, hparen⟩) fun next _ => ?_
  rw [hnext]
  refine .any ?_
  split
  · exact .pure _
  · split
    · exact .pure _
    · exact respaces_failAt _ _ _
  · exact .pure _
  · exact .pure _
  · exact .pure _
  · exact respaces_failAt _ _ _

lemma respaces_requireComparable (e : Expr) (position position' : Nat) :
    Respaces .noParen (requireComparable e position) (requireComparable e position') state := by
  unfold requireComparable
  split
  · split
    · exact .pure _
    · exact respaces_failAt _ _ _
  · exact .pure _

lemma respaces_requireTest (e : Expr) (position position' : Nat) (what : Expectation) :
    Respaces .noParen (requireTest e position what) (requireTest e position' what) state := by
  unfold requireTest
  split
  · exact respaces_failAt _ _ _
  · exact .pure _

section Expressions

variable (limit : Nat) {deeper? : Option (Parser Expr)}
  (hdeeper : ∀ deeper ∈ deeper?, ∀ state, Respaces .any deeper deeper state)
include hdeeper

lemma respaces_enter_bind {f f' : Parser Expr → Parser β} (position position' : Nat)
    (hf : ∀ deeper, (∀ state, Respaces .any deeper deeper state) →
      Respaces lead (f deeper) (f' deeper) state) :
    Respaces lead (enter limit deeper? position >>= f) (enter limit deeper? position' >>= f')
      state := by
  cases deeper? with
  | none => exact respaces_of_fails fun _ _ hx => nomatch hx
  | some deeper => exact hf deeper (hdeeper deeper rfl)

lemma respaces_filter {finish : Nat → Expr → Parser Unit}
    (hfinish : ∀ position position' e state,
      Respaces .noParen (finish position e) (finish position' e) state)
    (hnext : next? state = some .question) :
    Respaces .noParen (filter limit deeper? finish) (filter limit deeper? finish) state := by
  refine .offset fun position position' => ?_
  refine .over hnext (fun _ => rfl) (.inr ⟨rfl, by simp⟩) fun next _ => ?_
  refine respaces_enter_bind limit hdeeper position position' fun deeper hdeeper => ?_
  refine (hdeeper next).bind fun test next => ?_
  exact (hfinish position position' test next).bind fun _ next => .pure _

lemma respaces_parenthesized (hnext : next? state = some .leftParen) :
    Respaces .any (parenthesized limit deeper?) (parenthesized limit deeper?) state := by
  refine .offset fun position position' => ?_
  refine .over hnext (fun _ => rfl) (.inl rfl) fun next _ => ?_
  refine respaces_enter_bind limit hdeeper position position' fun deeper hdeeper => ?_
  refine (hdeeper next).bind fun e next => ?_
  exact .expect (fun _ => rfl) (by simp) fun next => .any (.pure e)

lemma respaces_embedded (anchor : Anchor) {t : Token} (hnext : next? state = some t)
    (hparen : t ≠ .leftParen) (hjoins : ∀ u, t.joins u = false) :
    Respaces .noParen (embedded limit deeper? anchor) (embedded limit deeper? anchor) state := by
  refine .over hnext hjoins (.inr ⟨rfl, hparen⟩) fun next _ => .any ?_
  refine (respaces_segments (fun _ => ?_) next).bind fun segments next => .pure _
  exact respaces_filter limit hdeeper fun _ _ _ _ => .pure ()

omit hdeeper in
lemma respaces_argument {deeper : Parser Expr}
    (hdeeper : ∀ state, Respaces .any deeper deeper state) (state : ParserState) :
    Respaces .any (argument deeper) (argument deeper) state := by
  refine .peek ?_
  split
  · rename_i token hnext
    refine .peekSecond ?_
    split
    · rename_i hliteral
      simp only [Bool.and_eq_true] at hliteral
      exact .any ((respaces_literal hnext hliteral.1).bind fun value next => .pure _)
    · exact hdeeper state
  · exact hdeeper state

omit hdeeper in
lemma respaces_arguments {deeper : Parser Expr}
    (hdeeper : ∀ state, Respaces .any deeper deeper state) (state : ParserState) :
    Respaces .any (arguments deeper) (arguments deeper) state := by
  refine .peek ?_
  split
  · exact .any (.pure _)
  · have hitem := respaces_argument hdeeper
    exact (respaces_separated (fun _ => rfl) (by simp) hitem (hitem state)).bind
      fun read next => .pure _

/-- A call, of which the name and the parenthesis come next. -/
lemma respaces_call {name : String} (hnext : next? state = some (.name name))
    (hsecond : state.tokens.tail.head?.map Spanned.token = some .leftParen) :
    Respaces .noParen (call limit deeper? name) (call limit deeper? name) state := by
  unfold call
  split
  · exact respaces_failHere _ _
  · refine .advance hnext (.inr ⟨rfl, by simp⟩) fun next htokens => ?_
    have hparen : next? next = some .leftParen := by rw [next?, htokens, hsecond]
    refine .adjacent (fun u hu => ?_) (fun _ x last hx => ?_) (fun hnone => ?_) ?_
    · rw [hparen, Option.some.injEq] at hu
      rw [← hu]
      rfl
    · cases hx
    · rw [hparen] at hnone
      cases hnone
    · refine .offset fun position position' => ?_
      refine .over hparen (fun _ => rfl) (.inl rfl) fun next _ => ?_
      refine respaces_enter_bind limit hdeeper position position' fun deeper hdeeper => ?_
      refine (respaces_arguments hdeeper next).bind fun arguments next => ?_
      exact .expect (fun _ => rfl) (by simp) fun next => .any (.pure _)

lemma respaces_operand (state : ParserState) :
    Respaces .noParen (operand limit deeper?) (operand limit deeper?) state := by
  refine .peek ?_
  split
  · rename_i hnext
    exact respaces_embedded limit hdeeper .root hnext (by simp) fun _ => rfl
  · rename_i hnext
    exact respaces_embedded limit hdeeper .current hnext (by simp) fun _ => rfl
  · rename_i token _ _ hnext
    split
    · refine .peekSecond ?_
      split
      · rename_i hsecond
        exact respaces_call limit hdeeper hnext hsecond
      · exact respaces_failHere _ _
    · split
      · rename_i hliteral
        exact (respaces_literal hnext hliteral).bind fun value next => .pure _
      · exact respaces_failHere _ _
  · exact respaces_failHere _ _

lemma respaces_comparisonOrTest (state : ParserState) :
    Respaces .noParen (comparisonOrTest limit deeper?) (comparisonOrTest limit deeper?) state := by
  refine .offset fun position position' => ?_
  refine (respaces_operand limit hdeeper state).bind fun left next => ?_
  refine .peek ?_
  split
  · rename_i op hnext
    refine .over hnext (fun _ => rfl) (.inr ⟨rfl, by simp⟩) fun next _ => .any ?_
    refine (respaces_requireComparable left position position').bind fun _ next => ?_
    refine .offset fun position position' => ?_
    refine (respaces_operand limit hdeeper next).bind fun right next => ?_
    exact (respaces_requireComparable right position position').bind fun _ next => .pure _
  · refine .offset fun position position' => ?_
    exact (respaces_requireTest left position position' .comparison).bind fun _ next => .pure left

lemma respaces_basic (state : ParserState) :
    Respaces .any (basic limit deeper?) (basic limit deeper?) state := by
  refine .eat (fun _ => rfl) (by simp) (.inl rfl) (fun next => ?_) fun _ => ?_
  · refine .peek ?_
    split
    · rename_i hparen
      exact (respaces_parenthesized limit hdeeper hparen).bind fun e next => .pure _
    · refine .offset fun position position' => ?_
      refine .bind (.any (respaces_operand limit hdeeper next)) fun e next => ?_
      exact (respaces_requireTest e position position' .testAfterNot).bind fun _ next => .pure _
  · refine .peek ?_
    split
    · rename_i hparen
      exact respaces_parenthesized limit hdeeper hparen
    · exact .any (respaces_comparisonOrTest limit hdeeper state)

lemma respaces_expression (state : ParserState) :
    Respaces .any (expression limit deeper?) (expression limit deeper?) state :=
  respaces_chained (fun _ => rfl) (by simp) _
    (respaces_chained (fun _ => rfl) (by simp) _ (respaces_basic limit hdeeper)) state

end Expressions

/-- The readers of expressions at every level. -/
theorem respaces_expressionWithin (limit levels : Nat) :
    ∀ deeper ∈ expressionWithin limit levels, ∀ state, Respaces .any deeper deeper state := by
  induction levels with
  | zero => simp [expressionWithin]
  | succ levels ih =>
    intro deeper h
    obtain rfl : expression limit (expressionWithin limit levels) = deeper := by
      simpa [expressionWithin] using h
    exact respaces_expression limit ih

/-! ## Whole queries -/

/-- The segments of a whole query. -/
def wholeSegments (r : Registry) (c : ParserConfig) : Parser (List Segment) :=
  segments (filter c.maxDepth (expressionWithin c.maxDepth c.maxDepth) (checkFilter r c.strict))

lemma offset_eq (state : ParserState) :
    offset state = .ok ((state.tokens.head?.map Spanned.start).getD state.textEnd) state := rfl

/-- The end of a query comes next, and no blank stands before it. -/
lemma end_eq_ok_iff {x y : α} {last : ParserState} :
    (do
      if (← peek).isSome then failHere .segmentOrEnd
      else if !(← isAdjacent) then failAt (← previousStop) .segmentAfterBlank
      else return x : Parser α) state = .ok y last ↔
      state.tokens = [] ∧ state.textEnd = state.previousStop ∧ y = x ∧ last = state := by
  obtain ⟨tokens, stop, textEnd, diagnostics⟩ := state
  rw [bind_of_ok (peek_eq _)]
  cases tokens with
  | cons t ts =>
    constructor
    · intro h
      cases h
    · rintro ⟨htokens, -⟩
      cases htokens
  | nil =>
    have hadjacent : isAdjacent ⟨[], stop, textEnd, diagnostics⟩ =
      .ok (textEnd == stop) ⟨[], stop, textEnd, diagnostics⟩ := rfl
    rw [if_neg (by simp [next?]), bind_of_ok hadjacent]
    by_cases hend : textEnd = stop
    · rw [if_neg (by simp [hend])]
      constructor
      · intro h
        cases h
        exact ⟨rfl, hend, rfl, rfl⟩
      · rintro ⟨-, -, rfl, rfl⟩
        rfl
    · rw [if_pos (by simp [hend])]
      constructor
      · intro h
        cases h
      · rintro ⟨-, h, -⟩
        exact absurd h hend

/-- A whole query is a root sign at the start of the text and segments up to its end. -/
lemma query_eq_ok_iff {r : Registry} {c : ParserConfig} {q : Query} {last : ParserState} :
    query r c state = .ok q last ↔
      ∃ t ts segments, state.tokens = t :: ts ∧ t.token = .root ∧ t.start = 0 ∧
        wholeSegments r c ⟨ts, t.stop, state.textEnd, state.diagnostics⟩ = .ok segments last ∧
        last.tokens = [] ∧ last.textEnd = last.previousStop ∧ q = ⟨.root, segments⟩ := by
  unfold query
  rw [bind_of_ok (offset_eq state), bind_of_ok (peek_eq state)]
  obtain ⟨tokens, stop, textEnd, diagnostics⟩ := state
  cases tokens with
  | nil =>
    rw [if_pos (by simp [next?])]
    constructor
    · intro h
      cases h
    · rintro ⟨t, ts, segments, htokens, -⟩
      cases htokens
  | cons t ts =>
    by_cases hroot : t.token = .root ∧ t.start = 0
    · rw [if_neg (by simp [next?, hroot])]
      have hadvance : advance ⟨t :: ts, stop, textEnd, diagnostics⟩ =
        .ok () ⟨ts, t.stop, textEnd, diagnostics⟩ := rfl
      rw [bind_of_ok hadvance, bind_eq_ok_iff]
      constructor
      · rintro ⟨segments, next, hsegments, hend⟩
        obtain ⟨htokens, hstop, rfl, rfl⟩ := end_eq_ok_iff.1 hend
        exact ⟨t, ts, segments, rfl, hroot.1, hroot.2, hsegments, htokens, hstop, rfl⟩
      · rintro ⟨t, ts, segments, ⟨⟩, -, -, hsegments, htokens, hstop, rfl⟩
        exact ⟨segments, last, hsegments, end_eq_ok_iff.2 ⟨htokens, hstop, rfl, rfl⟩⟩
    · rw [if_pos (by simpa [next?, imp_iff_not_or, or_comm] using hroot)]
      constructor
      · intro h
        cases h
      · rintro ⟨t, ts, segments, ⟨⟩, htoken, hstart, -⟩
        exact absurd ⟨htoken, hstart⟩ hroot

/-! ## Places in a whole query -/

/-- Where the last token ends, of those left and the one before them. -/
def lastStop (state : ParserState) : Nat :=
  (state.tokens.getLast?.map Spanned.stop).getD state.previousStop

lemma lastStop_cons (t : Spanned) (ts : List Spanned) (stop textEnd : Nat)
    (diagnostics : List Diagnostic) :
    lastStop ⟨t :: ts, stop, textEnd, diagnostics⟩ =
      lastStop ⟨ts, t.stop, textEnd, diagnostics⟩ := by
  unfold lastStop
  rw [List.getLast?_cons]
  cases ts.getLast? <;> rfl

lemma lastStop_eq_iff (h : state.tokens ≠ []) {stop : Nat} :
    lastStop state = stop ↔ state.tokens.getLast?.map Spanned.stop = some stop := by
  unfold lastStop
  cases hlast : state.tokens.getLast? with
  | none => exact absurd (List.getLast?_eq_none_iff.1 hlast) h
  | some t => simp

/-- The text and its last token end where they ended before. -/
def KeepsEnd (state state' : ParserState) : Prop :=
  state'.textEnd = state.textEnd ∧ lastStop state' = lastStop state

lemma isForward_keepsEnd : IsForward KeepsEnd where
  refl _ := ⟨rfl, rfl⟩
  trans h h' := ⟨h'.1.trans h.1, h'.2.trans h.2⟩
  advance state := by
    obtain ⟨tokens, stop, textEnd, diagnostics⟩ := state
    cases tokens with
    | nil => exact ⟨rfl, rfl⟩
    | cons t ts =>
      exact ⟨rfl, (lastStop_cons t ts stop textEnd diagnostics).symm⟩

lemma keepsEnd_wholeSegments (r : Registry) (c : ParserConfig) :
    Keeps KeepsEnd (wholeSegments r c) :=
  keeps_segments isForward_keepsEnd.isKept <| keeps_filter isForward_keepsEnd.isKept c.maxDepth
    (keeps_expressionWithin isForward_keepsEnd.isKept c.maxDepth c.maxDepth)
    fun position test _ => keeps_checkFilter (fun _ _ => ⟨rfl, rfl⟩) r c.strict position test

/-- The type errors that are reported do not depend on the place of the filter. -/
lemma respaces_checkFilter (r : Registry) (strict : Bool) (position position' : Nat)
    (test : Expr) (state : ParserState) :
    Respaces .noParen (checkFilter r strict position test) (checkFilter r strict position' test)
      state := by
  dsimp only [checkFilter]
  split
  · exact respaces_of_fails fun _ _ h => nomatch h
  · exact .pure ()
  · rintro x next hx
    cases hx
    refine ⟨id, fun state' hstate _ => ⟨_, rfl, hstate.tokens, ?_, hstate.joined⟩⟩
    show state'.diagnostics ++ _ = state.diagnostics ++ _
    rw [hstate.diagnostics]

lemma respaces_wholeSegments (r : Registry) (c : ParserConfig) (state : ParserState) :
    Respaces .noParen (wholeSegments r c) (wholeSegments r c) state :=
  respaces_segments (fun _ => respaces_filter c.maxDepth (respaces_expressionWithin _ _)
    (respaces_checkFilter r c.strict)) state

/-- The tokens are those of a text without blanks at its ends, and are adjacent wherever they have
to be. -/
structure FillsText (tokens : List Spanned) (textEnd : Nat) : Prop where
  start : tokens.head?.map Spanned.start = some 0
  stop : tokens.getLast?.map Spanned.stop = some textEnd
  joined : Joined tokens

section Query

variable {r : Registry} {c : ParserConfig} {q : Query} {last : ParserState}

/-- Where all tokens have been read and no blank is left, the text ends with its last token. -/
lemma lastStop_of_wholeSegments {segments : List Segment}
    (h : wholeSegments r c state = .ok segments last) (htokens : last.tokens = []) :
    last.textEnd = last.previousStop ↔ state.textEnd = lastStop state := by
  obtain ⟨hend, hstop⟩ := (keepsEnd_wholeSegments r c).of_ok h
  rw [← hend, ← hstop, lastStop, htokens]
  rfl

theorem fillsText_of_query (h : query r c state = .ok q last) :
    FillsText state.tokens state.textEnd := by
  obtain ⟨t, ts, segments, htokens, htoken, hstart, hsegments, hlast, hend, -⟩ :=
    query_eq_ok_iff.1 h
  obtain ⟨tokens, stop, textEnd, diagnostics⟩ := state
  subst htokens
  have hspaced : Spaced .noParen last := by
    rw [Spaced, Lead.Allows, hlast]
    exact ⟨.nil, fun u hu => nomatch hu⟩
  obtain ⟨hjoined, -⟩ := (respaces_wholeSegments r c _ _ _ hsegments).1 hspaced
  refine ⟨congrArg some hstart, ?_, List.isChain_cons.2 ⟨fun u _ hjoins => ?_, hjoined⟩⟩
  · have hstop := (lastStop_of_wholeSegments hsegments hlast).1 hend
    rw [← lastStop_cons t ts stop] at hstop
    exact (lastStop_eq_iff (List.cons_ne_nil t ts)).1 hstop.symm
  · rw [htoken] at hjoins
    cases hjoins

/-- A query is read in the same way wherever its tokens stand. -/
theorem query_respaced (h : query r c state = .ok q last) (state' : ParserState)
    (htokens : state'.tokens.map Spanned.token = state.tokens.map Spanned.token)
    (hdiagnostics : state'.diagnostics = state.diagnostics)
    (hfills : FillsText state'.tokens state'.textEnd) :
    ∃ last', query r c state' = .ok q last' ∧ last'.diagnostics = last.diagnostics := by
  obtain ⟨t, ts, segments, hstate, htoken, -, hsegments, hlast, -, rfl⟩ := query_eq_ok_iff.1 h
  obtain ⟨tokens', stop', textEnd', diagnostics'⟩ := state'
  rw [hstate] at htokens
  obtain ⟨t', ts', rfl, htoken', hts⟩ := List.map_eq_cons_iff.1 htokens
  have hjoined := (List.isChain_cons.1 hfills.joined).2
  obtain ⟨last', hsegments', hlast'⟩ := (respaces_wholeSegments r c _ _ _ hsegments).2
    ⟨ts', t'.stop, textEnd', diagnostics'⟩ ⟨hts, hdiagnostics, hjoined⟩ trivial
  have hnil : last'.tokens = [] := by simpa [hlast] using hlast'.tokens
  refine ⟨last', query_eq_ok_iff.2 ⟨t', ts', segments, rfl, htoken'.trans htoken,
    Option.some.inj hfills.start, hsegments', hnil, ?_, rfl⟩, hlast'.diagnostics⟩
  rw [lastStop_of_wholeSegments hsegments' hnil, ← lastStop_cons t' ts' stop']
  exact ((lastStop_eq_iff (List.cons_ne_nil t' ts')).2 hfills.stop).symm

end Query

end JsonPath.Parser
