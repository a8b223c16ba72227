import JsonPath.Proofs.Canonical.Reading
import JsonPath.Proofs.Extending.Segments

/-!
# Completing filter expressions

Expressions are completed by `@`, which is a test and an operand, by the parenthesis that closes
what is open, and a literal by a comparison with a number.  One level more may be needed for it: a
failure just behind a sign that opens the last level that is allowed asks for something on the next
level.

`Levels` is what a level takes from the next one.  `extends_expression` establishes it for the level
before, so that `levels_expressionWithin` is an induction on the number of levels.
-/

namespace JsonPath.Parser

variable {α β : Type} {known : Nat → Prop} {state : ParserState}
  {closers : List (Option Token)}

/-- An operand that is completed is no literal, and a query of one node at most where the tokens
stay singular. -/
def Goal.operand : Goal Expr where
  given := Steady
  read us _ := us ≠ []
  completed us e := (∀ value, e ≠ .literal value) ∧
    (Token.operandStaysSingular (us.map Spanned.token) →
      ∀ anchor ss, e = .query anchor ss → Segment.allSingular ss)

lemma Goal.any_entails_after (us : List Spanned) : (any : Goal α).Entails (any.after us) where
  given _ := Steady.of_append
  read _ _ h := fun hnil => h (List.append_eq_nil_iff.1 hnil).2
  completed _ _ _ h := h

lemma ne_nil_of_list {separator : Token} {us : List Spanned} {xs : α × List α}
    (h : ((Goal.any : Goal α).list separator).read us xs) : us ≠ [] := by
  rcases h with ⟨-, h⟩ | ⟨ts, vs, rfl, -, hts⟩
  · exact h
  · exact fun hnil => hts (List.append_eq_nil_iff.1 hnil).1

/-! ## One level deeper -/

/-- A reader of expressions reads `@` as a test, and no literal that stands alone. -/
structure ReadsTests (p : Parser Expr) : Prop where
  current : ReadsFillers ends p [.current] fun _ => True
  literal : ∀ {t : Spanned} {ts : List Spanned} {stop : Nat} {e : Expr} {c : Cursor},
    t.token.isLiteral → nextOf ts = some .comma ∨ nextOf ts = some .rightParen →
    ¬ Reads p ⟨t :: ts, stop⟩ e c

/-- The readers `deeper'?` of the next level complete what those of `deeper?` have read, and there
is one in any case. -/
structure Levels (deeper? deeper'? : Option (Parser Expr)) : Prop where
  keeps : ∀ deeper ∈ deeper?, Keeps Shrinks deeper
  keeps' : ∀ deeper ∈ deeper'?, Keeps Shrinks deeper
  next : ∃ deeper', deeper'? = some deeper' ∧ ReadsTests deeper' ∧
    ∀ deeper, deeper? = some deeper → ∀ state,
      Extends ends (Here state) Goal.any deeper deeper' state

/-- Finishing a filter reads nothing, and fails for want of nothing. -/
structure Concludes (finish finish' : Nat → Expr → Parser Unit) : Prop where
  keeps : ∀ position e, Keeps Shrinks (finish position e)
  keeps' : ∀ position e, Keeps Shrinks (finish' position e)
  result : ∀ position e state,
    (∃ diagnostics, finish position e state =
      .ok () ⟨state.tokens, state.previousStop, state.textEnd, diagnostics⟩) ∨
    ∃ failure next, finish position e state = .error failure next ∧
      ∀ what, failure.cause ≠ .expected what
  finishes' : Finishes finish'

lemma concludes_pure : Concludes (fun _ _ => pure ()) (fun _ _ => pure ()) where
  keeps _ _ := isKept_shrinks.pure _
  keeps' _ _ := isKept_shrinks.pure _
  result _ _ state := .inl ⟨state.diagnostics, rfl⟩
  finishes' := finishes_pure

lemma concludes_checkFilter (r : Registry) (strict : Bool) :
    Concludes (checkFilter r strict) (checkFilter r false) where
  keeps position e := (sameTokens_checkFilter r strict position e).shrinks_of_same
  keeps' position e := (sameTokens_checkFilter r false position e).shrinks_of_same
  result position e state := by
    unfold checkFilter
    cases strict with
    | false => exact .inl ⟨_, rfl⟩
    | true =>
      cases (r.checkTest e).diagnostics with
      | nil => exact .inl ⟨_, rfl⟩
      | cons first found => exact .inr ⟨_, _, rfl, fun what h => nomatch h⟩
  finishes' := finishes_checkFilter r

section Levels

variable {limit limit' : Nat} {deeper? deeper'? : Option (Parser Expr)}
  (hlevels : Levels deeper? deeper'?)
include hlevels

lemma Extends.enter {position position' : Nat} {Q : Goal β} {f f' : Parser Expr → Parser β}
    (hf : ∀ deeper deeper', deeper? = some deeper → ReadsTests deeper' →
      Keeps Shrinks deeper → Keeps Shrinks deeper' →
      (∀ state, Extends ends (Here state) Goal.any deeper deeper' state) →
      Extends closers known Q (f deeper) (f' deeper') state) :
    Extends closers known Q (enter limit deeper? position >>= f)
      (enter limit' deeper'? position' >>= f') state := by
  obtain ⟨deeper', rfl, htests, hdeeper⟩ := hlevels.next
  cases hlevel : deeper? with
  | none => exact .other fun what h => nomatch h
  | some deeper =>
    exact hf deeper deeper' hlevel htests (hlevels.keeps deeper hlevel)
      (hlevels.keeps' deeper' rfl) (hdeeper deeper hlevel)

lemma extends_parenthesized (hnext : nextOf state.tokens = some .leftParen) :
    Extends closers (fun _ => False) Goal.any (parenthesized limit deeper?)
      (parenthesized limit' deeper'?) state := by
  obtain ⟨t, ts, htokens, ht⟩ := exists_of_nextOf hnext
  refine .offset (fun _ _ h => h) (.advanceOr [.current, .rightParen] htokens
    (fun _ stop ks rest hks hrest => ?_) fun next _ => ?_)
  · obtain ⟨deeper', rfl, htests, -⟩ := hlevels.next
    obtain ⟨u, us, rfl, hu, hus⟩ := Filler.are_cons hks
    obtain ⟨v, rfl, hv⟩ := Filler.are_singleton hus
    obtain ⟨e, stop', he, -⟩ := htests.current stop [u] (v :: rest) (by simp [Filler.Are, hu])
      (by simp [nextOf, hv, Filler.token, ends])
    exact ⟨_, _, (Reads.pure _ _).bind (he.bind ((reads_expect v rest _ hv).bind (.pure _ _))),
      trivial⟩
  · refine .enter hlevels fun deeper deeper' _ htests _ _ hdeeper => ?_
    exact .closedBy .rightParen id (fun _ => rfl) (fun _ => rfl)
      ((hdeeper next).mono (by simp [ends, Filler.token]) (fun _ h => .inr ⟨by simp, h⟩)
        (.refl _))
      (fun _ _ _ _ _ => by simp [Goal.after, Goal.any]) (fun us _ h hus => absurd hus h)
      (fun _ _ _ _ => trivial) (fun _ _ _ h => h) fun _ h => Steady.of_append h

lemma extends_filter {finish finish' : Nat → Expr → Parser Unit}
    (hfinish : Concludes finish finish') (hnext : nextOf state.tokens = some .question) :
    Extends ends (fun _ => False) Goal.test (filter limit deeper? finish)
      (filter limit' deeper'? finish') state := by
  obtain ⟨t, ts, htokens, ht⟩ := exists_of_nextOf hnext
  have hled (us : List Spanned) : LedBy .question ([t] ++ us) := ⟨t, us, rfl, ht⟩
  have hend (e : Expr) (position : Nat) (c : Cursor) :
      Reads (finish' position e >>= fun _ => pure (Segment.filter e)) c (.filter e) c :=
    (hfinish.finishes' position e c).bind (.pure _ _)
  refine .offset (fun us _ ⟨_, _, hus, _⟩ => by simp [hus]) (.advanceOr [.current] htokens
    (fun _ stop ks rest hks hrest => ?_) fun next _ => ?_)
  · obtain ⟨deeper', rfl, htests, -⟩ := hlevels.next
    obtain ⟨e, stop', he, -⟩ := htests.current stop ks rest hks hrest
    exact ⟨_, _, (Reads.pure _ _).bind (he.bind (hend e _ _)), hled []⟩
  · refine .enter hlevels fun deeper deeper' _ htests _ _ hdeeper => ?_
    refine ((hdeeper next).imp_known fun _ h => .inr ⟨by simp, h⟩).bind
      (fun us e last _ _ _ => ?_)
      (fun us e _ _ rest stop _ => ⟨_, stop, hend e _ _, hled us⟩) fun _ h => Steady.of_append h
    rcases hfinish.result (startOf state.textEnd state.tokens) e last with
      ⟨diagnostics, hok⟩ | ⟨failure, last', herror, hcause⟩
    · unfold Extends
      rw [bind_of_ok hok]
      exact .read [] rfl rfl (hled _) fun rest _ => hend e _ _
    · unfold Extends
      rw [bind_of_error herror]
      exact .other hcause

lemma extends_embedded (anchor : Anchor) (hnext : nextOf state.tokens = some anchor.token) :
    Extends operandEnds (fun _ => False) Goal.operand (embedded limit deeper? anchor)
      (embedded limit' deeper'? anchor) state := by
  obtain ⟨t, ts, htokens, ht⟩ := exists_of_nextOf hnext
  have hkeeps (limit : Nat) {deeper? : Option (Parser Expr)}
      (hdeeper : ∀ deeper ∈ deeper?, Keeps Shrinks deeper) :
      Keeps Shrinks (filter limit deeper? fun _ _ => pure ()) :=
    keeps_filter isKept_shrinks limit hdeeper fun _ _ _ => isKept_shrinks.pure _
  have hsegments (next : ParserState) := extends_segments
    (fun state hnext => extends_filter hlevels concludes_pure hnext)
    (hkeeps limit hlevels.keeps) (hkeeps limit' hlevels.keeps') next
  refine .advanceOr [] htokens (fun h => absurd rfl h) fun next _ => ?_
  rw [bind_pure_comp, bind_pure_comp]
  refine (hsegments next).of_false.map (fun us h => Steady.of_append h)
    (fun us ss _ => by simp [Goal.after, Goal.operand])
    fun us ss _ h => ⟨fun _ h' => (nomatch h'), ?_⟩
  rintro hsingular _ _ ⟨⟩
  refine h ?_
  rw [List.map_append, List.map_singleton, ht] at hsingular
  cases anchor <;> exact hsingular

end Levels

/-! ## Literals -/

lemma literal_of_number {lexeme : String} {n? : Option Number} (h : Number.ofText? lexeme = n?)
    (start stop stop' textEnd : Nat) (ts : List Spanned) (diagnostics : List Diagnostic) :
    literal ⟨⟨.number lexeme, start, stop⟩ :: ts, stop', textEnd, diagnostics⟩ =
      (n?.elim (failAt start .jsonNumber) fun n => pure (.number n) : Parser Json)
        ⟨ts, stop, textEnd, diagnostics⟩ := by
  have hoffset : offset ⟨⟨.number lexeme, start, stop⟩ :: ts, stop', textEnd, diagnostics⟩ =
    .ok start ⟨⟨.number lexeme, start, stop⟩ :: ts, stop', textEnd, diagnostics⟩ := rfl
  rw [literal, bind_of_ok hoffset, bind_of_ok (peek_eq _), bind_of_ok (advance_of_cons rfl)]
  dsimp only [next?, List.head?_cons, Option.map_some]
  rw [h]
  cases n? <;> rfl

/-- A literal is read, or it is a number that is none of JSON. -/
lemma literal_cases {t : Spanned} (ht : t.token.isLiteral) :
    (∃ value, ∀ ts stop, Reads literal ⟨t :: ts, stop⟩ value ⟨ts, t.stop⟩) ∨
      ∀ {state : ParserState} {ts : List Spanned}, state.tokens = t :: ts → ∃ next,
        literal state = .error ⟨t.start, .expected .jsonNumber⟩ next := by
  obtain ⟨token, start, stop⟩ := t
  have hread (value : Json) (h : ∀ ts stop' textEnd diagnostics,
      literal ⟨⟨token, start, stop⟩ :: ts, stop', textEnd, diagnostics⟩ =
        .ok value ⟨ts, stop, textEnd, diagnostics⟩) :
      ∃ value, ∀ ts stop', Reads literal ⟨⟨token, start, stop⟩ :: ts, stop'⟩ value ⟨ts, stop⟩ :=
    ⟨value, fun ts stop' textEnd diagnostics => ⟨diagnostics, h ts stop' textEnd diagnostics⟩⟩
  cases token with
  | string value => exact .inl (hread (.string value) fun _ _ _ _ => rfl)
  | true => exact .inl (hread (.bool true) fun _ _ _ _ => rfl)
  | false => exact .inl (hread (.bool false) fun _ _ _ _ => rfl)
  | null => exact .inl (hread .null fun _ _ _ _ => rfl)
  | number lexeme =>
    cases hnumber : Number.ofText? lexeme with
    | some n =>
      exact .inl (hread (.number n) fun ts stop' textEnd diagnostics =>
        literal_of_number hnumber start stop stop' textEnd ts diagnostics)
    | none =>
      refine .inr fun {state ts} htokens => ?_
      obtain ⟨tokens, stop', textEnd, diagnostics⟩ := state
      subst htokens
      exact ⟨_, literal_of_number hnumber start stop stop' textEnd ts diagnostics⟩
  | _ => cases ht

lemma extends_literal {t : Spanned} {ts : List Spanned} (htokens : state.tokens = t :: ts)
    (ht : t.token.isLiteral) :
    Extends closers (Here state) Goal.operand (Expr.literal <$> literal) (Expr.literal <$> literal)
      state := by
  rcases literal_cases ht with ⟨value, hvalue⟩ | herror
  · exact .of_reads [t] htokens (by simp [Goal.operand]) ((hvalue ts _).map _)
      fun rest _ => (hvalue rest _).map _
  · obtain ⟨next, herror⟩ := herror htokens
    unfold Extends
    rw [map_eq_pure_bind, bind_of_error herror]
    refine .known ?_
    rw [Here, htokens]
    rfl

section Calls

variable {limit limit' : Nat} {deeper? deeper'? : Option (Parser Expr)}
  {deeper deeper' : Parser Expr}

/-- Whatever is read one level deeper is an argument. -/
lemma ReadsTests.reads_argument (htests : ReadsTests deeper') {ts : List Spanned} {stop : Nat}
    {e : Expr} {c : Cursor} (h : Reads deeper' ⟨ts, stop⟩ e c) :
    Reads (argument deeper') ⟨ts, stop⟩ e c := by
  cases ts with
  | nil => exact h
  | cons t ts =>
    refine (reads_peek _).bind ((reads_peekSecond _).bind ?_)
    rw [if_neg fun hliteral => ?_]
    · exact h
    · simp only [Bool.and_eq_true, Bool.or_eq_true, decide_eq_true_eq] at hliteral
      exact htests.literal hliteral.1 hliteral.2 h

lemma reads_argument_literal (deeper : Parser Expr) {t : Spanned} {ts : List Spanned} {stop : Nat}
    {value : Json} (ht : t.token.isLiteral)
    (hts : nextOf ts = some .comma ∨ nextOf ts = some .rightParen)
    (h : Reads literal ⟨t :: ts, stop⟩ value ⟨ts, t.stop⟩) :
    Reads (argument deeper) ⟨t :: ts, stop⟩ (.literal value) ⟨ts, t.stop⟩ := by
  refine (reads_peek _).bind ((reads_peekSecond _).bind ?_)
  rw [if_pos]
  · exact h.bind (.pure _ _)
  · simp only [Bool.and_eq_true, Bool.or_eq_true, decide_eq_true_eq]
    exact ⟨ht, hts⟩

lemma argument_of_cons (deeper : Parser Expr) {t : Spanned} {ts : List Spanned}
    (htokens : state.tokens = t :: ts) :
    argument deeper state =
      (if t.token.isLiteral && (nextOf ts = some .comma || nextOf ts = some .rightParen) then
        Expr.literal <$> literal
      else deeper : Parser Expr) state := by
  obtain ⟨tokens, stop, textEnd, diagnostics⟩ := state
  subst htokens
  rfl

/-- An argument: a literal that stands alone, or whatever is read one level deeper. -/
lemma extends_argument (htests : ReadsTests deeper')
    (hdeeper : ∀ state, Extends ends (Here state) Goal.any deeper deeper' state)
    (state : ParserState) :
    Extends [some .rightParen] (Here state) Goal.any (argument deeper) (argument deeper')
      state := by
  have hplain (heq : argument deeper state = deeper state) :
      Extends [some .rightParen] (Here state) Goal.any (argument deeper) (argument deeper') state :=
    .over [] state deeper deeper' rfl rfl heq (fun _ _ _ => htests.reads_argument)
      ((hdeeper state).mono (by simp [ends]) (fun _ h => h) (Goal.any_entails_after []))
  rcases htokens : state.tokens with _ | ⟨t, ts⟩
  · refine hplain ?_
    obtain ⟨tokens, stop, textEnd, diagnostics⟩ := state
    subst htokens
    rfl
  · have heq := argument_of_cons deeper htokens
    by_cases hliteral : t.token.isLiteral ∧ (nextOf ts = some .comma ∨ nextOf ts = some .rightParen)
    · obtain ⟨ht, hts⟩ := hliteral
      rw [if_pos (by simpa using ⟨ht, hts⟩)] at heq
      rcases literal_cases ht with ⟨value, hvalue⟩ | herror
      · refine .of_reads [t] htokens (by simp [Goal.any])
          (reads_argument_literal deeper ht hts (hvalue ts _)) fun rest hrest => ?_
        refine reads_argument_literal deeper' ht ?_ (hvalue rest _)
        rcases hrest with hsame | hcloses
        · rwa [← hsame] at hts
        · exact .inr (List.mem_singleton.1 hcloses)
      · obtain ⟨next, herror⟩ := herror htokens
        unfold Extends
        rw [heq, map_eq_pure_bind, bind_of_error herror]
        refine .known ?_
        rw [Here, htokens]
        rfl
    · rw [if_neg (by simpa using hliteral)] at heq
      exact hplain heq

lemma reads_arguments_nil (deeper : Parser Expr) {ts : List Spanned}
    (h : nextOf ts = some .rightParen) (stop : Nat) :
    Reads (arguments deeper) ⟨ts, stop⟩ [] ⟨ts, stop⟩ := by
  refine (reads_peek _).bind ?_
  rw [show (Cursor.mk ts stop).next? = some .rightParen from h, if_pos rfl]
  exact .pure _ _

/-- Where no arguments are read, the parenthesis that closes them comes next. -/
def Goal.arguments (state : ParserState) : Goal (List Expr) where
  given := Steady
  read us _ := us = [] → nextOf state.tokens = some .rightParen
  completed _ _ := True

lemma extends_arguments (htests : ReadsTests deeper') (hkeeps : Keeps Shrinks deeper)
    (hkeeps' : Keeps Shrinks deeper')
    (hdeeper : ∀ state, Extends ends (Here state) Goal.any deeper deeper' state)
    (state : ParserState) :
    Extends [some .rightParen] (Here state) (Goal.arguments state) (arguments deeper)
      (arguments deeper') state := by
  by_cases hnext : nextOf state.tokens = some .rightParen
  · refine .of_reads [] rfl (fun _ => hnext) (reads_arguments_nil deeper hnext _) ?_
    intro rest hrest
    refine reads_arguments_nil deeper' ?_ _
    rcases hrest with hsame | hcloses
    · exact hsame.trans hnext
    · exact List.mem_singleton.1 hcloses
  · have hitems := Extends.separated .comma [some .rightParen] [.current]
      (keeps_argument isKept_shrinks hkeeps) (keeps_argument isKept_shrinks hkeeps') (by simp)
      (fun us vs => Steady.of_append) (extends_argument htests hdeeper) (by simp)
      (fun stop ks rest hks hrest => ?_) state
    · have hitems' := hitems.map (g := fun es => es.1 :: es.2) (Q := Goal.any) (fun _ h => h)
        (fun us es => ne_nil_of_list) fun _ _ _ _ => trivial
      rw [map_eq_pure_bind, map_eq_pure_bind] at hitems'
      have hlooks : Extends [some .rightParen] (Here state) Goal.any (arguments deeper)
          (arguments deeper') state := by
        refine .peek (fun _ _ h => h) ?_
        rw [if_neg hnext, if_neg hnext]
        exact hitems'
      exact hlooks.mono (List.Subset.refl _) (fun _ h => h)
        ⟨fun _ h => h, fun _ _ h hnil => absurd hnil h, fun _ _ _ h => h⟩
    · obtain ⟨e, stop', he, -⟩ := htests.current stop ks rest hks (by simp_all [ends])
      exact ⟨e, stop', htests.reads_argument he, trivial⟩

/-! ## Calls -/

/-- A call behind the opening parenthesis of its arguments. -/
def afterParen (limit : Nat) (deeper? : Option (Parser Expr)) (name : String) (position : Nat) :
    Parser Expr :=
  enter limit deeper? position >>= fun deeper => arguments deeper >>= fun es =>
  expect .rightParen .commaOrParen >>= fun _ => pure (.call name es)

lemma call_of_name (limit : Nat) (deeper? : Option (Parser Expr)) {name : String}
    (hname : isFunctionName name) {t u : Spanned} {ts : List Spanned}
    (htokens : state.tokens = t :: u :: ts) :
    call limit deeper? name state =
      (if u.start = t.stop then
        afterParen limit deeper? name u.start ⟨ts, u.stop, state.textEnd, state.diagnostics⟩
      else .error ⟨t.stop, .expected .parenAfterName⟩
        ⟨u :: ts, t.stop, state.textEnd, state.diagnostics⟩) := by
  obtain ⟨tokens, stop, textEnd, diagnostics⟩ := state
  subst htokens
  have hadvance : advance ⟨t :: u :: ts, stop, textEnd, diagnostics⟩ =
      .ok () ⟨u :: ts, t.stop, textEnd, diagnostics⟩ := rfl
  have hadjacent : isAdjacent ⟨u :: ts, t.stop, textEnd, diagnostics⟩ =
      .ok (u.start == t.stop) ⟨u :: ts, t.stop, textEnd, diagnostics⟩ := rfl
  rw [call, if_neg (by simp [hname]), bind_of_ok hadvance, bind_of_ok hadjacent]
  by_cases hstart : u.start = t.stop
  · rw [if_neg (by simp [hstart]), if_pos hstart]
    rfl
  · rw [if_pos (by simp [hstart]), if_neg hstart]
    rfl

lemma operand_of_call (limit : Nat) (deeper? : Option (Parser Expr)) {name : String}
    {t u : Spanned} {ts : List Spanned} (htokens : state.tokens = t :: u :: ts)
    (ht : t.token = .name name) (hu : u.token = .leftParen) :
    operand limit deeper? state = call limit deeper? name state := by
  obtain ⟨tokens, stop, textEnd, diagnostics⟩ := state
  obtain ⟨_, start, tstop⟩ := t
  obtain ⟨_, ustart, ustop⟩ := u
  subst htokens ht hu
  rfl

lemma reads_operand_call (limit : Nat) (deeper? : Option (Parser Expr)) {name : String}
    (hname : isFunctionName name) {t u : Spanned} {ts : List Spanned} {stop : Nat} {e : Expr}
    {c : Cursor} (ht : t.token = .name name) (hu : u.token = .leftParen) (hstart : u.start = t.stop)
    (h : Reads (afterParen limit deeper? name u.start) ⟨ts, u.stop⟩ e c) :
    Reads (operand limit deeper?) ⟨t :: u :: ts, stop⟩ e c := by
  intro textEnd diagnostics
  rw [operand_of_call limit deeper? rfl ht hu, call_of_name limit deeper? hname rfl, if_pos hstart]
  exact h textEnd diagnostics

/-- The parenthesis that opens the arguments of a call, and the one that closes them. -/
lemma reads_afterParen_nil (hlevels : Levels deeper? deeper'?) (limit' : Nat) (name : String)
    (position : Nat) {t : Spanned} (ht : t.token = .rightParen) (ts : List Spanned) (stop : Nat) :
    Reads (afterParen limit' deeper'? name position) ⟨t :: ts, stop⟩ (.call name [])
      ⟨ts, t.stop⟩ := by
  obtain ⟨deeper', rfl, -⟩ := hlevels.next
  refine (Reads.pure _ _).bind ((reads_arguments_nil deeper' ?_ stop).bind
    ((reads_expect t ts stop ht).bind (.pure _ _)))
  exact congrArg some ht

lemma extends_call (hlevels : Levels deeper? deeper'?) {name : String} {t u : Spanned}
    {ts : List Spanned} (htokens : state.tokens = t :: u :: ts) (ht : t.token = .name name)
    (hu : u.token = .leftParen) :
    Extends closers (Here state) Goal.operand (operand limit deeper?) (operand limit' deeper'?)
      state := by
  have hcall (us : List Spanned) (es : List Expr) : Goal.operand.completed us (.call name es) :=
    ⟨fun _ h => (nomatch h), fun _ _ _ h => (nomatch h)⟩
  have heq := operand_of_call limit deeper? htokens ht hu
  by_cases hname : isFunctionName name
  · rw [call_of_name limit deeper? hname htokens] at heq
    by_cases hstart : u.start = t.stop
    · rw [if_pos hstart] at heq
      refine .overOr [t, u] ⟨ts, u.stop, state.textEnd, state.diagnostics⟩
        (afterParen limit deeper? name u.start) (afterParen limit' deeper'? name u.start)
        [.rightParen]
        htokens rfl heq
        (fun ts' e c h => reads_operand_call limit' deeper'? hname ht hu hstart h)
        (fun _ => ⟨by simp, fun stop ks rest hks hrest => ?_⟩) ?_
      · obtain ⟨v, rfl, hv⟩ := Filler.are_singleton hks
        exact ⟨_, _, reads_afterParen_nil hlevels limit' name _ hv rest stop, hcall _ _⟩
      · refine .enter hlevels fun deeper deeper' _ htests hkeeps hkeeps' hdeeper => ?_
        exact .closedBy .rightParen (.call name) (fun _ => rfl) (fun _ => rfl)
          ((extends_arguments htests hkeeps hkeeps' hdeeper _).imp_known
            fun _ h => .inr ⟨by simp, h⟩)
          (fun _ _ _ _ _ => by simp [Goal.after, Goal.operand]) (fun us _ h hus => h hus)
          (fun _ _ _ _ => hcall _ _) (fun _ _ _ _ => hcall _ _) fun _ h => Steady.of_append h
    · rw [if_neg hstart] at heq
      unfold Extends
      rw [heq]
      refine .completed [t] (u :: ts) [.leftParen, .rightParen] htokens
        (.near List.getLast?_singleton (by simp [ht, Filler.continues]) rfl) (by simp) (by simp) ?_
      intro _ ks rest hks hnear _
      obtain ⟨v, us, rfl, hv, hus⟩ := Filler.are_cons hks
      obtain ⟨w, rfl, hw⟩ := Filler.are_singleton hus
      exact ⟨_, _, reads_operand_call limit' deeper'? hname ht hv (hnear rfl v rfl)
        (reads_afterParen_nil hlevels limit' name _ hw rest _), hcall _ _⟩
  · unfold Extends
    rw [heq, call, if_pos (by simpa using hname)]
    exact extends_failHere _

/-- An operand, which is completed after its first token. -/
lemma extends_operand (hlevels : Levels deeper? deeper'?) (state : ParserState) :
    Extends operandEnds (Here state) Goal.operand (operand limit deeper?) (operand limit' deeper'?)
      state := by
  rcases htokens : state.tokens with _ | ⟨t, ts⟩
  · refine .peek (fun _ _ h => h) ?_
    rw [htokens]
    exact extends_failHere _
  have hnext : nextOf state.tokens = some t.token := by
    rw [htokens]
    rfl
  by_cases hcall : ∃ name u us, t.token = .name name ∧ ts = u :: us ∧ u.token = .leftParen
  · obtain ⟨name, u, us, ht, rfl, hu⟩ := hcall
    exact extends_call hlevels htokens ht hu
  refine .peek (fun _ _ h => h) ?_
  rw [hnext]
  rcases t with ⟨token, start, stop⟩
  cases token with
  | root => exact (extends_embedded hlevels .root hnext).of_false
  | current => exact (extends_embedded hlevels .current hnext).of_false
  | name name =>
    have hsecond : nextOf state.tokens.tail ≠ some .leftParen := by
      intro hnext
      rw [htokens] at hnext
      obtain ⟨u, us, hus, hu⟩ := exists_of_nextOf hnext
      exact hcall ⟨name, u, us, rfl, hus, hu⟩
    unfold Extends
    show Extended _ _ _ _ _ ((if nextOf state.tokens.tail = some .leftParen then _
      else failHere .operand : Parser Expr) state)
    rw [if_neg hsecond]
    exact extends_failHere _
  | string value => exact extends_literal htokens rfl
  | number value => exact extends_literal htokens rfl
  | true => exact extends_literal htokens rfl
  | false => exact extends_literal htokens rfl
  | null => exact extends_literal htokens rfl
  | _ => exact extends_failHere _

/-! ## Comparisons -/

lemma reads_operand_current (hkeeps : ∀ deeper ∈ deeper?, Keeps Shrinks deeper) (limit : Nat)
    {t : Spanned}
    (ht : t.token = .current) {ts : List Spanned} (hts : nextOf ts ∈ operandEnds) (stop : Nat) :
    Reads (operand limit deeper?) ⟨t :: ts, stop⟩ (.query .current []) ⟨ts, t.stop⟩ := by
  refine (reads_peek _).bind ?_
  rw [show (Cursor.mk (t :: ts) stop).next? = some .current from congrArg some ht]
  have hsegments := (starts_segment? (keeps_filter isKept_shrinks limit hkeeps
    fun _ _ _ => isKept_shrinks.pure _ : Keeps Shrinks
      (filter limit deeper? fun _ _ => pure ()))).reads_many (not_startsSegment hts) t.stop
  exact (reads_advance t ts stop).bind (hsegments.bind (.pure _ _))

lemma requireTest_eq {e : Expr} (he : ∀ value, e ≠ .literal value) (position : Nat)
    (what : Expectation) : requireTest e position what = pure () := by
  cases e with
  | literal value => exact absurd rfl (he value)
  | _ => rfl

/-- An operand of a comparison is no query of more than one node. -/
def IsComparable (e : Expr) : Prop := ∀ anchor ss, e = .query anchor ss → Segment.allSingular ss

lemma requireComparable_eq {e : Expr} (he : IsComparable e) (position : Nat) :
    requireComparable e position = pure () := by
  cases e with
  | query anchor ss => exact if_pos (he anchor ss rfl)
  | _ => rfl

lemma requireComparable_eq_failAt {e : Expr} (he : ¬ IsComparable e) (position : Nat) :
    requireComparable e position = failAt position .singularQuery := by
  cases e with
  | query anchor ss => 
    refine if_neg fun h => he ?_
    rintro _ _ ⟨⟩
    exact h
  | _ => exact absurd (fun _ _ h => nomatch h) he

/-- The part of a comparison behind its sign. -/
def afterSign (limit : Nat) (deeper? : Option (Parser Expr)) (op : Comparison) (left : Expr) :
    Parser Expr := do
  let position ← offset
  let right ← operand limit deeper?
  requireComparable right position
  return .compare op left right

/-- What is read behind the first operand. -/
def afterOperand (limit : Nat) (deeper? : Option (Parser Expr)) (position : Nat) (left : Expr) :
    Parser Expr := do
  match ← peek with
  | some (.comparison op) =>
    advance
    requireComparable left position
    afterSign limit deeper? op left
  | _ =>
    requireTest left (← offset) .comparison
    return left

lemma comparisonOrTest_eq (limit : Nat) (deeper? : Option (Parser Expr)) :
    comparisonOrTest limit deeper? =
      offset >>= fun position => operand limit deeper? >>= fun left =>
      afterOperand limit deeper? position left := rfl

/-- The goal of what is read behind an operand. -/
def Goal.rest (given : List Spanned → Prop) : Goal Expr where
  given := given
  read _ _ := True
  completed _ _ := True

lemma reads_afterSign_zero (limit : Nat) (deeper? : Option (Parser Expr)) (op : Comparison)
    (left : Expr) {t : Spanned} (ht : t.token = Filler.number.token) (ts : List Spanned)
    (stop : Nat) :
    ∃ e, Reads (afterSign limit deeper? op left) ⟨t :: ts, stop⟩ e ⟨ts, t.stop⟩ := by
  obtain ⟨n, hn⟩ : ∃ n, Number.ofText? "0" = some n := ⟨_, rfl⟩
  obtain ⟨_, start, tstop⟩ := t
  obtain rfl := ht
  have hoperand : Reads (operand limit deeper?) ⟨⟨.number "0", start, tstop⟩ :: ts, stop⟩
      (.literal (.number n)) ⟨ts, tstop⟩ := by
    have hliteral : Reads literal ⟨⟨.number "0", start, tstop⟩ :: ts, stop⟩ (.number n)
        ⟨ts, tstop⟩ :=
      fun textEnd diagnostics =>
        ⟨diagnostics, literal_of_number hn start tstop stop textEnd ts diagnostics⟩
    exact (reads_peek _).bind (hliteral.bind (.pure _ _))
  exact ⟨_, .offset_bind fun position => hoperand.bind ((Reads.pure () _).bind (.pure _ _))⟩

/-- The second operand: it is completed as a singular one if it stays singular. -/
lemma extends_afterSign (hlevels : Levels deeper? deeper'?) (op : Comparison) (left : Expr)
    (state : ParserState) :
    Extends ends (Here state)
      ⟨fun us => Token.operandStaysSingular (us.map Spanned.token) ∧ Steady us,
        fun us _ => us ≠ [], fun _ _ => True⟩
      (afterSign limit deeper? op left) (afterSign limit' deeper'? op left) state := by
  refine .offset (fun _ _ h => h) ?_
  refine ((extends_operand hlevels state).mono ends_subset (fun _ h => h) (.refl _)).bind
    (fun us right next _ _ hus => ?_) (fun us right hgiven hright rest stop _ => ?_)
    fun us h => h.2
  · by_cases hright : IsComparable right
    · rw [requireComparable_eq hright, pure_bind]
      exact .pure (by simpa [Goal.after, Goal.operand] using hus)
    · rw [requireComparable_eq_failAt hright]
      exact .known rfl
  · rw [requireComparable_eq (hright.2 hgiven.1), pure_bind]
    exact ⟨_, stop, .pure _ _, trivial⟩

/-- A literal alone is no test, and is completed as an operand. -/
def completion : Expr → List Filler
  | .literal _ => [.equals, .number]
  | _ => []

lemma reads_afterOperand (limit : Nat) (deeper? : Option (Parser Expr)) (position : Nat)
    {left : Expr} (hleft : ∀ value, left ≠ .literal value) {ts : List Spanned}
    (hts : ∀ op, nextOf ts ≠ some (.comparison op)) (stop : Nat) :
    Reads (afterOperand limit deeper? position left) ⟨ts, stop⟩ left ⟨ts, stop⟩ := by
  refine (reads_peek _).bind ?_
  split
  · rename_i op heq
    exact absurd heq (hts op)
  · refine .offset_bind fun position => ?_
    rw [requireTest_eq hleft, pure_bind]
    exact .pure _ _

lemma afterOperand_literal (limit : Nat) (deeper? : Option (Parser Expr)) (position : Nat)
    (value : Json) (hsign : ∀ op, nextOf state.tokens ≠ some (.comparison op)) :
    afterOperand limit deeper? position (.literal value) state =
      .error ⟨startOf state.textEnd state.tokens, .expected .comparison⟩ state := by
  rw [afterOperand, bind_of_ok (peek_eq state)]
  have hsign : ∀ op, next? state ≠ some (.comparison op) := hsign
  generalize next? state = token? at hsign
  rcases token? with _ | token
  · rfl
  · cases token <;> first | rfl | exact absurd rfl (hsign _)

lemma afterOperand_of_sign (limit : Nat) (deeper? : Option (Parser Expr)) (position : Nat)
    (left : Expr) {op : Comparison} {t : Spanned} (ht : t.token = .comparison op)
    (ts : List Spanned) (stop textEnd : Nat) (diagnostics : List Diagnostic) :
    afterOperand limit deeper? position left ⟨t :: ts, stop, textEnd, diagnostics⟩ =
      (requireComparable left position >>= fun _ => afterSign limit deeper? op left)
        ⟨ts, t.stop, textEnd, diagnostics⟩ := by
  obtain ⟨_, start, tstop⟩ := t
  subst ht
  rfl

/-- Behind a comparison sign a number is an operand.  The left operand is refused where it
starts. -/
lemma extends_afterOperand_of_sign (hlevels : Levels deeper? deeper'?) (position : Nat)
    (left : Expr) {op : Comparison} (hnext : nextOf state.tokens = some (.comparison op)) :
    Extends ends (· = position) (Goal.rest Steady) (afterOperand limit deeper? position left)
      (afterOperand limit' deeper'? position left) state := by
  obtain ⟨t, ts, htokens, ht⟩ := exists_of_nextOf hnext
  obtain ⟨tokens, stop, textEnd, diagnostics⟩ := state
  subst htokens
  by_cases hleft : IsComparable left
  · have heq (limit : Nat) (deeper? : Option (Parser Expr)) (ts : List Spanned)
        (stop textEnd : Nat) (diagnostics : List Diagnostic) :
        afterOperand limit deeper? position left ⟨t :: ts, stop, textEnd, diagnostics⟩ =
          afterSign limit deeper? op left ⟨ts, t.stop, textEnd, diagnostics⟩ := by
      rw [afterOperand_of_sign limit deeper? position left ht, requireComparable_eq hleft,
        pure_bind]
    refine .overOr [t] ⟨ts, t.stop, textEnd, diagnostics⟩ (afterSign limit deeper? op left)
      (afterSign limit' deeper'? op left) [.number] rfl rfl (heq ..)
      (fun ts' e c h textEnd diagnostics => ?_)
      (fun _ => ⟨by simp, fun stop ks rest hks hrest => ?_⟩) ?_
    · rw [List.singleton_append, heq]
      exact h textEnd diagnostics
    · obtain ⟨u, rfl, hu⟩ := Filler.are_singleton hks
      obtain ⟨e, he⟩ := reads_afterSign_zero limit' deeper'? op left hu rest stop
      exact ⟨e, _, he, trivial⟩
    · refine (extends_afterSign hlevels op left _).mono (List.Subset.refl _)
        (fun _ h => .inr ⟨by simp, h⟩) ⟨fun us h => ⟨?_, Steady.of_append h⟩,
          fun _ _ _ => trivial, fun _ _ _ _ => trivial⟩
      have h : Token.comparesSingular (t.token :: us.map Spanned.token) := h
      rw [ht] at h
      exact Token.operandStaysSingular_of_append [] h
  · unfold Extends
    rw [afterOperand_of_sign limit deeper? position left ht, requireComparable_eq_failAt hleft]
    exact .known rfl

lemma ne_comparison_of_mem_ends {token : Option Token} (h : token ∈ ends) (op : Comparison) :
    token ≠ some (.comparison op) := by
  rintro rfl
  simp [ends] at h

/-- Without a comparison sign an operand is a test, unless it is a literal. -/
lemma extends_afterOperand_of_not_sign (limit limit' : Nat)
    (deeper? deeper'? : Option (Parser Expr)) (position : Nat) (left : Expr)
    (hsign : ∀ op, nextOf state.tokens ≠ some (.comparison op)) :
    Extends ends (fun p => completion left ≠ [] ∧ Here state p) (Goal.rest Steady)
      (afterOperand limit deeper? position left) (afterOperand limit' deeper'? position left)
      state := by
  by_cases hleft : ∃ value, left = .literal value
  · obtain ⟨value, rfl⟩ := hleft
    unfold Extends
    rw [afterOperand_literal limit deeper? position value hsign]
    exact .known ⟨by simp [completion], rfl⟩
  · have hleft : ∀ value, left ≠ .literal value := fun value h => hleft ⟨value, h⟩
    refine .of_reads [] rfl trivial (reads_afterOperand limit deeper? position hleft hsign _) ?_
    intro rest hrest
    refine (reads_afterOperand limit' deeper'? position hleft (fun op => ?_) _ :
      Reads _ ⟨rest, _⟩ _ _)
    rcases hrest with hsame | hcloses
    · rw [hsame]
      exact hsign op
    · exact ne_comparison_of_mem_ends hcloses op

lemma extends_afterOperand (hlevels : Levels deeper? deeper'?) (position : Nat) (left : Expr)
    (state : ParserState) :
    Extends ends (fun p => p = position ∨ (completion left ≠ [] ∧ Here state p)) (Goal.rest Steady)
      (afterOperand limit deeper? position left) (afterOperand limit' deeper'? position left)
      state := by
  by_cases hsign : ∃ op, nextOf state.tokens = some (.comparison op)
  · obtain ⟨op, hnext⟩ := hsign
    exact (extends_afterOperand_of_sign hlevels position left hnext).imp_known fun _ h => .inl h
  · have hsign : ∀ op, nextOf state.tokens ≠ some (.comparison op) := fun op h => hsign ⟨op, h⟩
    exact (extends_afterOperand_of_not_sign limit limit' deeper? deeper'? position left
      hsign).imp_known fun _ h => .inr h

lemma extends_comparisonOrTest (hlevels : Levels deeper? deeper'?) (state : ParserState) :
    Extends ends (Here state) Goal.any (comparisonOrTest limit deeper?)
      (comparisonOrTest limit' deeper'?) state := by
  rw [comparisonOrTest_eq, comparisonOrTest_eq]
  refine .offset (fun _ _ h => h) ?_
  refine .bindOr completion ends_subset (extends_operand hlevels state)
    (fun us left next _ _ hus => ?_) (fun us left hus hne => ?_)
    (fun us left _ hleft rest stop hrest => ?_) fun _ h => h
  · exact (extends_afterOperand hlevels _ left next).mono (List.Subset.refl _) (fun _ h => h)
      ⟨fun _ h => Steady.of_append h, fun vs _ _ hnil => hus (List.append_eq_nil_iff.1 hnil).1,
        fun _ _ _ _ => trivial⟩
  · cases left with
    | literal value =>
      refine ⟨hus, fun ks rest hks => ?_, fun stop ks rest hks hrest => ?_⟩
      · obtain ⟨u, vs, rfl, hu, -⟩ := Filler.are_cons hks
        simp [nextOf, hu, Filler.token, operandEnds]
      · obtain ⟨u, vs, rfl, hu, hvs⟩ := Filler.are_cons hks
        obtain ⟨v, rfl, hv⟩ := Filler.are_singleton hvs
        obtain ⟨e, he⟩ := reads_afterSign_zero limit' deeper'? .eq (.literal value) hv rest u.stop
        refine ⟨e, v.stop, ?_, trivial⟩
        obtain ⟨_, start, ustop⟩ := u
        obtain rfl := hu
        exact he
    | _ => exact absurd rfl hne
  · exact ⟨left, stop, reads_afterOperand limit' deeper'? _ hleft.1
      (ne_comparison_of_mem_ends hrest) stop, trivial⟩

lemma reads_comparisonOrTest_current (hkeeps : ∀ deeper ∈ deeper?, Keeps Shrinks deeper)
    (limit : Nat)
    {t : Spanned} (ht : t.token = .current) {ts : List Spanned} (hts : nextOf ts ∈ ends)
    (stop : Nat) :
    Reads (comparisonOrTest limit deeper?) ⟨t :: ts, stop⟩ (.query .current []) ⟨ts, t.stop⟩ := by
  rw [comparisonOrTest_eq]
  exact .offset_bind fun position =>
    (reads_operand_current hkeeps limit ht (ends_subset hts) stop).bind
      (reads_afterOperand limit deeper? position (fun value h => by cases h)
        (ne_comparison_of_mem_ends hts) _)

/-! ## Expressions -/

/-- A negated operand that stands behind its sign. -/
def negated (limit : Nat) (deeper? : Option (Parser Expr)) : Parser Expr := do
  if (← peek) = some .leftParen then return .not (← parenthesized limit deeper?)
  else
    let position ← offset
    let e ← operand limit deeper?
    requireTest e position .testAfterNot
    return .not e

lemma extends_negated (hlevels : Levels deeper? deeper'?) (state : ParserState) :
    Extends ends (Here state) Goal.any (negated limit deeper?) (negated limit' deeper'?) state := by
  refine .peek (fun _ _ h => h) ?_
  by_cases hparen : nextOf state.tokens = some .leftParen
  · rw [if_pos hparen, if_pos hparen, bind_pure_comp, bind_pure_comp]
    exact (extends_parenthesized hlevels hparen).of_false.map (fun _ h => h) (fun _ _ h => h)
      fun _ _ _ h => h
  · rw [if_neg hparen, if_neg hparen]
    refine .offset (fun _ _ h => h) ?_
    refine ((extends_operand hlevels state).mono ends_subset (fun _ h => h) (.refl _)).bind
      (fun us e next _ _ hus => ?_) (fun us e _ he rest stop _ => ?_) fun us h => h
    · by_cases he : ∃ value, e = .literal value
      · obtain ⟨value, rfl⟩ := he
        exact .known rfl
      · rw [requireTest_eq fun value h => he ⟨value, h⟩, pure_bind]
        exact .pure (by simpa [Goal.after, Goal.any, Goal.operand] using hus)
    · rw [requireTest_eq he.1, pure_bind]
      exact ⟨_, stop, .pure _ _, trivial⟩

lemma reads_negated_current (hkeeps : ∀ deeper ∈ deeper?, Keeps Shrinks deeper) (limit : Nat)
    {t : Spanned}
    (ht : t.token = .current) {ts : List Spanned} (hts : nextOf ts ∈ ends) (stop : Nat) :
    Reads (negated limit deeper?) ⟨t :: ts, stop⟩ (.not (.query .current [])) ⟨ts, t.stop⟩ := by
  refine (reads_peek _).bind ?_
  rw [show (Cursor.mk (t :: ts) stop).next? = some .current from congrArg some ht,
    if_neg (by simp)]
  exact .offset_bind fun position =>
    (reads_operand_current hkeeps limit ht (ends_subset hts) stop).bind
      (.pure _ _)

lemma reads_basic_current (hkeeps : ∀ deeper ∈ deeper?, Keeps Shrinks deeper) (limit : Nat)
    {t : Spanned}
    (ht : t.token = .current) {ts : List Spanned} (hts : nextOf ts ∈ ends) (stop : Nat) :
    Reads (basic limit deeper?) ⟨t :: ts, stop⟩ (.query .current []) ⟨ts, t.stop⟩ := by
  have hnext : (Cursor.mk (t :: ts) stop).next? = some .current := congrArg some ht
  refine (reads_eat_of_ne (by simp [hnext])).bind ?_
  rw [if_neg (by simp)]
  refine (reads_peek _).bind ?_
  rw [hnext, if_neg (by simp)]
  exact reads_comparisonOrTest_current hkeeps limit ht hts stop

lemma extends_basic (hlevels : Levels deeper? deeper'?) (state : ParserState) :
    Extends ends (Here state) Goal.any (basic limit deeper?) (basic limit' deeper'?) state := by
  by_cases hnot : nextOf state.tokens = some .not
  · obtain ⟨t, ts, htokens, ht⟩ := exists_of_nextOf hnot
    refine .eatOr [.current] htokens ht (fun _ stop ks rest hks hrest => ?_) fun next _ => ?_
    · obtain ⟨u, rfl, hu⟩ := Filler.are_singleton hks
      exact ⟨_, _, reads_negated_current hlevels.keeps' limit' hu hrest stop, trivial⟩
    · rw [if_pos rfl, if_pos rfl]
      exact (extends_negated hlevels next).mono (List.Subset.refl _)
        (fun _ h => .inr ⟨by simp, h⟩) (Goal.any_entails_after _)
  · refine .eat_of_ne hnot (by simp [ends]) ?_
    rw [if_neg (by simp), if_neg (by simp)]
    refine .peek (fun _ _ h => h) ?_
    by_cases hparen : nextOf state.tokens = some .leftParen
    · rw [if_pos hparen, if_pos hparen]
      exact (extends_parenthesized hlevels hparen).of_false
    · rw [if_neg hparen, if_neg hparen]
      exact extends_comparisonOrTest hlevels state

section Chains

variable {operator : Token} {combine : Expr → Expr → Expr} {item item' : Parser Expr}

lemma readsFillers_chained (hoperator : some operator ∉ ends)
    (h : ReadsFillers ends item' [.current] fun _ => True) :
    ReadsFillers ends (chained operator combine item') [.current] fun _ => True := by
  intro stop ks rest hks hrest
  obtain ⟨e, stop', he, -⟩ := h stop ks rest hks hrest
  exact ⟨e, stop', (ReadsChain.single he).reads fun heq => hoperator (heq ▸ hrest), trivial⟩

lemma extends_chained (hoperator : some operator ∉ ends) (hkeeps : Keeps Shrinks item)
    (hkeeps' : Keeps Shrinks item') (hcurrent : ReadsFillers ends item' [.current] fun _ => True)
    (h : ∀ state, Extends ends (Here state) Goal.any item item' state) (state : ParserState) :
    Extends ends (Here state) Goal.any (chained operator combine item)
      (chained operator combine item') state := by
  have hitems := (Extends.separated operator ends [.current] hkeeps hkeeps' hoperator
    (fun us vs => Steady.of_append) h (by simp) hcurrent state).map
    (g := fun es => es.2.foldl combine es.1) (Q := Goal.any) (fun _ h => h)
    (fun us es => ne_nil_of_list)
    fun _ _ _ _ => trivial
  rw [map_eq_pure_bind, map_eq_pure_bind] at hitems
  exact hitems

end Chains

lemma readsFillers_expression (hkeeps : ∀ deeper ∈ deeper?, Keeps Shrinks deeper) (limit : Nat) :
    ReadsFillers ends (expression limit deeper?) [.current] fun _ => True := by
  refine readsFillers_chained (by simp [ends]) (readsFillers_chained (by simp [ends]) ?_)
  intro stop ks rest hks hrest
  obtain ⟨t, rfl, ht⟩ := Filler.are_singleton hks
  exact ⟨_, _, reads_basic_current hkeeps limit ht hrest stop, trivial⟩

theorem extends_expression (hlevels : Levels deeper? deeper'?) (state : ParserState) :
    Extends ends (Here state) Goal.any (expression limit deeper?) (expression limit' deeper'?)
      state := by
  have hbasic (limit : Nat) {deeper? : Option (Parser Expr)}
      (h : ∀ deeper ∈ deeper?, Keeps Shrinks deeper) := keeps_basic isKept_shrinks limit h
  have hand (limit : Nat) {deeper? : Option (Parser Expr)}
      (h : ∀ deeper ∈ deeper?, Keeps Shrinks deeper) :=
    keeps_chained isKept_shrinks .and .and (hbasic limit h)
  have hcurrent : ReadsFillers ends (basic limit' deeper'?) [.current] fun _ => True := by
    intro stop ks rest hks hrest
    obtain ⟨t, rfl, ht⟩ := Filler.are_singleton hks
    exact ⟨_, _, reads_basic_current hlevels.keeps' limit' ht hrest stop, trivial⟩
  exact extends_chained (by simp [ends]) (hand limit hlevels.keeps) (hand limit' hlevels.keeps')
    (readsFillers_chained (by simp [ends]) hcurrent)
    (extends_chained (by simp [ends]) (hbasic limit hlevels.keeps) (hbasic limit' hlevels.keeps')
      hcurrent (extends_basic hlevels)) state

/-! ## Literals are no tests -/

/-- The reader fails in that state. -/
def Fails (p : Parser α) (state : ParserState) : Prop :=
  ∃ failure next, p state = .error failure next

lemma Fails.bind {p : Parser α} {f : α → Parser β} (h : Fails p state) :
    Fails (p >>= f) state := by
  obtain ⟨failure, next, h⟩ := h
  exact ⟨failure, next, bind_of_error h⟩

lemma Fails.chained {operator : Token} {combine : Expr → Expr → Expr} {item : Parser Expr}
    (h : Fails item state) : Fails (chained operator combine item) state := h.bind.bind

lemma basic_of_literal (limit : Nat) (deeper? : Option (Parser Expr)) {t : Spanned}
    {ts : List Spanned} (htokens : state.tokens = t :: ts) (ht : t.token.isLiteral) :
    basic limit deeper? state =
      ((Expr.literal <$> literal) >>= afterOperand limit deeper? t.start) state := by
  obtain ⟨tokens, stop, textEnd, diagnostics⟩ := state
  obtain ⟨token, start, tstop⟩ := t
  subst htokens
  cases token <;> first | rfl | cases ht

/-- A literal is an expression only where a comparison sign comes next. -/
lemma fails_expression_of_literal (limit : Nat) (deeper? : Option (Parser Expr))
    (state : ParserState) {t : Spanned} {ts : List Spanned} (htokens : state.tokens = t :: ts)
    (ht : t.token.isLiteral) (hsign : ∀ op, nextOf ts ≠ some (.comparison op)) :
    Fails (expression limit deeper?) state := by
  refine Fails.chained (Fails.chained ?_)
  unfold Fails
  rw [basic_of_literal limit deeper? htokens ht, map_eq_pure_bind, bind_assoc]
  rcases literal_cases ht with ⟨value, hvalue⟩ | herror
  · obtain ⟨tokens, stop, textEnd, diagnostics⟩ := state
    subst htokens
    obtain ⟨diagnostics', hvalue⟩ := hvalue ts stop textEnd diagnostics
    rw [bind_of_ok hvalue, pure_bind, afterOperand_literal limit deeper? t.start value hsign]
    exact ⟨_, _, rfl⟩
  · obtain ⟨next, herror⟩ := herror htokens
    exact Fails.bind ⟨_, next, herror⟩

lemma readsTests_expression (hkeeps : ∀ deeper ∈ deeper?, Keeps Shrinks deeper) (limit : Nat) :
    ReadsTests (expression limit deeper?) where
  current := readsFillers_expression hkeeps limit
  literal {t ts stop e c} ht hts h := by
    obtain ⟨diagnostics, h⟩ := h 0 []
    obtain ⟨failure, next, herror⟩ := fails_expression_of_literal limit deeper?
      ⟨t :: ts, stop, 0, []⟩ rfl ht fun op hop => by simp [hop] at hts
    rw [h] at herror
    cases herror

end Calls

/-- The readers of every level are completed by those of one level more. -/
theorem levels_expressionWithin (limit limit' n : Nat) :
    Levels (expressionWithin limit n) (expressionWithin limit' (n + 1)) := by
  have hkeeps := keeps_expressionWithin isKept_shrinks
  induction n with
  | zero =>
    exact {
      keeps := hkeeps limit 0
      keeps' := hkeeps limit' 1
      next := ⟨_, rfl, readsTests_expression (hkeeps limit' 0) limit', fun _ h => nomatch h⟩ }
  | succ n ih =>
    refine {
      keeps := hkeeps limit (n + 1)
      keeps' := hkeeps limit' (n + 2)
      next := ⟨_, rfl, readsTests_expression (hkeeps limit' (n + 1)) limit', ?_⟩ }
    rintro _ ⟨⟩ state
    exact extends_expression ih state

end JsonPath.Parser
