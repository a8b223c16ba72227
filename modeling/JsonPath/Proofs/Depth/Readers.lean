import JsonPath.Proofs.Depth.Limits
import JsonPath.Proofs.Results
import JsonPath.Proofs.Spacing.Readers

/-!
# The limit of levels

A greater limit of levels changes nothing for a text that stays within the smaller one, and every
other text fails at the first token that goes beyond it (`Query.parse_limit`).  What counts are the
filters, parentheses and calls that are open at once, wherever they stand: those that have been
closed before do not add up.

The readers are gone through one by one.  `deeper?` and `deeper?'` are the readers of expressions
one level deeper, the second with more levels (`MoreLevels`), and `k` levels are open where the
readers of a section start.
-/

namespace JsonPath

namespace Parser

open Opening

variable {α β : Type} {d d' : Nat} {opened : List Opening} {state : ParserState}
  {Q : List Opening → Prop}

/-! ## Segments -/

lemma deepens_optionalInteger :
    Deepens d opened optionalInteger optionalInteger (· = opened) state := by
  refine .peek ?_
  split
  · rename_i hnext
    split
    · exact .advance hnext (Nat.le_refl _) fun _ _ => .pure rfl
    · exact deepens_failHere _
  · exact .pure rfl

lemma deepens_shorthand (what : Expectation) :
    Deepens d opened (shorthand what) (shorthand what) (· = opened) state := by
  refine .isAdjacent fun adjacent => ?_
  split
  · exact deepens_failAtStop _
  · refine .peek ?_
    split
    · rename_i hnext
      exact .advance hnext (Nat.le_refl _) fun _ _ => .pure rfl
    · rename_i token _ hnext
      split
      · rename_i name hname
        have hword : ∀ opened, behind opened token = opened := by
          cases token <;> first | exact fun _ => rfl | cases hname
        exact .advance hnext (Nat.le_of_eq (by rw [hword])) fun _ _ => .pure (hword opened)
      · exact deepens_failHere _
    · exact deepens_failHere _

lemma deepens_indexOrSlice :
    Deepens d opened indexOrSlice indexOrSlice (· = opened) state := by
  have hcolon : ∀ opened, levels (behind opened .colon) ≤ levels opened := fun _ => Nat.le_refl _
  refine deepens_optionalInteger.bind ?_
  rintro start next _ rfl
  refine .eat hcolon (fun next => ?_) fun _ => ?_
  · refine deepens_optionalInteger.bind ?_
    rintro stop next _ rfl
    refine .eat hcolon (fun next => ?_) fun _ => ?_
    · exact deepens_optionalInteger.bind fun step next _ hopened => .pure hopened
    · exact .pure rfl
  · cases start with
    | some i => exact .pure rfl
    | none => exact deepens_failHere _

section Filter

variable {k : Nat} {filter filter' : Parser Segment}
  (hfilter : ∀ opened state, levels opened = k → next? state = some .question →
    Deepens d opened filter filter' (· = .filter :: opened) state)
include hfilter

/-- A filter is still open behind its expression. -/
lemma deepens_selector (hk : levels opened = k) :
    Deepens d opened (selector filter) (selector filter')
      (fun opened' => opened' = opened ∨ opened' = .filter :: opened) state := by
  refine .peek ?_
  split
  · rename_i hnext
    exact .advance hnext (Nat.le_refl _) fun _ _ => .pure (.inl rfl)
  · rename_i hnext
    exact .advance hnext (Nat.le_refl _) fun _ _ => .pure (.inl rfl)
  · rename_i hnext
    exact (hfilter opened state hk hnext).imp fun _ => .inr
  · exact deepens_indexOrSlice.imp fun _ => .inl
  · exact deepens_indexOrSlice.imp fun _ => .inl
  · exact deepens_failHere _

lemma deepens_bracketed (hk : levels opened = k) (hnext : next? state = some .leftBracket) :
    Deepens d opened (bracketed filter) (bracketed filter') (· = opened) state := by
  refine .advance hnext (Nat.le_of_eq (levels_bracket opened)) fun next _ => ?_
  have hinner : levels (.bracket :: opened) = k := (levels_bracket opened).trans hk
  refine (deepens_separated levels_comma_le ?_ fun state => deepens_selector hfilter hinner).bind
    fun selectors next opened' hopened' => ?_
  · rintro _ (rfl | rfl) <;> rfl
  · refine .expect levels_rightBracket_le fun next => ?_
    have hclosed : behind opened' .rightBracket = opened := by
      rcases hopened' with rfl | rfl <;> rfl
    split
    · exact .pure hclosed
    · exact .pure hclosed

lemma deepens_segment? (hk : levels opened = k) :
    Deepens d opened (segment? filter) (segment? filter') (· = opened) state := by
  refine .peek ?_
  split
  · rename_i hnext
    refine .advance hnext (Nat.le_refl _) fun next _ => ?_
    exact .map some (deepens_shorthand _)
  · rename_i hnext
    refine .advance hnext (Nat.le_refl _) fun next _ => ?_
    refine .peek (.isAdjacent fun adjacent => ?_)
    split
    · rename_i hbracket
      simp only [Bool.and_eq_true, decide_eq_true_eq] at hbracket
      exact (deepens_bracketed hfilter hk hbracket.1).bind fun s next _ hopened => .pure hopened
    · exact (deepens_shorthand _).bind fun s next _ hopened => .pure hopened
  · rename_i hnext
    exact .map some (deepens_bracketed hfilter hk hnext)
  · exact .pure rfl

lemma deepens_segments (hk : levels opened = k) :
    Deepens d opened (segments filter) (segments filter') (· = opened) state := by
  refine deepens_many (fun opened' state hopened' => ?_) rfl
  subst hopened'
  exact deepens_segment? hfilter hk

end Filter

/-! ## Expressions -/

lemma deepens_literal {t : Token} (hnext : next? state = some t) (ht : t.isLiteral = true) :
    Deepens d opened literal literal (· = opened) state := by
  have hliteral : ∀ opened, behind opened t = opened := by
    cases t <;> first | exact fun _ => rfl | cases ht
  refine .offset fun position => .peek ?_
  refine .advance hnext (Nat.le_of_eq (by rw [hliteral])) fun next _ => ?_
  split
  · exact .pure (hliteral opened)
  · split
    · exact .pure (hliteral opened)
    · exact deepens_failAt _ _
  · exact .pure (hliteral opened)
  · exact .pure (hliteral opened)
  · exact .pure (hliteral opened)
  · exact deepens_failAt _ _

lemma deepens_requireComparable (e : Expr) (position : Nat) :
    Deepens d opened (requireComparable e position) (requireComparable e position) (· = opened)
      state := by
  unfold requireComparable
  split
  · split
    · exact .pure rfl
    · exact deepens_failAt _ _
  · exact .pure rfl

lemma deepens_requireTest (e : Expr) (position : Nat) (what : Expectation) :
    Deepens d opened (requireTest e position what) (requireTest e position what) (· = opened)
      state := by
  unfold requireTest
  split
  · exact deepens_failAt _ _
  · exact .pure rfl

/-- The readers one level deeper than `k` levels, where there are `d` levels for the first of
them. -/
inductive MoreLevels (d k : Nat) : Option (Parser Expr) → Option (Parser Expr) → Prop
  | none {deeper?' : Option (Parser Expr)} (h : d ≤ k) : MoreLevels d k none deeper?'
  | some {deeper deeper' : Parser Expr} (h : k < d)
      (hdeeper : ∀ inner state, levels inner = k + 1 →
        Deepens d inner deeper deeper' (· = inner) state) :
      MoreLevels d k (some deeper) (some deeper')

section Expressions

variable {k : Nat} {deeper? deeper?' : Option (Parser Expr)}
  (hdeeper : MoreLevels d k deeper? deeper?') (hk : levels opened = k)
include hdeeper hk

/-- Goes one level deeper at a token that opens a level. -/
lemma deepens_enter {t : Token} (hnext : next? state = some t)
    (hopens : levels (behind opened t) = levels opened + 1)
    {f f' : Nat → Parser Expr → Parser β}
    (hf : ∀ position deeper deeper' next,
      (∀ inner state, levels inner = k + 1 → Deepens d inner deeper deeper' (· = inner) state) →
      Deepens d (behind opened t) (f position deeper) (f' position deeper') Q next) :
    Deepens d opened
      (do
        let position ← offset
        advance
        let deeper ← enter d deeper? position
        f position deeper)
      (do
        let position ← offset
        advance
        let deeper ← enter d' deeper?' position
        f' position deeper)
      Q state := by
  obtain ⟨tokens, stop, textEnd, diagnostics⟩ := state
  obtain ⟨u, ts, rfl, rfl⟩ := exists_of_next? hnext
  intro hlevels
  cases hdeeper with
  | none h =>
    have hbeyond : d < levels (behind opened u.token) := by omega
    exact .tooDeep (.here hlevels hbeyond)
  | @some deeper deeper' h hdeeper =>
    have hbehind : levels (behind opened u.token) ≤ d := by omega
    have hrest := hf u.start deeper deeper' ⟨ts, u.stop, textEnd, diagnostics⟩ hdeeper hbehind
    exact hrest.after (.single hlevels hbehind)

/-- The expression of a filter leaves the filter open. -/
lemma deepens_filter {finish : Nat → Expr → Parser Unit}
    (hfinish : ∀ position test, Keeps SameTokens (finish position test))
    (hnext : next? state = some .question) :
    Deepens d opened (filter d deeper? finish) (filter d' deeper?' finish)
      (· = .filter :: opened) state := by
  refine deepens_enter hdeeper hk hnext (levels_filter opened)
    fun position deeper deeper' next hdeeper => ?_
  refine (hdeeper _ _ ((levels_filter opened).trans (congrArg (· + 1) hk))).bind ?_
  rintro test next _ rfl
  have hsame : Deepens d (.filter :: opened) (finish position test) (finish position test)
      (· = .filter :: opened) next := (hfinish position test).deepens rfl
  exact hsame.bind fun _ next _ hopened => .pure hopened

lemma deepens_parenthesized (hnext : next? state = some .leftParen) :
    Deepens d opened (parenthesized d deeper?) (parenthesized d' deeper?') (· = opened) state := by
  refine deepens_enter hdeeper hk hnext (levels_paren opened)
    fun position deeper deeper' next hdeeper => ?_
  refine (hdeeper _ _ ((levels_paren opened).trans (congrArg (· + 1) hk))).bind ?_
  rintro e next _ rfl
  exact .expect levels_rightParen_le fun next => .pure (close_self .paren opened)

lemma deepens_embedded {anchor : Anchor} {t : Token} (hnext : next? state = some t)
    (ht : behind opened t = opened) :
    Deepens d opened (embedded d deeper? anchor) (embedded d' deeper?' anchor) (· = opened)
      state := by
  refine .advance hnext (Nat.le_of_eq (by rw [ht])) fun next _ => ?_
  rw [ht]
  have hfilter : ∀ opened state, levels opened = k → next? state = some .question →
      Deepens d opened (filter d deeper? fun _ _ => pure ())
        (filter d' deeper?' fun _ _ => pure ()) (· = .filter :: opened) state :=
    fun opened state hk hnext => deepens_filter hdeeper hk (fun _ _ _ => rfl) hnext
  exact (deepens_segments hfilter hk).bind fun ss next _ hopened => .pure hopened

omit hdeeper hk in
lemma deepens_argument {deeper deeper' : Parser Expr}
    (hdeeper : ∀ state, Deepens d opened deeper deeper' (· = opened) state) :
    Deepens d opened (argument deeper) (argument deeper') (· = opened) state := by
  refine .peek ?_
  split
  · rename_i token hnext
    refine .peekSecond ?_
    split
    · rename_i halone
      simp only [Bool.and_eq_true] at halone
      exact (deepens_literal hnext halone.1).bind fun value next _ hopened => .pure hopened
    · exact hdeeper state
  · exact hdeeper state

omit hdeeper hk in
lemma deepens_arguments {deeper deeper' : Parser Expr}
    (hdeeper : ∀ state, Deepens d (.paren :: opened) deeper deeper' (· = .paren :: opened) state) :
    Deepens d (.paren :: opened) (arguments deeper) (arguments deeper') (· = .paren :: opened)
      state := by
  refine .peek ?_
  split
  · exact .pure rfl
  · refine (deepens_separated levels_comma_le ?_ fun state => deepens_argument hdeeper).bind
      fun items next _ hopened => .pure hopened
    rintro _ rfl
    rfl

lemma deepens_call {name : String} (hnext : next? state = some (.name name))
    (hparen : state.tokens.tail.head?.map Spanned.token = some .leftParen) :
    Deepens d opened (call d deeper? name) (call d' deeper?' name) (· = opened) state := by
  unfold call
  split
  · exact deepens_failHere _
  · refine .advance hnext (Nat.le_refl _) fun next htail => ?_
    refine .isAdjacent fun adjacent => ?_
    split
    · exact deepens_failAtStop _
    · have hnext : next? next = some .leftParen := by rw [next?, htail, hparen]
      refine deepens_enter hdeeper hk hnext (levels_paren opened)
        fun position deeper deeper' next hdeeper => ?_
      have hinner : levels (.paren :: opened) = k + 1 :=
        (levels_paren opened).trans (congrArg (· + 1) hk)
      refine (deepens_arguments fun state => hdeeper _ state hinner).bind ?_
      rintro items next _ rfl
      exact .expect levels_rightParen_le fun next => .pure (close_self .paren opened)

lemma deepens_operand :
    Deepens d opened (operand d deeper?) (operand d' deeper?') (· = opened) state := by
  refine .peek ?_
  split
  · rename_i hnext
    exact deepens_embedded hdeeper hk hnext rfl
  · rename_i hnext
    exact deepens_embedded hdeeper hk hnext rfl
  · rename_i token _ _ hnext
    split
    · refine .peekSecond ?_
      split
      · rename_i hparen
        exact deepens_call hdeeper hk hnext hparen
      · exact deepens_failHere _
    · split
      · rename_i hliteral
        exact (deepens_literal hnext hliteral).bind fun value next _ hopened => .pure hopened
      · exact deepens_failHere _
  · exact deepens_failHere _

lemma deepens_comparisonOrTest :
    Deepens d opened (comparisonOrTest d deeper?) (comparisonOrTest d' deeper?') (· = opened)
      state := by
  refine .offset fun leftPosition => ?_
  refine (deepens_operand hdeeper hk).bind ?_
  rintro left next _ rfl
  refine .peek ?_
  split
  · rename_i op hnext
    refine .advance hnext (Nat.le_refl _) fun next _ => ?_
    refine (deepens_requireComparable left leftPosition).bind ?_
    rintro - next _ rfl
    refine .offset fun rightPosition => ?_
    refine (deepens_operand hdeeper hk).bind ?_
    rintro right next _ rfl
    exact (deepens_requireComparable right rightPosition).bind
      fun _ next _ hopened => .pure hopened
  · refine .offset fun position => ?_
    exact (deepens_requireTest left position _).bind fun _ next _ hopened => .pure hopened

lemma deepens_basic :
    Deepens d opened (basic d deeper?) (basic d' deeper?') (· = opened) state := by
  refine .eat (fun _ => Nat.le_refl _) (fun next => .peek ?_) fun _ => .peek ?_
  · split
    · rename_i hnext
      exact (deepens_parenthesized hdeeper hk hnext).bind fun e next _ hopened => .pure hopened
    · refine .offset fun position => ?_
      refine (deepens_operand hdeeper hk).bind ?_
      rintro e next _ rfl
      exact (deepens_requireTest e position _).bind fun _ next _ hopened => .pure hopened
  · split
    · rename_i hnext
      exact deepens_parenthesized hdeeper hk hnext
    · exact deepens_comparisonOrTest hdeeper hk

lemma deepens_expression :
    Deepens d opened (expression d deeper?) (expression d' deeper?') (· = opened) state :=
  deepens_chained (fun _ => rfl) _
    (fun state => deepens_chained (fun _ => rfl) _ (fun _ => deepens_basic hdeeper hk) state)
    state

end Expressions

/-- The expressions of `n` further levels, with and without more levels. -/
lemma moreLevels_expressionWithin (d' n : Nat) : ∀ k, k + n = d →
    MoreLevels d k (expressionWithin d n) (expressionWithin d' (n + (d' - d))) := by
  induction n with
  | zero => exact fun k hk => .none (Nat.le_of_eq hk.symm)
  | succ n ih =>
    intro k hk
    rw [Nat.succ_add]
    have hmore := ih (k + 1) (by omega)
    exact .some (by omega) fun inner state hinner => deepens_expression hmore hinner

/-! ## Whole queries -/

lemma deepens_query (r : Registry) (strict : Bool) (hle : d ≤ d') (state : ParserState) :
    Deepens d [] (query r ⟨d, strict⟩) (query r ⟨d', strict⟩) (fun _ => True) state := by
  have hmore : MoreLevels d 0 (expressionWithin d d) (expressionWithin d' d') := by
    have h := moreLevels_expressionWithin d' d 0 (Nat.zero_add d)
    rwa [Nat.add_sub_of_le hle] at h
  have hfilter : ∀ opened state, levels opened = 0 → next? state = some .question →
      Deepens d opened (filter d (expressionWithin d d) (checkFilter r strict))
        (filter d' (expressionWithin d' d') (checkFilter r strict)) (· = .filter :: opened) state :=
    fun opened state hk hnext => deepens_filter hmore hk (sameTokens_checkFilter r strict) hnext
  refine .offset fun position => .peek ?_
  split
  · exact deepens_failAt _ _
  · rename_i hstart
    have hroot : next? state = some .root := by
      simp only [Bool.not_eq_true, Bool.not_eq_false', Bool.and_eq_true, beq_iff_eq] at hstart
      exact hstart.2
    refine .advance hroot (Nat.le_refl _) fun next _ => ?_
    refine (deepens_segments hfilter rfl).bind ?_
    rintro ss next _ rfl
    refine .peek ?_
    split
    · exact deepens_failHere _
    · refine .isAdjacent fun adjacent => ?_
      split
      · exact deepens_failAtStop _
      · exact .pure trivial

end Parser

/-! ## Texts -/

namespace Query

open Opening

variable {r : Registry} {strict : Bool} {text : String} {d d' : Nat}

/-- The ways in which a text ends with `d` levels and with more of them: it is read within `d`
levels, it fails in the same way, or it has a first token beyond `d` levels. -/
inductive Limited (r : Registry) (strict : Bool) (text : String) (d d' : Nat) : Prop
  | read {tokens : List Spanned} {q : Query} (hscan : Token.scanAll text = .ok tokens)
      (hsame : parse r ⟨d', strict⟩ text = parse r ⟨d, strict⟩ text)
      (hread : (parse r ⟨d, strict⟩ text).1 = .ok q)
      (hlevels : deepest [] (tokens.map Spanned.token) ≤ d)
  | failed {e : Failure} (hsame : parse r ⟨d', strict⟩ text = parse r ⟨d, strict⟩ text)
      (hfailed : (parse r ⟨d, strict⟩ text).1 = .error e)
  | tooDeep {tokens : List Spanned} {t : Spanned} (hscan : Token.scanAll text = .ok tokens)
      (hexceeds : Exceeds d t [] tokens)
      (hfailed : (parse r ⟨d, strict⟩ text).1 = .error ⟨t.start, .tooDeep d⟩)

lemma limited (r : Registry) (strict : Bool) (text : String) (hle : d ≤ d') :
    Limited r strict text d d' := by
  cases hscan : Token.scanAll text with
  | error e => exact .failed (e := e) (by simp [parse, hscan]) (by simp [parse, hscan])
  | ok tokens =>
    have h := Parser.deepens_query r strict hle ⟨tokens, 0, text.utf8ByteSize, []⟩ (Nat.zero_le d)
    generalize hread : Parser.query r ⟨d, strict⟩ ⟨tokens, 0, text.utf8ByteSize, []⟩ = result,
      hread' : Parser.query r ⟨d', strict⟩ ⟨tokens, 0, text.utf8ByteSize, []⟩ = result' at h
    cases h with
    | @read q last opened' hpasses hopened =>
      obtain ⟨-, -, -, -, -, -, -, hlast, -⟩ := Parser.query_eq_ok_iff.1 hread
      rw [hlast] at hpasses
      exact .read hscan (by simp [parse, hscan, EStateM.run, hread, hread'])
        (q := q) (by simp [parse, hscan, EStateM.run, hread]) hpasses.deepest_le
    | @failed e last =>
      exact .failed (e := e) (by simp [parse, hscan, EStateM.run, hread, hread'])
        (by simp [parse, hscan, EStateM.run, hread])
    | tooDeep hexceeds =>
      exact .tooDeep hscan hexceeds (by simp [parse, hscan, EStateM.run, hread])

/-- A greater limit of levels changes nothing unless the smaller one is reached.  Of the texts that
the greater one accepts, the smaller one accepts those in which no more levels are open at once, and
refuses the others at the sign that opens the first level too many. -/
theorem parse_limit (r : Registry) (strict : Bool) (text : String) {d d' : Nat} (hle : d ≤ d') :
    ((∀ position limit, (parse r ⟨d, strict⟩ text).1 ≠ .error ⟨position, .tooDeep limit⟩) →
      parse r ⟨d', strict⟩ text = parse r ⟨d, strict⟩ text) ∧
    ∀ q, (parse r ⟨d', strict⟩ text).1 = .ok q →
      ∃ tokens, Token.scanAll text = .ok tokens ∧
        ((∃ q', (parse r ⟨d, strict⟩ text).1 = .ok q') ↔
          deepest [] (tokens.map Spanned.token) ≤ d) ∧
        (d < deepest [] (tokens.map Spanned.token) →
          ∃ left t right, tokens = left ++ t :: right ∧
            (t.token = .question ∨ t.token = .leftParen) ∧
            deepest [] (left.map Spanned.token) ≤ d ∧
            levels (((left ++ [t]).map Spanned.token).foldl behind []) = d + 1 ∧
            (parse r ⟨d, strict⟩ text).1 = .error ⟨t.start, .tooDeep d⟩) := by
  cases limited r strict text hle with
  | @read tokens q hscan hsame hread hlevels =>
    refine ⟨fun _ => hsame, fun _ _ => ⟨tokens, hscan, ?_, ?_⟩⟩
    · exact ⟨fun _ => hlevels, fun _ => ⟨q, hread⟩⟩
    · exact fun hbeyond => absurd hlevels (Nat.not_le_of_lt hbeyond)
  | failed hsame hfailed =>
    refine ⟨fun _ => hsame, fun q hread => ?_⟩
    rw [hsame, hfailed] at hread
    cases hread
  | @tooDeep tokens t hscan hexceeds hfailed =>
    refine ⟨fun h => absurd hfailed (h _ _), fun _ _ => ⟨tokens, hscan, ?_, fun _ => ?_⟩⟩
    · constructor
      · rintro ⟨q', hread⟩
        rw [hfailed] at hread
        cases hread
      · exact fun hwithin => absurd hwithin (Nat.not_le_of_lt hexceeds.lt_deepest)
    · obtain ⟨left, right, htokens, hopens, hleft, hlevels⟩ := hexceeds.exists_split
      exact ⟨left, t, right, htokens, hopens, hleft, hlevels, hfailed⟩

/-- A query with a filter that is closed before the next one opens, and a filter inside a call. -/
def siblings : Query :=
  ⟨.root, [.union
    [.filter (.query .current [.key "a"]),
     .filter (.compare .eq (.call "count" [.query .current [.filter (.query .current [.key "b"])]])
       (.literal .null))]]⟩

/-- Four levels are opened in all and three of them are open at once: two levels are too few, and
more than three change nothing. -/
theorem parse_limit_siblings :
    (∃ position, (parse .standard ⟨2, false⟩ "$[?@.a,?count(@[?@.b])==null]").1 =
      .error ⟨position, .tooDeep 2⟩) ∧
    parse .standard ⟨1024, false⟩ "$[?@.a,?count(@[?@.b])==null]" =
      parse .standard ⟨3, false⟩ "$[?@.a,?count(@[?@.b])==null]" := by
  have hscan : Token.scanAll "$[?@.a,?count(@[?@.b])==null]" =
      .ok [⟨.root, 0, 1⟩, ⟨.leftBracket, 1, 2⟩, ⟨.question, 2, 3⟩, ⟨.current, 3, 4⟩, ⟨.dot, 4, 5⟩,
        ⟨.name "a", 5, 6⟩, ⟨.comma, 6, 7⟩, ⟨.question, 7, 8⟩, ⟨.name "count", 8, 13⟩,
        ⟨.leftParen, 13, 14⟩, ⟨.current, 14, 15⟩, ⟨.leftBracket, 15, 16⟩, ⟨.question, 16, 17⟩,
        ⟨.current, 17, 18⟩, ⟨.dot, 18, 19⟩, ⟨.name "b", 19, 20⟩, ⟨.rightBracket, 20, 21⟩,
        ⟨.rightParen, 21, 22⟩, ⟨.comparison .eq, 22, 24⟩, ⟨.null, 24, 28⟩,
        ⟨.rightBracket, 28, 29⟩] :=
    eq_ok_of_toOption (by decide +kernel)
  have hread : (parse .standard ⟨3, false⟩ "$[?@.a,?count(@[?@.b])==null]").1 = .ok siblings := by
    rw [parse, hscan]
    rfl
  constructor
  · obtain ⟨-, hlevels⟩ :=
      parse_limit .standard false "$[?@.a,?count(@[?@.b])==null]" (show 2 ≤ 3 by decide)
    obtain ⟨tokens, htokens, -, hbeyond⟩ := hlevels siblings hread
    cases hscan.symm.trans htokens
    obtain ⟨-, t, -, -, -, -, -, hfailed⟩ := hbeyond (by decide)
    exact ⟨t.start, hfailed⟩
  · refine (parse_limit .standard false _ (show 3 ≤ 1024 by decide)).1 fun position limit => ?_
    rw [hread]
    exact nofun

end Query

end JsonPath
