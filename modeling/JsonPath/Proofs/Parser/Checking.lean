import JsonPath.Proofs.Parser.Progress
import JsonPath.Proofs.Results

/-!
# Checks while reading and checks afterwards

The parser checks each outermost filter as soon as it is complete; `Registry.checkQuery` walks over
the finished query.  `Query.parse_lenient_strict` says that the two agree: what lenient reading
reports is what the walk finds, in the same order, and strict reading accepts a text exactly when
lenient reading does and the walk finds nothing.

Both configurations run the same readers and differ in the step that finishes an outermost filter.
`Parser.Checks lenient strict Q` compares two readers state by state: `Q` relates the value of the
lenient one to what it has reported, and the strict one has the same result as long as that is
nothing and fails otherwise, without a report in either case.
-/

namespace JsonPath

/-- The checks of segments one after the other. -/
lemma Registry.diagnostics_checkSegments (r : Registry) (ss : List Segment) :
    (r.checkSegments ss).diagnostics = ss.flatMap fun s => (r.checkSegment s).diagnostics := by
  induction ss with
  | nil => rfl
  | cons s rest ih => simp [Registry.checkSegments, ih]

namespace Parser

/-- A reader fails in a state and reports nothing. -/
def FailsQuietly {α : Type} (p : Parser α) (state : ParserState) : Prop :=
  ∃ e state', p state = .error e state' ∧ state'.diagnostics = state.diagnostics

/-- How a strict reader compares with a result of the lenient one in the same state. -/
inductive Checked {α : Type} (strict : Parser α) (Q : α → List Diagnostic → Prop)
    (state : ParserState) : EStateM.Result Failure ParserState α → Prop
  /-- Nothing is found, and the results are the same. -/
  | silent {x : α} {state' : ParserState} (hvalue : Q x [])
      (hquiet : state'.diagnostics = state.diagnostics) (hstrict : strict state = .ok x state') :
      Checked strict Q state (.ok x state')
  /-- Something is found: it is reported or makes the reader fail. -/
  | warned {x : α} {state' : ParserState} {first : Diagnostic} {others : List Diagnostic}
      (hvalue : Q x (first :: others))
      (hreport : state'.diagnostics = state.diagnostics ++ first :: others)
      (hstrict : FailsQuietly strict state) : Checked strict Q state (.ok x state')
  | failed {e : Failure} {state' : ParserState} (hstrict : FailsQuietly strict state) :
      Checked strict Q state (.error e state')

/-- In every state, the lenient reader reports what `Q` relates to its value, and the strict one
agrees with it where that is nothing and fails elsewhere. -/
def Checks {α : Type} (lenient strict : Parser α) (Q : α → List Diagnostic → Prop) : Prop :=
  ∀ state, Checked strict Q state (lenient state)

variable {α β : Type} {lenient strict : Parser α}

/-! ## Sequences -/

lemma FailsQuietly.bind {state : ParserState} (h : FailsQuietly strict state)
    (f : α → Parser β) : FailsQuietly (strict >>= f) state := by
  obtain ⟨e, state', hstrict, hquiet⟩ := h
  exact ⟨e, state', bind_of_error hstrict, hquiet⟩

lemma FailsQuietly.of_bind {f : α → Parser β} {state state' : ParserState} {x : α}
    (hstrict : strict state = .ok x state') (hquiet : state'.diagnostics = state.diagnostics)
    (h : FailsQuietly (f x) state') : FailsQuietly (strict >>= f) state := by
  obtain ⟨e, state'', hf, hquiet'⟩ := h
  exact ⟨e, state'', by rw [bind_of_ok hstrict, hf], hquiet'.trans hquiet⟩

/-- A reader that reports nothing agrees with itself. -/
lemma Checks.of_quiet {p : Parser α} (h : Keeps Quiet p) {Q : α → List Diagnostic → Prop}
    (hQ : ∀ x, Q x []) : Checks p p Q := by
  intro state
  have hquiet := h state
  unfold after at hquiet
  cases hp : p state with
  | ok x state' =>
    rw [hp] at hquiet
    exact .silent (hQ x) hquiet hp
  | error e state' =>
    rw [hp] at hquiet
    exact .failed ⟨e, state', hp, hquiet⟩

lemma Checks.pure {x : α} {Q : α → List Diagnostic → Prop} (h : Q x []) :
    Checks (pure x) (pure x) Q := fun _ => .silent h rfl rfl

/-- What two readers report one after the other is reported by their sequence. -/
lemma Checks.bind {f g : α → Parser β} {P : α → List Diagnostic → Prop}
    {Q : β → List Diagnostic → Prop} (hp : Checks lenient strict P)
    (hf : ∀ x found, P x found → Checks (f x) (g x) fun y found' => Q y (found ++ found')) :
    Checks (lenient >>= f) (strict >>= g) Q := by
  intro state
  have hp := hp state
  cases hlenient : lenient state with
  | error e state' =>
    rw [hlenient] at hp
    rw [bind_of_error hlenient]
    cases hp with
    | failed hstrict => exact .failed (hstrict.bind g)
  | ok x state' =>
    rw [hlenient] at hp
    rw [bind_of_ok hlenient]
    cases hp with
    | silent hvalue hquiet hstrict =>
      have hnext := hf x [] hvalue state'
      cases hy : f x state' with
      | error e state'' =>
        rw [hy] at hnext
        cases hnext with
        | failed hfail => exact .failed (.of_bind hstrict hquiet hfail)
      | ok y state'' =>
        rw [hy] at hnext
        cases hnext with
        | silent hvalue' hquiet' hstrict' =>
          exact .silent hvalue' (hquiet'.trans hquiet) (by rw [bind_of_ok hstrict, hstrict'])
        | warned hvalue' hreport hfail =>
          exact .warned hvalue' (by rw [hreport, hquiet]) (.of_bind hstrict hquiet hfail)
    | warned hvalue hreport hfail =>
      -- The strict reader has failed, whatever the lenient one does next.
      have hnext := hf x _ hvalue state'
      cases hy : f x state' with
      | error e state'' => exact .failed (hfail.bind g)
      | ok y state'' =>
        rw [hy] at hnext
        cases hnext with
        | silent hvalue' hquiet' _ =>
          rw [List.append_nil] at hvalue'
          exact .warned hvalue' (hquiet'.trans hreport) (hfail.bind g)
        | warned hvalue' hreport' _ =>
          refine .warned hvalue' ?_ (hfail.bind g)
          rw [hreport', hreport, List.append_assoc]
          rfl

lemma Checks.quiet_bind {p : Parser α} {f g : α → Parser β} {Q : β → List Diagnostic → Prop}
    (hp : Keeps Quiet p) (hf : ∀ x, Checks (f x) (g x) Q) : Checks (p >>= f) (p >>= g) Q := by
  refine (Checks.of_quiet hp (Q := fun _ found => found = []) fun _ => rfl).bind ?_
  rintro x found rfl
  exact hf x

lemma Checks.map {p p' : Parser α} {P : α → List Diagnostic → Prop}
    {Q : β → List Diagnostic → Prop} (g : α → β) (hp : Checks p p' P)
    (hg : ∀ x found, P x found → Q (g x) found) : Checks (g <$> p) (g <$> p') Q := by
  rw [map_eq_pure_bind, map_eq_pure_bind]
  refine hp.bind fun x found hfound => .pure ?_
  rw [List.append_nil]
  exact hg x found hfound

lemma checks_failAt (position : Nat) (what : Expectation) {Q : α → List Diagnostic → Prop} :
    Checks (failAt position what) (failAt position what) Q :=
  fun state => .failed ⟨_, state, rfl, rfl⟩

lemma checks_failHere (what : Expectation) {Q : α → List Diagnostic → Prop} :
    Checks (failHere what) (failHere what) Q :=
  fun state => .failed ⟨_, state, rfl, rfl⟩

lemma checks_failAtStop (what : Expectation) {Q : α → List Diagnostic → Prop} :
    Checks (do failAt (← previousStop) what) (do failAt (← previousStop) what) Q :=
  fun state => .failed ⟨_, state, rfl, rfl⟩

/-! ## Repetition -/

/-- A repeated step reports what the single steps do, one after the other. -/
lemma checks_repeatUpTo {step step' : Parser (Option α)} (checked : α → List Diagnostic)
    (hstep : Checks step step' fun x? found => found = (x?.map checked).getD []) (fuel : Nat) :
    Checks (repeatUpTo step fuel) (repeatUpTo step' fuel)
      fun xs found => found = xs.flatMap checked := by
  induction fuel with
  | zero => exact .pure rfl
  | succ fuel ih =>
    refine hstep.bind ?_
    rintro x? found rfl
    cases x? with
    | none => exact .pure rfl
    | some x =>
      refine ih.bind ?_
      rintro xs found rfl
      exact .pure (by simp)

lemma checks_many {step step' : Parser (Option α)} (checked : α → List Diagnostic)
    (hstep : Checks step step' fun x? found => found = (x?.map checked).getD []) :
    Checks (many step) (many step') fun xs found => found = xs.flatMap checked :=
  Checks.quiet_bind (p := get) isForward_quiet.refl fun state =>
    checks_repeatUpTo checked hstep state.tokens.length

lemma checks_separated (separator : Token) {item item' : Parser α}
    (checked : α → List Diagnostic)
    (hitem : Checks item item' fun x found => found = checked x) :
    Checks (separated separator item) (separated separator item')
      fun xs found => found = (xs.1 :: xs.2).flatMap checked := by
  have hstep : Checks
      (do if ← eat separator then some <$> item else return none)
      (do if ← eat separator then some <$> item' else return none)
      fun x? found => found = (x?.map checked).getD [] := by
    refine Checks.quiet_bind (keeps_eat isKept_quiet separator) fun more => ?_
    split
    · exact hitem.map some fun _ _ h => h
    · exact .pure rfl
  refine hitem.bind ?_
  rintro first found rfl
  refine (checks_many checked hstep).bind ?_
  rintro others found rfl
  exact .pure (by simp)

/-! ## Filters and segments -/

section Segments

variable (r : Registry)

/-- The step that finishes a filter reports what is found, or fails with the first of it. -/
lemma checks_checkFilter (position : Nat) (test : Expr) :
    Checks (checkFilter r false position test) (checkFilter r true position test)
      fun _ found => found = (r.checkTest test).diagnostics := by
  intro state
  show Checked _ _ state
    (.ok () { state with diagnostics := state.diagnostics ++ (r.checkTest test).diagnostics })
  cases h : (r.checkTest test).diagnostics with
  | nil =>
    have hstate : { state with diagnostics := state.diagnostics ++ [] } = state := by
      rw [List.append_nil]
    rw [hstate]
    exact .silent rfl rfl (by unfold checkFilter; rw [h]; rfl)
  | cons first others =>
    exact .warned rfl rfl ⟨_, state, by unfold checkFilter; rw [h]; rfl, rfl⟩

lemma checks_filter (limit levels : Nat) :
    Checks (filter limit (expressionWithin limit levels) (checkFilter r false))
      (filter limit (expressionWithin limit levels) (checkFilter r true))
      fun s found => found = (r.checkSegment s).diagnostics := by
  refine Checks.quiet_bind (p := offset) isForward_quiet.refl fun position => ?_
  refine Checks.quiet_bind isKept_quiet.advance fun _ => ?_
  cases hdeeper : expressionWithin limit levels with
  | none => exact fun state => .failed ⟨_, state, rfl, rfl⟩
  | some deeper =>
    have hquiet := keeps_expressionWithin isKept_quiet limit levels deeper hdeeper
    show Checks (deeper >>= _) (deeper >>= _) _
    refine Checks.quiet_bind hquiet fun test => ?_
    refine (checks_checkFilter r position test).bind ?_
    rintro - found rfl
    exact .pure (List.append_nil _)

lemma checks_shorthand (what : Expectation) :
    Checks (shorthand what) (shorthand what)
      fun s found => found = (r.checkSegment s).diagnostics := by
  refine Checks.quiet_bind (keeps_isAdjacent isKept_quiet) fun adjacent => ?_
  split
  · exact checks_failAtStop _
  · refine Checks.quiet_bind (keeps_peek isKept_quiet) fun next => ?_
    split
    · exact Checks.quiet_bind isKept_quiet.advance fun _ => .pure rfl
    · split
      · exact Checks.quiet_bind isKept_quiet.advance fun _ => .pure rfl
      · exact checks_failHere _
    · exact checks_failHere _

lemma checks_indexOrSlice :
    Checks indexOrSlice indexOrSlice
      fun s found => found = (r.checkSegment s).diagnostics := by
  have hinteger := keeps_optionalInteger isKept_quiet
  have hcolon := keeps_eat isKept_quiet .colon
  refine Checks.quiet_bind hinteger fun start => ?_
  refine Checks.quiet_bind hcolon fun colon => ?_
  split
  · refine Checks.quiet_bind hinteger fun stop => ?_
    refine Checks.quiet_bind hcolon fun colon => ?_
    split
    · exact Checks.quiet_bind hinteger fun _ => .pure rfl
    · exact .pure rfl
  · split
    · exact .pure rfl
    · exact checks_failHere _

variable {filter filter' : Parser Segment}
variable (hfilter : Checks filter filter' fun s found => found = (r.checkSegment s).diagnostics)
include hfilter

lemma checks_selector :
    Checks (selector filter) (selector filter')
      fun s found => found = (r.checkSegment s).diagnostics := by
  refine Checks.quiet_bind (keeps_peek isKept_quiet) fun next => ?_
  split
  · exact Checks.quiet_bind isKept_quiet.advance fun _ => .pure rfl
  · exact Checks.quiet_bind isKept_quiet.advance fun _ => .pure rfl
  · exact hfilter
  · exact checks_indexOrSlice r
  · exact checks_indexOrSlice r
  · exact checks_failHere _

lemma checks_bracketed :
    Checks (bracketed filter) (bracketed filter')
      fun s found => found = (r.checkSegment s).diagnostics := by
  have hselectors := checks_separated .comma (fun s => (r.checkSegment s).diagnostics)
    (checks_selector r hfilter)
  refine Checks.quiet_bind isKept_quiet.advance fun _ => ?_
  refine hselectors.bind ?_
  rintro ⟨first, others⟩ found rfl
  refine Checks.quiet_bind (keeps_expect isKept_quiet _ _) fun _ => ?_
  cases others with
  | nil => exact .pure (by simp)
  | cons second others =>
    refine .pure ?_
    rw [Registry.checkSegment, Registry.diagnostics_checkSegments, List.append_nil]

lemma checks_segment? :
    Checks (segment? filter) (segment? filter')
      fun s? found => found = (s?.map fun s => (r.checkSegment s).diagnostics).getD [] := by
  refine Checks.quiet_bind (keeps_peek isKept_quiet) fun next => ?_
  split
  · refine Checks.quiet_bind isKept_quiet.advance fun _ => ?_
    exact (checks_shorthand r _).map some fun _ _ h => h
  · refine Checks.quiet_bind isKept_quiet.advance fun _ => ?_
    refine Checks.quiet_bind (keeps_peek isKept_quiet) fun bracket => ?_
    refine Checks.quiet_bind (keeps_isAdjacent isKept_quiet) fun adjacent => ?_
    split
    · refine (checks_bracketed r hfilter).bind ?_
      rintro s found rfl
      exact .pure (List.append_nil _)
    · refine (checks_shorthand r _).bind ?_
      rintro s found rfl
      exact .pure (List.append_nil _)
  · exact (checks_bracketed r hfilter).map some fun _ _ h => h
  · exact .pure rfl

lemma checks_segments :
    Checks (segments filter) (segments filter')
      fun ss found => found = (r.checkSegments ss).diagnostics := by
  simp only [Registry.diagnostics_checkSegments]
  exact checks_many _ (checks_segment? r hfilter)

end Segments

/-! ## Queries -/

/-- The two ways to read a query differ only by what the walk over the query finds. -/
theorem checks_query (r : Registry) (depth : Nat) :
    Checks (query r ⟨depth, false⟩) (query r ⟨depth, true⟩)
      fun q found => found = (r.checkQuery q).diagnostics := by
  refine Checks.quiet_bind (p := offset) isForward_quiet.refl fun position => ?_
  refine Checks.quiet_bind (keeps_peek isKept_quiet) fun next => ?_
  split
  · exact checks_failAt _ _
  · refine Checks.quiet_bind isKept_quiet.advance fun _ => ?_
    refine (checks_segments r (checks_filter r depth depth)).bind ?_
    rintro ss found rfl
    refine Checks.quiet_bind (keeps_peek isKept_quiet) fun next => ?_
    split
    · exact checks_failHere _
    · refine Checks.quiet_bind (keeps_isAdjacent isKept_quiet) fun adjacent => ?_
      split
      · exact checks_failAtStop _
      · exact .pure (List.append_nil _)

end Parser

/-! ## Texts -/

namespace Query

/-- The ways in which the two configurations end on one text: the query has no type errors, it has
some, or there is no query. -/
theorem parse_cases (r : Registry) (depth : Nat) (text : String) :
    (∃ q, (r.checkQuery q).diagnostics = [] ∧
      parse r ⟨depth, false⟩ text = (.ok q, []) ∧ parse r ⟨depth, true⟩ text = (.ok q, [])) ∨
    (∃ q e, (r.checkQuery q).diagnostics ≠ [] ∧
      parse r ⟨depth, false⟩ text = (.ok q, (r.checkQuery q).diagnostics) ∧
      parse r ⟨depth, true⟩ text = (.error e, [])) ∨
    ∃ e e' reported, parse r ⟨depth, false⟩ text = (.error e, reported) ∧
      parse r ⟨depth, true⟩ text = (.error e', []) := by
  unfold parse
  cases Token.scanAll text with
  | error e => exact .inr (.inr ⟨e, e, [], rfl, rfl⟩)
  | ok tokens =>
    have h := Parser.checks_query r depth ⟨tokens, 0, text.utf8ByteSize, []⟩
    simp only [EStateM.run]
    generalize Parser.query r ⟨depth, false⟩ ⟨tokens, 0, text.utf8ByteSize, []⟩ = lenient at h ⊢
    cases h with
    | @silent q state hfound hquiet hstrict =>
      have hnone := congrArg (Prod.mk (Except.ok q : Except Failure Query)) hquiet
      rw [hstrict]
      exact .inl ⟨q, hfound.symm, hnone, hnone⟩
    | @warned q state _ _ hfound hreport hfails =>
      obtain ⟨e, state', hstrict, hquiet⟩ := hfails
      have hsome : (r.checkQuery q).diagnostics ≠ [] := by simp [← hfound]
      rw [hstrict]
      exact .inr (.inl ⟨q, e, hsome, congrArg (Prod.mk _) (hreport.trans hfound),
        congrArg (Prod.mk _) hquiet⟩)
    | @failed e state hfails =>
      obtain ⟨e', state', hstrict, hquiet⟩ := hfails
      rw [hstrict]
      exact .inr (.inr ⟨e, e', _, rfl, congrArg (Prod.mk _) hquiet⟩)

/-- A query is accepted strictly if it is accepted leniently and has no type errors. -/
lemma parse_strict_iff (r : Registry) (depth : Nat) (text : String) (q : Query) :
    (parse r ⟨depth, true⟩ text).1 = .ok q ↔
      (parse r ⟨depth, false⟩ text).1 = .ok q ∧ (r.checkQuery q).diagnostics = [] := by
  rcases parse_cases r depth text with ⟨q', hcheck, hlenient, hstrict⟩ |
    ⟨q', e, hcheck, hlenient, hstrict⟩ | ⟨e, e', reported, hlenient, hstrict⟩
  · rw [hlenient, hstrict]
    refine ⟨?_, fun h => h.1⟩
    rintro ⟨⟩
    exact ⟨rfl, hcheck⟩
  · rw [hlenient, hstrict]
    constructor
    · rintro ⟨⟩
    · rintro ⟨⟨⟩, hnone⟩
      exact absurd hnone hcheck
  · rw [hlenient, hstrict]
    simp

/-- What lenient reading reports of a query is what the walk over the query finds, in order.  Strict
reading accepts a text exactly when lenient reading does and the walk finds nothing, and it reports
nothing at all. -/
theorem parse_lenient_strict (r : Registry) (depth : Nat) (text : String) :
    (∀ q, (parse r ⟨depth, false⟩ text).1 = .ok q →
      (parse r ⟨depth, false⟩ text).2 = (r.checkQuery q).diagnostics) ∧
    (∀ q, (parse r ⟨depth, true⟩ text).1 = .ok q ↔
      (parse r ⟨depth, false⟩ text).1 = .ok q ∧ (r.checkQuery q).diagnostics = []) ∧
    (parse r ⟨depth, true⟩ text).2 = [] := by
  refine ⟨fun q h => ?_, parse_strict_iff r depth text, ?_⟩
  · rcases parse_cases r depth text with ⟨q', hcheck, hlenient, -⟩ | ⟨q', -, -, hlenient, -⟩ |
      ⟨e, -, reported, hlenient, -⟩
    · rw [hlenient] at h ⊢
      cases h
      exact hcheck.symm
    · rw [hlenient] at h ⊢
      cases h
      rfl
    · rw [hlenient] at h
      cases h
  · rcases parse_cases r depth text with ⟨q, -, -, hstrict⟩ | ⟨q, e, -, -, hstrict⟩ |
      ⟨e, e', reported, -, hstrict⟩ <;>
    rw [hstrict]

/-- A query with two filters of the wrong type in a union, and a third one inside a call. -/
def illTyped : Query :=
  ⟨.root, [.union
    [.filter (.call "length" [.query .root []]),
     .filter (.call "count" [.query .current [.filter (.call "length" [.query .current []])]])]]⟩

lemma parse_illTyped :
    (parse .standard ⟨64, false⟩ "$[?length($),?count(@[?length(@)])]").1 = .ok illTyped := by
  have hscan : Token.scanAll "$[?length($),?count(@[?length(@)])]" =
      .ok [⟨.root, 0, 1⟩, ⟨.leftBracket, 1, 2⟩, ⟨.question, 2, 3⟩, ⟨.name "length", 3, 9⟩,
        ⟨.leftParen, 9, 10⟩, ⟨.root, 10, 11⟩, ⟨.rightParen, 11, 12⟩, ⟨.comma, 12, 13⟩,
        ⟨.question, 13, 14⟩, ⟨.name "count", 14, 19⟩, ⟨.leftParen, 19, 20⟩, ⟨.current, 20, 21⟩,
        ⟨.leftBracket, 21, 22⟩, ⟨.question, 22, 23⟩, ⟨.name "length", 23, 29⟩,
        ⟨.leftParen, 29, 30⟩, ⟨.current, 30, 31⟩, ⟨.rightParen, 31, 32⟩, ⟨.rightBracket, 32, 33⟩,
        ⟨.rightParen, 33, 34⟩, ⟨.rightBracket, 34, 35⟩] :=
    eq_ok_of_toOption (by decide +kernel)
  rw [parse, hscan]
  rfl

/-- All three filters are reported, each once, and strict reading refuses the text. -/
theorem parse_lenient_strict_illTyped :
    (parse .standard ⟨64, false⟩ "$[?length($),?count(@[?length(@)])]").2 =
      [.typeMismatch "length($)" (some .value) .logical none,
        .typeMismatch "count(@[?length(@)])" (some .value) .logical none,
        .typeMismatch "length(@)" (some .value) .logical none] ∧
    ∀ q, (parse .standard ⟨64, true⟩ "$[?length($),?count(@[?length(@)])]").1 ≠ .ok q := by
  have hcheck : (Registry.standard.checkQuery illTyped).diagnostics =
      [.typeMismatch "length($)" (some .value) .logical none,
        .typeMismatch "count(@[?length(@)])" (some .value) .logical none,
        .typeMismatch "length(@)" (some .value) .logical none] := rfl
  obtain ⟨hreports, hstrict, -⟩ :=
    parse_lenient_strict .standard 64 "$[?length($),?count(@[?length(@)])]"
  refine ⟨(hreports illTyped parse_illTyped).trans hcheck, fun q hq => ?_⟩
  obtain ⟨hlenient, hnone⟩ := (hstrict q).1 hq
  obtain rfl : illTyped = q := Except.ok.inj (parse_illTyped.symm.trans hlenient)
  simp [hcheck] at hnone

end Query

end JsonPath
