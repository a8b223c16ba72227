import JsonPath.Query.Parser
import Mathlib.Tactic.Lemma

/-!
# What holds of all readers

`Parser.IsKept J place` says that a property `J` of readers is kept when readers are put together
from smaller ones, and that `J` holds of a reader that fails at a `place`.  Such a property holds of
all readers of expressions (`Parser.keeps_expressionWithin`), and of the readers of segments if it
holds of the step that finishes a filter: they fail at places that they have looked up.  Then it
holds of the reader of queries too (`Parser.keeps_query`).

One kind of such a property is that the states before and after a reader are related by `R`, whether
it succeeds or fails (`Parser.Keeps R`): it is kept if a step over one token keeps `R`
(`IsForward`).  No reader has more tokens left than it started with (`isKept_shrinks`), so a
repeated step runs until it yields nothing, and its fuel does not show (`many_eq`).  And the readers
of expressions report nothing (`isKept_quiet`).
-/

namespace JsonPath.Parser

/-- The state in which a reader leaves off, with a value or a failure. -/
def after {α : Type} (p : Parser α) (state : ParserState) : ParserState :=
  match p state with
  | .ok _ state' => state'
  | .error _ state' => state'

/-- A property of readers that is kept when readers are put together.  They fail at places, and the
positions that they look up are places. -/
structure IsKept (J : ∀ {α : Type}, Parser α → Prop) (place : Nat → Prop) : Prop where
  pure : ∀ {α : Type} (x : α), J (pure x)
  fail : ∀ {α : Type} {failure : Failure}, place failure.offset → J (throw failure : Parser α)
  bind : ∀ {α β : Type} {p : Parser α} {f : α → Parser β}, J p → (∀ x, J (f x)) → J (p >>= f)
  get_bind : ∀ {β : Type} {f : ParserState → Parser β}, (∀ state, J (f state)) → J (get >>= f)
  offset_bind : ∀ {β : Type} {f : Nat → Parser β},
    (∀ position, place position → J (f position)) → J (offset >>= f)
  previousStop_bind : ∀ {β : Type} {f : Nat → Parser β},
    (∀ position, place position → J (f position)) → J (previousStop >>= f)
  advance : J advance

variable {α β : Type} {J : ∀ {α : Type}, Parser α → Prop} {place : Nat → Prop}

/-! ## Sequences -/

lemma bind_of_ok {p : Parser α} {f : α → Parser β} {state state' : ParserState} {x : α}
    (h : p state = .ok x state') : (p >>= f) state = f x state' := by
  show EStateM.bind p f state = _
  unfold EStateM.bind
  rw [h]

lemma bind_of_error {p : Parser α} {f : α → Parser β} {state state' : ParserState} {e : Failure}
    (h : p state = .error e state') : (p >>= f) state = .error e state' := by
  show EStateM.bind p f state = _
  unfold EStateM.bind
  rw [h]

lemma bind_congr_at {p p' : Parser α} (f : α → Parser β) {state : ParserState}
    (h : p state = p' state) : (p >>= f) state = (p' >>= f) state := by
  show EStateM.bind p f state = EStateM.bind p' f state
  unfold EStateM.bind
  rw [h]

lemma IsKept.map (hJ : IsKept @J place) {p : Parser α} (f : α → β) (hp : J p) : J (f <$> p) := by
  rw [map_eq_pure_bind]
  exact hJ.bind hp fun _ => hJ.pure _

/-! ## Single tokens -/

section Tokens

variable (hJ : IsKept @J place)
include hJ

lemma keeps_peek : J peek := hJ.get_bind fun _ => hJ.pure _

lemma keeps_peekSecond : J peekSecond := hJ.get_bind fun _ => hJ.pure _

lemma keeps_isAdjacent : J isAdjacent :=
  hJ.offset_bind fun _ _ => hJ.previousStop_bind fun _ _ => hJ.pure _

lemma keeps_failAt {position : Nat} (h : place position) (what : Expectation) :
    J (failAt position what : Parser α) := hJ.fail h

lemma keeps_failHere (what : Expectation) : J (failHere what : Parser α) :=
  hJ.offset_bind fun _ h => keeps_failAt hJ h what

lemma keeps_failAtStop (what : Expectation) :
    J (do failAt (← previousStop) what : Parser α) :=
  hJ.previousStop_bind fun _ h => keeps_failAt hJ h what

lemma keeps_eat (token : Token) : J (eat token) := by
  refine hJ.bind (keeps_peek hJ) fun next => ?_
  split
  · exact hJ.bind hJ.advance fun _ => hJ.pure _
  · exact hJ.pure _

lemma keeps_expect (token : Token) (what : Expectation) : J (expect token what) := by
  refine hJ.bind (keeps_eat hJ token) fun found => ?_
  split
  · exact hJ.pure _
  · exact keeps_failHere hJ what

end Tokens

/-! ## Repetition -/

section Repetition

variable (hJ : IsKept @J place)
include hJ

lemma keeps_repeatUpTo {step : Parser (Option α)} (hstep : J step) (fuel : Nat) :
    J (repeatUpTo step fuel) := by
  induction fuel with
  | zero => exact hJ.pure _
  | succ fuel ih =>
    refine hJ.bind hstep fun x? => ?_
    cases x? with
    | none => exact hJ.pure _
    | some x => exact hJ.bind ih fun _ => hJ.pure _

lemma keeps_many {step : Parser (Option α)} (hstep : J step) : J (many step) :=
  hJ.get_bind fun state => keeps_repeatUpTo hJ hstep state.tokens.length

lemma keeps_separated (separator : Token) {item : Parser α} (hitem : J item) :
    J (separated separator item) := by
  refine hJ.bind hitem fun first => ?_
  refine hJ.bind (keeps_many hJ ?_) fun _ => hJ.pure _
  refine hJ.bind (keeps_eat hJ separator) fun found => ?_
  split
  · exact hJ.map _ hitem
  · exact hJ.pure _

lemma keeps_chained (operator : Token) (combine : Expr → Expr → Expr) {item : Parser Expr}
    (hitem : J item) : J (chained operator combine item) :=
  hJ.bind (keeps_separated hJ operator hitem) fun _ => hJ.pure _

end Repetition

/-! ## Segments -/

section Segments

variable (hJ : IsKept @J place)
include hJ

lemma keeps_optionalInteger : J optionalInteger := by
  refine hJ.bind (keeps_peek hJ) fun next => ?_
  split
  · split
    · exact hJ.bind hJ.advance fun _ => hJ.pure _
    · exact keeps_failHere hJ _
  · exact hJ.pure _

lemma keeps_literal : J literal := by
  refine hJ.offset_bind fun position hposition => ?_
  refine hJ.bind (keeps_peek hJ) fun next => ?_
  refine hJ.bind hJ.advance fun _ => ?_
  split
  · exact hJ.pure _
  · split
    · exact hJ.pure _
    · exact keeps_failAt hJ hposition _
  · exact hJ.pure _
  · exact hJ.pure _
  · exact hJ.pure _
  · exact keeps_failAt hJ hposition _

lemma keeps_shorthand (what : Expectation) : J (shorthand what) := by
  refine hJ.bind (keeps_isAdjacent hJ) fun adjacent => ?_
  split
  · exact keeps_failAtStop hJ _
  · refine hJ.bind (keeps_peek hJ) fun next => ?_
    split
    · exact hJ.bind hJ.advance fun _ => hJ.pure _
    · split
      · exact hJ.bind hJ.advance fun _ => hJ.pure _
      · exact keeps_failHere hJ _
    · exact keeps_failHere hJ _

lemma keeps_indexOrSlice : J indexOrSlice := by
  refine hJ.bind (keeps_optionalInteger hJ) fun start => ?_
  refine hJ.bind (keeps_eat hJ .colon) fun colon => ?_
  split
  · refine hJ.bind (keeps_optionalInteger hJ) fun stop => ?_
    refine hJ.bind (keeps_eat hJ .colon) fun colon => ?_
    split
    · exact hJ.bind (keeps_optionalInteger hJ) fun _ => hJ.pure _
    · exact hJ.pure _
  · split
    · exact hJ.pure _
    · exact keeps_failHere hJ _

variable {filter : Parser Segment} (hfilter : J filter)
include hfilter

lemma keeps_selector : J (selector filter) := by
  refine hJ.bind (keeps_peek hJ) fun next => ?_
  split
  · exact hJ.bind hJ.advance fun _ => hJ.pure _
  · exact hJ.bind hJ.advance fun _ => hJ.pure _
  · exact hfilter
  · exact keeps_indexOrSlice hJ
  · exact keeps_indexOrSlice hJ
  · exact keeps_failHere hJ _

lemma keeps_bracketed : J (bracketed filter) := by
  refine hJ.bind hJ.advance fun _ => ?_
  refine hJ.bind (keeps_separated hJ .comma (keeps_selector hJ hfilter)) fun selectors => ?_
  refine hJ.bind (keeps_expect hJ _ _) fun _ => ?_
  split
  · exact hJ.pure _
  · exact hJ.pure _

lemma keeps_segment? : J (segment? filter) := by
  refine hJ.bind (keeps_peek hJ) fun next => ?_
  split
  · exact hJ.bind hJ.advance fun _ => hJ.map _ (keeps_shorthand hJ _)
  · refine hJ.bind hJ.advance fun _ => ?_
    refine hJ.bind (keeps_peek hJ) fun bracket => ?_
    refine hJ.bind (keeps_isAdjacent hJ) fun adjacent => ?_
    split
    · exact hJ.bind (keeps_bracketed hJ hfilter) fun _ => hJ.pure _
    · exact hJ.bind (keeps_shorthand hJ _) fun _ => hJ.pure _
  · exact hJ.map _ (keeps_bracketed hJ hfilter)
  · exact hJ.pure _

lemma keeps_segments : J (segments filter) := keeps_many hJ (keeps_segment? hJ hfilter)

end Segments

/-! ## Expressions -/

section Expressions

variable (hJ : IsKept @J place) (limit : Nat) {deeper? : Option (Parser Expr)}
  (hdeeper : ∀ deeper ∈ deeper?, J deeper)
include hJ hdeeper

/-- Goes one level deeper, and on with what is done there. -/
lemma keeps_enter_bind {position : Nat} (hposition : place position)
    {f : Parser Expr → Parser β} (hf : ∀ deeper, J deeper → J (f deeper)) :
    J (enter limit deeper? position >>= f) := by
  cases deeper? with
  | none => exact hJ.fail hposition
  | some deeper => exact hf deeper (hdeeper deeper rfl)

lemma keeps_filter {finish : Nat → Expr → Parser Unit}
    (hfinish : ∀ position e, place position → J (finish position e)) :
    J (filter limit deeper? finish) := by
  refine hJ.offset_bind fun position hposition => ?_
  refine hJ.bind hJ.advance fun _ => ?_
  refine keeps_enter_bind hJ limit hdeeper hposition fun deeper hdeeper => ?_
  refine hJ.bind hdeeper fun test => ?_
  exact hJ.bind (hfinish position test hposition) fun _ => hJ.pure _

lemma keeps_parenthesized : J (parenthesized limit deeper?) := by
  refine hJ.offset_bind fun position hposition => ?_
  refine hJ.bind hJ.advance fun _ => ?_
  refine keeps_enter_bind hJ limit hdeeper hposition fun deeper hdeeper => ?_
  refine hJ.bind hdeeper fun e => ?_
  exact hJ.bind (keeps_expect hJ _ _) fun _ => hJ.pure _

lemma keeps_embedded (anchor : Anchor) : J (embedded limit deeper? anchor) := by
  have hfilter := keeps_filter hJ limit hdeeper fun _ _ _ => hJ.pure ()
  refine hJ.bind hJ.advance fun _ => ?_
  exact hJ.bind (keeps_segments hJ hfilter) fun _ => hJ.pure _

omit hdeeper in
lemma keeps_argument {deeper : Parser Expr} (hdeeper : J deeper) :
    J (argument deeper) := by
  refine hJ.bind (keeps_peek hJ) fun next => ?_
  split
  · refine hJ.bind (keeps_peekSecond hJ) fun second => ?_
    split
    · exact hJ.bind (keeps_literal hJ) fun _ => hJ.pure _
    · exact hdeeper
  · exact hdeeper

omit hdeeper in
lemma keeps_arguments {deeper : Parser Expr} (hdeeper : J deeper) :
    J (arguments deeper) := by
  refine hJ.bind (keeps_peek hJ) fun next => ?_
  split
  · exact hJ.pure _
  · exact hJ.bind (keeps_separated hJ .comma (keeps_argument hJ hdeeper)) fun _ => hJ.pure _

lemma keeps_call (name : String) : J (call limit deeper? name) := by
  unfold call
  split
  · exact keeps_failHere hJ _
  · refine hJ.bind hJ.advance fun _ => ?_
    refine hJ.bind (keeps_isAdjacent hJ) fun adjacent => ?_
    split
    · exact keeps_failAtStop hJ _
    · refine hJ.offset_bind fun position hposition => ?_
      refine hJ.bind hJ.advance fun _ => ?_
      refine keeps_enter_bind hJ limit hdeeper hposition fun deeper hdeeper => ?_
      refine hJ.bind (keeps_arguments hJ hdeeper) fun results => ?_
      exact hJ.bind (keeps_expect hJ _ _) fun _ => hJ.pure _

lemma keeps_operand : J (operand limit deeper?) := by
  refine hJ.bind (keeps_peek hJ) fun next => ?_
  split
  · exact keeps_embedded hJ limit hdeeper _
  · exact keeps_embedded hJ limit hdeeper _
  · split
    · refine hJ.bind (keeps_peekSecond hJ) fun second => ?_
      split
      · exact keeps_call hJ limit hdeeper _
      · exact keeps_failHere hJ _
    · split
      · exact hJ.bind (keeps_literal hJ) fun _ => hJ.pure _
      · exact keeps_failHere hJ _
  · exact keeps_failHere hJ _

omit hdeeper in
lemma keeps_requireComparable (e : Expr) {position : Nat} (hposition : place position) :
    J (requireComparable e position) := by
  unfold requireComparable
  split
  · split
    · exact hJ.pure _
    · exact keeps_failAt hJ hposition _
  · exact hJ.pure _

omit hdeeper in
lemma keeps_requireTest (e : Expr) {position : Nat} (hposition : place position)
    (what : Expectation) :
    J (requireTest e position what) := by
  unfold requireTest
  split
  · exact keeps_failAt hJ hposition _
  · exact hJ.pure _

lemma keeps_comparisonOrTest : J (comparisonOrTest limit deeper?) := by
  refine hJ.offset_bind fun leftPosition hleft => ?_
  refine hJ.bind (keeps_operand hJ limit hdeeper) fun left => ?_
  refine hJ.bind (keeps_peek hJ) fun next => ?_
  split
  · refine hJ.bind hJ.advance fun _ => ?_
    refine hJ.bind (keeps_requireComparable hJ left hleft) fun _ => ?_
    refine hJ.offset_bind fun rightPosition hright => ?_
    refine hJ.bind (keeps_operand hJ limit hdeeper) fun right => ?_
    exact hJ.bind (keeps_requireComparable hJ right hright) fun _ => hJ.pure _
  · refine hJ.offset_bind fun position hposition => ?_
    exact hJ.bind (keeps_requireTest hJ _ hposition _) fun _ => hJ.pure _

lemma keeps_basic : J (basic limit deeper?) := by
  refine hJ.bind (keeps_eat hJ .not) fun negated => ?_
  split
  · refine hJ.bind (keeps_peek hJ) fun next => ?_
    split
    · exact hJ.bind (keeps_parenthesized hJ limit hdeeper) fun _ => hJ.pure _
    · refine hJ.offset_bind fun position hposition => ?_
      refine hJ.bind (keeps_operand hJ limit hdeeper) fun e => ?_
      exact hJ.bind (keeps_requireTest hJ _ hposition _) fun _ => hJ.pure _
  · refine hJ.bind (keeps_peek hJ) fun next => ?_
    split
    · exact keeps_parenthesized hJ limit hdeeper
    · exact keeps_comparisonOrTest hJ limit hdeeper

lemma keeps_expression : J (expression limit deeper?) :=
  keeps_chained hJ _ _ (keeps_chained hJ _ _ (keeps_basic hJ limit hdeeper))

end Expressions

/-- The readers of expressions only pass over tokens, at every level. -/
theorem keeps_expressionWithin (hJ : IsKept @J place) (limit levels : Nat) :
    ∀ deeper ∈ expressionWithin limit levels, J deeper := by
  induction levels with
  | zero => simp [expressionWithin]
  | succ levels ih =>
    intro deeper h
    obtain rfl : expression limit (expressionWithin limit levels) = deeper := by
      simpa [expressionWithin] using h
    exact keeps_expression hJ limit ih

/-! ## Whole queries -/

/-- A property of readers that checking a filter has too holds of the reader of queries. -/
theorem keeps_query (hJ : IsKept @J place) (hstart : place 0) {r : Registry} {c : ParserConfig}
    (hfinish : ∀ position test, place position → J (checkFilter r c.strict position test)) :
    J (query r c) := by
  have hfilter := keeps_filter hJ c.maxDepth (keeps_expressionWithin hJ c.maxDepth c.maxDepth)
    hfinish
  refine hJ.offset_bind fun position _ => ?_
  refine hJ.bind (keeps_peek hJ) fun next => ?_
  split
  · exact keeps_failAt hJ hstart _
  · refine hJ.bind hJ.advance fun _ => ?_
    refine hJ.bind (keeps_segments hJ hfilter) fun ss => ?_
    refine hJ.bind (keeps_peek hJ) fun next => ?_
    split
    · exact keeps_failHere hJ _
    · refine hJ.bind (keeps_isAdjacent hJ) fun adjacent => ?_
      split
      · exact keeps_failAtStop hJ _
      · exact hJ.pure _

/-! ## Relations of states -/

section Relations

variable {R : ParserState → ParserState → Prop}

/-- The states before and after a reader are related. -/
def Keeps (R : ParserState → ParserState → Prop) (p : Parser α) : Prop :=
  ∀ state, R state (after p state)

lemma Keeps.of_ok {p : Parser α} (h : Keeps R p) {state state' : ParserState} {x : α}
    (hp : p state = .ok x state') : R state state' := by
  have := h state
  unfold after at this
  rwa [hp] at this

/-- A relation of states that is kept by passing over tokens. -/
structure IsForward (R : ParserState → ParserState → Prop) : Prop where
  refl : ∀ state, R state state
  trans : ∀ {state state' state''}, R state state' → R state' state'' → R state state''
  advance : Keeps R advance

lemma IsForward.bind (hR : IsForward R) {p : Parser α} {f : α → Parser β} (hp : Keeps R p)
    (hf : ∀ x, Keeps R (f x)) : Keeps R (p >>= f) := by
  intro state
  have hp := hp state
  unfold after at hp ⊢
  cases hstep : p state with
  | error e state' =>
    rw [hstep] at hp
    rw [bind_of_error hstep]
    exact hp
  | ok x state' =>
    rw [hstep] at hp
    rw [bind_of_ok hstep]
    exact hR.trans hp (hf x state')

/-- Any position is a place to fail at, where only the states matter. -/
lemma IsForward.isKept (hR : IsForward R) : IsKept (fun p => Keeps R p) fun _ => True where
  pure _ := hR.refl
  fail _ := hR.refl
  bind hp hf := hR.bind hp hf
  get_bind hf := hR.bind (p := get) hR.refl hf
  offset_bind hf := hR.bind (p := offset) hR.refl fun position => hf position trivial
  previousStop_bind hf := hR.bind (p := previousStop) hR.refl fun position => hf position trivial
  advance := hR.advance

/-- The check of a filter reports, and changes nothing else. -/
lemma keeps_checkFilter (hR : ∀ state diagnostics, R state { state with diagnostics })
    (r : Registry) (strict : Bool) (position : Nat) (test : Expr) :
    Keeps R (checkFilter r strict position test) := by
  dsimp only [checkFilter]
  split
  · exact fun state => hR state state.diagnostics
  · exact fun state => hR state state.diagnostics
  · exact fun state => hR state _

/-- No more tokens are left than before. -/
def Shrinks (state state' : ParserState) : Prop := state'.tokens.length ≤ state.tokens.length

/-- Nothing has been reported. -/
def Quiet (state state' : ParserState) : Prop := state'.diagnostics = state.diagnostics

lemma isForward_shrinks : IsForward Shrinks where
  refl _ := Nat.le_refl _
  trans h h' := Nat.le_trans h' h
  advance state := by
    obtain ⟨tokens, stop, textEnd, diagnostics⟩ := state
    cases tokens with
    | nil => exact Nat.le_refl _
    | cons t rest => exact Nat.le_succ _

theorem isKept_shrinks : IsKept (fun p => Keeps Shrinks p) fun _ => True :=
  isForward_shrinks.isKept

lemma isForward_quiet : IsForward Quiet where
  refl _ := rfl
  trans h h' := h'.trans h
  advance state := by
    obtain ⟨tokens, stop, textEnd, diagnostics⟩ := state
    cases tokens <;> rfl

theorem isKept_quiet : IsKept (fun p => Keeps Quiet p) fun _ => True := isForward_quiet.isKept

/-- Tokens have been passed over, and the end of the text is where it was. -/
def PassesOver (state state' : ParserState) : Prop :=
  state'.tokens <:+ state.tokens ∧ state'.textEnd = state.textEnd

lemma isForward_passesOver : IsForward PassesOver where
  refl _ := ⟨List.suffix_refl _, rfl⟩
  trans h h' := ⟨h'.1.trans h.1, h'.2.trans h.2⟩
  advance state := by
    obtain ⟨tokens, stop, textEnd, diagnostics⟩ := state
    cases tokens with
    | nil => exact ⟨List.suffix_refl _, rfl⟩
    | cons t rest => exact ⟨List.suffix_cons t rest, rfl⟩

theorem passesOver_query (r : Registry) (c : ParserConfig) : Keeps PassesOver (query r c) :=
  keeps_query isForward_passesOver.isKept trivial fun position test _ =>
    keeps_checkFilter (fun _ _ => ⟨List.suffix_refl _, rfl⟩) r c.strict position test

end Relations

/-! ## Repetition without fuel -/

/-- A step that consumes a token whenever it yields something, and yields nothing at the end. -/
structure IsStep (step : Parser (Option α)) : Prop where
  consumes : ∀ {state x state'}, step state = .ok (some x) state' →
    state'.tokens.length < state.tokens.length
  atEnd : ∀ {state}, state.tokens = [] → step state = .ok none state

lemma repeatUpTo_of_none {step : Parser (Option α)} {fuel : Nat} {state state' : ParserState}
    (h : step state = .ok none state') : repeatUpTo step (fuel + 1) state = .ok [] state' := by
  rw [repeatUpTo, bind_of_ok h]
  rfl

lemma IsStep.repeatUpTo_of_empty {step : Parser (Option α)} (h : IsStep step)
    {state : ParserState} (htokens : state.tokens.length ≤ 0) (fuel : Nat) :
    repeatUpTo step fuel state = .ok [] state := by
  have hempty : state.tokens = [] := List.eq_nil_of_length_eq_zero (Nat.le_zero.1 htokens)
  cases fuel with
  | zero => rfl
  | succ fuel => exact repeatUpTo_of_none (h.atEnd hempty)

/-- Fuel beyond the number of tokens left makes no difference. -/
lemma IsStep.repeatUpTo_eq {step : Parser (Option α)} (h : IsStep step) {fuel fuel' : Nat}
    {state : ParserState} (hfuel : state.tokens.length ≤ fuel)
    (hfuel' : state.tokens.length ≤ fuel') :
    repeatUpTo step fuel state = repeatUpTo step fuel' state := by
  induction fuel generalizing fuel' state with
  | zero => rw [h.repeatUpTo_of_empty hfuel, h.repeatUpTo_of_empty hfuel]
  | succ fuel ih =>
    cases fuel' with
    | zero => rw [h.repeatUpTo_of_empty hfuel', h.repeatUpTo_of_empty hfuel']
    | succ fuel' =>
      rw [repeatUpTo, repeatUpTo]
      cases hstep : step state with
      | error e state' => rw [bind_of_error hstep, bind_of_error hstep]
      | ok x? state' =>
        rw [bind_of_ok hstep, bind_of_ok hstep]
        cases x? with
        | none => rfl
        | some x =>
          have hlt := h.consumes hstep
          exact bind_congr_at _ (ih (by omega) (by omega))

/-- A repeated step is one step and, if that yields something, the repeated step again. -/
theorem IsStep.many_eq {step : Parser (Option α)} (h : IsStep step) :
    many step = do
      match ← step with
      | none => return []
      | some x => return x :: (← many step) := by
  funext state
  have hone : many step state = repeatUpTo step (state.tokens.length + 1) state :=
    h.repeatUpTo_eq (Nat.le_refl _) (Nat.le_succ _)
  rw [hone, repeatUpTo]
  cases hstep : step state with
  | error e state' => rw [bind_of_error hstep, bind_of_error hstep]
  | ok x? state' =>
    rw [bind_of_ok hstep, bind_of_ok hstep]
    cases x? with
    | none => rfl
    | some x =>
      have hlt := h.consumes hstep
      have hrest : repeatUpTo step state.tokens.length state' = many step state' :=
        h.repeatUpTo_eq (Nat.le_of_lt hlt) (Nat.le_refl _)
      exact bind_congr_at _ hrest

end JsonPath.Parser
