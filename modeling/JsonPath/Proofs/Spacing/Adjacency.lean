import JsonPath.Proofs.Parser.Outcomes
import Mathlib.Data.List.Chain

/-!
# Readers and the places of tokens

The parser looks at the places of tokens in two ways.  It records positions for its failures, which
do not show in what a success returns.  And it refuses a blank behind a dot and between the name of
a function and its parenthesis (`Token.joins`).

`Parser.Respaces lead p p' state` says of a reader `p` that succeeds in a state that

* the tokens that it passed over are adjacent wherever they have to be, and
* `p'` returns the same value in every state with the same tokens in other places (`Respaced`).

The readers `p` and `p'` are the same one with positions of either state put in.  `lead` tells what
comes before (`Lead`).  There is one rule for each way to put readers together.
-/

namespace JsonPath

/-- Whether no blank may stand between two tokens. -/
def Token.joins : Token → Token → Bool
  | .dot, _ => Bool.true
  | .doubleDot, _ => Bool.true
  | .name _, .leftParen => Bool.true
  | _, _ => Bool.false

/-- The tokens are adjacent wherever no blank may stand between them. -/
def Joined (ts : List Spanned) : Prop :=
  ts.IsChain fun t u => t.token.joins u.token = true → t.stop = u.start

namespace Parser

/-- The next token of the state. -/
def next? (state : ParserState) : Option Token := state.tokens.head?.map Spanned.token

/-- The same tokens are left in the second state, and the same has been reported, but the tokens
may stand in other places, adjacent wherever they have to be. -/
structure Respaced (state state' : ParserState) : Prop where
  tokens : state'.tokens.map Spanned.token = state.tokens.map Spanned.token
  diagnostics : state'.diagnostics = state.diagnostics
  joined : Joined state'.tokens

/-- What a reader starts with. -/
inductive Lead where
  /-- Whatever comes next stands where it may. -/
  | any
  /-- No parenthesis comes next. -/
  | noParen
  /-- The token has just been passed over. -/
  | behind (t : Token)

/-- The next token of the state agrees with the lead. -/
def Lead.Allows : Lead → ParserState → Prop
  | .any, _ => True
  | .noParen, state => ∀ u ∈ state.tokens.head?, u.token ≠ .leftParen
  | .behind t, state =>
    ∀ u ∈ state.tokens.head?, t.joins u.token = true → state.previousStop = u.start

/-- What is known before the reader starts: a token that has just been passed over is adjacent to
the next one if it has to be. -/
def Lead.Given : Lead → ParserState → Prop
  | .behind t, state => (Lead.behind t).Allows state
  | _, _ => True

/-- The tokens that are left are adjacent wherever they have to be, to the lead as well. -/
def Spaced (lead : Lead) (state : ParserState) : Prop := Joined state.tokens ∧ lead.Allows state

/-- Where `p` succeeds, the tokens that it passes over are in their places, and `p'` gives the same
with other places. -/
def Respaces {α : Type} (lead : Lead) (p p' : Parser α) (state : ParserState) : Prop :=
  ∀ x next, p state = .ok x next →
    (Spaced .noParen next → Spaced lead state) ∧
      ∀ state', Respaced state state' → lead.Given state' →
        ∃ next', p' state' = .ok x next' ∧ Respaced next next'

variable {α β : Type} {lead : Lead} {state : ParserState}

lemma Respaced.next?_eq {state' : ParserState} (h : Respaced state state') :
    next? state' = next? state := by
  unfold next?
  rw [← List.head?_map, h.tokens, List.head?_map]

lemma Respaced.second?_eq {state' : ParserState} (h : Respaced state state') :
    state'.tokens.tail.head?.map Spanned.token = state.tokens.tail.head?.map Spanned.token := by
  rw [← List.head?_map, List.map_tail, h.tokens, ← List.map_tail, List.head?_map]

lemma Respaced.length_eq {state' : ParserState} (h : Respaced state state') :
    state'.tokens.length = state.tokens.length := by
  simpa using congrArg List.length h.tokens

/-! ## Sequences -/

lemma respaces_of_fails {p p' : Parser α} (h : ∀ x next, p state ≠ .ok x next) :
    Respaces lead p p' state := fun x next hx => absurd hx (h x next)

lemma respaces_failAt (position : Nat) (what : Expectation) (p' : Parser α) :
    Respaces lead (failAt position what) p' state := respaces_of_fails fun _ _ h => nomatch h

lemma respaces_failHere (what : Expectation) (p' : Parser α) :
    Respaces lead (failHere what) p' state := respaces_of_fails fun _ _ h => nomatch h

lemma Respaces.pure (x : α) : Respaces .noParen (pure x) (pure x) state := by
  rintro y next hy
  cases hy
  exact ⟨id, fun state' h _ => ⟨state', rfl, h⟩⟩

lemma bind_eq_ok_iff {p : Parser α} {f : α → Parser β} {y : β} {last : ParserState} :
    (p >>= f) state = .ok y last ↔ ∃ x next, p state = .ok x next ∧ f x next = .ok y last := by
  constructor
  · intro h
    cases hp : p state with
    | error e next =>
      rw [bind_of_error hp] at h
      cases h
    | ok x next =>
      rw [bind_of_ok hp] at h
      exact ⟨x, next, rfl, h⟩
  · rintro ⟨x, next, hp, hf⟩
    rw [bind_of_ok hp, hf]

lemma Respaces.bind {p p' : Parser α} {f f' : α → Parser β} (hp : Respaces lead p p' state)
    (hf : ∀ x next, Respaces .noParen (f x) (f' x) next) :
    Respaces lead (p >>= f) (p' >>= f') state := by
  intro y last hy
  obtain ⟨x, next, hx, hy⟩ := bind_eq_ok_iff.1 hy
  obtain ⟨hbefore, hsame⟩ := hp x next hx
  obtain ⟨hbehind, hsame'⟩ := hf x next y last hy
  refine ⟨fun h => hbefore (hbehind h), fun state' hstate hgiven => ?_⟩
  obtain ⟨next', hx', hnext⟩ := hsame state' hstate hgiven
  obtain ⟨last', hy', hlast⟩ := hsame' next' hnext trivial
  exact ⟨last', bind_eq_ok_iff.2 ⟨x, next', hx', hy'⟩, hlast⟩

lemma Respaces.map {p p' : Parser α} (g : α → β) (hp : Respaces lead p p' state) :
    Respaces lead (g <$> p) (g <$> p') state := by
  rw [map_eq_pure_bind, map_eq_pure_bind]
  exact hp.bind fun x next => .pure (g x)

/-! ## Leads -/

section Leads

variable {p p' : Parser α}

lemma Respaces.any (h : Respaces .noParen p p' state) : Respaces .any p p' state := by
  intro x next hx
  obtain ⟨hspaced, hsame⟩ := h x next hx
  exact ⟨fun hnext => ⟨(hspaced hnext).1, trivial⟩, hsame⟩

/-- Behind a token that is joined to no other. -/
lemma Respaces.behind {t : Token} (ht : ∀ u, t.joins u = false)
    (h : Respaces .any p p' state) : Respaces (.behind t) p p' state := by
  intro x next hx
  obtain ⟨hspaced, hsame⟩ := h x next hx
  refine ⟨fun hlast => ⟨(hspaced hlast).1, fun u _ hjoins => ?_⟩, fun state' hstate _ => ?_⟩
  · rw [ht u.token] at hjoins
    cases hjoins
  · exact hsame state' hstate trivial

/-- Behind a token that is joined to a parenthesis at most. -/
lemma Respaces.behind_word {t : Token} (ht : ∀ u, u ≠ .leftParen → t.joins u = false)
    (h : Respaces .noParen p p' state) : Respaces (.behind t) p p' state := by
  intro x next hx
  obtain ⟨hspaced, hsame⟩ := h x next hx
  refine ⟨fun hlast => ⟨(hspaced hlast).1, fun u hu hjoins => ?_⟩, fun state' hstate _ => ?_⟩
  · rw [ht u.token ((hspaced hlast).2 u hu)] at hjoins
    cases hjoins
  · exact hsame state' hstate trivial

end Leads

/-! ## Single tokens -/

section Tokens

lemma peek_eq (state : ParserState) : Parser.peek state = .ok (next? state) state := rfl

lemma Respaces.peek {f f' : Option Token → Parser β}
    (h : Respaces lead (f (next? state)) (f' (next? state)) state) :
    Respaces lead (peek >>= f) (peek >>= f') state := by
  intro x next hx
  obtain ⟨hspaced, hsame⟩ := h x next hx
  refine ⟨hspaced, fun state' hstate hgiven => ?_⟩
  obtain ⟨next', hx', hnext⟩ := hsame state' hstate hgiven
  rw [← hstate.next?_eq] at hx'
  exact ⟨next', hx', hnext⟩

lemma Respaces.peekSecond {f f' : Option Token → Parser β}
    (h : Respaces lead (f (state.tokens.tail.head?.map Spanned.token))
      (f' (state.tokens.tail.head?.map Spanned.token)) state) :
    Respaces lead (peekSecond >>= f) (peekSecond >>= f') state := by
  intro x next hx
  obtain ⟨hspaced, hsame⟩ := h x next hx
  refine ⟨hspaced, fun state' hstate hgiven => ?_⟩
  obtain ⟨next', hx', hnext⟩ := hsame state' hstate hgiven
  rw [← hstate.second?_eq] at hx'
  exact ⟨next', hx', hnext⟩

/-- The position may be another one. -/
lemma Respaces.offset {f f' : Nat → Parser β}
    (h : ∀ position position', Respaces lead (f position) (f' position') state) :
    Respaces lead (offset >>= f) (offset >>= f') state := by
  intro x next hx
  refine ⟨(h _ 0 x next hx).1, fun state' hstate hgiven => ?_⟩
  exact (h _ _ x next hx).2 state' hstate hgiven

/-- Whether the next token is adjacent makes no difference. -/
lemma Respaces.isAdjacent {f f' : Bool → Parser β}
    (h : ∀ adjacent adjacent', Respaces lead (f adjacent) (f' adjacent') state) :
    Respaces lead (isAdjacent >>= f) (isAdjacent >>= f') state := by
  intro x next hx
  refine ⟨(h _ true x next hx).1, fun state' hstate hgiven => ?_⟩
  exact (h _ _ x next hx).2 state' hstate hgiven

lemma exists_of_next? {t : Token} (h : next? state = some t) :
    ∃ u ts, state.tokens = u :: ts ∧ u.token = t := by
  obtain ⟨u, hu, rfl⟩ := Option.map_eq_some_iff.1 h
  obtain ⟨ts, hts⟩ := List.head?_eq_some_iff.1 hu
  exact ⟨u, ts, hts, rfl⟩

lemma isAdjacent_eq {u : Spanned} {ts : List Spanned} (h : state.tokens = u :: ts) :
    isAdjacent state = .ok (u.start == state.previousStop) state := by
  obtain ⟨tokens, stop, textEnd, diagnostics⟩ := state
  subst h
  rfl

/-- The next token has to be adjacent, since it is joined to the one before. -/
lemma Respaces.adjacent {f f' : Bool → Parser β} {t : Token}
    (hjoins : ∀ u, next? state = some u → t.joins u = true)
    (hfalse : Parser.isAdjacent state = .ok false state → ∀ x next, f false state ≠ .ok x next)
    (hnone : next? state = none → ∀ x next, f true state ≠ .ok x next)
    (htrue : Respaces .any (f true) (f' true) state) :
    Respaces (.behind t) (Parser.isAdjacent >>= f) (Parser.isAdjacent >>= f') state := by
  intro x next hx
  obtain ⟨adjacent, hadjacent⟩ : ∃ adjacent, Parser.isAdjacent state = .ok adjacent state :=
    ⟨_, rfl⟩
  rw [bind_of_ok hadjacent] at hx
  cases adjacent with
  | false => exact absurd hx (hfalse hadjacent x next)
  | true =>
    cases hnext : next? state with
    | none => exact absurd hx (hnone hnext x next)
    | some u =>
      obtain ⟨v, ts, htokens, rfl⟩ := exists_of_next? hnext
      obtain ⟨hspaced, hsame⟩ := htrue x next hx
      refine ⟨fun hlast => ⟨(hspaced hlast).1, fun w hw _ => ?_⟩, fun state' hstate hgiven => ?_⟩
      · rw [isAdjacent_eq htokens] at hadjacent
        rw [htokens] at hw
        cases hw
        injection hadjacent with hstart
        exact (beq_iff_eq.1 hstart).symm
      · obtain ⟨v', ts', htokens', hv'⟩ := exists_of_next? (hstate.next?_eq.trans hnext)
        obtain ⟨next', hx', hnext'⟩ := hsame state' hstate trivial
        have hstart : state'.previousStop = v'.start := by
          refine hgiven v' ?_ (by rw [hv', hjoins _ hnext])
          rw [htokens']
          rfl
        refine ⟨next', ?_, hnext'⟩
        rw [bind_of_ok (isAdjacent_eq htokens'), beq_iff_eq.2 hstart.symm]
        exact hx'

/-- Passes over the next token. -/
lemma Respaces.advance {f f' : Unit → Parser β} {t : Token} (hnext : next? state = some t)
    (hlead : lead = .any ∨ (lead = .noParen ∧ t ≠ .leftParen))
    (h : ∀ next, next.tokens = state.tokens.tail → Respaces (.behind t) (f ()) (f' ()) next) :
    Respaces lead (advance >>= f) (advance >>= f') state := by
  obtain ⟨tokens, stop, textEnd, diagnostics⟩ := state
  obtain ⟨u, ts, rfl, rfl⟩ := exists_of_next? hnext
  intro x next hx
  obtain ⟨hspaced, hsame⟩ := h ⟨ts, u.stop, textEnd, diagnostics⟩ rfl x next hx
  refine ⟨fun hlast => ⟨?_, ?_⟩, fun state' hstate hgiven => ?_⟩
  · obtain ⟨hjoined, hbehind⟩ := hspaced hlast
    exact List.isChain_cons.2 ⟨hbehind, hjoined⟩
  · rcases hlead with rfl | ⟨rfl, ht⟩
    · trivial
    · rintro v ⟨⟩
      exact ht
  · obtain ⟨tokens', stop', textEnd', diagnostics'⟩ := state'
    obtain ⟨htokens, hdiagnostics, hjoined⟩ := hstate
    obtain ⟨u', ts', rfl, hu', hts'⟩ := List.map_eq_cons_iff.1 htokens
    obtain ⟨hbehind, hjoined⟩ := List.isChain_cons.1 hjoined
    refine hsame ⟨ts', u'.stop, textEnd', diagnostics'⟩ ⟨hts', hdiagnostics, hjoined⟩ ?_
    intro v hv hjoins
    exact hbehind v hv (by rw [hu', hjoins])

/-- Passes over the next token, which is joined to no other. -/
lemma Respaces.over {f f' : Unit → Parser β} {t : Token} (hnext : next? state = some t)
    (hjoins : ∀ u, t.joins u = false) (hlead : lead = .any ∨ (lead = .noParen ∧ t ≠ .leftParen))
    (h : ∀ next, next.tokens = state.tokens.tail → Respaces .any (f ()) (f' ()) next) :
    Respaces lead (Parser.advance >>= f) (Parser.advance >>= f') state :=
  .advance hnext hlead fun next htokens => (h next htokens).behind hjoins

section Separators

variable {token : Token} (hjoins : ∀ u, token.joins u = false) (hparen : token ≠ .leftParen)
include hjoins hparen

lemma Respaces.eat {f f' : Bool → Parser β} (hlead : lead = .any ∨ lead = .noParen)
    (htrue : ∀ next, Respaces .any (f true) (f' true) next)
    (hfalse : next? state ≠ some token → Respaces lead (f false) (f' false) state) :
    Respaces lead (eat token >>= f) (eat token >>= f') state := by
  unfold Parser.eat
  rw [bind_assoc, bind_assoc]
  refine Respaces.peek ?_
  split
  · rename_i hnext
    rw [bind_assoc, bind_assoc]
    refine Respaces.over hnext hjoins (hlead.imp_right fun h => ⟨h, hparen⟩) fun next _ => ?_
    rw [pure_bind, pure_bind]
    exact htrue next
  · rename_i hnext
    rw [pure_bind, pure_bind]
    exact hfalse hnext

lemma Respaces.expect {what : Expectation} {f f' : Unit → Parser β}
    (h : ∀ next, Respaces .any (f ()) (f' ()) next) :
    Respaces .noParen (expect token what >>= f) (expect token what >>= f') state := by
  unfold Parser.expect
  rw [bind_assoc, bind_assoc]
  refine Respaces.eat hjoins hparen (.inr rfl) (fun next => ?_) fun _ => ?_
  · rw [if_pos rfl, pure_bind, pure_bind]
    exact h next
  · rw [if_neg (by simp)]
    exact respaces_of_fails fun _ _ hx => nomatch hx

end Separators

end Tokens

/-! ## Repetition -/

lemma respaces_repeatUpTo {step : Parser (Option α)}
    (hstep : ∀ state, Respaces .noParen step step state) (fuel : Nat) :
    ∀ state, Respaces .noParen (repeatUpTo step fuel) (repeatUpTo step fuel) state := by
  induction fuel with
  | zero => exact fun state => .pure []
  | succ fuel ih =>
    intro state
    refine (hstep state).bind fun x? next => ?_
    cases x? with
    | none => exact .pure []
    | some x => exact (ih next).bind fun xs next => .pure (x :: xs)

lemma respaces_many {step : Parser (Option α)}
    (hstep : ∀ state, Respaces .noParen step step state) (state : ParserState) :
    Respaces .noParen (many step) (many step) state := by
  intro xs next hxs
  obtain ⟨hspaced, hsame⟩ := respaces_repeatUpTo hstep state.tokens.length state xs next hxs
  refine ⟨hspaced, fun state' hstate hgiven => ?_⟩
  obtain ⟨next', hxs', hnext⟩ := hsame state' hstate hgiven
  rw [← hstate.length_eq] at hxs'
  exact ⟨next', hxs', hnext⟩

/-- A list of items, the first of which may have a lead. -/
lemma respaces_separated {separator : Token} (hjoins : ∀ u, separator.joins u = false)
    (hparen : separator ≠ .leftParen) {item : Parser α}
    (hitem : ∀ state, Respaces .any item item state) (hfirst : Respaces lead item item state) :
    Respaces lead (separated separator item) (separated separator item) state := by
  refine hfirst.bind fun first next => ?_
  refine (respaces_many (fun state => ?_) next).bind fun others next => .pure (first, others)
  refine Respaces.eat hjoins hparen (.inr rfl) (fun next => ?_) fun _ => ?_
  · exact (hitem next).map some
  · exact .pure none

lemma respaces_chained {operator : Token} (hjoins : ∀ u, operator.joins u = false)
    (hparen : operator ≠ .leftParen) (combine : Expr → Expr → Expr) {item : Parser Expr}
    (hitem : ∀ state, Respaces .any item item state) (state : ParserState) :
    Respaces .any (chained operator combine item) (chained operator combine item) state := by
  refine (respaces_separated hjoins hparen hitem (hitem state)).bind fun read next => ?_
  exact .pure (read.2.foldl combine read.1)

end Parser

end JsonPath
