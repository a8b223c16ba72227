import JsonPath.Proofs.Depth.Openings
import JsonPath.Proofs.Parser.Outcomes
import JsonPath.Proofs.Spacing.Adjacency

/-!
# Readers with more levels

`Parser.Deepens d opened p p' Q state` compares, in one state, a reader `p` to which `d` levels are
allowed with the same reader `p'` to which more are.  Where `opened` is open before the state,

* `p` succeeds, passes over its tokens within `d` levels, and `p'` does the same, or
* `p` fails, and `p'` fails in the same way, or
* `p` fails for want of levels, at the first token that goes beyond `d` of them.

`Q` tells what is open where the readers leave off.  There is one rule for each way to put readers
together.
-/

namespace JsonPath.Parser

open Opening

/-- How the result of a reader with `d` levels compares with the one of the reader with more. -/
inductive Deepened {α : Type} (d : Nat) (opened : List Opening) (Q : List Opening → Prop)
    (ts : List Spanned) :
    EStateM.Result Failure ParserState α → EStateM.Result Failure ParserState α → Prop
  | read {x : α} {next : ParserState} {opened' : List Opening}
      (hpasses : Passes d opened ts opened' next.tokens) (hopened : Q opened') :
      Deepened d opened Q ts (.ok x next) (.ok x next)
  | failed {e : Failure} {next : ParserState} :
      Deepened d opened Q ts (.error e next) (.error e next)
  | tooDeep {t : Spanned} {next : ParserState} {result' : EStateM.Result Failure ParserState α}
      (hexceeds : Exceeds d t opened ts) :
      Deepened d opened Q ts (.error ⟨t.start, .tooDeep d⟩ next) result'

/-- With more levels the reader `p'` does the same as `p` as long as `p` has enough of them. -/
def Deepens {α : Type} (d : Nat) (opened : List Opening) (p p' : Parser α)
    (Q : List Opening → Prop) (state : ParserState) : Prop :=
  levels opened ≤ d → Deepened d opened Q state.tokens (p state) (p' state)

variable {α β : Type} {d : Nat} {opened : List Opening} {state : ParserState}
  {P Q : List Opening → Prop}

/-! ## Sequences -/

/-- What has been passed over before makes no difference. -/
lemma Deepened.after {opened' : List Opening} {ts ts' : List Spanned}
    {result result' : EStateM.Result Failure ParserState α}
    (h : Deepened d opened' Q ts' result result') (hpasses : Passes d opened ts opened' ts') :
    Deepened d opened Q ts result result' := by
  cases h with
  | read hpasses' hopened => exact .read (hpasses.trans hpasses') hopened
  | failed => exact .failed
  | tooDeep hexceeds => exact .tooDeep (hpasses.exceeds hexceeds)

/-- A reader that passes over no token. -/
lemma Keeps.deepens {p : Parser α} (h : Keeps SameTokens p) (hQ : Q opened) :
    Deepens d opened p p Q state := by
  intro hlevels
  have htokens := h state
  unfold after at htokens
  cases hp : p state with
  | ok x next =>
    rw [hp] at htokens
    exact .read (htokens ▸ .refl hlevels) hQ
  | error e next => exact .failed

lemma Deepens.pure {x : α} (h : Q opened) : Deepens d opened (pure x) (pure x) Q state :=
  Keeps.deepens (fun _ => rfl) h

lemma deepens_failAt (position : Nat) (what : Expectation) :
    Deepens d opened (failAt position what : Parser α) (failAt position what) Q state :=
  fun _ => .failed

lemma deepens_failHere (what : Expectation) :
    Deepens d opened (failHere what : Parser α) (failHere what) Q state :=
  fun _ => .failed

lemma deepens_failAtStop (what : Expectation) :
    Deepens d opened (do failAt (← previousStop) what : Parser α)
      (do failAt (← previousStop) what) Q state :=
  fun _ => .failed

lemma Deepens.imp {p p' : Parser α} (hp : Deepens d opened p p' P state)
    (h : ∀ opened', P opened' → Q opened') : Deepens d opened p p' Q state := by
  intro hlevels
  have hp := hp hlevels
  generalize p state = result, p' state = result' at hp ⊢
  cases hp with
  | read hpasses hopened => exact .read hpasses (h _ hopened)
  | failed => exact .failed
  | tooDeep hexceeds => exact .tooDeep hexceeds

lemma Deepens.bind {p p' : Parser α} {f f' : α → Parser β} (hp : Deepens d opened p p' P state)
    (hf : ∀ x next opened', P opened' → Deepens d opened' (f x) (f' x) Q next) :
    Deepens d opened (p >>= f) (p' >>= f') Q state := by
  intro hlevels
  have hp := hp hlevels
  generalize hresult : p state = result, hresult' : p' state = result' at hp
  cases hp with
  | failed =>
    rw [bind_of_error hresult, bind_of_error hresult']
    exact .failed
  | tooDeep hexceeds =>
    rw [bind_of_error hresult]
    exact .tooDeep hexceeds
  | @read x next opened' hpasses hopened =>
    rw [bind_of_ok hresult, bind_of_ok hresult']
    exact (hf x next opened' hopened hpasses.levels_le).after hpasses

lemma Deepens.map {p p' : Parser α} (g : α → β) (hp : Deepens d opened p p' Q state) :
    Deepens d opened (g <$> p) (g <$> p') Q state := by
  rw [map_eq_pure_bind, map_eq_pure_bind]
  exact hp.bind fun x next opened' hopened => .pure hopened

/-! ## Single tokens -/

section Tokens

lemma Deepens.peek {f f' : Option Token → Parser β}
    (h : Deepens d opened (f (next? state)) (f' (next? state)) Q state) :
    Deepens d opened (peek >>= f) (peek >>= f') Q state := h

lemma Deepens.peekSecond {f f' : Option Token → Parser β}
    (h : Deepens d opened (f (state.tokens.tail.head?.map Spanned.token))
      (f' (state.tokens.tail.head?.map Spanned.token)) Q state) :
    Deepens d opened (peekSecond >>= f) (peekSecond >>= f') Q state :=
  h

lemma Deepens.offset {f f' : Nat → Parser β}
    (h : ∀ position, Deepens d opened (f position) (f' position) Q state) :
    Deepens d opened (offset >>= f) (offset >>= f') Q state :=
  h _

lemma Deepens.isAdjacent {f f' : Bool → Parser β}
    (h : ∀ adjacent, Deepens d opened (f adjacent) (f' adjacent) Q state) :
    Deepens d opened (isAdjacent >>= f) (isAdjacent >>= f') Q state :=
  h _

/-- Passes over the next token, which opens no level. -/
lemma Deepens.advance {f f' : Unit → Parser β} {t : Token} (hnext : next? state = some t)
    (hlevel : levels (behind opened t) ≤ levels opened)
    (h : ∀ next, next.tokens = state.tokens.tail →
      Deepens d (behind opened t) (f ()) (f' ()) Q next) :
    Deepens d opened (advance >>= f) (advance >>= f') Q state := by
  obtain ⟨tokens, stop, textEnd, diagnostics⟩ := state
  obtain ⟨u, ts, rfl, rfl⟩ := exists_of_next? hnext
  intro hlevels
  have hbehind : levels (behind opened u.token) ≤ d := Nat.le_trans hlevel hlevels
  exact (h ⟨ts, u.stop, textEnd, diagnostics⟩ rfl hbehind).after (.single hlevels hbehind)

section Separators

variable {token : Token} (hlevel : ∀ opened, levels (behind opened token) ≤ levels opened)
include hlevel

lemma Deepens.eat {f f' : Bool → Parser β}
    (htrue : ∀ next, Deepens d (behind opened token) (f true) (f' true) Q next)
    (hfalse : next? state ≠ some token → Deepens d opened (f false) (f' false) Q state) :
    Deepens d opened (eat token >>= f) (eat token >>= f') Q state := by
  unfold Parser.eat
  rw [bind_assoc, bind_assoc]
  refine Deepens.peek ?_
  split
  · rename_i hnext
    rw [bind_assoc, bind_assoc]
    refine Deepens.advance hnext (hlevel opened) fun next _ => ?_
    rw [pure_bind, pure_bind]
    exact htrue next
  · rename_i hnext
    rw [pure_bind, pure_bind]
    exact hfalse hnext

lemma Deepens.expect {what : Expectation} {f f' : Unit → Parser β}
    (h : ∀ next, Deepens d (behind opened token) (f ()) (f' ()) Q next) :
    Deepens d opened (expect token what >>= f) (expect token what >>= f') Q state := by
  unfold Parser.expect
  rw [bind_assoc, bind_assoc]
  refine Deepens.eat hlevel (fun next => ?_) fun _ => ?_
  · rw [if_pos rfl, pure_bind, pure_bind]
    exact h next
  · rw [if_neg (by simp)]
    exact fun _ => .failed

end Separators

end Tokens

/-! ## Repetition -/

/-- A step that can be repeated wherever `P` holds of what is open. -/
lemma deepens_repeatUpTo {step step' : Parser (Option α)}
    (hstep : ∀ opened state, P opened → Deepens d opened step step' P state) (fuel : Nat) :
    ∀ opened state, P opened →
      Deepens d opened (repeatUpTo step fuel) (repeatUpTo step' fuel) P state := by
  induction fuel with
  | zero => exact fun opened state hopened => .pure hopened
  | succ fuel ih =>
    intro opened state hopened
    refine (hstep opened state hopened).bind fun x? next opened' hopened' => ?_
    cases x? with
    | none => exact .pure hopened'
    | some x => exact (ih opened' next hopened').bind fun xs next _ hopened => .pure hopened

lemma deepens_many {step step' : Parser (Option α)}
    (hstep : ∀ opened state, P opened → Deepens d opened step step' P state)
    (hopened : P opened) : Deepens d opened (many step) (many step') P state :=
  deepens_repeatUpTo hstep state.tokens.length opened state hopened

/-- Items with separators between them.  What an item leaves open, a separator brings back to what
is open before an item. -/
lemma deepens_separated {separator : Token}
    (hlevel : ∀ opened, levels (behind opened separator) ≤ levels opened)
    (hseparator : ∀ opened', P opened' → behind opened' separator = opened)
    {item item' : Parser α} (hitem : ∀ state, Deepens d opened item item' P state) :
    Deepens d opened (separated separator item) (separated separator item') P state := by
  refine (hitem state).bind fun first next opened' hopened' => ?_
  refine (deepens_many (fun opened' state hopened' => ?_) hopened').bind
    fun others next opened'' hopened'' => .pure hopened''
  refine Deepens.eat hlevel (fun next => ?_) fun _ => .pure hopened'
  rw [hseparator opened' hopened']
  exact (hitem next).map some

lemma deepens_chained {operator : Token} (hoperator : ∀ opened, behind opened operator = opened)
    (combine : Expr → Expr → Expr) {item item' : Parser Expr}
    (hitem : ∀ state, Deepens d opened item item' (· = opened) state) (state : ParserState) :
    Deepens d opened (chained operator combine item) (chained operator combine item')
      (· = opened) state := by
  have hlevel : ∀ opened, levels (behind opened operator) ≤ levels opened :=
    fun opened => by rw [hoperator]
  refine (deepens_separated hlevel ?_ hitem).bind fun items next opened' hopened' => .pure hopened'
  rintro _ rfl
  exact hoperator _

end JsonPath.Parser
