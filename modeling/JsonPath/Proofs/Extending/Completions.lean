import JsonPath.Proofs.Parser.Outcomes
import JsonPath.Proofs.Parser.Reads
import JsonPath.Proofs.Spacing.Adjacency

/-!
# Readers and completions

A reader that fails for want of something has read tokens up to the position of its failure, and the
question is whether they can be completed.  `Parser.Extends` compares, in one state, a reader `p`
with a reader `p'` that may go one level deeper and reports less.

* If `p` succeeds, `p'` reads the same tokens with the same value, also when other tokens follow
  them: they have to start as those that were there, or to close something that is open.
* If `p` fails for want of something, there are tokens to put in place of those from the position
  of the failure on, so that `p'` succeeds on what has been read and on them, whatever closes what
  is open behind them.  A failure at a position that the caller knows of is left to the caller.

The tokens that are put in are *fillers*, a few fixed ones.  There is one rule for each way to put
readers together.
-/

namespace JsonPath

/-! ## Fillers -/

/-- A token that completes what has been read. -/
inductive Filler where
  | current
  | word
  | string
  | number
  | equals
  | leftBracket
  | rightBracket
  | leftParen
  | rightParen

namespace Filler

def token : Filler → Token
  | .current => .current
  | .word => .name "a"
  | .string => .string "a"
  | .number => .number "0"
  | .equals => .comparison .eq
  | .leftBracket => .leftBracket
  | .rightBracket => .rightBracket
  | .leftParen => .leftParen
  | .rightParen => .rightParen

/-- Whether a filler may stand directly behind a token, where no blank may stand. -/
def continues : Token → Filler → Bool
  | .dot, .word => true
  | .doubleDot, .word => true
  | .name _, .leftParen => true
  | _, _ => false

/-- The tokens are those of the fillers, wherever they stand. -/
def Are (fs : List Filler) (ks : List Spanned) : Prop := ks.map Spanned.token = fs.map token

lemma are_cons {f : Filler} {fs : List Filler} {ks : List Spanned} (h : Are (f :: fs) ks) :
    ∃ t ts, ks = t :: ts ∧ t.token = f.token ∧ Are fs ts := by
  obtain ⟨t, ts, rfl, ht, hts⟩ := List.map_eq_cons_iff.1 h
  exact ⟨t, ts, rfl, ht, hts⟩

lemma are_nil {ks : List Spanned} (h : Are [] ks) : ks = [] := List.map_eq_nil_iff.1 h

lemma are_singleton {f : Filler} {ks : List Spanned} (h : Are [f] ks) :
    ∃ t, ks = [t] ∧ t.token = f.token := by
  obtain ⟨t, ts, rfl, ht, hts⟩ := are_cons h
  exact ⟨t, by rw [are_nil hts], ht⟩

end Filler

namespace Parser

/-- The first of some tokens. -/
def nextOf (ts : List Spanned) : Option Token := ts.head?.map Spanned.token

lemma exists_of_nextOf {ts : List Spanned} {token : Token} (h : nextOf ts = some token) :
    ∃ t us, ts = t :: us ∧ t.token = token := by
  cases ts with
  | nil => cases h
  | cons t us => exact ⟨t, us, rfl, Option.some.inj h⟩

/-- Where the tokens start; without one, where the text ends. -/
def startOf (textEnd : Nat) (ts : List Spanned) : Nat := (ts.head?.map Spanned.start).getD textEnd

/-- The position of the next token, as the reader `offset` finds it. -/
def Here (state : ParserState) (position : Nat) : Prop :=
  position = startOf state.textEnd state.tokens

/-- The position between the tokens `us` and the tokens `vs` from which on fillers are put: where
`vs` start, or directly behind `us` where no blank may stand. -/
inductive IsEdge (us vs : List Spanned) (textEnd : Nat) (fs : List Filler) : Bool → Nat → Prop
  | far {position : Nat} (h : position = startOf textEnd vs) :
      IsEdge us vs textEnd fs false position
  | near {position : Nat} {t : Spanned} (ht : us.getLast? = some t)
      (hcontinues : ∀ f ∈ fs.head?, Filler.continues t.token f) (h : position = t.stop) :
      IsEdge us vs textEnd fs true position

/-- The tokens `ts'` can stand in the place of `ts` behind what has been read: they start with the
same token, or with one that closes. -/
def MayFollow (closers : List (Option Token)) (ts ts' : List Spanned) : Prop :=
  nextOf ts' = nextOf ts ∨ nextOf ts' ∈ closers

/-- What is claimed of the tokens that a reader has read and of its value.  What holds of completed
tokens may rest on what is given of those before the position of the failure. -/
structure Goal (α : Type) where
  given : List Spanned → Prop
  read : List Spanned → α → Prop
  completed : List Spanned → α → Prop

/-- What is left to claim when the tokens `us` have been read. -/
def Goal.after {α : Type} (P : Goal α) (us : List Spanned) : Goal α where
  given vs := P.given (us ++ vs)
  read vs := P.read (us ++ vs)
  completed vs := P.completed (us ++ vs)

/-- What the second goal claims follows from what the first one does. -/
structure Goal.Entails {α : Type} (P P' : Goal α) : Prop where
  given : ∀ us, P'.given us → P.given us
  read : ∀ us x, P.read us x → P'.read us x
  completed : ∀ us x, P'.given us → P.completed us x → P'.completed us x

lemma Goal.Entails.refl {α : Type} (P : Goal α) : P.Entails P :=
  ⟨fun _ h => h, fun _ _ h => h, fun _ _ _ h => h⟩

/-- The reader `p'` reads the tokens `us` and then fillers, up to something that closes. -/
def Completes {α : Type} (closers : List (Option Token)) (p' : Parser α) (stop : Nat)
    (us : List Spanned) (fs : List Filler) (near : Bool) (position : Nat) (Q : α → Prop) : Prop :=
  ∀ ks rest, Filler.Are fs ks → (near = true → ∀ k ∈ ks.head?, k.start = position) →
    nextOf rest ∈ closers →
    ∃ y stop', Reads p' ⟨us ++ (ks ++ rest), stop⟩ y ⟨rest, stop'⟩ ∧ Q y

/-- The reader `p'` reads fillers alone, up to something that closes. -/
def ReadsFillers {α : Type} (closers : List (Option Token)) (p' : Parser α) (fs : List Filler)
    (Q : α → Prop) : Prop :=
  ∀ stop ks rest, Filler.Are fs ks → nextOf rest ∈ closers →
    ∃ y stop', Reads p' ⟨ks ++ rest, stop⟩ y ⟨rest, stop'⟩ ∧ Q y

/-- How a result compares with the reader `p'`. -/
inductive Extended {α : Type} (closers : List (Option Token)) (known : Nat → Prop) (P : Goal α)
    (p' : Parser α) (state : ParserState) : EStateM.Result Failure ParserState α → Prop
  | read {x : α} {next : ParserState} (us : List Spanned)
      (htokens : state.tokens = us ++ next.tokens) (hend : next.textEnd = state.textEnd)
      (hread : P.read us x)
      (hstable : ∀ rest, MayFollow closers next.tokens rest →
        Reads p' ⟨us ++ rest, state.previousStop⟩ x ⟨rest, next.previousStop⟩) :
      Extended closers known P p' state (.ok x next)
  | completed {e : Failure} {next : ParserState} {near : Bool} (us vs : List Spanned)
      (fs : List Filler) (htokens : state.tokens = us ++ vs)
      (hedge : IsEdge us vs state.textEnd fs near e.offset) (hus : us ≠ []) (hfs : fs ≠ [])
      (hreads : P.given us →
        Completes closers p' state.previousStop us fs near e.offset (P.completed us)) :
      Extended closers known P p' state (.error e next)
  | known {e : Failure} {next : ParserState} (h : known e.offset) :
      Extended closers known P p' state (.error e next)
  | other {e : Failure} {next : ParserState} (h : ∀ what, e.cause ≠ .expected what) :
      Extended closers known P p' state (.error e next)

/-- What `p` reads, `p'` reads before other tokens, and what `p` has read where it fails, `p'`
completes. -/
def Extends {α : Type} (closers : List (Option Token)) (known : Nat → Prop) (P : Goal α)
    (p p' : Parser α) (state : ParserState) : Prop :=
  Extended closers known P p' state (p state)

variable {α β : Type} {closers closers' : List (Option Token)} {known known' : Nat → Prop}
  {P P' : Goal α} {Q : Goal β} {p p' : Parser α} {f f' : α → Parser β} {state : ParserState}
  {fs : List Filler}

/-! ## Sequences -/

lemma nextOf_append {us : List Spanned} (h : us ≠ []) (ts ts' : List Spanned) :
    nextOf (us ++ ts) = nextOf (us ++ ts') := by
  cases us with
  | nil => exact absurd rfl h
  | cons u us => rfl

lemma MayFollow.append {ts ts' : List Spanned} (h : MayFollow closers ts ts')
    (us : List Spanned) :
    MayFollow closers (us ++ ts) (us ++ ts') := by
  cases us with
  | nil => exact h
  | cons u us => exact .inl rfl

lemma MayFollow.mono {ts ts' : List Spanned} (h : MayFollow closers ts ts')
    (hclosers : closers ⊆ closers') : MayFollow closers' ts ts' :=
  h.imp_right fun h => hclosers h

/-- What has been read before belongs to the edge as well. -/
lemma IsEdge.append {us vs : List Spanned} {textEnd position : Nat} {near : Bool}
    (h : IsEdge us vs textEnd fs near position) (ts : List Spanned) :
    IsEdge (ts ++ us) vs textEnd fs near position := by
  cases h with
  | far h => exact .far h
  | near ht hcontinues h =>
    refine .near ?_ hcontinues h
    rw [List.getLast?_append, ht]
    rfl

/-- More fillers at the end are put from the same position on. -/
lemma IsEdge.append_fillers {us vs : List Spanned} {textEnd position : Nat} {near : Bool}
    (h : IsEdge us vs textEnd fs near position) (hfs : fs ≠ []) (gs : List Filler) :
    IsEdge us vs textEnd (fs ++ gs) near position := by
  cases h with
  | far h => exact .far h
  | near ht hcontinues h =>
    refine .near ht ?_ h
    cases fs with
    | nil => exact absurd rfl hfs
    | cons f fs => exact hcontinues

lemma Extends.mono (h : Extends closers' known' P' p p' state) (hclosers : closers ⊆ closers')
    (hknown : ∀ position, known' position → known position) (hP : P'.Entails P) :
    Extends closers known P p p' state := by
  unfold Extends at h ⊢
  generalize p state = result at h
  cases h with
  | read us htokens hend hvalue hstable =>
    exact .read _ htokens hend (hP.read _ _ hvalue) fun rest hrest =>
      hstable rest (hrest.mono hclosers)
  | completed us vs fs htokens hedge hus hfs hreads =>
    refine .completed _ _ _ htokens hedge hus hfs fun hgiven ks rest hks hnear hrest => ?_
    obtain ⟨y, stop, hy, hQ⟩ := hreads (hP.given _ hgiven) ks rest hks hnear (hclosers hrest)
    exact ⟨y, stop, hy, hP.completed _ _ hgiven hQ⟩
  | known h => exact .known (hknown _ h)
  | other h => exact .other h

lemma Extends.imp_known (h : Extends closers known' P p p' state)
    (hknown : ∀ position, known' position → known position) : Extends closers known P p p' state :=
  h.mono (List.Subset.refl _) hknown (.refl P)

/-- Where nothing is left to the caller, it may know of anything. -/
lemma Extends.of_false (h : Extends closers (fun _ => False) P p p' state) :
    Extends closers known P p p' state := h.imp_known fun _ h => h.elim

lemma Extends.pure {x : α} (h : P.read [] x) :
    Extends closers known P (Pure.pure x) (Pure.pure x) state :=
  .read [] rfl rfl h fun _ _ => .pure _ _

/-- A reading that does not depend on what follows. -/
lemma Extends.of_reads (us : List Spanned) {ts : List Spanned} {x : α} {stop : Nat}
    (htokens : state.tokens = us ++ ts) (hread : P.read us x)
    (hp : Reads p ⟨us ++ ts, state.previousStop⟩ x ⟨ts, stop⟩)
    (hp' : ∀ rest, MayFollow closers ts rest →
      Reads p' ⟨us ++ rest, state.previousStop⟩ x ⟨rest, stop⟩) :
    Extends closers known P p p' state := by
  obtain ⟨diagnostics, hp⟩ := hp state.textEnd state.diagnostics
  obtain ⟨tokens, previousStop, textEnd, diagnostics'⟩ := state
  subst htokens
  unfold Extends
  rw [hp]
  exact .read us rfl rfl hread hp'

lemma extends_failHere_of (h : known (startOf state.textEnd state.tokens)) (what : Expectation) :
    Extends closers known P (failHere what) p' state := .known h

lemma extends_failHere (what : Expectation) :
    Extends closers (Here state) P (failHere what) p' state := by
  refine extends_failHere_of ?_ what
  rfl

/-- What holds of the reader `p'` behind the tokens `us` holds of a reader `q'` that reads these
first, wherever `q'` then goes on as `p'`.  Where the result is a failure at the start of what `p'`
reads, the whole is completed by the fillers `fs`, if there are any. -/
lemma Extended.prepend {q' : Parser α} {next : ParserState}
    {result : EStateM.Result Failure ParserState α} (us : List Spanned) (fs : List Filler)
    (allowed : List Spanned → Prop) (htokens : state.tokens = us ++ next.tokens)
    (hnext : next.textEnd = state.textEnd)
    (hallowed : ∀ ts, MayFollow closers next.tokens ts → allowed ts)
    (hreads : ∀ ts, allowed ts → ∀ y c, Reads p' ⟨ts, next.previousStop⟩ y c →
      Reads q' ⟨us ++ ts, state.previousStop⟩ y c)
    (hfs : fs ≠ [] → us ≠ [] ∧ (∀ ks rest, Filler.Are fs ks → allowed (ks ++ rest)) ∧
      ReadsFillers closers p' fs (P.completed us))
    (h : Extended closers (fun position => known position ∨ (fs ≠ [] ∧ Here next position))
      (P.after us) p' next result) :
    Extended closers known P q' state result := by
  cases h with
  | @read y last vs htokens' hlast hread hstable =>
    refine .read _ (by rw [htokens, htokens', List.append_assoc]) (hlast.trans hnext) hread
      fun rest hrest => ?_
    rw [List.append_assoc]
    refine hreads _ (hallowed _ ?_) _ _ (hstable rest hrest)
    rw [htokens']
    exact hrest.append vs
  | completed vs ws gs htokens' hedge hvs hgs hcompletes =>
    have hne : us ++ vs ≠ [] := fun h => hvs (List.append_eq_nil_iff.1 h).2
    refine .completed _ _ _ (by rw [htokens, htokens', List.append_assoc])
      (hnext ▸ hedge.append us) hne hgs fun hgiven ks rest hks hnear hrest => ?_
    obtain ⟨y, stop, hy, hcompleted⟩ := hcompletes hgiven ks rest hks hnear hrest
    refine ⟨y, stop, ?_, hcompleted⟩
    rw [List.append_assoc]
    refine hreads _ (hallowed _ (.inl ?_)) _ _ hy
    rw [htokens']
    exact nextOf_append hvs _ _
  | @known e last h =>
    rcases h with h | ⟨hne, hposition⟩
    · exact .known h
    · obtain ⟨hus, hfollow, hfillers⟩ := hfs hne
      have hedge : IsEdge us next.tokens state.textEnd fs false e.offset := by
        rw [← hnext]
        exact .far hposition
      refine .completed _ _ _ htokens hedge hus hne fun _ ks rest hks _ hrest => ?_
      obtain ⟨y, stop, hy, hcompleted⟩ := hfillers next.previousStop ks rest hks hrest
      exact ⟨y, stop, hreads _ (hfollow ks rest hks) _ _ hy, hcompleted⟩
  | other h => exact .other h

/-- One reader after another.  Where the second one fails at its start, the whole is completed by
the fillers `fs`, if there are any; they follow the value that the first one read. -/
lemma Extends.bindOr (fs : α → List Filler) (hclosers : closers ⊆ closers')
    (hp : Extends closers' known P p p' state)
    (hf : ∀ us x next, state.tokens = us ++ next.tokens → next.textEnd = state.textEnd →
      P.read us x →
      Extends closers (fun position => known position ∨ (fs x ≠ [] ∧ Here next position))
        (Q.after us) (f x) (f' x) next)
    (hfs : ∀ us x, P.read us x → fs x ≠ [] → us ≠ [] ∧
      (∀ ks rest, Filler.Are (fs x) ks → nextOf (ks ++ rest) ∈ closers') ∧
      ReadsFillers closers (f' x) (fs x) (Q.completed us))
    (hend : ∀ us x, Q.given us → P.completed us x → ∀ rest stop, nextOf rest ∈ closers →
      ∃ y stop', Reads (f' x) ⟨rest, stop⟩ y ⟨rest, stop'⟩ ∧ Q.completed us y)
    (hgiven : ∀ us, Q.given us → P.given us) :
    Extends closers known Q (p >>= f) (p' >>= f') state := by
  unfold Extends at hp ⊢
  generalize hresult : p state = result at hp
  cases hp with
  | @read x next us htokens hnext hread hstable =>
    rw [bind_of_ok hresult]
    refine .prepend us (fs x) (MayFollow closers' next.tokens) htokens hnext
      (fun ts hts => hts.mono hclosers) (fun ts hts y c hy => (hstable ts hts).bind hy)
      (fun hne => ?_) (hf us x next htokens hnext hread)
    obtain ⟨hus, hnext', hreads⟩ := hfs us x hread hne
    exact ⟨hus, fun ks rest hks => .inr (hnext' ks rest hks), hreads⟩
  | completed us vs gs htokens hedge hus hgs hreads =>
    rw [bind_of_error hresult]
    refine .completed _ _ _ htokens hedge hus hgs fun hgiven' ks rest hks hnear hrest => ?_
    obtain ⟨x, stop, hx, hcompleted⟩ :=
      hreads (hgiven us hgiven') ks rest hks hnear (hclosers hrest)
    obtain ⟨y, stop', hy, hcompleted'⟩ := hend us x hgiven' hcompleted rest stop hrest
    exact ⟨y, stop', hx.bind hy, hcompleted'⟩
  | known h =>
    rw [bind_of_error hresult]
    exact .known h
  | other h =>
    rw [bind_of_error hresult]
    exact .other h

/-- One reader after another, where the second one does not fail at its start. -/
lemma Extends.bind (hp : Extends closers known P p p' state)
    (hf : ∀ us x next, state.tokens = us ++ next.tokens → next.textEnd = state.textEnd →
      P.read us x →
      Extends closers known (Q.after us) (f x) (f' x) next)
    (hend : ∀ us x, Q.given us → P.completed us x → ∀ rest stop, nextOf rest ∈ closers →
      ∃ y stop', Reads (f' x) ⟨rest, stop⟩ y ⟨rest, stop'⟩ ∧ Q.completed us y)
    (hgiven : ∀ us, Q.given us → P.given us) :
    Extends closers known Q (p >>= f) (p' >>= f') state := by
  refine hp.bindOr (fun _ => []) (List.Subset.refl _) (fun us x next htokens hnext hread => ?_)
    (fun _ _ _ h => absurd rfl h) hend hgiven
  exact (hf us x next htokens hnext hread).imp_known fun _ h => .inl h

lemma Extends.map {g : α → β} (hp : Extends closers known P p p' state)
    (hgiven : ∀ us, Q.given us → P.given us) (hread : ∀ us x, P.read us x → Q.read us (g x))
    (hcompleted : ∀ us x, Q.given us → P.completed us x → Q.completed us (g x)) :
    Extends closers known Q (g <$> p) (g <$> p') state := by
  rw [map_eq_pure_bind, map_eq_pure_bind]
  refine hp.bind (fun us x next _ _ hx => .pure ?_)
    (fun us x hQ hx rest stop _ => ⟨g x, stop, .pure _ _, hcompleted us x hQ hx⟩) hgiven
  show Q.read (us ++ []) (g x)
  rw [List.append_nil]
  exact hread us x hx

/-! ## Tokens -/

/-- A reader `q` that reads the tokens `us` and then goes on as `p`.  Where that fails at its start,
the whole is completed by the fillers `fs`, if there are any. -/
lemma Extends.overOr {q q' : Parser α} (us : List Spanned) (next : ParserState)
    (p p' : Parser α) (fs : List Filler) (htokens : state.tokens = us ++ next.tokens)
    (hnext : next.textEnd = state.textEnd) (hq : q state = p next)
    (hq' : ∀ ts y c, Reads p' ⟨ts, next.previousStop⟩ y c →
      Reads q' ⟨us ++ ts, state.previousStop⟩ y c)
    (hfs : fs ≠ [] → us ≠ [] ∧ ReadsFillers closers p' fs (P.completed us))
    (h : Extends closers (fun position => known position ∨ (fs ≠ [] ∧ Here next position))
      (P.after us) p p' next) :
    Extends closers known P q q' state := by
  unfold Extends at h ⊢
  rw [hq]
  refine .prepend us fs (fun _ => True) htokens hnext (fun _ _ => trivial)
    (fun ts _ y c => hq' ts y c) (fun hne => ?_) h
  obtain ⟨hus, hreads⟩ := hfs hne
  exact ⟨hus, fun _ _ _ => trivial, hreads⟩

lemma Extends.over {q q' : Parser α} (us : List Spanned) (next : ParserState) (p p' : Parser α)
    (htokens : state.tokens = us ++ next.tokens) (hnext : next.textEnd = state.textEnd)
    (hq : q state = p next)
    (hq' : ∀ ts y c, Reads p' ⟨ts, next.previousStop⟩ y c →
      Reads q' ⟨us ++ ts, state.previousStop⟩ y c)
    (h : Extends closers known (P.after us) p p' next) : Extends closers known P q q' state :=
  .overOr us next p p' [] htokens hnext hq hq' (fun h => absurd rfl h)
    (h.imp_known fun _ h => .inl h)

/-- A look at the next token, which is then read. -/
lemma Extends.look {γ : Type} {q : Parser γ} {f f' : γ → Parser β} {x : γ}
    (hq : q state = .ok x state)
    (hlook : ∀ u us ts, state.tokens = u :: us →
      Reads q ⟨u :: ts, state.previousStop⟩ x ⟨u :: ts, state.previousStop⟩)
    (hread : ∀ us y, Q.read us y → us ≠ [])
    (h : Extends closers known Q (f x) (f' x) state) :
    Extends closers known Q (q >>= f) (q >>= f') state := by
  unfold Extends at h ⊢
  rw [bind_of_ok hq]
  generalize f x state = result at h
  have hsame {us vs : List Spanned} (htokens : state.tokens = us ++ vs) (hus : us ≠ [])
      (rest : List Spanned) :
      Reads q ⟨us ++ rest, state.previousStop⟩ x ⟨us ++ rest, state.previousStop⟩ := by
    cases us with
    | nil => exact absurd rfl hus
    | cons u us => exact hlook u (us ++ vs) (us ++ rest) htokens
  cases h with
  | read us htokens hlast hvalue hstable =>
    exact .read _ htokens hlast hvalue fun rest hrest =>
      (hsame htokens (hread _ _ hvalue) rest).bind (hstable rest hrest)
  | completed us vs fs htokens hedge hus hfs hcompletes =>
    refine .completed _ _ _ htokens hedge hus hfs fun hgiven ks rest hks hnear hrest => ?_
    obtain ⟨y, stop, hy, hcompleted⟩ := hcompletes hgiven ks rest hks hnear hrest
    exact ⟨y, stop, (hsame htokens hus _).bind hy, hcompleted⟩
  | known h => exact .known h
  | other h => exact .other h

lemma Extends.peek {f f' : Option Token → Parser β} (hread : ∀ us y, Q.read us y → us ≠ [])
    (h : Extends closers known Q (f (nextOf state.tokens)) (f' (nextOf state.tokens)) state) :
    Extends closers known Q (Parser.peek >>= f) (Parser.peek >>= f') state := by
  refine .look rfl (fun u us ts htokens => ?_) hread h
  rw [htokens]
  exact reads_peek _

lemma Extends.offset {f f' : Nat → Parser β} (hread : ∀ us y, Q.read us y → us ≠ [])
    (h : Extends closers known Q (f (startOf state.textEnd state.tokens))
      (f' (startOf state.textEnd state.tokens)) state) :
    Extends closers known Q (Parser.offset >>= f) (Parser.offset >>= f') state := by
  refine .look rfl (fun u us ts htokens => ?_) hread h
  rw [htokens]
  exact fun _ diagnostics => ⟨diagnostics, rfl⟩

lemma advance_of_cons {t : Spanned} {ts : List Spanned} (htokens : state.tokens = t :: ts) :
    Parser.advance state = .ok () ⟨ts, t.stop, state.textEnd, state.diagnostics⟩ := by
  obtain ⟨tokens, stop, textEnd, diagnostics⟩ := state
  subst htokens
  rfl

/-- The token that comes next.  Where the rest fails at its start, the whole is completed by the
fillers `fs`, if there are any. -/
lemma Extends.advanceOr {t : Spanned} {ts : List Spanned} {f f' : Unit → Parser β}
    (fs : List Filler) (htokens : state.tokens = t :: ts)
    (hfs : fs ≠ [] → ReadsFillers closers (f' ()) fs (Q.completed [t]))
    (h : ∀ next, next.tokens = ts → Extends closers
      (fun position => known position ∨ (fs ≠ [] ∧ Here next position)) (Q.after [t]) (f ())
      (f' ()) next) :
    Extends closers known Q (Parser.advance >>= f) (Parser.advance >>= f') state := by
  refine .overOr [t] ⟨ts, t.stop, state.textEnd, state.diagnostics⟩ (f ()) (f' ()) fs htokens
    rfl
    (bind_of_ok (advance_of_cons htokens)) (fun ts' y c hy => ?_)
    (fun hne => ⟨List.cons_ne_nil _ _, hfs hne⟩) (h _ rfl)
  exact (reads_advance t ts' _).bind hy

/-- The token that comes next, where the rest reads nothing. -/
lemma Extends.advance_pure {t : Spanned} {ts : List Spanned} {x : β}
    (htokens : state.tokens = t :: ts) (hread : Q.read [t] x) :
    Extends closers known Q (Parser.advance >>= fun _ => Pure.pure x)
      (Parser.advance >>= fun _ => Pure.pure x) state :=
  .advanceOr [] htokens (fun h => absurd rfl h) fun _ _ => .pure hread

lemma eat_of_ne {token : Token} (h : nextOf state.tokens ≠ some token) :
    eat token state = .ok false state := by
  have hpeek : Parser.peek state = .ok (nextOf state.tokens) state := rfl
  rw [eat, bind_of_ok hpeek, if_neg h]
  rfl

lemma eat_of_eq {t : Spanned} {ts : List Spanned} {token : Token}
    (htokens : state.tokens = t :: ts) (ht : t.token = token) :
    eat token state = .ok true ⟨ts, t.stop, state.textEnd, state.diagnostics⟩ := by
  obtain ⟨tokens, stop, textEnd, diagnostics⟩ := state
  subst htokens ht
  have hpeek : Parser.peek ⟨t :: ts, stop, textEnd, diagnostics⟩ =
      .ok (some t.token) ⟨t :: ts, stop, textEnd, diagnostics⟩ := rfl
  rw [eat, bind_of_ok hpeek, if_pos rfl]
  rfl

/-- A token that comes next.  Where the rest fails at its start, the whole is completed by the
fillers `fs`, if there are any. -/
lemma Extends.eatOr {t : Spanned} {ts : List Spanned} {token : Token} {f f' : Bool → Parser β}
    (fs : List Filler) (htokens : state.tokens = t :: ts) (ht : t.token = token)
    (hfs : fs ≠ [] → ReadsFillers closers (f' true) fs (Q.completed [t]))
    (h : ∀ next, next.tokens = ts → Extends closers
      (fun position => known position ∨ (fs ≠ [] ∧ Here next position)) (Q.after [t]) (f true)
      (f' true) next) :
    Extends closers known Q (eat token >>= f) (eat token >>= f') state := by
  refine .overOr [t] ⟨ts, t.stop, state.textEnd, state.diagnostics⟩ (f true) (f' true) fs
    htokens rfl
    (bind_of_ok (Parser.eat_of_eq htokens ht)) (fun ts' y c hy => ?_)
    (fun hne => ⟨List.cons_ne_nil _ _, hfs hne⟩) (h _ rfl)
  exact (reads_eat t ts' _ ht).bind hy

/-- A token that does not come next, and does not close either. -/
lemma Extends.eat_of_ne {token : Token} {f f' : Bool → Parser β}
    (hne : nextOf state.tokens ≠ some token) (hclosers : some token ∉ closers)
    (h : Extends closers known Q (f false) (f' false) state) :
    Extends closers known Q (eat token >>= f) (eat token >>= f') state := by
  unfold Extends at h ⊢
  rw [bind_of_ok (Parser.eat_of_ne hne)]
  generalize f false state = result at h
  cases h with
  | @read y last us htokens hlast hread hstable =>
    refine .read _ htokens hlast hread fun rest hrest => ?_
    refine (reads_eat_of_ne fun hnext => ?_).bind (hstable rest hrest)
    rcases hrest.append us with hsame | hcloses
    · exact hne (by rw [htokens, ← hsame]; exact hnext)
    · exact hclosers (hnext ▸ hcloses)
  | completed us vs fs htokens hedge hus hfs hcompletes =>
    refine .completed _ _ _ htokens hedge hus hfs fun hgiven ks rest hks hnear hrest => ?_
    obtain ⟨y, stop, hy, hcompleted⟩ := hcompletes hgiven ks rest hks hnear hrest
    refine ⟨y, stop, (reads_eat_of_ne fun hnext => hne ?_).bind hy, hcompleted⟩
    rw [htokens, nextOf_append hus vs (ks ++ rest)]
    exact hnext
  | known h => exact .known h
  | other h => exact .other h

/-! ## Closing -/

lemma expect_of_ne {token : Token} {what : Expectation} (h : nextOf state.tokens ≠ some token) :
    expect token what state =
      .error ⟨startOf state.textEnd state.tokens, .expected what⟩ state := by
  rw [expect, bind_of_ok (Parser.eat_of_ne h), if_neg (by simp)]
  rfl

lemma expect_of_eq {token : Token} {what : Expectation} {t : Spanned} {ts : List Spanned}
    (htokens : state.tokens = t :: ts) (ht : t.token = token) :
    expect token what state = .ok () ⟨ts, t.stop, state.textEnd, state.diagnostics⟩ := by
  rw [expect, bind_of_ok (Parser.eat_of_eq htokens ht), if_pos rfl]
  rfl

/-- A closing token, with which the reading ends. -/
lemma reads_closing {what : Expectation} {close : Filler} {k : Unit → Parser β} {y : β}
    (hk : k () = Pure.pure y) {t : Spanned} (ht : t.token = close.token) (rest : List Spanned)
    (stop : Nat) :
    Reads (expect close.token what >>= k) ⟨t :: rest, stop⟩ y ⟨rest, t.stop⟩ := by
  refine (reads_expect t rest stop ht).bind ?_
  rw [hk]
  exact .pure _ _

lemma nextOf_mem_closing {close : Filler} {t : Spanned} (ht : t.token = close.token)
    (rest : List Spanned) : nextOf (t :: rest) ∈ [some close.token] :=
  List.mem_singleton.2 (congrArg some ht)

/-- What is completed up to a closing token is so with that token as one more filler. -/
lemma Completes.closed {what : Expectation} {close : Filler} {k' : α → Unit → Parser β}
    {g : α → β} {stop position : Nat} {us : List Spanned} {near : Bool} {A : α → Prop}
    {B : β → Prop} (hk' : ∀ x, k' x () = Pure.pure (g x)) (hB : ∀ x, A x → B (g x))
    (h : Completes [some close.token] p' stop us fs near position A) :
    Completes closers (p' >>= fun x => expect close.token what >>= k' x) stop us (fs ++ [close])
      near position B := by
  intro ks rest hks hnear _
  rw [Filler.Are, List.map_append] at hks
  obtain ⟨ls, ts, rfl, hls, hts⟩ := List.map_eq_append_iff.1 hks
  obtain ⟨t, rfl, ht⟩ := Filler.are_singleton hts
  have hnear' : near = true → ∀ l ∈ ls.head?, l.start = position := by
    intro hnear' l hl
    refine hnear hnear' l ?_
    rw [List.head?_append, Option.mem_def.1 hl]
    rfl
  obtain ⟨x, stop', hx, hA⟩ := h ls (t :: rest) hls hnear' (nextOf_mem_closing ht rest)
  refine ⟨g x, t.stop, ?_, hB x hA⟩
  rw [List.append_assoc]
  exact hx.bind (reads_closing (hk' x) ht rest stop')

/-- A reader up to a closing token, which completes the whole where something else comes next. -/
lemma Extends.closedBy {what : Expectation} (close : Filler) {k k' : α → Unit → Parser β}
    (g : α → β) (hk : ∀ x, k x () = Pure.pure (g x)) (hk' : ∀ x, k' x () = Pure.pure (g x))
    (hp : Extends [some close.token] known P p p' state)
    (hread : ∀ us x (t : Spanned), P.read us x → t.token = close.token → Q.read (us ++ [t]) (g x))
    (hus : ∀ us x, P.read us x → us = [] → nextOf state.tokens = some close.token)
    (hclosed : ∀ us x, Q.given us → P.read us x → Q.completed us (g x))
    (hcompleted : ∀ us x, Q.given us → P.completed us x → Q.completed us (g x))
    (hgiven : ∀ us, Q.given us → P.given us) :
    Extends closers known Q (p >>= fun x => expect close.token what >>= k x)
      (p' >>= fun x => expect close.token what >>= k' x) state := by
  unfold Extends at hp ⊢
  generalize hresult : p state = result at hp
  cases hp with
  | @read x next us htokens hnext' hvalue hstable =>
    rw [bind_of_ok hresult]
    have hclose {t : Spanned} (ht : t.token = close.token) (rest : List Spanned) :
        Reads (p' >>= fun x => expect close.token what >>= k' x)
          ⟨us ++ t :: rest, state.previousStop⟩ (g x) ⟨rest, t.stop⟩ :=
      (hstable _ (.inr (nextOf_mem_closing ht rest))).bind (reads_closing (hk' x) ht rest _)
    by_cases hhead : nextOf next.tokens = some close.token
    · obtain ⟨t, ts, hnexts, ht⟩ := exists_of_nextOf hhead
      rw [bind_of_ok (expect_of_eq hnexts ht), hk]
      have htokens : state.tokens = (us ++ [t]) ++ ts := by
        rw [htokens, hnexts, List.append_assoc]
        rfl
      refine .read _ htokens hnext' (hread us x t hvalue ht) fun rest _ => ?_
      rw [List.append_assoc]
      exact hclose ht rest
    · rw [bind_of_error (expect_of_ne hhead)]
      have hne : us ≠ [] := by
        rintro rfl
        exact hhead (by rw [← hus [] x hvalue rfl, htokens]; rfl)
      have hedge : IsEdge us next.tokens state.textEnd [close] false
          (startOf next.textEnd next.tokens) := .far (by rw [hnext'])
      refine .completed _ _ _ htokens hedge hne (List.cons_ne_nil _ _)
        fun hgiven' ks rest hks _ _ => ?_
      obtain ⟨t, rfl, ht⟩ := Filler.are_singleton hks
      exact ⟨g x, t.stop, hclose ht rest, hclosed us x hgiven' hvalue⟩
  | completed us vs fs htokens hedge hus hfs hcompletes =>
    rw [bind_of_error hresult]
    refine .completed _ _ _ htokens (hedge.append_fillers hfs [close]) hus (by simp) ?_
    exact fun hgiven' => (hcompletes (hgiven us hgiven')).closed hk'
      fun x => hcompleted us x hgiven'
  | known h =>
    rw [bind_of_error hresult]
    exact .known h
  | other h =>
    rw [bind_of_error hresult]
    exact .other h

/-! ## Repetition -/

/-- How the goal of a list of values that are read by a repeated step follows from that of the
step. -/
structure Goal.Repeats (P : Goal (Option α)) (R : Goal (List α)) : Prop where
  given : ∀ us, R.given us → P.given us
  suffix : ∀ us vs, R.given (us ++ vs) → R.given vs
  read : ∀ us x?, P.read us x? → us ≠ [] ∧ ∃ x, x? = some x
  nil : R.read [] []
  cons : ∀ us x vs xs, P.read us (some x) → R.read vs xs → R.read (us ++ vs) (x :: xs)
  cons_completed : ∀ us x vs xs, P.read us (some x) → R.completed vs xs →
    R.completed (us ++ vs) (x :: xs)
  last : ∀ us x?, P.completed us x? → ∃ x, x? = some x ∧ R.completed us [x]

/-- A step that reads nothing unless one of certain tokens comes next. -/
structure Starts (starts : Option Token → Prop) (step : Parser (Option α)) : Prop where
  isStep : IsStep step
  eq_none : ∀ {state}, ¬ starts (nextOf state.tokens) → step state = .ok none state

section Repetition

variable {starts : Option Token → Prop} {step step' : Parser (Option α)} {P : Goal (Option α)}
  {R : Goal (List α)}

/-- Nothing is read where the step does not start. -/
theorem Starts.many_eq (h : Starts starts step) (hstate : ¬ starts (nextOf state.tokens)) :
    Parser.many step state = .ok [] state := by
  rw [h.isStep.many_eq, bind_of_ok (h.eq_none hstate)]
  rfl

lemma Starts.reads_none (h : Starts starts step) {ts : List Spanned}
    (hts : ¬ starts (nextOf ts)) (stop : Nat) : Reads step ⟨ts, stop⟩ none ⟨ts, stop⟩ :=
  fun _ diagnostics => ⟨diagnostics, h.eq_none hts⟩

lemma Starts.reads_many (h : Starts starts step) {ts : List Spanned}
    (hts : ¬ starts (nextOf ts)) (stop : Nat) :
    Reads (Parser.many step) ⟨ts, stop⟩ [] ⟨ts, stop⟩ :=
  fun _ diagnostics => ⟨diagnostics, h.many_eq hts⟩

lemma Extends.many (hstep : Starts starts step) (hstep' : Starts starts step')
    (hclosers : ∀ token ∈ closers, ¬ starts token) (hR : P.Repeats R)
    (h : ∀ state, starts (nextOf state.tokens) →
      Extends closers (fun _ => False) P step step' state) (state : ParserState) :
    Extends closers (fun _ => False) R (Parser.many step) (Parser.many step') state := by
  induction hn : state.tokens.length using Nat.strongRecOn generalizing state with
  | ind n ih =>
    subst hn
    by_cases hstarts : starts (nextOf state.tokens)
    · rw [hstep.isStep.many_eq, hstep'.isStep.many_eq]
      refine (h state hstarts).bind (fun us x? next htokens _ hread => ?_)
        (fun us x? _ hcompleted rest stop hrest => ?_) hR.given
      · obtain ⟨hus, x, rfl⟩ := hR.read us x? hread
        have hlength : next.tokens.length < state.tokens.length := by
          have := List.length_pos_iff.2 hus
          rw [htokens, List.length_append]
          omega
        simp only [bind_pure_comp]
        exact (ih _ hlength next rfl).map (fun vs => hR.suffix us vs)
          (fun vs xs => hR.cons us x vs xs hread)
          (fun vs xs _ => hR.cons_completed us x vs xs hread)
      · obtain ⟨x, rfl, hlast⟩ := hR.last us x? hcompleted
        refine ⟨[x], stop, ?_, hlast⟩
        exact (hstep'.reads_many (hclosers _ hrest) stop).bind (.pure _ _)
    · unfold Extends
      rw [hstep.many_eq hstarts]
      refine .read [] (List.nil_append _).symm rfl hR.nil fun rest hrest => ?_
      refine (hstep'.reads_many ?_ _ : Reads _ ⟨rest, _⟩ _ _)
      rcases hrest with hsame | hcloses
      · rwa [hsame]
      · exact hclosers _ hcloses

/-- What a repeated step has read, it also reads one value after the other before tokens that may
follow a single one. -/
lemma exists_readsMany (hstep : Starts starts step)
    (hread : ∀ us x?, P.read us x? → us ≠ [] ∧ ∃ x, x? = some x)
    (h : ∀ state, starts (nextOf state.tokens) →
      Extends closers (fun _ => False) P step step' state)
    {xs : List α} {next : ParserState} (hmany : Parser.many step state = .ok xs next) :
    ∃ us, state.tokens = us ++ next.tokens ∧ next.textEnd = state.textEnd ∧
      ∀ rest, MayFollow closers next.tokens rest →
        ReadsMany step' ⟨us ++ rest, state.previousStop⟩ xs ⟨rest, next.previousStop⟩ := by
  induction hn : state.tokens.length using Nat.strongRecOn generalizing state xs with
  | ind n ih =>
    subst hn
    by_cases hstarts : starts (nextOf state.tokens)
    · have hextends := h state hstarts
      rw [hstep.isStep.many_eq, bind_eq_ok_iff] at hmany
      obtain ⟨x?, mid, hx, hrest⟩ := hmany
      unfold Extends at hextends
      rw [hx] at hextends
      cases hextends with
      | read us htokens hend hvalue hstable =>
        obtain ⟨hus, x, rfl⟩ := hread us x? hvalue
        obtain ⟨ys, last, hys, hlast⟩ := bind_eq_ok_iff.1 hrest
        cases hlast
        have hlength : mid.tokens.length < state.tokens.length := by
          have := List.length_pos_iff.2 hus
          rw [htokens, List.length_append]
          omega
        obtain ⟨vs, hmid, hend', hmore⟩ := ih _ hlength hys rfl
        refine ⟨us ++ vs, by rw [htokens, hmid, List.append_assoc], hend'.trans hend, ?_⟩
        intro rest hrest
        rw [List.append_assoc]
        refine .cons (hstable (vs ++ rest) ?_) ?_ (hmore rest hrest)
        · rw [hmid]
          exact hrest.append vs
        · have := List.length_pos_iff.2 hus
          simp only [List.length_append]
          omega
    · rw [hstep.many_eq hstarts] at hmany
      cases hmany
      exact ⟨[], rfl, rfl, fun rest _ => .nil _⟩

end Repetition

/-! ## Lists -/

/-- The tokens start with that one. -/
def LedBy (token : Token) (us : List Spanned) : Prop := ∃ t vs, us = t :: vs ∧ t.token = token

lemma LedBy.append {token : Token} {us : List Spanned} (h : LedBy token us)
    (vs : List Spanned) : LedBy token (us ++ vs) := by
  obtain ⟨t, ws, rfl, ht⟩ := h
  exact ⟨t, ws ++ vs, rfl, ht⟩

/-- The goal of a list of items from that of an item: further items stand behind a separator. -/
def Goal.list (separator : Token) (P : Goal α) : Goal (α × List α) where
  given := P.given
  read us xs := (xs.2 = [] ∧ P.read us xs.1) ∨
    ∃ ts vs, us = ts ++ vs ∧ LedBy separator vs ∧ P.read ts xs.1
  completed us xs := (xs.2 = [] ∧ P.completed us xs.1) ∨
    ∃ ts vs, us = ts ++ vs ∧ LedBy separator vs ∧ P.read ts xs.1

section Lists

variable {separator : Token} {item item' : Parser α}

lemma starts_following (separator : Token) (hitem : Keeps Shrinks item) :
    Starts (· = some separator) (following separator item) where
  isStep := isStep_following separator hitem
  eq_none hne := by
    rw [following, bind_of_ok (eat_of_ne hne), if_neg (by simp)]
    rfl

/-- A separator and an item, which the fillers complete where there is none. -/
lemma extends_following (hgiven : ∀ us vs, P.given (us ++ vs) → P.given vs)
    (hitem : ∀ state, Extends closers (Here state) P item item' state) (hne : fs ≠ [])
    (hfs : ReadsFillers closers item' fs fun _ => True)
    (hnext : nextOf state.tokens = some separator) :
    Extends closers (fun _ => False)
      ⟨P.given, fun us x? => LedBy separator us ∧ ∃ x, x? = some x,
        fun us x? => LedBy separator us ∧ ∃ x, x? = some x⟩
      (following separator item) (following separator item') state := by
  obtain ⟨t, ts, htokens, ht⟩ := exists_of_nextOf hnext
  have hled (vs : List Spanned) : LedBy separator ([t] ++ vs) := ⟨t, vs, rfl, ht⟩
  refine .eatOr fs htokens ht (fun _ stop' ks rest hks hrest => ?_) fun next _ => ?_
  · obtain ⟨x, last, hx, -⟩ := hfs stop' ks rest hks hrest
    exact ⟨some x, last, hx.map some, hled [], x, rfl⟩
  · exact ((hitem next).imp_known fun _ h => .inr ⟨hne, h⟩).map (fun us h => hgiven [t] us h)
      (fun us x _ => ⟨hled us, x, rfl⟩) fun us x _ _ => ⟨hled us, x, rfl⟩

/-- Items between separators: what is missing behind a separator is completed by the fillers. -/
lemma Extends.separated (separator : Token) (closers : List (Option Token)) (fs : List Filler)
    (hitem : Keeps Shrinks item) (hitem' : Keeps Shrinks item')
    (hclosers : some separator ∉ closers) (hgiven : ∀ us vs, P.given (us ++ vs) → P.given vs)
    (h : ∀ state, Extends closers (Here state) P item item' state) (hne : fs ≠ [])
    (hfs : ReadsFillers closers item' fs fun _ => True) (state : ParserState) :
    Extends closers (Here state) (P.list separator) (separated separator item)
      (separated separator item') state := by
  have hothers (next : ParserState) : Extends closers (fun _ => False)
      ⟨P.given, fun us xs => (us = [] ∧ xs = []) ∨ LedBy separator us,
        fun us _ => LedBy separator us⟩
      (Parser.many (following separator item)) (Parser.many (following separator item')) next := by
    refine .many (starts_following separator hitem) (starts_following separator hitem')
      (fun token htoken heq => hclosers (heq ▸ htoken)) ?_
      (fun state hnext => extends_following hgiven h hne hfs hnext) next
    exact {
      given := fun us h => h
      suffix := hgiven
      read := fun us x? ⟨⟨t, vs, hus, _⟩, hx⟩ => ⟨by simp [hus], hx⟩
      nil := .inl ⟨rfl, rfl⟩
      cons := fun us x vs xs hx _ => .inr (hx.1.append vs)
      cons_completed := fun us x vs xs hx _ => hx.1.append vs
      last := fun us x? ⟨hled, x, hx⟩ => ⟨x, hx, hled⟩ }
  refine (h state).bind (fun us x next _ _ hx => ?_)
    (fun us x _ hx rest stop hrest => ⟨(x, []), stop, ?_, .inl ⟨rfl, hx⟩⟩) fun us h => h
  · show Extends closers (Here state) ((P.list separator).after us)
      (do let others ← Parser.many (following separator item); return (x, others))
      (do let others ← Parser.many (following separator item'); return (x, others)) next
    rw [bind_pure_comp, bind_pure_comp]
    refine (hothers next).of_false.map (fun vs h => hgiven us vs h)
      (fun vs others hvs => ?_) (fun vs others _ hvs => .inr ⟨us, vs, rfl, hvs, hx⟩)
    rcases hvs with ⟨rfl, rfl⟩ | hvs
    · exact .inl ⟨rfl, by simpa using hx⟩
    · exact .inr ⟨us, vs, rfl, hvs, hx⟩
  · refine ((starts_following separator hitem').reads_many (fun heq => ?_) stop).bind (.pure _ _)
    exact hclosers (heq ▸ hrest)

end Lists

end Parser

end JsonPath
