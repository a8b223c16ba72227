import JsonPath.Proofs.Extending.Completions
import JsonPath.Proofs.Rereading.Selectors

/-!
# Completing segments

Selectors and segments are completed from within: by the number that a slice wants, a name between
brackets and the bracket that closes them, a name behind a dot (`extends_segments`).  The filter is
a parameter here.

An operand of a comparison must not be a query of more than one node, and the parser finds out when
it has read all of the operand.  What stands in front of a failure within the operand can be
completed only if it is not such a query already, so each rule here says in addition that segments
select a single node where their tokens stay singular (`Token.staysSingular`), and `Steady` asks for
this of all operands in front of the failure.
-/

namespace JsonPath

/-! ## Singular operands -/

namespace Token

/-- Whether a selector of one node may start with the token. -/
def isNameOrIndex : Token → Bool
  | .string _ => Bool.true
  | .number _ => Bool.true
  | _ => Bool.false

/-- Whether the segments that the tokens start with are names and indexes only, as far as they
go. -/
def staysSingular : List Token → Bool
  | .dot :: .star :: _ => Bool.false
  | .dot :: _ :: rest => staysSingular rest
  | .doubleDot :: _ => Bool.false
  | .leftBracket :: t :: .rightBracket :: rest => t.isNameOrIndex && staysSingular rest
  | [.leftBracket, t] => t.isNameOrIndex
  | .leftBracket :: _ :: _ :: _ => Bool.false
  | _ => Bool.true

/-- Whether the operand that the tokens start with is no query of more than one node, as far as it
goes. -/
def operandStaysSingular : List Token → Bool
  | .root :: rest => staysSingular rest
  | .current :: rest => staysSingular rest
  | _ => Bool.true

/-- Whether behind every comparison sign there is no query of more than one node. -/
def comparesSingular : List Token → Bool
  | .comparison _ :: rest => operandStaysSingular rest && comparesSingular rest
  | _ :: rest => comparesSingular rest
  | [] => Bool.true

lemma comparesSingular_of_cons {t : Token} {ts : List Token} (h : comparesSingular (t :: ts)) :
    comparesSingular ts := by
  unfold comparesSingular at h
  split at h
  · rename_i heq
    cases heq
    exact (Bool.and_eq_true_iff.1 h).2
  · rename_i heq
    cases heq
    exact h
  · rename_i heq
    cases heq

/-- What holds of all operands holds of those further on. -/
lemma comparesSingular_of_append {ts us : List Token} (h : comparesSingular (ts ++ us)) :
    comparesSingular us := by
  induction ts with
  | nil => exact h
  | cons t ts ih => exact ih (comparesSingular_of_cons h)

lemma operandStaysSingular_of_append {op : Comparison} (ts : List Token) {us : List Token}
    (h : comparesSingular (ts ++ .comparison op :: us)) : operandStaysSingular us := by
  have h := comparesSingular_of_append h
  rw [comparesSingular] at h
  exact (Bool.and_eq_true_iff.1 h).1

/-- A selector that goes on with a colon or a comma is not one of a single node. -/
lemma staysSingular_of_second {s t : Token} (ht : t ≠ .rightBracket) (ts : List Token) :
    staysSingular (.leftBracket :: s :: t :: ts) = Bool.false := by
  unfold staysSingular
  split <;> simp_all

lemma staysSingular_of_first {t : Token} (ht : t.isNameOrIndex = Bool.false) (ts : List Token) :
    staysSingular (.leftBracket :: t :: ts) = Bool.false := by
  cases ts with
  | nil => simp [staysSingular, ht]
  | cons u ts =>
    unfold staysSingular
    split <;> simp_all

lemma staysSingular_bracketed (t : Token) (ts : List Token) :
    staysSingular (.leftBracket :: t :: .rightBracket :: ts) =
      (t.isNameOrIndex && staysSingular ts) := by
  rw [staysSingular]

lemma staysSingular_member {t : Token} (ht : t ≠ .star) (ts : List Token) :
    staysSingular (.dot :: t :: ts) = staysSingular ts := by
  conv_lhs => unfold staysSingular
  split <;> simp_all

lemma staysSingular_of_front {ts us : List Token} (h : staysSingular (ts ++ us)) :
    staysSingular ts := by
  fun_induction staysSingular ts with
  | case1 => simp [staysSingular] at h
  | case2 rest t hne ih =>
    rw [List.cons_append, List.cons_append, staysSingular_member (by simpa using hne)] at h
    exact ih h
  | case3 => simp [staysSingular] at h
  | case4 t rest ih =>
    rw [List.cons_append, List.cons_append, List.cons_append, staysSingular_bracketed,
      Bool.and_eq_true] at h
    exact Bool.and_eq_true_iff.2 ⟨h.1, ih h.2⟩
  | case5 t =>
    cases hfirst : t.isNameOrIndex with
    | true => rfl
    | false =>
      rw [List.cons_append, List.cons_append, staysSingular_of_first hfirst] at h
      cases h
  | case6 s t rest hne =>
    rw [List.cons_append, List.cons_append, List.cons_append, staysSingular_of_second hne] at h
    cases h
  | case7 => rfl

lemma operandStaysSingular_of_front {ts us : List Token}
    (h : operandStaysSingular (ts ++ us)) : operandStaysSingular ts := by
  cases ts with
  | nil => rfl
  | cons t ts =>
    cases t with
    | root => exact staysSingular_of_front h
    | current => exact staysSingular_of_front h
    | _ => rfl

/-- What holds of all operands holds of those so far. -/
lemma comparesSingular_of_front {ts us : List Token} (h : comparesSingular (ts ++ us)) :
    comparesSingular ts := by
  induction ts with
  | nil => rfl
  | cons t ts ih =>
    have hrest := ih (comparesSingular_of_cons h)
    cases t with
    | comparison op =>
      rw [List.cons_append, comparesSingular, Bool.and_eq_true] at h
      exact Bool.and_eq_true_iff.2 ⟨operandStaysSingular_of_front h.1, hrest⟩
    | _ => exact hrest

end Token

lemma Segment.allSingular_cons {s : Segment} {ss : List Segment} (h : s.isSingular)
    (hs : allSingular ss) : allSingular (s :: ss) := by
  rw [allSingular, List.all_cons, h]
  exact hs

namespace Parser

variable {known : Nat → Prop} {state : ParserState}

/-- What may come behind an expression: something that closes, or the end of the text. -/
def ends : List (Option Token) := [none, some .rightBracket, some .rightParen, some .comma]

/-- What may come behind an operand. -/
def operandEnds : List (Option Token) := some (.comparison .eq) :: ends

lemma ends_subset : ends ⊆ operandEnds := List.subset_cons_self _ _

/-- In front of a failure, all operands of comparisons stay singular. -/
def Steady (us : List Spanned) : Prop := Token.comparesSingular (us.map Spanned.token)

lemma Steady.of_append {us vs : List Spanned} (h : Steady (us ++ vs)) : Steady vs := by
  rw [Steady, List.map_append] at h
  exact Token.comparesSingular_of_append h

namespace Goal

/-- Something is read. -/
def any {α : Type} : Goal α where
  given := Steady
  read us _ := us ≠ []
  completed _ _ := True

def integer : Goal (Option Int64) where
  given _ := True
  read us i? := (us = [] ∧ i? = none) ∨ ∃ t, us = [t] ∧ i?.isSome
  completed _ _ := False

/-- A selector, of which a single token is one of a single node. -/
def selector : Goal Segment where
  given := Steady
  read us s := us ≠ [] ∧ ∀ more,
    Token.staysSingular (.leftBracket :: (us.map Spanned.token ++ more)) →
      us.length = 1 ∧ s.isSingular
  completed us _ := Token.staysSingular (.leftBracket :: us.map Spanned.token) = false

/-- A filter. -/
def test : Goal Segment where
  given := Steady
  read us _ := LedBy .question us
  completed us _ := LedBy .question us

/-- A segment: where the tokens stay singular, it selects one node. -/
def segment : Goal Segment where
  given := Steady
  read us s := us ≠ [] ∧ ∀ more, Token.staysSingular (us.map Spanned.token ++ more) →
    s.isSingular ∧ Token.staysSingular more
  completed us s := Token.staysSingular (us.map Spanned.token) → s.isSingular

/-- The same of a value that may be missing and is not. -/
def present {α : Type} (P : Goal α) : Goal (Option α) where
  given := P.given
  read us x? := ∃ x, x? = some x ∧ P.read us x
  completed us x? := ∃ x, x? = some x ∧ P.completed us x

/-- Segments: where the tokens stay singular, they select one node. -/
def segments : Goal (List Segment) where
  given := Steady
  read us ss := ∀ more, Token.staysSingular (us.map Spanned.token ++ more) →
    Segment.allSingular ss ∧ Token.staysSingular more
  completed us ss := Token.staysSingular (us.map Spanned.token) → Segment.allSingular ss

end Goal

/-! ## Integers -/

lemma reads_optionalInteger_zero {t : Spanned} (ht : t.token = Filler.number.token)
    (ts : List Spanned) (stop : Nat) :
    Reads optionalInteger ⟨t :: ts, stop⟩ (some 0) ⟨ts, t.stop⟩ := by
  refine (reads_peek _).bind ?_
  have hnext : (Cursor.mk (t :: ts) stop).next? = some (.number "0") := congrArg some ht
  rw [hnext]
  have hzero : integer? "0" = some 0 := by decide
  simp only [hzero]
  exact (reads_advance t ts stop).bind (.pure _ _)

lemma reads_optionalInteger_none {ts : List Spanned}
    (h : ∀ lexeme, nextOf ts ≠ some (.number lexeme)) (stop : Nat) :
    Reads optionalInteger ⟨ts, stop⟩ none ⟨ts, stop⟩ := by
  refine (reads_peek _).bind ?_
  split
  · rename_i lexeme heq
    exact absurd heq (h lexeme)
  · exact .pure _ _

lemma ne_number_of_mem_ends {token : Option Token} (h : token ∈ ends) (lexeme : String) :
    token ≠ some (.number lexeme) := by
  rintro rfl
  simp [ends] at h

lemma reads_optionalInteger_some {t : Spanned} {lexeme : String} {i : Int64}
    (ht : t.token = .number lexeme) (hinteger : integer? lexeme = some i) (ts : List Spanned)
    (stop : Nat) : Reads optionalInteger ⟨t :: ts, stop⟩ (some i) ⟨ts, t.stop⟩ := by
  refine (reads_peek _).bind ?_
  rw [show (Cursor.mk (t :: ts) stop).next? = some (.number lexeme) from congrArg some ht]
  simp only [hinteger]
  exact (reads_advance t ts stop).bind (.pure _ _)

lemma extends_optionalInteger (state : ParserState) :
    Extends ends (Here state) Goal.integer optionalInteger optionalInteger state := by
  by_cases hnumber : ∃ lexeme, nextOf state.tokens = some (.number lexeme)
  · obtain ⟨lexeme, hnext⟩ := hnumber
    obtain ⟨t, ts, htokens, ht⟩ := exists_of_nextOf hnext
    cases hinteger : integer? lexeme with
    | none =>
      unfold Extends
      rw [optionalInteger, bind_of_ok (peek_eq state), next?, ← nextOf, hnext]
      simp only [hinteger]
      exact .known rfl
    | some i =>
      have hreads := reads_optionalInteger_some ht hinteger
      exact .of_reads [t] htokens (.inr ⟨t, rfl, rfl⟩) (hreads ts _)
        fun rest _ => hreads rest _
  · have hnumber : ∀ lexeme, nextOf state.tokens ≠ some (.number lexeme) :=
      fun lexeme h => hnumber ⟨lexeme, h⟩
    refine .of_reads [] rfl (.inl ⟨rfl, rfl⟩) (reads_optionalInteger_none hnumber _) ?_
    intro rest hrest
    refine (reads_optionalInteger_none (fun lexeme => ?_) _ : Reads _ ⟨rest, _⟩ _ _)
    rcases hrest with hsame | hcloses
    · rw [hsame]
      exact hnumber lexeme
    · exact ne_number_of_mem_ends hcloses lexeme

/-! ## Selectors -/

/-- The part of a slice behind its first colon. -/
lemma extends_slice (start : Option Int64) (state : ParserState) :
    Extends ends (Here state) ⟨fun _ => True, fun _ _ => True, fun _ _ => True⟩
      (do
        let stop ← optionalInteger
        let step ← if ← eat .colon then optionalInteger else pure none
        return .slice start stop step)
      (do
        let stop ← optionalInteger
        let step ← if ← eat .colon then optionalInteger else pure none
        return Segment.slice start stop step) state := by
  refine (extends_optionalInteger state).bind (fun us stop next _ _ _ => ?_)
    (fun _ _ _ h => h.elim) fun _ _ => trivial
  by_cases hcolon : nextOf next.tokens = some .colon
  · obtain ⟨t, ts, htokens, ht⟩ := exists_of_nextOf hcolon
    refine .eatOr [.number] htokens ht (fun _ stop' ks rest hks _ => ?_) fun next' _ => ?_
    · obtain ⟨u, rfl, hu⟩ := Filler.are_singleton hks
      exact ⟨_, _, (reads_optionalInteger_zero hu rest stop').bind (.pure _ _), trivial⟩
    · simp only [if_pos, bind_pure_comp]
      exact ((extends_optionalInteger next').imp_known fun _ h => .inr ⟨by simp, h⟩).map
        (fun _ _ => trivial) (fun _ _ _ => trivial) fun _ _ _ h => h.elim
  · refine .eat_of_ne hcolon (by simp [ends]) ?_
    rw [if_neg (by simp), pure_bind]
    exact .pure trivial

lemma readsFillers_slice (start : Option Int64) :
    ReadsFillers ends
      (do
        let stop ← optionalInteger
        let step ← if ← eat .colon then optionalInteger else pure none
        return Segment.slice start stop step) [.number] fun _ => True := by
  intro stop ks rest hks hrest
  obtain ⟨t, rfl, ht⟩ := Filler.are_singleton hks
  refine ⟨_, _, (reads_optionalInteger_zero ht rest stop).bind
    ((reads_eat_of_ne fun hnext => ?_).bind (.pure _ _)), trivial⟩
  have hnext : nextOf rest = some .colon := hnext
  simp [hnext, ends] at hrest

lemma extends_indexOrSlice (state : ParserState) :
    Extends ends (Here state) Goal.selector indexOrSlice indexOrSlice state := by
  have hcolon (us vs : List Spanned) (t : Spanned) (ht : t.token = .colon)
      (hus : us = [] ∨ ∃ u, us = [u]) (more : List Token) :
      Token.staysSingular (.leftBracket :: (((us ++ ([t] ++ vs)).map Spanned.token) ++ more)) =
        false := by
    rcases hus with rfl | ⟨u, rfl⟩
    · simp [ht, Token.staysSingular_of_first (t := .colon) rfl]
    · simp [ht, Token.staysSingular_of_second (t := .colon) (by simp)]
  refine (extends_optionalInteger state).bind (fun us start next htokens hend hstart => ?_)
    (fun _ _ _ h => h.elim) fun _ _ => trivial
  have hus : us = [] ∨ ∃ u, us = [u] := by
    rcases hstart with ⟨hnil, -⟩ | ⟨u, hu, -⟩
    · exact .inl hnil
    · exact .inr ⟨u, hu⟩
  by_cases hnext : nextOf next.tokens = some .colon
  · obtain ⟨t, ts, htokens, ht⟩ := exists_of_nextOf hnext
    refine .eatOr [.number] htokens ht (fun _ stop' ks rest hks hrest => ?_) fun next' _ => ?_
    · obtain ⟨y, last, hy, -⟩ := readsFillers_slice start stop' ks rest hks hrest
      refine ⟨y, last, hy, ?_⟩
      simpa [Goal.after, Goal.selector] using hcolon us [] t ht hus []
    · refine (extends_slice start next').mono (List.Subset.refl _) (fun _ h => .inr ⟨by simp, h⟩)
        ⟨fun _ _ => trivial, fun vs s _ => ⟨by simp, fun more h => ?_⟩, fun vs s _ _ => ?_⟩
      · rw [hcolon us vs t ht hus more] at h
        cases h
      · simpa [Goal.after, Goal.selector] using hcolon us vs t ht hus []
  · refine .eat_of_ne hnext (by simp [ends]) ?_
    rcases hstart with ⟨rfl, rfl⟩ | ⟨t, rfl, hsome⟩
    · refine extends_failHere_of ?_ _
      rw [Here, htokens, hend]
      rfl
    · obtain ⟨i, rfl⟩ := Option.isSome_iff_exists.1 hsome
      exact .pure ⟨by simp, fun more _ => ⟨rfl, rfl⟩⟩

/-! ## Segments -/

section Filter

variable {filter filter' : Parser Segment}
  (hfilter : ∀ state, nextOf state.tokens = some .question →
    Extends ends (fun _ => False) Goal.test filter filter' state)

include hfilter in
lemma extends_selector (state : ParserState) :
    Extends ends (Here state) Goal.selector (selector filter) (selector filter') state := by
  refine .peek (fun _ _ h => h.1) ?_
  rcases hnext : nextOf state.tokens with _ | token
  · exact extends_failHere _
  obtain ⟨t, ts, htokens, ht⟩ := exists_of_nextOf hnext
  cases token with
  | string name => exact .advance_pure htokens ⟨by simp, fun _ _ => ⟨rfl, rfl⟩⟩
  | star =>
    refine .advance_pure htokens ⟨by simp, fun more h => ?_⟩
    simp [ht, Token.staysSingular_of_first (t := .star) rfl] at h
  | question =>
    have hfalse {us : List Spanned} (hus : LedBy .question us) (more : List Token) :
        Token.staysSingular (.leftBracket :: (us.map Spanned.token ++ more)) = false := by
      obtain ⟨u, vs, rfl, hu⟩ := hus
      simp [hu, Token.staysSingular_of_first (t := .question) rfl]
    refine (hfilter state hnext).mono (List.Subset.refl _) (fun _ h => h.elim)
      ⟨fun _ h => h, fun us s hus => ⟨?_, fun more h => ?_⟩, fun us s _ hus => ?_⟩
    · obtain ⟨u, vs, rfl, -⟩ := hus
      simp
    · rw [hfalse hus more] at h
      cases h
    · simpa [Goal.selector] using hfalse hus []
  | number lexeme => exact extends_indexOrSlice state
  | colon => exact extends_indexOrSlice state
  | _ => exact extends_failHere _

lemma reads_selector_string {t : Spanned} (ht : t.token = Filler.string.token)
    (ts : List Spanned) (stop : Nat) :
    Reads (selector filter) ⟨t :: ts, stop⟩ (.key "a") ⟨ts, t.stop⟩ := by
  refine (reads_peek _).bind ?_
  rw [show (Cursor.mk (t :: ts) stop).next? = some (.string "a") from congrArg some ht]
  exact (reads_advance t ts stop).bind (.pure _ _)

/-- Behind a comma there is no selector of a single node. -/
lemma staysSingular_list {us vs : List Spanned} {s : Segment} (hus : Goal.selector.read us s)
    (hvs : LedBy .comma vs) (more : List Token) :
    Token.staysSingular (.leftBracket :: ((us ++ vs).map Spanned.token ++ more)) = false := by
  obtain ⟨t, ws, rfl, ht⟩ := hvs
  cases hsingular : Token.staysSingular
      (.leftBracket :: ((us ++ t :: ws).map Spanned.token ++ more)) with
  | false => rfl
  | true =>
    rw [List.map_append, List.append_assoc] at hsingular
    obtain ⟨u, rfl⟩ := List.length_eq_one_iff.1 (hus.2 _ hsingular).1
    rw [← hsingular]
    simp [ht, Token.staysSingular_of_second (t := .comma) (by simp)]

/-- Selectors of a single node are one selector of one token. -/
lemma singular_of_read {us : List Spanned} {ss : Segment × List Segment} (more : List Token)
    (h : (Goal.selector.list .comma).read us ss)
    (hsingular : Token.staysSingular (.leftBracket :: (us.map Spanned.token ++ more))) :
    ss.2 = [] ∧ ss.1.isSingular ∧ ∃ u, us = [u] := by
  rcases h with ⟨hnil, hread⟩ | ⟨ts, vs, rfl, hvs, hts⟩
  · obtain ⟨hlength, hs⟩ := hread.2 more hsingular
    exact ⟨hnil, hs, List.length_eq_one_iff.1 hlength⟩
  · rw [staysSingular_list hts hvs] at hsingular
    cases hsingular

/-- A list that has to be completed inside of an item is not one of a single node. -/
lemma staysSingular_of_completed {us : List Spanned} {ss : Segment × List Segment}
    (h : (Goal.selector.list .comma).completed us ss) :
    Token.staysSingular (.leftBracket :: us.map Spanned.token) = false := by
  rcases h with ⟨-, h⟩ | ⟨ts, vs, rfl, hvs, hts⟩
  · exact h
  · simpa using staysSingular_list hts hvs []

/-- The segment of selectors in brackets. -/
def joined (ss : Segment × List Segment) : Segment :=
  match ss.2 with
  | [] => ss.1
  | others => .union (ss.1 :: others)

lemma bracketed_eq (filter : Parser Segment) :
    bracketed filter = advance >>= fun _ =>
      separated .comma (selector filter) >>= fun ss =>
      expect .rightBracket .closingBracket >>= fun _ => pure (joined ss) := by
  rw [bracketed]
  congr 1
  funext _
  congr 1
  funext ⟨first, others⟩
  funext _
  cases others <;> rfl

/-- A single name, and the bracket that closes it. -/
lemma reads_closedName (filter : Parser Segment) {t u : Spanned}
    (ht : t.token = Filler.string.token) (hu : u.token = .rightBracket) (ts : List Spanned)
    (stop : Nat) :
    Reads (separated .comma (selector filter) >>= fun ss =>
      expect .rightBracket .closingBracket >>= fun _ => pure (joined ss))
      ⟨t :: u :: ts, stop⟩ (.key "a") ⟨ts, u.stop⟩ := by
  have hnext : nextOf (u :: ts) ≠ some .comma := by simp [nextOf, hu]
  exact (reads_separated (reads_selector_string ht (u :: ts) stop) (.nil _) hnext).bind
    ((reads_expect u ts _ hu).bind (.pure _ _))

/-- A single name in brackets. -/
lemma reads_segment?_name (filter : Parser Segment) {t u v : Spanned}
    (ht : t.token = .leftBracket) (hu : u.token = Filler.string.token)
    (hv : v.token = .rightBracket) (ts : List Spanned) (stop : Nat) :
    Reads (segment? filter) ⟨t :: u :: v :: ts, stop⟩ (some (.key "a")) ⟨ts, v.stop⟩ := by
  refine (reads_peek _).bind ?_
  rw [show (Cursor.mk (t :: u :: v :: ts) stop).next? = some .leftBracket from congrArg some ht]
  refine Reads.map some ?_
  rw [bracketed_eq]
  exact (reads_advance t _ stop).bind (reads_closedName filter hu hv ts _)

include hfilter in
lemma extends_bracketed {closers : List (Option Token)} (hkeeps : Keeps Shrinks filter)
    (hkeeps' : Keeps Shrinks filter') (hnext : nextOf state.tokens = some .leftBracket) :
    Extends closers (fun _ => False) Goal.segment (bracketed filter) (bracketed filter') state := by
  obtain ⟨t, ts, htokens, ht⟩ := exists_of_nextOf hnext
  have hselectors (next : ParserState) := Extends.separated .comma [some .rightBracket] [.string]
    (keeps_selector isKept_shrinks hkeeps)
    (keeps_selector isKept_shrinks hkeeps') (by simp) (fun us vs => Steady.of_append)
    (fun state => (extends_selector hfilter state).mono (by simp [ends]) (fun _ h => h) (.refl _))
    (by simp)
    (fun stop ks rest hks _ => by
      obtain ⟨u, rfl, hu⟩ := Filler.are_singleton hks
      exact ⟨_, _, reads_selector_string hu rest stop, trivial⟩) next
  rw [bracketed_eq, bracketed_eq]
  refine .advanceOr [.string, .rightBracket] htokens (fun _ stop ks rest hks hrest => ?_)
    fun next _ => ?_
  · obtain ⟨u, us, rfl, hu, hus⟩ := Filler.are_cons hks
    obtain ⟨v, rfl, hv⟩ := Filler.are_singleton hus
    exact ⟨_, _, reads_closedName filter' hu hv rest stop, fun _ => rfl⟩
  · refine Extends.closedBy .rightBracket joined (fun _ => rfl) (fun _ => rfl)
      ((hselectors next).imp_known fun _ h => .inr ⟨by simp, h⟩) (fun us ss u hread hu => ?_)
      (fun us ss hread hus => ?_) (fun us ss _ hread hsingular => ?_)
      (fun us ss _ hcompleted hsingular => ?_) fun us h => Steady.of_append h
    · refine ⟨by simp, fun more hmore => ?_⟩
      have hmore : Token.staysSingular
          (.leftBracket :: (us.map Spanned.token ++ (.rightBracket :: more))) := by
        simpa [ht, hu, Filler.token] using hmore
      obtain ⟨hnil, hs, v, rfl⟩ := singular_of_read _ hread hmore
      refine ⟨by rw [joined, hnil]; exact hs, ?_⟩
      rw [List.map_singleton, List.singleton_append, Token.staysSingular_bracketed,
        Bool.and_eq_true_iff] at hmore
      exact hmore.2
    · rcases hread with ⟨-, hread⟩ | ⟨ts', vs, rfl, hvs, hts⟩
      · exact absurd hus hread.1
      · exact absurd (List.append_eq_nil_iff.1 hus).1 hts.1
    · obtain ⟨hnil, hs, -⟩ := singular_of_read [] hread (by simpa [ht] using hsingular)
      rw [joined, hnil]
      exact hs
    · have hfalse := staysSingular_of_completed hcompleted
      simp [ht, hfalse] at hsingular

/-! ## Members -/

/-- The segment that a token names as a member. -/
def member? : Token → Option Segment
  | .star => some .wildcard
  | t => t.memberName?.map .key

lemma reads_shorthand (what : Expectation) {t : Spanned} {s : Segment} {stop : Nat}
    (ht : member? t.token = some s) (hstart : t.start = stop) (ts : List Spanned) :
    Reads (shorthand what) ⟨t :: ts, stop⟩ s ⟨ts, t.stop⟩ := by
  refine (reads_isAdjacent t ts stop hstart).bind ?_
  rw [if_neg (by simp)]
  refine (reads_peek _).bind ?_
  rw [show (Cursor.mk (t :: ts) stop).next? = some t.token from rfl]
  by_cases hstar : t.token = .star
  · rw [hstar] at ht ⊢
    cases ht
    exact (reads_advance t ts stop).bind (.pure _ _)
  · obtain ⟨name, hname, rfl⟩ : ∃ name, t.token.memberName? = some name ∧ .key name = s := by
      unfold member? at ht
      split at ht
      · contradiction
      · exact Option.map_eq_some_iff.1 ht
    split
    · rename_i heq
      exact absurd (Option.some.inj heq) hstar
    · rename_i heq
      obtain rfl := Option.some.inj heq
      rw [hname]
      exact (reads_advance t ts stop).bind (.pure _ _)
    · rename_i heq
      cases heq

/-- Without a member directly behind the last token, the reader fails there. -/
lemma shorthand_eq_error (what : Expectation)
    (h : ∀ t ts, state.tokens = t :: ts → t.start = state.previousStop →
      member? t.token = none) :
    shorthand what state = .error ⟨state.previousStop, .expected what⟩ state := by
  obtain ⟨tokens, stop, textEnd, diagnostics⟩ := state
  have hadjacent : isAdjacent ⟨tokens, stop, textEnd, diagnostics⟩ =
      .ok (startOf textEnd tokens == stop) ⟨tokens, stop, textEnd, diagnostics⟩ := rfl
  rw [shorthand, bind_of_ok hadjacent]
  by_cases hstart : startOf textEnd tokens = stop
  · rw [if_neg (by simp [hstart])]
    have hhere : ∀ what, (failHere what : Parser Segment) ⟨tokens, stop, textEnd, diagnostics⟩ =
        .error ⟨stop, .expected what⟩ ⟨tokens, stop, textEnd, diagnostics⟩ := by
      subst hstart
      exact fun _ => rfl
    rcases tokens with _ | ⟨t, ts⟩
    · exact hhere what
    · have hmember := h t ts rfl hstart
      obtain ⟨token, start, tstop⟩ := t
      rw [bind_of_ok (peek_eq _)]
      cases token <;> first | exact hhere what | cases hmember
  · rw [if_pos (by simpa using hstart)]
    rfl

/-! ## Segments -/

/-- What a segment starts with. -/
def startsSegment (token : Option Token) : Prop :=
  token = some .dot ∨ token = some .doubleDot ∨ token = some .leftBracket

lemma not_startsSegment {token : Option Token} (h : token ∈ operandEnds) :
    ¬ startsSegment token := by
  rintro (rfl | rfl | rfl) <;> simp [operandEnds, ends] at h

lemma starts_segment? (hkeeps : Keeps Shrinks filter) :
    Starts startsSegment (segment? filter) where
  isStep := isStep_segment? hkeeps
  eq_none {state} h := by
    rw [segment?, bind_of_ok (peek_eq state)]
    have h : ¬ startsSegment (next? state) := h
    generalize next? state = token? at h
    rcases token? with _ | token
    · rfl
    · cases token <;> first | rfl | simp [startsSegment] at h

/-- One dot or two. -/
def IsDots (token : Token) : Prop := token = .dot ∨ token = .doubleDot

/-- What is missing behind dots. -/
def missingMember : Token → Expectation
  | .doubleDot => .memberAfterDoubleDot
  | _ => .memberAfterDot

/-- The segment of a member behind dots. -/
def memberBehind : Token → Segment → Segment
  | .doubleDot, s => .descendant s
  | _, s => s

/-- Behind dots there is a member, or brackets directly behind two of them. -/
lemma segment?_dots {dots : Token} (hdots : IsDots dots) (filter : Parser Segment)
    {ts : List Spanned} {start stop stop' textEnd : Nat} {diagnostics : List Diagnostic}
    (h : nextOf ts = some .leftBracket → startOf textEnd ts = stop → dots = .dot) :
    segment? filter ⟨⟨dots, start, stop⟩ :: ts, stop', textEnd, diagnostics⟩ =
      ((fun s => some (memberBehind dots s)) <$> shorthand (missingMember dots))
        ⟨ts, stop, textEnd, diagnostics⟩ := by
  rcases hdots with rfl | rfl
  · rfl
  · have hbracket :
        (decide (nextOf ts = some .leftBracket) && startOf textEnd ts == stop) = false := by
      by_cases hnext : nextOf ts = some .leftBracket
      · by_cases hstart : startOf textEnd ts = stop
        · cases h hnext hstart
        · simp [hstart]
      · simp [hnext]
    show (if (decide (nextOf ts = some .leftBracket) && startOf textEnd ts == stop) = true then
        (do return some (.descendant (← bracketed filter)))
      else (do return some (.descendant (← shorthand .memberAfterDoubleDot))) :
        Parser (Option Segment)) ⟨ts, stop, textEnd, diagnostics⟩ = _
    rw [hbracket, if_neg (by simp), bind_pure_comp]
    rfl

lemma reads_dots (filter : Parser Segment) {t u : Spanned} {s : Segment} (ht : IsDots t.token)
    (hstart : u.start = t.stop) (hs : member? u.token = some s) (ts : List Spanned) (stop : Nat) :
    Reads (segment? filter) ⟨t :: u :: ts, stop⟩ (some (memberBehind t.token s)) ⟨ts, u.stop⟩ := by
  intro textEnd diagnostics
  rw [segment?_dots ht filter fun hnext _ => ?_]
  · exact (reads_shorthand _ hs hstart ts).map _ textEnd diagnostics
  · rw [nextOf, List.head?_cons, Option.map_some, Option.some.injEq] at hnext
    rw [hnext] at hs
    cases hs

lemma staysSingular_dots {dots t : Token} {s : Segment} (hdots : IsDots dots)
    (ht : member? t = some s) {more : List Token} (h : Token.staysSingular (dots :: t :: more)) :
    (memberBehind dots s).isSingular ∧ Token.staysSingular more := by
  rcases hdots with rfl | rfl
  · by_cases hstar : t = .star
    · rw [hstar, Token.staysSingular] at h
      cases h
    · rw [Token.staysSingular_member hstar] at h
      refine ⟨?_, h⟩
      unfold member? at ht
      split at ht
      · contradiction
      · obtain ⟨name, -, rfl⟩ := Option.map_eq_some_iff.1 ht
        rfl
  · rw [Token.staysSingular] at h
    cases h

/-- A member behind dots, which a name completes. -/
lemma extends_dots {closers : List (Option Token)} {t : Spanned} {ts : List Spanned}
    (htokens : state.tokens = t :: ts) (ht : IsDots t.token)
    (hbracket : nextOf ts = some .leftBracket → startOf state.textEnd ts = t.stop →
      t.token = .dot) :
    Extends closers (fun _ => False) Goal.segment.present (segment? filter) (segment? filter')
      state := by
  by_cases hmember : ∃ u us s, ts = u :: us ∧ u.start = t.stop ∧ member? u.token = some s
  · obtain ⟨u, us, s, rfl, hu, hs⟩ := hmember
    refine .of_reads [t, u] htokens ⟨_, rfl, by simp, fun more hmore => ?_⟩
      (reads_dots filter ht hu hs us _) fun rest _ => reads_dots filter' ht hu hs rest _
    exact staysSingular_dots ht hs hmore
  · have herror : segment? filter state = .error ⟨t.stop, .expected (missingMember t.token)⟩
        ⟨ts, t.stop, state.textEnd, state.diagnostics⟩ := by
      obtain ⟨tokens, stop, textEnd, diagnostics⟩ := state
      subst htokens
      rw [segment?_dots ht filter hbracket, map_eq_pure_bind]
      refine bind_of_error (shorthand_eq_error _ fun u us hts hu => ?_)
      exact Option.eq_none_iff_forall_ne_some.2 fun s hs => hmember ⟨u, us, s, hts, hu, hs⟩
    have hcontinues : Filler.continues t.token .word := by
      rcases ht with ht | ht <;> rw [ht] <;> rfl
    unfold Extends
    rw [herror]
    refine .completed [t] ts [.word] htokens
      (.near List.getLast?_singleton (by simpa using hcontinues) rfl) (by simp) (by simp) ?_
    intro _ ks rest hks hnear _
    obtain ⟨u, rfl, hu⟩ := Filler.are_singleton hks
    refine ⟨_, _, reads_dots filter' ht (hnear rfl u rfl) (by rw [hu]; rfl) rest _, _, rfl, ?_⟩
    intro hsingular
    rcases ht with ht | ht
    · rw [ht]
      rfl
    · rw [List.map_singleton, ht, Token.staysSingular] at hsingular
      cases hsingular

/-- What is read behind two dots. -/
def afterDoubleDot (filter : Parser Segment) : Parser (Option Segment) := do
  if (← peek) = some .leftBracket && (← isAdjacent) then
    return some (.descendant (← bracketed filter))
  else return some (.descendant (← shorthand .memberAfterDoubleDot))

include hfilter

lemma extends_afterDoubleDot {closers : List (Option Token)} (hkeeps : Keeps Shrinks filter)
    (hkeeps' : Keeps Shrinks filter') (hnext : nextOf state.tokens = some .leftBracket)
    (hstart : startOf state.textEnd state.tokens = state.previousStop) :
    Extends closers (fun _ => False) Goal.any.present (afterDoubleDot filter)
      (afterDoubleDot filter') state := by
  have hread : ∀ us s?, (Goal.any : Goal Segment).present.read us s? → us ≠ [] :=
    fun us s? ⟨_, _, hus⟩ => hus
  have hadjacent : isAdjacent state = .ok true state := by
    show EStateM.Result.ok (startOf state.textEnd state.tokens == state.previousStop) state = _
    rw [hstart, beq_self_eq_true]
  refine .peek hread (.look hadjacent (fun u us ts htokens => ?_) hread ?_)
  · refine reads_isAdjacent u ts _ ?_
    rw [← hstart, htokens]
    rfl
  · rw [hnext, if_pos (by simp), if_pos (by simp), bind_pure_comp, bind_pure_comp]
    exact (extends_bracketed hfilter hkeeps hkeeps' hnext).map (fun us h => h)
      (fun us s h => ⟨_, rfl, h.1⟩) fun us s _ _ => ⟨_, rfl, trivial⟩

/-- Brackets directly behind two dots. -/
lemma extends_doubleDot {closers : List (Option Token)} (hkeeps : Keeps Shrinks filter)
    (hkeeps' : Keeps Shrinks filter') {t : Spanned} {ts : List Spanned}
    (htokens : state.tokens = t :: ts) (ht : t.token = .doubleDot)
    (hnext : nextOf ts = some .leftBracket) (hstart : startOf state.textEnd ts = t.stop) :
    Extends closers (fun _ => False) Goal.segment.present (segment? filter) (segment? filter')
      state := by
  obtain ⟨tokens, stop, textEnd, diagnostics⟩ := state
  obtain ⟨_, start, tstop⟩ := t
  subst htokens ht
  have hfalse (us : List Spanned) (more : List Token) :
      Token.staysSingular
        ((⟨.doubleDot, start, tstop⟩ :: us : List Spanned).map Spanned.token ++ more) = false := by
    rw [List.map_cons, List.cons_append, Token.staysSingular]
  refine .over [⟨.doubleDot, start, tstop⟩] ⟨ts, tstop, textEnd, diagnostics⟩
    (afterDoubleDot filter) (afterDoubleDot filter') rfl rfl rfl
    (fun ts' y c h => h) ?_
  refine (extends_afterDoubleDot hfilter hkeeps hkeeps' hnext hstart).mono (List.Subset.refl _)
    (fun _ h => h) ⟨fun us h => Steady.of_append h, ?_, ?_⟩
  · rintro us s? ⟨s, rfl, -⟩
    refine ⟨s, rfl, by simp, fun more h => ?_⟩
    rw [List.singleton_append, hfalse us more] at h
    cases h
  · rintro us s? - ⟨s, rfl, -⟩
    refine ⟨s, rfl, fun h => ?_⟩
    rw [List.singleton_append, ← List.append_nil (List.map _ _), hfalse us []] at h
    cases h

lemma extends_segment? {closers : List (Option Token)} (hkeeps : Keeps Shrinks filter)
    (hkeeps' : Keeps Shrinks filter') (hstarts : startsSegment (nextOf state.tokens)) :
    Extends closers (fun _ => False) Goal.segment.present (segment? filter) (segment? filter')
      state := by
  rcases hstarts with hnext | hnext | hnext
  · obtain ⟨t, ts, htokens, ht⟩ := exists_of_nextOf hnext
    exact extends_dots htokens (.inl ht) fun _ _ => ht
  · obtain ⟨t, ts, htokens, ht⟩ := exists_of_nextOf hnext
    by_cases hbracket : nextOf ts = some .leftBracket ∧ startOf state.textEnd ts = t.stop
    · exact extends_doubleDot hfilter hkeeps hkeeps' htokens ht hbracket.1 hbracket.2
    · exact extends_dots htokens (.inr ht) fun hnext hstart => absurd ⟨hnext, hstart⟩ hbracket
  · refine .peek (fun us s? ⟨_, _, hus⟩ => hus.1) ?_
    rw [hnext]
    exact (extends_bracketed hfilter hkeeps hkeeps' hnext).map (fun us h => h)
      (fun us s h => ⟨s, rfl, h⟩) fun us s _ h => ⟨s, rfl, h⟩

/-- Segments are completed within the last of them. -/
theorem extends_segments (hkeeps : Keeps Shrinks filter) (hkeeps' : Keeps Shrinks filter')
    (state : ParserState) :
    Extends operandEnds (fun _ => False) Goal.segments (segments filter) (segments filter')
      state := by
  refine .many (starts_segment? hkeeps) (starts_segment? hkeeps') (fun _ => not_startsSegment) ?_
    (fun state => extends_segment? hfilter hkeeps hkeeps') state
  · refine {
      given := fun us h => h
      suffix := fun us vs => Steady.of_append
      read := fun us s? ⟨s, hs, hus⟩ => ⟨hus.1, s, hs⟩
      nil := fun more h => ⟨rfl, h⟩
      cons := fun us s vs ss hs hss more hmore => ?_
      cons_completed := fun us s vs ss hs hss hsingular => ?_
      last := fun us s? ⟨s, hs, hcompleted⟩ => ⟨s, hs, fun hsingular => ?_⟩ }
    · obtain ⟨_, ⟨⟩, -, hs⟩ := hs
      rw [List.map_append, List.append_assoc] at hmore
      obtain ⟨hsingular, hmore⟩ := hs _ hmore
      obtain ⟨hall, hmore⟩ := hss _ hmore
      exact ⟨Segment.allSingular_cons hsingular hall, hmore⟩
    · obtain ⟨_, ⟨⟩, -, hs⟩ := hs
      rw [List.map_append] at hsingular
      obtain ⟨hfirst, hrest⟩ := hs _ hsingular
      exact Segment.allSingular_cons hfirst (hss hrest)
    · exact Segment.allSingular_cons (hcompleted hsingular) rfl

end Filter

end Parser

end JsonPath
