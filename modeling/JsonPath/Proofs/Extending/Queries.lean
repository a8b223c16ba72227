import JsonPath.Proofs.Extending.Expressions
import JsonPath.Proofs.Extending.Tokens
import JsonPath.Proofs.Spacing.Insertion

/-!
# Where a text stops being a query

Where a text fails for want of something, the text in front of the position can be extended to one
that is accepted (`Query.exists_isExtendable`), with two exceptions.

* A query on the right of a comparison is refused for selecting more than one node only when all of
  it has been read.  A failure within it comes first.
* A text is cut into tokens before any of them is read, so a failure of the scanner comes before all
  failures of the parser (`Query.not_isExtendable_bracket`).

Tokens come first.  A whole query fails in its segments, behind them or for blanks at its end, and
each time what has been read is completed (`Parser.failsBehind_of_query`).
-/

namespace JsonPath

/-! ## Tokens of whole queries -/

namespace Parser

variable {r : Registry} {c : ParserConfig} {state : ParserState}

/-- One level more, and type errors are no failures. -/
def moreLenient (c : ParserConfig) : ParserConfig := ⟨c.maxDepth + 1, false⟩

/-- The filters of a whole query. -/
def wholeFilter (r : Registry) (c : ParserConfig) : Parser Segment :=
  filter c.maxDepth (expressionWithin c.maxDepth c.maxDepth) (checkFilter r c.strict)

lemma keeps_wholeFilter (r : Registry) (c : ParserConfig) : Keeps Shrinks (wholeFilter r c) :=
  keeps_filter isKept_shrinks c.maxDepth
    (keeps_expressionWithin isKept_shrinks c.maxDepth c.maxDepth)
    fun position test _ => (sameTokens_checkFilter r c.strict position test).shrinks_of_same

lemma extends_wholeFilter (r : Registry) (c : ParserConfig) (state : ParserState)
    (hnext : nextOf state.tokens = some .question) :
    Extends ends (fun _ => False) Goal.test (wholeFilter r c) (wholeFilter r (moreLenient c))
      state :=
  extends_filter (levels_expressionWithin c.maxDepth (c.maxDepth + 1) c.maxDepth)
    (concludes_checkFilter r c.strict) hnext

/-- The tokens are those of a whole query. -/
def IsWhole (r : Registry) (c : ParserConfig) (ts : List Spanned) : Prop :=
  ∃ root rest segments stop, ts = root :: rest ∧ root.token = .root ∧ root.start = 0 ∧
    Reads (wholeSegments r c) ⟨rest, root.stop⟩ segments ⟨[], stop⟩

/-- A text is accepted if its tokens are those of a whole query and the last one ends with it. -/
lemma IsWhole.parse {ts : List Spanned} (h : IsWhole r c ts) {text : List Char}
    (hcuts : Cuts 0 text ts)
    (hend : ts.getLast?.map Spanned.stop = some (Text.byteLength text)) :
    ∃ q, (Query.parse r c (String.ofList text)).1 = .ok q := by
  obtain ⟨root, rest, segments, stop, rfl, htoken, hstart, hreads⟩ := h
  have hscan : Token.scanAll (String.ofList text) = .ok (root :: rest) := by
    rw [Token.scanAll, String.toList_ofList]
    exact hcuts.scanFrom_eq
  have hsize : (String.ofList text).utf8ByteSize = Text.byteLength text :=
    (Text.byteLength_eq_utf8ByteSize text).symm
  obtain ⟨diagnostics, hsegments⟩ := hreads (Text.byteLength text) []
  have hlast : Text.byteLength text = stop := by
    refine (lastStop_of_wholeSegments hsegments rfl).2 ?_
    rw [← lastStop_cons root rest 0]
    exact ((lastStop_eq_iff (List.cons_ne_nil root rest)).2 hend).symm
  have hquery : query r c ⟨root :: rest, 0, (String.ofList text).utf8ByteSize, []⟩ =
      .ok ⟨.root, segments⟩ ⟨[], stop, Text.byteLength text, diagnostics⟩ := by
    rw [hsize]
    exact query_eq_ok_iff.2 ⟨root, rest, segments, rfl, htoken, hstart, hsegments, rfl, hlast, rfl⟩
  exact ⟨_, by rw [Query.parse_of_query hscan hquery]⟩

/-- The fillers behind the tokens `us` make a whole query of them. -/
def CompletesQuery (r : Registry) (c : ParserConfig) (us : List Spanned) (fs : List Filler)
    (near : Bool) (position : Nat) : Prop :=
  ∀ ks, Filler.Are fs ks → (near = true → ∀ k ∈ ks.head?, k.start = position) →
    IsWhole r c (us ++ ks)

/-- Where a whole query fails: at the start of the text, or behind tokens that can be completed. -/
inductive FailsBehind (r : Registry) (c : ParserConfig) (state : ParserState)
    (position : Nat) : Prop
  | start (h : position = 0)
  | behind {near : Bool} (us vs : List Spanned) (fs : List Filler)
      (htokens : state.tokens = us ++ vs)
      (hedge : IsEdge us vs state.textEnd fs near position) (hlast : fs ≠ [] ∨ near = true)
      (h : Steady us → CompletesQuery r (moreLenient c) us fs near position)

/-- What comes behind the segments of a whole query. -/
def wholeEnd (segments : List Segment) : Parser Query := do
  if (← peek).isSome then failHere .segmentOrEnd
  else if !(← isAdjacent) then failAt (← previousStop) .segmentAfterBlank
  else return ⟨.root, segments⟩

lemma wholeEnd_error {segments : List Segment} {e : Failure} {last : ParserState}
    (h : wholeEnd segments state = .error e last) :
    Here state e.offset ∨ (state.tokens = [] ∧ e.offset = state.previousStop) := by
  obtain ⟨tokens, stop, textEnd, diagnostics⟩ := state
  cases tokens with
  | cons t ts =>
    cases h
    exact .inl rfl
  | nil =>
    have hadjacent : isAdjacent ⟨[], stop, textEnd, diagnostics⟩ =
      .ok (textEnd == stop) ⟨[], stop, textEnd, diagnostics⟩ := rfl
    rw [wholeEnd, bind_of_ok (peek_eq _), if_neg (by simp [next?]), bind_of_ok hadjacent] at h
    split at h <;> cases h
    exact .inr ⟨rfl, rfl⟩

/-- The root sign of a query and the tokens behind it. -/
structure Rooted (state : ParserState) (root : Spanned) (ts : List Spanned) : Prop where
  tokens : state.tokens = root :: ts
  token : root.token = .root
  start : root.start = 0

/-- The state behind the root sign. -/
def behindRoot (state : ParserState) (root : Spanned) (ts : List Spanned) : ParserState :=
  ⟨ts, root.stop, state.textEnd, state.diagnostics⟩

lemma query_of_rooted {root : Spanned} {ts : List Spanned} (h : Rooted state root ts) :
    query r c state = (wholeSegments r c >>= wholeEnd) (behindRoot state root ts) := by
  obtain ⟨tokens, stop, textEnd, diagnostics⟩ := state
  obtain ⟨rfl, htoken, hstart⟩ := h
  have hadvance : advance ⟨root :: ts, stop, textEnd, diagnostics⟩ =
    .ok () ⟨ts, root.stop, textEnd, diagnostics⟩ := rfl
  rw [query, bind_of_ok (offset_eq _), bind_of_ok (peek_eq _),
    if_neg (by simp [next?, htoken, hstart]), bind_of_ok hadvance]
  rfl

lemma offset_of_not_rooted {e : Failure} {last : ParserState}
    (h : query r c state = .error e last) (hroot : ¬ ∃ root ts, Rooted state root ts) :
    e.offset = 0 := by
  have hno : (!((state.tokens.head?.map Spanned.start).getD state.textEnd == 0 &&
      next? state == some .root)) = true := by
    cases htokens : state.tokens with
    | nil => simp [next?, htokens]
    | cons t ts =>
      rw [Bool.not_eq_true', Bool.and_eq_false_iff, beq_eq_false_iff_ne, beq_eq_false_iff_ne]
      by_contra hboth
      rw [not_or, not_not, not_not, next?, htokens] at hboth
      exact hroot ⟨t, ts, htokens, Option.some.inj hboth.2, hboth.1⟩
  rw [query, bind_of_ok (offset_eq _), bind_of_ok (peek_eq _), if_pos hno] at h
  cases h
  rfl

section Rooted

variable {root : Spanned} {ts : List Spanned} {e : Failure} {next last : ParserState}
  {what : Expectation} {segments : List Segment}

/-- A failure within the segments. -/
lemma Rooted.failsBehind_of_segments (hroot : Rooted state root ts)
    (h : wholeSegments r c (behindRoot state root ts) = .error e next)
    (he : e.cause = .expected what) : FailsBehind r c state e.offset := by
  have hextends : Extends operandEnds (fun _ => False) Goal.segments (wholeSegments r c)
      (wholeSegments r (moreLenient c)) (behindRoot state root ts) :=
    extends_segments (extends_wholeFilter r c) (keeps_wholeFilter r c)
      (keeps_wholeFilter r (moreLenient c)) _
  unfold Extends at hextends
  rw [h] at hextends
  cases hextends with
  | known h => exact h.elim
  | other h => exact absurd he (h what)
  | completed us vs fs hts hedge hus hfs hreads =>
    have htokens : state.tokens = (root :: us) ++ vs := by
      rw [hroot.tokens, List.cons_append]
      exact congrArg (root :: ·) hts
    refine .behind (root :: us) vs fs htokens (hedge.append [root]) (.inl hfs)
      fun (hsteady : Steady ([root] ++ us)) ks hks hnear => ?_
    obtain ⟨segments, stop, hsegments, -⟩ :=
      hreads hsteady.of_append ks [] hks hnear (by simp [operandEnds, ends, nextOf])
    rw [List.append_nil] at hsegments
    exact ⟨root, us ++ ks, segments, stop, rfl, hroot.token, hroot.start, hsegments⟩

/-- What is read as segments is so before a bracket as well, and at the end of the text. -/
lemma exists_readsSegments (h : wholeSegments r c state = .ok segments next) :
    ∃ us, state.tokens = us ++ next.tokens ∧ next.textEnd = state.textEnd ∧
      ∀ rest, MayFollow [some .leftBracket] next.tokens rest →
        ReadsMany (segment? (wholeFilter r (moreLenient c))) ⟨us ++ rest, state.previousStop⟩
          segments ⟨rest, next.previousStop⟩ :=
  exists_readsMany (P := Goal.segment.present) (starts_segment? (keeps_wholeFilter r c))
    (fun _ _ ⟨s, hs, hus⟩ => ⟨hus.1, s, hs⟩)
    (fun _ => extends_segment? (extends_wholeFilter r c) (keeps_wholeFilter r c)
      (keeps_wholeFilter r (moreLenient c))) h

lemma ReadsMany.wholeSegments {ts : List Spanned} {start stop : Nat}
    (h : ReadsMany (segment? (wholeFilter r c)) ⟨ts, start⟩ segments ⟨[], stop⟩) :
    Reads (wholeSegments r c) ⟨ts, start⟩ segments ⟨[], stop⟩ :=
  h.many <| (starts_segment? (keeps_wholeFilter r c)).reads_none
    (by simp [startsSegment, nextOf]) stop

/-- Behind the segments there is something else.  A further segment completes the query. -/
lemma Rooted.failsBehind_of_more (hroot : Rooted state root ts)
    (h : wholeSegments r c (behindRoot state root ts) = .ok segments next) {position : Nat}
    (hposition : Here next position) : FailsBehind r c state position := by
  obtain ⟨us, hts, hend, hreads⟩ := exists_readsSegments h
  have htokens : state.tokens = (root :: us) ++ next.tokens := by
    rw [hroot.tokens, List.cons_append]
    exact congrArg (root :: ·) hts
  refine .behind (root :: us) next.tokens [.leftBracket, .string, .rightBracket] htokens
    (.far ?_) (.inl (by simp)) fun _ ks hks _ => ?_
  · rw [← show next.textEnd = state.textEnd from hend]
    exact hposition
  · obtain ⟨t, ks, rfl, ht, hks⟩ := Filler.are_cons hks
    obtain ⟨u, ks, rfl, hu, hks⟩ := Filler.are_cons hks
    obtain ⟨v, rfl, hv⟩ := Filler.are_singleton hks
    have hbracket : nextOf [t, u, v] ∈ [some Token.leftBracket] :=
      List.mem_singleton.2 (congrArg some ht)
    have hname := reads_segment?_name (wholeFilter r (moreLenient c)) ht hu hv [] next.previousStop
    exact ⟨root, us ++ [t, u, v], _, _, rfl, hroot.token, hroot.start,
      ((hreads [t, u, v] (.inr hbracket)).snoc hname (by simp)).wholeSegments⟩

/-- Behind the segments there are blanks. -/
lemma Rooted.failsBehind_of_blank (hroot : Rooted state root ts)
    (h : wholeSegments r c (behindRoot state root ts) = .ok segments next)
    (hend : next.tokens = []) : FailsBehind r c state next.previousStop := by
  obtain ⟨us, hts, -, hreads⟩ := exists_readsSegments h
  have hts : ts = us := by simpa [behindRoot, hend] using hts
  subst hts
  have hlast : (root :: ts).getLast?.map Spanned.stop = some next.previousStop := by
    obtain ⟨-, hstop⟩ := (keepsEnd_wholeSegments r c).of_ok h
    rw [lastStop, hend] at hstop
    have hroots : lastStop ⟨root :: ts, 0, state.textEnd, state.diagnostics⟩ =
        next.previousStop := by
      rw [lastStop_cons]
      exact hstop.symm
    exact (lastStop_eq_iff (List.cons_ne_nil root ts)).1 hroots
  obtain ⟨t, ht, hstop⟩ := Option.map_eq_some_iff.1 hlast
  refine .behind (root :: ts) [] [] (by rw [hroot.tokens, List.append_nil])
    (.near ht (by simp) hstop.symm) (.inr rfl) fun _ ks hks _ => ?_
  rw [Filler.are_nil hks]
  exact ⟨root, ts ++ [], segments, _, rfl, hroot.token, hroot.start,
    (hreads [] (.inl (by rw [hend]))).wholeSegments⟩

end Rooted

theorem failsBehind_of_query {e : Failure} {last : ParserState} {what : Expectation}
    (h : query r c state = .error e last) (he : e.cause = .expected what) :
    FailsBehind r c state e.offset := by
  by_cases hrooted : ∃ root ts, Rooted state root ts
  · obtain ⟨root, ts, hroot⟩ := hrooted
    rw [query_of_rooted hroot] at h
    cases hsegments : wholeSegments r c (behindRoot state root ts) with
    | error e' next =>
      rw [bind_of_error hsegments] at h
      cases h
      exact hroot.failsBehind_of_segments hsegments he
    | ok segments next =>
      rw [bind_of_ok hsegments] at h
      rcases wholeEnd_error h with hposition | ⟨hend, hposition⟩
      · exact hroot.failsBehind_of_more hsegments hposition
      · rw [hposition]
        exact hroot.failsBehind_of_blank hsegments hend
  · exact .start (offset_of_not_rooted h hrooted)

end Parser

/-! ## Texts -/

namespace Query

variable {r : Registry} {c : ParserConfig} {text : List Char}

/-- Some text that starts with these characters is accepted, with some limit of levels and not
strictly. -/
def IsExtendable (r : Registry) (before : List Char) : Prop :=
  ∃ more limit q, (parse r ⟨limit, false⟩ (String.ofList (before ++ more))).1 = .ok q

/-- With some limit of levels the text is accepted, or the first thing that is missing is so at the
position or further on. -/
def IsReadUpTo (r : Registry) (text : List Char) (position : Nat) : Prop :=
  ∃ limit, ∀ e, (parse r ⟨limit, false⟩ (String.ofList text)).1 = .error e →
    (∃ what, e.cause = .expected what) ∧ position ≤ e.offset

lemma IsExtendable.of_append {before more : List Char} (h : IsExtendable r (before ++ more)) :
    IsExtendable r before := by
  obtain ⟨rest, limit, q, h⟩ := h
  exact ⟨more ++ rest, limit, q, by rwa [← List.append_assoc]⟩

/-- A root sign is a query. -/
lemma isExtendable_nil (r : Registry) : IsExtendable r [] := by
  have hwhole : Parser.IsWhole r ⟨1, false⟩ [⟨.root, 0, 1⟩] :=
    ⟨_, [], [], 1, rfl, rfl, rfl, (Parser.ReadsMany.nil _).wholeSegments⟩
  have hcuts : Cuts 0 ['$'] [⟨.root, 0, 1⟩] := Cuts.cons (by decide) rfl (.nil 1)
  obtain ⟨q, hq⟩ := hwhole.parse hcuts rfl
  exact ⟨['$'], 1, q, hq⟩

/-- The text is cut at the position, and what is in front of it, with the tokens `us`, can be
extended if the operands of its comparisons stay singular. -/
structure IsLocated (r : Registry) (text : List Char) (tokens : List Spanned) (position : Nat)
    (before : List Char) (us : List Spanned) : Prop where
  isPrefix : before <+: text
  position_eq : Text.byteLength before = position
  tokens_front : us <+: tokens
  cuts : Cuts 0 before us
  isExtendable : Parser.Steady us → IsExtendable r before

lemma exists_isLocated {tokens : List Spanned} {position : Nat} (hcuts : Cuts 0 text tokens)
    (h : Parser.FailsBehind r c ⟨tokens, 0, Text.byteLength text, []⟩ position) :
    ∃ before us, IsLocated r text tokens position before us := by
  cases h with
  | start h =>
    exact ⟨[], [], ⟨_, rfl⟩, h.symm, ⟨_, rfl⟩, .nil 0, fun _ => isExtendable_nil r⟩
  | @behind near us vs fs htokens hedge hlast hcompletes =>
    subst htokens
    obtain ⟨before, after, rfl, hposition, hus, more, ks, hmore, hks, hnear, hend⟩ :=
      exists_filled hcuts hedge hlast
    refine ⟨before, us, List.prefix_append _ _, hposition, List.prefix_append _ _, hus, ?_⟩
    intro hsteady
    obtain ⟨q, hq⟩ := (hcompletes hsteady ks hks hnear).parse hmore hend
    exact ⟨more, c.maxDepth + 1, q, hq⟩

/-- A text that can be cut into tokens fails behind what can be extended. -/
lemma exists_isLocated_of_parse {tokens : List Spanned} {e : Failure} {what : Expectation}
    (hcuts : Cuts 0 text tokens) (h : (parse r c (String.ofList text)).1 = .error e)
    (he : e.cause = .expected what) :
    ∃ before us, IsLocated r text tokens e.offset before us := by
  have hscan : Token.scanAll (String.ofList text) = .ok tokens := by
    rw [Token.scanAll, String.toList_ofList]
    exact hcuts.scanFrom_eq
  rw [parse, hscan] at h
  cases hquery : Parser.query r c ⟨tokens, 0, (String.ofList text).utf8ByteSize, []⟩ with
  | ok q last => simp [EStateM.run, hquery] at h
  | error e' last =>
    obtain rfl : e' = e := by simpa [EStateM.run, hquery] using h
    rw [← Text.byteLength_eq_utf8ByteSize] at hquery
    exact exists_isLocated hcuts (Parser.failsBehind_of_query hquery he)

/-- What is read up to its end can be extended. -/
lemma isExtendable_of_isReadUpTo {before more : List Char} {tokens : List Spanned}
    (hcuts : Cuts 0 (before ++ more) tokens) (hsteady : Parser.Steady tokens)
    (h : IsReadUpTo r (before ++ more) (Text.byteLength before)) : IsExtendable r before := by
  obtain ⟨limit, h⟩ := h
  cases hparse : (parse r ⟨limit, false⟩ (String.ofList (before ++ more))).1 with
  | ok q => exact ⟨more, limit, q, hparse⟩
  | error e =>
    obtain ⟨⟨what, he⟩, hle⟩ := h e hparse
    obtain ⟨before', us, hlocated⟩ := exists_isLocated_of_parse hcuts hparse he
    obtain ⟨after, htext⟩ := hlocated.isPrefix
    obtain ⟨vs, htokens⟩ := hlocated.tokens_front
    rw [← hlocated.position_eq] at hle
    obtain ⟨middle, rfl, -⟩ := exists_append_of_byteLength_le htext.symm hle
    refine (hlocated.isExtendable ?_).of_append
    rw [Parser.Steady, ← htokens, List.map_append] at hsteady
    exact Token.comparesSingular_of_front hsteady

/-- Only one part of a text ends at a position. -/
lemma eq_of_isPrefix {before : List Char} (h : before <+: text) (before' : List Char)
    (h' : before' <+: text) (hlength : Text.byteLength before = Text.byteLength before') :
    before = before' := by
  obtain ⟨after, rfl⟩ := h
  obtain ⟨after', htext⟩ := h'
  obtain ⟨s, rfl, -⟩ := exists_append_of_byteLength_le htext hlength.ge
  rw [Piece.byteLength_append] at hlength
  rw [eq_nil_of_byteLength (by omega : Text.byteLength s = 0), List.append_nil]

/-- Where a text fails for want of something, what stands in front can be extended to a text that is
accepted, as long as no comparison in it has an operand of more than one node on its right.

Where the text cannot be cut into tokens, it may be refused at an earlier position as well, and
nothing is said then: the scanner comes before the parser.  In that case a digit or a quote may be
wanted behind what stands in front, so that it can be cut into tokens itself. -/
theorem exists_isExtendable (r : Registry) (c : ParserConfig) (text : String)
    {position : Nat} {what : Expectation}
    (h : (parse r c text).1 = .error ⟨position, .expected what⟩) :
    ∃ before, before <+: text.toList ∧ Text.byteLength before = position ∧
      match Token.scanAll text with
      | .ok _ => ∃ us, Token.scanAll (String.ofList before) = .ok us ∧
          (Token.comparesSingular (us.map Spanned.token) → IsExtendable r before)
      | .error _ =>
        (∃ more us, more.length ≤ 1 ∧ Token.scanAll (String.ofList (before ++ more)) = .ok us) ∧
          ∀ more us, Token.scanAll (String.ofList (before ++ more)) = .ok us →
            Token.comparesSingular (us.map Spanned.token) →
            IsReadUpTo r (before ++ more) position → IsExtendable r before := by
  have hscanAll (s : List Char) (ts : List Spanned) :
      Token.scanAll (String.ofList s) = .ok ts ↔ Cuts 0 s ts := by
    rw [Token.scanAll, String.toList_ofList, cuts_iff]
  cases hscan : Token.scanAll text with
  | ok tokens =>
    rw [← String.ofList_toList (s := text)] at hscan h
    obtain ⟨before, us, hlocated⟩ :=
      exists_isLocated_of_parse ((hscanAll _ _).1 hscan) h rfl
    exact ⟨before, hlocated.isPrefix, hlocated.position_eq, us, (hscanAll _ _).2 hlocated.cuts,
      hlocated.isExtendable⟩
  | error e =>
    have he : e = ⟨position, .expected what⟩ := by simpa [parse, hscan] using h
    obtain ⟨before, after, more, us, htext, hposition, -, hlength, hcuts⟩ :=
      exists_cuts_of_error hscan
    rw [he, Nat.zero_add] at hposition
    refine ⟨before, ⟨after, htext.symm⟩, hposition.symm,
      ⟨more, us, hlength, (hscanAll _ _).2 hcuts⟩, fun more us hscan hsteady hread => ?_⟩
    rw [show position = Text.byteLength before from hposition] at hread
    exact isExtendable_of_isReadUpTo ((hscanAll _ _).1 hscan) hsteady hread

/-- An unfinished comparison, and a minus sign without a digit. -/
theorem isExtendable_unfinished :
    (parse .standard {} "$[?@.a == ").1 = .error ⟨10, .expected .operand⟩ ∧
      IsExtendable .standard "$[?@.a == ".toList ∧
      (parse .standard {} "$[-x").1 = .error ⟨3, .expected .digit⟩ ∧
      IsExtendable .standard "$[-".toList := by
  have hscan : Token.scanAll "$[?@.a == " = .ok [⟨.root, 0, 1⟩, ⟨.leftBracket, 1, 2⟩,
      ⟨.question, 2, 3⟩, ⟨.current, 3, 4⟩, ⟨.dot, 4, 5⟩, ⟨.name "a", 5, 6⟩,
      ⟨.comparison .eq, 7, 9⟩] := eq_ok_of_toOption (by decide +kernel)
  have hparse : (parse .standard {} "$[?@.a == ").1 = .error ⟨10, .expected .operand⟩ := by
    rw [parse, hscan]
    rfl
  have hminus : Token.scanAll "$[-x" = .error ⟨3, .expected .digit⟩ := by
    have hdigit : Token.scanFrom 2 ['-', 'x'] = .error ⟨3, .expected .digit⟩ :=
      scanFrom_of_scan_error (by decide) rfl
    show Token.scanFrom 0 ['$', '[', '-', 'x'] = _
    rw [scanFrom_of_scan (by decide) rfl, scanFrom_of_scan (by decide) rfl, hdigit]
    rfl
  have hparse' : (parse .standard {} "$[-x").1 = .error ⟨3, .expected .digit⟩ := by
    rw [parse, hminus]
  refine ⟨hparse, ?_, hparse', ?_⟩
  · obtain ⟨before, hfront, hposition, h⟩ := exists_isExtendable .standard {} _ hparse
    obtain rfl := eq_of_isPrefix hfront "$[?@.a == ".toList (List.prefix_refl _)
      (hposition.trans (by decide))
    rw [hscan] at h
    obtain ⟨us, hus, h⟩ := h
    rw [String.ofList_toList, hscan] at hus
    cases hus
    exact h rfl
  · obtain ⟨before, hfront, hposition, h⟩ := exists_isExtendable .standard {} _ hparse'
    obtain rfl := eq_of_isPrefix hfront "$[-".toList ⟨['x'], by decide⟩
      (hposition.trans (by decide))
    rw [hminus] at h
    have hmore : Token.scanAll (String.ofList ("$[-".toList ++ ['1'])) = .ok [⟨.root, 0, 1⟩,
        ⟨.leftBracket, 1, 2⟩, ⟨.number "-1", 2, 4⟩] := eq_ok_of_toOption (by decide +kernel)
    refine h.2 ['1'] _ hmore rfl ⟨1, fun e he => ?_⟩
    rw [parse, hmore] at he
    cases he
    exact ⟨⟨_, rfl⟩, by decide⟩

/-- The scanner goes on behind a bracket with which no query starts. -/
theorem not_isExtendable_bracket :
    (parse .standard {} "]#").1 = .error ⟨1, .expected .anyToken⟩ ∧
      ¬ ∃ before, before <+: "]#".toList ∧ Text.byteLength before = 1 ∧
        IsExtendable .standard before := by
  have hscan : Token.scanAll "]#" = .error ⟨1, .expected .anyToken⟩ := by
    have hsharp : Token.scanFrom 1 ['#'] = .error ⟨1, .expected .anyToken⟩ :=
      scanFrom_of_scan_error (by decide) rfl
    show Token.scanFrom 0 [']', '#'] = _
    rw [scanFrom_of_scan (by decide) rfl, hsharp]
    rfl
  refine ⟨by rw [parse, hscan], ?_⟩
  rintro ⟨before, hfront, hposition, more, limit, q, hread⟩
  obtain rfl := eq_of_isPrefix hfront [']'] ⟨['#'], by decide⟩ (hposition.trans (by decide))
  obtain ⟨tokens, state, hscan, hquery⟩ := exists_of_parse hread
  obtain ⟨root, rest, segments, rfl, hroot, -⟩ := Parser.query_eq_ok_iff.1 hquery
  rw [Token.scanAll, String.toList_ofList, List.singleton_append,
    scanFrom_of_scan (by decide) rfl] at hscan
  obtain ⟨ts, -, hts⟩ := exists_of_map_eq_ok hscan
  obtain ⟨rfl, -⟩ := List.cons.inj hts
  cases hroot

end Query

end JsonPath
