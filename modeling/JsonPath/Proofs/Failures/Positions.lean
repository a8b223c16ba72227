import JsonPath.Proofs.Canonical.RoundTrip
import JsonPath.Proofs.Failures.Places
import JsonPath.Proofs.Parser.Progress
import JsonPath.Proofs.Results

/-!
# Positions of failures

Every failure points to a place in the text (`Query.isPlace_of_parse`), so its line, its column and
the text in front of it are those of a real position (`Query.report_of_parse`).

The parser looks up positions in its state only: where tokens start and stop and where the text
ends.  `Parser.PointsTo place p` says that `p` fails at places if its state holds places, and leaves
such a state behind otherwise.
-/

namespace JsonPath

namespace Parser

variable {α β : Type} {place : Nat → Prop}

/-- The positions of the state are places. -/
structure HoldsPlaces (place : Nat → Prop) (state : ParserState) : Prop where
  tokens : ∀ t ∈ state.tokens, place t.start ∧ place t.stop
  previousStop : place state.previousStop
  textEnd : place state.textEnd

/-- The result is a state of places or a failure at a place. -/
inductive EndsAtPlace {α : Type} (place : Nat → Prop) :
    EStateM.Result Failure ParserState α → Prop
  | ok {x : α} {next : ParserState} (h : HoldsPlaces place next) : EndsAtPlace place (.ok x next)
  | error {e : Failure} {next : ParserState} (h : place e.offset) :
      EndsAtPlace place (.error e next)

/-- From a state of places the reader comes to such a state, or it fails at a place. -/
def PointsTo {α : Type} (place : Nat → Prop) (p : Parser α) : Prop :=
  ∀ state, HoldsPlaces place state → EndsAtPlace place (p state)

lemma HoldsPlaces.offset {state : ParserState} (h : HoldsPlaces place state) :
    place ((state.tokens.head?.map Spanned.start).getD state.textEnd) := by
  cases htokens : state.tokens with
  | nil => exact h.textEnd
  | cons t ts => exact (h.tokens t (by simp [htokens])).1

lemma PointsTo.bind {p : Parser α} {f : α → Parser β} (hp : PointsTo place p)
    (hf : ∀ x, PointsTo place (f x)) : PointsTo place (p >>= f) := by
  intro state hstate
  have hp := hp state hstate
  cases hresult : p state with
  | error e next =>
    rw [hresult] at hp
    rw [bind_of_error hresult]
    cases hp with
    | error h => exact .error h
  | ok x next =>
    rw [hresult] at hp
    rw [bind_of_ok hresult]
    cases hp with
    | ok h => exact hf x next h

lemma pointsTo_advance : PointsTo place advance := by
  rintro ⟨tokens, stop, textEnd, diagnostics⟩ hstate
  cases tokens with
  | nil => exact .ok hstate
  | cons t ts =>
    obtain ⟨ht, hts⟩ := List.forall_mem_cons.1 hstate.tokens
    exact .ok ⟨hts, ht.2, hstate.textEnd⟩

/-- All readers point to places. -/
lemma isKept_pointsTo : IsKept (fun p => PointsTo place p) place where
  pure _ _ hstate := .ok hstate
  fail h _ _ := .error h
  bind hp hf := hp.bind hf
  get_bind hf state hstate := hf state state hstate
  offset_bind hf state hstate := hf _ hstate.offset state hstate
  previousStop_bind hf state hstate := hf _ hstate.previousStop state hstate
  advance := pointsTo_advance

lemma pointsTo_checkFilter (r : Registry) (strict : Bool) (position : Nat) (test : Expr)
    (h : place position) : PointsTo place (checkFilter r strict position test) := by
  dsimp only [checkFilter]
  split
  · exact isKept_pointsTo.fail h
  · exact isKept_pointsTo.pure ()
  · exact fun _ hstate => .ok ⟨hstate.tokens, hstate.previousStop, hstate.textEnd⟩

lemma pointsTo_query (hstart : place 0) (r : Registry) (c : ParserConfig) :
    PointsTo place (query r c) :=
  keeps_query isKept_pointsTo hstart (pointsTo_checkFilter r c.strict)

end Parser

/-! ## Texts -/

namespace Text

lemma isPlace_zero (text : List Char) : IsPlace text 0 := ⟨[], text, rfl, rfl, by simp⟩

lemma isPlace_end (text : List Char) : IsPlace text (byteLength text) :=
  ⟨text, [], by simp, rfl, by simp⟩

lemma before?_byteLength (before after : List Char) :
    before? (byteLength before) (before ++ after) = some before := by
  induction before with
  | nil => cases after <;> rfl
  | cons c before ih =>
    have hpos := c.utf8Size_pos
    obtain ⟨n, hn⟩ : ∃ n, byteLength (c :: before) = n + 1 :=
      Nat.exists_eq_add_one.2 (by rw [byteLength]; omega)
    have hrest : n + 1 - c.utf8Size = byteLength before := by
      rw [← hn, byteLength, Nat.add_sub_cancel_left]
    have hle : c.utf8Size ≤ n + 1 := by
      rw [← hn, byteLength]
      exact Nat.le_add_right _ _
    rw [hn, List.cons_append, before?, if_pos hle, hrest, ih]
    rfl

/-- Characters end in the column behind their last line, which has no line feed. -/
lemma exists_lastLine (s : List Char) :
    ∃ lines tail, s = lines ++ tail ∧ (∀ c ∈ lines.getLast?, c = '\n') ∧ '\n' ∉ tail ∧
      endColumn s = 1 + tail.length := by
  refine ⟨(s.reverse.dropWhile (· != '\n')).reverse, (s.reverse.takeWhile (· != '\n')).reverse,
    ?_, fun c hc => ?_, fun hmem => ?_, ?_⟩
  · rw [← List.reverse_append, List.takeWhile_append_dropWhile, List.reverse_reverse]
  · rw [List.getLast?_reverse] at hc
    simpa using head_dropWhile s.reverse c hc
  · simpa using List.mem_takeWhile_imp (List.mem_reverse.1 hmem)
  · rw [endColumn, List.length_reverse, Nat.add_comm]

end Text

namespace Failure

variable {f : Failure} {text : String} {before : List Char}

/-- The words for a failure behind the part `before` of the text. -/
lemma report_eq (h : Text.before? f.offset text.toList = some before) :
    f.report text =
      { reason := causeText f.cause ++
          whereText (Text.endLine before) (Text.endColumn before) f.offset ++
          readText f.cause before
        line := Text.endLine before
        column := Text.endColumn before
        expected := expectedTexts f.cause } := by
  simp only [report, h, Option.getD_some]

/-- A blank separates the place from the cause. -/
lemma whereText_eq (line column offset : Nat) :
    whereText line column offset = " " ++ ("at line " ++ line.repr ++ ", column " ++
      column.repr ++ " (byte " ++ (offset + 1).repr ++ ")") := by
  have hat : " at line " = " " ++ "at line " := rfl
  show " at line " ++ line.repr ++ ", column " ++ column.repr ++ " (byte " ++
    (offset + 1).repr ++ ")" = _
  rw [hat]
  simp only [String.append_assoc]

lemma not_prefix_of_head {a b : Char} {u v : List Char} (h : a ≠ b) (rest : List Char) :
    ¬a :: u <+: (b :: v) ++ rest := by
  rw [List.cons_append, List.cons_prefix_cons]
  exact fun hprefix => h hprefix.1

/-- Only an expectation starts with this word. -/
lemma exists_expected_of_prefix {cause : FailureCause} {rest : String}
    (h : "Expected ".toList <+: (causeText cause ++ rest).toList) :
    ∃ what, cause = .expected what := by
  cases cause with
  | expected what => exact ⟨what, rfl⟩
  | tooDeep limit =>
    have htext : causeText (.tooDeep limit) ++ rest =
        "Nesting deeper than " ++ (limit.repr ++ " levels" ++ rest) := by
      simp only [← String.append_assoc]
      rfl
    rw [htext, String.toList_append] at h
    exact absurd h (not_prefix_of_head (by decide) _)
  | illTyped d =>
    have htext : causeText (.illTyped d) ++ rest = "Ill-typed filter: " ++ (d.message ++ rest) := by
      simp only [← String.append_assoc]
      rfl
    rw [htext, String.toList_append] at h
    exact absurd h (not_prefix_of_head (by decide) _)

end Failure

namespace Query

variable {r : Registry} {c : ParserConfig} {text : String} {f : Failure}

theorem isPlace_of_parse (h : (parse r c text).1 = .error f) :
    Text.IsPlace text.toList f.offset := by
  have hplaces : AtPlaces (Text.IsPlace text.toList) (Token.scanAll text) :=
    scanFrom_places [] text.toList
  unfold parse at h
  cases hscan : Token.scanAll text with
  | error e =>
    rw [hscan] at h hplaces
    cases h
    exact hplaces
  | ok tokens =>
    rw [hscan] at h hplaces
    have hend := Text.isPlace_end text.toList
    rw [Text.byteLength_eq_utf8ByteSize, String.ofList_toList] at hend
    have hstate : Parser.HoldsPlaces (Text.IsPlace text.toList)
        ⟨tokens, 0, text.utf8ByteSize, []⟩ := ⟨hplaces, Text.isPlace_zero _, hend⟩
    have hresult := Parser.pointsTo_query (Text.isPlace_zero _) r c _ hstate
    simp only [EStateM.run] at h
    generalize Parser.query r c ⟨tokens, 0, text.utf8ByteSize, []⟩ = result at h hresult
    cases hresult with
    | ok => cases h
    | error hplace =>
      cases h
      exact hplace

/-- A failure points to the end of a part `before` of the text.  The report counts the line feeds of
that part and the characters behind the last of them, names the place in its reason, and quotes the
whole part where something was expected. -/
theorem report_of_parse (h : (parse r c text).1 = .error f) :
    ∃ before after, text.toList = before ++ after ∧ Text.byteLength before = f.offset ∧
      f.offset ≤ text.utf8ByteSize ∧ Text.before? f.offset text.toList = some before ∧
      (f.report text).line = 1 + before.count '\n' ∧
      (∃ lines tail, before = lines ++ tail ∧ (∀ c ∈ lines.getLast?, c = '\n') ∧
        '\n' ∉ tail ∧ (f.report text).column = 1 + tail.length) ∧
      (∃ what rest, (f.report text).reason = what ++ ("at line " ++ (f.report text).line.repr ++
        ", column " ++ (f.report text).column.repr ++ " (byte " ++ (f.offset + 1).repr ++ ")") ++
        rest) ∧
      ("Expected ".toList <+: (f.report text).reason.toList → 0 < f.offset →
        ∃ what, (f.report text).reason = what ++ (" after " ++ String.ofList before)) := by
  obtain ⟨before, after, htext, hoffset, -⟩ := isPlace_of_parse h
  have hbefore : Text.before? f.offset text.toList = some before := by
    rw [htext, ← hoffset, Text.before?_byteLength]
  have hle : f.offset ≤ text.utf8ByteSize := by
    rw [← hoffset, ← String.ofList_toList (s := text), ← Text.byteLength_eq_utf8ByteSize, htext,
      Piece.byteLength_append]
    exact Nat.le_add_right _ _
  rw [Failure.report_eq hbefore]
  refine ⟨before, after, htext, hoffset, hle, hbefore, Nat.add_comm _ _,
    Text.exists_lastLine before, ?_, fun hexpected hpos => ?_⟩
  · refine ⟨Failure.causeText f.cause ++ " ", Failure.readText f.cause before, ?_⟩
    rw [Failure.whereText_eq]
    simp only [String.append_assoc]
  · rw [String.append_assoc] at hexpected
    obtain ⟨what, hcause⟩ := Failure.exists_expected_of_prefix hexpected
    cases before with
    | nil => exact absurd hoffset (Nat.ne_of_lt hpos)
    | cons d before =>
      rw [hcause]
      exact ⟨_, rfl⟩

lemma parse_unclosed :
    (parse .standard {} "$[\"é\"\n  1]").1 = .error ⟨9, .expected .closingBracket⟩ := by
  have hscan : Token.scanAll "$[\"é\"\n  1]" =
      .ok [⟨.root, 0, 1⟩, ⟨.leftBracket, 1, 2⟩, ⟨.string "é", 2, 6⟩, ⟨.number "1", 9, 10⟩,
        ⟨.rightBracket, 10, 11⟩] :=
    eq_ok_of_toOption (by decide +kernel)
  rw [parse, hscan]
  rfl

/-- A letter of two bytes and a line feed stand before the failure. -/
theorem report_of_parse_unclosed :
    (Failure.report ⟨9, .expected .closingBracket⟩ "$[\"é\"\n  1]").line = 2 ∧
      ∃ what, (Failure.report ⟨9, .expected .closingBracket⟩ "$[\"é\"\n  1]").reason =
        what ++ (" after " ++ String.ofList "$[\"é\"\n  ".toList) := by
  obtain ⟨before, after, -, -, -, hbefore, hline, -, -, hread⟩ := report_of_parse parse_unclosed
  have hknown : Text.before? 9 "$[\"é\"\n  1]".toList = some "$[\"é\"\n  ".toList := by
    decide +kernel
  obtain rfl := Option.some.inj (hknown.symm.trans hbefore)
  refine ⟨hline, hread ?_ (by decide)⟩
  rw [Failure.report_eq hknown, String.append_assoc, String.toList_append]
  exact List.prefix_append _ _

end Query

end JsonPath
