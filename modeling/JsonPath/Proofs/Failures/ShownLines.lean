import JsonPath.BoundQuery
import JsonPath.Proofs.Failures.Positions

/-!
# The line shown with a failure

The message about a text that is no query ends with the line of the failure and a mark below its
column (`BoundQuery.message_of_ofText`), unless the failure stands on an empty last line, behind the
last line feed of the text or in the empty text: such a line is not shown
(`BoundQuery.message_unfinished`).

The position of a failure is counted in line feeds, and the line that is shown comes from a list of
lines that end with a line feed or with a carriage return and a line feed.  The two agree because no
failure stands between the two characters of a line end.
-/

namespace JsonPath

namespace Text

/-- What may follow a line: nothing, or an end of lines. -/
inductive EndsLine (line : List Char) : List Char → Prop
  | none : EndsLine line []
  | feed {rest : List Char} (h : line.getLast? ≠ some '\r') : EndsLine line ('\n' :: rest)
  | returnFeed {rest : List Char} : EndsLine line ('\r' :: '\n' :: rest)

/-- The line of a text on which a position stands, with what is above it and below it. -/
structure LineAt (text : List Char) (position : Nat) where
  above : List Char
  /-- The part of the line before the position. -/
  left : List Char
  /-- The part of the line behind the position. -/
  right : List Char
  below : List Char
  text_eq : text = above ++ (left ++ right ++ below)
  position_eq : byteLength (above ++ left) = position
  above_ends : ∀ c ∈ above.getLast?, c = '\n'
  not_feed : '\n' ∉ left ++ right
  ends : EndsLine (left ++ right) below

namespace LineAt

variable {text : List Char} {position : Nat} (line : LineAt text position)

/-- The line without its end. -/
def content : List Char := line.left ++ line.right

/-- The line is the last one of the text, and it is empty. -/
def IsUnfinished : Prop := line.content ++ line.below = []

lemma before?_eq : before? position text = some (line.above ++ line.left) := by
  have hsplit : (line.above ++ line.left) ++ (line.right ++ line.below) = text := by
    simpa using line.text_eq.symm
  have hbefore := before?_byteLength (line.above ++ line.left) (line.right ++ line.below)
  rwa [hsplit, line.position_eq] at hbefore

lemma endLine_eq : endLine (line.above ++ line.left) = line.above.count '\n' + 1 := by
  have hleft : '\n' ∉ line.left := fun hmem => line.not_feed (List.mem_append_left _ hmem)
  rw [endLine, List.count_append, List.count_eq_zero.2 hleft, Nat.add_zero]

lemma endColumn_eq : endColumn (line.above ++ line.left) = line.left.length + 1 := by
  have hleft : ∀ c ∈ line.left.reverse, (c != '\n') = true := fun c hc => by
    rw [bne_iff_ne]
    rintro rfl
    exact line.not_feed (List.mem_append_left _ (List.mem_reverse.1 hc))
  have habove : line.above.reverse.takeWhile (· != '\n') = [] := by
    cases habove : line.above.reverse with
    | nil => rfl
    | cons c cs =>
      have hlast : line.above.getLast? = some c := by
        rw [← List.head?_reverse, habove]
        rfl
      simp [line.above_ends c hlast]
  rw [endColumn, List.reverse_append, List.takeWhile_append_of_pos hleft, habove,
    List.append_nil, List.length_reverse]

end LineAt

lemma EndsLine.of_cons {c : Char} {line below : List Char} (h : EndsLine (c :: line) below) :
    EndsLine line below := by
  cases h with
  | none => exact .none
  | feed h =>
    refine .feed fun hlast => h ?_
    rw [List.getLast?_cons, hlast]
    rfl
  | returnFeed => exact .returnFeed

/-- The return before a feed belongs to the end of the line. -/
lemma lines_returnFeed (s : List Char) : lines ('\r' :: '\n' :: s) = lines ('\n' :: s) := rfl

/-- A character that starts no end of lines belongs to the line behind it. -/
lemma lines_cons {c : Char} {s : List Char} (hfeed : c ≠ '\n')
    (hreturn : ¬(c = '\r' ∧ s.head? = some '\n')) :
    lines (c :: s) =
      match lines s with
      | [] => [[c]]
      | first :: others => (c :: first) :: others := by
  rw [lines.eq_def]
  split
  · rename_i heq
    cases heq
  · rename_i heq
    cases heq
    exact absurd ⟨rfl, rfl⟩ hreturn
  · rename_i heq
    cases heq
    exact absurd rfl hfeed
  · rename_i heq
    cases heq
    rfl

/-- The line behind the part `above` of a text is counted by the line feeds of that part. -/
lemma getElem?_lines {above : List Char} (habove : ∀ c ∈ above.getLast?, c = '\n')
    (s : List Char) : (lines (above ++ s))[above.count '\n']? = (lines s).head? := by
  induction above with
  | nil => exact List.head?_eq_getElem?.symm
  | cons c above ih =>
    by_cases hfeed : c = '\n'
    · have habove' : ∀ d ∈ above.getLast?, d = '\n' := fun d hd =>
        habove d (by rw [List.getLast?_cons, hd]; rfl)
      rw [hfeed, List.count_cons_self, List.cons_append]
      exact ih habove'
    -- Another character is not the last one, so there is a line feed behind it.
    have hne : above ≠ [] := by
      rintro rfl
      exact hfeed (habove c rfl)
    have hlast : above.getLast? = some '\n' := by
      have hsome := List.getLast?_eq_some_getLast hne
      have hfeed' : above.getLast hne = '\n' := habove _ (by rw [List.getLast?_cons, hsome]; rfl)
      rw [hsome, hfeed']
    rw [List.count_cons_of_ne hfeed, List.cons_append, ← ih (by simp [hlast])]
    by_cases hreturn : c = '\r' ∧ (above ++ s).head? = some '\n'
    · obtain ⟨rfl, hhead⟩ := hreturn
      obtain ⟨t, ht⟩ := List.head?_eq_some_iff.1 hhead
      rw [ht, lines_returnFeed]
    · obtain ⟨n, hn⟩ : ∃ n, above.count '\n' = n + 1 :=
        Nat.exists_eq_add_one.2 (List.count_pos_iff.2 (List.mem_of_getLast? hlast))
      rw [lines_cons hfeed hreturn, hn]
      cases lines (above ++ s) <;> rfl

/-- The first line goes on up to the end of lines, unless nothing is left at all. -/
lemma head?_lines {line below : List Char} (hline : '\n' ∉ line) (hbelow : EndsLine line below)
    (hsome : line ++ below ≠ []) : (lines (line ++ below)).head? = some line := by
  induction line with
  | nil =>
    cases hbelow with
    | none => exact absurd rfl hsome
    | feed h => simp [lines]
    | returnFeed => simp [lines]
  | cons c line ih =>
    rw [List.mem_cons, not_or] at hline
    have hreturn : ¬(c = '\r' ∧ (line ++ below).head? = some '\n') := by
      rintro ⟨rfl, hhead⟩
      cases line with
      | nil =>
        cases hbelow with
        | none => cases hhead
        | feed h => exact h rfl
        | returnFeed => cases hhead
      | cons d line => exact hline.2 (by simp_all)
    rw [List.cons_append, lines_cons (Ne.symm hline.1) hreturn]
    by_cases hnil : line ++ below = []
    · rw [hnil, (List.append_eq_nil_iff.1 hnil).1]
      rfl
    · have hfirst := ih hline.2 hbelow.of_cons hnil
      cases hlines : lines (line ++ below) with
      | nil =>
        rw [hlines] at hfirst
        cases hfirst
      | cons first others =>
        rw [hlines] at hfirst
        cases hfirst
        rfl

/-- The rest of a line and what ends it, where the line does not break off within its end. -/
lemma exists_endsLine (left after : List Char)
    (hplace : after.head? = some '\n' → left.getLast? ≠ some '\r') :
    ∃ right below, after = right ++ below ∧ '\n' ∉ right ∧ EndsLine (left ++ right) below := by
  have hsplit : after = after.takeWhile (· != '\n') ++ after.dropWhile (· != '\n') :=
    List.takeWhile_append_dropWhile.symm
  have hline : '\n' ∉ after.takeWhile (· != '\n') := fun hmem => by
    simpa using List.mem_takeWhile_imp hmem
  generalize after.takeWhile (· != '\n') = right at hsplit hline
  cases hbelow : after.dropWhile (· != '\n') with
  | nil => exact ⟨right, [], by rw [← hbelow]; exact hsplit, hline, .none⟩
  | cons d rest =>
    have hfeed : d = '\n' := by
      have := head_dropWhile (p := (· != '\n')) after d (by rw [hbelow]; rfl)
      simpa using this
    rw [hbelow, hfeed] at hsplit
    by_cases hreturn : (left ++ right).getLast? = some '\r'
    · -- The return belongs to the end of the line, and it is behind the place.
      rcases List.eq_nil_or_concat right with rfl | ⟨right', e, rfl⟩
      · rw [List.append_nil] at hreturn
        exact absurd hreturn (hplace (by rw [hsplit]; rfl))
      · rw [List.concat_eq_append] at hsplit hline hreturn
        obtain rfl : e = '\r' := by simpa using hreturn
        refine ⟨right', '\r' :: '\n' :: rest, by simpa using hsplit, ?_, .returnFeed⟩
        exact fun hmem => hline (List.mem_append_left _ hmem)
    · exact ⟨right, '\n' :: rest, hsplit, hline, .feed hreturn⟩

/-- A place stands on a line. -/
lemma IsPlace.exists_lineAt {text : List Char} {position : Nat} (h : IsPlace text position) :
    Nonempty (LineAt text position) := by
  obtain ⟨before, after, rfl, hposition, hplace⟩ := h
  obtain ⟨above, left, rfl, habove, hleft, -⟩ := exists_lastLine before
  have hplace' : after.head? = some '\n' → left.getLast? ≠ some '\r' := fun hfeed hlast =>
    hplace hfeed (by rw [List.getLast?_append, hlast]; rfl)
  obtain ⟨right, below, rfl, hright, hbelow⟩ := exists_endsLine left after hplace'
  have hline : '\n' ∉ left ++ right := fun hmem => (List.mem_append.1 hmem).elim hleft hright
  exact ⟨⟨above, left, right, below, by simp, hposition, habove, hline, hbelow⟩⟩

/-- The list of lines has the line at its number, unless that is unfinished. -/
lemma LineAt.getElem?_lines {text : List Char} {position : Nat} (line : LineAt text position) :
    (¬line.IsUnfinished → (lines text)[line.above.count '\n']? = some line.content) ∧
      (line.IsUnfinished → (lines text)[line.above.count '\n']? = none) := by
  have hnumber := Text.getElem?_lines line.above_ends (line.left ++ line.right ++ line.below)
  rw [← line.text_eq] at hnumber
  rw [hnumber]
  refine ⟨fun hsome => head?_lines line.not_feed line.ends hsome, fun hnone => ?_⟩
  rw [show line.left ++ line.right ++ line.below = [] from hnone]
  rfl

end Text

/-! ## Messages -/

namespace FailureReport

variable {f : FailureReport} {text line : String}

lemma exists_messageLines (h : f.sourceLine? text = some line) :
    ∃ words, words ≠ [] ∧ f.messageLines text = words ++ [line, f.mark] := by
  unfold messageLines
  rw [h]
  exact ⟨_, List.cons_ne_nil _ _, rfl⟩

/-- A message ends with the line that is shown and the mark below it. -/
lemma message_of_sourceLine? (h : f.sourceLine? text = some line) :
    ∃ words, f.message text = words ++ ("\n" ++ line ++ "\n" ++ f.mark) := by
  obtain ⟨words, hwords, hlines⟩ := exists_messageLines h
  refine ⟨"\n".intercalate words, ?_⟩
  rw [message, hlines, String.intercalate_append_of_ne_nil hwords (List.cons_ne_nil _ _),
    String.intercalate_cons_cons, String.intercalate_singleton]
  simp only [String.append_assoc]

end FailureReport

namespace Failure

variable {f : Failure} {text : String}

/-- The report of a failure counts the lines above its line and the characters before it, and shows
its line unless that is unfinished. -/
lemma report_lineAt (line : Text.LineAt text.toList f.offset) :
    (f.report text).line = line.above.count '\n' + 1 ∧
      (f.report text).column = line.left.length + 1 ∧
      (¬line.IsUnfinished →
        (f.report text).sourceLine? text = some (String.ofList line.content)) ∧
      (line.IsUnfinished → (f.report text).sourceLine? text = none) := by
  have hline : (f.report text).line = line.above.count '\n' + 1 := by
    rw [report_eq line.before?_eq, line.endLine_eq]
  have hcolumn : (f.report text).column = line.left.length + 1 := by
    rw [report_eq line.before?_eq, line.endColumn_eq]
  have hshown : (f.report text).sourceLine? text =
      (Text.lines text.toList)[line.above.count '\n']?.map String.ofList := by
    rw [FailureReport.sourceLine?, hline, if_neg (Nat.succ_ne_zero _), Nat.add_sub_cancel]
  refine ⟨hline, hcolumn, fun hfinished => ?_, fun hunfinished => ?_⟩
  · rw [hshown, line.getElem?_lines.1 hfinished]
    rfl
  · rw [hshown, line.getElem?_lines.2 hunfinished]
    rfl

end Failure

namespace BoundQuery

/-- A text is refused with the report of its failure. -/
lemma exists_of_ofText {text : String} {e : QueryError} (h : (ofText text).1 = .error e) :
    ∃ f, (Query.parse .standard {} text).1 = .error f ∧ e = .parse (f.report text) text := by
  have hvalid : ({} : ParserConfig).validate = .ok () := rfl
  simp only [ofText, ofTextWith, hvalid] at h
  generalize Query.parse .standard {} text = result at h ⊢
  obtain ⟨result, diagnostics⟩ := result
  cases result with
  | error f =>
    cases h
    exact ⟨f, rfl, rfl⟩
  | ok q => cases h

/-- The message about a text that is refused ends with the line of the failure and with a mark below
its column, which is within the line or at its end.  A line that is the last one of the text and is
empty is not shown. -/
theorem message_of_ofText {text : String} {e : QueryError} (h : (ofText text).1 = .error e) :
    ∃ f, ∃ line : Text.LineAt text.toList f.offset,
      (Query.parse .standard {} text).1 = .error f ∧ e = .parse (f.report text) text ∧
      (f.report text).line = line.above.count '\n' + 1 ∧
      (f.report text).column - 1 = line.left.length ∧
      line.left.length ≤ line.content.length ∧
      (¬line.IsUnfinished → ∃ words, e.message = words ++
        ("\n" ++ String.ofList line.content ++ "\n" ++
          (String.ofList (List.replicate ((f.report text).column - 1) '~') ++ "^"))) ∧
      (line.IsUnfinished → (f.report text).sourceLine? text = none) := by
  obtain ⟨f, hparse, rfl⟩ := exists_of_ofText h
  obtain ⟨line⟩ := (Query.isPlace_of_parse hparse).exists_lineAt
  obtain ⟨hline, hcolumn, hshown, hunfinished⟩ := Failure.report_lineAt line
  refine ⟨f, line, hparse, rfl, hline, Nat.sub_eq_of_eq_add hcolumn, ?_, fun hfinished => ?_,
    hunfinished⟩
  · rw [Text.LineAt.content, List.length_append]
    exact Nat.le_add_right _ _
  · obtain ⟨words, hwords⟩ := FailureReport.message_of_sourceLine? (hshown hfinished)
    exact ⟨words, hwords⟩

lemma ofText_twoNumbers :
    (ofText "$[1\r\n  2]").1 =
      .error (.parse (Failure.report ⟨7, .expected .closingBracket⟩ "$[1\r\n  2]")
        "$[1\r\n  2]") := by
  have hscan : Token.scanAll "$[1\r\n  2]" =
      .ok [⟨.root, 0, 1⟩, ⟨.leftBracket, 1, 2⟩, ⟨.number "1", 2, 3⟩, ⟨.number "2", 7, 8⟩,
        ⟨.rightBracket, 8, 9⟩] :=
    eq_ok_of_toOption (by decide +kernel)
  rw [ofText, ofTextWith, Query.parse, hscan]
  rfl

/-- The failure stands behind two blanks of the second line. -/
theorem message_of_ofText_twoNumbers :
    ∃ e words, (ofText "$[1\r\n  2]").1 = .error e ∧ e.message = words ++ "~~^" := by
  obtain ⟨f, line, -, heq, -, -, -, hmessage, -⟩ := message_of_ofText ofText_twoNumbers
  have hfinished : ¬line.IsUnfinished := by
    intro hunfinished
    have habove : "$[1\r\n  2]".toList = line.above := by
      have htext := line.text_eq
      rwa [show line.left ++ line.right ++ line.below = [] from hunfinished,
        List.append_nil] at htext
    have hlast := line.above_ends ']' (by rw [← habove]; decide)
    exact absurd hlast (by decide)
  obtain ⟨words, hwords⟩ := hmessage hfinished
  injection heq with hreport
  have hmark : String.ofList (List.replicate ((f.report "$[1\r\n  2]").column - 1) '~') ++ "^" =
      "~~^" := by
    rw [← hreport]
    decide +kernel
  refine ⟨_, words ++ ("\n" ++ String.ofList line.content ++ "\n"), ofText_twoNumbers, ?_⟩
  rw [hwords, hmark]
  simp only [String.append_assoc]

lemma ofText_openBracket :
    (ofText "$[\n").1 =
      .error (.parse (Failure.report ⟨3, .expected .selector⟩ "$[\n") "$[\n") := by
  have hscan : Token.scanAll "$[\n" = .ok [⟨.root, 0, 1⟩, ⟨.leftBracket, 1, 2⟩] :=
    eq_ok_of_toOption (by decide +kernel)
  rw [ofText, ofTextWith, Query.parse, hscan]
  rfl

/-- The text ends with a line feed, and the empty line behind it is not shown. -/
theorem message_unfinished :
    ∃ report, (ofText "$[\n").1 = .error (.parse report "$[\n") ∧
      report.line = 2 ∧ report.column = 1 ∧
      ∀ words line marks, (QueryError.parse report "$[\n").message ≠
        words ++ ("\n" ++ line ++ "\n" ++ (marks ++ "^")) := by
  refine ⟨_, ofText_openBracket, by decide +kernel, by decide +kernel, fun words line marks h => ?_⟩
  have hcolon : (QueryError.parse (Failure.report ⟨3, .expected .selector⟩ "$[\n")
      "$[\n").message.toList.getLast? = some ':' := by decide +kernel
  have hcaret : (words ++ ("\n" ++ line ++ "\n" ++ (marks ++ "^"))).toList.getLast? = some '^' := by
    simp only [← String.append_assoc, String.toList_append]
    exact List.getLast?_concat
  rw [h, hcaret] at hcolon
  exact absurd hcolon (by decide)

end BoundQuery

end JsonPath
