import JsonPath.Query.Failure
import Mathlib.Data.List.Infix

/-!
# What was expected

A reason that names what was expected is shown with that clause on a line of its own.  The clause
starts at the first line that starts with `Expected` and goes on to something and then to ` after`,
maybe on a later line, and it ends at the last ` after` of the whole reason
(`FailureReport.clause_leftmost_longest`).

The search goes from line to line, and looks for the last ` after` behind each start anew.  That is
the last one of the whole reason as soon as there is one, so a start that is given up tells that the
last ` after` comes too early, and all starts before it are given up for the same reason.
-/

namespace JsonPath

namespace Text

variable {s t : List Char}

/-! ## Starts of lines -/

lemma mem_afterFeeds_iff : t ∈ afterFeeds s ↔ ∃ above, s = above ++ '\n' :: t := by
  induction s with
  | nil => simp [afterFeeds]
  | cons c s ih =>
    have hcons : (∃ above, c :: s = above ++ '\n' :: t) ↔
        c = '\n' ∧ s = t ∨ ∃ above, s = above ++ '\n' :: t := by
      constructor
      · rintro ⟨above, h⟩
        cases above with
        | nil => exact .inl (List.cons.inj h)
        | cons d above => exact .inr ⟨above, (List.cons.inj h).2⟩
      · rintro (⟨rfl, rfl⟩ | ⟨above, rfl⟩)
        · exact ⟨[], rfl⟩
        · exact ⟨c :: above, rfl⟩
    rw [hcons, ← ih, afterFeeds]
    split_ifs with hc
    · simp [hc, eq_comm]
    · simp [hc]

/-- The texts from a line on are those that nothing or a line feed stands before. -/
lemma mem_fromLineStarts_iff :
    t ∈ fromLineStarts s ↔ ∃ above, s = above ++ t ∧ ∀ c ∈ above.getLast?, c = '\n' := by
  rw [fromLineStarts, List.mem_cons, mem_afterFeeds_iff]
  constructor
  · rintro (rfl | ⟨above, rfl⟩)
    · exact ⟨[], rfl, by simp⟩
    · exact ⟨above ++ ['\n'], by simp, by simp⟩
  · rintro ⟨above, rfl, hlast⟩
    rcases List.eq_nil_or_concat above with rfl | ⟨above, c, rfl⟩
    · exact .inl rfl
    · obtain rfl : c = '\n' := hlast c (by simp)
      exact .inr ⟨above, by simp⟩

lemma length_lt_of_mem_afterFeeds (h : t ∈ afterFeeds s) : t.length < s.length := by
  obtain ⟨above, rfl⟩ := mem_afterFeeds_iff.1 h
  simp only [List.length_append, List.length_cons]
  omega

/-- Earlier lines come first. -/
lemma pairwise_fromLineStarts (s : List Char) :
    (fromLineStarts s).Pairwise fun t u => u.length < t.length := by
  have hfeeds : (afterFeeds s).Pairwise fun t u => u.length < t.length := by
    induction s with
    | nil => exact .nil
    | cons c s ih =>
      rw [afterFeeds]
      split_ifs
      · exact .cons (fun u hu => length_lt_of_mem_afterFeeds hu) ih
      · exact ih
  exact .cons (fun u hu => length_lt_of_mem_afterFeeds hu) hfeeds

/-! ## The last occurrence of a word -/

variable {word front : List Char}

lemma beforeLast?_eq_none (h : beforeLast? word s = none) (hword : word ≠ [])
    (front back : List Char) : s ≠ front ++ (word ++ back) := by
  induction s generalizing front with
  | nil => simp [hword]
  | cons c s ih =>
    rw [beforeLast?] at h
    split at h
    · cases h
    · rename_i hrest
      split_ifs at h with hhere
      cases front with
      | nil =>
        intro heq
        exact hhere (List.isPrefixOf_iff_prefix.2 ⟨back, heq.symm⟩)
      | cons d front =>
        intro heq
        exact ih hrest front (List.cons.inj heq).2

lemma beforeLast?_eq_some (h : beforeLast? word s = some front) (hword : word ≠ []) :
    (∃ back, s = front ++ (word ++ back)) ∧
      ∀ front' back, s = front' ++ (word ++ back) → front'.length ≤ front.length := by
  induction s generalizing front with
  | nil => cases h
  | cons c s ih =>
    rw [beforeLast?] at h
    split at h
    · rename_i found hrest
      obtain rfl := Option.some.inj h
      obtain ⟨⟨back, rfl⟩, hlast⟩ := ih hrest
      refine ⟨⟨back, rfl⟩, fun front' back' heq => ?_⟩
      cases front' with
      | nil => exact Nat.zero_le _
      | cons d front' => exact Nat.succ_le_succ (hlast front' back' (List.cons.inj heq).2)
    · rename_i hrest
      split_ifs at h with hhere
      obtain rfl := Option.some.inj h
      obtain ⟨back, hback⟩ := List.isPrefixOf_iff_prefix.1 hhere
      refine ⟨⟨back, hback.symm⟩, fun front' back' heq => ?_⟩
      cases front' with
      | nil => exact Nat.le_refl _
      | cons d front' =>
        exact absurd (List.cons.inj heq).2 (beforeLast?_eq_none hrest hword front' back')

end Text

namespace FailureReport

/-! ## Clauses -/

/-- Behind `above`, at the start of a line, stands a clause with something behind its first word,
and behind the clause stands ` after`. -/
structure ClauseAt (reason above clause : List Char) : Prop where
  stands : ∃ below, reason = above ++ (clause ++ (afterWord ++ below))
  starts_line : ∀ c ∈ above.getLast?, c = '\n'
  words : ∃ what, what ≠ [] ∧ clause = expectedWord ++ what

/-- No clause stands further up, and no ` after` stands behind the end of the clause. -/
structure IsFirstClause (reason above clause : List Char) : Prop
    extends ClauseAt reason above clause where
  leftmost : ∀ above' clause', ClauseAt reason above' clause' → above.length ≤ above'.length
  longest : ∀ front back, reason = front ++ (afterWord ++ back) →
    front.length ≤ (above ++ clause).length

/-- The clause at the start of a text. -/
def clauseAtStart? (s : List Char) : Option String :=
  if expectedWord.isPrefixOf s then
    match Text.beforeLast? afterWord s with
    | some clause =>
      if expectedWord.length < clause.length then some (String.ofList clause) else none
    | none => none
  else none

section Start

variable {s clause : List Char}

lemma afterWord_ne_nil : afterWord ≠ [] := by decide

lemma clauseAtStart?_eq_some {found : String} (h : clauseAtStart? s = some found) :
    ClauseAt s [] found.toList ∧
      ∀ front back, s = front ++ (afterWord ++ back) → front.length ≤ found.toList.length := by
  unfold clauseAtStart? at h
  split_ifs at h with hstart
  split at h
  · rename_i clause hlast
    split_ifs at h with hlength
    obtain rfl := Option.some.inj h
    obtain ⟨⟨below, hs⟩, hlongest⟩ := Text.beforeLast?_eq_some hlast afterWord_ne_nil
    rw [String.toList_ofList]
    refine ⟨⟨⟨below, hs⟩, by simp, ?_⟩, hlongest⟩
    have hclause : clause <+: s := ⟨_, hs.symm⟩
    obtain ⟨what, rfl⟩ := List.prefix_of_prefix_length_le
      (List.isPrefixOf_iff_prefix.1 hstart) hclause (Nat.le_of_lt hlength)
    refine ⟨what, ?_, rfl⟩
    rintro rfl
    simp at hlength
  · cases h

lemma not_clauseAt_of_clauseAtStart? (h : clauseAtStart? s = none) : ¬ClauseAt s [] clause := by
  rintro ⟨⟨below, hs⟩, -, what, hwhat, rfl⟩
  have hstart : expectedWord.isPrefixOf s = true :=
    List.isPrefixOf_iff_prefix.2 ⟨what ++ (afterWord ++ below), by simp [hs]⟩
  rw [clauseAtStart?, if_pos hstart] at h
  cases hlast : Text.beforeLast? afterWord s with
  | none => exact Text.beforeLast?_eq_none hlast afterWord_ne_nil _ below hs
  | some found =>
    have hlongest := (Text.beforeLast?_eq_some hlast afterWord_ne_nil).2 _ below hs
    have hpos := List.length_pos_iff.2 hwhat
    simp only [List.length_append] at hlongest
    rw [hlast] at h
    dsimp only at h
    rw [if_pos (by omega)] at h
    cases h

end Start

section Clauses

variable {reason above above' clause clause' s : List Char}

/-- A clause of a text is one at the start of the text from its line on. -/
lemma ClauseAt.atStart (h : ClauseAt (above ++ s) above clause) : ClauseAt s [] clause := by
  obtain ⟨⟨below, hs⟩, -, hwords⟩ := h
  exact ⟨⟨below, List.append_cancel_left hs⟩, by simp, hwords⟩

/-- Only one clause of a text is the first. -/
theorem IsFirstClause.unique (h : IsFirstClause reason above clause)
    (h' : IsFirstClause reason above' clause') : clause = clause' := by
  obtain ⟨below, hs⟩ := h.stands
  obtain ⟨below', hs'⟩ := h'.stands
  have habove := Nat.le_antisymm (h.leftmost _ _ h'.toClauseAt) (h'.leftmost _ _ h.toClauseAt)
  have hlength := Nat.le_antisymm
    (h'.longest (above ++ clause) below (by simpa using hs))
    (h.longest (above' ++ clause') below' (by simpa using hs'))
  obtain ⟨rfl, hrest⟩ := List.append_inj (hs.symm.trans hs') habove
  rw [List.length_append, List.length_append] at hlength
  exact (List.append_inj hrest (by omega)).1

lemma expectedClause?_eq (reason : String) :
    expectedClause? reason = (Text.fromLineStarts reason.toList).findSome? clauseAtStart? := rfl

theorem exists_isFirstClause {reason found : String} (h : expectedClause? reason = some found) :
    ∃ above, IsFirstClause reason.toList above found.toList := by
  rw [expectedClause?_eq] at h
  obtain ⟨earlier, s, later, hlines, hfound, hnone⟩ := List.findSome?_eq_some_iff.1 h
  have hmem : s ∈ Text.fromLineStarts reason.toList := by simp [hlines]
  obtain ⟨above, hreason, hline⟩ := Text.mem_fromLineStarts_iff.1 hmem
  obtain ⟨⟨⟨below, hs⟩, -, hwords⟩, hlongest⟩ := clauseAtStart?_eq_some hfound
  refine ⟨above, ⟨⟨below, ?_⟩, hline, hwords⟩, fun above' clause' h' => ?_,
    fun front back heq => ?_⟩
  · rw [hreason]
    exact congrArg (above ++ ·) hs
  · -- A clause further up would have been found before.
    obtain ⟨below', hs'⟩ := h'.stands
    have hmem' : clause' ++ (afterWord ++ below') ∈ Text.fromLineStarts reason.toList :=
      Text.mem_fromLineStarts_iff.2 ⟨above', hs', h'.starts_line⟩
    have hsorted := Text.pairwise_fromLineStarts reason.toList
    have hstart := (hs' ▸ h').atStart
    have hlength := congrArg List.length (hreason.symm.trans hs')
    simp only [List.length_append] at hlength
    rw [hlines] at hmem' hsorted
    rcases List.mem_append.1 hmem' with hearlier | hlater
    · exact absurd hstart (not_clauseAt_of_clauseAtStart? (hnone _ hearlier))
    · have hrest := (List.pairwise_cons.1 (List.pairwise_append.1 hsorted).2.1).1
      rcases List.mem_cons.1 hlater with rfl | hlater
      · simp only [List.length_append] at hlength
        omega
      · have := hrest _ hlater
        simp only [List.length_append] at this
        omega
  · rw [hreason] at heq
    rw [List.length_append]
    rcases List.append_eq_append_iff.1 heq with ⟨between, rfl, hs'⟩ | ⟨between, rfl, -⟩
    · have := hlongest between back hs'
      rw [List.length_append]
      omega
    · rw [List.length_append]
      omega

theorem expectedClause?_eq_none_iff {reason : String} :
    expectedClause? reason = none ↔ ∀ above clause, ¬ClauseAt reason.toList above clause := by
  constructor
  · intro h above clause hclause
    rw [expectedClause?_eq, List.findSome?_eq_none_iff] at h
    obtain ⟨below, hs⟩ := hclause.stands
    have hmem : clause ++ (afterWord ++ below) ∈ Text.fromLineStarts reason.toList :=
      Text.mem_fromLineStarts_iff.2 ⟨above, hs, hclause.starts_line⟩
    exact not_clauseAt_of_clauseAtStart? (h _ hmem) (hs ▸ hclause).atStart
  · intro h
    cases hfound : expectedClause? reason with
    | none => rfl
    | some found =>
      obtain ⟨above, hfirst⟩ := exists_isFirstClause hfound
      exact absurd hfirst.toClauseAt (h _ _)

end Clauses

/-! ## Messages -/

/-- With a mark in place of each line feed, a text is its lines with the mark between each two. -/
lemma exists_lines_flatMap (mark s : List Char) :
    ∃ line lines, (∀ l ∈ line :: lines, '\n' ∉ l) ∧
      s = List.intercalate ['\n'] (line :: lines) ∧
      (s.flatMap fun c => if c = '\n' then mark else [c]) =
        List.intercalate mark (line :: lines) := by
  induction s with
  | nil => exact ⟨[], [], by simp, by simp, by simp⟩
  | cons c s ih =>
    obtain ⟨line, lines, hlines, hs, hmarked⟩ := ih
    rw [List.flatMap_cons, hmarked]
    by_cases hc : c = '\n'
    · refine ⟨[], line :: lines, by simpa using hlines, ?_, ?_⟩
      · rw [hc, List.intercalate_cons_cons, ← hs]
        rfl
      · rw [if_pos hc, List.intercalate_cons_cons, List.nil_append]
    · have hcons : ∀ sep : List Char, List.intercalate sep ((c :: line) :: lines) =
          c :: List.intercalate sep (line :: lines) := fun sep => by
        cases lines with
        | nil => simp
        | cons l lines => simp [List.intercalate_cons_cons]
      refine ⟨c :: line, lines, ?_, ?_, ?_⟩
      · rw [List.forall_mem_cons] at hlines ⊢
        refine ⟨?_, hlines.2⟩
        rw [List.mem_cons, not_or]
        exact ⟨Ne.symm hc, hlines.1⟩
      · rw [hcons, ← hs]
      · rw [if_neg hc, hcons, List.singleton_append]

lemma exists_lines_onOneLine (s : String) :
    ∃ lines : List (List Char), (∀ line ∈ lines, '\n' ∉ line) ∧
      s.toList = List.intercalate ['\n'] lines ∧
      (onOneLine s).toList = List.intercalate "<<<NEWLINE>>>".toList lines := by
  obtain ⟨line, lines, hlines⟩ := exists_lines_flatMap "<<<NEWLINE>>>".toList s.toList
  rw [onOneLine, String.toList_ofList]
  exact ⟨line :: lines, hlines⟩

lemma not_mem_onOneLine (s : String) : '\n' ∉ (onOneLine s).toList := by
  rw [onOneLine, String.toList_ofList, List.mem_flatMap]
  rintro ⟨c, -, hmem⟩
  split_ifs at hmem with hc
  · exact absurd hmem (by decide)
  · exact hc (List.mem_singleton.1 hmem).symm

/-- The clause stands on the line below the reason. -/
theorem message_of_expectedClause? {f : FailureReport} {clause : String}
    (h : expectedClause? f.reason = some clause) (text : String) :
    ∃ behind, f.message text = f.reason ++ "\n" ++ (onOneLine clause ++ ":") ++ behind ∧
      (behind = "" ∨ ∃ more, behind = "\n" ++ more) := by
  rw [message, messageLines, h]
  dsimp only [List.cons_append, List.nil_append]
  rw [String.intercalate_cons_cons]
  cases f.sourceLine? text with
  | none =>
    refine ⟨"", ?_, .inl rfl⟩
    rw [String.intercalate_singleton, String.append_empty]
  | some line =>
    refine ⟨"\n" ++ "\n".intercalate [line, f.mark], ?_, .inr ⟨_, rfl⟩⟩
    rw [String.intercalate_cons_cons]
    simp only [String.append_assoc]

/-- The clause of a reason is the first one and as long as it can be: it starts at the first line
that goes on from `Expected` to something and to ` after`, and it ends at the last ` after`.  There
is none if there is no such line.  In the message the clause is one line, where its own line feeds
are written as `<<<NEWLINE>>>` and a colon ends it. -/
theorem clause_leftmost_longest (f : FailureReport) (text : String) :
    (∀ clause, expectedClause? f.reason = some clause ↔
        ∃ above, IsFirstClause f.reason.toList above clause.toList) ∧
      (expectedClause? f.reason = none ↔
        ∀ above clause, ¬ClauseAt f.reason.toList above clause) ∧
      ∀ clause, expectedClause? f.reason = some clause →
        ∃ line behind, f.message text = f.reason ++ "\n" ++ (line ++ ":") ++ behind ∧
          '\n' ∉ (line ++ ":").toList ∧ (behind = "" ∨ ∃ more, behind = "\n" ++ more) ∧
          ∃ lines : List (List Char), (∀ l ∈ lines, '\n' ∉ l) ∧
            clause.toList = List.intercalate ['\n'] lines ∧
            line.toList = List.intercalate "<<<NEWLINE>>>".toList lines := by
  refine ⟨fun clause => ⟨exists_isFirstClause, ?_⟩, expectedClause?_eq_none_iff,
    fun clause hclause => ?_⟩
  · rintro ⟨above, hfirst⟩
    cases hfound : expectedClause? f.reason with
    | none => exact absurd hfirst.toClauseAt (expectedClause?_eq_none_iff.1 hfound _ _)
    | some found =>
      obtain ⟨above', hfirst'⟩ := exists_isFirstClause hfound
      rw [String.toList_injective (hfirst.unique hfirst')]
  · obtain ⟨behind, hmessage, hbehind⟩ := message_of_expectedClause? hclause text
    refine ⟨onOneLine clause, behind, hmessage, ?_, hbehind, exists_lines_onOneLine clause⟩
    rw [String.toList_append, List.mem_append, not_or]
    exact ⟨not_mem_onOneLine clause, by decide⟩

end FailureReport

end JsonPath
