import JsonPath.Evaluation.Functions
import JsonPath.Proofs.Patterns.EnclosedGroups
import JsonPath.Proofs.Patterns.Stretches

/-!
# Patterns that match the whole of a text

To match the whole of a subject, the text of a pattern is put into a group between the start and the
end of a text.  This gives the pattern between these two conditions, and so what it is meant to
(`testStrings_matches`), with two exceptions: a pattern that ends in a comment swallows the end of
the group, and a pattern that is nearly as deep or as large as patterns may be has no room around it
(`Pattern.IsAnchorable`).  Such a pattern is reported as if it were none.

That the text is a pattern by itself is checked before.  So it does not close the group that it is
put into, and the readers stop at the end of the group where they stopped at the end of the text
(`Pattern.exists_remaining`).
-/

namespace JsonPath

namespace Pattern

/-- The pattern in a group between the start and the end of a text. -/
def anchored (p : Pattern) : Pattern := .sequence [.look .start, .group p false, .look .stop]

/-- Whether a text is a pattern. -/
def isReadable (text : String) : Bool := (parse text).isOk

/-- Whether the text of a pattern ends in a comment: a closing parenthesis behind it, which nothing
opens, is no error then, since it belongs to the comment. -/
def endsInComment (text : String) : Bool := isReadable (text ++ ")")

/-- The pattern with that text can be put into a group between anchors: the text does not end in a
comment, which the end of the group would belong to, and there is room for the pattern around it
within the limits of depth and size. -/
structure IsAnchorable (p : Pattern) (text : String) : Prop where
  endsInComment_eq : endsInComment text = false
  depth_le : p.depth + 2 ≤ depthLimit
  isTooLarge_eq : p.anchored.isTooLarge = false

variable {p : Pattern} {text : String}

/-! ## Matching -/

lemma matches_anchored_iff {subject : Subject} {i j : Nat} :
    Matches subject p.anchored i j ↔
      i = 0 ∧ j = subject.size ∧ Matches subject p 0 subject.size := by
  simp only [anchored, Matches, MatchesInSequence, Look.holds, beq_iff_eq]
  constructor
  · rintro ⟨_, ⟨rfl, rfl⟩, _, hp, _, ⟨rfl, rfl⟩, rfl⟩
    exact ⟨rfl, rfl, hp⟩
  · rintro ⟨rfl, rfl, hp⟩
    exact ⟨0, ⟨rfl, rfl⟩, _, hp, _, ⟨rfl, rfl⟩, rfl⟩

theorem isFoundIn_anchored_iff (p : Pattern) (text : String) :
    p.anchored.isFoundIn text = true ↔ p.MatchesWhole text := by
  rw [isFoundIn_iff, MatchesSomewhere]
  simp only [matches_anchored_iff]
  constructor
  · rintro ⟨_, _, -, rfl, rfl, hp⟩
    exact hp
  · exact fun hp => ⟨0, _, Nat.zero_le _, rfl, rfl, hp⟩

lemma MatchesWhole.matchesSomewhere (h : p.MatchesWhole text) : p.MatchesSomewhere text :=
  ⟨0, _, Nat.zero_le _, h⟩

lemma depth_anchored (p : Pattern) : p.anchored.depth = p.depth + 2 := by
  simp [anchored, depth, depths]

/-! ## Reading -/

/-- A closing parenthesis alone. -/
def parenthesis : Closing := ⟨[], by decide, by decide⟩

/-- The end of a group at the end of a text. -/
def groupEnd : Closing := ⟨['\\', 'z'], by decide, by decide⟩

lemma parse_eq {fuel : Nat} {state : PatternState} {rest : List Char}
    (hfuel : 2 * text.toList.length + 2 = fuel)
    (h : scanOptions fuel ⟨{}, []⟩ [] text.toList = .ok (p, state, rest)) :
    parse text = if !rest.isEmpty then .error .groupUnopened
      else if depthLimit < p.depth then .error .tooDeep
      else if p.isTooLarge then .error .tooLarge
      else .ok p := by
  rw [parse, hfuel, h]
  rfl

lemma parse_eq_error {fuel : Nat} {e : PatternError}
    (hfuel : 2 * text.toList.length + 2 = fuel)
    (h : scanOptions fuel ⟨{}, []⟩ [] text.toList = .error e) : parse text = .error e := by
  rw [parse, hfuel, h]
  rfl

/-- The text of a pattern is read as this pattern in front of a closing parenthesis too.  Nothing is
left then but the parenthesis with what stands behind it, or nothing at all after a comment. -/
theorem exists_remaining (h : parse text = .ok p) :
    ∃ state, ∃ s : Remaining, s.alone = [] ∧ p.depth ≤ depthLimit ∧ p.isTooLarge = false ∧
      scanOptions (2 * text.toList.length + 4) ⟨{}, []⟩ [] (text.toList ++ parenthesis.text) =
        .ok (p, state, s.followed parenthesis) ∧
      scanOptions (2 * text.toList.length + 15) ⟨{}, []⟩ [] (text.toList ++ groupEnd.text) =
        .ok (p, state, s.followed groupEnd) := by
  obtain ⟨⟨q, state, rest⟩, hread, hchecks⟩ := exists_of_bind_eq_ok h
  dsimp only at hchecks
  split_ifs at hchecks with hrest hdepth hsize
  obtain rfl := Except.ok.inj hchecks
  -- What is left is settled before it is known which of the two ends follows.
  have hfuel : ∀ t : Closing, 2 * text.toList.length + 2 ≤
      2 * text.toList.length + if t.behind.isEmpty then 4 else 15 := by
    intro t
    split_ifs <;> omega
  have hcarries := (carriesPatterns _).options hfuel ⟨{}, []⟩ [] (.text text.toList)
  obtain ⟨_, ⟨⟨q', state'⟩, s, hq, rfl⟩, hfollowed⟩ := hcarries _ hread
  obtain ⟨rfl, rfl, rfl⟩ : q = q' ∧ state = state' ∧ rest = s.alone := by simpa using hq
  refine ⟨state, s, by simpa using hrest, Nat.le_of_not_lt hdepth, by simpa using hsize, ?_, ?_⟩
  · exact congrFun hfollowed parenthesis
  · exact congrFun hfollowed groupEnd

lemma toList_wholePattern (text : String) :
    (wholePattern text).toList =
      '\\' :: 'A' :: '(' :: '?' :: ':' :: (text.toList ++ groupEnd.text) := by
  simp [wholePattern, groupEnd, Closing.text]

lemma scanParts_start (fuel : Nat) (names : List String) (parts : List Pattern) (s : List Char) :
    scanParts (fuel + 1) ⟨{}, names⟩ parts ('\\' :: 'A' :: s) =
      scanParts fuel ⟨{}, names⟩ (.look .start :: parts) s := rfl

lemma scanParts_group {fuel : Nat} {names : List String} {state : PatternState}
    {s rest : List Char} (h : scanOptions fuel ⟨{}, names⟩ [] s = .ok (p, state, ')' :: rest))
    (parts : List Pattern) :
    scanParts (fuel + 1) ⟨{}, names⟩ parts ('(' :: '?' :: ':' :: s) =
      scanParts fuel ⟨{}, state.names⟩ (.group p false :: parts) rest := by
  change (scanOptions fuel ⟨{}, names⟩ [] s >>= _) = _
  rw [h]
  rfl

lemma scanParts_group_unclosed {fuel : Nat} {names : List String} {state : PatternState}
    {s : List Char} (h : scanOptions fuel ⟨{}, names⟩ [] s = .ok (p, state, []))
    (parts : List Pattern) :
    scanParts (fuel + 1) ⟨{}, names⟩ parts ('(' :: '?' :: ':' :: s) = .error .groupUnclosed := by
  change (scanOptions fuel ⟨{}, names⟩ [] s >>= _) = _
  rw [h]
  rfl

lemma scanOptions_anchored {fuel : Nat} {state : PatternState} {s : List Char}
    (h : scanOptions (fuel + 2) ⟨{}, []⟩ [] s = .ok (p, state, groupEnd.text)) :
    scanOptions (fuel + 5) ⟨{}, []⟩ [] ('\\' :: 'A' :: '(' :: '?' :: ':' :: s) =
      .ok (p.anchored, ⟨{}, state.names⟩, []) := by
  rw [scanOptions, scanParts_start, scanParts_group h]
  rfl

lemma scanOptions_unclosed {fuel : Nat} {state : PatternState} {s : List Char}
    (h : scanOptions fuel ⟨{}, []⟩ [] s = .ok (p, state, [])) :
    scanOptions (fuel + 3) ⟨{}, []⟩ [] ('\\' :: 'A' :: '(' :: '?' :: ':' :: s) =
      .error .groupUnclosed := by
  rw [scanOptions, scanParts_start, scanParts_group_unclosed h]
  rfl

/-- The text of a pattern in a group between anchors is read as this pattern between anchors, unless
the end of the group belongs to a comment. -/
theorem parse_wholePattern_cases (h : parse text = .ok p) :
    (endsInComment text = true ∧ parse (wholePattern text) = .error .groupUnclosed) ∨
      (endsInComment text = false ∧ parse (wholePattern text) =
        if depthLimit < p.depth + 2 then .error .tooDeep
        else if p.anchored.isTooLarge then .error .tooLarge
        else .ok p.anchored) := by
  obtain ⟨state, s, hs, hdepth, hsize, hclosed, hwhole⟩ := exists_remaining h
  have hclosedFuel : 2 * (text ++ ")").toList.length + 2 = 2 * text.toList.length + 4 := by
    simp
    omega
  have hwholeFuel : 2 * (wholePattern text).toList.length + 2 = 2 * text.toList.length + 18 := by
    simp [toList_wholePattern, groupEnd, Closing.text]
    omega
  have hclosed := parse_eq hclosedFuel (by rw [String.toList_append]; exact hclosed)
  rcases s with s | _
  · obtain rfl : s = [] := hs
    have hanchored := scanOptions_anchored hwhole
    rw [← toList_wholePattern] at hanchored
    refine .inr ⟨?_, ?_⟩
    · rw [endsInComment, isReadable, hclosed]
      rfl
    · rw [parse_eq hwholeFuel hanchored, depth_anchored]
      rfl
  · have hunclosed := scanOptions_unclosed hwhole
    rw [← toList_wholePattern] at hunclosed
    refine .inl ⟨?_, parse_eq_error hwholeFuel hunclosed⟩
    rw [endsInComment, isReadable, hclosed]
    simp [Nat.not_lt.2 hdepth, hsize, Except.isOk, Except.toBool]

lemma parse_wholePattern (h : parse text = .ok p) (hanchorable : p.IsAnchorable text) :
    parse (wholePattern text) = .ok p.anchored := by
  obtain ⟨hcomment, hdepth, hsize⟩ := hanchorable
  rcases parse_wholePattern_cases h with ⟨hends, -⟩ | ⟨-, hparse⟩
  · rw [hcomment] at hends
    cases hends
  · rw [hparse, if_neg (Nat.not_lt.2 hdepth), hsize]
    rfl

lemma exists_parse_wholePattern_eq_error (h : parse text = .ok p) (hnot : ¬p.IsAnchorable text) :
    ∃ e, parse (wholePattern text) = .error e := by
  rcases parse_wholePattern_cases h with ⟨-, hparse⟩ | ⟨hends, hparse⟩
  · exact ⟨_, hparse⟩
  · rw [hparse]
    split_ifs with hdepth hsize
    · exact ⟨_, rfl⟩
    · exact ⟨_, rfl⟩
    · exact absurd ⟨hends, Nat.le_of_not_lt hdepth, by simpa using hsize⟩ hnot

end Pattern

/-! ## Testing -/

/-- The test of a string against the text of a pattern. -/
def testStrings (anchoring : Anchoring) (subject pattern : String) : Reported Bool :=
  testPattern anchoring (some (.string subject)) (some (.string pattern))

section Test

variable {anchoring : Anchoring} {subject pattern : String} {p : Pattern}

lemma readPattern_of_ok {text : String} (h : Pattern.parse text = .ok p) :
    readPattern pattern text = ⟨some p, []⟩ := by
  rw [readPattern, h]
  rfl

lemma readPattern_of_error {text : String} {e : PatternError}
    (h : Pattern.parse text = .error e) :
    readPattern pattern text = ⟨none, [.invalidPattern pattern e.kind]⟩ := by
  rw [readPattern, h]
  rfl

lemma testStrings_of_error {e : PatternError} (h : Pattern.parse pattern = .error e) :
    testStrings anchoring subject pattern = ⟨false, [.invalidPattern pattern e.kind]⟩ := by
  rw [testStrings, testPattern, readPattern_of_error h]
  rfl

lemma testStrings_anywhere (subject : String) (h : Pattern.parse pattern = .ok p) :
    testStrings .anywhere subject pattern = ⟨p.isFoundIn subject, []⟩ := by
  rw [testStrings, testPattern, readPattern_of_ok h]
  rfl

lemma testStrings_whole {whole : Pattern} (subject : String) (h : Pattern.parse pattern = .ok p)
    (hwhole : Pattern.parse (wholePattern pattern) = .ok whole) :
    testStrings .whole subject pattern = ⟨whole.isFoundIn subject, []⟩ := by
  simp only [testStrings, testPattern, readPattern_of_ok h, readPattern_of_ok hwhole]
  rfl

lemma testStrings_whole_of_error {e : PatternError} (subject : String)
    (h : Pattern.parse pattern = .ok p) (hwhole : Pattern.parse (wholePattern pattern) = .error e) :
    testStrings .whole subject pattern = ⟨false, [.invalidPattern pattern e.kind]⟩ := by
  simp only [testStrings, testPattern, readPattern_of_ok h, readPattern_of_error hwhole]
  rfl

end Test

/-- A text that is no pattern is reported once, under its own name, and nothing passes.  A pattern
is searched for without a report, and found where it matches some stretch of the subject.  If it can
be put between anchors, a subject is matched against it without a report, and passes where the
pattern matches all of it.  If it cannot be, the pattern is reported although it is one, and no
subject passes. -/
theorem testStrings_matches (subject pattern : String) :
    (∀ e, Pattern.parse pattern = .error e → ∀ anchoring,
      testStrings anchoring subject pattern = ⟨false, [.invalidPattern pattern e.kind]⟩) ∧
    ∀ p, Pattern.parse pattern = .ok p →
      (∃ found, (found = true ↔ p.MatchesSomewhere subject) ∧
        testStrings .anywhere subject pattern = ⟨found, []⟩) ∧
      (p.IsAnchorable pattern → ∃ found, (found = true ↔ p.MatchesWhole subject) ∧
        testStrings .whole subject pattern = ⟨found, []⟩) ∧
      (¬p.IsAnchorable pattern → ∃ e : PatternError,
        testStrings .whole subject pattern = ⟨false, [.invalidPattern pattern e.kind]⟩) ∧
      ((testStrings .whole subject pattern).value = true →
        (testStrings .anywhere subject pattern).value = true) := by
  refine ⟨fun e he anchoring => testStrings_of_error he, fun p hp => ?_⟩
  have hanywhere := testStrings_anywhere subject hp
  by_cases hanchorable : p.IsAnchorable pattern
  · have hwhole := testStrings_whole subject hp (Pattern.parse_wholePattern hp hanchorable)
    refine ⟨⟨_, p.isFoundIn_iff subject, hanywhere⟩,
      fun _ => ⟨_, p.isFoundIn_anchored_iff subject, hwhole⟩, fun h => absurd hanchorable h, ?_⟩
    rw [hwhole, hanywhere]
    intro hfound
    exact (p.isFoundIn_iff subject).2 ((p.isFoundIn_anchored_iff subject).1 hfound).matchesSomewhere
  · obtain ⟨e, he⟩ := Pattern.exists_parse_wholePattern_eq_error hp hanchorable
    have hwhole := testStrings_whole_of_error subject hp he
    refine ⟨⟨_, p.isFoundIn_iff subject, hanywhere⟩, fun h => absurd h hanchorable,
      fun _ => ⟨e, hwhole⟩, ?_⟩
    rw [hwhole]
    intro hfound
    cases hfound

/-- Blanks and a comment mean nothing in the pattern, and the line after the comment is its end. -/
theorem testStrings_matches_verbose :
    ∃ p, Pattern.parse "(?x)ab|c # d\n" = .ok p ∧ p.IsAnchorable "(?x)ab|c # d\n" ∧
      ∃ found, (found = true ↔ p.MatchesWhole "c") ∧
        testStrings .whole "c" "(?x)ab|c # d\n" = ⟨found, []⟩ := by
  have hparse : Pattern.parse "(?x)ab|c # d\n" =
      .ok (.choice [.sequence [.empty, .chars (.single 'a') 0, .chars (.single 'b') 0],
        .chars (.single 'c') 0]) := rfl
  have hanchorable : Pattern.IsAnchorable (.choice [.sequence [.empty, .chars (.single 'a') 0,
      .chars (.single 'b') 0], .chars (.single 'c') 0]) "(?x)ab|c # d\n" :=
    ⟨by decide +kernel, by decide +kernel, by decide +kernel⟩
  exact ⟨_, hparse, hanchorable,
    ((testStrings_matches "c" "(?x)ab|c # d\n").2 _ hparse).2.1 hanchorable⟩

/-- The end of the group belongs to the comment that the pattern ends in: the pattern matches the
whole subject, but it is reported as one that cannot be read. -/
theorem testStrings_endsInComment :
    ∃ p, Pattern.parse "(?x)a#b" = .ok p ∧ p.MatchesWhole "a" ∧ ∃ reason,
      testStrings .whole "a" "(?x)a#b" = ⟨false, [.invalidPattern "(?x)a#b" reason]⟩ := by
  have hparse : Pattern.parse "(?x)a#b" = .ok (.sequence [.empty, .chars (.single 'a') 0]) := rfl
  have hwhole : Pattern.parse (wholePattern "(?x)a#b") = .error .groupUnclosed := rfl
  have hmatches : Pattern.MatchesWhole (.sequence [.empty, .chars (.single 'a') 0]) "a" :=
    ⟨0, rfl, 1, ⟨'a', rfl, by decide, rfl⟩, rfl⟩
  exact ⟨_, hparse, hmatches, _, testStrings_whole_of_error _ hparse hwhole⟩

end JsonPath
