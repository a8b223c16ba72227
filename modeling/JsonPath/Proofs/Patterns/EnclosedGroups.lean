import JsonPath.Pattern.Parser
import JsonPath.Proofs.Patterns.EnclosedClasses

/-!
# Groups and whole patterns in front of a closing parenthesis

The readers of repetitions, groups and parts one by one, and then the two readers of patterns
together (`CarriesPatterns`): parts and options end where the text ends, and there the
parenthesis ends them too.
-/

namespace JsonPath

namespace Pattern

open Remaining

variable {f : PatternFlags}

/-! ### Repetitions -/

lemma leaves_scanDecimalDigits (digits : List Char) {fuel : Nat} {fuel' : Closing → Nat}
    (hfuel : ∀ t, fuel ≤ fuel' t) (s : Remaining) (hlength : s.alone.length ≤ fuel) :
    Leaves Prod.mk (scanDecimalDigits f digits fuel s.alone) fun t =>
      scanDecimalDigits f digits (fuel' t) (s.followed t) := by
  refine Leaves.ofWhile f (scanDecimalDigits f) Char.isDigit (by decide)
    (fun digits c => c :: digits) List.reverse ?_ ?_ digits hfuel s hlength
  · intro digits fuel s hs
    rcases s with _ | ⟨c, rest⟩
    · cases fuel <;> rfl
    · cases fuel with
      | zero => rfl
      | succ fuel => simp [scanDecimalDigits, hs c rfl]
  · intro digits fuel c rest hc
    rw [scanDecimalDigits, if_pos hc]

lemma carries_scanCount (s : Remaining) :
    Carries Prod.mk (scanCount f s.alone) fun t => scanCount f (s.followed t) := by
  unfold scanCount
  simp only [dropSpaces_alone, dropSpaces_followed]
  obtain ⟨digits, s, hread, hread'⟩ := leaves_scanDecimalDigits (f := f) []
    (length_alone_le s.dropSpaces) s.dropSpaces (Nat.le_refl _)
  have hread' t := congrFun hread' t
  simp only [hread, hread']
  rcases digits with _ | ⟨c, digits⟩
  · exact .error _ _
  · simp only [dropSpaces_alone, dropSpaces_followed]
    split_ifs
    · exact .ok _ s.dropSpaces
    · exact .error _ _

lemma carries_scanUpperCount (s : Remaining) :
    Carries Prod.mk (scanUpperCount f s.alone) fun t => scanUpperCount f (s.followed t) := by
  unfold scanUpperCount
  simp only [skip_alone, skip_followed]
  rcases Remaining.skip f s with (_ | ⟨c, rest⟩) | _
  · exact .error _ _
  · by_cases hc : c = '\x7d'
    · subst hc
      exact .ok _ (.text ('\x7d' :: rest))
    · simp only [alone_text, followed_text, List.cons_append, List.cons.injEq, hc, false_and,
        imp_self, implies_true]
      exact (carries_scanCount (.text (c :: rest))).map fun count s => ⟨some count, s, rfl, rfl⟩
  · exact .error _ _

lemma carries_scanCounts (s : Remaining) :
    Carries behindBoth (scanCounts f s.alone) fun t => scanCounts f (s.followed t) := by
  unfold scanCounts
  simp only [skip_alone, skip_followed]
  refine (carries_scanCount _).bind fun least s => ?_
  rcases s with (_ | ⟨c, rest⟩) | _
  · exact .error _ _
  · rcases eq_or_ne c ',' with rfl | hc
    case' inl => refine (carries_scanUpperCount (.text rest)).bind fun most s => ?_
    case' inr =>
      simp only [alone_text, followed_text, List.cons_append, List.cons.injEq, hc, false_and,
        imp_self, implies_true]
      refine (Carries.ok (p := Prod.mk) (some least) (.text (c :: rest))).bind fun most s => ?_
    all_goals
      rcases s with (_ | ⟨d, rest⟩) | _
      · exact .error _ _
      · by_cases hd : d = '\x7d'
        · subst hd
          simp only [alone_text, followed_text, List.cons_append]
          split_ifs
          · exact .ok (p := behindBoth) (least, most) (.text rest)
          · exact .error _ _
        · simp only [alone_text, List.cons.injEq, hd, false_and, imp_self, implies_true]
          exact .error _ _
      · exact .error _ _
  · exact .error _ _

lemma leaves_scanPreference (s : Remaining) :
    Leaves Prod.mk (scanPreference f s.alone) fun t => scanPreference f (s.followed t) := by
  rcases s with (_ | ⟨c, rest⟩) | _
  · exact ⟨f.preferFew, .text [], rfl, rfl⟩
  · by_cases hc : c = '?'
    · subst hc
      exact ⟨!f.preferFew, .text rest, rfl, rfl⟩
    · simp only [alone_text, followed_text, List.cons_append, scanPreference, List.cons.injEq, hc,
        false_and, imp_self, implies_true]
      exact ⟨f.preferFew, .text (c :: rest), rfl, rfl⟩
  · exact ⟨f.preferFew, .comment, rfl, rfl⟩

lemma carries_repeatLast (least : Nat) (most : Option Nat) (parts : List Pattern)
    (s : Remaining) :
    Carries Prod.mk (repeatLast f least most s.alone parts) fun t =>
      repeatLast f least most (s.followed t) parts := by
  obtain ⟨preferFew, s', hread, hread'⟩ := leaves_scanPreference (f := f) s
  have hread' t := congrFun hread' t
  unfold repeatLast
  split
  · exact .error _ _
  · exact .error _ _
  · simp only [hread, hread']
    exact .ok _ s'

/-! ### Groups -/

lemma carries_scanFlags (items s : List Char) :
    Carries behindBoth (PatternFlags.scan items s) fun t =>
      PatternFlags.scan items (s ++ t.text) := by
  induction s generalizing items with
  | nil => exact .error _ _
  | cons c rest ih =>
    simp only [List.cons_append, PatternFlags.scan]
    split_ifs
    · exact .error _ _
    · exact .ok (p := behindBoth) (items.reverse, c) (.text rest)
    · exact .error _ _
    · exact .error _ _
    · exact ih _

lemma carries_scanGroupName (s : List Char) :
    Carries Prod.mk (scanGroupName s) fun t => scanGroupName (s ++ t.text) := by
  unfold scanGroupName
  cases hs : s.dropWhile (· != '>') with
  | nil =>
    dsimp only
    split_ifs
    · exact .error _ _
    · exact .error _ _
  | cons c rest =>
    have hst t := (dropWhile_append_of_eq_cons hs (Closing.text t)).1
    have hname t := (dropWhile_append_of_eq_cons hs (Closing.text t)).2
    simp only [hst, hname]
    split_ifs
    · exact .error _ _
    · exact .error _ _
    · exact .ok _ (.text rest)

lemma carries_scanGroupFlags (s : List Char) :
    Carries Prod.mk (scanGroupFlags f s) fun t => scanGroupFlags f (s ++ t.text) := by
  rcases s with _ | ⟨c, rest⟩
  · exact .error _ _
  · simp only [scanGroupFlags, List.cons_append, List.isEmpty_cons, Bool.false_eq_true, if_false]
    refine (carries_scanFlags [] (c :: rest)).bind fun read s => ?_
    dsimp only
    split_ifs
    · exact .ok _ s
    · exact .error _ _
    · exact .ok _ s

lemma carries_namedGroup (s : List Char) :
    Carries Prod.mk
      ((scanGroupName s).map fun read => (GroupStart.group f true (some read.1), read.2)) fun t =>
      (scanGroupName (s ++ t.text)).map fun read =>
        (GroupStart.group f true (some read.1), read.2) :=
  (carries_scanGroupName s).map fun _ s => ⟨_, s, rfl, rfl⟩

/-- The characters behind a question mark decide what it opens.  All of them stand in the pattern
itself, since it is an error if one is missing. -/
lemma carries_scanGroupStart (s : Remaining) :
    Carries Prod.mk (scanGroupStart f s.alone) fun t => scanGroupStart f (s.followed t) := by
  unfold scanGroupStart
  simp only [skip_alone, skip_followed]
  rcases Remaining.skip f s with (_ | ⟨c, rest⟩) | _
  · exact .ok _ (.text [])
  · by_cases hc : c = '?'
    case neg =>
      simp only [alone_text, followed_text, List.cons_append, List.cons.injEq, hc, false_and,
        imp_self, implies_true]
      exact .ok _ (.text (c :: rest))
    subst hc
    simp only [alone_text, followed_text, List.cons_append]
    rcases rest with _ | ⟨d, rest⟩
    · exact .error _ _
    by_cases hlook : d = '=' ∨ d = '!'
    · rcases hlook with rfl | rfl
      · exact .error _ _
      · exact .error _ _
    rw [not_or] at hlook
    by_cases hP : d = 'P'
    · subst hP
      rcases rest with _ | ⟨e, rest⟩
      · exact .error _ _
      by_cases he : e = '<'
      · subst he
        exact carries_namedGroup rest
      · simp only [List.cons_append, List.cons.injEq, Char.reduceEq, he, false_and, and_false,
          imp_self, implies_true]
        exact carries_scanGroupFlags ('P' :: e :: rest)
    by_cases hless : d = '<'
    · subst hless
      rcases rest with _ | ⟨e, rest⟩
      · exact .error _ _
      by_cases he : e = '=' ∨ e = '!'
      · rcases he with rfl | rfl
        · exact .error _ _
        · exact .error _ _
      · rw [not_or] at he
        simp only [List.cons_append, List.cons.injEq, he, false_and, imp_self, implies_true]
        exact carries_namedGroup (e :: rest)
    · simp only [List.cons_append, List.cons.injEq, hlook, hless, hP, false_and, imp_self,
        implies_true]
      exact carries_scanGroupFlags (d :: rest)
  · exact .ok _ .comment

lemma carries_scanPart (c : Char) (rest : List Char) :
    Carries Prod.mk (scanPart f c rest) fun t => scanPart f c (rest ++ t.text) := by
  unfold scanPart
  split
  · refine (PatternAtom.carries_scanEscape f (.text rest)).bind fun atom s => ?_
    exact .step _ fun p => .ok p s
  · exact .stepMap _ fun set => ⟨_, .text rest, rfl, rfl⟩
  · exact .ok _ (.text rest)
  · exact .ok _ (.text rest)
  · have hfuel : ∀ t : Closing, 2 * rest.length + 2 ≤ 2 * (rest ++ t.text).length + 2 := by
      intro t
      rw [List.length_append]
      omega
    have hclass := (PatternClass.carriesClasses f _).brackets hfuel (.text rest)
    exact hclass.map fun item s => ⟨_, s, rfl, rfl⟩
  · exact .stepMap _ fun set => ⟨_, .text rest, rfl, rfl⟩

/-! ### Whole patterns -/

/-- Both readers of patterns carry over as long as the fuel is that much at first, and at least as
much in front of a parenthesis. -/
structure CarriesPatterns (fuel : Nat) : Prop where
  options : ∀ {fuel' : Closing → Nat}, (∀ t, fuel ≤ fuel' t) → ∀ state read (s : Remaining),
    Carries behindBoth (scanOptions fuel state read s.alone) fun t =>
      scanOptions (fuel' t) state read (s.followed t)
  parts : ∀ {fuel' : Closing → Nat}, (∀ t, fuel ≤ fuel' t) → ∀ state read (s : Remaining),
    Carries behindBoth (scanParts fuel state read s.alone) fun t =>
      scanParts (fuel' t) state read (s.followed t)

namespace CarriesPatterns

variable {fuel : Nat} {fuel' : Closing → Nat}

lemma options_succ (h : CarriesPatterns fuel) (hfuel : ∀ t, fuel + 1 ≤ fuel' t)
    (state : PatternState) (read : List Pattern) (s : Remaining) :
    Carries behindBoth (scanOptions (fuel + 1) state read s.alone) fun t =>
      scanOptions (fuel' t) state read (s.followed t) := by
  obtain ⟨fuel', rfl, hle⟩ := exists_succ_of_le hfuel
  simp only [scanOptions]
  refine (h.parts hle state [] s).bind fun parts s => ?_
  rcases s with (_ | ⟨c, rest⟩) | _
  · exact .ok (p := behindBoth) (_, _) (.text [])
  · by_cases hc : c = '|'
    · subst hc
      exact h.options hle _ _ (.text rest)
    · simp only [alone_text, followed_text, List.cons_append, List.cons.injEq, hc, false_and,
        imp_self, implies_true]
      exact .ok (p := behindBoth) (_, _) (.text (c :: rest))
  · exact .ok (p := behindBoth) (_, _) .comment

/-- A group that is closed within the pattern is closed by the same parenthesis. -/
lemma group (h : CarriesPatterns fuel) (hle : ∀ t, fuel ≤ fuel' t) (state : PatternState)
    (read : List Pattern) {rest : List Char} {s : Remaining}
    (halone : PatternAtom.skip state.flags s.alone = '(' :: rest)
    (hfollowed : ∀ t, PatternAtom.skip state.flags (s.followed t) = '(' :: (rest ++ t.text)) :
    Carries behindBoth (scanParts (fuel + 1) state read s.alone) fun t =>
      scanParts (fuel' t + 1) state read (s.followed t) := by
  simp only [scanParts, halone, hfollowed]
  refine (carries_scanGroupStart (.text rest)).bind fun start s => ?_
  cases start with
  | flags flags => exact h.parts hle _ _ s
  | group flags captures name =>
    refine .step _ fun names => ?_
    refine (h.options hle ⟨flags, names⟩ [] s).bind fun inner s => ?_
    rcases s with (_ | ⟨c, rest⟩) | _
    · exact .error _ _
    · by_cases hc : c = ')'
      · subst hc
        exact h.parts hle _ _ (.text rest)
      · simp only [alone_text, List.cons.injEq, hc, false_and, imp_self, implies_true]
        exact .error _ _
    · exact .error _ _

lemma parts_succ (h : CarriesPatterns fuel) (hfuel : ∀ t, fuel + 1 ≤ fuel' t)
    (state : PatternState) (read : List Pattern) (s : Remaining) :
    Carries behindBoth (scanParts (fuel + 1) state read s.alone) fun t =>
      scanParts (fuel' t) state read (s.followed t) := by
  obtain ⟨fuel', rfl, hle⟩ := exists_succ_of_le hfuel
  have halone := skip_alone state.flags s
  have hfollowed := skip_followed state.flags s
  generalize Remaining.skip state.flags s = left at halone hfollowed
  by_cases hgroup : ∃ rest, left = .text ('(' :: rest)
  · obtain ⟨rest, rfl⟩ := hgroup
    exact h.group hle state read halone hfollowed
  simp only [scanParts, halone, hfollowed]
  rcases left with (_ | ⟨c, rest⟩) | _
  · exact .ok (p := behindBoth) (_, _) (.text [])
  · by_cases hsign : c ∈ ['|', ')', '?', '*', '+', '\x7b', '(']
    · simp only [List.mem_cons, List.not_mem_nil, or_false] at hsign
      rcases hsign with rfl | rfl | rfl | rfl | rfl | rfl | rfl
      · exact .ok (p := behindBoth) (read, state) (.text ('|' :: rest))
      · exact .ok (p := behindBoth) (read, state) (.text (')' :: rest))
      · exact (carries_repeatLast 0 (some 1) read (.text rest)).bind fun parts s =>
          h.parts hle state parts s
      · exact (carries_repeatLast 0 none read (.text rest)).bind fun parts s =>
          h.parts hle state parts s
      · exact (carries_repeatLast 1 none read (.text rest)).bind fun parts s =>
          h.parts hle state parts s
      · refine (carries_scanCounts (.text rest)).bind fun counts s => ?_
        simp only [skip_alone, skip_followed]
        exact (carries_repeatLast _ _ read _).bind fun parts s => h.parts hle state parts s
      · exact absurd ⟨rest, rfl⟩ hgroup
    · simp only [List.mem_cons, List.not_mem_nil, or_false, not_or] at hsign
      simp only [alone_text, followed_text, List.cons_append, hsign, imp_self]
      exact (carries_scanPart c rest).bind fun part s => h.parts hle state _ s
  · exact .ok (p := behindBoth) (_, _) .comment

end CarriesPatterns

theorem carriesPatterns (fuel : Nat) : CarriesPatterns fuel := by
  induction fuel with
  | zero => exact ⟨fun _ _ _ _ => .error _ _, fun _ _ _ _ => .error _ _⟩
  | succ fuel ih => exact ⟨ih.options_succ, ih.parts_succ⟩

end Pattern

end JsonPath
