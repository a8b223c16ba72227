import JsonPath.Pattern.Class
import JsonPath.Proofs.Patterns.Remaining

/-!
# Escapes and classes in front of a closing parenthesis

The readers of escapes and of classes one by one.  Most of them fail at the end of the text, so that
nothing has to be said of what they would do at a parenthesis.  Those that gather characters of a
kind do not fail there, but the parenthesis is of none of these kinds (`Leaves.ofWhile`).

In a class the parenthesis is a character as any other.  No class is finished where the text ends,
so it comes up only where a reader looks ahead: at the character after the next one
(`peekAfter_append`), and for the colon behind the name of a class (`scanNamed?_append`).
-/

namespace JsonPath

namespace PatternAtom

open Remaining

variable (f : PatternFlags)

lemma carries_scanHexDigits (code n : Nat) (s : Remaining) :
    Carries Prod.mk (scanHexDigits f code n s.alone) fun t =>
      scanHexDigits f code n (s.followed t) := by
  induction n generalizing code s with
  | zero => exact .ok code s
  | succ n ih =>
    rcases s with (_ | ⟨c, rest⟩) | _
    · exact .error _ _
    · simp only [alone_text, followed_text, List.cons_append, scanHexDigits]
      split
      · exact .error _ _
      · exact .skipped f (.text rest) (ih _ _)
    · exact .error _ _

lemma carries_scanHexBrace (isEmpty : Bool) (code fuel : Nat) (fuel' : Closing → Nat)
    (hfuel : ∀ t, fuel ≤ fuel' t) (s : Remaining) :
    Carries Prod.mk (scanHexBrace f isEmpty code fuel s.alone) fun t =>
      scanHexBrace f isEmpty code (fuel' t) (s.followed t) := by
  induction fuel generalizing isEmpty code fuel' s with
  | zero => exact .error _ _
  | succ fuel ih =>
    obtain ⟨fuel', rfl, hle⟩ := exists_succ_of_le hfuel
    rcases s with (_ | ⟨c, rest⟩) | _
    · exact .error _ _
    · simp only [alone_text, followed_text, List.cons_append, scanHexBrace]
      split_ifs
      · exact .error _ _
      · exact .okSkipped f code (.text rest)
      · split
        · exact .error _ _
        · exact .skipped f (.text rest) (ih _ _ _ hle _)
    · exact .error _ _

lemma carries_scanHex (letter : Char) (s : Remaining) :
    Carries Prod.mk (scanHex f letter s.alone) fun t => scanHex f letter (s.followed t) := by
  unfold scanHex
  simp only [skip_alone, skip_followed]
  rcases s.skip f with (_ | ⟨c, rest⟩) | _
  · exact .error _ _
  · by_cases hc : c = '\x7b'
    · subst hc
      have hbrace := carries_scanHexBrace f true 0 (rest.length + 1)
        (fun t => (rest ++ t.text).length + 1) (fun t => by simp) (.skip f (.text rest))
      refine .bind (.skipped f (.text rest) hbrace) fun code s => ?_
      exact .step _ fun atom => .ok atom s
    · simp only [alone_text, followed_text, List.cons_append, List.cons.injEq, hc, false_and,
        imp_self, implies_true]
      refine .bind (carries_scanHexDigits f 0 _ (.text (c :: rest))) fun code s => ?_
      exact .step _ fun atom => .ok atom s
  · exact .error _ _

lemma carries_scanBraced (name : List Char) (fuel : Nat) (fuel' : Closing → Nat)
    (hfuel : ∀ t, fuel ≤ fuel' t) (s : Remaining) :
    Carries Prod.mk (scanBraced f name fuel s.alone) fun t =>
      scanBraced f name (fuel' t) (s.followed t) := by
  induction fuel generalizing name fuel' s with
  | zero => exact .error _ _
  | succ fuel ih =>
    obtain ⟨fuel', rfl, hle⟩ := exists_succ_of_le hfuel
    rcases s with (_ | ⟨c, rest⟩) | _
    · exact .error _ _
    · simp only [alone_text, followed_text, List.cons_append, scanBraced]
      split_ifs
      · exact .ok _ (.text rest)
      · exact .skipped f (.text rest) (ih _ _ hle _)
    · exact .error _ _

lemma carries_scanProperty (letter : Char) (s : Remaining) :
    Carries Prod.mk (scanProperty f letter s.alone) fun t =>
      scanProperty f letter (s.followed t) := by
  unfold scanProperty
  simp only [skip_alone, skip_followed]
  rcases s.skip f with (_ | ⟨c, rest⟩) | _
  · exact .error _ _
  · by_cases hslash : c = '\\'
    · subst hslash
      exact .error _ _
    rcases eq_or_ne c '\x7b' with rfl | hc
    case' inl =>
      have hbrace := carries_scanBraced f [] (rest.length + 1)
        (fun t => (rest ++ t.text).length + 1) (fun t => by simp) (.skip f (.text rest))
      have hfound := (Carries.skipped f (.text rest) hbrace).map (q := Prod.mk)
        (g := fun read => (ofPropertyText read.1, read.2)) fun name s => ⟨_, s, rfl, rfl⟩
      refine hfound.bind fun found s => ?_
    case' inr =>
      simp only [alone_text, followed_text, List.cons_append, if_neg hslash]
      refine .bind (.okSkipped f _ (.text rest)) fun found s => ?_
    all_goals
      dsimp only
      split_ifs
      · exact .error _ _
      · split
        · exact .error _ _
        · exact .step _ fun set => .ok _ s
  · exact .error _ _

lemma leaves_scanBoundaryName (name : List Char) {fuel : Nat} {fuel' : Closing → Nat}
    (hfuel : ∀ t, fuel ≤ fuel' t) (s : Remaining) (hlength : s.alone.length ≤ fuel) :
    Leaves Prod.mk (scanBoundaryName f name fuel s.alone) fun t =>
      scanBoundaryName f name (fuel' t) (s.followed t) := by
  refine Leaves.ofWhile f (scanBoundaryName f) isBoundaryLetter (by decide)
    (fun name c => c :: name) List.reverse ?_ ?_ name hfuel s hlength
  · intro name fuel s hs
    rcases s with _ | ⟨c, rest⟩
    · cases fuel <;> rfl
    · cases fuel with
      | zero => rfl
      | succ fuel => simp [scanBoundaryName, hs c rfl]
  · intro name fuel c rest hc
    rw [scanBoundaryName, if_pos hc]

/-- A brace with no letter behind it opens no name: it counts repetitions and is left. -/
lemma carries_scanBoundary (s : Remaining) :
    Carries Prod.mk (scanBoundary f s.alone) fun t => scanBoundary f (s.followed t) := by
  rcases s with (_ | ⟨c, rest⟩) | _
  · exact .ok _ (.text [])
  · by_cases hc : c = '\x7b'
    case neg =>
      simp only [alone_text, followed_text, List.cons_append, scanBoundary, List.cons.injEq, hc,
        false_and, imp_self, implies_true]
      exact .ok _ (.text (c :: rest))
    subst hc
    simp only [alone_text, followed_text, List.cons_append, scanBoundary]
    simp only [skip_append]
    simp only [skip_eq]
    rcases Remaining.skip f (.text rest) with (_ | ⟨c, tail⟩) | _
    · exact .error _ _
    · simp only [alone_text, followed_text, List.cons_append]
      split_ifs
      · exact .ok _ (.text ('\x7b' :: rest))
      have hfuel : ∀ t : Closing, tail.length + 2 ≤ (tail ++ t.text).length + 2 := by simp
      obtain ⟨name, s, hread, hread'⟩ :=
        leaves_scanBoundaryName f [] hfuel (.text (c :: tail)) (by simp)
      have hread' t := congrFun hread' t
      simp only [alone_text, followed_text, List.cons_append] at hread hread'
      simp only [hread, hread']
      rcases s with (_ | ⟨d, rest⟩) | _
      · exact .error _ _
      · by_cases hd : d = '\x7d'
        · subst hd
          simp only [alone_text, followed_text, List.cons_append]
          split
          · exact .ok _ (.text rest)
          · exact .error _ _
        · simp only [alone_text, Prod.mk.injEq, List.cons.injEq, hd, false_and, and_false,
            imp_false, not_false_eq_true, implies_true]
          exact .error _ _
      · exact .error _ _
    · exact .error _ _
  · exact .ok _ .comment

lemma carries_scanEscape (s : Remaining) :
    Carries Prod.mk (scanEscape f s.alone) fun t => scanEscape f (s.followed t) := by
  rcases s with (_ | ⟨c, rest⟩) | _
  · exact .error _ _
  · simp only [alone_text, followed_text, List.cons_append, scanEscape]
    split_ifs
    · exact .error _ _
    · exact .ok _ (.text rest)
    · split
      case h_1 | h_2 | h_3 => exact carries_scanHex f _ (.text rest)
      case h_4 | h_5 => exact carries_scanProperty f _ (.text rest)
      case h_14 => exact carries_scanBoundary f (.text rest)
      case h_18 =>
        split_ifs
        · exact .stepMap _ fun set => ⟨_, .text rest, rfl, rfl⟩
        · exact .error _ _
      all_goals exact .ok _ (.text rest)
  · exact .error _ _

end PatternAtom

namespace PatternClass

open Remaining

variable (f : PatternFlags)

lemma carries_scanAtom (s : Remaining) :
    Carries Prod.mk (scanAtom f s.alone) fun t => scanAtom f (s.followed t) := by
  rcases s with (_ | ⟨c, rest⟩) | _
  · exact .error _ _
  · by_cases hc : c = '\\'
    · subst hc
      exact PatternAtom.carries_scanEscape f (.text rest)
    · simp only [alone_text, followed_text, List.cons_append, scanAtom]
      exact .ok _ (.text rest)
  · exact .error _ _

/-- A closing parenthesis may be what comes next, and it decides nothing. -/
theorem peekAfter_append (c : Char) (rest : List Char) (t : Closing) :
    peekAfter f (c :: (rest ++ t.text)) = (peekAfter f (c :: rest)).or (some ')') := by
  have hhead : ∀ s : List Char, (s ++ t.text).head? = s.head?.or (some ')') := fun s =>
    List.head?_append
  unfold peekAfter
  simp only [List.tail_cons]
  split_ifs
  · exact hhead rest
  · rw [dropWhile_append isSpace_parenthesis]
    rcases rest.dropWhile PatternAtom.isSpace with _ | ⟨d, rest⟩
    · rfl
    · by_cases hd : d = '#'
      · subst hd
        simp only [List.cons_append, dropWhile_append isSpace_parenthesis, hhead]
      · simp only [List.cons_append, List.cons.injEq, hd, false_and, imp_self, implies_true]
        rfl

lemma or_parenthesis_eq_some_iff {o : Option Char} {c : Char} (hc : ')' ≠ c) :
    o.or (some ')') = some c ↔ o = some c := by
  cases o <;> simp [hc]

lemma carries_scanItem (c : Char) (rest : List Char) :
    Carries Prod.mk (scanItem f (c :: rest)) fun t => scanItem f (c :: (rest ++ t.text)) := by
  unfold scanItem
  refine (carries_scanAtom f (.text (c :: rest))).bind fun first s => ?_
  simp only [skip_alone, skip_followed]
  rcases s.skip f with (_ | ⟨c, rest⟩) | _
  · exact .error _ _
  · simp only [alone_text, followed_text, List.cons_append, peekAfter_append]
    simp only [or_parenthesis_eq_some_iff (show ')' ≠ ']' by decide),
      or_parenthesis_eq_some_iff (show ')' ≠ '-' by decide)]
    split_ifs
    · exact .step _ fun item => .ok _ (.text (c :: rest))
    · simp only [skip_append]
      simp only [skip_eq]
      rcases Remaining.skip f (.text rest) with (_ | ⟨c, rest⟩) | _
      · exact .error _ _
      · refine (carries_scanAtom f (.text (c :: rest))).bind fun second s => ?_
        refine .step _ fun low => ?_
        refine .step _ fun high => ?_
        split_ifs
        · exact .ok _ s
        · exact .error _ _
      · exact .error _ _
  · exact .error _ _

/-- A name without a caret is read as one with it, but stands for the set itself. -/
lemma scanNamed?_of_not_caret {s : List Char} (h : ∀ u, s = '^' :: u → False) :
    scanNamed? (':' :: s) =
      (scanNamed? (':' :: '^' :: s)).map fun named => (named.1, false, named.2.2) := by
  rw [scanNamed?.eq_2 s h, scanNamed?]
  split
  · rw [Option.map_map]
    rfl
  · rfl

lemma scanNamed?_caret_append (s : List Char) (t : Closing) :
    scanNamed? (':' :: '^' :: (s ++ t.text)) =
      (scanNamed? (':' :: '^' :: s)).map fun named =>
        (named.1, named.2.1, named.2.2 ++ t.text) := by
  rw [scanNamed?, scanNamed?]
  cases hs : s.dropWhile (· != ':') with
  | nil =>
    -- There is no colon behind the pattern either.
    have hnone : t.text.dropWhile (· != ':') = [] := by
      refine List.dropWhile_eq_nil_iff.2 fun c hc => bne_iff_ne.2 ?_
      rintro rfl
      rcases List.mem_cons.1 hc with hc | hc
      · exact absurd hc (by decide)
      · exact t.colon_not_mem hc
    rw [dropWhile_append_of_eq_nil hs, hnone]
    rfl
  | cons c rest =>
    obtain ⟨hst, hname⟩ := dropWhile_append_of_eq_cons hs t.text
    rw [hst, hname]
    by_cases hc : c = ':'
    · subst hc
      rcases rest with _ | ⟨d, rest⟩
      · rfl
      · by_cases hd : d = ']'
        · subst hd
          simp only [List.cons_append, Option.map_map]
          rfl
        · simp [hd]
    · simp [hc]

theorem scanNamed?_append (s : List Char) (t : Closing) :
    scanNamed? (s ++ t.text) =
      (scanNamed? s).map fun named => (named.1, named.2.1, named.2.2 ++ t.text) := by
  rcases s with _ | ⟨c, s⟩
  · rfl
  · by_cases hc : c = ':'
    · subst hc
      by_cases hcaret : ∃ u, s = '^' :: u
      · obtain ⟨s, rfl⟩ := hcaret
        exact scanNamed?_caret_append s t
      · have hs : ∀ u, s = '^' :: u → False := fun u hu => hcaret ⟨u, hu⟩
        have hst : ∀ u, s ++ t.text = '^' :: u → False := by
          intro u hu
          rcases s with _ | ⟨d, s⟩
          · exact absurd (List.cons.inj hu).1 (by decide)
          · exact hs s (by rw [(List.cons.inj hu).1])
        rw [List.cons_append, scanNamed?_of_not_caret hst, scanNamed?_of_not_caret hs,
          scanNamed?_caret_append, Option.map_map, Option.map_map]
        rfl
    · simp [scanNamed?, hc]

variable {f}

lemma leaves_scanHyphens (state : ClassState) {fuel : Nat} {fuel' : Closing → Nat}
    (hfuel : ∀ t, fuel ≤ fuel' t) (s : Remaining) (hlength : s.alone.length ≤ fuel) :
    Leaves Prod.mk (scanHyphens f state fuel s.alone) fun t =>
      scanHyphens f state (fuel' t) (s.followed t) := by
  refine Leaves.ofWhile f (scanHyphens f) (· == '-') (by decide)
    (fun state _ => add state ⟨.single '-', 0⟩) id ?_ ?_ state hfuel s hlength
  · intro state fuel s hs
    rcases s with _ | ⟨c, rest⟩
    · cases fuel <;> rfl
    · have hc : c ≠ '-' := by simpa using hs c rfl
      cases fuel with
      | zero => rfl
      | succ fuel => simp [scanHyphens, hc]
  · intro state fuel c rest hc
    obtain rfl := eq_of_beq hc
    rfl

/-- The hyphens or the closing bracket at the start of a class. -/
def scanOpeningItems (f : PatternFlags) (s : List Char) : ClassState × List Char :=
  let read := scanHyphens f ⟨[], none⟩ s.length s
  if read.1.items.isEmpty && read.2.head? == some ']' then
    (add read.1 ⟨.single ']', 0⟩, PatternAtom.skip f read.2.tail)
  else read

lemma scanOpeningItems_of_bracket {s rest : List Char}
    (hitems : (scanHyphens f ⟨[], none⟩ s.length s).1.items = [])
    (hrest : (scanHyphens f ⟨[], none⟩ s.length s).2 = ']' :: rest) :
    scanOpeningItems f s = (add (scanHyphens f ⟨[], none⟩ s.length s).1 ⟨.single ']', 0⟩,
      PatternAtom.skip f rest) := by
  simp [scanOpeningItems, hitems, hrest]

lemma scanOpeningItems_of_not_bracket {s : List Char}
    (h : ∀ rest, (scanHyphens f ⟨[], none⟩ s.length s).1.items = [] →
      (scanHyphens f ⟨[], none⟩ s.length s).2 = ']' :: rest → False) :
    scanOpeningItems f s = scanHyphens f ⟨[], none⟩ s.length s := by
  refine if_neg ?_
  simp only [Bool.and_eq_true, List.isEmpty_iff, beq_iff_eq, List.head?_eq_some_iff]
  rintro ⟨hitems, rest, hrest⟩
  exact h rest hitems hrest

lemma scanOpening_eq (s : List Char) :
    scanOpening f s =
      if (PatternAtom.skip f s).head? = some '^' then
        (true, scanOpeningItems f (PatternAtom.skip f (PatternAtom.skip f s).tail))
      else (false, scanOpeningItems f (PatternAtom.skip f s)) := by
  unfold scanOpening
  rcases PatternAtom.skip f s with _ | ⟨c, rest⟩
  · rfl
  · by_cases hc : c = '^'
    · subst hc
      simp only [List.head?_cons, if_true, List.tail_cons]
      split
      · rw [scanOpeningItems_of_bracket ‹_› ‹_›]
      · rw [scanOpeningItems_of_not_bracket ‹_›]
    · simp only [List.cons.injEq, hc, false_and, imp_self, implies_true, List.head?_cons,
        Option.some.injEq, if_false]
      split
      · rw [scanOpeningItems_of_bracket ‹_› ‹_›]
      · rw [scanOpeningItems_of_not_bracket ‹_›]

lemma leaves_scanOpeningItems (s : Remaining) :
    Leaves Prod.mk (scanOpeningItems f s.alone) fun t => scanOpeningItems f (s.followed t) := by
  unfold scanOpeningItems
  obtain ⟨state, s', hread, hread'⟩ :=
    leaves_scanHyphens (f := f) ⟨[], none⟩ (length_alone_le s) s (Nat.le_refl _)
  have hread' t := congrFun hread' t
  simp only [hread, hread']
  rcases s' with (_ | ⟨c, rest⟩) | _
  · refine ⟨state, .text [], ?_, funext fun t => ?_⟩
    · simp
    · simp [Closing.text]
  · simp only [alone_text, followed_text, List.cons_append, List.head?_cons, List.tail_cons]
    by_cases hc : (state.items.isEmpty && some c == some ']') = true
    · simp only [hc, if_true, skip_append]
      exact ⟨_, Remaining.skip f (.text rest), by rw [skip_eq], rfl⟩
    · simp only [hc]
      exact ⟨state, .text (c :: rest), rfl, rfl⟩
  · refine ⟨state, .comment, ?_, funext fun t => ?_⟩
    · simp
    · simp

lemma leaves_scanOpening (s : Remaining) :
    Leaves behindBoth (scanOpening f s.alone) fun t =>
      scanOpening f (s.followed t) := by
  have hitems : ∀ (negated : Bool) (s : Remaining),
      Leaves behindBoth (negated, scanOpeningItems f s.alone) fun t =>
        (negated, scanOpeningItems f (s.followed t)) := by
    intro negated s
    obtain ⟨state, s', hread, hread'⟩ := leaves_scanOpeningItems (f := f) s
    exact ⟨(negated, state), s', by rw [hread], funext fun t => by rw [congrFun hread' t]⟩
  simp only [scanOpening_eq, skip_alone, skip_followed]
  rcases s.skip f with (_ | ⟨c, rest⟩) | _
  · exact hitems false (.text [])
  · simp only [alone_text, followed_text, List.cons_append, List.head?_cons, List.tail_cons]
    by_cases hc : some c = some '^'
    · simp only [hc, if_true, skip_append]
      rw [skip_eq]
      exact hitems true _
    · simp only [hc, if_false]
      exact hitems false (.text (c :: rest))
  · exact hitems false .comment

/-- What ends a class, opens one or stands between two sides of an operation. -/
def IsSign (c : Char) (rest : List Char) : Prop :=
  c = ']' ∨ c = '[' ∨ (c ∈ ['&', '-', '~'] ∧ rest.head? = some c)

lemma IsSign.of_append {c : Char} {rest : List Char} {t : Closing}
    (h : IsSign c (rest ++ t.text)) : IsSign c rest := by
  refine h.imp_right (Or.imp_right fun ⟨hc, hrest⟩ => ⟨hc, ?_⟩)
  rcases rest with _ | ⟨d, rest⟩
  · obtain rfl : ')' = c := by simpa [Closing.text] using hrest
    exact absurd hc (by decide)
  · exact hrest

lemma scanContent_item {c : Char} {s rest : List Char} (hs : PatternAtom.skip f s = c :: rest)
    (hsign : ¬IsSign c rest) (fuel : Nat) (state : ClassState) :
    scanContent f (fuel + 1) state s =
      scanItem f (c :: rest) >>= fun read => scanContent f fuel (add state read.1) read.2 := by
  rw [scanContent, hs]
  unfold IsSign at hsign
  split <;> simp_all

/-- Both readers of classes carry over as long as the fuel is that much at first, and at least as
much in front of a parenthesis. -/
structure CarriesClasses (f : PatternFlags) (fuel : Nat) : Prop where
  brackets : ∀ {fuel' : Closing → Nat}, (∀ t, fuel ≤ fuel' t) → ∀ s : Remaining,
    Carries Prod.mk (scan f fuel s.alone) fun t => scan f (fuel' t) (s.followed t)
  content : ∀ {fuel' : Closing → Nat}, (∀ t, fuel ≤ fuel' t) → ∀ state (s : Remaining),
    Carries Prod.mk (scanContent f fuel state s.alone) fun t =>
      scanContent f (fuel' t) state (s.followed t)

namespace CarriesClasses

variable {fuel : Nat} {fuel' : Closing → Nat}

lemma brackets_succ (h : CarriesClasses f fuel) (hfuel : ∀ t, fuel + 1 ≤ fuel' t)
    (s : Remaining) :
    Carries Prod.mk (scan f (fuel + 1) s.alone) fun t => scan f (fuel' t) (s.followed t) := by
  obtain ⟨fuel', rfl, hle⟩ := exists_succ_of_le hfuel
  obtain ⟨⟨negated, state⟩, s, hread, hread'⟩ := leaves_scanOpening (f := f) s
  have hread' t := congrFun hread' t
  simp only [scan, hread, hread']
  refine (h.content hle state s).bind fun content s => ?_
  exact .step _ fun set => .ok _ s

/-- Behind a sign the text goes on, since a parenthesis makes no sign. -/
lemma sign (h : CarriesClasses f fuel) (hle : ∀ t, fuel ≤ fuel' t) (state : ClassState)
    {c : Char} {rest : List Char} {s : Remaining}
    (halone : PatternAtom.skip f s.alone = c :: rest)
    (hfollowed : ∀ t, PatternAtom.skip f (s.followed t) = c :: (rest ++ t.text))
    (hsign : IsSign c rest) :
    Carries Prod.mk (scanContent f (fuel + 1) state s.alone) fun t =>
      scanContent f (fuel' t + 1) state (s.followed t) := by
  simp only [scanContent, halone, hfollowed]
  rcases hsign with rfl | rfl | ⟨hc, hrest⟩
  · exact .ok _ (.text rest)
  · simp only [scanNamed?_append]
    rcases scanNamed? rest with _ | ⟨set, negated, rest'⟩
    · refine (h.brackets hle (.text rest)).bind fun item s => ?_
      exact h.content hle _ s
    · exact .step _ fun set => h.content hle _ (.text rest')
  · obtain ⟨rest, rfl⟩ := List.head?_eq_some_iff.1 hrest
    simp only [List.mem_cons, List.not_mem_nil, or_false] at hc
    rcases hc with rfl | rfl | rfl
    · exact h.content hle _ (.text rest)
    · exact h.content hle _ (.text rest)
    · exact h.content hle _ (.text rest)

lemma content_succ (h : CarriesClasses f fuel) (hfuel : ∀ t, fuel + 1 ≤ fuel' t)
    (state : ClassState) (s : Remaining) :
    Carries Prod.mk (scanContent f (fuel + 1) state s.alone) fun t =>
      scanContent f (fuel' t) state (s.followed t) := by
  obtain ⟨fuel', rfl, hle⟩ := exists_succ_of_le hfuel
  have halone := skip_alone f s
  have hfollowed := skip_followed f s
  generalize s.skip f = left at halone hfollowed
  rcases left with (_ | ⟨c, rest⟩) | _
  · rw [scanContent, halone]
    exact .error _ _
  · by_cases hsign : IsSign c rest
    · exact h.sign hle state halone hfollowed hsign
    · rw [scanContent_item halone hsign]
      simp only [fun t => scanContent_item (hfollowed t) fun h => hsign h.of_append]
      refine (carries_scanItem f c rest).bind fun item s => ?_
      exact h.content hle _ s
  · rw [scanContent, halone]
    exact .error _ _

end CarriesClasses

theorem carriesClasses (f : PatternFlags) (fuel : Nat) : CarriesClasses f fuel := by
  induction fuel with
  | zero => exact ⟨fun _ _ => .error _ _, fun _ _ _ => .error _ _⟩
  | succ fuel ih => exact ⟨ih.brackets_succ, ih.content_succ⟩

end PatternClass

end JsonPath
