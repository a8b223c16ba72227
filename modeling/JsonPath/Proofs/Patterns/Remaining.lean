import JsonPath.Pattern.Escape
import JsonPath.Proofs.Results
import Mathlib.Data.List.TakeWhile
import Mathlib.Tactic.SplitIfs

/-!
# Patterns in front of a closing parenthesis

A reader of patterns that stops at the end of a text stops at a closing parenthesis that is put
there, with the same result, and the parenthesis is left with what stands behind it.  One thing can
go wrong: where blanks and comments mean nothing, the text may end in a comment, and then all that
is put behind it belongs to this comment.

`Remaining` is what a reader leaves in either case, and it is settled before anything is put behind
the pattern.  `Carries` says of two readings, of the pattern alone and of the pattern in front of
any closing parenthesis, that the second goes as the first did.  The lemmas beside it follow the
ways to put readers together.
-/

namespace JsonPath

/-! ## What is left of a pattern -/

/-- A closing parenthesis with what stands behind it. -/
structure Closing where
  behind : List Char
  lineFeed_not_mem : '\n' ∉ behind
  colon_not_mem : ':' ∉ behind

/-- The parenthesis and what stands behind it. -/
def Closing.text (t : Closing) : List Char := ')' :: t.behind

/-- What is left of a pattern that is being read. -/
inductive Remaining where
  | text (s : List Char)
  /-- Nothing, and whatever is put behind the pattern belongs to a comment. -/
  | comment

namespace Remaining

/-- What is left where the pattern stands alone. -/
def alone : Remaining → List Char
  | .text s => s
  | .comment => []

/-- What is left where the pattern stands in front of a closing parenthesis. -/
def followed : Remaining → Closing → List Char
  | .text s, t => s ++ t.text
  | .comment, _ => []

@[simp] lemma alone_text (s : List Char) : (text s).alone = s := rfl

@[simp] lemma alone_comment : comment.alone = [] := rfl

@[simp] lemma followed_text (s : List Char) (t : Closing) :
    (text s).followed t = s ++ t.text := rfl

@[simp] lemma followed_comment (t : Closing) : comment.followed t = [] := rfl

/-- Whether blanks and comments go on to the end of a text in a comment. -/
def reachesEndInComment (inComment : Bool) : List Char → Bool
  | [] => inComment
  | c :: rest =>
    if inComment then reachesEndInComment (c != '\n') rest
    else if PatternAtom.isSpace c then reachesEndInComment false rest
    else if c = '#' then reachesEndInComment true rest
    else false

/-- What is left behind blanks and comments. -/
def skip (f : PatternFlags) : Remaining → Remaining
  | .text s =>
    if f.verbose && reachesEndInComment false s then .comment else .text (PatternAtom.skip f s)
  | .comment => .comment

/-- What is left behind white space. -/
def dropSpaces : Remaining → Remaining
  | .text s => .text (s.dropWhile PatternAtom.isSpace)
  | .comment => .comment

lemma isSpace_parenthesis : PatternAtom.isSpace ')' = false := by decide +kernel

lemma skipBlanks_comment {s : List Char} (h : '\n' ∉ s) :
    PatternAtom.skipBlanks true s = [] := by
  induction s with
  | nil => rfl
  | cons c rest ih =>
    rw [List.mem_cons, not_or] at h
    rw [PatternAtom.skipBlanks, if_pos rfl, bne_iff_ne.2 (Ne.symm h.1), ih h.2]

lemma skipBlanks_append (s : List Char) (t : Closing) (inComment : Bool) :
    PatternAtom.skipBlanks inComment (s ++ t.text) =
      if reachesEndInComment inComment s then []
      else PatternAtom.skipBlanks inComment s ++ t.text := by
  induction s generalizing inComment with
  | nil =>
    cases inComment with
    | true => exact skipBlanks_comment (by simpa [Closing.text] using t.lineFeed_not_mem)
    | false => simp [Closing.text, PatternAtom.skipBlanks, reachesEndInComment, isSpace_parenthesis]
  | cons c rest ih =>
    rw [List.cons_append, PatternAtom.skipBlanks, PatternAtom.skipBlanks, reachesEndInComment]
    split
    · exact ih _
    · split
      · exact ih _
      · split
        · exact ih _
        · rfl

lemma skipBlanks_of_reachesEnd {s : List Char} {inComment : Bool}
    (h : reachesEndInComment inComment s = true) : PatternAtom.skipBlanks inComment s = [] := by
  induction s generalizing inComment with
  | nil => rfl
  | cons c rest ih =>
    rw [reachesEndInComment] at h
    rw [PatternAtom.skipBlanks]
    split_ifs at h ⊢ <;> exact ih h

lemma skip_alone (f : PatternFlags) (s : Remaining) :
    PatternAtom.skip f s.alone = (s.skip f).alone := by
  cases s with
  | comment => simp [alone, skip, PatternAtom.skip, PatternAtom.skipBlanks]
  | text s =>
    rw [skip]
    split_ifs with h
    · rw [Bool.and_eq_true] at h
      rw [PatternAtom.skip, if_pos h.1]
      exact skipBlanks_of_reachesEnd h.2
    · rfl

lemma skip_followed (f : PatternFlags) (s : Remaining) (t : Closing) :
    PatternAtom.skip f (s.followed t) = (s.skip f).followed t := by
  cases s with
  | comment => simp [followed, skip, PatternAtom.skip, PatternAtom.skipBlanks]
  | text s =>
    simp only [skip, followed, PatternAtom.skip]
    cases hverbose : f.verbose with
    | false => rfl
    | true =>
      simp only [if_true, Bool.true_and, skipBlanks_append]
      split_ifs <;> rfl

lemma skip_append (f : PatternFlags) (s : List Char) (t : Closing) :
    PatternAtom.skip f (s ++ t.text) = (skip f (.text s)).followed t := skip_followed f (.text s) t

lemma skip_eq (f : PatternFlags) (s : List Char) :
    PatternAtom.skip f s = (skip f (.text s)).alone := skip_alone f (.text s)

/-- What is looked for in a text and found there is found in a longer text too. -/
lemma dropWhile_append_of_eq_cons {q : Char → Bool} {s rest : List Char} {c : Char}
    (h : s.dropWhile q = c :: rest) (u : List Char) :
    (s ++ u).dropWhile q = c :: (rest ++ u) ∧ (s ++ u).takeWhile q = s.takeWhile q := by
  induction s with
  | nil => cases h
  | cons d s ih =>
    rw [List.dropWhile_cons] at h
    rw [List.cons_append, List.dropWhile_cons, List.takeWhile_cons, List.takeWhile_cons]
    split_ifs at h ⊢
    · rw [(ih h).2]
      exact ⟨(ih h).1, rfl⟩
    · obtain ⟨rfl, rfl⟩ := List.cons.inj h
      exact ⟨rfl, rfl⟩

lemma dropWhile_append_of_eq_nil {q : Char → Bool} {s : List Char} (h : s.dropWhile q = [])
    (u : List Char) : (s ++ u).dropWhile q = u.dropWhile q := by
  rw [List.dropWhile_append, h]
  rfl

lemma dropWhile_append {q : Char → Bool} (hq : q ')' = false) (s : List Char) (t : Closing) :
    (s ++ t.text).dropWhile q = s.dropWhile q ++ t.text := by
  cases hs : s.dropWhile q with
  | nil =>
    rw [dropWhile_append_of_eq_nil hs, Closing.text, List.dropWhile_cons_of_neg (by simp [hq])]
    rfl
  | cons c rest => exact (dropWhile_append_of_eq_cons hs _).1

lemma dropSpaces_alone (s : Remaining) :
    s.alone.dropWhile PatternAtom.isSpace = s.dropSpaces.alone := by
  cases s <;> rfl

lemma dropSpaces_followed (s : Remaining) (t : Closing) :
    (s.followed t).dropWhile PatternAtom.isSpace = s.dropSpaces.followed t := by
  cases s with
  | comment => rfl
  | text s => exact dropWhile_append isSpace_parenthesis s t

lemma length_alone_le (s : Remaining) (t : Closing) :
    s.alone.length ≤ (s.followed t).length := by
  cases s <;> simp [alone, followed]

lemma length_skipBlanks_le (inComment : Bool) (s : List Char) :
    (PatternAtom.skipBlanks inComment s).length ≤ s.length := by
  induction s generalizing inComment with
  | nil => exact Nat.le_refl _
  | cons c rest ih =>
    rw [PatternAtom.skipBlanks]
    split_ifs
    · exact Nat.le_succ_of_le (ih _)
    · exact Nat.le_succ_of_le (ih _)
    · exact Nat.le_succ_of_le (ih _)
    · exact Nat.le_refl _

lemma length_skip_le (f : PatternFlags) (s : List Char) :
    (PatternAtom.skip f s).length ≤ s.length := by
  unfold PatternAtom.skip
  split_ifs
  · exact length_skipBlanks_le _ _
  · exact Nat.le_refl _

end Remaining

/-! ## Readings -/

section Readings

variable {α β γ ρ σ : Type}

/-- A result with what is left behind it, alone and in front of a closing parenthesis. -/
def Leaves (p : α → List Char → ρ) (r : ρ) (r' : Closing → ρ) : Prop :=
  ∃ a, ∃ s : Remaining, r = p a s.alone ∧ r' = fun t => p a (s.followed t)

/-- What can be read alone is read in front of any closing parenthesis too, with the same result. -/
def Carries (p : α → List Char → ρ) (x : Except PatternError ρ)
    (y : Closing → Except PatternError ρ) : Prop :=
  ∀ r, x = .ok r → ∃ r', Leaves p r r' ∧ y = fun t => .ok (r' t)

variable {p : α → List Char → ρ} {q : β → List Char → σ}

/-- A greater amount of fuel is a successor wherever the smaller one is. -/
lemma exists_succ_of_le {fuel : Nat} {fuel' : Closing → Nat} (h : ∀ t, fuel + 1 ≤ fuel' t) :
    ∃ rest : Closing → Nat, (fuel' = fun t => rest t + 1) ∧ ∀ t, fuel ≤ rest t := by
  refine ⟨fun t => fuel' t - 1, funext fun t => ?_, fun t => Nat.le_pred_of_lt (h t)⟩
  exact (Nat.succ_pred_eq_of_pos (Nat.zero_lt_of_lt (h t))).symm

/-- Reading characters of a kind as far as they go comes to the same end, since the parenthesis is
none of them. -/
theorem Leaves.ofWhile (f : PatternFlags) (read : γ → Nat → List Char → ρ) (kind : Char → Bool)
    (hkind : kind ')' = false) (next : γ → Char → γ) (out : γ → α)
    (hstop : ∀ state fuel s, (∀ c, s.head? = some c → kind c = false) →
      read state fuel s = p (out state) s)
    (hnext : ∀ state fuel c rest, kind c = true →
      read state (fuel + 1) (c :: rest) = read (next state c) fuel (PatternAtom.skip f rest))
    (state : γ) {fuel : Nat} {fuel' : Closing → Nat} (hfuel : ∀ t, fuel ≤ fuel' t)
    (s : Remaining) (hlength : s.alone.length ≤ fuel) :
    Leaves p (read state fuel s.alone) fun t => read state (fuel' t) (s.followed t) := by
  have hend : ∀ state fuel (fuel' : Closing → Nat) (s : Remaining),
      (∀ c, s.alone.head? = some c → kind c = false) →
        Leaves p (read state fuel s.alone) fun t => read state (fuel' t) (s.followed t) := by
    intro state fuel fuel' s hs
    refine ⟨out state, s, hstop _ _ _ hs, funext fun t => hstop _ _ _ fun c hc => ?_⟩
    rcases s with (_ | ⟨d, rest⟩) | _
    · obtain rfl : ')' = c := by simpa [Closing.text] using hc
      exact hkind
    · exact hs c (by simpa using hc)
    · exact absurd hc (by simp)
  induction fuel generalizing state fuel' s with
  | zero => exact hend _ _ _ _ (by simp [List.eq_nil_of_length_eq_zero (Nat.le_zero.1 hlength)])
  | succ fuel ih =>
    obtain ⟨fuel', rfl, hle⟩ := exists_succ_of_le hfuel
    rcases s with (_ | ⟨c, rest⟩) | _
    · exact hend _ _ (fun t => fuel' t + 1) (.text []) (by simp)
    · by_cases hc : kind c = true
      · have hrest : ((Remaining.text rest).skip f).alone.length ≤ fuel := by
          rw [← Remaining.skip_eq]
          exact Nat.le_trans (Remaining.length_skip_le f rest) (Nat.le_of_succ_le_succ hlength)
        simp only [Remaining.alone_text, Remaining.followed_text, List.cons_append,
          hnext _ _ _ _ hc, Remaining.skip_append]
        rw [Remaining.skip_eq]
        exact ih _ hle _ hrest
      · exact hend _ _ (fun t => fuel' t + 1) (.text (c :: rest)) (by simpa using hc)
    · exact hend _ _ (fun t => fuel' t + 1) .comment (by simp)

/-- Two results, with what is left behind them. -/
abbrev behindBoth (a : α × β) (rest : List Char) : α × β × List Char := (a.1, a.2, rest)

namespace Carries

lemma error (e : PatternError) (y : Closing → Except PatternError ρ) :
    Carries p (.error e) y := nofun

lemma ok (a : α) (s : Remaining) :
    Carries p (.ok (p a s.alone)) fun t => .ok (p a (s.followed t)) := by
  rintro _ ⟨⟩
  exact ⟨_, ⟨a, s, rfl, rfl⟩, rfl⟩

lemma bind {x : Except PatternError ρ} {y : Closing → Except PatternError ρ}
    {k : ρ → Except PatternError σ} {k' : Closing → ρ → Except PatternError σ}
    (h : Carries p x y)
    (hk : ∀ a (s : Remaining), Carries q (k (p a s.alone)) fun t => k' t (p a (s.followed t))) :
    Carries q (x >>= k) fun t => y t >>= k' t := by
  intro r hr
  obtain ⟨_, hx, hr⟩ := exists_of_bind_eq_ok hr
  obtain ⟨_, ⟨a, s, rfl, rfl⟩, rfl⟩ := h _ hx
  exact hk a s r hr

lemma map {x : Except PatternError ρ} {y : Closing → Except PatternError ρ} {g : ρ → σ}
    (h : Carries p x y)
    (hg : ∀ a (s : Remaining), Leaves q (g (p a s.alone)) fun t => g (p a (s.followed t))) :
    Carries q (x.map g) fun t => (y t).map g := by
  intro r hr
  obtain ⟨_, hx, rfl⟩ := exists_of_map_eq_ok hr
  obtain ⟨_, ⟨a, s, rfl, rfl⟩, rfl⟩ := h _ hx
  exact ⟨_, hg a s, rfl⟩

/-- A step that reads nothing. -/
lemma step (x : Except PatternError γ) {k : γ → Except PatternError σ}
    {k' : Closing → γ → Except PatternError σ}
    (hk : ∀ c, Carries q (k c) fun t => k' t c) :
    Carries q (x >>= k) fun t => x >>= k' t := by
  intro r hr
  obtain ⟨c, rfl, hr⟩ := exists_of_bind_eq_ok hr
  exact hk c r hr

lemma stepMap (x : Except PatternError γ) {g : γ → σ} {g' : Closing → γ → σ}
    (hg : ∀ c, Leaves q (g c) fun t => g' t c) :
    Carries q (x.map g) fun t => x.map (g' t) := by
  intro r hr
  obtain ⟨c, rfl, rfl⟩ := exists_of_map_eq_ok hr
  exact ⟨_, hg c, rfl⟩

lemma okSkipped (f : PatternFlags) (a : α) (s : Remaining) :
    Carries p (.ok (p a (PatternAtom.skip f s.alone))) fun t =>
      .ok (p a (PatternAtom.skip f (s.followed t))) := by
  simpa only [Remaining.skip_alone, Remaining.skip_followed] using ok a (s.skip f)

/-- Blanks and comments are left out first. -/
lemma skipped (f : PatternFlags) (s : Remaining) {read : List Char → Except PatternError ρ}
    {read' : Closing → List Char → Except PatternError ρ}
    (h : Carries p (read (s.skip f).alone) fun t => read' t ((s.skip f).followed t)) :
    Carries p (read (PatternAtom.skip f s.alone)) fun t =>
      read' t (PatternAtom.skip f (s.followed t)) := by
  simpa only [Remaining.skip_alone, Remaining.skip_followed] using h

end Carries

end Readings

end JsonPath
