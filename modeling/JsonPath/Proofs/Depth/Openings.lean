import JsonPath.Query.Token
import Mathlib.Tactic.Lemma

/-!
# What is open between the tokens of a text

Brackets and parentheses are opened and closed by tokens of their own.  A filter is opened by `?`
and has no closing token: it ends at the comma or the bracket behind it.  `Opening.behind` says what
a token opens and closes, from the left to the right and without regard to what is read there.

Filters, parentheses and calls count as levels, and `Opening.deepest` is the greatest number of
levels that are open at once.  Whether a text stays within a number of levels is then followed
token by token: `Passes` goes over tokens that do, and `Exceeds` finds the first token that does
not.
-/

namespace JsonPath

/-- What tokens open. -/
inductive Opening where
  | bracket
  | filter
  /-- Parentheses, or the arguments of a call. -/
  | paren
  deriving DecidableEq

namespace Opening

/-- Ends what was opened last, if it is of that kind. -/
def close (kind : Opening) : List Opening → List Opening
  | [] => []
  | o :: opened => if o = kind then opened else o :: opened

/-- What is open behind a token, where `opened` is open before it; what was opened last comes
first. -/
def behind (opened : List Opening) : Token → List Opening
  | .leftBracket => .bracket :: opened
  | .question => .filter :: opened
  | .leftParen => .paren :: opened
  | .rightParen => close .paren opened
  | .comma => close .filter opened
  | .rightBracket => close .bracket (close .filter opened)
  | _ => opened

/-- How many filters, parentheses and calls are open. -/
def levels (opened : List Opening) : Nat := opened.countP (· ≠ .bracket)

/-- The greatest number of levels that are open at once, before the tokens, between them and behind
them. -/
def deepest (opened : List Opening) : List Token → Nat
  | [] => levels opened
  | t :: ts => max (levels opened) (deepest (behind opened t) ts)

/-! ## Levels -/

@[simp] lemma levels_bracket (opened : List Opening) :
    levels (.bracket :: opened) = levels opened := by simp [levels]

@[simp] lemma levels_filter (opened : List Opening) :
    levels (.filter :: opened) = levels opened + 1 := by simp [levels]

@[simp] lemma levels_paren (opened : List Opening) :
    levels (.paren :: opened) = levels opened + 1 := by simp [levels]

@[simp] lemma close_self (kind : Opening) (opened : List Opening) :
    close kind (kind :: opened) = opened := if_pos rfl

lemma levels_close_le (kind : Opening) (opened : List Opening) :
    levels (close kind opened) ≤ levels opened := by
  unfold close
  split
  · exact Nat.le_refl _
  · split
    · exact (List.sublist_cons_self _ _).countP_le
    · exact Nat.le_refl _

lemma levels_comma_le (opened : List Opening) :
    levels (behind opened .comma) ≤ levels opened := levels_close_le _ _

lemma levels_rightParen_le (opened : List Opening) :
    levels (behind opened .rightParen) ≤ levels opened := levels_close_le _ _

lemma levels_rightBracket_le (opened : List Opening) :
    levels (behind opened .rightBracket) ≤ levels opened :=
  Nat.le_trans (levels_close_le _ _) (levels_close_le _ _)

/-- Only a filter or a parenthesis opens a level. -/
lemma levels_behind_le {t : Token} (hfilter : t ≠ .question) (hparen : t ≠ .leftParen)
    (opened : List Opening) : levels (behind opened t) ≤ levels opened := by
  cases t with
  | leftBracket => exact Nat.le_of_eq (levels_bracket opened)
  | question => exact absurd rfl hfilter
  | leftParen => exact absurd rfl hparen
  | rightParen => exact levels_rightParen_le opened
  | comma => exact levels_comma_le opened
  | rightBracket => exact levels_rightBracket_le opened
  | _ => exact Nat.le_refl _

/-- A token opens one level at most. -/
lemma levels_behind_le_succ (opened : List Opening) (t : Token) :
    levels (behind opened t) ≤ levels opened + 1 := by
  by_cases hfilter : t = .question
  · rw [hfilter]
    exact Nat.le_of_eq (levels_filter opened)
  by_cases hparen : t = .leftParen
  · rw [hparen]
    exact Nat.le_of_eq (levels_paren opened)
  exact Nat.le_succ_of_le (levels_behind_le hfilter hparen opened)

lemma levels_le_deepest (opened : List Opening) (ts : List Token) :
    levels opened ≤ deepest opened ts := by
  cases ts with
  | nil => exact Nat.le_refl _
  | cons t ts => exact Nat.le_max_left _ _

end Opening

open Opening

variable {d : Nat} {opened opened' opened'' : List Opening} {ts ts' ts'' : List Spanned}

/-! ## Within a number of levels -/

/-- From tokens before which `opened` is open one comes to tokens before which `opened'` is open,
and `d` levels at most are open on the way. -/
inductive Passes (d : Nat) : List Opening → List Spanned → List Opening → List Spanned → Prop
  | refl {opened : List Opening} {ts : List Spanned} (h : levels opened ≤ d) :
      Passes d opened ts opened ts
  | step {opened opened' : List Opening} {t : Spanned} {ts ts' : List Spanned}
      (h : levels opened ≤ d) (hrest : Passes d (behind opened t.token) ts opened' ts') :
      Passes d opened (t :: ts) opened' ts'

/-- The token `t` is the first one behind which more than `d` levels are open. -/
inductive Exceeds (d : Nat) (t : Spanned) : List Opening → List Spanned → Prop
  | here {opened : List Opening} {ts : List Spanned} (h : levels opened ≤ d)
      (hmore : d < levels (behind opened t.token)) : Exceeds d t opened (t :: ts)
  | later {opened : List Opening} {u : Spanned} {ts : List Spanned} (h : levels opened ≤ d)
      (hrest : Exceeds d t (behind opened u.token) ts) : Exceeds d t opened (u :: ts)

/-- Passes over one token. -/
lemma Passes.single {t : Spanned} (h : levels opened ≤ d)
    (hbehind : levels (behind opened t.token) ≤ d) :
    Passes d opened (t :: ts) (behind opened t.token) ts :=
  .step h (.refl hbehind)

lemma Passes.trans (h : Passes d opened ts opened' ts')
    (h' : Passes d opened' ts' opened'' ts'') : Passes d opened ts opened'' ts'' := by
  induction h with
  | refl => exact h'
  | step hlevels _ ih => exact .step hlevels (ih h')

lemma Passes.exceeds {t : Spanned} (h : Passes d opened ts opened' ts')
    (h' : Exceeds d t opened' ts') : Exceeds d t opened ts := by
  induction h with
  | refl => exact h'
  | step hlevels _ ih => exact .later hlevels (ih h')

lemma Passes.levels_le (h : Passes d opened ts opened' ts') : levels opened' ≤ d := by
  induction h with
  | refl h => exact h
  | step _ _ ih => exact ih

/-- All tokens are passed over within the levels. -/
theorem Passes.deepest_le (h : Passes d opened ts opened' []) :
    deepest opened (ts.map Spanned.token) ≤ d := by
  generalize hnil : ([] : List Spanned) = rest at h
  induction h with
  | refl h =>
    subst hnil
    exact h
  | step hlevels _ ih => exact Nat.max_le.2 ⟨hlevels, ih hnil⟩

/-- The first token beyond `d` levels opens the next level, and the tokens before it stay within the
levels. -/
lemma Exceeds.exists_split {t : Spanned} (h : Exceeds d t opened ts) :
    ∃ left right, ts = left ++ t :: right ∧ (t.token = .question ∨ t.token = .leftParen) ∧
      deepest opened (left.map Spanned.token) ≤ d ∧
      levels (((left ++ [t]).map Spanned.token).foldl behind opened) = d + 1 := by
  induction h with
  | @here opened ts h hmore =>
    refine ⟨[], ts, rfl, ?_, h, ?_⟩
    · by_cases hfilter : t.token = .question
      · exact .inl hfilter
      by_cases hparen : t.token = .leftParen
      · exact .inr hparen
      have hle := levels_behind_le hfilter hparen opened
      exact absurd hmore (Nat.not_lt.2 (Nat.le_trans hle h))
    · have hsucc := levels_behind_le_succ opened t.token
      exact Nat.le_antisymm (Nat.le_trans hsucc (Nat.succ_le_succ h)) hmore
  | @later opened u ts h _ ih =>
    obtain ⟨left, right, rfl, hopens, hleft, hlevels⟩ := ih
    exact ⟨u :: left, right, rfl, hopens, Nat.max_le.2 ⟨h, hleft⟩, hlevels⟩

/-- Where a token goes beyond `d` levels, the text does not stay within them. -/
theorem Exceeds.lt_deepest {t : Spanned} (h : Exceeds d t opened ts) :
    d < deepest opened (ts.map Spanned.token) := by
  induction h with
  | here _ hmore =>
    exact Nat.lt_of_lt_of_le hmore (Nat.le_trans (levels_le_deepest _ _) (Nat.le_max_right _ _))
  | later _ _ ih => exact Nat.lt_of_lt_of_le ih (Nat.le_max_right _ _)

end JsonPath
