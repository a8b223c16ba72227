import JsonPath.Query.Parser
import Mathlib.Tactic.Lemma

/-!
# Successful readings

`Parser.Reads p c x c'` says that the reader `p`, started at the cursor `c`, succeeds with `x` and
leaves off at the cursor `c'`.  A cursor is the part of the state that decides what is read: the
tokens that are left and the end of the last token.  What is reported on the way does not matter
here, and neither does the end of the text.

There is one rule for each way to put readers together, so that a reading is derived along the
text of a reader and the readers need not be unfolded again.  Repetition needs that each step
consumes a token, since the number of steps is bounded by the number of tokens
(`ReadsMany`); operators of equal rank are combined from the left (`ReadsChain`).
-/

namespace JsonPath.Parser

/-- Where a reader stands: the tokens that are left, and the end of the last token read. -/
structure Cursor where
  tokens : List Spanned
  stop : Nat

/-- The next token. -/
def Cursor.next? (c : Cursor) : Option Token := c.tokens.head?.map Spanned.token

/-- The reader succeeds with a value and leaves off at another cursor, whatever has been reported
before. -/
def Reads {α : Type} (p : Parser α) (c : Cursor) (x : α) (c' : Cursor) : Prop :=
  ∀ (textEnd : Nat) (diagnostics : List Diagnostic), ∃ diagnostics',
    p ⟨c.tokens, c.stop, textEnd, diagnostics⟩ =
      .ok x ⟨c'.tokens, c'.stop, textEnd, diagnostics'⟩

variable {α β : Type} {c c' c'' : Cursor}

/-! ## Sequences -/

lemma Reads.pure (x : α) (c : Cursor) : Reads (pure x) c x c :=
  fun _ diagnostics => ⟨diagnostics, rfl⟩

lemma Reads.bind {p : Parser α} {f : α → Parser β} {x : α} {y : β} (hp : Reads p c x c')
    (hf : Reads (f x) c' y c'') : Reads (p >>= f) c y c'' := by
  intro textEnd diagnostics
  obtain ⟨diagnostics', hp⟩ := hp textEnd diagnostics
  obtain ⟨diagnostics'', hf⟩ := hf textEnd diagnostics'
  refine ⟨diagnostics'', ?_⟩
  show EStateM.bind p f _ = _
  unfold EStateM.bind
  rw [hp]
  exact hf

lemma Reads.map {p : Parser α} {x : α} (f : α → β) (hp : Reads p c x c') :
    Reads (f <$> p) c (f x) c' := by
  intro textEnd diagnostics
  obtain ⟨diagnostics', hp⟩ := hp textEnd diagnostics
  refine ⟨diagnostics', ?_⟩
  show EStateM.map f p _ = _
  unfold EStateM.map
  rw [hp]

/-! ## Single tokens -/

section Tokens

variable (t : Spanned) (ts : List Spanned) (stop : Nat)

lemma reads_peek (c : Cursor) : Reads peek c c.next? c := fun _ diagnostics => ⟨diagnostics, rfl⟩

lemma reads_peekSecond (c : Cursor) :
    Reads peekSecond c (c.tokens.tail.head?.map Spanned.token) c :=
  fun _ diagnostics => ⟨diagnostics, rfl⟩

/-- What is read does not depend on the position. -/
lemma Reads.offset_bind {f : Nat → Parser β} {y : β}
    (hf : ∀ position, Reads (f position) c y c') : Reads (offset >>= f) c y c' :=
  fun textEnd diagnostics => hf _ textEnd diagnostics

lemma reads_isAdjacent (h : t.start = stop) :
    Reads isAdjacent ⟨t :: ts, stop⟩ true ⟨t :: ts, stop⟩ := by
  intro textEnd diagnostics
  refine ⟨diagnostics, ?_⟩
  have hbeq : (t.start == stop) = true := by simp [h]
  show EStateM.Result.ok (t.start == stop) _ = _
  rw [hbeq]

lemma reads_advance : Reads advance ⟨t :: ts, stop⟩ () ⟨ts, t.stop⟩ :=
  fun _ diagnostics => ⟨diagnostics, rfl⟩

lemma reads_eat {token : Token} (h : t.token = token) :
    Reads (eat token) ⟨t :: ts, stop⟩ true ⟨ts, t.stop⟩ := by
  refine (reads_peek _).bind ?_
  rw [if_pos (by simp [Cursor.next?, h])]
  exact (reads_advance t ts stop).bind (.pure _ _)

lemma reads_eat_of_ne {token : Token} (h : c.next? ≠ some token) :
    Reads (eat token) c false c := by
  refine (reads_peek c).bind ?_
  rw [if_neg h]
  exact .pure _ _

lemma reads_expect {token : Token} {what : Expectation} (h : t.token = token) :
    Reads (expect token what) ⟨t :: ts, stop⟩ () ⟨ts, t.stop⟩ := by
  refine (reads_eat t ts stop h).bind ?_
  rw [if_pos rfl]
  exact .pure _ _

end Tokens

/-! ## Repetition -/

/-- A step yields the values of a list one after the other, and consumes a token each time. -/
inductive ReadsMany (step : Parser (Option α)) : Cursor → List α → Cursor → Prop
  | nil (c : Cursor) : ReadsMany step c [] c
  | cons {c c' c'' : Cursor} {x : α} {xs : List α} (hstep : Reads step c (some x) c')
      (hlength : c'.tokens.length < c.tokens.length) (hrest : ReadsMany step c' xs c'') :
      ReadsMany step c (x :: xs) c''

lemma ReadsMany.snoc {step : Parser (Option α)} {x : α} {xs : List α}
    (h : ReadsMany step c xs c') (hstep : Reads step c' (some x) c'')
    (hlength : c''.tokens.length < c'.tokens.length) : ReadsMany step c (xs ++ [x]) c'' := by
  induction h with
  | nil => exact .cons hstep hlength (.nil _)
  | cons hfirst hshorter _ ih => exact .cons hfirst hshorter (ih hstep hlength)

/-- Enough fuel for the tokens that are left is enough for all steps. -/
lemma ReadsMany.repeatUpTo {step : Parser (Option α)} {xs : List α} (h : ReadsMany step c xs c')
    (hend : Reads step c' none c') {fuel : Nat} (hfuel : c.tokens.length ≤ fuel) :
    Reads (repeatUpTo step fuel) c xs c' := by
  induction h generalizing fuel with
  | nil c =>
    cases fuel with
    | zero => exact .pure _ _
    | succ fuel => exact hend.bind (.pure _ _)
  | cons hstep hlength _ ih =>
    obtain ⟨fuel, rfl⟩ : ∃ n, fuel = n + 1 := ⟨fuel - 1, by omega⟩
    exact hstep.bind ((ih hend (by omega)).bind (.pure _ _))

lemma ReadsMany.many {step : Parser (Option α)} {xs : List α} (h : ReadsMany step c xs c')
    (hend : Reads step c' none c') : Reads (many step) c xs c' :=
  fun textEnd diagnostics => h.repeatUpTo hend (Nat.le_refl _) textEnd diagnostics

/-! ## Lists and chains -/

/-- A further item, if a separator comes next. -/
def following (separator : Token) (item : Parser α) : Parser (Option α) := do
  if ← eat separator then some <$> item else return none

lemma reads_following {separator : Token} {item : Parser α} {x : α} {t : Spanned}
    {ts : List Spanned} {stop : Nat} (h : t.token = separator)
    (hitem : Reads item ⟨ts, t.stop⟩ x c') :
    Reads (following separator item) ⟨t :: ts, stop⟩ (some x) c' := by
  refine (reads_eat t ts stop h).bind ?_
  rw [if_pos rfl]
  exact hitem.map some

lemma reads_following_none {separator : Token} (item : Parser α)
    (h : c.next? ≠ some separator) : Reads (following separator item) c none c := by
  refine (reads_eat_of_ne h).bind ?_
  rw [if_neg (by simp)]
  exact .pure _ _

lemma reads_separated {separator : Token} {item : Parser α} {x : α} {xs : List α}
    (hfirst : Reads item c x c') (hothers : ReadsMany (following separator item) c' xs c'')
    (hend : c''.next? ≠ some separator) :
    Reads (separated separator item) c (x, xs) c'' :=
  hfirst.bind ((hothers.many (reads_following_none item hend)).bind (.pure _ _))

/-- A chain of items with an operator between them, combined from the left to one expression. -/
def ReadsChain (operator : Token) (combine : Expr → Expr → Expr) (item : Parser Expr) (c : Cursor)
    (e : Expr) (c' : Cursor) : Prop :=
  ∃ first others middle, Reads item c first middle ∧
    ReadsMany (following operator item) middle others c' ∧ others.foldl combine first = e

section Chain

variable {operator : Token} {combine : Expr → Expr → Expr} {item : Parser Expr} {e l r : Expr}

lemma ReadsChain.single (h : Reads item c e c') : ReadsChain operator combine item c e c' :=
  ⟨e, [], c', h, .nil _, rfl⟩

/-- One more item at the end of a chain. -/
lemma ReadsChain.snoc {t : Spanned} {ts : List Spanned} {stop : Nat}
    (h : ReadsChain operator combine item c l ⟨t :: ts, stop⟩) (ht : t.token = operator)
    (hitem : Reads item ⟨ts, t.stop⟩ r c') (hlength : c'.tokens.length ≤ ts.length) :
    ReadsChain operator combine item c (combine l r) c' := by
  obtain ⟨first, others, middle, hfirst, hothers, rfl⟩ := h
  refine ⟨first, others ++ [r], middle, hfirst, ?_, by simp⟩
  exact hothers.snoc (reads_following ht hitem) (Nat.lt_succ_of_le hlength)

/-- A chain is read to its end if no further operator comes next. -/
theorem ReadsChain.reads (h : ReadsChain operator combine item c e c')
    (hend : c'.next? ≠ some operator) : Reads (chained operator combine item) c e c' := by
  obtain ⟨first, others, middle, hfirst, hothers, rfl⟩ := h
  exact (reads_separated hfirst hothers hend).bind (.pure _ _)

end Chain

end JsonPath.Parser
