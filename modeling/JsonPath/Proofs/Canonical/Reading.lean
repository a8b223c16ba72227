import JsonPath.Proofs.Canonical.AsRead
import JsonPath.Proofs.Canonical.Spelling
import JsonPath.Proofs.Parser.Reads

/-!
# Reading the pieces of segments

`Parser.Takes p off ps k x` says that the reader `p` reads exactly the pieces `ps`, which stand at
the position `off` and have the tokens `k` behind them.  This file derives such readings for
selectors, for brackets and for the segments of a query, each from readings of its parts; filters
take the reading of their expression as given.  Nothing here is an induction on the query: every
rule belongs to one constructor, and the rules are put together in the theorem on whole queries.

An expression must not be extended by what follows it.  That is measured by `nextBinding`, which
ranks the next token by how tightly it would bind; the ranks are those of `Expr.precedence`.
-/

namespace JsonPath

/-- Where the last token of pieces ends that stand at the position `off`; without a token, where
the one before them ends. -/
def Piece.lastStop (stop off : Nat) : List Piece → Nat
  | [] => stop
  | .blank :: ps => lastStop stop (off + 1) ps
  | .lexeme _ written :: ps =>
    lastStop (off + Text.byteLength written) (off + Text.byteLength written) ps

lemma Piece.lastStop_append (stop off : Nat) (ps qs : List Piece) :
    lastStop stop off (ps ++ qs) = lastStop (lastStop stop off ps) (off + width ps) qs := by
  induction ps generalizing stop off with
  | nil => rfl
  | cons p ps ih =>
    cases p with
    | blank => simp only [List.cons_append, lastStop, ih, width_blank, Nat.add_assoc]
    | lexeme token written =>
      simp only [List.cons_append, lastStop, ih, width_lexeme, Nat.add_assoc]

/-- The pieces of items with commas between them. -/
def Piece.commaSeparated {α : Type} (pieces : α → List Piece) : List α → List Piece
  | [] => []
  | [x] => pieces x
  | x :: rest => pieces x ++ .lexeme .comma [','] :: .blank :: commaSeparated pieces rest

lemma Piece.commaSeparated_cons {α : Type} (pieces : α → List Piece) (x y : α) (rest : List α) :
    commaSeparated pieces (x :: y :: rest) =
      pieces x ++ .lexeme .comma [','] :: .blank :: commaSeparated pieces (y :: rest) := rfl

lemma Segment.unionPieces_eq (ss : List Segment) :
    Segment.unionPieces ss = Piece.commaSeparated Segment.selectorPieces ss := by
  induction ss with
  | nil => rfl
  | cons s rest ih =>
    cases rest with
    | nil => rfl
    | cons t rest => rw [Segment.unionPieces, ih, Piece.commaSeparated_cons]; simp

lemma Expr.argumentPieces_eq (es : List Expr) :
    Expr.argumentPieces es = Piece.commaSeparated Expr.pieces es := by
  induction es with
  | nil => rfl
  | cons e rest ih =>
    cases rest with
    | nil => rfl
    | cons f rest => rw [Expr.argumentPieces, ih, Piece.commaSeparated_cons]; simp

/-- No segment of a list is deeper than the list. -/
lemma Segment.openDepth_le_openDepths {s : Segment} {ss : List Segment} (h : s ∈ ss) :
    s.openDepth ≤ Segment.openDepths ss := by
  induction ss with
  | nil => simp at h
  | cons t rest ih =>
    rw [Segment.openDepths]
    obtain rfl | h := List.mem_cons.1 h
    · exact Nat.le_max_left _ _
    · exact Nat.le_trans (ih h) (Nat.le_max_right _ _)

lemma Expr.openDepth_le_openDepths {e : Expr} {es : List Expr} (h : e ∈ es) :
    e.openDepth ≤ Expr.openDepths es := by
  induction es with
  | nil => simp at h
  | cons f rest ih =>
    rw [Expr.openDepths]
    obtain rfl | h := List.mem_cons.1 h
    · exact Nat.le_max_left _ _
    · exact Nat.le_trans (ih h) (Nat.le_max_right _ _)

lemma Segment.pieces_append (s : Segment) (rest : List Segment) :
    Segment.pieces (s :: rest) = Segment.pieces [s] ++ Segment.pieces rest := by
  cases s <;> simp [Segment.pieces]

/-- A segment has a token. -/
lemma Segment.length_place_pieces (off : Nat) (s : Segment) :
    0 < (Piece.place off (Segment.pieces [s])).length := by
  cases s <;> simp [Segment.pieces, Piece.place]

namespace Parser

/-! ## Readings of pieces -/

/-- The reader reads the pieces `ps`, which stand at the position `off` before the tokens `k`. -/
def Takes {α : Type} (p : Parser α) (off : Nat) (ps : List Piece) (k : List Spanned) (x : α) :
    Prop :=
  ∀ stop, Reads p ⟨Piece.place off ps ++ k, stop⟩ x ⟨k, Piece.lastStop stop off ps⟩

section Takes

variable {α β : Type} {p : Parser α} {f : α → Parser β} {x : α} {y : β} {off : Nat}
variable {ps qs : List Piece} {k : List Spanned} {token : Token} {written : List Char}

lemma Takes.pure (x : α) (off : Nat) (k : List Spanned) : Takes (pure x) off [] k x :=
  fun _ => .pure _ _

lemma Takes.bind (hp : Takes p off ps (Piece.place (off + Piece.width ps) qs ++ k) x)
    (hf : Takes (f x) (off + Piece.width ps) qs k y) : Takes (p >>= f) off (ps ++ qs) k y := by
  intro stop
  rw [Piece.place_append, Piece.lastStop_append, List.append_assoc]
  exact (hp stop).bind (hf _)

/-- One token first, and then the rest. -/
lemma Takes.cons
    (hp : Takes p off [.lexeme token written]
      (Piece.place (off + Text.byteLength written) ps ++ k) x)
    (hf : Takes (f x) (off + Text.byteLength written) ps k y) :
    Takes (p >>= f) off (.lexeme token written :: ps) k y :=
  fun stop => (hp stop).bind (hf _)

/-- A look at what comes next, and then the reading. -/
lemma Takes.after (hp : ∀ stop, Reads p ⟨Piece.place off ps ++ k, stop⟩ x
      ⟨Piece.place off ps ++ k, stop⟩)
    (hf : Takes (f x) off ps k y) : Takes (p >>= f) off ps k y :=
  fun stop => (hp stop).bind (hf stop)

/-- A reading, and then a look at what comes next. -/
lemma Takes.before (hp : Takes p off ps k x)
    (hf : ∀ stop, Reads (f x) ⟨k, stop⟩ y ⟨k, stop⟩) : Takes (p >>= f) off ps k y :=
  fun stop => (hp stop).bind (hf _)

lemma Takes.map (g : α → β) (hp : Takes p off ps k x) : Takes (g <$> p) off ps k (g x) :=
  fun stop => (hp stop).map g

lemma Takes.blank (hp : Takes p (off + 1) ps k x) : Takes p off (.blank :: ps) k x := hp

lemma takes_advance (token : Token) (written : List Char) (off : Nat) (k : List Spanned) :
    Takes advance off [.lexeme token written] k () :=
  fun _ => reads_advance _ _ _

lemma takes_eat (token : Token) (written : List Char) (off : Nat) (k : List Spanned) :
    Takes (eat token) off [.lexeme token written] k true :=
  fun _ => reads_eat _ _ _ rfl

lemma takes_expect (token : Token) (written : List Char) (what : Expectation) (off : Nat)
    (k : List Spanned) : Takes (expect token what) off [.lexeme token written] k () :=
  fun _ => reads_expect _ _ _ rfl

lemma Takes.offset {f : Nat → Parser β} (hf : ∀ position, Takes (f position) off ps k y) :
    Takes (offset >>= f) off ps k y :=
  fun stop => Reads.offset_bind fun position => hf position stop

/-- The next token is known where pieces begin with it. -/
lemma Takes.peek {f : Option Token → Parser β}
    (hf : Takes (f (some token)) off (.lexeme token written :: ps) k y) :
    Takes (peek >>= f) off (.lexeme token written :: ps) k y :=
  Takes.after (fun _ => reads_peek _) hf

lemma Takes.peekSecond {f : Option Token → Parser β}
    (hf : Takes (f ((Piece.place off ps ++ k).tail.head?.map Spanned.token)) off ps k y) :
    Takes (peekSecond >>= f) off ps k y :=
  Takes.after (fun _ => reads_peekSecond _) hf

end Takes

/-! ## What follows -/

/-- How tightly a token binds the expression before it, the loosest first. -/
def binding : Token → Nat
  | .or => 1
  | .and => 2
  | .comparison _ => 3
  | .dot => 4
  | .doubleDot => 4
  | .leftBracket => 4
  | _ => 0

/-- How tightly the next token binds the expression before it. -/
def nextBinding : List Spanned → Nat
  | [] => 0
  | t :: _ => binding t.token

lemma next?_ne_of_nextBinding {token : Token} {k : List Spanned}
    (h : nextBinding k < binding token) (stop : Nat) : (Cursor.mk k stop).next? ≠ some token := by
  cases k with
  | nil => simp [Cursor.next?]
  | cons t k =>
    intro heq
    have ht : t.token = token := by simpa [Cursor.next?] using heq
    rw [nextBinding, ht] at h
    exact Nat.lt_irrefl _ h

/-- The next token ends an item of a list in brackets: a comma or the bracket that closes it. -/
def EndsItem (close : Token) (k : List Spanned) : Prop :=
  ∃ t rest, k = t :: rest ∧ (t.token = .comma ∨ t.token = close)

lemma EndsItem.nextBinding_eq {close : Token} {k : List Spanned} (h : EndsItem close k)
    (hclose : binding close = 0) : nextBinding k = 0 := by
  obtain ⟨t, rest, rfl, ht | ht⟩ := h
  · rw [nextBinding, ht]
    rfl
  · rw [nextBinding, ht, hclose]

lemma EndsItem.next?_ne {close token : Token} {k : List Spanned} (h : EndsItem close k)
    (htoken : token ∉ [Token.comma, close]) (stop : Nat) :
    (Cursor.mk k stop).next? ≠ some token := by
  obtain ⟨t, rest, rfl, ht⟩ := h
  intro heq
  have hself : t.token = token := by simpa [Cursor.next?] using heq
  rw [hself] at ht
  exact htoken (by simpa using ht)

/-! ## Levels and finished filters -/

/-- A finishing step that succeeds and reads no token. -/
def Finishes (finish : Nat → Expr → Parser Unit) : Prop :=
  ∀ position e c, Reads (finish position e) c () c

lemma finishes_pure : Finishes fun _ _ => pure () := fun _ _ c => .pure () c

/-- A check that is not strict reports and goes on. -/
lemma finishes_checkFilter (r : Registry) : Finishes (checkFilter r false) := by
  intro position e c textEnd diagnostics
  exact ⟨diagnostics ++ (r.checkTest e).diagnostics, rfl⟩

lemma reads_enter (limit n position : Nat) (c : Cursor) :
    Reads (enter limit (expressionWithin limit (n + 1)) position) c
      (expression limit (expressionWithin limit n)) c :=
  .pure _ _

/-! ## Selectors -/

lemma takes_optionalInteger {i : Int64} (h : inLimit i) (off : Nat) (k : List Spanned) :
    Takes optionalInteger off [.integer i] k (some i) := by
  refine Takes.peek ?_
  simp only [integer?_ofInt h]
  exact (takes_advance _ _ off k).before fun _ => .pure _ _

lemma takes_optionalInteger_none (off : Nat) {k : List Spanned}
    (hk : ∀ lexeme stop, (Cursor.mk k stop).next? ≠ some (.number lexeme)) :
    Takes optionalInteger off [] k none := by
  intro stop
  refine (reads_peek _).bind ?_
  split
  · rename_i lexeme heq
    exact absurd heq (hk lexeme stop)
  · exact .pure _ _

/-- A part of a slice that may be missing. -/
lemma takes_bound {b : Option Int64} (h : b.all inLimit) (off : Nat) {k : List Spanned}
    (hk : ∀ lexeme stop, (Cursor.mk k stop).next? ≠ some (.number lexeme)) :
    Takes optionalInteger off (Piece.bound b) k b := by
  cases b with
  | none => exact takes_optionalInteger_none off hk
  | some i => exact takes_optionalInteger h off k

lemma takes_index {i : Int64} (h : inLimit i) (off : Nat) {k : List Spanned}
    (hk : EndsItem .rightBracket k) : Takes indexOrSlice off [.integer i] k (.index i) := by
  refine (takes_optionalInteger h off k).before fun stop => ?_
  refine (reads_eat_of_ne (hk.next?_ne (by simp) stop)).bind ?_
  exact .pure _ _

lemma takes_slice {start stop step : Option Int64} (hstart : start.all inLimit)
    (hstop : stop.all inLimit) (hstep : step.all inLimit) (off : Nat) {k : List Spanned}
    (hk : EndsItem .rightBracket k) :
    Takes indexOrSlice off (Segment.slice start stop step).selectorPieces k
      (.slice start stop step) := by
  rw [Segment.selectorPieces]
  refine (takes_bound hstart off fun _ _ => by simp [Piece.place, Cursor.next?]).bind ?_
  refine (takes_eat .colon [':'] _ _).cons ?_
  rw [if_pos rfl]
  cases step with
  | none =>
    refine (takes_bound hstop _ fun _ => hk.next?_ne (by simp)).bind ?_
    refine Takes.after (fun stop => reads_eat_of_ne (hk.next?_ne (by simp) stop)) ?_
    exact .pure _ _ _
  | some i =>
    refine (takes_bound hstop _ fun _ _ => by simp [Piece.step, Piece.place, Cursor.next?]).bind ?_
    refine (takes_eat .colon [':'] _ _).cons ?_
    exact (takes_optionalInteger hstep _ k).before fun _ => .pure _ _

/-- A filter, from its expression one level deeper. -/
lemma takes_filter {finish : Nat → Expr → Parser Unit} (hfinish : Finishes finish)
    {limit n : Nat} {e : Expr} {off : Nat} {k : List Spanned}
    (he : Takes (expression limit (expressionWithin limit n)) (off + Text.byteLength ['?'])
      e.pieces k e.asRead) :
    Takes (filter limit (expressionWithin limit (n + 1)) finish) off
      (Segment.filter e).selectorPieces k (.filter e.asRead) := by
  rw [Segment.selectorPieces]
  refine Takes.offset fun position => ?_
  refine (takes_advance .question ['?'] off _).cons ?_
  refine Takes.after (fun _ => reads_enter limit n position _) ?_
  refine he.before fun stop => ?_
  exact (hfinish position e.asRead _).bind (.pure _ _)

/-- A segment reads as one selector, within any brackets and with any way to finish filters. -/
def ReadsSelector (limit : Nat) (s : Segment) : Prop :=
  ∀ n finish off k, s.openDepth ≤ n → Finishes finish → EndsItem .rightBracket k →
    Takes (selector (filter limit (expressionWithin limit n) finish)) off s.selectorPieces k
      s.asRead

/-- A segment reads in brackets. -/
def ReadsBracketed (limit : Nat) (s : Segment) : Prop :=
  ∀ n finish off k, s.openDepth ≤ n → Finishes finish →
    Takes (bracketed (filter limit (expressionWithin limit n) finish)) off
      (.lexeme .leftBracket ['['] :: (s.selectorPieces ++ [.lexeme .rightBracket [']']])) k
      s.asRead

/-- A segment reads as part of a query. -/
def ReadsSegment (limit : Nat) (s : Segment) : Prop :=
  ∀ n finish off k, s.openDepth ≤ n → Finishes finish →
    Takes (segment? (filter limit (expressionWithin limit n) finish)) off (Segment.pieces [s]) k
      (some s.asRead)

variable {limit : Nat}

lemma readsSelector_key (name : String) : ReadsSelector limit (.key name) := by
  intro n finish off k _ _ _
  refine Takes.peek ?_
  exact (takes_advance _ _ off k).before fun _ => .pure _ _

lemma readsSelector_wildcard : ReadsSelector limit .wildcard := by
  intro n finish off k _ _ _
  refine Takes.peek ?_
  exact (takes_advance _ _ off k).before fun _ => .pure _ _

lemma readsSelector_index {i : Int64} (h : inLimit i) : ReadsSelector limit (.index i) := by
  intro n finish off k _ _ hk
  refine Takes.peek ?_
  exact takes_index h off hk

lemma readsSelector_slice {start stop step : Option Int64} (hstart : start.all inLimit)
    (hstop : stop.all inLimit) (hstep : step.all inLimit) :
    ReadsSelector limit (.slice start stop step) := by
  intro n finish off k _ _ hk
  have h := takes_slice hstart hstop hstep off hk
  cases start with
  | none => exact Takes.peek h
  | some i => exact Takes.peek h

lemma readsSelector_filter {e : Expr}
    (he : ∀ n off k, e.openDepth ≤ n → nextBinding k = 0 →
      Takes (expression limit (expressionWithin limit n)) off e.pieces k e.asRead) :
    ReadsSelector limit (.filter e) := by
  intro n finish off k hn hfinish hk
  obtain ⟨n, rfl⟩ : ∃ m, n = m + 1 := ⟨n - 1, by rw [Segment.openDepth] at hn; omega⟩
  have hdepth : e.openDepth ≤ n := Nat.le_of_succ_le_succ hn
  refine Takes.peek ?_
  exact takes_filter hfinish (he n _ k hdepth (hk.nextBinding_eq rfl))

/-! ## Lists with commas -/

section Commas

variable {α β : Type} {item : Parser β} {pieces : α → List Piece} {result : α → β}
variable {close : Token} {k : List Spanned}

/-- The first item of a list is read, and then the others, each after a comma. -/
lemma readsMany_commaSeparated (hk : EndsItem close k) (xs : List α) (x : α)
    (hitem : ∀ y ∈ x :: xs, ∀ off k, EndsItem close k → Takes item off (pieces y) k (result y))
    (off stop : Nat) :
    ∃ c, Reads item ⟨Piece.place off (Piece.commaSeparated pieces (x :: xs)) ++ k, stop⟩
        (result x) c ∧
      c.tokens.length ≤
        (Piece.place off (Piece.commaSeparated pieces (x :: xs)) ++ k).length ∧
      ReadsMany (following .comma item) c (xs.map result)
        ⟨k, Piece.lastStop stop off (Piece.commaSeparated pieces (x :: xs))⟩ := by
  induction xs generalizing x off stop with
  | nil =>
    refine ⟨_, hitem x (by simp) off k hk stop, ?_, .nil _⟩
    simp
  | cons y ys ih =>
    have hx := hitem x (by simp) off
    have hys : ∀ z ∈ y :: ys, ∀ off k, EndsItem close k → Takes item off (pieces z) k (result z) :=
      fun z hz => hitem z (List.mem_cons_of_mem x hz)
    rw [Piece.commaSeparated_cons, Piece.place_append, Piece.lastStop_append, List.append_assoc]
    refine ⟨_, hx _ ⟨_, _, rfl, .inl rfl⟩ stop, ?_, ?_⟩
    · rw [@List.length_append _ (Piece.place off (pieces x))]
      exact Nat.le_add_left _ _
    · obtain ⟨c, hy, hlength, hrest⟩ := ih y hys (off + Piece.width (pieces x) + 1 + 1)
        (off + Piece.width (pieces x) + 1)
      refine .cons (reads_following rfl hy) ?_ hrest
      exact Nat.lt_succ_of_le hlength

lemma takes_commaSeparated (hk : EndsItem close k)
    (hend : ∀ stop, (Cursor.mk k stop).next? ≠ some .comma) (xs : List α) (x : α)
    (hitem : ∀ y ∈ x :: xs, ∀ off k, EndsItem close k → Takes item off (pieces y) k (result y))
    (off : Nat) :
    Takes (separated .comma item) off (Piece.commaSeparated pieces (x :: xs)) k
      (result x, xs.map result) := by
  intro stop
  obtain ⟨c, hx, _, hxs⟩ := readsMany_commaSeparated hk xs x hitem off stop
  exact reads_separated hx hxs (hend _)

end Commas

/-! ## Brackets -/

/-- Selectors between brackets, from readings of each. -/
lemma takes_selectors {s : Segment} {rest : List Segment} {n off : Nat} {k : List Spanned}
    {finish : Nat → Expr → Parser Unit} (hfinish : Finishes finish)
    (h : ∀ t ∈ s :: rest, ReadsSelector limit t) (hn : ∀ t ∈ s :: rest, t.openDepth ≤ n) :
    Takes (bracketed (filter limit (expressionWithin limit n) finish)) off
      (.lexeme .leftBracket ['['] ::
        (Segment.unionPieces (s :: rest) ++ [.lexeme .rightBracket [']']])) k
      (match rest with
        | [] => s.asRead
        | rest => .union (Segment.allAsRead (s :: rest))) := by
  have hitem : ∀ t ∈ s :: rest, ∀ off k, EndsItem .rightBracket k →
      Takes (selector (filter limit (expressionWithin limit n) finish)) off t.selectorPieces k
        t.asRead :=
    fun t ht off k => h t ht n finish off k (hn t ht) hfinish
  rw [Segment.unionPieces_eq]
  refine (takes_advance .leftBracket ['['] off _).cons ?_
  refine (takes_commaSeparated ⟨_, _, rfl, .inr rfl⟩ ?_ rest s hitem _).bind ?_
  · intro stop
    simp [Cursor.next?, Piece.place]
  · refine (takes_expect .rightBracket [']'] _ _ k).before fun _ => ?_
    cases rest with
    | nil => exact .pure _ _
    | cons t rest =>
      show Reads _ _ (Segment.union (Segment.allAsRead (s :: t :: rest))) _
      rw [Segment.allAsRead_eq_map]
      exact .pure _ _

lemma ReadsSelector.readsBracketed {s : Segment} (h : ReadsSelector limit s) :
    ReadsBracketed limit s := by
  intro n finish off k hn hfinish
  exact @takes_selectors _ s [] _ _ _ _ hfinish (by simpa using h) (by simpa using hn)

lemma readsBracketed_union {s t : Segment} {rest : List Segment}
    (h : ∀ u ∈ s :: t :: rest, ReadsSelector limit u) :
    ReadsBracketed limit (.union (s :: t :: rest)) := by
  intro n finish off k hn hfinish
  have hdepth : ∀ u ∈ s :: t :: rest, u.openDepth ≤ n :=
    fun u hu => Nat.le_trans (Segment.openDepth_le_openDepths hu) hn
  rw [Segment.selectorPieces]
  exact takes_selectors hfinish h hdepth

/-! ## Segments -/

lemma ReadsBracketed.readsSegment {s : Segment} (h : ReadsBracketed limit s)
    (hs : s.isDescendant = false) : ReadsSegment limit s := by
  intro n finish off k hn hfinish
  rw [Segment.pieces_cons hs]
  refine Takes.peek ?_
  exact (h n finish off k hn hfinish).map some

lemma ReadsBracketed.readsSegment_descendant {s : Segment} (h : ReadsBracketed limit s) :
    ReadsSegment limit (.descendant s) := by
  intro n finish off k hn hfinish stop
  have hs := h n finish (off + Text.byteLength ['.', '.']) k hn hfinish
  -- The bracket has to follow without a blank, which only the end of the two dots tells.
  refine (reads_peek _).bind ?_
  refine (reads_advance _ _ stop).bind ?_
  refine (reads_peek _).bind ?_
  refine (reads_isAdjacent _ _ _ rfl).bind ?_
  rw [if_pos (by simp [Cursor.next?, Piece.place])]
  exact (hs _).bind (.pure _ _)

/-- The segments of a query, from readings of each.  No further segment may follow. -/
lemma readsMany_segments {n : Nat} {finish : Nat → Expr → Parser Unit}
    (hfinish : Finishes finish) (k : List Spanned) (ss : List Segment)
    (h : ∀ s ∈ ss, ReadsSegment limit s) (hn : Segment.openDepths ss ≤ n) (off stop : Nat) :
    ReadsMany (segment? (filter limit (expressionWithin limit n) finish))
      ⟨Piece.place off (Segment.pieces ss) ++ k, stop⟩ (Segment.allAsRead ss)
      ⟨k, Piece.lastStop stop off (Segment.pieces ss)⟩ := by
  induction ss generalizing off stop with
  | nil => exact .nil _
  | cons s rest ih =>
    have hs : s.openDepth ≤ n := Nat.le_trans (Nat.le_max_left _ _) hn
    have hrest : Segment.openDepths rest ≤ n := Nat.le_trans (Nat.le_max_right _ _) hn
    have hlength := Segment.length_place_pieces off s
    rw [Segment.pieces_append, Piece.place_append, Piece.lastStop_append, List.append_assoc]
    refine .cons (h s (by simp) n finish off _ hs hfinish stop) ?_ (ih ?_ hrest _ _)
    · simp only [List.length_append]
      omega
    · exact fun t ht => h t (List.mem_cons_of_mem s ht)

lemma reads_segment?_none {filter : Parser Segment} {k : List Spanned} (hk : nextBinding k < 4)
    (stop : Nat) : Reads (segment? filter) ⟨k, stop⟩ none ⟨k, stop⟩ := by
  refine (reads_peek _).bind ?_
  split
  · rename_i heq
    exact absurd heq (next?_ne_of_nextBinding hk stop)
  · rename_i heq
    exact absurd heq (next?_ne_of_nextBinding hk stop)
  · rename_i heq
    exact absurd heq (next?_ne_of_nextBinding hk stop)
  · exact .pure _ _

theorem takes_segments {n : Nat} {finish : Nat → Expr → Parser Unit} (hfinish : Finishes finish)
    {k : List Spanned} (hk : nextBinding k < 4) {ss : List Segment}
    (h : ∀ s ∈ ss, ReadsSegment limit s) (hn : Segment.openDepths ss ≤ n) (off : Nat) :
    Takes (segments (filter limit (expressionWithin limit n) finish)) off (Segment.pieces ss) k
      (Segment.allAsRead ss) :=
  fun stop =>
    (readsMany_segments hfinish k ss h hn off stop).many (reads_segment?_none hk _)

end Parser

end JsonPath
