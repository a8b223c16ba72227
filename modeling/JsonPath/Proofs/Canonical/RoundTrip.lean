import JsonPath.Proofs.Canonical.Operands
import JsonPath.Proofs.Canonical.Scanning

/-!
# Reading back the canonical text

`Query.parse_text`: the canonical text of a writable query is read as that query, under any
registry, as long as the configuration is not strict and allows the depth of the text.

The proof has two halves.  The scanner turns the text into the tokens of its pieces
(`Query.scanAll_text`), and the parser reads those tokens as the query, up to what its numbers are
read as (`Query.asRead`).  The second half is a mutual induction over segments and expressions,
which only puts the rules for single constructors together.  To find the query itself, its numbers
have to be read back: an integer always is, and a binary64 number is written in the fewest digits
that stand for it, but its reader rounds more than once and can miss it.
-/

namespace JsonPath

namespace Parser

/-- What the parser makes of a writable segment, in each place where it can stand. -/
structure ReadsBackSegment (limit : Nat) (s : Segment) : Prop where
  selector : s.isSelector → ReadsSelector limit s
  bracketed : s.isDescendant = false → ReadsBracketed limit s
  segment : ReadsSegment limit s

/-- What the parser makes of a writable expression, in each place where it can stand. -/
structure ReadsBackExpr (limit : Nat) (e : Expr) : Prop where
  operand : e.isWritable .operand → ReadsOperand limit e
  bare : e.isNegatedBare → ReadsOperand limit e
  test : e.isWritable .test → ReadsTest limit e
  argument : ReadsArgument limit e

variable {limit : Nat}

lemma ReadsSelector.readsBack {s : Segment} (h : ReadsSelector limit s)
    (hs : s.isDescendant = false) : ReadsBackSegment limit s where
  selector _ := h
  bracketed _ := h.readsBracketed
  segment := h.readsBracketed.readsSegment hs

/-- A query or a call reads in every place. -/
lemma ReadsOperand.readsBack {e : Expr} (h : ReadsOperand limit e) (hbare : e.isNegatedBare) :
    ReadsBackExpr limit e where
  operand _ := h
  bare _ := h
  test _ := h.readsTest hbare
  argument := (h.readsTest hbare).readsArgument

/-- An expression with an operator reads as a test, alone and among arguments. -/
lemma ReadsTest.readsBack {e : Expr} (h : ReadsTest limit e)
    (hoperand : e.isWritable .operand = false) (hbare : e.isNegatedBare = false) :
    ReadsBackExpr limit e where
  operand he := by simp [hoperand] at he
  bare he := by simp [hbare] at he
  test _ := h
  argument := h.readsArgument

lemma readsBackExpr_literal {value : Json} (hscalar : value.isScalar) :
    ReadsBackExpr limit (.literal value) where
  operand _ := readsOperand_literal hscalar
  bare he := by simp [Expr.isNegatedBare] at he
  test he := by simp [Expr.isWritable] at he
  argument := readsArgument_literal hscalar

end Parser

open JsonPath.Parser

/-- The last piece of a segment is its bracket. -/
lemma Segment.exists_pieces_eq (s : Segment) :
    ∃ ps, Segment.pieces [s] = ps ++ [.lexeme .rightBracket [']']] := by
  cases hs : s.isDescendant with
  | false =>
    refine ⟨.lexeme .leftBracket ['['] :: s.selectorPieces, ?_⟩
    rw [Segment.pieces_cons hs, Segment.pieces]
    rfl
  | true =>
    cases s with
    | descendant s =>
      exact ⟨.lexeme .doubleDot ['.', '.'] :: .lexeme .leftBracket ['['] :: s.selectorPieces, rfl⟩
    | _ => simp [Segment.isDescendant] at hs

/-! ## The induction -/

mutual

lemma Segment.readsBack (limit : Nat) (s : Segment) (h : s.isWritable) :
    ReadsBackSegment limit s := by
  cases s with
  | key name => exact (readsSelector_key name).readsBack rfl
  | index i => exact (readsSelector_index h).readsBack rfl
  | slice start stop step =>
    simp only [Segment.isWritable, Bool.and_eq_true] at h
    exact (readsSelector_slice h.1.1 h.1.2 h.2).readsBack rfl
  | wildcard => exact readsSelector_wildcard.readsBack rfl
  | union selectors =>
    simp only [Segment.isWritable, Bool.and_eq_true, decide_eq_true_eq] at h
    obtain ⟨⟨hlength, hselectors⟩, hwritable⟩ := h
    have hall := Segment.allReadBack limit selectors hwritable
    have hunion : ReadsBracketed limit (.union selectors) := by
      match selectors, hlength with
      | s :: t :: rest, _ =>
        exact readsBracketed_union fun u hu =>
          (hall u hu).selector (List.all_eq_true.1 hselectors u hu)
    exact ⟨fun hs => by simp [Segment.isSelector] at hs, fun _ => hunion,
      hunion.readsSegment rfl⟩
  | descendant selector =>
    simp only [Segment.isWritable, Bool.and_eq_true, Bool.not_eq_true'] at h
    have hselector := (Segment.readsBack limit selector h.2).bracketed h.1
    exact ⟨fun hs => by simp [Segment.isSelector] at hs,
      fun hs => by simp [Segment.isDescendant] at hs, hselector.readsSegment_descendant⟩
  | filter test =>
    have htest := (Expr.readsBack limit test (Expr.isWritable_argument h)).test h
    have hfilter : ReadsSelector limit (.filter test) :=
      readsSelector_filter fun n off k hdepth hk => htest.expression hdepth hk
    exact hfilter.readsBack rfl

lemma Segment.allReadBack (limit : Nat) (ss : List Segment) (h : Segment.allWritable ss) :
    ∀ s ∈ ss, ReadsBackSegment limit s := by
  match ss with
  | [] => simp
  | s :: rest =>
    simp only [Segment.allWritable, Bool.and_eq_true] at h
    rw [List.forall_mem_cons]
    exact ⟨Segment.readsBack limit s h.1, Segment.allReadBack limit rest h.2⟩

lemma Expr.readsBack (limit : Nat) (e : Expr) (h : e.isWritable .argument) :
    ReadsBackExpr limit e := by
  cases e with
  | literal value => exact readsBackExpr_literal (by simpa [Expr.isWritable] using h)
  | query anchor segments =>
    have hwritable : Segment.allWritable segments := by simpa [Expr.isWritable] using h
    have hall := Segment.allReadBack limit segments hwritable
    exact (readsOperand_query fun s hs => (hall s hs).segment).readsBack rfl
  | not e =>
    have htest : e.isWritable .test := by simpa [Expr.isWritable] using h
    have he := Expr.readsBack limit e (Expr.isWritable_argument htest)
    cases hbare : e.isNegatedBare with
    | true => exact (readsTest_not_bare (he.bare hbare) hbare).readsBack rfl rfl
    | false => exact (readsTest_not (he.test htest) hbare).readsBack rfl rfl
  | and l r =>
    have hw : l.isWritable .test ∧ r.isWritable .test := by simpa [Expr.isWritable] using h
    have hl := (Expr.readsBack limit l (Expr.isWritable_argument hw.1)).test hw.1
    have hr := (Expr.readsBack limit r (Expr.isWritable_argument hw.2)).test hw.2
    exact (readsTest_and hl hr).readsBack rfl rfl
  | or l r =>
    have hw : l.isWritable .test ∧ r.isWritable .test := by simpa [Expr.isWritable] using h
    have hl := (Expr.readsBack limit l (Expr.isWritable_argument hw.1)).test hw.1
    have hr := (Expr.readsBack limit r (Expr.isWritable_argument hw.2)).test hw.2
    exact (readsTest_or hl hr).readsBack rfl rfl
  | compare op l r =>
    have hw : l.isWritable .operand ∧ r.isWritable .operand := by simpa [Expr.isWritable] using h
    have hl := (Expr.readsBack limit l (Expr.isWritable_argument hw.1)).operand hw.1
    have hr := (Expr.readsBack limit r (Expr.isWritable_argument hw.2)).operand hw.2
    exact (readsTest_compare hl hr hw.1 hw.2).readsBack rfl rfl
  | call function arguments =>
    simp only [Expr.isWritable, Bool.and_eq_true] at h
    have hall := Expr.allReadBack limit arguments h.2
    exact (readsOperand_call h.1 fun e he => (hall e he).argument).readsBack rfl

lemma Expr.allReadBack (limit : Nat) (es : List Expr) (h : Expr.allWritable es) :
    ∀ e ∈ es, ReadsBackExpr limit e := by
  match es with
  | [] => simp
  | e :: rest =>
    simp only [Expr.allWritable, Bool.and_eq_true] at h
    rw [List.forall_mem_cons]
    exact ⟨Expr.readsBack limit e h.1, Expr.allReadBack limit rest h.2⟩

end

/-! ## Where the text ends -/

lemma Text.byteLength_eq_utf8ByteSize (s : List Char) :
    Text.byteLength s = (String.ofList s).utf8ByteSize := by
  induction s with
  | nil => rfl
  | cons c s ih =>
    rw [Text.byteLength, ih, ← List.singleton_append, String.ofList_append,
      String.utf8ByteSize_append]
    simp

lemma Query.width_pieces (q : Query) : Piece.width q.pieces = q.text.utf8ByteSize := by
  rw [Piece.width, Query.allChars_pieces, Text.byteLength_eq_utf8ByteSize, String.ofList_toList]

lemma Segment.lastStop_pieces (ss : List Segment) (off : Nat) :
    Piece.lastStop off off (Segment.pieces ss) = off + Piece.width (Segment.pieces ss) := by
  induction ss generalizing off with
  | nil => rfl
  | cons s rest ih =>
    -- Every segment ends with its bracket, so no blank stands at its end.
    obtain ⟨ps, hps⟩ := Segment.exists_pieces_eq s
    have hs : Piece.lastStop off off (Segment.pieces [s]) =
        off + Piece.width (Segment.pieces [s]) := by
      rw [hps, Piece.lastStop_append]
      simp [Piece.lastStop, Nat.add_assoc]
    rw [Segment.pieces_append, Piece.lastStop_append, hs, ih, Piece.width_append, Nat.add_assoc]

/-! ## Whole queries -/

/-- The parser reads the tokens of a writable query up to the end of the text. -/
lemma Parser.query_pieces_asRead (r : Registry) {c : ParserConfig} {q : Query}
    (hq : q.isWritable) (hstrict : c.strict = false) (hdepth : q.openDepth ≤ c.maxDepth) :
    ∃ diagnostics, (Parser.query r c).run ⟨Piece.place 0 q.pieces, 0, Piece.width q.pieces, []⟩ =
      .ok q.asRead ⟨[], Piece.width q.pieces, Piece.width q.pieces, diagnostics⟩ := by
  obtain ⟨anchor, ss⟩ := q
  simp only [Query.isWritable, Bool.and_eq_true, beq_iff_eq] at hq
  obtain ⟨rfl, hwritable⟩ := hq
  have hsegments : ∀ s ∈ ss, ReadsSegment c.maxDepth s := fun s hs =>
    (Segment.allReadBack c.maxDepth ss hwritable s hs).segment
  have htakes := takes_segments (finishes_checkFilter r) (k := []) (by simp [nextBinding])
    hsegments hdepth 1 1
  have hpieces : Query.pieces ⟨.root, ss⟩ = .lexeme .root ['$'] :: Segment.pieces ss := by
    simp [Query.pieces, Anchor.token, Anchor.symbol]
  -- The segments end where the text ends.
  generalize hwidth : Piece.width (Query.pieces ⟨.root, ss⟩) = textEnd
  have hend : Piece.lastStop 1 1 (Segment.pieces ss) = textEnd := by
    rw [Segment.lastStop_pieces, ← hwidth, hpieces, Piece.width_lexeme]
    rfl
  rw [List.append_nil, hend, ← hstrict] at htakes
  obtain ⟨diagnostics, hread⟩ := htakes textEnd []
  have hadjacent : isAdjacent ⟨[], textEnd, textEnd, diagnostics⟩ =
      .ok true ⟨[], textEnd, textEnd, diagnostics⟩ := by
    show EStateM.Result.ok (textEnd == textEnd) _ = _
    rw [beq_self_eq_true]
  refine ⟨diagnostics, ?_⟩
  rw [hpieces]
  show EStateM.bind (segments _) _ ⟨Piece.place 1 (Segment.pieces ss), 1, textEnd, []⟩ = _
  unfold EStateM.bind
  rw [hread]
  show (do
      if !(← isAdjacent) then failAt (← previousStop) .segmentAfterBlank
      else return (⟨.root, Segment.allAsRead ss⟩ : Query)) _ = _
  show EStateM.bind isAdjacent _ _ = _
  unfold EStateM.bind
  rw [hadjacent]
  rfl

/-- The canonical text of a writable query is accepted.  What is read has the numbers that their
written forms stand for. -/
theorem Query.parse_text_asRead (r : Registry) {c : ParserConfig} {q : Query} (hq : q.isWritable)
    (hstrict : c.strict = false) (hdepth : q.openDepth ≤ c.maxDepth) :
    (Query.parse r c q.text).1 = .ok q.asRead := by
  obtain ⟨diagnostics, hparse⟩ := Parser.query_pieces_asRead r hq hstrict hdepth
  rw [Query.width_pieces] at hparse
  rw [Query.parse, Query.scanAll_text hq]
  simp only [hparse]

lemma Parser.query_pieces (r : Registry) {c : ParserConfig} {q : Query} (hq : q.isWritable)
    (hn : ∀ x ∈ q.numbers, x.ReadsBack) (hstrict : c.strict = false)
    (hdepth : q.openDepth ≤ c.maxDepth) :
    ∃ diagnostics, (Parser.query r c).run ⟨Piece.place 0 q.pieces, 0, Piece.width q.pieces, []⟩ =
      .ok q ⟨[], Piece.width q.pieces, Piece.width q.pieces, diagnostics⟩ := by
  have hread := Parser.query_pieces_asRead r hq hstrict hdepth
  rwa [Query.asRead_eq hn] at hread

/-- The canonical text of a writable query is read as the query itself, under any registry.  The
configuration must not be strict, and must allow as many open filters, parentheses and calls as
the text has. -/
theorem Query.parse_text (r : Registry) (c : ParserConfig) (q : Query) (hq : q.isWritable)
    (hn : ∀ x, Number.float x ∈ q.numbers → (Number.float x).ReadsBack)
    (hstrict : c.strict = false) (hdepth : q.openDepth ≤ c.maxDepth) :
    (Query.parse r c q.text).1 = .ok q := by
  have hnumbers : ∀ x ∈ q.numbers, x.ReadsBack := by
    intro x hx
    cases x with
    | int i hi => exact readsBack_int i hi
    | float x => exact hn x hx
  obtain ⟨diagnostics, hparse⟩ := Parser.query_pieces r hq hnumbers hstrict hdepth
  rw [Query.width_pieces] at hparse
  rw [Query.parse, Query.scanAll_text hq]
  simp only [hparse]

/-- A query with every kind of segment and expression, and with parentheses in its text. -/
def Query.everyKind : Query :=
  ⟨.root,
    [.descendant (.union [.key "it's\n", .index (-1), .slice none (some 2) (some (-1))]),
     .wildcard,
     .filter (.and
       (.or (.query .current [.key "a"])
         (.not (.compare .le (.query .root [.index 0]) (.literal (.number (.float (.ofInt 1)))))))
       (.call "f_1" [.literal .null, .compare .eq (.literal (.string "\"")) (.call "g" []),
         .not (.query .current [.filter (.query .current [])])]))]⟩

theorem Query.parse_text_everyKind :
    Query.everyKind.isWritable ∧
      (∀ x, Number.float x ∈ Query.everyKind.numbers → (Number.float x).ReadsBack) ∧
      Query.everyKind.openDepth = 3 ∧
      (Query.parse .standard { maxDepth := 3 } Query.everyKind.text).1 = .ok Query.everyKind := by
  have hwritable : Query.everyKind.isWritable := by decide +kernel
  have hnumbers : ∀ x, Number.float x ∈ Query.everyKind.numbers → (Number.float x).ReadsBack := by
    intro x hx
    have hx : x = .ofInt 1 := by
      simpa [Query.everyKind, Query.numbers, Segment.allNumbers, Segment.numbers, Expr.numbers,
        Expr.allNumbers] using hx
    subst hx
    exact ⟨.float (.ofInt 1), by decide +kernel, by decide +kernel⟩
  have hdepth : Query.everyKind.openDepth = 3 := by decide +kernel
  exact ⟨hwritable, hnumbers, hdepth,
    Query.parse_text .standard { maxDepth := 3 } _ hwritable hnumbers rfl (Nat.le_of_eq hdepth)⟩

end JsonPath
