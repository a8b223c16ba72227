import JsonPath.Proofs.Canonical.RoundTrip
import JsonPath.Proofs.Parser.Checking
import JsonPath.Proofs.Parser.Outcomes

/-!
# What the parser accepts

Every query that the parser returns is writable, and its canonical text opens no more filters,
parentheses and calls at once than the configuration allows.  So the canonical text is accepted
again (`Query.parse_text_of_parse`), though not always as the same query: a binary64 number can be
read as another one than was written, which neither the parser nor the check of types minds.

The text that was read may have parentheses where the canonical text has none, but not the other
way round: the canonical text needs them where an operand binds too loosely for its place, and such
an operand can only have been read in parentheses.  `Expr.FitsWithin` counts these parentheses
ahead: an expression that fits within `n` levels at the rank of its place still does when it gets
the parentheses that the place asks for.
-/

namespace JsonPath

/-! ## Words -/

/-- A name is not one of the words of literals. -/
def Token.IsNoKeyword : Token → Prop
  | .name word => Token.ofWord word = .name word
  | _ => True

lemma Token.isNoKeyword_ofWord (word : String) : (Token.ofWord word).IsNoKeyword := by
  cases h : Token.ofWord word with
  | name word' =>
    have hword : word = word' := by
      unfold Token.ofWord at h
      split_ifs at h
      exact Token.name.inj h
    rw [← hword] at h ⊢
    exact h
  | _ => trivial

lemma Token.isNoKeyword_of_scanDoubled {sign : Char} {token t : Token} {what : Expectation}
    {offset stop : Nat} {s rest : List Char} (htoken : token.IsNoKeyword)
    (h : Token.scanDoubled sign token what offset s = .ok (t, stop, rest)) : t.IsNoKeyword := by
  unfold Token.scanDoubled at h
  split at h
  · split_ifs at h
    cases h
    exact htoken
  · cases h

lemma Token.isNoKeyword_of_scanWithEqual {bare withEqual t : Token} {offset stop : Nat}
    {s rest : List Char} (hbare : bare.IsNoKeyword) (hequal : withEqual.IsNoKeyword)
    (h : Token.scanWithEqual bare withEqual offset s = (t, stop, rest)) : t.IsNoKeyword := by
  unfold Token.scanWithEqual at h
  split at h
  · cases h
    exact hequal
  · cases h
    exact hbare

/-- The token of a sign, a string or a number is no name, and a word is one of its own kind. -/
lemma Token.isNoKeyword_of_scan {offset stop : Nat} {c : Char} {s rest : List Char} {t : Token}
    (h : Token.scan offset c s = .ok (t, stop, rest)) : t.IsNoKeyword := by
  unfold Token.scan at h
  split at h
  case h_11 => split at h <;> (cases h; trivial)
  case h_12 => exact Token.isNoKeyword_of_scanDoubled (by trivial) h
  case h_13 => exact Token.isNoKeyword_of_scanDoubled (by trivial) h
  case h_14 => exact Token.isNoKeyword_of_scanDoubled (by trivial) h
  case h_15 =>
    exact Token.isNoKeyword_of_scanWithEqual (by trivial) (by trivial) (Except.ok.inj h)
  case h_16 =>
    exact Token.isNoKeyword_of_scanWithEqual (by trivial) (by trivial) (Except.ok.inj h)
  case h_17 =>
    exact Token.isNoKeyword_of_scanWithEqual (by trivial) (by trivial) (Except.ok.inj h)
  case h_18 =>
    split_ifs at h
    · cases hstring : Token.scanString c offset (offset + 1) [] s with
      | error e => simp [hstring, Except.map] at h
      | ok found =>
        rw [hstring] at h
        cases h
        trivial
    · cases hnumber : Token.scanNumber offset (c :: s) with
      | error e => simp [hnumber, Except.map] at h
      | ok found =>
        rw [hnumber] at h
        cases h
        trivial
    · cases h
      exact Token.isNoKeyword_ofWord _
  all_goals
    cases h
    trivial

lemma Token.isNoKeyword_of_scanFrom {offset : Nat} {s : List Char} {ts : List Spanned}
    (h : Token.scanFrom offset s = .ok ts) : ∀ t ∈ ts.map Spanned.token, t.IsNoKeyword := by
  fun_induction Token.scanFrom offset s generalizing ts with
  | case1 =>
    cases h
    simp
  | case2 offset c rest hblank ih => exact ih h
  | case3 => cases h
  | case4 offset c rest hblank t stop rest' hscan ih =>
    cases htail : Token.scanFrom stop rest' with
    | error e =>
      rw [htail] at h
      cases h
    | ok ts' =>
      rw [htail] at h
      cases h
      simp only [List.map_cons, List.forall_mem_cons]
      exact ⟨Token.isNoKeyword_of_scan hscan, ih htail⟩

namespace Parser

/-! ## Values of successful readings -/

variable {α β : Type}

/-- On tokens of a text, the reader gives only values in `P`, and leaves tokens of a text. -/
def Yields (p : Parser α) (P : α → Prop) : Prop :=
  ∀ ts, (∀ t ∈ ts, t.IsNoKeyword) → Ensures p ts fun x ts' => P x ∧ ∀ t ∈ ts', t.IsNoKeyword

lemma Yields.pure {x : α} {P : α → Prop} (h : P x) : Yields (pure x) P :=
  fun _ hts => .pure ⟨h, hts⟩

lemma yields_failAt (position : Nat) (what : Expectation) {P : α → Prop} :
    Yields (failAt position what) P := fun _ _ => ensures_failAt _ _

lemma yields_failHere (what : Expectation) {P : α → Prop} : Yields (failHere what) P :=
  fun _ _ => ensures_failHere _

lemma yields_failAtStop (what : Expectation) {P : α → Prop} :
    Yields (do failAt (← previousStop) what) P := fun _ _ => ensures_failAtStop _

lemma Yields.imp {p : Parser α} {P Q : α → Prop} (hp : Yields p P) (h : ∀ x, P x → Q x) :
    Yields p Q := fun ts hts => (hp ts hts).imp fun x _ hx => ⟨h x hx.1, hx.2⟩

lemma Yields.bind {p : Parser α} {f : α → Parser β} {P : α → Prop} {Q : β → Prop}
    (hp : Yields p P) (hf : ∀ x, P x → Yields (f x) Q) : Yields (p >>= f) Q :=
  fun ts hts => (hp ts hts).bind fun x ts' hx => hf x hx.1 ts' hx.2

lemma Yields.map {p : Parser α} {g : α → β} {Q : β → Prop} (hp : Yields p fun x => Q (g x)) :
    Yields (g <$> p) Q := fun ts hts => .map (hp ts hts)

section Tokens

variable {Q : β → Prop}

/-- The next token is not known but for being one of a text. -/
lemma Yields.peek {f : Option Token → Parser β}
    (hf : ∀ next, (∀ t ∈ next, t.IsNoKeyword) → Yields (f next) Q) : Yields (peek >>= f) Q :=
  fun ts hts => .peek (hf _ (fun t ht => hts t (List.mem_of_mem_head? ht)) ts hts)

lemma Yields.peekSecond {f : Option Token → Parser β} (hf : ∀ second, Yields (f second) Q) :
    Yields (peekSecond >>= f) Q := fun ts hts => .peekSecond (hf _ ts hts)

lemma Yields.offset {f : Nat → Parser β} (hf : ∀ position, Yields (f position) Q) :
    Yields (offset >>= f) Q := fun ts hts => .offset fun position => hf position ts hts

lemma Yields.isAdjacent {f : Bool → Parser β} (hf : ∀ adjacent, Yields (f adjacent) Q) :
    Yields (isAdjacent >>= f) Q := fun ts hts => .isAdjacent fun adjacent => hf adjacent ts hts

lemma Yields.advance {f : Unit → Parser β} (hf : Yields (f ()) Q) : Yields (advance >>= f) Q :=
  fun _ hts => .advance (hf _ fun t ht => hts t (List.mem_of_mem_tail ht))

lemma Yields.eat {token : Token} {f : Bool → Parser β} (hf : ∀ found, Yields (f found) Q) :
    Yields (eat token >>= f) Q := by
  refine fun ts hts => Ensures.eat (fun rest hrest => ?_) fun _ => hf false ts hts
  subst hrest
  exact hf true rest fun t ht => hts t (List.mem_cons_of_mem _ ht)

lemma Yields.expect {token : Token} {what : Expectation} {f : Unit → Parser β}
    (hf : Yields (f ()) Q) : Yields (expect token what >>= f) Q := by
  refine fun ts hts => Ensures.expect fun rest hrest => ?_
  subst hrest
  exact hf rest fun t ht => hts t (List.mem_cons_of_mem _ ht)

end Tokens

lemma yields_repeatUpTo {step : Parser (Option α)} {P : α → Prop}
    (hstep : Yields step fun x? => ∀ x ∈ x?, P x) (fuel : Nat) :
    Yields (repeatUpTo step fuel) fun xs => ∀ x ∈ xs, P x := by
  induction fuel with
  | zero => exact .pure (by simp)
  | succ fuel ih =>
    refine hstep.bind fun x? hx => ?_
    cases x? with
    | none => exact .pure (by simp)
    | some x => exact ih.bind fun xs hxs => .pure (by simpa using ⟨hx x rfl, hxs⟩)

lemma yields_many {step : Parser (Option α)} {P : α → Prop}
    (hstep : Yields step fun x? => ∀ x ∈ x?, P x) : Yields (many step) fun xs => ∀ x ∈ xs, P x :=
  fun _ hts state _ _ htokens hxs =>
    yields_repeatUpTo hstep state.tokens.length _ hts state _ _ htokens hxs

lemma yields_separated (separator : Token) {item : Parser α} {P : α → Prop}
    (hitem : Yields item P) :
    Yields (separated separator item) fun xs => P xs.1 ∧ ∀ x ∈ xs.2, P x := by
  refine hitem.bind fun first hfirst => ?_
  refine (yields_many (P := P) ?_).bind fun others hothers => .pure ⟨hfirst, hothers⟩
  refine Yields.eat fun found => ?_
  split
  · exact .map (hitem.imp fun x hx => by simpa using hx)
  · exact .pure (by simp)

/-! ## Segments -/

lemma inLimit_ofInt {i : Int} (hlow : -integerLimit ≤ i) (hhigh : i ≤ integerLimit) :
    inLimit (Int64.ofInt i) := by
  have hvalue : (Int64.ofInt i).toInt = i := by
    unfold integerLimit at hlow hhigh
    exact Int64.toInt_ofInt_of_le (by omega) (by omega)
  simp [inLimit, hvalue, hlow, hhigh]

/-- An integer that is read is within the limit. -/
lemma inLimit_of_integer? {lexeme : String} {i : Int64} (h : integer? lexeme = some i) :
    inLimit i := by
  have hpositive : (0 : Int) ≤ integerLimit := by decide
  simp only [integer?] at h
  split_ifs at h with hdigits hzero hlimit
  · obtain rfl := Option.some.inj h
    exact inLimit_ofInt (by omega) (by omega)
  · obtain rfl := Option.some.inj h
    exact inLimit_ofInt (by omega) (by omega)

/-- A segment is writable and opens at most `n` levels. -/
def SegmentWithin (n : Nat) (s : Segment) : Prop := s.isWritable ∧ s.openDepth ≤ n

lemma segmentsWithin_iff {n : Nat} {ss : List Segment} :
    Segment.allWritable ss ∧ Segment.openDepths ss ≤ n ↔ ∀ s ∈ ss, SegmentWithin n s := by
  induction ss with
  | nil => simp [Segment.allWritable, Segment.openDepths]
  | cons s rest ih =>
    rw [List.forall_mem_cons, ← ih, Segment.allWritable, Segment.openDepths, Bool.and_eq_true,
      Nat.max_le, and_and_and_comm]
    rfl

lemma yields_optionalInteger : Yields optionalInteger fun i => i.all inLimit := by
  refine Yields.peek fun next _ => ?_
  split
  · split
    · rename_i i hi
      exact Yields.advance (.pure (inLimit_of_integer? hi))
    · exact yields_failHere _
  · exact .pure rfl

lemma yields_indexOrSlice (n : Nat) :
    Yields indexOrSlice fun s => s.isSelector ∧ SegmentWithin n s := by
  refine yields_optionalInteger.bind fun start hstart => ?_
  refine Yields.eat fun colon => ?_
  split
  · refine yields_optionalInteger.bind fun stop hstop => ?_
    refine Yields.eat fun colon => ?_
    have hslice : ∀ step : Option Int64, step.all inLimit →
        (Segment.slice start stop step).isSelector ∧ SegmentWithin n (.slice start stop step) :=
      fun step hstep => ⟨rfl, by simp [Segment.isWritable, hstart, hstop, hstep], Nat.zero_le n⟩
    split
    · exact yields_optionalInteger.bind fun step hstep => .pure (hslice step hstep)
    · exact Yields.bind (.pure (P := fun step => step = none) rfl)
        (by rintro _ rfl; exact .pure (hslice none rfl))
  · split
    · rename_i i
      exact .pure ⟨rfl, hstart, Nat.zero_le n⟩
    · exact yields_failHere _

lemma yields_shorthand (n : Nat) (what : Expectation) :
    Yields (shorthand what) fun s => s.isDescendant = false ∧ SegmentWithin n s := by
  refine Yields.isAdjacent fun adjacent => ?_
  split
  · exact yields_failAtStop _
  · refine Yields.peek fun next _ => ?_
    split
    · exact Yields.advance (.pure ⟨rfl, rfl, Nat.zero_le n⟩)
    · split
      · exact Yields.advance (.pure ⟨rfl, rfl, Nat.zero_le n⟩)
      · exact yields_failHere _
    · exact yields_failHere _

section Segments

variable {filter : Parser Segment} {n : Nat}
variable (hfilter : Yields filter fun s => s.isSelector ∧ SegmentWithin n s)
include hfilter

lemma yields_selector :
    Yields (selector filter) fun s => s.isSelector ∧ SegmentWithin n s := by
  refine Yields.peek fun next _ => ?_
  split
  · exact Yields.advance (.pure ⟨rfl, rfl, Nat.zero_le n⟩)
  · exact Yields.advance (.pure ⟨rfl, rfl, Nat.zero_le n⟩)
  · exact hfilter
  · exact yields_indexOrSlice n
  · exact yields_indexOrSlice n
  · exact yields_failHere _

lemma yields_bracketed :
    Yields (bracketed filter) fun s => s.isDescendant = false ∧ SegmentWithin n s := by
  refine Yields.advance ?_
  refine (yields_separated .comma (yields_selector hfilter)).bind ?_
  rintro ⟨first, others⟩ ⟨hfirst, hothers⟩
  refine Yields.expect ?_
  cases others with
  | nil =>
    refine .pure ⟨?_, hfirst.2⟩
    cases first <;> first | rfl | simp [Segment.isSelector] at hfirst
  | cons second others =>
    have hall : ∀ s ∈ first :: second :: others, s.isSelector ∧ SegmentWithin n s :=
      List.forall_mem_cons.2 ⟨hfirst, hothers⟩
    obtain ⟨hwritable, hdepth⟩ := segmentsWithin_iff.2 fun s hs => (hall s hs).2
    refine .pure ⟨rfl, ?_, hdepth⟩
    have hselectors : (first :: second :: others).all Segment.isSelector :=
      List.all_eq_true.2 fun s hs => (hall s hs).1
    simp only [Segment.isWritable, hselectors, hwritable, Bool.and_true, decide_eq_true_eq]
    simp

lemma yields_segment? :
    Yields (segment? filter) fun s? => ∀ s ∈ s?, SegmentWithin n s := by
  have hdescendant : ∀ s : Segment, s.isDescendant = false ∧ SegmentWithin n s →
      SegmentWithin n (.descendant s) :=
    fun s hs => ⟨by simp [Segment.isWritable, hs.1, hs.2.1], hs.2.2⟩
  refine Yields.peek fun next _ => ?_
  split
  · refine Yields.advance (.map ((yields_shorthand n _).imp fun s hs => ?_))
    simpa using hs.2
  · refine Yields.advance (Yields.peek fun bracket _ => Yields.isAdjacent fun adjacent => ?_)
    split
    · refine (yields_bracketed hfilter).bind fun s hs => .pure ?_
      simpa using hdescendant s hs
    · refine (yields_shorthand n _).bind fun s hs => .pure ?_
      simpa using hdescendant s hs
  · refine .map ((yields_bracketed hfilter).imp fun s hs => ?_)
    simpa using hs.2
  · exact .pure (by simp)

lemma yields_segments :
    Yields (segments filter) fun ss => Segment.allWritable ss ∧ Segment.openDepths ss ≤ n :=
  (yields_many (yields_segment? hfilter)).imp fun _ hss => segmentsWithin_iff.2 hss

end Segments

/-! ## Expressions -/

end Parser

/-- A test fits within `n` levels where an operand of that rank is wanted: parentheses around it
count if it binds too loosely. -/
def Expr.FitsWithin (n rank : Nat) (e : Expr) : Prop :=
  e.isWritable .test ∧ e.openDepth + (decide (e.precedence < rank)).toNat ≤ n

namespace Expr.FitsWithin

variable {n rank : Nat} {e l r : Expr}

/-- Parentheses make every expression fit. -/
lemma of_deeper (h : e.FitsWithin n 1) (rank : Nat) : e.FitsWithin (n + 1) rank := by
  refine ⟨h.1, Nat.add_le_add (Nat.le_trans (Nat.le_add_right _ _) h.2) ?_⟩
  exact Bool.toNat_le _

/-- An expression that binds tightly enough needs no parentheses. -/
lemma of_precedence (hwritable : e.isWritable .test) (hdepth : e.openDepth ≤ n)
    (hrank : rank ≤ e.precedence) : e.FitsWithin n rank := by
  refine ⟨hwritable, ?_⟩
  rw [decide_eq_false (Nat.not_lt.2 hrank)]
  exact hdepth

lemma mono {rank' : Nat} (h : e.FitsWithin n rank) (hrank : rank' ≤ rank) :
    e.FitsWithin n rank' := by
  refine ⟨h.1, Nat.le_trans (Nat.add_le_add_left ?_ _) h.2⟩
  by_cases hlow : e.precedence < rank'
  · simp [hlow, Nat.lt_of_lt_of_le hlow hrank]
  · simp [hlow]

lemma and (hl : l.FitsWithin n 2) (hr : r.FitsWithin n 3) : (Expr.and l r).FitsWithin n 2 := by
  refine of_precedence ?_ (Nat.max_le.2 ⟨hl.2, hr.2⟩) (Nat.le_refl _)
  simp [Expr.isWritable, hl.1, hr.1]

lemma or (hl : l.FitsWithin n 1) (hr : r.FitsWithin n 2) : (Expr.or l r).FitsWithin n 1 := by
  refine of_precedence ?_ (Nat.max_le.2 ⟨hl.2, hr.2⟩) (Nat.le_refl _)
  simp [Expr.isWritable, hl.1, hr.1]

end Expr.FitsWithin

namespace Parser

/-- An operand fits within `n` levels: it is a literal, a query or a call. -/
structure OperandWithin (n : Nat) (e : Expr) : Prop where
  writable : e.isWritable .argument
  depth : e.openDepth ≤ n
  precedence : e.precedence = 4
  bare : e.isNegatedBare = false → ∃ value, e = .literal value

lemma OperandWithin.isWritable_test {n : Nat} {e : Expr} (h : OperandWithin n e)
    (hbare : e.isNegatedBare) : e.isWritable .test := by
  have hwritable := h.writable
  cases e <;> simp_all [Expr.isWritable, Expr.isNegatedBare]

section Expressions

variable {limit n : Nat} {deeper? : Option (Parser Expr)}
  (hdeeper : ∀ deeper ∈ deeper?, ∃ m, n = m + 1 ∧ Yields deeper (Expr.FitsWithin m 1))
include hdeeper

lemma yields_enter_bind (position : Nat) {f : Parser Expr → Parser β} {Q : β → Prop}
    (hf : ∀ deeper m, n = m + 1 → Yields deeper (Expr.FitsWithin m 1) → Yields (f deeper) Q) :
    Yields (enter limit deeper? position >>= f) Q := by
  cases deeper? with
  | none => exact fun _ _ => ensures_throw _
  | some deeper =>
    obtain ⟨m, hm, hyields⟩ := hdeeper deeper rfl
    exact hf deeper m hm hyields

lemma yields_filter {finish : Nat → Expr → Parser Unit}
    (hfinish : ∀ position e, Yields (finish position e) fun _ => True) :
    Yields (filter limit deeper? finish) fun s => s.isSelector ∧ SegmentWithin n s := by
  refine Yields.offset fun position => Yields.advance ?_
  refine yields_enter_bind hdeeper position fun deeper m hm hyields => ?_
  refine hyields.bind fun test htest => ?_
  refine (hfinish position test).bind fun _ _ => .pure ⟨rfl, htest.1, ?_⟩
  rw [Segment.openDepth, hm]
  exact Nat.succ_le_succ (Nat.le_trans (Nat.le_add_right _ _) htest.2)

lemma yields_parenthesized (rank : Nat) :
    Yields (parenthesized limit deeper?) (Expr.FitsWithin n rank) := by
  refine Yields.offset fun position => Yields.advance ?_
  refine yields_enter_bind hdeeper position fun deeper m hm hyields => ?_
  refine hyields.bind fun e he => Yields.expect (.pure ?_)
  rw [hm]
  exact he.of_deeper rank

lemma yields_embedded (anchor : Anchor) :
    Yields (embedded limit deeper? anchor) (OperandWithin n) := by
  have hfilter : Yields (filter limit deeper? fun _ _ => pure ()) _ :=
    yields_filter hdeeper fun _ _ => .pure trivial
  refine Yields.advance ((yields_segments hfilter).bind fun ss hss => .pure ?_)
  exact ⟨by simp [Expr.isWritable, hss.1], hss.2, rfl, by simp [Expr.isNegatedBare]⟩

omit hdeeper in
lemma yields_literal : Yields literal fun value => value.isScalar := by
  refine Yields.offset fun position => Yields.peek fun token _ => Yields.advance ?_
  split
  · exact .pure rfl
  · split
    · exact .pure rfl
    · exact yields_failAt _ _
  · exact .pure rfl
  · exact .pure rfl
  · exact .pure rfl
  · exact yields_failAt _ _

omit hdeeper in
lemma yields_argument {deeper : Parser Expr} {m : Nat}
    (hyields : Yields deeper (Expr.FitsWithin m 1)) :
    Yields (argument deeper) fun e => e.isWritable .argument ∧ e.openDepth ≤ m := by
  have htest : Yields deeper fun e => e.isWritable .argument ∧ e.openDepth ≤ m :=
    hyields.imp fun e he =>
      ⟨Expr.isWritable_argument he.1, Nat.le_trans (Nat.le_add_right _ _) he.2⟩
  refine Yields.peek fun next _ => ?_
  split
  · refine Yields.peekSecond fun second => ?_
    split
    · exact yields_literal.bind fun value hvalue =>
        .pure ⟨by simp [Expr.isWritable, hvalue], Nat.zero_le m⟩
    · exact htest
  · exact htest

omit hdeeper in
lemma argumentsWithin_of_forall {m : Nat} {es : List Expr}
    (h : ∀ e ∈ es, e.isWritable .argument ∧ e.openDepth ≤ m) :
    Expr.allWritable es ∧ Expr.openDepths es ≤ m := by
  induction es with
  | nil => simp [Expr.allWritable, Expr.openDepths]
  | cons e rest ih =>
    rw [List.forall_mem_cons] at h
    obtain ⟨hwritable, hdepth⟩ := ih h.2
    rw [Expr.allWritable, Expr.openDepths, Bool.and_eq_true]
    exact ⟨⟨h.1.1, hwritable⟩, Nat.max_le.2 ⟨h.1.2, hdepth⟩⟩

omit hdeeper in
lemma yields_arguments {deeper : Parser Expr} {m : Nat}
    (hyields : Yields deeper (Expr.FitsWithin m 1)) :
    Yields (arguments deeper) fun es => Expr.allWritable es ∧ Expr.openDepths es ≤ m := by
  refine Yields.peek fun next _ => ?_
  split
  · exact .pure ⟨rfl, Nat.zero_le m⟩
  · refine (yields_separated .comma (yields_argument hyields)).bind ?_
    rintro ⟨first, others⟩ ⟨hfirst, hothers⟩
    exact .pure (argumentsWithin_of_forall (List.forall_mem_cons.2 ⟨hfirst, hothers⟩))

omit hdeeper in
lemma isCallable_of_isNoKeyword {name : String} (h : (Token.name name).IsNoKeyword)
    (hname : isFunctionName name) : isCallable name := by
  have hword : Token.ofWord name = .name name := h
  have hkeyword : name ∉ ["true", "false", "null"] := by
    intro hmem
    simp only [List.mem_cons, List.not_mem_nil, or_false] at hmem
    rcases hmem with rfl | rfl | rfl <;> simp [Token.ofWord] at hword
  simpa [isCallable, hname, and_assoc] using hkeyword

lemma yields_call {name : String} (hname : (Token.name name).IsNoKeyword) :
    Yields (call limit deeper? name) (OperandWithin n) := by
  unfold call
  split
  · exact yields_failHere _
  · rename_i hfunction
    have hcallable := isCallable_of_isNoKeyword hname (by simpa using hfunction)
    refine Yields.advance (Yields.isAdjacent fun adjacent => ?_)
    split
    · exact yields_failAtStop _
    · refine Yields.offset fun position => Yields.advance ?_
      refine yields_enter_bind hdeeper position fun deeper m hm hyields => ?_
      refine (yields_arguments hyields).bind fun es hes => Yields.expect (.pure ?_)
      refine ⟨by simp [Expr.isWritable, hcallable, hes.1], ?_, rfl, by simp [Expr.isNegatedBare]⟩
      rw [hm]
      exact Nat.succ_le_succ hes.2

lemma yields_operand : Yields (operand limit deeper?) (OperandWithin n) := by
  refine Yields.peek fun next hnext => ?_
  split
  · exact yields_embedded hdeeper _
  · exact yields_embedded hdeeper _
  · split
    · rename_i name
      refine Yields.peekSecond fun second => ?_
      split
      · exact yields_call hdeeper (hnext _ rfl)
      · exact yields_failHere _
    · split
      · exact yields_literal.bind fun value hvalue =>
          .pure ⟨by simp [Expr.isWritable, hvalue], Nat.zero_le n, rfl, fun _ => ⟨value, rfl⟩⟩
      · exact yields_failHere _
  · exact yields_failHere _

omit hdeeper in
lemma yields_requireComparable {e : Expr} (h : OperandWithin n e) (position : Nat) :
    Yields (requireComparable e position) fun _ => e.isWritable .operand := by
  have hwritable := h.writable
  have hprecedence := h.precedence
  have hbare := h.bare
  cases e with
  | query anchor ss =>
    rw [requireComparable]
    split
    · rename_i hsingular
      refine .pure ?_
      simp only [Expr.isWritable, Bool.and_eq_true] at hwritable ⊢
      exact ⟨by simp [hsingular], hwritable.2⟩
    · exact yields_failAt _ _
  | literal value => exact .pure (by simpa [Expr.isWritable] using hwritable)
  | call function arguments => exact .pure hwritable
  | _ => simp [Expr.isNegatedBare] at hbare

omit hdeeper in
lemma yields_requireTest {e : Expr} (h : OperandWithin n e) (position : Nat)
    (what : Expectation) :
    Yields (requireTest e position what) fun _ => e.isNegatedBare ∧ e.isWritable .test := by
  cases hbare : e.isNegatedBare with
  | true =>
    have htest : (true = true) ∧ e.isWritable .test := ⟨rfl, h.isWritable_test hbare⟩
    unfold requireTest
    split
    · exact yields_failAt _ _
    · exact .pure htest
  | false =>
    obtain ⟨value, rfl⟩ := h.bare hbare
    exact yields_failAt _ _

lemma yields_comparisonOrTest :
    Yields (comparisonOrTest limit deeper?) (Expr.FitsWithin n 3) := by
  refine Yields.offset fun leftPosition => ?_
  refine (yields_operand hdeeper).bind fun left hleft => ?_
  refine Yields.peek fun next _ => ?_
  split
  · rename_i op _
    refine Yields.advance ?_
    refine (yields_requireComparable hleft _).bind fun _ hleftWritable => ?_
    refine Yields.offset fun rightPosition => ?_
    refine (yields_operand hdeeper).bind fun right hright => ?_
    refine (yields_requireComparable hright _).bind fun _ hrightWritable => .pure ?_
    have hdepth : (Expr.compare op left right).openDepth = max left.openDepth right.openDepth := by
      simp [Expr.openDepth, hleft.precedence, hright.precedence]
    refine .of_precedence (by simp [Expr.isWritable, hleftWritable, hrightWritable]) ?_
      (Nat.le_refl _)
    rw [hdepth]
    exact Nat.max_le.2 ⟨hleft.depth, hright.depth⟩
  · refine Yields.offset fun position => ?_
    refine (yields_requireTest hleft _ _).bind fun _ htest => .pure ?_
    exact .of_precedence htest.2 hleft.depth (by rw [hleft.precedence]; decide)

lemma yields_basic : Yields (basic limit deeper?) (Expr.FitsWithin n 3) := by
  refine Yields.eat fun negated => ?_
  split
  · refine Yields.peek fun next _ => ?_
    split
    · refine (yields_parenthesized hdeeper 5).bind fun e he => .pure ?_
      have hdepth : e.openDepth + 1 ≤ n := by
        have hlow : e.precedence < 5 := by cases e <;> simp [Expr.precedence]
        simpa [hlow] using he.2
      refine .of_precedence (by simpa [Expr.isWritable] using he.1) ?_ (by simp [Expr.precedence])
      exact Nat.le_trans (Nat.add_le_add_left (Bool.toNat_le _) _) hdepth
    · refine Yields.offset fun position => ?_
      refine (yields_operand hdeeper).bind fun e he => ?_
      refine (yields_requireTest he _ _).bind fun _ htest => .pure ?_
      refine .of_precedence (by simpa [Expr.isWritable] using htest.2) ?_
        (by simp [Expr.precedence])
      simpa [Expr.openDepth, htest.1] using he.depth
  · refine Yields.peek fun next _ => ?_
    split
    · exact yields_parenthesized hdeeper 3
    · exact yields_comparisonOrTest hdeeper

end Expressions

/-- A chain of operands that each fit beside its operator fits where the operator does. -/
lemma yields_chained {n low high : Nat} (operator : Token) {combine : Expr → Expr → Expr}
    (hlow : low ≤ high)
    (hcombine : ∀ {l r : Expr}, l.FitsWithin n low → r.FitsWithin n high →
      (combine l r).FitsWithin n low) {item : Parser Expr}
    (hitem : Yields item (Expr.FitsWithin n high)) :
    Yields (chained operator combine item) (Expr.FitsWithin n low) := by
  refine (yields_separated operator hitem).bind ?_
  rintro ⟨first, others⟩ ⟨hfirst, hothers⟩
  refine .pure ?_
  have hfold : ∀ (others : List Expr) (e : Expr), e.FitsWithin n low →
      (∀ x ∈ others, x.FitsWithin n high) → (others.foldl combine e).FitsWithin n low := by
    intro others
    induction others with
    | nil => exact fun e he _ => he
    | cons x rest ih =>
      intro e he hrest
      rw [List.forall_mem_cons] at hrest
      exact ih _ (hcombine he hrest.1) hrest.2
  exact hfold others first (hfirst.mono hlow) hothers

/-- An expression that is read where `n` levels are left fits within them. -/
lemma yields_expressionWithin (limit n : Nat) :
    ∀ deeper ∈ expressionWithin limit n, ∃ m, n = m + 1 ∧ Yields deeper (Expr.FitsWithin m 1) := by
  induction n with
  | zero => simp [expressionWithin]
  | succ n ih =>
    intro deeper hdeeper
    obtain rfl : expression limit (expressionWithin limit n) = deeper := by
      simpa [expressionWithin] using hdeeper
    have hbasic : Yields (basic limit (expressionWithin limit n)) _ := yields_basic ih
    have hconjunction := yields_chained .and (by decide) Expr.FitsWithin.and hbasic
    exact ⟨n, rfl, yields_chained .or (by decide) Expr.FitsWithin.or hconjunction⟩

lemma yields_checkFilter (r : Registry) (strict : Bool) (position : Nat) (test : Expr) :
    Yields (checkFilter r strict position test) fun _ => True := by
  intro ts hts
  have hkeeps := sameTokens_checkFilter r strict position test
  refine hkeeps.ensures_same.imp fun _ ts' hts' => ⟨trivial, ?_⟩
  rwa [hts']

theorem yields_query (r : Registry) (c : ParserConfig) :
    Yields (query r c) fun q => q.isWritable ∧ q.openDepth ≤ c.maxDepth := by
  refine Yields.offset fun position => Yields.peek fun next _ => ?_
  split
  · exact yields_failAt _ _
  · have hfilter : Yields (filter c.maxDepth (expressionWithin c.maxDepth c.maxDepth) _) _ :=
      yields_filter (yields_expressionWithin c.maxDepth c.maxDepth) (yields_checkFilter r c.strict)
    refine Yields.advance ((yields_segments hfilter).bind fun ss hss => ?_)
    refine Yields.peek fun next _ => ?_
    split
    · exact yields_failHere _
    · refine Yields.isAdjacent fun adjacent => ?_
      split
      · exact yields_failAtStop _
      · exact .pure ⟨by simp [Query.isWritable, hss.1], hss.2⟩

end Parser

/-! ## Accepted texts -/

namespace Query

/-- What the parser returns is writable, within the depth of its configuration. -/
theorem writable_of_parse {r : Registry} {c : ParserConfig} {text : String} {q : Query}
    (h : (parse r c text).1 = .ok q) : q.isWritable ∧ q.openDepth ≤ c.maxDepth := by
  obtain ⟨tokens, state, hscan, hread⟩ := exists_of_parse h
  exact (Parser.yields_query r c _ (Token.isNoKeyword_of_scanFrom hscan) _ _ _ rfl hread).1

/-- Every query that the parser returns is writable and opens no more levels at once in its
canonical text than the configuration allows.  Under the same configuration the canonical text is
accepted again; what is read from it differs from the query in binary64 numbers at most, and only
in those that are not read back. -/
theorem parse_text_of_parse (r : Registry) (c : ParserConfig) (text : String) (q : Query)
    (h : (parse r c text).1 = .ok q) :
    q.isWritable ∧ q.openDepth ≤ c.maxDepth ∧ (parse r c q.text).1 = .ok q.asRead := by
  obtain ⟨hwritable, hdepth⟩ := writable_of_parse h
  refine ⟨hwritable, hdepth, ?_⟩
  obtain ⟨depth, strict⟩ := c
  have hlenient : (parse r ⟨depth, false⟩ q.text).1 = .ok q.asRead :=
    parse_text_asRead r hwritable rfl hdepth
  cases strict with
  | false => exact hlenient
  | true =>
    -- The query has no type errors, as strict reading has accepted it once.
    obtain ⟨-, hcheck⟩ := (parse_strict_iff r depth text q).1 h
    refine (parse_strict_iff r depth q.text q.asRead).2 ⟨hlenient, ?_⟩
    exact (r.checkQuery_asRead_silent_iff q).2 hcheck

/-- The number 1.5. -/
def threeHalves : Binary64 := ⟨false, 0x3FF8000000000000, by decide⟩

lemma readsBack_threeHalves : (Number.float threeHalves).ReadsBack :=
  ⟨.float threeHalves, by decide +kernel, by decide +kernel⟩

/-- A query whose text can have more parentheses than its canonical text. -/
def parenthesized : Query :=
  ⟨.root, [.descendant (.union
    [.filter (.and
      (.or (.query .current [.key "a"]) (.query .current [.key "b"]))
      (.not (.call "f" [.literal (.number (.float threeHalves))]))),
     .index (-1)])]⟩

lemma parse_parenthesized :
    (parse .empty { maxDepth := 4 } "$..[?(((@.a||@.b)))&&!(f(1.5)),-1]").1 =
      .ok parenthesized := by
  have hscan : Token.scanAll "$..[?(((@.a||@.b)))&&!(f(1.5)),-1]" =
      .ok [⟨.root, 0, 1⟩, ⟨.doubleDot, 1, 3⟩, ⟨.leftBracket, 3, 4⟩, ⟨.question, 4, 5⟩,
        ⟨.leftParen, 5, 6⟩, ⟨.leftParen, 6, 7⟩, ⟨.leftParen, 7, 8⟩, ⟨.current, 8, 9⟩,
        ⟨.dot, 9, 10⟩, ⟨.name "a", 10, 11⟩, ⟨.or, 11, 13⟩, ⟨.current, 13, 14⟩, ⟨.dot, 14, 15⟩,
        ⟨.name "b", 15, 16⟩, ⟨.rightParen, 16, 17⟩, ⟨.rightParen, 17, 18⟩, ⟨.rightParen, 18, 19⟩,
        ⟨.and, 19, 21⟩, ⟨.not, 21, 22⟩, ⟨.leftParen, 22, 23⟩, ⟨.name "f", 23, 24⟩,
        ⟨.leftParen, 24, 25⟩, ⟨.number "1.5", 25, 28⟩, ⟨.rightParen, 28, 29⟩,
        ⟨.rightParen, 29, 30⟩, ⟨.comma, 30, 31⟩, ⟨.number "-1", 31, 33⟩,
        ⟨.rightBracket, 33, 34⟩] :=
    eq_ok_of_toOption (by decide +kernel)
  rw [parse, hscan]
  with_unfolding_all rfl

/-- Read with four levels open, the query is written with two. -/
theorem parse_text_of_parse_parenthesized :
    (parse .empty { maxDepth := 4 } "$..[?(((@.a||@.b)))&&!(f(1.5)),-1]").1 = .ok parenthesized ∧
      parenthesized.text = "$..[?(@['a'] || @['b']) && !f(1.5), -1]" ∧
      parenthesized.isWritable ∧ parenthesized.openDepth ≤ 4 ∧
      (parse .empty { maxDepth := 4 } parenthesized.text).1 = .ok parenthesized := by
  have hnumbers : ∀ x, Number.float x ∈ parenthesized.numbers → (Number.float x).ReadsBack := by
    intro x hx
    obtain rfl : x = threeHalves := by
      simpa [parenthesized, numbers, Segment.allNumbers, Segment.numbers, Expr.numbers,
        Expr.allNumbers] using hx
    exact readsBack_threeHalves
  obtain ⟨hwritable, hdepth, hagain⟩ :=
    parse_text_of_parse .empty { maxDepth := 4 } _ _ parse_parenthesized
  rw [asRead_eq (readsBack_of_floats hnumbers)] at hagain
  exact ⟨parse_parenthesized, by decide +kernel, hwritable, hdepth, hagain⟩

end Query

end JsonPath
