import JsonPath.Proofs.Parser.Progress
import JsonPath.Proofs.Parser.Reads

/-!
# What a successful reading gives

`Parser.Ensures p ts Q` says of the reader `p`, started before the tokens `ts`, that whenever it
succeeds its value and the tokens that it leaves are related by `Q`.  A reader that fails ensures
everything, so a refusal needs no proof: only the branches that go on have to be followed.

Positions play no part.  Whether a blank stands between two tokens is left open, and a reading has
to be right either way.
-/

namespace JsonPath.Parser

/-- The reader, started before the tokens `ts`, gives only values and remaining tokens in `Q`. -/
def Ensures {α : Type} (p : Parser α) (ts : List Token) (Q : α → List Token → Prop) : Prop :=
  ∀ state x state', state.tokens.map Spanned.token = ts → p state = .ok x state' →
    Q x (state'.tokens.map Spanned.token)

variable {α β : Type} {p : Parser α} {ts : List Token} {P : α → List Token → Prop}

/-! ## Sequences -/

lemma Ensures.pure {x : α} (h : P x ts) : Ensures (pure x) ts P := by
  rintro state x state' rfl hp
  cases hp
  exact h

lemma ensures_throw (failure : Failure) : Ensures (throw failure) ts P := by
  rintro state x state' - hp
  cases hp

lemma ensures_failAt (position : Nat) (what : Expectation) :
    Ensures (failAt position what) ts P := ensures_throw _

lemma ensures_failHere (what : Expectation) : Ensures (failHere what) ts P := by
  rintro state x state' - hp
  cases hp

lemma Ensures.imp {Q : α → List Token → Prop} (hp : Ensures p ts P)
    (h : ∀ x ts', P x ts' → Q x ts') : Ensures p ts Q :=
  fun state x state' hts hx => h x _ (hp state x state' hts hx)

section Bind

variable {f : α → Parser β} {Q : β → List Token → Prop}

lemma Ensures.bind (hp : Ensures p ts P) (hf : ∀ x ts', P x ts' → Ensures (f x) ts' Q) :
    Ensures (p >>= f) ts Q := by
  intro state y state'' hts hy
  cases hstep : p state with
  | error e state' =>
    rw [bind_of_error hstep] at hy
    cases hy
  | ok x state' =>
    rw [bind_of_ok hstep] at hy
    exact hf x _ (hp state x state' hts hstep) state' y state'' rfl hy

lemma Ensures.map {g : α → β} (hp : Ensures p ts fun x ts' => Q (g x) ts') :
    Ensures (g <$> p) ts Q := by
  rw [map_eq_pure_bind]
  exact hp.bind fun x ts' hx => .pure hx

end Bind

/-! ## Single tokens -/

section Tokens

variable {Q : β → List Token → Prop}

/-- The next token is known. -/
lemma Ensures.peek {f : Option Token → Parser β} (h : Ensures (f ts.head?) ts Q) :
    Ensures (peek >>= f) ts Q := by
  rintro state y state' rfl hy
  rw [List.head?_map] at h
  exact h state y state' rfl hy

lemma Ensures.peekSecond {f : Option Token → Parser β} (h : Ensures (f ts.tail.head?) ts Q) :
    Ensures (peekSecond >>= f) ts Q := by
  rintro state y state' rfl hy
  rw [← List.map_tail, List.head?_map] at h
  exact h state y state' rfl hy

lemma Ensures.offset {f : Nat → Parser β} (h : ∀ position, Ensures (f position) ts Q) :
    Ensures (offset >>= f) ts Q :=
  fun state y state' hts hy => h _ state y state' hts hy

lemma Ensures.isAdjacent {f : Bool → Parser β} (h : ∀ adjacent, Ensures (f adjacent) ts Q) :
    Ensures (isAdjacent >>= f) ts Q :=
  fun state y state' hts hy => h _ state y state' hts hy

lemma ensures_failAtStop (what : Expectation) :
    Ensures (do failAt (← previousStop) what) ts Q := by
  rintro state y state' - hy
  cases hy

lemma Ensures.advance {f : Unit → Parser β} (h : Ensures (f ()) ts.tail Q) :
    Ensures (advance >>= f) ts Q := by
  rintro ⟨tokens, stop, textEnd, diagnostics⟩ y state' rfl hy
  cases tokens with
  | nil => exact h _ y state' rfl hy
  | cons t rest => exact h ⟨rest, t.stop, textEnd, diagnostics⟩ y state' rfl hy

/-- The two ways on from a token that may come next. -/
lemma Ensures.eat {token : Token} {f : Bool → Parser β}
    (htrue : ∀ rest, ts = token :: rest → Ensures (f true) rest Q)
    (hfalse : ts.head? ≠ some token → Ensures (f false) ts Q) :
    Ensures (eat token >>= f) ts Q := by
  unfold Parser.eat
  rw [bind_assoc]
  refine Ensures.peek ?_
  split
  · rename_i hhead
    obtain ⟨rest, rfl⟩ := List.head?_eq_some_iff.1 hhead
    rw [bind_assoc]
    refine Ensures.advance ?_
    rw [pure_bind]
    exact htrue rest rfl
  · rename_i hhead
    rw [pure_bind]
    exact hfalse hhead

lemma Ensures.expect {token : Token} {what : Expectation} {f : Unit → Parser β}
    (h : ∀ rest, ts = token :: rest → Ensures (f ()) rest Q) :
    Ensures (expect token what >>= f) ts Q := by
  unfold Parser.expect
  rw [bind_assoc]
  refine Ensures.eat (fun rest hts => ?_) fun _ => ?_
  · rw [if_pos rfl, pure_bind]
    exact h rest hts
  · rw [if_neg (by simp)]
    exact (ensures_failHere what : Ensures _ ts fun _ _ => False).bind fun _ _ hfalse => hfalse.elim

end Tokens

/-- The tokens that are left are the same as before. -/
def SameTokens (state state' : ParserState) : Prop := state'.tokens = state.tokens

lemma Keeps.ensures_same (h : Keeps SameTokens p) : Ensures p ts fun _ ts' => ts' = ts := by
  rintro state x state' rfl hp
  rw [h.of_ok hp]

lemma Keeps.shrinks_of_same (h : Keeps SameTokens p) : Keeps Shrinks p :=
  fun state => Nat.le_of_eq (congrArg List.length (h state))

/-- The check of a filter passes over no token. -/
lemma sameTokens_checkFilter (r : Registry) (strict : Bool) (position : Nat) (test : Expr) :
    Keeps SameTokens (checkFilter r strict position test) :=
  keeps_checkFilter (fun _ _ => rfl) r strict position test

/-! ## Lists -/

lemma Keeps.ensures_length (h : Keeps Shrinks p) :
    Ensures p ts fun _ ts' => ts'.length ≤ ts.length := by
  rintro state x state' rfl hp
  rw [List.length_map, List.length_map]
  exact h.of_ok hp

/-- A step that passes over a token for each value is one that can be repeated. -/
lemma IsStep.of_ensures {step : Parser (Option α)}
    (h : ∀ ts, Ensures step ts fun x? ts' => x?.isSome → ts'.length < ts.length)
    (hend : ∀ {state}, state.tokens = [] → step state = .ok none state) : IsStep step where
  consumes {state x state'} hx := by simpa using h _ state _ state' rfl hx rfl
  atEnd := hend

lemma isStep_following (separator : Token) {item : Parser α} (hitem : Keeps Shrinks item) :
    IsStep (following separator item) := by
  refine .of_ensures (fun ts => Ensures.eat ?_ fun _ => ?_) ?_
  · rintro rest rfl
    exact .map (hitem.ensures_length.imp fun _ _ hle _ => Nat.lt_succ_of_le hle)
  · exact .pure fun h => by simp at h
  · rintro ⟨tokens, stop, textEnd, diagnostics⟩ rfl
    rfl

/-- A list of items of which some have been read: the others, each after a separator. -/
def collected (separator : Token) (item : Parser α) (items : List α) : Parser (List α) :=
  (items ++ ·) <$> many (following separator item)

lemma collected_eq (separator : Token) {item : Parser α} (hitem : Keeps Shrinks item)
    (items : List α) :
    collected separator item items = do
      if ← eat separator then
        let x ← item
        collected separator item (items ++ [x])
      else return items := by
  unfold collected
  conv =>
    lhs
    rw [(isStep_following separator hitem).many_eq, following, map_bind, bind_assoc]
  congr 1
  funext more
  cases more with
  | false => simp
  | true => simp [following]

lemma ensures_collected {separator : Token} {item : Parser α} (hitem : Keeps Shrinks item)
    {items : List α} {Q : List α → List Token → Prop}
    (hmore : ∀ rest, ts = separator :: rest →
      Ensures (item >>= fun x => collected separator item (items ++ [x])) rest Q)
    (hend : ts.head? ≠ some separator → Q items ts) :
    Ensures (collected separator item items) ts Q := by
  rw [collected_eq separator hitem]
  exact Ensures.eat (fun rest hts => hmore rest hts) fun hhead => .pure (hend hhead)

lemma map_separated (separator : Token) (item : Parser α) :
    (fun xs : α × List α => xs.1 :: xs.2) <$> separated separator item =
      item >>= fun x => collected separator item [x] := by
  unfold separated collected following
  simp

/-- A list is read as its first item and then the others. -/
lemma ensures_separated {separator : Token} {item : Parser α} {Q : List α → List Token → Prop}
    (h : Ensures (item >>= fun x => collected separator item [x]) ts Q) :
    Ensures (separated separator item) ts fun xs ts' => Q (xs.1 :: xs.2) ts' := by
  rw [← map_separated] at h
  intro state xs state' hts hxs
  refine h state (xs.1 :: xs.2) state' hts ?_
  show EStateM.map _ _ _ = _
  unfold EStateM.map
  rw [hxs]

end JsonPath.Parser

namespace JsonPath

/-- A text is read by reading its tokens. -/
theorem Query.exists_of_parse {r : Registry} {c : ParserConfig} {text : String} {q : Query}
    (h : (parse r c text).1 = .ok q) :
    ∃ tokens state, Token.scanAll text = .ok tokens ∧
      Parser.query r c ⟨tokens, 0, text.utf8ByteSize, []⟩ = .ok q state := by
  unfold parse at h
  cases hscan : Token.scanAll text with
  | error e =>
    rw [hscan] at h
    cases h
  | ok tokens =>
    rw [hscan] at h
    cases hread : (Parser.query r c).run ⟨tokens, 0, text.utf8ByteSize, []⟩ with
    | error e state =>
      simp only [hread] at h
      cases h
    | ok q' state =>
      simp only [hread] at h
      cases h
      exact ⟨tokens, state, rfl, hread⟩

end JsonPath
