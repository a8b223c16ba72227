import JsonPath.Proofs.Canonical.Writable

/-!
# The canonical text as a list of pieces

The canonical text of a query is printed as one string.  Here it is cut into *pieces*: written
tokens and the blanks between them.  `Query.allChars_pieces` says that the pieces put together are
the text, and `Piece.place` gives the tokens of a list of pieces together with the bytes that they
cover, as the scanner would.
-/

namespace JsonPath

/-- A part of a written query. -/
inductive Piece where
  /-- A space between tokens. -/
  | blank
  /-- A token and its characters. -/
  | lexeme (token : Token) (written : List Char)

namespace Piece

/-- The characters of a piece. -/
def chars : Piece → List Char
  | .blank => [' ']
  | .lexeme _ written => written

/-- The characters of pieces, one piece after the other. -/
def allChars (ps : List Piece) : List Char := ps.flatMap chars

/-- The number of bytes of pieces. -/
def width (ps : List Piece) : Nat := Text.byteLength (allChars ps)

/-- The tokens of pieces of which the first stands at the position `offset`. -/
def place (offset : Nat) : List Piece → List Spanned
  | [] => []
  | .blank :: ps => place (offset + 1) ps
  | .lexeme token written :: ps =>
    ⟨token, offset, offset + Text.byteLength written⟩ ::
      place (offset + Text.byteLength written) ps

/-- Puts parentheses around pieces if they are needed. -/
def parenthesize (needed : Bool) (ps : List Piece) : List Piece :=
  if needed then .lexeme .leftParen ['('] :: (ps ++ [.lexeme .rightParen [')']]) else ps

/-- An integer of a segment. -/
def integer (i : Int64) : Piece :=
  .lexeme (.number (Text.ofInt i.toInt)) (Text.ofInt i.toInt).toList

/-- An optional part of a slice. -/
def bound : Option Int64 → List Piece
  | none => []
  | some i => [integer i]

/-- The second colon of a slice with the step after it. -/
def step : Option Int64 → List Piece
  | none => []
  | some i => [.lexeme .colon [':'], integer i]

/-- The written form of a literal.  Arrays and objects have no token; theirs is arbitrary. -/
def literal (value : Json) : Piece :=
  .lexeme
    (match value with
      | .string s => .string s
      | .number n => .number n.text
      | .bool true => .true
      | .bool false => .false
      | _ => .null)
    value.text.toList

/-- An operator with a blank on either side. -/
def operator (token : Token) (written : List Char) : List Piece :=
  [.blank, .lexeme token written, .blank]

end Piece

/-- The token of an anchor. -/
def Anchor.token : Anchor → Token
  | .root => .root
  | .current => .current

mutual

/-- The pieces of a selector as it stands between brackets. -/
def Segment.selectorPieces : Segment → List Piece
  | .key name => [.lexeme (.string name) (Text.quoteName name).toList]
  | .index i => [.integer i]
  | .slice start stop step =>
    Piece.bound start ++ .lexeme .colon [':'] :: (Piece.bound stop ++ Piece.step step)
  | .wildcard => [.lexeme .star ['*']]
  | .union selectors => Segment.unionPieces selectors
  | .descendant selector => .lexeme .doubleDot ['.', '.'] :: selector.selectorPieces
  | .filter test => .lexeme .question ['?'] :: test.pieces

/-- The pieces of the selectors of a union. -/
def Segment.unionPieces : List Segment → List Piece
  | [] => []
  | [s] => s.selectorPieces
  | s :: rest =>
    s.selectorPieces ++ .lexeme .comma [','] :: .blank :: Segment.unionPieces rest

/-- The pieces of the segments of a query. -/
def Segment.pieces : List Segment → List Piece
  | [] => []
  | .descendant selector :: rest =>
    .lexeme .doubleDot ['.', '.'] :: .lexeme .leftBracket ['['] ::
      (selector.selectorPieces ++ .lexeme .rightBracket [']'] :: Segment.pieces rest)
  | s :: rest =>
    .lexeme .leftBracket ['['] ::
      (s.selectorPieces ++ .lexeme .rightBracket [']'] :: Segment.pieces rest)

/-- The pieces of an expression. -/
def Expr.pieces : Expr → List Piece
  | .literal value => [.literal value]
  | .query anchor segments => .lexeme anchor.token anchor.symbol.toList :: Segment.pieces segments
  | .not e => .lexeme .not ['!'] :: Piece.parenthesize (!e.isNegatedBare) e.pieces
  | .and l r =>
    Piece.parenthesize (l.precedence < 2) l.pieces ++
      (Piece.operator .and ['&', '&'] ++ Piece.parenthesize (r.precedence < 3) r.pieces)
  | .or l r =>
    Piece.parenthesize (l.precedence < 1) l.pieces ++
      (Piece.operator .or ['|', '|'] ++ Piece.parenthesize (r.precedence < 2) r.pieces)
  | .compare op l r =>
    Piece.parenthesize (l.precedence < 4) l.pieces ++
      (Piece.operator (.comparison op) op.symbol.toList ++
        Piece.parenthesize (r.precedence < 4) r.pieces)
  | .call function arguments =>
    .lexeme (.name function) function.toList :: .lexeme .leftParen ['('] ::
      (Expr.argumentPieces arguments ++ [.lexeme .rightParen [')']])

/-- The pieces of the arguments of a call. -/
def Expr.argumentPieces : List Expr → List Piece
  | [] => []
  | [e] => e.pieces
  | e :: rest => e.pieces ++ .lexeme .comma [','] :: .blank :: Expr.argumentPieces rest

end

/-- The pieces of a query. -/
def Query.pieces (q : Query) : List Piece :=
  .lexeme q.anchor.token q.anchor.symbol.toList :: Segment.pieces q.segments

/-! ## The pieces make up the text -/

namespace Piece

@[simp] lemma allChars_nil : allChars [] = [] := rfl

@[simp] lemma allChars_blank (ps : List Piece) : allChars (.blank :: ps) = ' ' :: allChars ps :=
  rfl

@[simp] lemma allChars_lexeme (token : Token) (written : List Char) (ps : List Piece) :
    allChars (.lexeme token written :: ps) = written ++ allChars ps := rfl

@[simp] lemma allChars_append (ps qs : List Piece) :
    allChars (ps ++ qs) = allChars ps ++ allChars qs := List.flatMap_append

@[simp] lemma allChars_integer (i : Int64) (ps : List Piece) :
    allChars (integer i :: ps) = (Text.ofInt i.toInt).toList ++ allChars ps := rfl

@[simp] lemma allChars_literal (value : Json) (ps : List Piece) :
    allChars (literal value :: ps) = value.text.toList ++ allChars ps := rfl

@[simp] lemma allChars_bound (i : Option Int64) :
    allChars (bound i) = (Text.ofBound i).toList := by
  cases i <;> simp [bound, Text.ofBound]

lemma allChars_parenthesize {ps : List Piece} {text : String} (needed : Bool)
    (h : allChars ps = text.toList) :
    allChars (parenthesize needed ps) = (Text.parenthesize needed text).toList := by
  cases needed <;> simp [parenthesize, Text.parenthesize, h]

lemma allChars_operator {ps qs : List Piece} {left right : String} (needed needed' : Bool)
    (token : Token) (written : List Char) (hps : allChars ps = left.toList)
    (hqs : allChars qs = right.toList) :
    allChars (parenthesize needed ps ++ (operator token written ++ parenthesize needed' qs)) =
      (Text.parenthesize needed left).toList ++
        ' ' :: (written ++ ' ' :: (Text.parenthesize needed' right).toList) := by
  rw [allChars_append, allChars_append, allChars_parenthesize needed hps,
    allChars_parenthesize needed' hqs]
  simp [operator]

end Piece

lemma allChars_slice (start stop step : Option Int64) :
    Piece.allChars (Segment.slice start stop step).selectorPieces =
      (Segment.slice start stop step).selectorText.toList := by
  cases step <;>
    simp [Segment.selectorPieces, Segment.selectorText, Text.ofSlice, Piece.step]

/-- Every segment but a descendant segment opens with a bracket alone. -/
lemma Segment.pieces_cons {s : Segment} (h : s.isDescendant = false) (rest : List Segment) :
    Segment.pieces (s :: rest) = .lexeme .leftBracket ['['] ::
      (s.selectorPieces ++ .lexeme .rightBracket [']'] :: Segment.pieces rest) := by
  cases s <;> first | rfl | simp [Segment.isDescendant] at h

lemma Segment.texts_cons {s : Segment} (h : s.isDescendant = false) (rest : List Segment) :
    Segment.texts (s :: rest) = "[" ++ s.selectorText ++ "]" ++ Segment.texts rest := by
  cases s <;> first | rfl | simp [Segment.isDescendant] at h

mutual

lemma Segment.allChars_selectorPieces (s : Segment) :
    Piece.allChars s.selectorPieces = s.selectorText.toList := by
  cases s with
  | key name => simp [Segment.selectorPieces, Segment.selectorText]
  | index i => simp [Segment.selectorPieces, Segment.selectorText]
  | slice start stop step => exact allChars_slice start stop step
  | wildcard => simp [Segment.selectorPieces, Segment.selectorText]
  | union selectors =>
    simp [Segment.selectorPieces, Segment.selectorText,
      Segment.allChars_unionPieces selectors]
  | descendant selector =>
    simp [Segment.selectorPieces, Segment.selectorText,
      Segment.allChars_selectorPieces selector]
  | filter test =>
    simp [Segment.selectorPieces, Segment.selectorText, Expr.allChars_pieces test]

lemma Segment.allChars_unionPieces (ss : List Segment) :
    Piece.allChars (Segment.unionPieces ss) = (Segment.selectorTexts ss).toList := by
  match ss with
  | [] => rfl
  | [s] => exact Segment.allChars_selectorPieces s
  | s :: s' :: rest =>
    have hs := Segment.allChars_selectorPieces s
    have hrest := Segment.allChars_unionPieces (s' :: rest)
    simp [Segment.unionPieces, Segment.selectorTexts, hs, hrest]

theorem Segment.allChars_pieces (ss : List Segment) :
    Piece.allChars (Segment.pieces ss) = (Segment.texts ss).toList := by
  match ss with
  | [] => rfl
  | s :: rest =>
    have hrest := Segment.allChars_pieces rest
    cases hs : s.isDescendant with
    | false =>
      have hself := Segment.allChars_selectorPieces s
      rw [Segment.pieces_cons hs, Segment.texts_cons hs]
      simp [hself, hrest]
    | true =>
      cases s with
      | descendant selector =>
        have hself := Segment.allChars_selectorPieces selector
        simp [Segment.pieces, Segment.texts, hself, hrest]
      | _ => simp [Segment.isDescendant] at hs

theorem Expr.allChars_pieces (e : Expr) : Piece.allChars e.pieces = e.text.toList := by
  cases e with
  | literal value => simp [Expr.pieces, Expr.text]
  | query anchor segments =>
    simp [Expr.pieces, Expr.text, Segment.allChars_pieces segments]
  | not e =>
    have h := Piece.allChars_parenthesize (!e.isNegatedBare) (Expr.allChars_pieces e)
    simp [Expr.pieces, Expr.text, h]
  | and l r =>
    have hl := Expr.allChars_pieces l
    have hr := Expr.allChars_pieces r
    rw [Expr.pieces, Expr.text, Piece.allChars_operator _ _ _ _ hl hr]
    simp
  | or l r =>
    have hl := Expr.allChars_pieces l
    have hr := Expr.allChars_pieces r
    rw [Expr.pieces, Expr.text, Piece.allChars_operator _ _ _ _ hl hr]
    simp
  | compare op l r =>
    have hl := Expr.allChars_pieces l
    have hr := Expr.allChars_pieces r
    rw [Expr.pieces, Expr.text, Piece.allChars_operator _ _ _ _ hl hr]
    simp
  | call function arguments =>
    simp [Expr.pieces, Expr.text, Expr.allChars_argumentPieces arguments]

lemma Expr.allChars_argumentPieces (es : List Expr) :
    Piece.allChars (Expr.argumentPieces es) = (Expr.argumentTexts es).toList := by
  match es with
  | [] => rfl
  | [e] => exact Expr.allChars_pieces e
  | e :: e' :: rest =>
    have he := Expr.allChars_pieces e
    have hrest := Expr.allChars_argumentPieces (e' :: rest)
    simp [Expr.argumentPieces, Expr.argumentTexts, he, hrest]

end

/-- The canonical text of a query is made up of its pieces. -/
theorem Query.allChars_pieces (q : Query) : Piece.allChars q.pieces = q.text.toList := by
  simp [Query.pieces, Query.text, Segment.allChars_pieces]

/-! ## Placed pieces -/

namespace Piece

lemma byteLength_append (s t : List Char) :
    Text.byteLength (s ++ t) = Text.byteLength s + Text.byteLength t := by
  induction s with
  | nil => simp [Text.byteLength]
  | cons c s ih => simp [Text.byteLength, ih, Nat.add_assoc]

@[simp] lemma width_nil : width [] = 0 := rfl

@[simp] lemma width_blank (ps : List Piece) : width (.blank :: ps) = 1 + width ps := rfl

@[simp] lemma width_lexeme (token : Token) (written : List Char) (ps : List Piece) :
    width (.lexeme token written :: ps) = Text.byteLength written + width ps :=
  byteLength_append written (allChars ps)

@[simp] lemma width_append (ps qs : List Piece) : width (ps ++ qs) = width ps + width qs := by
  rw [width, allChars_append, byteLength_append]
  rfl

lemma place_append (offset : Nat) (ps qs : List Piece) :
    place offset (ps ++ qs) = place offset ps ++ place (offset + width ps) qs := by
  induction ps generalizing offset with
  | nil => rfl
  | cons p ps ih =>
    cases p with
    | blank => simp [place, ih, Nat.add_assoc]
    | lexeme token written => simp [place, ih, Nat.add_assoc]

end Piece

end JsonPath
