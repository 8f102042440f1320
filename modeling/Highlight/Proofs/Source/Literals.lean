import Highlight.Proofs.Source.Reformatting
import Highlight.Token.Selector

/-! Literals are told apart twice: when a text is cut, by how they start, and when a style is picked
for their token, by what stands behind their sigils. Both agree. -/
namespace Highlight

def Form.selector? : Form → Option String
  | .string _ => some "string.quoted.double.cs"
  | .character => some "string.quoted.single.cs"
  | .number => some "constant.numeric.cs"
  | _ => none

def Role.isLiteral : Role → Bool
  | .literal _ => true
  | _ => false

/-- The token has the text of the piece and is a literal if the piece is one. The selector of a
literal tells by which reader the piece was cut. -/
structure Piece.SelectedAs (piece : Piece) (t : Token) : Prop where
  text : t.role.text = String.ofList piece.text
  literal : (∃ w, t.role = .literal w) ↔ piece.form.kind = .literal
  string : ∀ w, t.role = .literal w →
    (t.role.selector = "string.quoted.double.cs" ↔ ∃ opening, piece.form = .string opening)
  character : ∀ w, t.role = .literal w →
    (t.role.selector = "string.quoted.single.cs" ↔ piece.form = .character)
  number : ∀ w, t.role = .literal w →
    (t.role.selector = "constant.numeric.cs" ↔ piece.form = .number)

namespace Piece

variable {piece : Piece}

/-- The opening of a string ends inside of it. -/
theorem Cuts.ahead_lt {opening : Opening} (cuts : piece.Cuts lineStart rest)
    (string : piece.form = .string opening) : opening.ahead < piece.text.length := by
  have read := cuts.length
  rw [string] at read
  exact Nat.lt_succ_of_le (Opening.length_append.mp read).1

/-- A string starts with sigils, if any, and a quote. -/
theorem Cuts.exists_quote {opening : Opening} (cuts : piece.Cuts lineStart rest)
    (string : piece.form = .string opening) :
    ∃ behind, piece.text.dropWhile isStringSigil = '"' :: behind := by
  have starts := cuts.starts
  rw [string] at starts
  cases starts with
  | string found =>
    have inside : opening.ahead < piece.text.length := cuts.ahead_lt string
    obtain ⟨sigils, behind, written, all⟩ := Opening.exists_written found inside
    refine ⟨behind, ?_⟩
    rw [written, List.dropWhile_append_of_pos all, List.dropWhile_cons_of_neg (by decide)]

theorem Cuts.isDigit_head (cuts : piece.Cuts lineStart rest) (number : piece.form = .number) :
    piece.head.isDigit = true := by
  have starts := cuts.starts
  rw [number] at starts
  cases starts with
  | number digit => exact digit

theorem Cuts.head_character (cuts : piece.Cuts lineStart rest)
    (character : piece.form = .character) : piece.head = '\'' := by
  have starts := cuts.starts
  rw [character] at starts
  cases starts with
  | character apostrophe => exact apostrophe

end Piece

theorem literalSelector_ofList (cs : List Char) :
    literalSelector (String.ofList cs) =
      match (cs.dropWhile isStringSigil).head? with
      | some '"' => "string.quoted.double.cs"
      | some '\'' => "string.quoted.single.cs"
      | _ => "constant.numeric.cs" := by
  rw [literalSelector, String.toList_ofList]
  rfl

theorem literalSelector_of_isDigit (digit : c.isDigit = true) (cs : List Char) :
    literalSelector (String.ofList (c :: cs)) = "constant.numeric.cs" := by
  have ne : ∀ d : Char, d.isDigit = false → c ≠ d := by
    rintro d other rfl
    rw [digit] at other
    contradiction
  have noSigil : isStringSigil c = false := by
    simp [isStringSigil, ne '@' rfl, ne '$' rfl]
  rw [literalSelector_ofList, List.dropWhile_cons_of_neg (Bool.eq_false_iff.mp noSigil),
    List.head?_cons]
  split
  · next quote => exact absurd (Option.some.inj quote) (ne '"' rfl)
  · next apostrophe => exact absurd (Option.some.inj apostrophe) (ne '\'' rfl)
  · rfl

/-- The selector of a literal is that of its form. -/
theorem Piece.Cuts.literalSelector_eq {piece : Piece} (cuts : piece.Cuts lineStart rest)
    (literal : piece.form.kind = .literal) :
    piece.form.selector? = some (literalSelector (String.ofList piece.text)) := by
  cases form : piece.form with
  | string opening =>
    obtain ⟨behind, quote⟩ := cuts.exists_quote form
    rw [literalSelector_ofList, quote]
    rfl
  | character =>
    rw [Piece.text, cuts.head_character form, literalSelector_ofList]
    rfl
  | number =>
    rw [Piece.text, literalSelector_of_isDigit (cuts.isDigit_head form)]
    rfl
  | lineBreak | directive | blanks | lineComment | blockComment | word | mark =>
    rw [form] at literal
    contradiction

/-- Literals keep their kind as tokens, and nothing else is made a literal. -/
def Token.LiteralAs (t : Token) (x : Lexeme) : Prop :=
  t.role.isLiteral = true ↔ x.kind = .literal

theorem OnWord.isLiteral (onWord : OnWord around w p s t) : t.role.isLiteral = false := by
  have ofWord : (Role.ofWord w).isLiteral = false := by
    unfold Role.ofWord
    split <;> rfl
  cases onWord with
  | ordinary | headerClause | headerWord | parameter | baseArgument | plain => exact ofWord
  | _ => rfl

theorem Token.LiteralAs.retract (same : Token.LiteralAs t x) : t.retract.LiteralAs x := by
  unfold Token.retract
  split
  · next was =>
    unfold Token.LiteralAs at same ⊢
    rw [was] at same
    exact same
  · exact same

/-- Turns make literals of literals alone. -/
theorem Statement.Takes.literalAs (taken : Takes s around x t) :
    Token.LiteralAs ⟨t.role, p⟩ x := by
  unfold Token.LiteralAs
  cases taken with
  | word kind =>
    rw [(onWord_word s around x.text x.position).isLiteral, kind]
    decide
  | literal kind =>
    rw [Statement.literal, role_leave, kind]
    exact iff_of_true rfl rfl
  | mark kind =>
    rw [kind]
    rcases (onMark_mark s around _ x.position).role_eq with role | ⟨_, _, role⟩ <;>
      rw [role] <;> simp [Role.isLiteral]

theorem literalAs_of_classify (classified : classify xs = .ok ts) :
    List.Forall₂ Token.LiteralAs ts (significant xs) := by
  obtain ⟨s, read, _, rfl⟩ := classify_eq_ok.mp classified
  refine State.read_forall₂ Token.LiteralAs.retract (fun taken => taken.literalAs) ?_ read
  intro x m kind _
  rw [Token.LiteralAs, kind]
  simp [Role.isLiteral]

theorem Role.isLiteral_iff (role : Role) : role.isLiteral = true ↔ ∃ w, role = .literal w := by
  cases role <;> simp [isLiteral]

def Piece.ofText (text : String) : List Piece :=
  (Segmentation.of true (Lexing.content text.toList).2).pieces

theorem Piece.exists_cuts_of_mem {piece : Piece} {source : String}
    (member : piece ∈ Piece.ofText source) : ∃ lineStart rest, piece.Cuts lineStart rest := by
  obtain ⟨_, _, chain, _⟩ := Segmentation.exists_chain true (Lexing.content source.toList).2
  exact chain.exists_cuts member

/-- The characters of a literal tell by which reader it was cut. -/
theorem Piece.selectedAs {piece : Piece} {t : Token} (cuts : piece.Cuts lineStart rest)
    (text : t.role.text = String.ofList piece.text)
    (literal : t.role.isLiteral = true ↔ piece.form.kind = .literal) : piece.SelectedAs t := by
  have selects : ∀ w, t.role = .literal w → piece.form.selector? = some t.role.selector := by
    intro w role
    have kind := literal.mp (by rw [role]; rfl)
    have selector := cuts.literalSelector_eq kind
    rw [← text, role] at selector
    rw [role]
    exact selector
  refine ⟨text, (Role.isLiteral_iff _).symm.trans literal, ?_, ?_, ?_⟩
  all_goals
    intro w role
    have selector := selects w role
    generalize t.role.selector = chosen at selector
    cases form : piece.form <;> rw [form] at selector <;> cases selector <;> simp

/-- What does not depend on places relates tokens to pieces as it relates them to lexemes. -/
theorem forall₂_pieces {Relates : Token → Lexeme → Prop}
    (moved : ∀ {t x} (f : Position → Position), Relates t x → Relates t (x.relocate f))
    (related : List.Forall₂ Relates ts (significant (Piece.locate p ps))) :
    List.Forall₂ (fun t piece => Relates t (piece.lexeme p)) ts (Piece.significant ps) := by
  have there : List.Forall₂ Relates ts
      ((significant (Piece.locate p ps)).map (Lexeme.relocate fun _ => p)) := by
    rw [List.forall₂_map_right_iff]
    exact related.imp fun _ _ => moved _
  rw [map_significant_locate _ (fun _ => rfl), List.forall₂_map_right_iff] at there
  exact there

/-- The tokens of a text are its significant pieces, one by one. The selector of a literal is the
one for strings, for characters or for numbers exactly when a reader of strings, the reader of
characters or the reader of numbers has cut its piece. -/
theorem selectors_of_tokens (found : tokens text = .ok ts) :
    lex text = .ok (Piece.locate (Lexing.content text.toList).1 (Piece.ofText text)) ∧
      List.Forall₂ Piece.SelectedAs (Piece.significant (Piece.ofText text)) ts := by
  obtain ⟨xs, lexed, classified⟩ := tokens_eq_ok found
  obtain rfl : Piece.locate (Lexing.content text.toList).1 (Piece.ofText text) = xs :=
    lexemes_of_lex lexed
  refine ⟨lexed, ?_⟩
  have spelled := forall₂_pieces (fun _ covers => covers)
    ((classify_covers classified).imp fun _ _ covers => covers.text)
  have literals := forall₂_pieces (fun _ same => same) (literalAs_of_classify classified)
  have cut : ∀ piece ∈ Piece.significant (Piece.ofText text),
      ∃ lineStart rest, piece.Cuts lineStart rest := fun piece member =>
    Piece.exists_cuts_of_mem (List.mem_of_mem_filter member)
  have both := (List.forall₂_and_left _ _).mpr
    ⟨cut, spelled.flip.mp (fun _ _ text literal => And.intro text literal) literals.flip⟩
  refine both.imp ?_
  rintro piece t ⟨⟨_, _, cuts⟩, text, literal⟩
  exact Piece.selectedAs cuts text literal

/-- A string with two sigils and an apostrophe behind its quote, a quote as a character, and a
number. -/
theorem selectors_of_tokens_sigils :
    ∃ ts, tokens "$@\"'\" '\"' 0x1F" = .ok ts ∧
      ts.map (fun t => t.role.selector) =
        ["string.quoted.double.cs", "string.quoted.single.cs", "constant.numeric.cs"] ∧
      List.Forall₂ Piece.SelectedAs (Piece.significant (Piece.ofText "$@\"'\" '\"' 0x1F")) ts := by
  have found : tokens "$@\"'\" '\"' 0x1F" = .ok
      [⟨.literal "$@\"'\"", ⟨1, 1, 0⟩⟩, ⟨.literal "'\"'", ⟨1, 7, 6⟩⟩,
        ⟨.literal "0x1F", ⟨1, 11, 10⟩⟩] := by decide +kernel
  exact ⟨_, found, by decide +kernel, (selectors_of_tokens found).2⟩

end Highlight
