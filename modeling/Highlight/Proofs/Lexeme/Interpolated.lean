import Highlight.Proofs.Lexeme.Strings

/-! Interpolated strings by their grammar. The code in a hole may hold groups in braces and literals
of all kinds, interpolated strings among them, to any depth. -/
namespace Highlight
namespace Interpolation

/-- A character of the code in a hole that opens and closes nothing. -/
def isCode (c : Char) : Bool :=
  c ≠ '{' && c ≠ '}' && c ≠ '"' && c ≠ '\'' && c ≠ '\\' && !isStringSigil c

/-- A character of the text outside of the holes that stands for itself. -/
def isText (verbatim : Bool) (c : Char) : Bool :=
  c ≠ '"' && c ≠ '{' && (verbatim || c ≠ '\\' && !isLineBreak c)

mutual

/-- The code in a hole. A quote behind a string would be taken for a part of it. -/
inductive Code : List Char → Prop
  | nil : Code []
  | char (plain : isCode c = true) (behind : Code body) : Code (c :: body)
  | group (inner : Code code) (behind : Code body) : Code ('{' :: (code ++ '}' :: body))
  | character (closes : Delimited '\'' tail) (behind : Code body) : Code ('\'' :: (tail ++ body))
  | string (literal : StringLiteral text) (apart : body.head? ≠ some '"') (behind : Code body) :
      Code (text ++ body)

inductive StringLiteral : List Char → Prop
  | plain (closes : Delimited '"' body) : StringLiteral ('"' :: body)
  | verbatim (closes : Doubled body) : StringLiteral ('@' :: '"' :: body)
  | raw (many : 3 ≤ quotes) (closes : RawTail quotes 0 body) (apart : body.head? ≠ some '"') :
      StringLiteral (List.replicate dollars '$' ++ (List.replicate quotes '"' ++ body))
  | interpolated (literal : InterpolatedString text) : StringLiteral text

inductive InterpolatedString : List Char → Prop
  | plain (content : Content false body) : InterpolatedString ('$' :: '"' :: body)
  | verbatim (known : sigils = ['$', '@'] ∨ sigils = ['@', '$']) (content : Content true body) :
      InterpolatedString (sigils ++ '"' :: body)

/-- What stands behind the opening quote of an interpolated string, its closing quote included. -/
inductive Content : Bool → List Char → Prop
  | close : Content verbatim ['"']
  | char (plain : isText verbatim c = true) (behind : Content verbatim body) :
      Content verbatim (c :: body)
  | brace (behind : Content verbatim body) : Content verbatim ('{' :: '{' :: body)
  | escape (solid : isLineBreak c = false) (behind : Content false body) :
      Content false ('\\' :: c :: body)
  | quote (behind : Content true body) : Content true ('"' :: '"' :: body)
  | hole (inner : Code code) (nonempty : code ≠ []) (single : code.head? ≠ some '{')
      (behind : Content verbatim body) : Content verbatim ('{' :: (code ++ '}' :: body))

end

variable {body back rest : List Char} {verbatim : Bool} {holes : Nat} {c : Char}

theorem Closes.step (front : List Char)
    (found : move verbatim holes c (front ++ (back ++ rest)) = .pass front.length holes')
    (behind : Closes verbatim rest holes' back) :
    Closes verbatim rest holes (c :: (front ++ back)) :=
  .pass (.pass found) behind

theorem move_isCode (plain : isCode c = true) (r : List Char) :
    move verbatim (holes + 1) c r = .pass 0 (holes + 1) := by
  simp only [isCode, Bool.and_eq_true, decide_eq_true_eq, Bool.not_eq_true'] at plain
  obtain ⟨⟨⟨⟨⟨noOpen, noClose⟩, noQuote⟩, noCharacter⟩, noEscape⟩, noSigil⟩ := plain
  simp [move, Opening.of?_eq_none noSigil noQuote, noOpen, noClose, noCharacter, noEscape]

theorem move_openBrace (r : List Char) : move verbatim (holes + 1) '{' r = .pass 0 (holes + 2) := by
  simp [move]

theorem move_closeBrace (r : List Char) : move verbatim (holes + 1) '}' r = .pass 0 holes := by
  simp [move]

theorem move_apostrophe (r : List Char) : move verbatim (holes + 1) '\'' r = .character := by
  simp [move, Opening.of?_eq_none (c := '\'') (by decide) (by decide)]

theorem move_opening {opening : Opening} {r : List Char}
    (found : Opening.of? (c :: r) = some opening) :
    move verbatim (holes + 1) c r = .string opening := by
  rcases Opening.head_of_of? found with rfl | rfl | rfl <;> simp [move, found]

theorem move_isText (plain : isText verbatim c = true) (r : List Char) :
    move verbatim 0 c r = .pass 0 0 := by
  simp only [isText, Bool.and_eq_true, decide_eq_true_eq] at plain
  obtain ⟨⟨noQuote, noBrace⟩, free⟩ := plain
  cases verbatim with
  | true => simp [move, noQuote, noBrace]
  | false =>
    simp only [Bool.false_or, Bool.and_eq_true, decide_eq_true_eq, Bool.not_eq_true'] at free
    simp [move, noQuote, noBrace, free]

theorem move_doubleBrace (r : List Char) : move verbatim 0 '{' ('{' :: r) = .pass 1 0 := by
  simp [move, isLineBreak]

theorem move_escape (solid : isLineBreak c = false) (r : List Char) :
    move false 0 '\\' (c :: r) = .pass 1 0 := by
  have slash : isLineBreak '\\' = false := rfl
  simp [move, solid, slash]

theorem move_doubleQuote (r : List Char) : move true 0 '"' ('"' :: r) = .pass 1 0 := by
  simp [move]

theorem move_hole (single : rest.head? ≠ some '{') : move verbatim 0 '{' rest = .pass 0 1 := by
  simp [move, isLineBreak, single]

theorem Content.single (content : Content false body) (head : body.head? = some '"') :
    body = ['"'] := by
  cases content with
  | close => rfl
  | char plain =>
    obtain rfl := Option.some.inj head
    contradiction
  | brace | escape | hole => simp at head

mutual

/-- Behind the code of a hole the string goes on. -/
theorem Code.closes {code : List Char} {verbatim : Bool} {rest back : List Char} {holes : Nat}
    (inner : Code code) (behind : Closes verbatim rest holes back) :
    Closes verbatim rest (holes + 1) (code ++ '}' :: back) := by
  cases inner with
  | nil => exact .step [] (move_closeBrace _) behind
  | char plain inner => exact .step [] (move_isCode plain _) (inner.closes behind)
  | @group code body first inner =>
    rw [List.cons_append, List.append_assoc, List.cons_append]
    exact .step [] (move_openBrace _) (first.closes (inner.closes behind))
  | @character tail body closes inner =>
    rw [List.cons_append, List.append_assoc]
    exact .pass (.character (move_apostrophe _) (delimitedLength?_append.mpr closes))
      (inner.closes behind)
  | @string text body literal apart inner =>
    have edge : (body ++ '}' :: back ++ rest).head? ≠ some '"' := by
      cases body with
      | nil => nofun
      | cons c body => exact apart
    obtain ⟨opening, c, tail, rfl, found, length⟩ := literal.isString edge
    rw [List.append_assoc, List.cons_append]
    exact .pass (.string (move_opening found) length) (inner.closes behind)
termination_by 3 * code.length + 2

/-- Each literal of the grammar is read as one string. -/
theorem StringLiteral.isString {text rest : List Char} (literal : StringLiteral text)
    (edge : rest.head? ≠ some '"') : IsString text rest := by
  cases literal with
  | plain closes => exact isString_plain closes edge
  | verbatim closes => exact isString_verbatim closes edge
  | raw many closes apart => exact isString_raw _ many closes apart edge
  | interpolated literal => exact literal.isString edge
termination_by 3 * text.length + 1

theorem InterpolatedString.isString {text rest : List Char} (literal : InterpolatedString text)
    (edge : rest.head? ≠ some '"') : IsString text rest := by
  cases literal with
  | plain content => exact isString_interpolated (content.closes edge) edge content.single
  | verbatim known content => exact isString_verbatimInterpolated (content.closes edge) known
termination_by 3 * text.length

theorem Content.closes {verbatim : Bool} {body rest : List Char} (content : Content verbatim body)
    (edge : rest.head? ≠ some '"') : Closes verbatim rest 0 body := by
  cases content with
  | close => exact .close (move_eq_close.mpr ⟨rfl, rfl, fun double => edge double.2⟩)
  | char plain behind => exact .step [] (move_isText plain _) (behind.closes edge)
  | brace behind => exact .step [_] (move_doubleBrace _) (behind.closes edge)
  | escape solid behind => exact .step [_] (move_escape solid _) (behind.closes edge)
  | quote behind => exact .step [_] (move_doubleQuote _) (behind.closes edge)
  | @hole code _ body inner nonempty single behind =>
    have head : (code ++ '}' :: body ++ rest).head? ≠ some '{' := by
      rwa [List.append_assoc, List.head?_append_of_ne_nil _ nonempty]
    exact .step [] (move_hole head) (inner.closes (behind.closes edge))
termination_by 3 * body.length
decreasing_by all_goals simp only [List.length_append, List.length_cons]; omega

end

end Interpolation

open Interpolation

/-- An interpolated string is one lexeme, whatever is nested in its holes. -/
theorem lex_interpolatedString {s : String} (literal : InterpolatedString s.toList) :
    lex s = .ok [⟨.literal, s, .start 0⟩] := by
  have string : IsString s.toList [] := literal.isString nofun
  obtain ⟨piece, text, kind, cuts⟩ := string.exists_cuts
  have lexed := lex_of_cuts cuts
  rwa [kind, text, String.ofList_toList] at lexed

/-- A brace in front of a hole, and in the hole a string with a quote and a hole of its own. -/
theorem lex_interpolatedString_nested :
    lex "$\"\x7b\x7b\x7bd[$@\"\"\"\x7b'\x7d'\x7d\"]\x7d\"" = .ok
      [⟨.literal, "$\"\x7b\x7b\x7bd[$@\"\"\"\x7b'\x7d'\x7d\"]\x7d\"", ⟨1, 1, 0⟩⟩] := by
  apply lex_interpolatedString
  have character : Delimited '\'' ['}', '\''] := .pass rfl (by decide) (by decide) (.close rfl)
  have brace : Code ['\'', '}', '\''] := .character character .nil
  have content : Content true ['"', '"', '{', '\'', '}', '\'', '}', '"'] :=
    .quote (.hole brace (by decide) (by decide) .close)
  have known : ['$', '@'] = ['$', '@'] ∨ ['$', '@'] = ['@', '$'] := .inl rfl
  have inner : StringLiteral ['$', '@', '"', '"', '"', '{', '\'', '}', '\'', '}', '"'] :=
    .interpolated (.verbatim known content)
  have index : Code ['d', '[', '$', '@', '"', '"', '"', '{', '\'', '}', '\'', '}', '"', ']'] :=
    .char rfl (.char rfl (.string inner (by decide) (.char rfl .nil)))
  exact .plain (.brace (.hole index (by decide) (by decide) .close))

end Highlight
