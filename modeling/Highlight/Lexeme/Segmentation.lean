import Highlight.Lexeme.Form

/-! A text cut into pieces. The cutting depends on the characters ahead and on whether a line has
had blanks only, and not on places, which `Lexing` adds. -/
namespace Highlight

/-- The characters of a lexeme. There is always a first one. -/
structure Piece where
  form : Form
  head : Char
  tail : List Char
deriving DecidableEq, Repr

def Piece.text (piece : Piece) : List Char :=
  piece.head :: piece.tail

/-- Why the cutting ended early: a fault with the characters between the last piece and it. -/
structure Obstacle where
  fault : LexFault
  skipped : List Char
deriving DecidableEq, Repr

/-- The pieces of a text, up to the first fault if there is one. -/
structure Segmentation where
  pieces : List Piece
  obstacle? : Option Obstacle
deriving DecidableEq, Repr

def Segmentation.of (lineStart : Bool) : List Char → Segmentation
  | [] => ⟨[], none⟩
  | c :: r =>
    match Form.of? lineStart c r with
    | none => ⟨[], some ⟨.unexpectedCharacter c, []⟩⟩
    | some form =>
      match form.length c r with
      | .error e => ⟨[], some ⟨e.fault, (c :: r).take e.ahead⟩⟩
      | .ok length =>
        let rest := Segmentation.of (form.keepsLineStart lineStart) (r.drop length)
        ⟨⟨form, c, r.take length⟩ :: rest.pieces, rest.obstacle?⟩
termination_by cs => cs.length
decreasing_by simp only [List.length_drop, List.length_cons]; omega

end Highlight
