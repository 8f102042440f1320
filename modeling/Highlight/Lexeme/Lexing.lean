import Highlight.Lexeme.Segmentation

/-! Lexemes of a text, with their places. -/
namespace Highlight

/-- The place after a piece that starts at `p`. A line break counts as one line, however it is
written. -/
def Piece.advance (p : Position) (piece : Piece) : Position :=
  if piece.form = .lineBreak then p.afterBreak piece.text else p.after piece.text

def Piece.locate (p : Position) : List Piece → List Lexeme
  | [] => []
  | piece :: pieces =>
    ⟨piece.form.kind, String.ofList piece.text, p⟩ :: locate (piece.advance p) pieces

/-- The lexemes of a text, up to the first error if there is one. -/
structure Lexing where
  lexemes : List Lexeme
  error? : Option LexError
deriving DecidableEq, Repr

namespace Lexing

/-- A byte order mark at the start of a text is no character of it. -/
def byteOrderMark : Char := '\ufeff'

/-- The place of the first character, and the characters from there on. -/
def content : List Char → Position × List Char
  | [] => (.start 0, [])
  | c :: r => if c = byteOrderMark then (.start c.utf8Size, r) else (.start 0, c :: r)

def of (text : String) : Lexing :=
  let (p, cs) := content text.toList
  let cut := Segmentation.of true cs
  { lexemes := Piece.locate p cut.pieces
    error? := cut.obstacle?.map fun o =>
      ⟨o.fault, (cut.pieces.foldl Piece.advance p).after o.skipped⟩ }

end Lexing

/-- The lexemes of a text. Their texts, one after the other, are the whole text without its byte
order mark. -/
def lex (text : String) : Except LexError (List Lexeme) :=
  let lexing := Lexing.of text
  match lexing.error? with
  | some e => .error e
  | none => .ok lexing.lexemes

end Highlight
