import Highlight.Lexeme.Basic
import Highlight.Lexeme.Literal

/-! Forms of lexemes. The first characters of a lexeme decide its form, and the form decides how
far the lexeme reaches. -/
namespace Highlight

inductive Form
  | lineBreak
  | directive
  | blanks
  | lineComment
  | blockComment
  | string (opening : Opening)
  | character
  | number
  | word
  | mark
deriving DecidableEq, Repr

namespace Form

def kind : Form → LexemeKind
  | .lineBreak => .newline
  | .directive => .directive
  | .blanks => .whitespace
  | .lineComment | .blockComment => .comment
  | .string _ | .character | .number => .literal
  | .word => .word
  | .mark => .punctuation

/-- The form of a lexeme that starts with `c` and is followed by `r`. A `#` starts a directive only
with nothing but blanks before it on its line. -/
def of? (lineStart : Bool) (c : Char) (r : List Char) : Option Form :=
  if isLineBreak c then some .lineBreak
  else if lineStart && c = '#' then some .directive
  else if isBlank c then some .blanks
  else if c = '/' && r.head? = some '/' then some .lineComment
  else if c = '/' && r.head? = some '*' then some .blockComment
  else if let some opening := Opening.of? (c :: r) then some (.string opening)
  else if c = '\'' then some .character
  else if c.isDigit then some .number
  else if isWordStart c || c = '@' && r.head?.any isWordStart then some .word
  else if isPunctuation c then some .mark
  else none

/-- Whether the line still holds blanks only, after a lexeme of this form. -/
def keepsLineStart (lineStart : Bool) : Form → Bool
  | .lineBreak => true
  | .blanks => lineStart
  | _ => false

end Form

/-- Letters, digits and underscores, and points with a digit after them. -/
def numberLength : List Char → Nat
  | [] => 0
  | c :: r =>
    if c.isAlphanum || c = '_' || c = '.' && r.head?.any Char.isDigit then numberLength r + 1 else 0

/-- How many characters of `r` belong to the lexeme of the given form that starts with `c`. -/
def Form.length (c : Char) (r : List Char) : Form → Except RelativeFault Nat
  | .lineBreak => .ok (if c = '\r' && r.head? = some '\n' then 1 else 0)
  | .directive | .lineComment => .ok (runLength (!isLineBreak ·) r)
  | .blanks => .ok (runLength isBlank r)
  | .blockComment =>
    match commentLength? (r.drop 1) with
    | some length => .ok (length + 1)
    | none => .error ⟨.unterminatedComment, 0⟩
  | .string opening => opening.length r
  | .character =>
    match delimitedLength? '\'' r with
    | some length => .ok length
    | none => .error ⟨.unterminatedCharacter, 0⟩
  | .number => .ok (numberLength r)
  | .word => .ok (runLength isWordContinue r)
  | .mark => .ok 0

end Highlight
