import Highlight.Classification.Basic
import Highlight.Lexeme.Lexing

/-! From source text to tokens. -/
namespace Highlight

inductive Error
  | lex (e : LexError)
  | classify (e : ClassifyError)
deriving DecidableEq, Repr

def Error.message : Error → String
  | .lex e => e.message
  | .classify e => e.message

def Error.position : Error → Position
  | .lex e => e.position
  | .classify e => e.position

def tokens (text : String) : Except Error (List Token) :=
  match lex text with
  | .error e => .error (.lex e)
  | .ok xs =>
    match classify xs with
    | .error e => .error (.classify e)
    | .ok ts => .ok ts

/-- The roles of the tokens of a source text, without their places. -/
def roles (text : String) : Except Error (List Role) :=
  (tokens text).map (List.map Token.role)

end Highlight
