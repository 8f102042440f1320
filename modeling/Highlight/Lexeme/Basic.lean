import Highlight.Position

/-! Lexemes: the pieces a text is cut into, before any of them has a role. -/
namespace Highlight

inductive LexemeKind
  | word
  | punctuation
  | literal
  | whitespace
  | newline
  | comment
  | directive
deriving DecidableEq, Repr

/-- Trivia separates lexemes and never becomes a token. -/
def LexemeKind.isTrivia : LexemeKind → Bool
  | .word | .punctuation | .literal => false
  | .whitespace | .newline | .comment | .directive => true

structure Lexeme where
  kind : LexemeKind
  text : String
  position : Position
deriving DecidableEq, Repr

end Highlight
