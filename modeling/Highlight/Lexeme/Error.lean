import Highlight.Position
import Highlight.Text.Quoted

/-! Why a text cannot be cut into lexemes. -/
namespace Highlight

inductive LexFault
  | unterminatedString
  | unterminatedCharacter
  | unterminatedComment
  | unexpectedCharacter (c : Char)
deriving DecidableEq, Repr

def LexFault.message : LexFault → String
  | .unterminatedString => "unterminated string literal"
  | .unterminatedCharacter => "unterminated character literal"
  | .unterminatedComment => "unterminated block comment"
  | .unexpectedCharacter c => "unexpected character: " ++ Text.quoted '\'' (String.singleton c)

/-- The literal or comment starts at the position, or the character stands there. -/
structure LexError where
  fault : LexFault
  position : Position
deriving DecidableEq, Repr

def LexError.message (e : LexError) : String :=
  e.fault.message ++ " at " ++ e.position.describe

end Highlight
