import Highlight.Position
import Highlight.Text.Quoted
import Highlight.Vocabulary.Keyword
import Highlight.Vocabulary.Modifier
import Highlight.Vocabulary.Punctuation

/-! Tokens: lexemes with the role that their context gives them. -/
namespace Highlight

/-- What a lexeme is, together with its text where the role does not fix it. Names are declared and
types are referred to. -/
inductive Role
  | keyword (keyword : Keyword)
  | modifier (modifier : Modifier)
  | punctuation (punctuation : Punctuation)
  | name (kind : DeclKind) (text : String)
  | type (text : String)
  | typeParameter (text : String)
  | enumMember (text : String)
  | identifier (text : String)
  | literal (text : String)
deriving DecidableEq, Repr

namespace Role

/-- The text of roles that carry one. -/
def payload? : Role → Option String
  | .keyword _ | .modifier _ | .punctuation _ => none
  | .name _ text | .type text | .typeParameter text | .enumMember text | .identifier text
  | .literal text => some text

def text : Role → String
  | .keyword k => k.spelling
  | .modifier m => m.spelling
  | .punctuation p => p.spelling
  | .name _ text | .type text | .typeParameter text | .enumMember text | .identifier text
  | .literal text => text

/-- The role in words. Literals stand as they are, they have quotes of their own. -/
def describe : Role → String
  | .keyword k => "keyword " ++ k.spelling
  | .modifier m => "modifier " ++ m.spelling
  | .punctuation p => "punctuation " ++ p.title
  | .name kind text => kind.spelling ++ " name " ++ Text.quoted '"' text
  | .type text => "type " ++ Text.quoted '"' text
  | .typeParameter text => "type parameter " ++ Text.quoted '"' text
  | .enumMember text => "enum member " ++ Text.quoted '"' text
  | .identifier text => "identifier " ++ Text.quoted '"' text
  | .literal text => "literal " ++ text

end Role

structure Token where
  role : Role
  position : Position
deriving DecidableEq, Repr

end Highlight
