/-! Roles of punctuation marks. A mark has one role on its own; `<` and `>` have others inside a
declaration, where they are brackets. -/
namespace Highlight

inductive Punctuation
  | openBrace
  | closeBrace
  | openParen
  | closeParen
  | openBracket
  | closeBracket
  | typeParametersBegin
  | typeParametersEnd
  | typeArgumentsBegin
  | typeArgumentsEnd
  | comma
  | colon
  | semicolon
  | accessor
  | lessThan
  | greaterThan
  | equals
  | question
  | plus
  | minus
  | asterisk
  | slash
  | percent
  | ampersand
  | bar
  | caret
  | exclamation
  | tilde
deriving DecidableEq, Repr

namespace Punctuation

def spelling : Punctuation → String
  | openBrace => "\x7b"
  | closeBrace => "\x7d"
  | openParen => "("
  | closeParen => ")"
  | openBracket => "["
  | closeBracket => "]"
  | typeParametersBegin | typeArgumentsBegin | lessThan => "<"
  | typeParametersEnd | typeArgumentsEnd | greaterThan => ">"
  | comma => ","
  | colon => ":"
  | semicolon => ";"
  | accessor => "."
  | equals => "="
  | question => "?"
  | plus => "+"
  | minus => "-"
  | asterisk => "*"
  | slash => "/"
  | percent => "%"
  | ampersand => "&"
  | bar => "|"
  | caret => "^"
  | exclamation => "!"
  | tilde => "~"

/-- The roles that marks have on their own. -/
def marks : List Punctuation :=
  [openBrace, closeBrace, openParen, closeParen, openBracket, closeBracket, comma, colon,
   semicolon, accessor, lessThan, greaterThan, equals, question, plus, minus, asterisk, slash,
   percent, ampersand, bar, caret, exclamation, tilde]

/-- The roles that `<` and `>` have as brackets. -/
def angles : List Punctuation :=
  [typeParametersBegin, typeParametersEnd, typeArgumentsBegin, typeArgumentsEnd]

def all : List Punctuation :=
  marks ++ angles

def ofMark? (mark : String) : Option Punctuation :=
  marks.find? (·.spelling = mark)

def words : Punctuation → List String
  | openBrace => ["open", "brace"]
  | closeBrace => ["close", "brace"]
  | openParen => ["open", "paren"]
  | closeParen => ["close", "paren"]
  | openBracket => ["open", "bracket"]
  | closeBracket => ["close", "bracket"]
  | typeParametersBegin => ["type", "parameters", "begin"]
  | typeParametersEnd => ["type", "parameters", "end"]
  | typeArgumentsBegin => ["type", "arguments", "begin"]
  | typeArgumentsEnd => ["type", "arguments", "end"]
  | comma => ["comma"]
  | colon => ["colon"]
  | semicolon => ["semicolon"]
  | accessor => ["accessor"]
  | lessThan => ["less", "than"]
  | greaterThan => ["greater", "than"]
  | equals => ["equals"]
  | question => ["question"]
  | plus => ["plus"]
  | minus => ["minus"]
  | asterisk => ["asterisk"]
  | slash => ["slash"]
  | percent => ["percent"]
  | ampersand => ["ampersand"]
  | bar => ["bar"]
  | caret => ["caret"]
  | exclamation => ["exclamation"]
  | tilde => ["tilde"]

/-- The name in data: `type_parameters_begin`. -/
def dataName (p : Punctuation) : String :=
  "_".intercalate p.words

/-- The name in descriptions: `TypeParametersBegin`. -/
def title (p : Punctuation) : String :=
  String.join (p.words.map String.capitalize)

theorem spelling_of_ofMark? (found : ofMark? mark = some p) : p.spelling = mark := by
  simpa using List.find?_some found

theorem ofMark?_spelling (member : p ∈ marks) : ofMark? p.spelling = some p := by
  revert p; decide +kernel

end Punctuation
end Highlight
