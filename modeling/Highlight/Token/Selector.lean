import Highlight.Token.Basic

/-! Selectors: the dotted names by which a highlighting theme picks a style for a token. -/
namespace Highlight

/-- Operators have the selector of their group. -/
def Punctuation.selector : Punctuation → String
  | openBrace => "punctuation.curlybrace.open.cs"
  | closeBrace => "punctuation.curlybrace.close.cs"
  | openParen => "punctuation.parenthesis.open.cs"
  | closeParen => "punctuation.parenthesis.close.cs"
  | openBracket => "punctuation.squarebracket.open.cs"
  | closeBracket => "punctuation.squarebracket.close.cs"
  | typeParametersBegin => "punctuation.definition.typeparameters.begin.cs"
  | typeParametersEnd => "punctuation.definition.typeparameters.end.cs"
  | typeArgumentsBegin => "punctuation.definition.typearguments.begin.cs"
  | typeArgumentsEnd => "punctuation.definition.typearguments.end.cs"
  | comma => "punctuation.separator.comma.cs"
  | colon => "punctuation.separator.colon.cs"
  | semicolon => "punctuation.terminator.statement.cs"
  | accessor => "punctuation.accessor.cs"
  | lessThan | greaterThan => "keyword.operator.relational.cs"
  | equals => "keyword.operator.assignment.cs"
  | question => "keyword.operator.conditional.question-mark.cs"
  | plus | minus | asterisk | slash | percent => "keyword.operator.arithmetic.cs"
  | ampersand | bar | caret | tilde => "keyword.operator.bitwise.cs"
  | exclamation => "keyword.operator.logical.cs"

/-- Literals differ by the first character after their sigils. -/
def literalSelector (text : String) : String :=
  match (text.toList.dropWhile fun c => c = '@' || c = '$').head? with
  | some '"' => "string.quoted.double.cs"
  | some '\'' => "string.quoted.single.cs"
  | _ => "constant.numeric.cs"

namespace Role

def selector : Role → String
  | .keyword k => "keyword.other." ++ k.spelling ++ ".cs"
  | .modifier _ => "storage.modifier.cs"
  | .punctuation p => p.selector
  | .name kind _ => "entity.name.type." ++ kind.spelling ++ ".cs"
  | .type _ => "storage.type.cs"
  | .typeParameter _ => "entity.name.type.type-parameter.cs"
  | .enumMember _ => "entity.name.variable.enum-member.cs"
  | .identifier _ => "variable.other.cs"
  | .literal text => literalSelector text

end Role
end Highlight
