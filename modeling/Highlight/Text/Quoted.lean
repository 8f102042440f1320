import Highlight.Unicode.GraphemeExtend
import Highlight.Unicode.Printable

/-! Text shown between quotes, so that every character can be seen: control characters, characters
that have no shape of their own and combining marks are written as escapes. -/
namespace Highlight.Text

/-- A code point in lower-case hexadecimal, as `\u{...}`. -/
def codePoint (c : Char) : List Char :=
  ['\\', 'u', '{'] ++ Nat.toDigits 16 c.toNat ++ ['}']

def escape (delimiter c : Char) : List Char :=
  if c = '\x00' then ['\\', '0']
  else if c = '\t' then ['\\', 't']
  else if c = '\r' then ['\\', 'r']
  else if c = '\n' then ['\\', 'n']
  else if c = '\\' || c = delimiter then ['\\', c]
  else if Unicode.isGraphemeExtend c || !Unicode.isPrintable c then codePoint c
  else [c]

def quoted (delimiter : Char) (text : String) : String :=
  String.ofList (delimiter :: text.toList.flatMap (escape delimiter) ++ [delimiter])

end Highlight.Text
