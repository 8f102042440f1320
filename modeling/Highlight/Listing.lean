import Highlight.Token.Selector

/-! Listings: one row for each token, with its place, its selector and its text between tabs. -/
namespace Highlight.Listing

/-- Line breaks and tabs are written as escapes, so that a text stays in its column of its row. -/
def escape (c : Char) : List Char :=
  if c = '\n' then ['\\', 'n']
  else if c = '\r' then ['\\', 'r']
  else if c = '\t' then ['\\', 't']
  else [c]

def place (p : Position) : List Char :=
  Nat.toDigits 10 p.line ++ ':' :: Nat.toDigits 10 p.column

def row (t : Token) : List Char :=
  place t.position ++ '\t' :: t.role.selector.toList ++ '\t' :: t.role.text.toList.flatMap escape ++
    ['\n']

end Highlight.Listing

namespace Highlight

def listing (ts : List Token) : String :=
  String.ofList (ts.flatMap Listing.row)

end Highlight
