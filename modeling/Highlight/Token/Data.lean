import Highlight.Json.Reader
import Highlight.Json.Text
import Highlight.Token.Basic

/-! Tokens as JSON values, and read back from them. -/
namespace Highlight

namespace Role

/-- The name of the role and the value that tells it from others of that name. -/
def toData : Role → String × Json
  | .keyword k => ("keyword", .str k.spelling)
  | .modifier m => ("modifier", .str m.spelling)
  | .punctuation p => ("punctuation", .str p.dataName)
  | .name kind text => ("name", .arr [.str kind.spelling, .str text])
  | .type text => ("type", .str text)
  | .typeParameter text => ("type_parameter", .str text)
  | .enumMember text => ("enum_member", .str text)
  | .identifier text => ("identifier", .str text)
  | .literal text => ("literal", .str text)

def toJson (r : Role) : Json :=
  .obj [("role", .str r.toData.1), ("value", r.toData.2)]

def ofData? : String × Json → Option Role
  | ("keyword", .str w) => (Keyword.all.find? (·.spelling = w)).map .keyword
  | ("modifier", .str w) => (Modifier.all.find? (·.spelling = w)).map .modifier
  | ("punctuation", .str w) => (Punctuation.all.find? (·.dataName = w)).map .punctuation
  | ("name", .arr [.str kind, .str text]) => (DeclKind.ofWord? kind).map (.name · text)
  | ("type", .str text) => some (.type text)
  | ("type_parameter", .str text) => some (.typeParameter text)
  | ("enum_member", .str text) => some (.enumMember text)
  | ("identifier", .str text) => some (.identifier text)
  | ("literal", .str text) => some (.literal text)
  | _ => none

def ofJson? (x : Json) : Option Role := do
  let name ← x.member? "role"
  ofData? (← name.str?, ← x.member? "value")

end Role

namespace Position

def toJson (p : Position) : Json :=
  .obj [("line", .num p.line), ("column", .num p.column), ("offset", .num p.offset)]

def ofJson? (x : Json) : Option Position := do
  let line ← x.member? "line"
  let column ← x.member? "column"
  let offset ← x.member? "offset"
  return ⟨← line.num?, ← column.num?, ← offset.num?⟩

end Position

namespace Token

def toJson (t : Token) : Json :=
  .obj [("token", t.role.toJson), ("span", t.position.toJson)]

def ofJson? (x : Json) : Option Token := do
  return ⟨← Role.ofJson? (← x.member? "token"), ← Position.ofJson? (← x.member? "span")⟩

end Token

/-- The tokens as one indented JSON array. -/
def jsonText (ts : List Token) : String :=
  (Json.arr (ts.map Token.toJson)).indented

def tokensOfJsonText? (text : String) : Option (List Token) := do
  match ← Json.ofText? text with
  | .arr items => items.mapM Token.ofJson?
  | _ => none

end Highlight
