import Highlight.Statement.Turn

/-! Punctuation inside a statement. Braces and semicolons end statements and are not treated
here. -/
namespace Highlight.Statement

/-- `<` is a bracket after a declared name, in its list, and after a type. -/
def lessThan (s : Statement) (around : Surroundings) (p : Position) : Turn :=
  match s, around.last? with
  | .header d, some (.name _ _) =>
    if d.generic then s.stay (.punctuation .lessThan)
    else enter (.typeParameters d true [p]) (.punctuation .typeParametersBegin)
  | .typeParameters d awaitsName angles, _ =>
    stay (.typeParameters d awaitsName (p :: angles)) (.punctuation .typeArgumentsBegin)
  | .baseList d colon angles parens, some (.type _) =>
    stay (.baseList d colon (p :: angles) parens) (.punctuation .typeArgumentsBegin)
  | .constraints d clause angles, some (.type _) =>
    stay (.constraints d clause (p :: angles)) (.punctuation .typeArgumentsBegin)
  | _, _ => s.leave (.punctuation .lessThan)

/-- `>` closes the innermost `<` that is a bracket. -/
def greaterThan (s : Statement) : Turn :=
  match s with
  | .typeParameters d awaitsName (_ :: outer :: angles) =>
    stay (.typeParameters d awaitsName (outer :: angles)) (.punctuation .typeArgumentsEnd)
  | .typeParameters d _ _ =>
    enter (.header { d with generic := true }) (.punctuation .typeParametersEnd)
  | .baseList d colon (_ :: angles) parens =>
    stay (.baseList d colon angles parens) (.punctuation .typeArgumentsEnd)
  | .constraints d clause (_ :: angles) =>
    stay (.constraints d clause angles) (.punctuation .typeArgumentsEnd)
  | _ => s.leave (.punctuation .greaterThan)

def openParen (s : Statement) (p : Position) : Turn :=
  let role := .punctuation .openParen
  match s with
  | .header d => enter (.parameters d [p]) role
  | .parameters d parens => stay (.parameters d (p :: parens)) role
  | .baseList d colon angles parens => stay (.baseList d colon angles (p :: parens)) role
  | .naming _ => s.leave role
  | _ => (s.leave role).deepen

def closeParen (s : Statement) : Turn :=
  let role := .punctuation .closeParen
  match s with
  | .parameters d (_ :: outer :: parens) => stay (.parameters d (outer :: parens)) role
  | .parameters d _ => enter (.header d) role
  | .baseList d colon angles parens => stay (.baseList d colon angles parens.tail) role
  | .naming _ => s.leave role
  | _ => s.lift.stay role

def openBracket (s : Statement) : Turn :=
  let role := .punctuation .openBracket
  match s with
  | .naming _ => (s.leave role).deepen
  | _ => s.deepen.stay role

/-- The one mark after which a name is still awaited. -/
def closeBracket (s : Statement) : Turn :=
  s.lift.stay (.punctuation .closeBracket)

/-- A comma ends a type parameter, or a member in the body of an enumeration. -/
def comma (s : Statement) (around : Surroundings) : Turn :=
  let role := .punctuation .comma
  match s with
  | .typeParameters d _ [angle] => enter (.typeParameters d true [angle]) role
  | .plain 0 => if around.inEnumBody then empty.stay role else s.stay role
  | _ => s.leave role

def colon (s : Statement) (p : Position) : Turn :=
  let role := .punctuation .colon
  match s with
  | .header d => enter (.baseList d p [] []) role
  | _ => s.leave role

/-- Names of namespaces are qualified. -/
def accessor (s : Statement) : Turn :=
  let role := .punctuation .accessor
  match s with
  | .header d => if d.kind = .namespaceDecl then enter (.naming d) role else s.stay role
  | _ => s.leave role

def mark (s : Statement) (around : Surroundings) (m : Punctuation) (p : Position) : Turn :=
  match m with
  | .lessThan => s.lessThan around p
  | .greaterThan => s.greaterThan
  | .openParen => s.openParen p
  | .closeParen => s.closeParen
  | .openBracket => s.openBracket
  | .closeBracket => s.closeBracket
  | .comma => s.comma around
  | .colon => s.colon p
  | .accessor => s.accessor
  | _ => s.leave (.punctuation m)

end Highlight.Statement
