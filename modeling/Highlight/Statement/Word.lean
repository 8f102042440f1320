import Highlight.Statement.Turn

/-! Words and literals in a statement. -/
namespace Highlight

def Role.ofWord (w : String) : Role :=
  match Modifier.ofWord? w, Keyword.ofWord? w with
  | some m, _ => .modifier m
  | none, some k => .keyword k
  | none, none => .identifier w

namespace Statement

/-- A word of the start of a statement: an identifier in an attribute, else a member in the body of
an enumeration, else a modifier or a keyword if it is one. -/
def leadingWord (around : Surroundings) (modifiers : List Modifier) (depth : Nat) (w : String)
    (p : Position) : Turn :=
  if depth > 0 then stay (.start modifiers depth) (.identifier w)
  else if around.inEnumBody then enter (.plain 0) (.enumMember w)
  else match Modifier.ofWord? w, Keyword.ofWord? w with
    | some m, _ => stay (.start (modifiers ++ [m]) 0) (.modifier m)
    | none, some (.declares kind) =>
      enter (.naming { kind, keyword := p, modifiers }) (.keyword (.declares kind))
    | none, some k => enter (.plain 0) (.keyword k)
    | none, none => enter (.plain 0) (.identifier w)

/-- Of two declaration keywords in a row, as in `record struct`, the second decides. -/
def wordInName (d : Declaration) (w : String) : Turn :=
  match d.parts, Keyword.ofWord? w with
  | [], some (.declares kind) => stay (.naming { d with kind }) (.keyword (.declares kind))
  | _, _ => enter (.header { d with parts := d.parts ++ [w] }) (.name d.kind w)

/-- In each place of the list stands at most one parameter, with its variance in front. -/
def wordInTypeParameters (d : Declaration) (awaitsName : Bool) (angles : List Position)
    (w : String) : Turn :=
  let s := typeParameters d awaitsName angles
  if angles.length > 1 then s.stay (.type w)
  else if !awaitsName then s.stay (.identifier w)
  else match Modifier.variance? w with
    | some m => s.stay (.modifier m)
    | none => enter (.typeParameters d false angles) (.typeParameter w)

/-- The arguments of a base constructor are no types. Without type parameters `where` starts no
clause. -/
def wordInBaseList (d : Declaration) (colon : Position) (angles parens : List Position)
    (w : String) (p : Position) : Turn :=
  let s := baseList d colon angles parens
  if !parens.isEmpty then s.stay (.ofWord w)
  else if w = "where" then
    if d.generic then enter (.constraints d p angles) (.keyword .whereClause)
    else s.stay (.keyword .whereClause)
  else s.stay (.type w)

/-- A further `where` starts the next clause. -/
def wordInConstraints (d : Declaration) (clause : Position) (angles : List Position) (w : String)
    (p : Position) : Turn :=
  let s := constraints d clause angles
  if !angles.isEmpty then s.stay (.type w)
  else match Keyword.ofConstraintWord? w with
    | some .whereClause => stay (.constraints d p angles) (.keyword .whereClause)
    | some k => s.stay (.keyword k)
    | none => s.stay (.type w)

def word (s : Statement) (around : Surroundings) (w : String) (p : Position) : Turn :=
  match s with
  | .start modifiers depth => leadingWord around modifiers depth w p
  | .naming d => wordInName d w
  | .header d =>
    if w = "where" && d.generic then enter (.constraints d p []) (.ofWord w)
    else s.stay (.ofWord w)
  | .typeParameters d awaitsName angles => wordInTypeParameters d awaitsName angles w
  | .parameters _ _ | .plain _ => s.stay (.ofWord w)
  | .baseList d colon angles parens => wordInBaseList d colon angles parens w p
  | .constraints d clause angles => wordInConstraints d clause angles w p

def literal (s : Statement) (text : String) : Turn :=
  s.leave (.literal text)

end Statement
end Highlight
