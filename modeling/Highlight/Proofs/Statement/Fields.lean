import Highlight.Proofs.Statement.WellFormed

/-! A statement as a record of fields that nothing ties to each other, with the turns that set each
of them by itself. Not every record is a statement, but records that start from an empty one take
the turns of the statements that they stand for. -/
namespace Highlight

/-- Places of open brackets stand innermost first, and the keyword with the place of the first one.
The declaration is generic once a list of type parameters has been closed. -/
structure Fields where
  phase : Phase := .start
  modifiers : List Modifier := []
  keyword? : Option (DeclKind × Position) := none
  name? : Option String := none
  generic : Bool := false
  angles : List Position := []
  parens : List Position := []
  depth : Nat := 0
  regionStart : Position := ⟨0, 0, 0⟩
deriving DecidableEq, Repr

structure FieldsTurn where
  role : Role
  fields : Fields
  enters : Bool := false
  retracts : Bool := false
deriving DecidableEq, Repr

namespace Fields

/-- Opens a bracket, unless a declaration header is being read. -/
def deepen (f : Fields) : Fields :=
  match f.phase with
  | .start | .other => { f with depth := f.depth + 1 }
  | _ => f

def lift (f : Fields) : Fields :=
  { f with depth := f.depth - 1 }

end Fields

def FieldsTurn.deepen (t : FieldsTurn) : FieldsTurn :=
  { t with fields := t.fields.deepen }

namespace Fields

def stay (f : Fields) (role : Role) : FieldsTurn :=
  { role, fields := f }

def enter (f : Fields) (phase : Phase) (role : Role) : FieldsTurn :=
  { role, fields := { f with phase }, enters := true }

def leave (f : Fields) (role : Role) : FieldsTurn :=
  match f.phase with
  | .start => if f.depth = 0 then f.enter .other role else f.stay role
  | .name =>
    { { f with keyword? := none }.enter .other role with retracts := f.name?.isNone }
  | _ => f.stay role

def leadingWord (f : Fields) (around : Surroundings) (w : String) (p : Position) : FieldsTurn :=
  if f.depth > 0 then f.stay (.identifier w)
  else if around.inEnumBody then f.enter .other (.enumMember w)
  else match Modifier.ofWord? w, Keyword.ofWord? w with
    | some m, _ => { f with modifiers := f.modifiers ++ [m] }.stay (.modifier m)
    | none, some (.declares kind) =>
      { f with keyword? := some (kind, p) }.enter .name (.keyword (.declares kind))
    | none, some k => f.enter .other (.keyword k)
    | none, none => f.enter .other (.identifier w)

def longerName (f : Fields) (w : String) : String :=
  match f.name? with
  | some name => name ++ "." ++ w
  | none => w

/-- The fields allow for a name without a keyword in front of it. -/
def wordInName (f : Fields) (w : String) : FieldsTurn :=
  match f.name?, Keyword.ofWord? w with
  | none, some (.declares kind) =>
    let keyword? := f.keyword?.map fun found => (kind, found.2)
    { f with keyword? }.stay (.keyword (.declares kind))
  | _, _ =>
    match f.keyword? with
    | none => f.enter .other (.identifier w)
    | some (kind, _) => { f with name? := some (f.longerName w) }.enter .header (.name kind w)

def wordInHeader (f : Fields) (w : String) (p : Position) : FieldsTurn :=
  if w = "where" && f.generic then { f with regionStart := p }.enter .constraints (.ofWord w)
  else f.stay (.ofWord w)

def wordInTypeParameters (f : Fields) (awaitsName : Bool) (w : String) : FieldsTurn :=
  if f.angles.length > 1 then f.stay (.type w)
  else if !awaitsName then f.stay (.identifier w)
  else match Modifier.variance? w with
    | some m => f.stay (.modifier m)
    | none => f.enter (.typeParameters false) (.typeParameter w)

def wordInBaseList (f : Fields) (w : String) (p : Position) : FieldsTurn :=
  if !f.parens.isEmpty then f.stay (.ofWord w)
  else if w = "where" then
    if f.generic then { f with regionStart := p }.enter .constraints (.keyword .whereClause)
    else f.stay (.keyword .whereClause)
  else f.stay (.type w)

def wordInConstraints (f : Fields) (w : String) (p : Position) : FieldsTurn :=
  if !f.angles.isEmpty then f.stay (.type w)
  else match Keyword.ofConstraintWord? w with
    | some .whereClause => { f with regionStart := p }.stay (.keyword .whereClause)
    | some k => f.stay (.keyword k)
    | none => f.stay (.type w)

def word (f : Fields) (around : Surroundings) (w : String) (p : Position) : FieldsTurn :=
  match f.phase with
  | .start => f.leadingWord around w p
  | .name => f.wordInName w
  | .header => f.wordInHeader w p
  | .typeParameters awaitsName => f.wordInTypeParameters awaitsName w
  | .parameters | .other => f.stay (.ofWord w)
  | .baseList => f.wordInBaseList w p
  | .constraints => f.wordInConstraints w p

def lessThan (f : Fields) (around : Surroundings) (p : Position) : FieldsTurn :=
  let opened := { f with angles := p :: f.angles }
  match f.phase, around.last? with
  | .header, some (.name _ _) =>
    if f.generic then f.stay (.punctuation .lessThan)
    else opened.enter (.typeParameters true) (.punctuation .typeParametersBegin)
  | .typeParameters _, _ | .baseList, some (.type _) | .constraints, some (.type _) =>
    opened.stay (.punctuation .typeArgumentsBegin)
  | _, _ => f.leave (.punctuation .lessThan)

def greaterThan (f : Fields) : FieldsTurn :=
  let closed := { f with angles := f.angles.tail }
  match f.phase with
  | .typeParameters _ =>
    if closed.angles.isEmpty then
      { closed with generic := true }.enter .header (.punctuation .typeParametersEnd)
    else closed.stay (.punctuation .typeArgumentsEnd)
  | .baseList | .constraints =>
    if f.angles.isEmpty then f.leave (.punctuation .greaterThan)
    else closed.stay (.punctuation .typeArgumentsEnd)
  | _ => f.leave (.punctuation .greaterThan)

def openParen (f : Fields) (p : Position) : FieldsTurn :=
  let role := .punctuation .openParen
  let opened := { f with parens := p :: f.parens }
  match f.phase with
  | .header => opened.enter .parameters role
  | .parameters | .baseList => opened.stay role
  | .start | .other =>
    (if f.depth = 0 then f.leave role else f.stay role).deepen
  | _ => f.leave role

def closeParen (f : Fields) : FieldsTurn :=
  let role := .punctuation .closeParen
  let closed := { f with parens := f.parens.tail }
  match f.phase with
  | .parameters => if closed.parens.isEmpty then closed.enter .header role else closed.stay role
  | .baseList => closed.stay role
  | .start | .other => f.lift.stay role
  | _ => f.leave role

def openBracket (f : Fields) : FieldsTurn :=
  let role := .punctuation .openBracket
  (if f.phase = .name then f.leave role else f.stay role).deepen

def closeBracket (f : Fields) : FieldsTurn :=
  f.lift.stay (.punctuation .closeBracket)

def comma (f : Fields) (around : Surroundings) : FieldsTurn :=
  let role := .punctuation .comma
  match f.phase with
  | .typeParameters _ =>
    if f.angles.length = 1 then f.enter (.typeParameters true) role else f.leave role
  | .other => if f.depth = 0 && around.inEnumBody then stay {} role else f.leave role
  | _ => f.leave role

def colon (f : Fields) (p : Position) : FieldsTurn :=
  let role := .punctuation .colon
  if f.phase = .header then { f with regionStart := p }.enter .baseList role else f.leave role

def accessor (f : Fields) : FieldsTurn :=
  let role := .punctuation .accessor
  if f.phase = .header && f.keyword?.any (fun found => found.1 = .namespaceDecl) then
    f.enter .name role
  else f.leave role

def mark (f : Fields) (around : Surroundings) (m : Punctuation) (p : Position) : FieldsTurn :=
  match m with
  | .lessThan => f.lessThan around p
  | .greaterThan => f.greaterThan
  | .openParen => f.openParen p
  | .closeParen => f.closeParen
  | .openBracket => f.openBracket
  | .closeBracket => f.closeBracket
  | .comma => f.comma around
  | .colon => f.colon p
  | .accessor => f.accessor
  | _ => f.leave (.punctuation m)

def unclosed? (f : Fields) : Option ClassifyError :=
  match f.angles with
  | angle :: outer =>
    match f.phase with
    | .typeParameters _ =>
      if outer.isEmpty then some ⟨.unterminated .typeParameterList, angle⟩
      else some ⟨.unterminated .typeArgumentList, angle⟩
    | _ => some ⟨.unterminated .typeArgumentList, angle⟩
  | [] => f.parens.head?.map fun paren => ⟨.unterminated .parameterList, paren⟩

def openRegion? (f : Fields) : Option ClassifyError :=
  f.unclosed? <|> match f.phase with
  | .constraints => some ⟨.unterminated .constraintClause, f.regionStart⟩
  | .baseList => some ⟨.unterminated .baseList, f.regionStart⟩
  | .name | .header => f.keyword?.map fun found => ⟨.unterminated .declaration, found.2⟩
  | .start | .typeParameters _ | .parameters | .other => none

def scope (f : Fields) (opening : Position) : Scope :=
  match f.keyword? with
  | some (kind, _) => ⟨.body kind, f.name?, f.modifiers, opening⟩
  | none => .block opening

end Fields
end Highlight
