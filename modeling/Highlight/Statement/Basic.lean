import Highlight.Classification.Error
import Highlight.Token.Basic

/-! Statements: what has been read since the last brace or semicolon. A statement that starts with
modifiers and a declaration keyword is a declaration, and its header has parts with rules of their
own. Any other statement is plain. -/
namespace Highlight

/-- A declaration, as far as it has been read. It is generic once its list of type parameters has
been closed. -/
structure Declaration where
  kind : DeclKind
  keyword : Position
  modifiers : List Modifier
  parts : List String := []
  generic : Bool := false
deriving DecidableEq, Repr

def Declaration.name? (d : Declaration) : Option String :=
  if d.parts.isEmpty then none else some (".".intercalate d.parts)

/-- Open brackets are kept by their places, innermost first. Outside of declaration headers only
their number is, as `depth`. -/
inductive Statement
  | start (modifiers : List Modifier) (depth : Nat)
  | naming (d : Declaration)
  | header (d : Declaration)
  | typeParameters (d : Declaration) (awaitsName : Bool) (angles : List Position)
  | parameters (d : Declaration) (parens : List Position)
  | baseList (d : Declaration) (colon : Position) (angles parens : List Position)
  | constraints (d : Declaration) (clause : Position) (angles : List Position)
  | plain (depth : Nat)
deriving DecidableEq, Repr

inductive Phase
  | start
  | name
  | header
  | typeParameters (awaitsName : Bool)
  | parameters
  | baseList
  | constraints
  | other
deriving DecidableEq, Repr

namespace Statement

def empty : Statement := .start [] 0

def phase : Statement → Phase
  | .start _ _ => .start
  | .naming _ => .name
  | .header _ => .header
  | .typeParameters _ awaitsName _ => .typeParameters awaitsName
  | .parameters _ _ => .parameters
  | .baseList _ _ _ _ => .baseList
  | .constraints _ _ _ => .constraints
  | .plain _ => .other

def declaration? : Statement → Option Declaration
  | .start _ _ | .plain _ => none
  | .naming d | .header d | .typeParameters d _ _ | .parameters d _ | .baseList d _ _ _
  | .constraints d _ _ => some d

/-- The open `<` that are brackets. -/
def angles : Statement → List Position
  | .typeParameters _ _ angles | .baseList _ _ angles _ | .constraints _ _ angles => angles
  | _ => []

/-- The open `(` of a parameter list or a base list. -/
def parens : Statement → List Position
  | .parameters _ parens | .baseList _ _ _ parens => parens
  | _ => []

/-- The number of open brackets outside declaration headers. -/
def depth : Statement → Nat
  | .start _ depth | .plain depth => depth
  | _ => 0

/-- The bracket that a brace or semicolon would leave open. -/
def unclosed? (s : Statement) : Option ClassifyError :=
  match s.angles, s.parens with
  | [angle], _ =>
    match s with
    | .typeParameters _ _ _ => some ⟨.unterminated .typeParameterList, angle⟩
    | _ => some ⟨.unterminated .typeArgumentList, angle⟩
  | angle :: _, _ => some ⟨.unterminated .typeArgumentList, angle⟩
  | [], paren :: _ => some ⟨.unterminated .parameterList, paren⟩
  | [], [] => none

/-- The region that a closing brace or the end of the text would leave open. -/
def openRegion? (s : Statement) : Option ClassifyError :=
  s.unclosed? <|> match s with
  | .naming d | .header d => some ⟨.unterminated .declaration, d.keyword⟩
  | .baseList _ colon _ _ => some ⟨.unterminated .baseList, colon⟩
  | .constraints _ clause _ => some ⟨.unterminated .constraintClause, clause⟩
  | .start _ _ | .typeParameters _ _ _ | .parameters _ _ | .plain _ => none

/-- The scope that a brace at `opening` opens after the statement. -/
def scope (s : Statement) (opening : Position) : Scope :=
  match s.declaration? with
  | some d => ⟨.body d.kind, d.name?, d.modifiers, opening⟩
  | none => .block opening

end Statement
end Highlight
