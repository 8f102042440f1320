import Highlight.Token.Basic

/-! Declarations of types as trees, with the text they are written as and the roles of its words
and marks. -/
namespace Highlight

/-- An ASCII name with an upper-case letter in front, so that it is no reserved word. -/
structure TypeName where
  head : Char
  tail : List Char
  upper : head.isUpper = true
  ascii : tail.all (fun c => c.isAlphanum || c = '_') = true

namespace TypeName

def text (name : TypeName) : String :=
  String.ofList (name.head :: name.tail)

def comparable : TypeName where
  head := 'I'
  tail := ['C', 'o', 'm', 'p', 'a', 'r', 'a', 'b', 'l', 'e']
  upper := rfl
  ascii := rfl

end TypeName

inductive TypeExpr
  | plain (name : TypeName)
  | generic (name : TypeName) (arguments : List TypeExpr)

def Role.separated (parts : List (List Role)) : List Role :=
  [Role.punctuation .comma].intercalate parts

namespace TypeExpr

def text : TypeExpr → String
  | .plain name => name.text
  | .generic name arguments => name.text ++ "<" ++ ", ".intercalate (arguments.map text) ++ ">"

def roles : TypeExpr → List Role
  | .plain name => [.type name.text]
  | .generic name arguments =>
    .type name.text :: .punctuation .typeArgumentsBegin ::
      (Role.separated (arguments.map roles) ++ [.punctuation .typeArgumentsEnd])

end TypeExpr

/-- A declaration up to its body. -/
structure TypeHeader where
  modifiers : List Modifier
  kind : DeclKind
  name : TypeName
  typeParameters : List TypeName
  bases : List TypeExpr
  declared : ∀ m ∈ modifiers, m ∈ Modifier.ofDeclarations
  holdsMembers : kind ∈ [.classDecl, .structDecl, .interfaceDecl, .recordDecl]

namespace TypeHeader

def parameterText : List TypeName → String
  | [] => ""
  | first :: others => "<" ++ ", ".intercalate ((first :: others).map TypeName.text) ++ ">"

def baseText : List TypeExpr → String
  | [] => ""
  | first :: others => " : " ++ ", ".intercalate ((first :: others).map TypeExpr.text)

/-- The first type parameter is constrained. -/
def constraintText : List TypeName → String
  | [] => ""
  | first :: _ => " where " ++ first.text ++ " : IComparable<" ++ first.text ++ ">"

def text (h : TypeHeader) : String :=
  String.join (h.modifiers.map fun m => m.spelling ++ " ") ++ h.kind.spelling ++ " " ++
    h.name.text ++ parameterText h.typeParameters ++ baseText h.bases ++
    constraintText h.typeParameters

def parameterRoles : List TypeName → List Role
  | [] => []
  | first :: others =>
    .punctuation .typeParametersBegin ::
      (Role.separated ((first :: others).map fun name => [.typeParameter name.text]) ++
        [.punctuation .typeParametersEnd])

def baseRoles : List TypeExpr → List Role
  | [] => []
  | first :: others => .punctuation .colon :: Role.separated ((first :: others).map TypeExpr.roles)

def constraintRoles : List TypeName → List Role
  | [] => []
  | first :: _ =>
    [.keyword .whereClause, .type first.text, .punctuation .colon, .type "IComparable",
     .punctuation .typeArgumentsBegin, .type first.text, .punctuation .typeArgumentsEnd]

def roles (h : TypeHeader) : List Role :=
  h.modifiers.map .modifier ++
    (.keyword (.declares h.kind) :: .name h.kind h.name.text :: parameterRoles h.typeParameters) ++
    baseRoles h.bases ++ constraintRoles h.typeParameters

end TypeHeader

/-- A declaration with the declarations in its body. -/
structure TypeDecl where
  header : TypeHeader
  members : List TypeDecl

namespace TypeDecl

def text : TypeDecl → String
  | ⟨header, members⟩ =>
    header.text ++ "\n\x7b\n" ++ String.join (members.map text) ++ "\x7d\n"

def roles : TypeDecl → List Role
  | ⟨header, members⟩ =>
    header.roles ++ .punctuation .openBrace ::
      (members.flatMap roles ++ [.punctuation .closeBrace])

end TypeDecl
end Highlight
