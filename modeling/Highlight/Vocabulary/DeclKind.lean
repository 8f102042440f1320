/-! Kinds of declarations that give a name to a namespace or a type. -/
namespace Highlight

inductive DeclKind
  | namespaceDecl
  | classDecl
  | structDecl
  | interfaceDecl
  | enumDecl
  | recordDecl
deriving DecidableEq, Repr

namespace DeclKind

def all : List DeclKind :=
  [namespaceDecl, classDecl, structDecl, interfaceDecl, enumDecl, recordDecl]

def spelling : DeclKind → String
  | namespaceDecl => "namespace"
  | classDecl => "class"
  | structDecl => "struct"
  | interfaceDecl => "interface"
  | enumDecl => "enum"
  | recordDecl => "record"

def ofWord? (w : String) : Option DeclKind :=
  all.find? (·.spelling = w)

theorem spelling_of_ofWord? (found : ofWord? w = some kind) : kind.spelling = w := by
  simpa using List.find?_some found

theorem ofWord?_spelling (kind : DeclKind) : ofWord? kind.spelling = some kind := by
  cases kind <;> decide +kernel

end DeclKind
end Highlight
