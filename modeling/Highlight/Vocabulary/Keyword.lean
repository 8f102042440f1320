import Highlight.Vocabulary.DeclKind

/-! Reserved words that shape a declaration. -/
namespace Highlight

inductive Keyword
  | declares (kind : DeclKind)
  | whereClause
  | newConstraint
deriving DecidableEq, Repr

namespace Keyword

def spelling : Keyword → String
  | .declares kind => kind.spelling
  | .whereClause => "where"
  | .newConstraint => "new"

def declKind? : Keyword → Option DeclKind
  | .declares kind => some kind
  | .whereClause | .newConstraint => none

/-- The words that are keywords everywhere. -/
def reserved : List Keyword :=
  DeclKind.all.map .declares ++ [.whereClause]

/-- The words that are keywords between the types of a constraint clause. -/
def ofConstraints : List Keyword :=
  [.whereClause, .declares .classDecl, .declares .structDecl, .newConstraint]

def all : List Keyword :=
  reserved ++ [.newConstraint]

def ofWord? (w : String) : Option Keyword :=
  reserved.find? (·.spelling = w)

def ofConstraintWord? (w : String) : Option Keyword :=
  ofConstraints.find? (·.spelling = w)

theorem spelling_of_ofWord? (found : ofWord? w = some keyword) : keyword.spelling = w := by
  simpa using List.find?_some found

theorem spelling_of_ofConstraintWord? (found : ofConstraintWord? w = some keyword) :
    keyword.spelling = w := by
  simpa using List.find?_some found

end Keyword
end Highlight
