import Highlight.Position
import Highlight.Vocabulary.DeclKind
import Highlight.Vocabulary.Modifier

/-! Scopes: the open brace pairs around a place, innermost first. -/
namespace Highlight

inductive ScopeKind
  | body (kind : DeclKind)
  | block
deriving DecidableEq, Repr

namespace ScopeKind

def describe : ScopeKind → String
  | .body kind => kind.spelling ++ " body"
  | .block => "block"

def dataName : ScopeKind → String
  | .body kind => kind.spelling
  | .block => "block"

end ScopeKind

/-- The name is that of the declaration with points between its parts, and `opening` the place of
the brace. -/
structure Scope where
  kind : ScopeKind
  name? : Option String
  modifiers : List Modifier
  opening : Position
deriving DecidableEq, Repr

def Scope.block (opening : Position) : Scope :=
  ⟨.block, none, [], opening⟩

/-- The open scopes, innermost first. -/
structure Nesting where
  scopes : List Scope
deriving DecidableEq, Repr

namespace Nesting

def empty : Nesting := ⟨[]⟩

def push (nesting : Nesting) (scope : Scope) : Nesting :=
  ⟨scope :: nesting.scopes⟩

def innermost? (nesting : Nesting) : Option Scope :=
  nesting.scopes.head?

def pop? (nesting : Nesting) : Option (Scope × Nesting) :=
  match nesting.scopes with
  | [] => none
  | scope :: scopes => some (scope, ⟨scopes⟩)

def depth (nesting : Nesting) : Nat :=
  nesting.scopes.length

def isEmpty (nesting : Nesting) : Bool :=
  nesting.scopes.isEmpty

def kind? (nesting : Nesting) : Option ScopeKind :=
  nesting.innermost?.map Scope.kind

/-- Whether members of an enumeration are declared here. -/
def inEnumBody (nesting : Nesting) : Bool :=
  nesting.kind? = some (.body .enumDecl)

@[simp] theorem pop?_push (nesting : Nesting) (scope : Scope) :
    (nesting.push scope).pop? = some (scope, nesting) := rfl

@[simp] theorem depth_push (nesting : Nesting) (scope : Scope) :
    (nesting.push scope).depth = nesting.depth + 1 := rfl

theorem depth_of_pop? {nesting outer : Nesting} (popped : nesting.pop? = some (scope, outer)) :
    nesting.depth = outer.depth + 1 := by
  obtain ⟨_ | ⟨s, scopes⟩⟩ := nesting
  · contradiction
  · obtain ⟨_, rfl⟩ := Prod.mk.inj (Option.some.inj popped)
    rfl

end Nesting
end Highlight
