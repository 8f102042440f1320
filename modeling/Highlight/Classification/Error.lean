import Highlight.Scope

/-! Why lexemes cannot be given roles. -/
namespace Highlight

/-- A stretch of text with a start and an end. Lists and scopes start at their bracket, base lists
at the `:`, clauses at the `where`, and declarations at their keyword. -/
inductive Region
  | typeParameterList
  | typeArgumentList
  | parameterList
  | baseList
  | constraintClause
  | declaration
  | scope (kind : ScopeKind)
deriving DecidableEq, Repr

def Region.describe : Region → String
  | .typeParameterList => "type parameter list"
  | .typeArgumentList => "type argument list"
  | .parameterList => "parameter list"
  | .baseList => "base type list"
  | .constraintClause => "constraint clause"
  | .declaration => "declaration"
  | .scope kind => kind.describe

inductive ClassifyFault
  | unterminated (region : Region)
  | unbalancedBrace
  | unrecognized (text : String)
deriving DecidableEq, Repr

def ClassifyFault.message : ClassifyFault → String
  | .unterminated region => "unterminated " ++ region.describe
  | .unbalancedBrace => "unbalanced '\x7d' with no open scope"
  | .unrecognized text => "unrecognized fragment '" ++ text ++ "'"

/-- The region starts at the position, or the brace or the punctuation stands there. -/
structure ClassifyError where
  fault : ClassifyFault
  position : Position
deriving DecidableEq, Repr

def ClassifyError.message (e : ClassifyError) : String :=
  e.fault.message ++ " at " ++ e.position.describe

end Highlight
