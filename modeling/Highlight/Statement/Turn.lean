import Highlight.Statement.Basic

/-! Turns: what one lexeme does to a statement. -/
namespace Highlight

/-- What is known around a statement. The token in front of the lexeme has the role `last?`. -/
structure Surroundings where
  inEnumBody : Bool
  last? : Option Role
deriving DecidableEq, Repr

structure Turn where
  role : Role
  statement : Statement
  /-- Whether the lexeme enters a phase, be it the one the statement is in. -/
  enters : Bool := false
  /-- Whether the preceding token loses its role as a `record` keyword. -/
  retracts : Bool := false
deriving DecidableEq, Repr

namespace Statement

def stay (s : Statement) (role : Role) : Turn :=
  { role, statement := s }

def enter (s : Statement) (role : Role) : Turn :=
  { role, statement := s, enters := true }

/-- A lexeme that no declaration can go on with makes the statement plain, if it is at its start or
awaits a name. Without a name, `record` was no keyword. -/
def leave (s : Statement) (role : Role) : Turn :=
  match s with
  | .start _ 0 => enter (.plain 0) role
  | .naming d => { enter (.plain 0) role with retracts := d.parts.isEmpty }
  | _ => s.stay role

/-- Opens a bracket outside a declaration header. -/
def deepen : Statement → Statement
  | .start modifiers depth => .start modifiers (depth + 1)
  | .plain depth => .plain (depth + 1)
  | s => s

def lift : Statement → Statement
  | .start modifiers depth => .start modifiers (depth - 1)
  | .plain depth => .plain (depth - 1)
  | s => s

end Statement

def Turn.deepen (t : Turn) : Turn :=
  { t with statement := t.statement.deepen }

end Highlight
