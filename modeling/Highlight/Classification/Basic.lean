import Highlight.Classification.State

/-! Classification: the roles of a list of lexemes. -/
namespace Highlight

/-- An error with the state before the lexeme that caused it. -/
structure Halt where
  state : State
  error : ClassifyError
deriving DecidableEq, Repr

namespace State

def read (s : State) : List Lexeme → Except Halt State
  | [] => .ok s
  | x :: xs =>
    match s.step x with
    | .error e => .error ⟨s, e⟩
    | .ok next => next.read xs

/-- Reading goes on behind a text as if there were none in front. -/
theorem read_append (s : State) (xs ys : List Lexeme) :
    s.read (xs ++ ys) = (s.read xs).bind (·.read ys) := by
  induction xs generalizing s with
  | nil => rfl
  | cons x xs ih =>
    simp only [List.cons_append, read]
    cases s.step x with
    | error e => rfl
    | ok next => exact ih next

/-- The state, if a text may end here. -/
def finish (s : State) : Except Halt State :=
  match s.open? with
  | some e => .error ⟨s, e⟩
  | none => .ok s

end State

def classification (xs : List Lexeme) : Except Halt State :=
  (State.initial.read xs).bind State.finish

/-- One token for each lexeme that is no trivia, in the order of the text. -/
def classify (xs : List Lexeme) : Except ClassifyError (List Token) :=
  match classification xs with
  | .ok s => .ok s.tokens.reverse
  | .error halt => .error halt.error

end Highlight
