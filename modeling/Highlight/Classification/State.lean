import Highlight.Lexeme.Basic
import Highlight.Statement.Mark
import Highlight.Statement.Word

/-! The state of a classification between two lexemes, and the step that one lexeme takes. -/
namespace Highlight

/-- What a step does besides giving a role. Behind it, `depth` scopes are open. -/
inductive Event
  | phase (source target : Phase)
  | opened (scope : Scope) (depth : Nat)
  | closed (scope : Scope) (depth : Nat)
deriving DecidableEq, Repr

/-- Tokens and events stand newest first. -/
structure State where
  tokens : List Token
  nesting : Nesting
  statement : Statement
  events : List Event
deriving DecidableEq, Repr

/-- A `record` keyword as an ordinary word. -/
def Token.retract (t : Token) : Token :=
  if t.role = .keyword (.declares .recordDecl) then
    { t with role := .identifier DeclKind.recordDecl.spelling }
  else t

namespace State

def initial : State := ⟨[], .empty, .empty, []⟩

def last? (s : State) : Option Role :=
  s.tokens.head?.map Token.role

def surroundings (s : State) : Surroundings :=
  ⟨s.nesting.inEnumBody, s.last?⟩

def turn (s : State) (p : Position) (t : Turn) : State :=
  { s with
    tokens := ⟨t.role, p⟩ :: if t.retracts then s.tokens.modifyHead Token.retract else s.tokens
    statement := t.statement
    events :=
      if t.enters then .phase s.statement.phase t.statement.phase :: s.events else s.events }

def openBrace (s : State) (p : Position) : Except ClassifyError State :=
  match s.statement.unclosed? with
  | some e => .error e
  | none =>
    let scope := s.statement.scope p
    .ok
      { tokens := ⟨.punctuation .openBrace, p⟩ :: s.tokens
        nesting := s.nesting.push scope
        statement := .empty
        events := .opened scope (s.nesting.depth + 1) :: s.events }

def closeBrace (s : State) (p : Position) : Except ClassifyError State :=
  match s.statement.openRegion?, s.nesting.pop? with
  | some e, _ => .error e
  | none, none => .error ⟨.unbalancedBrace, p⟩
  | none, some (scope, outer) =>
    .ok
      { tokens := ⟨.punctuation .closeBrace, p⟩ :: s.tokens
        nesting := outer
        statement := .empty
        events := .closed scope outer.depth :: s.events }

def semicolon (s : State) (p : Position) : Except ClassifyError State :=
  match s.statement.unclosed? with
  | some e => .error e
  | none => .ok { s.turn p (s.statement.leave (.punctuation .semicolon)) with statement := .empty }

def mark (s : State) (m : Punctuation) (p : Position) : Except ClassifyError State :=
  match m with
  | .openBrace => s.openBrace p
  | .closeBrace => s.closeBrace p
  | .semicolon => s.semicolon p
  | _ => .ok (s.turn p (s.statement.mark s.surroundings m p))

/-- Trivia changes nothing. Any other lexeme becomes one token. -/
def step (s : State) (x : Lexeme) : Except ClassifyError State :=
  match x.kind with
  | .whitespace | .newline | .comment | .directive => .ok s
  | .word => .ok (s.turn x.position (s.statement.word s.surroundings x.text x.position))
  | .literal => .ok (s.turn x.position (s.statement.literal x.text))
  | .punctuation =>
    match Punctuation.ofMark? x.text with
    | none => .error ⟨.unrecognized x.text, x.position⟩
    | some m => s.mark m x.position

/-- What the end of the text would leave open. -/
def open? (s : State) : Option ClassifyError :=
  s.statement.openRegion? <|>
    s.nesting.innermost?.map fun scope => ⟨.unterminated (.scope scope.kind), scope.opening⟩

end State
end Highlight
