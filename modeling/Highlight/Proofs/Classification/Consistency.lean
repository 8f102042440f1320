import Highlight.Proofs.Statement.Representation

/-! Classification with the statement as a record of fields. It gives the same answers, and in every
state that it reaches the fields are consistent. -/
namespace Highlight

/-- The state of a classification with a record of fields for the statement. -/
structure FieldsState where
  tokens : List Token
  nesting : Nesting
  fields : Fields
  events : List Event
deriving DecidableEq, Repr

namespace FieldsState

def initial : FieldsState := ⟨[], .empty, {}, []⟩

def surroundings (r : FieldsState) : Surroundings :=
  ⟨r.nesting.inEnumBody, r.tokens.head?.map Token.role⟩

def turn (r : FieldsState) (p : Position) (t : FieldsTurn) : FieldsState :=
  { r with
    tokens := ⟨t.role, p⟩ :: if t.retracts then r.tokens.modifyHead Token.retract else r.tokens
    fields := t.fields
    events := if t.enters then .phase r.fields.phase t.fields.phase :: r.events else r.events }

def openBrace (r : FieldsState) (p : Position) : Except ClassifyError FieldsState :=
  match r.fields.unclosed? with
  | some e => .error e
  | none =>
    let scope := r.fields.scope p
    .ok
      { tokens := ⟨.punctuation .openBrace, p⟩ :: r.tokens
        nesting := r.nesting.push scope
        fields := {}
        events := .opened scope (r.nesting.depth + 1) :: r.events }

def closeBrace (r : FieldsState) (p : Position) : Except ClassifyError FieldsState :=
  match r.fields.openRegion?, r.nesting.pop? with
  | some e, _ => .error e
  | none, none => .error ⟨.unbalancedBrace, p⟩
  | none, some (scope, outer) =>
    .ok
      { tokens := ⟨.punctuation .closeBrace, p⟩ :: r.tokens
        nesting := outer
        fields := {}
        events := .closed scope outer.depth :: r.events }

def semicolon (r : FieldsState) (p : Position) : Except ClassifyError FieldsState :=
  match r.fields.unclosed? with
  | some e => .error e
  | none => .ok { r.turn p (r.fields.leave (.punctuation .semicolon)) with fields := {} }

def mark (r : FieldsState) (m : Punctuation) (p : Position) : Except ClassifyError FieldsState :=
  match m with
  | .openBrace => r.openBrace p
  | .closeBrace => r.closeBrace p
  | .semicolon => r.semicolon p
  | _ => .ok (r.turn p (r.fields.mark r.surroundings m p))

def step (r : FieldsState) (x : Lexeme) : Except ClassifyError FieldsState :=
  match x.kind with
  | .whitespace | .newline | .comment | .directive => .ok r
  | .word => .ok (r.turn x.position (r.fields.word r.surroundings x.text x.position))
  | .literal => .ok (r.turn x.position (r.fields.leave (.literal x.text)))
  | .punctuation =>
    match Punctuation.ofMark? x.text with
    | none => .error ⟨.unrecognized x.text, x.position⟩
    | some m => r.mark m x.position

def read (r : FieldsState) : List Lexeme → Except ClassifyError FieldsState
  | [] => .ok r
  | x :: xs => (r.step x).bind (·.read xs)

def open? (r : FieldsState) : Option ClassifyError :=
  r.fields.openRegion? <|>
    r.nesting.innermost?.map fun scope => ⟨.unterminated (.scope scope.kind), scope.opening⟩

def classify (xs : List Lexeme) : Except ClassifyError (List Token) :=
  (initial.read xs).bind fun r =>
    match r.open? with
    | some e => .error e
    | none => .ok r.tokens.reverse

/-- The states differ in nothing but how they keep the statement. -/
structure Represents (r : FieldsState) (s : State) : Prop where
  tokens : r.tokens = s.tokens
  nesting : r.nesting = s.nesting
  fields : Highlight.Represents r.fields s.statement
  events : r.events = s.events

/-- The same error, or states of which one stands for the other. -/
inductive Agree : Except ClassifyError FieldsState → Except ClassifyError State → Prop
  | ok (represents : Represents r s) : Agree (.ok r) (.ok s)
  | error (e : ClassifyError) : Agree (.error e) (.error e)

variable {r : FieldsState} {s : State} {p : Position} {x : Lexeme} {xs : List Lexeme}

namespace Represents

theorem initial : Represents initial State.initial :=
  ⟨rfl, rfl, rfl, rfl⟩

theorem surroundings_eq (represents : Represents r s) : r.surroundings = s.surroundings := by
  rw [surroundings, represents.nesting, represents.tokens]
  rfl

theorem turn {t : FieldsTurn} {u : Turn} (represents : Represents r s)
    (turns : TurnRepresents t u) : Represents (r.turn p t) (s.turn p u) where
  tokens := by simp only [FieldsState.turn, State.turn, turns.role, turns.retracts,
    represents.tokens]
  nesting := represents.nesting
  fields := turns.fields
  events := by simp only [FieldsState.turn, State.turn, turns.enters, turns.fields.phase_eq,
    represents.fields.phase_eq, represents.events]

theorem openBrace (represents : Represents r s) : Agree (r.openBrace p) (s.openBrace p) := by
  unfold FieldsState.openBrace State.openBrace
  rw [represents.fields.unclosed?_eq]
  cases s.statement.unclosed? with
  | some e => exact .error e
  | none =>
    refine .ok ⟨?_, ?_, rfl, ?_⟩
    · simp only [represents.tokens]
    · simp only [represents.nesting, represents.fields.scope_eq]
    · simp only [represents.nesting, represents.fields.scope_eq, represents.events]

theorem closeBrace (represents : Represents r s) : Agree (r.closeBrace p) (s.closeBrace p) := by
  unfold FieldsState.closeBrace State.closeBrace
  rw [represents.fields.openRegion?_eq, represents.nesting]
  cases s.statement.openRegion? with
  | some e => exact .error e
  | none =>
    cases s.nesting.pop? with
    | none => exact .error _
    | some popped =>
      refine .ok ⟨?_, rfl, rfl, ?_⟩
      · simp only [represents.tokens]
      · simp only [represents.events]

theorem semicolon (represents : Represents r s) : Agree (r.semicolon p) (s.semicolon p) := by
  unfold FieldsState.semicolon State.semicolon
  rw [represents.fields.unclosed?_eq]
  cases s.statement.unclosed? with
  | some e => exact .error e
  | none =>
    have turned : Represents (r.turn p (r.fields.leave (.punctuation .semicolon)))
        (s.turn p (s.statement.leave (.punctuation .semicolon))) :=
      represents.turn represents.fields.leave
    exact .ok ⟨turned.tokens, turned.nesting, rfl, turned.events⟩

theorem mark (represents : Represents r s) (m : Punctuation) :
    Agree (r.mark m p) (s.mark m p) := by
  have inside : Agree (.ok (r.turn p (r.fields.mark r.surroundings m p)))
      (.ok (s.turn p (s.statement.mark s.surroundings m p))) := by
    rw [represents.surroundings_eq]
    exact .ok (represents.turn (represents.fields.mark m))
  cases m with
  | openBrace => exact represents.openBrace
  | closeBrace => exact represents.closeBrace
  | semicolon => exact represents.semicolon
  | _ => exact inside

/-- From states of which one stands for the other, a step leads to such states again, or to the same
error. -/
theorem step (represents : Represents r s) (x : Lexeme) : Agree (r.step x) (s.step x) := by
  unfold FieldsState.step State.step
  cases x.kind with
  | whitespace | newline | comment | directive => exact .ok represents
  | word =>
    dsimp only
    rw [represents.surroundings_eq]
    exact .ok (represents.turn represents.fields.word)
  | literal => exact .ok (represents.turn represents.fields.leave)
  | punctuation =>
    cases Punctuation.ofMark? x.text with
    | none => exact .error _
    | some m => exact represents.mark m

/-- The whole run agrees because each step does. -/
theorem read (represents : Represents r s) (xs : List Lexeme) :
    Agree (r.read xs) ((s.read xs).mapError Halt.error) := by
  induction xs generalizing r s with
  | nil => exact .ok represents
  | cons x xs ih =>
    have agree := represents.step x
    unfold FieldsState.read State.read
    generalize r.step x = stepped at *
    generalize s.step x = other at *
    cases agree with
    | ok represents => exact ih represents
    | error e => exact .error e

theorem open?_eq (represents : Represents r s) : r.open? = s.open? := by
  rw [FieldsState.open?, represents.fields.openRegion?_eq, represents.nesting]
  rfl

end Represents

/-- Classifications with records of fields and with statements give the same answers. -/
theorem classify_eq (xs : List Lexeme) : classify xs = Highlight.classify xs := by
  have agree := Represents.initial.read xs
  unfold classify Highlight.classify classification
  generalize FieldsState.initial.read xs = read at *
  generalize State.initial.read xs = other at *
  cases other with
  | error halt =>
    cases agree
    rfl
  | ok s =>
    cases agree with
    | @ok r s represents =>
      dsimp only [Except.bind, State.finish]
      rw [represents.open?_eq, represents.tokens]
      cases s.open? <;> rfl

/-- A record that is reached stands for a statement that is reached. -/
theorem exists_represented (read : initial.read xs = .ok r) :
    ∃ s, State.initial.read xs = .ok s ∧ r.Represents s := by
  have agree := Represents.initial.read xs
  rw [read] at agree
  generalize State.initial.read xs = other at *
  cases other with
  | error halt => cases agree
  | ok s =>
    cases agree with
    | ok represents => exact ⟨s, rfl, represents⟩

theorem exists_represents (read : State.initial.read xs = .ok s) :
    ∃ r, initial.read xs = .ok r ∧ r.Represents s := by
  have agree := Represents.initial.read xs
  rw [read] at agree
  generalize FieldsState.initial.read xs = other at *
  cases agree with
  | ok represents => exact ⟨_, rfl, represents⟩

theorem consistent_of_read (read : initial.read xs = .ok r) : r.fields.Consistent := by
  obtain ⟨s, read, represents⟩ := exists_represented read
  exact represents.fields.consistent (State.read_wellFormed read)

end FieldsState

/-- The records of fields that a classification of `xs` goes through. -/
structure FieldsReached (xs : List Lexeme) : Prop where
  classify : FieldsState.classify xs = classify xs
  represents : ∀ s, State.initial.read xs = .ok s →
    ∃ r, FieldsState.initial.read xs = .ok r ∧ r.Represents s
  consistent : ∀ r, FieldsState.initial.read xs = .ok r → r.fields.Consistent
  naming : ∀ r around w p, FieldsState.initial.read xs = .ok r → r.fields.phase = .name →
    r.fields.keyword? ≠ none ∧ ∃ kind,
      (r.fields.word around w p).role = .keyword (.declares kind) ∨
        (r.fields.word around w p).role = .name kind w
  openRegion? : ∀ r, FieldsState.initial.read xs = .ok r →
    (r.fields.openRegion? = none ↔ r.fields.phase = .start ∨ r.fields.phase = .other)
  finished : ∀ ts, Highlight.classify xs = .ok ts → ∃ r, FieldsState.initial.read xs = .ok r ∧
    r.tokens.reverse = ts ∧ (r.fields.phase = .start ∨ r.fields.phase = .other)

/-- All records of fields that a classification goes through are consistent. -/
theorem fieldsReached (xs : List Lexeme) : FieldsReached xs where
  classify := FieldsState.classify_eq xs
  represents := fun _ read => FieldsState.exists_represents read
  consistent := fun _ read => FieldsState.consistent_of_read read
  naming := by
    intro r around w p read phase
    have consistent := FieldsState.consistent_of_read read
    refine ⟨fun missing => ?_, consistent.wordInName phase⟩
    have declares : r.fields.keyword?.isSome = true := by simp [consistent.keyword?, phase]
    rw [missing] at declares
    contradiction
  openRegion? := fun _ read => (FieldsState.consistent_of_read read).openRegion?_eq_none
  finished := by
    intro ts classified
    obtain ⟨s, read, closed, rfl⟩ := classify_eq_ok.mp classified
    obtain ⟨r, flat, represents⟩ := FieldsState.exists_represents read
    have consistent := FieldsState.consistent_of_read flat
    refine ⟨r, flat, congrArg List.reverse represents.tokens, ?_⟩
    rw [← consistent.openRegion?_eq_none, represents.fields.openRegion?_eq]
    exact (State.open?_eq_none.mp closed).1

/-- In a list of type parameters the `<` is open and the name is known. -/
example :
    ((FieldsState.initial.read
      [⟨.word, "class", .start 0⟩, ⟨.word, "C", .start 1⟩, ⟨.punctuation, "<", .start 2⟩]).map
        FieldsState.fields) =
      .ok
        { phase := .typeParameters true
          keyword? := some (.classDecl, .start 0)
          name? := some "C"
          angles := [.start 2] } :=
  rfl

end Highlight
