import Highlight.Proofs.Classification.Failure
import Highlight.Proofs.Classification.ParameterLists
import Highlight.Proofs.Classification.Regions
import Highlight.Proofs.Statement.Declared
import Mathlib.Data.List.DropRight

/-! Scopes agree with the tokens in front of their braces: nothing of an earlier statement, or of a
declaration that was given up, gets into one. -/
namespace Highlight

def rolesBehindEnd (ts : List Token) : List Role :=
  (ts.map Token.role).rtakeWhile fun role => !role.endsStatement

/-- The scope is the body of what the roles declare: all parts of its name are declared with its
kind, and without a name the last keyword tells the kind. -/
structure Scope.BodyOf (kind : DeclKind) (roles : List Role) (scope : Scope) : Prop where
  modifiers : scope.modifiers = leadingModifiers roles
  name : scope.name? =
    let parts := (roles.filterMap Role.name?).map Prod.snd
    if parts = [] then none else some (".".intercalate parts)
  kinds : ∀ part ∈ roles.filterMap Role.name?, part.1 = kind
  unnamed : roles.filterMap Role.name? = [] →
    (roles.filterMap Role.keyword?).getLast? = some (.declares kind)

/-- A block declares nothing, and a body is that of what the roles declare. -/
def Scope.Agrees (roles : List Role) (scope : Scope) : Prop :=
  match scope.kind with
  | .block => scope.name? = none ∧ scope.modifiers = []
  | .body kind => scope.BodyOf kind roles

theorem rolesBehindEnd_concat (ts : List Token) (t : Token) :
    rolesBehindEnd (ts ++ [t]) =
      if t.role.endsStatement then [] else rolesBehindEnd ts ++ [t.role] := by
  rw [rolesBehindEnd, List.map_append, List.map_singleton, List.rtakeWhile_concat]
  cases t.role.endsStatement <;> rfl

/-- A declaration that the roles tell gives its body the name and the kind that they tell. -/
theorem Declaration.Told.bodyOf {d : Declaration} (told : d.Told roles) (opening : Position) :
    Scope.BodyOf d.kind roles ⟨.body d.kind, d.name?, d.modifiers, opening⟩ where
  modifiers := told.modifiers.symm
  name := by
    have parts : (roles.filterMap Role.name?).map Prod.snd = d.parts := by
      rw [told.name, List.map_map]
      exact List.map_id d.parts
    simp [Declaration.name?, parts]
  kinds := by
    intro part member
    rw [told.name] at member
    obtain ⟨_, _, rfl⟩ := List.mem_map.mp member
    rfl
  unnamed := by
    intro noName
    rw [told.name] at noName
    exact told.kind (List.map_eq_nil_iff.mp noName)

theorem Statement.Takes.endsStatement_role (taken : Statement.Takes s around x t) :
    t.role.endsStatement = false := by
  unfold Role.endsStatement
  cases mark : t.role.punctuation? with
  | none => rfl
  | some m => exact taken.inside mark

namespace State

variable {s next : State} {x : Lexeme} {xs : List Lexeme}

/-- In the body of an enumeration statements start without a trace among the tokens, but declare
nothing. -/
def Told (s : State) : Prop :=
  s.nesting.inEnumBody = false → s.statement.Told (rolesBehindEnd s.tokens.reverse)

theorem told_of_ends {t : Token} (ends : t.role.endsStatement = true)
    (tokens : next.tokens = t :: ts) (empty : next.statement = .empty) : next.Told := by
  intro
  rw [tokens, List.reverse_cons, rolesBehindEnd_concat, if_pos ends, empty]
  exact ⟨rfl, rfl, rfl⟩

/-- With each step, the statement goes on to hold what its roles tell. -/
theorem Steps.told (wellFormed : s.statement.WellFormed) (told : s.Told) (steps : s.Steps x next) :
    next.Told := by
  cases steps with
  | trivia => exact told
  | opened | closed => exact told_of_ends rfl rfl rfl
  | semicolon =>
    refine told_of_ends ?_ rfl rfl
    rw [Statement.role_leave]
    rfl
  | @turn t taken =>
    intro outside
    cases kept : t.retracts with
    | true =>
      obtain ⟨depth, plain⟩ := taken.plain_of_retracts kept
      rw [State.turn, plain]
      trivial
    | false =>
      rw [tokens_turn kept, List.reverse_cons, rolesBehindEnd_concat,
        taken.endsStatement_role]
      exact taken.told outside wellFormed (told outside)

theorem read_told (read : State.initial.read xs = .ok s) : s.Told :=
  read_run (P := fun _ s => s.Told)
    (fun read told steps => steps.told (read_wellFormed read) told) read
    fun _ => ⟨rfl, rfl, rfl⟩

end State

/-- A brace opens the scope that the roles since the last brace or semicolon tell. -/
theorem Statement.scope_agrees (read : State.initial.read xs = .ok s) (opening : Position) :
    (s.statement.scope opening).Agrees (rolesBehindEnd s.tokens.reverse) := by
  unfold scope
  cases declares : s.statement.declaration? with
  | none => exact ⟨rfl, rfl⟩
  | some d =>
    have outside : s.nesting.inEnumBody = false :=
      (State.read_listsKept read).outside (by rw [declares]; rfl)
    exact ((State.read_told read outside).declaration declares).bodyOf opening

/-- The scope that a brace opens has what the roles behind the last brace or semicolon declare. -/
theorem opened_agrees {s next : State} (read : State.initial.read xs = .ok s)
    (stepped : s.step x = .ok next) (brace : x.mark? = some .openBrace) :
    ∃ scope, next.nesting = s.nesting.push scope ∧
      next.tokens = ⟨.punctuation .openBrace, x.position⟩ :: s.tokens ∧
      scope.opening = x.position ∧ scope.Agrees (rolesBehindEnd s.tokens.reverse) := by
  have other : ∀ {m}, Punctuation.ofMark? x.text = some m → m = .openBrace := by
    intro m found
    exact Option.some.inj (found.symm.trans (Lexeme.mark?_eq_some.mp brace).2)
  cases State.steps_of_step stepped with
  | trivia trivia =>
    rw [Lexeme.mark?_of_isTrivia trivia] at brace
    contradiction
  | turn taken =>
    have inside := taken.endsStatement
    rw [Lexeme.endsStatement, brace] at inside
    contradiction
  | opened =>
    refine ⟨s.statement.scope x.position, rfl, rfl, ?_, Statement.scope_agrees read x.position⟩
    unfold Statement.scope
    split <;> rfl
  | closed _ found | semicolon _ found => exact nomatch other found

/-- Of `record struct` the second keyword gives the kind, and the modifiers stay. -/
theorem opened_agrees_record_struct :
    ∃ (xs : List Lexeme) (x : Lexeme), xs = [⟨.word, "public", .start 0⟩,
        ⟨.word, "record", .start 7⟩, ⟨.word, "struct", .start 14⟩, ⟨.word, "R", .start 21⟩] ∧
      x = ⟨.punctuation, "\x7b", .start 23⟩ ∧ x.mark? = some .openBrace ∧
      ∃ s next, State.initial.read xs = .ok s ∧ s.step x = .ok next ∧
        next.nesting.scopes = [⟨.body .structDecl, some "R", [.publicAccess], .start 23⟩] ∧
        ∃ scope, next.nesting = s.nesting.push scope ∧
          next.tokens = ⟨.punctuation .openBrace, x.position⟩ :: s.tokens ∧
          scope.opening = x.position ∧ scope.Agrees (rolesBehindEnd s.tokens.reverse) := by
  refine ⟨_, _, rfl, rfl, rfl, ?_⟩
  have agrees {s next} := @opened_agrees
    [⟨.word, "public", .start 0⟩, ⟨.word, "record", .start 7⟩, ⟨.word, "struct", .start 14⟩,
      ⟨.word, "R", .start 21⟩] ⟨.punctuation, "\x7b", .start 23⟩ s next
  exact ⟨_, _, rfl, rfl, rfl, agrees rfl rfl rfl⟩

end Highlight
