import Highlight.Proofs.Classification.Step

/-! Roles depend on kinds and texts of lexemes only: to move the lexemes moves the tokens and the
errors, and to leave out trivia changes nothing. -/
namespace Highlight

variable {f : Position → Position}

def Lexeme.relocate (f : Position → Position) (x : Lexeme) : Lexeme :=
  { x with position := f x.position }

def Token.relocate (f : Position → Position) (t : Token) : Token :=
  { t with position := f t.position }

def ClassifyError.relocate (f : Position → Position) (e : ClassifyError) : ClassifyError :=
  { e with position := f e.position }

def Scope.relocate (f : Position → Position) (scope : Scope) : Scope :=
  { scope with opening := f scope.opening }

def Nesting.relocate (f : Position → Position) (nesting : Nesting) : Nesting :=
  ⟨nesting.scopes.map (Scope.relocate f)⟩

def Event.relocate (f : Position → Position) : Event → Event
  | .phase source target => .phase source target
  | .opened scope depth => .opened (scope.relocate f) depth
  | .closed scope depth => .closed (scope.relocate f) depth

def Declaration.relocate (f : Position → Position) (d : Declaration) : Declaration :=
  { d with keyword := f d.keyword }

def Statement.relocate (f : Position → Position) : Statement → Statement
  | .start modifiers depth => .start modifiers depth
  | .naming d => .naming (d.relocate f)
  | .header d => .header (d.relocate f)
  | .typeParameters d awaitsName angles =>
    .typeParameters (d.relocate f) awaitsName (angles.map f)
  | .parameters d parens => .parameters (d.relocate f) (parens.map f)
  | .baseList d colon angles parens =>
    .baseList (d.relocate f) (f colon) (angles.map f) (parens.map f)
  | .constraints d clause angles => .constraints (d.relocate f) (f clause) (angles.map f)
  | .plain depth => .plain depth

def Turn.relocate (f : Position → Position) (t : Turn) : Turn :=
  { t with statement := t.statement.relocate f }

def State.relocate (f : Position → Position) (s : State) : State where
  tokens := s.tokens.map (Token.relocate f)
  nesting := s.nesting.relocate f
  statement := s.statement.relocate f
  events := s.events.map (Event.relocate f)

def Halt.relocate (f : Position → Position) (halt : Halt) : Halt :=
  ⟨halt.state.relocate f, halt.error.relocate f⟩

namespace Statement

theorem relocate_leave (s : Statement) (role : Role) :
    (s.relocate f).leave role = (s.leave role).relocate f := by
  cases s with
  | start modifiers depth => cases depth <;> rfl
  | _ => rfl

/-- The turn of a word does not depend on places, it only passes them on. -/
theorem relocate_word (s : Statement) (around : Surroundings) (w : String) (p : Position) :
    (s.relocate f).word around w (f p) = (s.word around w p).relocate f := by
  cases s with
  | start modifiers depth =>
    simp only [relocate, word, leadingWord]
    split
    · rfl
    split
    · rfl
    split <;> rfl
  | naming d =>
    simp only [relocate, word, wordInName, Declaration.relocate]
    split <;> rfl
  | header d =>
    simp only [relocate, word, Declaration.relocate]
    split <;> rfl
  | typeParameters d awaitsName angles =>
    simp only [relocate, word, wordInTypeParameters, List.length_map]
    split
    · rfl
    split
    · rfl
    split <;> rfl
  | baseList d colon angles parens =>
    simp only [relocate, word, wordInBaseList, List.isEmpty_map, Declaration.relocate]
    split
    · rfl
    split
    · split <;> rfl
    · rfl
  | constraints d clause angles =>
    simp only [relocate, word, wordInConstraints, List.isEmpty_map]
    split
    · rfl
    split <;> rfl
  | parameters d parens | plain depth => rfl

/-- The turn of a mark passes places on like that of a word. -/
theorem relocate_mark (s : Statement) (around : Surroundings) (m : Punctuation) (p : Position) :
    (s.relocate f).mark around m (f p) = (s.mark around m p).relocate f := by
  cases m
  case lessThan =>
    simp only [mark, lessThan]
    cases s with
    | header d =>
      rcases around with ⟨_, _ | last⟩
      · rfl
      · cases last <;> simp only [relocate, Declaration.relocate] <;> (try split) <;> rfl
    | baseList | constraints =>
      rcases around with ⟨_, _ | last⟩
      · rfl
      · cases last <;> rfl
    | typeParameters => rfl
    | _ => exact relocate_leave _ _
  case greaterThan =>
    cases s with
    | typeParameters d awaitsName angles => rcases angles with _ | ⟨_, _ | _⟩ <;> rfl
    | baseList d colon angles parens => cases angles <;> rfl
    | constraints d clause angles => cases angles <;> rfl
    | start => exact relocate_leave _ _
    | _ => rfl
  case openParen =>
    cases s with
    | start modifiers depth => cases depth <;> rfl
    | _ => rfl
  case closeParen =>
    cases s with
    | parameters d parens => rcases parens with _ | ⟨_, _ | _⟩ <;> rfl
    | baseList d colon angles parens => cases parens <;> rfl
    | _ => rfl
  case openBracket => cases s <;> rfl
  case closeBracket => cases s <;> rfl
  case comma =>
    simp only [mark, comma]
    cases s with
    | typeParameters d awaitsName angles => rcases angles with _ | ⟨_, _ | _⟩ <;> rfl
    | plain depth =>
      cases depth with
      | zero => simp only [relocate]; split <;> rfl
      | succ => rfl
    | _ => exact relocate_leave _ _
  case colon =>
    cases s with
    | start => exact relocate_leave _ _
    | _ => rfl
  case accessor =>
    simp only [mark, accessor]
    cases s with
    | header d => simp only [relocate, Declaration.relocate]; split <;> rfl
    | _ => exact relocate_leave _ _
  all_goals exact relocate_leave _ _

theorem relocate_unclosed? (s : Statement) :
    (s.relocate f).unclosed? = s.unclosed?.map (ClassifyError.relocate f) := by
  cases s with
  | typeParameters d awaitsName angles => rcases angles with _ | ⟨_, _ | _⟩ <;> rfl
  | parameters d parens => cases parens <;> rfl
  | baseList d colon angles parens =>
    rcases angles with _ | ⟨_, _ | _⟩
    · cases parens <;> rfl
    · rfl
    · rfl
  | constraints d clause angles => rcases angles with _ | ⟨_, _ | _⟩ <;> rfl
  | _ => rfl

theorem relocate_openRegion? (s : Statement) :
    (s.relocate f).openRegion? = s.openRegion?.map (ClassifyError.relocate f) := by
  unfold openRegion?
  rw [relocate_unclosed?]
  cases s.unclosed? with
  | some e => rfl
  | none => cases s <;> rfl

theorem relocate_scope (s : Statement) (p : Position) :
    (s.relocate f).scope (f p) = (s.scope p).relocate f := by
  cases s <;> rfl

end Statement

@[simp] theorem Statement.relocate_empty : Statement.empty.relocate f = .empty := rfl

@[simp] theorem Statement.phase_relocate (s : Statement) : (s.relocate f).phase = s.phase := by
  cases s <;> rfl

namespace Nesting

@[simp] theorem relocate_push (nesting : Nesting) (scope : Scope) :
    (nesting.push scope).relocate f = (nesting.relocate f).push (scope.relocate f) := rfl

@[simp] theorem depth_relocate (nesting : Nesting) : (nesting.relocate f).depth = nesting.depth :=
  List.length_map _

@[simp] theorem inEnumBody_relocate (nesting : Nesting) :
    (nesting.relocate f).inEnumBody = nesting.inEnumBody := by
  obtain ⟨_ | ⟨scope, scopes⟩⟩ := nesting <;> rfl

theorem relocate_pop? (nesting : Nesting) :
    (nesting.relocate f).pop? =
      nesting.pop?.map fun (scope, outer) => (scope.relocate f, outer.relocate f) := by
  obtain ⟨_ | ⟨scope, scopes⟩⟩ := nesting <;> rfl

end Nesting

theorem Token.relocate_retract (t : Token) : (t.relocate f).retract = t.retract.relocate f := by
  unfold retract relocate
  dsimp only
  split <;> rfl

namespace State

@[simp] theorem surroundings_relocate (s : State) :
    (s.relocate f).surroundings = s.surroundings := by
  unfold surroundings
  have last : (s.relocate f).last? = s.last? := by
    unfold last? relocate
    cases s.tokens <;> rfl
  rw [last]
  simp [relocate]

theorem relocate_turn (s : State) (p : Position) (t : Turn) :
    (s.relocate f).turn (f p) (t.relocate f) = (s.turn p t).relocate f := by
  have tokens : (s.tokens.map (Token.relocate f)).modifyHead Token.retract =
      (s.tokens.modifyHead Token.retract).map (Token.relocate f) := by
    cases s.tokens with
    | nil => rfl
    | cons u us => simp [Token.relocate_retract]
  simp only [turn, relocate, Turn.relocate, tokens, Statement.phase_relocate]
  split <;> split <;> rfl

theorem relocate_openBrace (s : State) (p : Position) :
    (s.relocate f).openBrace (f p) =
      ((s.openBrace p).map (relocate f)).mapError (ClassifyError.relocate f) := by
  have unclosed := Statement.relocate_unclosed? (f := f) s.statement
  have scope := Statement.relocate_scope (f := f) s.statement p
  have depth := Nesting.depth_relocate (f := f) s.nesting
  simp only [openBrace, relocate] at *
  rw [unclosed, scope, depth]
  cases s.statement.unclosed? <;> rfl

theorem relocate_closeBrace (s : State) (p : Position) :
    (s.relocate f).closeBrace (f p) =
      ((s.closeBrace p).map (relocate f)).mapError (ClassifyError.relocate f) := by
  have region := Statement.relocate_openRegion? (f := f) s.statement
  have popped := Nesting.relocate_pop? (f := f) s.nesting
  simp only [closeBrace, relocate] at *
  rw [region, popped]
  cases s.statement.openRegion? with
  | some e => rfl
  | none =>
    cases s.nesting.pop? with
    | none => rfl
    | some pair =>
      have depth := Nesting.depth_relocate (f := f) pair.2
      simp only [Option.map_none, Option.map_some, depth]
      rfl

theorem relocate_semicolon (s : State) (p : Position) :
    (s.relocate f).semicolon (f p) =
      ((s.semicolon p).map (relocate f)).mapError (ClassifyError.relocate f) := by
  have unclosed : (s.relocate f).statement.unclosed? = s.statement.unclosed?.map _ :=
    Statement.relocate_unclosed? s.statement
  have left : (s.relocate f).statement.leave (.punctuation .semicolon) = _ :=
    Statement.relocate_leave s.statement _
  unfold semicolon
  rw [unclosed, left, relocate_turn]
  cases s.statement.unclosed? <;> rfl

theorem relocate_mark (s : State) (m : Punctuation) (p : Position) :
    (s.relocate f).mark m (f p) =
      ((s.mark m p).map (relocate f)).mapError (ClassifyError.relocate f) := by
  have turned : ((s.relocate f).turn (f p)
      ((s.relocate f).statement.mark (s.relocate f).surroundings m (f p))) =
        (s.turn p (s.statement.mark s.surroundings m p)).relocate f := by
    rw [surroundings_relocate, ← relocate_turn, ← Statement.relocate_mark]
    rfl
  cases m
  case openBrace => exact relocate_openBrace s p
  case closeBrace => exact relocate_closeBrace s p
  case semicolon => exact relocate_semicolon s p
  all_goals exact congrArg Except.ok turned

/-- A step commutes with moving all places, also where it fails. -/
theorem relocate_step (s : State) (x : Lexeme) :
    (s.relocate f).step (x.relocate f) =
      ((s.step x).map (relocate f)).mapError (ClassifyError.relocate f) := by
  obtain ⟨kind, text, p⟩ := x
  cases kind with
  | word =>
    have turned : (s.relocate f).turn (f p)
        ((s.relocate f).statement.word (s.relocate f).surroundings text (f p)) =
          (s.turn p (s.statement.word s.surroundings text p)).relocate f := by
      rw [surroundings_relocate, ← relocate_turn, ← Statement.relocate_word]
      rfl
    exact congrArg Except.ok turned
  | literal =>
    have turned := relocate_turn (f := f) s p (s.statement.literal text)
    rw [Statement.literal, ← Statement.relocate_leave] at turned
    exact congrArg Except.ok turned
  | punctuation =>
    simp only [step, Lexeme.relocate]
    cases Punctuation.ofMark? text with
    | none => rfl
    | some m => exact relocate_mark s m p
  | whitespace | newline | comment | directive => rfl

theorem relocate_read (s : State) (xs : List Lexeme) :
    (s.relocate f).read (xs.map (Lexeme.relocate f)) =
      ((s.read xs).map (relocate f)).mapError (Halt.relocate f) := by
  induction xs generalizing s with
  | nil => rfl
  | cons x xs ih =>
    simp only [List.map_cons, State.read, relocate_step]
    cases s.step x with
    | error e => rfl
    | ok next => exact ih next

theorem relocate_open? (s : State) :
    (s.relocate f).open? = s.open?.map (ClassifyError.relocate f) := by
  have region : (s.relocate f).statement.openRegion? = s.statement.openRegion?.map _ :=
    Statement.relocate_openRegion? s.statement
  unfold open?
  rw [region]
  obtain ⟨tokens, ⟨_ | ⟨scope, scopes⟩⟩, statement, events⟩ := s <;>
    cases statement.openRegion? <;> rfl

theorem relocate_finish (s : State) :
    (s.relocate f).finish = (s.finish.map (relocate f)).mapError (Halt.relocate f) := by
  unfold finish
  rw [relocate_open?]
  cases s.open? <;> rfl

/-- Trivia may be left out. -/
theorem read_significant (s : State) (xs : List Lexeme) : s.read (significant xs) = s.read xs := by
  induction xs generalizing s with
  | nil => rfl
  | cons x xs ih =>
    cases trivia : x.kind.isTrivia with
    | true =>
      rw [significant_cons_trivia trivia, ih, State.read, step_of_steps (.trivia trivia)]
    | false =>
      rw [significant_cons trivia, State.read, State.read]
      cases s.step x with
      | error e => rfl
      | ok next => exact ih next

end State

theorem significant_relocate (xs : List Lexeme) :
    significant (xs.map (Lexeme.relocate f)) = (significant xs).map (Lexeme.relocate f) :=
  List.filter_map

theorem classify_significant (xs : List Lexeme) : classify (significant xs) = classify xs := by
  unfold classify classification
  rw [State.read_significant]

/-- Moving all lexemes moves the tokens or the error, and changes nothing else. -/
theorem relocate_classification (xs : List Lexeme) :
    classification (xs.map (Lexeme.relocate f)) =
      ((classification xs).map (State.relocate f)).mapError (Halt.relocate f) := by
  have initial : State.initial.relocate f = State.initial := rfl
  have run := State.relocate_read (f := f) State.initial xs
  rw [initial] at run
  unfold classification
  rw [run]
  cases State.initial.read xs with
  | error halt => rfl
  | ok s => exact State.relocate_finish s

/-- Moved lexemes have moved tokens. -/
theorem relocate_classify (xs : List Lexeme) :
    classify (xs.map (Lexeme.relocate f)) =
      ((classify xs).map (List.map (Token.relocate f))).mapError (ClassifyError.relocate f) := by
  unfold classify
  rw [relocate_classification]
  cases classification xs with
  | error halt => rfl
  | ok s => exact congrArg Except.ok List.map_reverse.symm

/-- Lexemes of the same kinds and texts get the same roles, wherever they stand. -/
theorem roles_of_relocate
    (classified : classify ((significant xs).map (Lexeme.relocate f)) = .ok us) :
    ∃ ts, classify xs = .ok ts ∧ ts.map Token.role = us.map Token.role := by
  rw [relocate_classify, classify_significant] at classified
  cases found : classify xs with
  | error e =>
    rw [found] at classified
    contradiction
  | ok ts =>
    rw [found] at classified
    obtain rfl := Except.ok.inj classified
    exact ⟨ts, rfl, by simp [Token.relocate]⟩

end Highlight
