import Highlight.Proofs.Classification.Cause
import Highlight.Proofs.Classification.Regions

/-! Which bracket an error names. A statement keeps the places of its open `<` and of its open `(`
on two stacks, and looks at the `<` first. No `<` is opened inside of a `(` that is kept, so that
behind a `<` the open `(` are the inner ones, and yet the error is at the `<`. -/
namespace Highlight

/-- The lexeme `x` behind `before` puts its place on the stack, and the place stays there while
`after` is read. -/
def StaysOpen (stack : Statement → List Position) (before : List Lexeme) (x : Lexeme)
    (after : List Lexeme) : Prop :=
  ∃ s, State.initial.read before = .ok s ∧ ∀ part, part <+: after →
    ∃ t, State.initial.read (before ++ x :: part) = .ok t ∧
      x.position :: stack s.statement <:+ stack t.statement

/-- Of all lexemes of `xs` with a place on the stack, the one behind `before` is the last. -/
structure LastOpen (stack : Statement → List Position) (xs before : List Lexeme) (x : Lexeme)
    (after : List Lexeme) : Prop where
  split : xs = before ++ x :: after
  stays : StaysOpen stack before x after
  last : ∀ before' x' after', xs = before' ++ x' :: after' → StaysOpen stack before' x' after' →
    before'.length ≤ before.length

/-- The bracket at which an error behind `xs` stands. It is the innermost one, unless that is a `(`
with an open `<` further out. -/
inductive NamedBracket (xs : List Lexeme) : ClassifyError → Prop
  | angle (angle : LastOpen Statement.angles xs before x after) (opens : region.OpenedBy x)
      (noParen : ∀ before' y after', xs = before' ++ y :: after' →
        ¬StaysOpen Statement.parens before' y after') :
      NamedBracket xs ⟨.unterminated region, x.position⟩
  | paren (paren : LastOpen Statement.parens xs before x after) (opens : x.mark? = some .openParen)
      (noAngle : ∀ before' y after', xs = before' ++ y :: after' →
        ¬StaysOpen Statement.angles before' y after') :
      NamedBracket xs ⟨.unterminated .parameterList, x.position⟩
  | outerAngle (angle : LastOpen Statement.angles xs before x after) (opens : region.OpenedBy x)
      (paren : LastOpen Statement.parens xs before' y after')
      (inner : before.length < before'.length) :
      NamedBracket xs ⟨.unterminated region, x.position⟩

/-- What the lexeme `x` does to a stack: it drops some of the newest places, or it is the mark and
puts its own place on the stack. -/
inductive StackStep (mark : Punctuation) (x : Lexeme) (old new : List Position) : Prop
  | drops (kept : new <:+ old)
  | pushes (found : x.mark? = some mark) (pushed : new = x.position :: old)

theorem OnWord.angles (onWord : OnWord around w p s t) : t.statement.angles = s.angles := by
  cases onWord <;> rfl

theorem OnWord.parens (onWord : OnWord around w p s t) : t.statement.parens = s.parens := by
  cases onWord <;> rfl

theorem KeepsHeader.angles (kept : KeepsHeader s target) : target.angles = s.angles := by
  cases kept <;> rfl

theorem KeepsHeader.parens (kept : KeepsHeader s target) : target.parens = s.parens := by
  cases kept <;> rfl

/-- No bracket is opened inside of a parenthesis, if there is no type in one. -/
theorem OnMark.angles (onMark : OnMark around p s m t) :
    t.statement.angles <:+ s.angles ∨ m = .lessThan ∧ t.statement.angles = p :: s.angles ∧
      ((∀ text, around.last? = some (.type text) → s.parens = []) → s.parens = []) := by
  have kept : ∀ {target}, KeepsHeader s target → target.angles <:+ s.angles :=
    fun kept => kept.angles ▸ List.suffix_refl _
  cases onMark with
  | leaves => exact .inl (kept (Statement.keepsHeader_leave s _))
  | deepens => exact .inl (kept (Statement.keepsHeader_deepen_leave s _))
  | nests => exact .inl (kept (Statement.keepsHeader_deepen s))
  | lifts => exact .inl (kept (Statement.keepsHeader_lift s))
  | typeParametersBegin | parameterArgumentsBegin | constraintArgumentsBegin =>
    exact .inr ⟨rfl, rfl, fun _ => rfl⟩
  | baseArgumentsBegin behind => exact .inr ⟨rfl, rfl, fun outside => outside _ behind⟩
  | parameterArgumentsEnd | baseArgumentsEnd | constraintArgumentsEnd =>
    exact .inl (List.suffix_cons _ _)
  | typeParametersEnd | nextMember => exact .inl List.nil_suffix
  | _ => exact .inl (List.suffix_refl _)

/-- A parenthesis is put on the stack by the mark that opens it alone. -/
theorem OnMark.parens (onMark : OnMark around p s m t) :
    t.statement.parens <:+ s.parens ∨ m = .openParen ∧ t.statement.parens = p :: s.parens := by
  have kept : ∀ {target}, KeepsHeader s target → target.parens <:+ s.parens :=
    fun kept => kept.parens ▸ List.suffix_refl _
  cases onMark with
  | leaves => exact .inl (kept (Statement.keepsHeader_leave s _))
  | deepens => exact .inl (kept (Statement.keepsHeader_deepen_leave s _))
  | nests => exact .inl (kept (Statement.keepsHeader_deepen s))
  | lifts => exact .inl (kept (Statement.keepsHeader_lift s))
  | parametersBegin | parameterParenBegin | baseParenBegin => exact .inr ⟨rfl, rfl⟩
  | parameterParenEnd => exact .inl (List.suffix_cons _ _)
  | baseParenEnd => exact .inl (List.tail_suffix _)
  | parametersEnd | nextMember => exact .inl List.nil_suffix
  | _ => exact .inl (List.suffix_refl _)

theorem Role.ofWord_ne_type (w text : String) : Role.ofWord w ≠ .type text := by
  unfold Role.ofWord
  split <;> nofun

namespace Statement.Takes

theorem angles (taken : Takes s around x t) :
    StackStep .lessThan x s.angles t.statement.angles := by
  cases taken with
  | word => exact .drops ((onWord_word s around x.text x.position).angles ▸ List.suffix_refl _)
  | literal => exact .drops ((keepsHeader_leave s _).angles ▸ List.suffix_refl _)
  | @mark m kind found =>
    rcases (onMark_mark s around m x.position).angles with kept | ⟨rfl, pushed, _⟩
    · exact .drops kept
    · exact .pushes (Lexeme.mark?_eq_some.mpr ⟨kind, found⟩) pushed

theorem parens (taken : Takes s around x t) :
    StackStep .openParen x s.parens t.statement.parens := by
  cases taken with
  | word => exact .drops ((onWord_word s around x.text x.position).parens ▸ List.suffix_refl _)
  | literal => exact .drops ((keepsHeader_leave s _).parens ▸ List.suffix_refl _)
  | @mark m kind found =>
    rcases (onMark_mark s around m x.position).parens with kept | ⟨rfl, pushed⟩
    · exact .drops kept
    · exact .pushes (Lexeme.mark?_eq_some.mpr ⟨kind, found⟩) pushed

/-- A type stands outside of the parentheses that are kept. -/
theorem parens_of_type {text : String} (taken : Takes s around x t)
    (role : t.role = .type text) : t.statement.parens = [] := by
  rcases taken.role_cases with ⟨_, onWord⟩ | ⟨_, other⟩ | ⟨_, other⟩
  · cases onWord with
    | parameterArgument | baseType | constraintArgument | constraintType => rfl
    | ordinary | headerClause | headerWord | plain => rfl
    | parameter | baseArgument => exact absurd role (Role.ofWord_ne_type _ _)
    | _ => contradiction
  · exact nomatch other.symm.trans role
  · exact nomatch other.symm.trans role

/-- A bracket is opened outside of the parentheses that are kept. -/
theorem parens_of_angle (taken : Takes s around x t)
    (outside : ∀ text, around.last? = some (.type text) → s.parens = [])
    (pushed : t.statement.angles = x.position :: s.angles) : s.parens = [] := by
  have grown : ¬t.statement.angles <:+ s.angles := by
    intro kept
    have size := kept.length_le
    rw [pushed, List.length_cons] at size
    omega
  cases taken with
  | word =>
    exact absurd ((onWord_word s around x.text x.position).angles ▸ List.suffix_refl _) grown
  | literal => exact absurd ((keepsHeader_leave s _).angles ▸ List.suffix_refl _) grown
  | mark =>
    obtain ⟨_, _, parens⟩ := (onMark_mark s around _ x.position).angles.resolve_left grown
    exact parens outside

end Statement.Takes

namespace State

variable {s next mid mid' : State} {x y : Lexeme} {xs before before' after after' : List Lexeme}

theorem Steps.angles (steps : s.Steps x next) :
    StackStep .lessThan x s.statement.angles next.statement.angles := by
  cases steps with
  | trivia => exact .drops (List.suffix_refl _)
  | turn taken => exact taken.angles
  | opened | closed | semicolon => exact .drops List.nil_suffix

theorem Steps.parens (steps : s.Steps x next) :
    StackStep .openParen x s.statement.parens next.statement.parens := by
  cases steps with
  | trivia => exact .drops (List.suffix_refl _)
  | turn taken => exact taken.parens
  | opened | closed | semicolon => exact .drops List.nil_suffix

theorem read_parens_of_type (read : State.initial.read xs = .ok s) :
    ∀ text, s.last? = some (.type text) → s.statement.parens = [] := by
  refine read_keeps (P := fun s => ∀ text, s.last? = some (.type text) → s.statement.parens = [])
    ?_ read (fun _ _ => rfl)
  intro s x next kept steps text last
  cases steps with
  | trivia => exact kept text last
  | turn taken => exact taken.parens_of_type (Option.some.inj last)
  | opened | closed | semicolon => rfl

/-- Where a `<` is opened, no parenthesis is open. -/
theorem Steps.parens_of_angle (steps : s.Steps x next)
    (outside : ∀ text, s.last? = some (.type text) → s.statement.parens = [])
    (pushed : next.statement.angles = x.position :: s.statement.angles) :
    s.statement.parens = [] := by
  cases steps with
  | trivia => exact absurd pushed (List.cons_ne_self _ _).symm
  | turn taken => exact taken.parens_of_angle outside pushed
  | opened | closed | semicolon => contradiction

end State

namespace StaysOpen

variable {stack : Statement → List Position} {mark : Punctuation} {x y : Lexeme}
  {s mid mid' : State} {xs before before' after after' : List Lexeme}

/-- The place is on the stack as long as the lexeme stays open. -/
theorem suffix (stays : StaysOpen stack before x after)
    (read : State.initial.read before = .ok mid) (part : rest <+: after)
    (readPart : State.initial.read (before ++ x :: rest) = .ok s) :
    x.position :: stack mid.statement <:+ stack s.statement := by
  obtain ⟨_, same, opened⟩ := stays
  obtain rfl := Except.ok.inj (read.symm.trans same)
  obtain ⟨_, samePart, suffix⟩ := opened rest part
  obtain rfl := Except.ok.inj (readPart.symm.trans samePart)
  exact suffix

theorem concat (stays : StaysOpen stack before x after)
    (read : State.initial.read before = .ok mid)
    (readNext : State.initial.read (before ++ x :: (after ++ [y])) = .ok s)
    (suffix : x.position :: stack mid.statement <:+ stack s.statement) :
    StaysOpen stack before x (after ++ [y]) := by
  refine ⟨mid, read, fun part inside => ?_⟩
  rcases List.prefix_concat_iff.mp inside with rfl | inside
  · exact ⟨s, readNext, suffix⟩
  · obtain ⟨_, same, opened⟩ := stays
    obtain rfl := Except.ok.inj (read.symm.trans same)
    exact opened part inside

/-- The first lexeme has its place on the stack when the second is read. -/
theorem suffix_of_lt (stays : StaysOpen stack before x after) (split : xs = before ++ x :: after)
    (split' : xs = before' ++ y :: after') (lt : before.length < before'.length)
    (read : State.initial.read before = .ok mid) (read' : State.initial.read before' = .ok mid') :
    x.position :: stack mid.statement <:+ stack mid'.statement := by
  rcases List.append_eq_append_iff.mp (split.symm.trans split') with
    ⟨_ | ⟨z, part⟩, rfl, rest⟩ | ⟨part, rfl, _⟩
  · rw [List.append_nil] at lt
    exact absurd lt (Nat.lt_irrefl _)
  · obtain ⟨rfl, rfl⟩ := List.cons.inj rest
    exact stays.suffix read (List.prefix_append _ _) read'
  · rw [List.length_append] at lt
    omega

end StaysOpen

structure KeepsPlaces (stack : Statement → List Position) (mark : Punctuation) : Prop where
  empty : stack .empty = []
  step : ∀ {s x next}, State.Steps s x next →
    StackStep mark x (stack s.statement) (stack next.statement)

theorem keepsPlaces_angles : KeepsPlaces Statement.angles .lessThan :=
  ⟨rfl, State.Steps.angles⟩

theorem keepsPlaces_parens : KeepsPlaces Statement.parens .openParen :=
  ⟨rfl, State.Steps.parens⟩

/-- The place `p` above `rest` is that of a lexeme that stays open. -/
def HasOpener (stack : Statement → List Position) (mark : Punctuation) (xs : List Lexeme)
    (p : Position) (rest : List Position) : Prop :=
  ∃ before x after mid, xs = before ++ x :: after ∧ x.position = p ∧ x.mark? = some mark ∧
    State.initial.read before = .ok mid ∧ stack mid.statement = rest ∧
    StaysOpen stack before x after

namespace KeepsPlaces

variable {stack : Statement → List Position} {mark : Punctuation} {x y : Lexeme}
  {s : State} {xs before after : List Lexeme}

/-- Each place on a stack is that of a mark which has stayed open since. -/
theorem hasOpener (keeps : KeepsPlaces stack mark) (read : State.initial.read xs = .ok s) :
    ∀ p rest, p :: rest <:+ stack s.statement → HasOpener stack mark xs p rest := by
  refine State.read_run (P := fun xs s => ∀ p rest, p :: rest <:+ stack s.statement →
    HasOpener stack mark xs p rest) ?_ read ?_
  · intro ys s y next read kept steps p rest suffix
    have readNext := State.read_concat read steps
    -- A place from in front of the step is still there behind it.
    have old : p :: rest <:+ stack s.statement → HasOpener stack mark (ys ++ [y]) p rest := by
      intro old
      obtain ⟨before, x, after, mid, rfl, rfl, found, readBefore, rfl, stays⟩ := kept p rest old
      rw [List.append_assoc, List.cons_append] at readNext ⊢
      exact ⟨before, x, after ++ [y], mid, rfl, rfl, found, readBefore, rfl,
        stays.concat readBefore readNext suffix⟩
    cases keeps.step steps with
    | drops kept => exact old (suffix.trans kept)
    | pushes found pushed =>
      rw [pushed] at suffix
      rcases List.suffix_cons_iff.mp suffix with top | below
      · obtain ⟨rfl, rfl⟩ := List.cons.inj top
        refine ⟨ys, y, [], s, rfl, rfl, found, read, rfl, s, read, fun part inside => ?_⟩
        obtain rfl := List.prefix_nil.mp inside
        exact ⟨next, readNext, pushed ▸ List.suffix_refl _⟩
      · exact old below
  · intro p rest suffix
    rw [State.initial, keeps.empty] at suffix
    exact absurd (List.suffix_nil.mp suffix) (List.cons_ne_nil _ _)

/-- The newest place is that of the last lexeme that stays open. -/
theorem exists_lastOpen (keeps : KeepsPlaces stack mark) (read : State.initial.read xs = .ok s)
    (top : stack s.statement = p :: rest) :
    ∃ before x after, LastOpen stack xs before x after ∧ x.position = p ∧ x.mark? = some mark := by
  obtain ⟨before, x, after, mid, split, here, found, readBefore, rfl, stays⟩ :=
    keeps.hasOpener read p rest (top ▸ List.suffix_refl _)
  refine ⟨before, x, after, ⟨split, stays, ?_⟩, here, found⟩
  intro before' y after' split' stays'
  by_contra longer
  obtain ⟨mid', readBefore', opened⟩ := stays'
  obtain ⟨_, same, above⟩ := opened after' (List.prefix_refl _)
  rw [← split'] at same
  obtain rfl := Except.ok.inj (read.symm.trans same)
  have below := stays.suffix_of_lt split split' (Nat.lt_of_not_le longer) readBefore readBefore'
  -- Two places more than in front of `x`, but it has the newest one.
  have bound := (above.length_le).trans (congrArg List.length top).le
  have size := below.length_le
  simp only [List.length_cons] at bound size
  omega

/-- With nothing on the stack, no lexeme stays open. -/
theorem not_staysOpen (read : State.initial.read xs = .ok s) (nothing : stack s.statement = [])
    (split : xs = before ++ x :: after) : ¬StaysOpen stack before x after := by
  rintro ⟨mid, readBefore, opened⟩
  obtain ⟨_, same, above⟩ := opened after (List.prefix_refl _)
  rw [← split] at same
  obtain rfl := Except.ok.inj (read.symm.trans same)
  rw [nothing] at above
  exact absurd (List.suffix_nil.mp above) (List.cons_ne_nil _ _)

/-- What stays open has been put on the stack by its own step. -/
theorem exists_push (keeps : KeepsPlaces stack mark) (stays : StaysOpen stack before x after) :
    ∃ mid next, State.initial.read before = .ok mid ∧ mid.Steps x next ∧ x.mark? = some mark ∧
      stack next.statement = x.position :: stack mid.statement := by
  obtain ⟨mid, read, opened⟩ := stays
  obtain ⟨next, readNext, suffix⟩ := opened [] List.nil_prefix
  obtain ⟨_, same, stepped⟩ := State.read_append_eq_ok.mp readNext
  obtain rfl := Except.ok.inj (read.symm.trans same)
  unfold State.read at stepped
  split at stepped
  · contradiction
  · next stepped' =>
    obtain rfl := Except.ok.inj stepped
    have steps := State.steps_of_step stepped'
    cases keeps.step steps with
    | pushes found pushed => exact ⟨mid, _, read, steps, found, pushed⟩
    | drops kept =>
      have size := (suffix.trans kept).length_le
      rw [List.length_cons] at size
      omega

end KeepsPlaces

/-- Of two brackets that are open, the `<` is in front of the `(`. -/
theorem angle_before_paren (split : xs = before ++ x :: after)
    (angle : StaysOpen Statement.angles before x after) (split' : xs = before' ++ y :: after')
    (paren : StaysOpen Statement.parens before' y after') : before.length < before'.length := by
  by_contra notBefore
  obtain ⟨mid, next, read, steps, isAngle, pushed⟩ := keepsPlaces_angles.exists_push angle
  obtain ⟨mid', _, read', _, isParen, _⟩ := keepsPlaces_parens.exists_push paren
  rcases Nat.lt_or_eq_of_le (Nat.le_of_not_lt notBefore) with behind | same
  · have outside := steps.parens_of_angle (State.read_parens_of_type read) pushed
    have inside := paren.suffix_of_lt split' split behind read' read
    rw [outside] at inside
    exact absurd (List.suffix_nil.mp inside) (List.cons_ne_nil _ _)
  · obtain ⟨_, rest⟩ := List.append_inj (split'.symm.trans split) same
    obtain ⟨rfl, _⟩ := List.cons.inj rest
    exact nomatch isAngle.symm.trans isParen

/-- An error about brackets is at the last `<`, or at the last `(` if no `<` is open. -/
theorem namedBracket_of_unclosed (read : State.initial.read xs = .ok s)
    (unclosed : s.statement.unclosed? = some e) : NamedBracket xs e := by
  cases top : s.statement.angles with
  | cons p outer =>
    obtain ⟨before, x, after, angle, rfl, isAngle⟩ := keepsPlaces_angles.exists_lastOpen read top
    have named : ∃ region : Region, region.OpenedBy x ∧ e = ⟨.unterminated region, x.position⟩ := by
      rcases Statement.openRegion?_angle top (Statement.openRegion?_of_unclosed? unclosed) with
        rfl | rfl
      · exact ⟨.typeParameterList, isAngle, rfl⟩
      · exact ⟨.typeArgumentList, isAngle, rfl⟩
    obtain ⟨region, opens, rfl⟩ := named
    cases inner : s.statement.parens with
    | nil => exact .angle angle opens fun _ _ _ => KeepsPlaces.not_staysOpen read inner
    | cons q rest =>
      obtain ⟨before', y, after', paren, _, _⟩ := keepsPlaces_parens.exists_lastOpen read inner
      exact .outerAngle angle opens paren
        (angle_before_paren angle.split angle.stays paren.split paren.stays)
  | nil =>
    cases inner : s.statement.parens with
    | nil => simp [Statement.unclosed?, top, inner] at unclosed
    | cons q rest =>
      obtain ⟨before, x, after, paren, rfl, isParen⟩ :=
        keepsPlaces_parens.exists_lastOpen read inner
      simp only [Statement.unclosed?, top, inner, Option.some.injEq] at unclosed
      obtain rfl := unclosed
      exact .paren paren isParen fun _ _ _ => KeepsPlaces.not_staysOpen read top

/-- The second of two open parentheses: `class C(A(`. -/
theorem namedBracket_parameters :
    ∃ xs s e,
      xs =
        [⟨.word, "class", .start 0⟩, ⟨.word, "C", .start 6⟩, ⟨.punctuation, "(", .start 7⟩,
          ⟨.word, "A", .start 8⟩, ⟨.punctuation, "(", .start 9⟩] ∧
      State.initial.read xs = .ok s ∧ s.statement.unclosed? = some e ∧
      e = ⟨.unterminated .parameterList, .start 9⟩ ∧ NamedBracket xs e :=
  ⟨_, _, _, rfl, rfl, rfl, rfl, namedBracket_of_unclosed rfl rfl⟩

/-- A parenthesis inside of type arguments is open, and the error is at the type arguments:
`class C : A<B(`. -/
theorem innermost_not_named :
    ¬∀ xs s e, State.initial.read xs = .ok s → s.statement.unclosed? = some e →
      ∃ before x after, xs = before ++ x :: after ∧ e.position = x.position ∧
        ∀ before' y after', xs = before' ++ y :: after' →
          StaysOpen Statement.angles before' y after' ∨
            StaysOpen Statement.parens before' y after' →
          before'.length ≤ before.length := by
  intro all
  obtain ⟨before, x, after, split, here, last⟩ := all
    ([⟨.word, "class", .start 0⟩, ⟨.word, "C", .start 6⟩, ⟨.punctuation, ":", .start 8⟩,
      ⟨.word, "A", .start 10⟩, ⟨.punctuation, "<", .start 11⟩, ⟨.word, "B", .start 12⟩] ++
      [⟨.punctuation, "(", .start 13⟩])
    _ ⟨.unterminated .typeArgumentList, .start 11⟩ rfl rfl
  have innermost : 6 ≤ before.length := by
    refine last _ _ [] rfl (.inr ⟨_, rfl, fun part inside => ?_⟩)
    obtain rfl := List.prefix_nil.mp inside
    exact ⟨_, rfl, List.suffix_refl _⟩
  have length : before.length = 6 := by
    have size := congrArg List.length split
    simp only [List.length_append, List.length_cons, List.length_nil] at size
    omega
  obtain ⟨_, rest⟩ := List.append_inj split length.symm
  obtain ⟨rfl, _⟩ := List.cons.inj rest
  cases here

end Highlight
