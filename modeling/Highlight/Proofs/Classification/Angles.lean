import Highlight.Proofs.Classification.Failure
import Highlight.Proofs.Classification.ParameterLists
import Highlight.Proofs.Statement.WellFormed

/-! Angle brackets. The `<` and `>` that are brackets come in pairs, and each pair stays inside one
statement. -/
namespace Highlight

/-- Marks between two angle brackets: they are of one statement, and what brackets there are among
them are those of type arguments, in pairs. -/
inductive Enclosed : List Punctuation → Prop
  | nil : Enclosed []
  | mark (front : Enclosed ms) (other : m ∉ Punctuation.angles) (inside : m.endsStatement = false) :
      Enclosed (ms ++ [m])
  | arguments (front : Enclosed ms) (inner : Enclosed ns) :
      Enclosed (ms ++ .typeArgumentsBegin :: ns ++ [.typeArgumentsEnd])

/-- Marks in which the angle brackets are paired, those of type parameters in no other pair. -/
inductive Paired : List Punctuation → Prop
  | nil : Paired []
  | mark (front : Paired ms) (other : m ∉ Punctuation.angles) : Paired (ms ++ [m])
  | arguments (front : Paired ms) (inner : Enclosed ns) :
      Paired (ms ++ .typeArgumentsBegin :: ns ++ [.typeArgumentsEnd])
  | parameters (front : Paired ms) (inner : Enclosed ns) :
      Paired (ms ++ .typeParametersBegin :: ns ++ [.typeParametersEnd])

/-- What a mark, if there is one, does to the angle brackets that are open, innermost first. -/
inductive AngleStep : List Punctuation → Option Punctuation → List Punctuation → Prop
  | silent : AngleStep opens none opens
  | mark (other : m ∉ Punctuation.angles) (inside : opens ≠ [] → m.endsStatement = false) :
      AngleStep opens (some m) opens
  | argumentsBegin : AngleStep opens (some .typeArgumentsBegin) (.typeArgumentsBegin :: opens)
  | argumentsEnd : AngleStep (.typeArgumentsBegin :: opens) (some .typeArgumentsEnd) opens
  | parametersBegin : AngleStep [] (some .typeParametersBegin) [.typeParametersBegin]
  | parametersEnd : AngleStep [.typeParametersBegin] (some .typeParametersEnd) []

/-- The layers of open brackets follow the marks, one at a time. -/
theorem AngleStep.layered (step : AngleStep opens mark? opens')
    (layered : Layered Paired Enclosed opens ms) :
    Layered Paired Enclosed opens' (ms ++ mark?.toList) := by
  cases step with
  | silent =>
    rw [Option.toList_none, List.append_nil]
    exact layered
  | mark other inside =>
    exact layered.append (fun front => front.mark other)
      (fun nonempty _ front => front.mark other (inside nonempty))
  | argumentsBegin | parametersBegin => exact layered.push .nil
  | argumentsEnd =>
    cases layered with
    | layer front inner =>
      rw [List.append_assoc]
      exact front.append
        (fun whole => List.append_assoc .. ▸ .arguments whole inner)
        (fun _ _ behind => List.append_assoc .. ▸ .arguments behind inner)
  | parametersEnd =>
    -- No other bracket is open, so that the pair stands outermost.
    cases layered with
    | layer front inner =>
      cases front with
      | bottom whole => exact .bottom (.parameters whole inner)

namespace Statement

def openAngles : Statement → List Punctuation
  | .typeParameters _ _ angles =>
    List.replicate (angles.length - 1) .typeArgumentsBegin ++ [.typeParametersBegin]
  | .baseList _ _ angles _ | .constraints _ _ angles =>
    List.replicate angles.length .typeArgumentsBegin
  | _ => []

/-- A statement that may end has no angle bracket open. -/
theorem openAngles_of_unclosed? {s : Statement} (wellFormed : s.WellFormed)
    (closed : s.unclosed? = none) : s.openAngles = [] := by
  have angles : s.angles = [] := by
    unfold unclosed? at closed
    split at closed
    · split at closed <;> contradiction
    · contradiction
    · contradiction
    · assumption
  cases s with
  | typeParameters d awaitsName opened => exact absurd angles wellFormed.2.2
  | baseList d colon opened parens | constraints d clause opened =>
    obtain rfl : opened = [] := angles
    rfl
  | _ => rfl

end Statement

theorem KeepsHeader.openAngles (kept : KeepsHeader s target) :
    target.openAngles = s.openAngles := by
  cases kept <;> rfl

theorem OnWord.openAngles (onWord : OnWord around w p s t) :
    t.statement.openAngles = s.openAngles := by
  cases onWord <;> rfl

theorem OnMark.angleStep (onMark : OnMark around p s m t) (wellFormed : s.WellFormed)
    (other : m ∉ Punctuation.angles) (inside : m.endsStatement = false) :
    AngleStep s.openAngles t.role.punctuation? t.statement.openAngles := by
  have kept : AngleStep s.openAngles (some m) s.openAngles := .mark other fun _ => inside
  cases onMark with
  | leaves =>
    rw [Statement.role_leave, (Statement.keepsHeader_leave s _).openAngles]
    exact kept
  | deepens =>
    rw [Statement.role_deepen, Statement.role_leave,
      (Statement.keepsHeader_deepen_leave s _).openAngles]
    exact kept
  | nests => exact (Statement.keepsHeader_deepen s).openAngles ▸ kept
  | lifts => exact (Statement.keepsHeader_lift s).openAngles ▸ kept
  | typeParametersBegin => exact .parametersBegin
  | @parameterArgumentsBegin d awaitsName angles =>
    cases angles with
    | nil => exact absurd rfl wellFormed.2.2
    | cons => exact .argumentsBegin
  | baseArgumentsBegin | constraintArgumentsBegin => exact .argumentsBegin
  | parameterArgumentsEnd | baseArgumentsEnd | constraintArgumentsEnd => exact .argumentsEnd
  | @typeParametersEnd d awaitsName angles flat =>
    have top : (Statement.typeParameters d awaitsName angles).openAngles =
        [.typeParametersBegin] := by
      simp [Statement.openAngles, Nat.sub_eq_zero_of_le flat]
    rw [top]
    exact .parametersEnd
  | _ => exact kept

theorem Statement.Takes.angleStep (taken : Statement.Takes s around x t)
    (wellFormed : s.WellFormed) :
    AngleStep s.openAngles t.role.punctuation? t.statement.openAngles := by
  cases taken with
  | word =>
    have onWord := onWord_word s around x.text x.position
    rw [onWord.punctuation?, onWord.openAngles]
    exact .silent
  | literal =>
    rw [Statement.literal, role_leave, (keepsHeader_leave s _).openAngles]
    exact .silent
  | mark _ found inside =>
    exact (onMark_mark s around _ x.position).angleStep wellFormed
      (Punctuation.not_mem_angles found) inside

namespace State

variable {s next : State} {x : Lexeme} {xs : List Lexeme}

/-- A step adds its mark to the marks of the tokens, and what the mark does to the open angle
brackets the step does to those of the statement. -/
theorem Steps.angleStep (steps : s.Steps x next) (wellFormed : s.statement.WellFormed) :
    ∃ mark?, marks next.tokens.reverse = marks s.tokens.reverse ++ mark?.toList ∧
      AngleStep s.statement.openAngles mark? next.statement.openAngles := by
  have ends : ∀ m : Punctuation, m ∉ Punctuation.angles → s.statement.unclosed? = none →
      AngleStep s.statement.openAngles (some m) Statement.empty.openAngles := by
    intro m other closed
    rw [Statement.openAngles_of_unclosed? wellFormed closed]
    exact .mark other (absurd rfl)
  cases steps with
  | trivia => exact ⟨none, (List.append_nil _).symm, .silent⟩
  | turn taken => exact ⟨_, marks_turn s _ _, taken.angleStep wellFormed⟩
  | opened kind found closed =>
    exact ⟨_, marks_push _ _, ends _ (by decide) closed⟩
  | closed kind found closed =>
    exact ⟨_, marks_push _ _, ends _ (by decide) (Statement.unclosed?_of_openRegion? closed)⟩
  | semicolon kind found closed =>
    exact ⟨some .semicolon, marks_leave s _ .semicolon, ends _ (by decide) closed⟩

/-- In each state the open angle brackets of the statement divide the marks into layers. -/
theorem read_layered (read : State.initial.read xs = .ok s) :
    Layered Paired Enclosed s.statement.openAngles (marks s.tokens.reverse) := by
  have kept : s.statement.WellFormed ∧
      Layered Paired Enclosed s.statement.openAngles (marks s.tokens.reverse) := by
    refine read_keeps (P := fun s => s.statement.WellFormed ∧
      Layered Paired Enclosed s.statement.openAngles (marks s.tokens.reverse)) ?_ read
      ⟨trivial, .bottom .nil⟩
    rintro s x next ⟨wellFormed, layered⟩ steps
    obtain ⟨mark?, new, step⟩ := steps.angleStep wellFormed
    refine ⟨steps.wellFormed wellFormed, ?_⟩
    rw [new]
    exact step.layered layered
  exact kept.2

end State

structure AnglesMatch (ts : List Token) : Prop where
  paired : Paired (marks ts)
  behindName : EachBehind Token.ListsBehindName ts
  once : EachBehind Punctuation.ListsOnce (marks ts)

/-- In each text that classifies, angle brackets come in pairs within a statement, and lists of type
parameters stand behind a name. -/
theorem anglesMatch_of_classify (classified : classify xs = .ok ts) : AnglesMatch ts := by
  obtain ⟨s, read, closed, rfl⟩ := classify_eq_ok.mp classified
  have unclosed := Statement.unclosed?_of_openRegion? (State.open?_eq_none.mp closed).1
  have layered := State.read_layered read
  rw [Statement.openAngles_of_unclosed? (State.read_wellFormed read) unclosed] at layered
  cases layered with
  | bottom whole =>
    exact ⟨whole, State.read_listsBehindName read, (State.read_listsKept read).once⟩

/-- A list of arguments in a list of type parameters. -/
theorem anglesMatch_class :
    ∃ xs ts,
      xs =
        [⟨.word, "class", .start 0⟩, ⟨.word, "C", .start 1⟩, ⟨.punctuation, "<", .start 2⟩,
          ⟨.word, "T", .start 3⟩, ⟨.punctuation, "<", .start 4⟩, ⟨.word, "S", .start 5⟩,
          ⟨.punctuation, ">", .start 6⟩, ⟨.punctuation, ">", .start 7⟩,
          ⟨.punctuation, ";", .start 8⟩] ∧
      marks ts =
        [.typeParametersBegin, .typeArgumentsBegin, .typeArgumentsEnd, .typeParametersEnd,
          .semicolon] ∧
      classify xs = .ok ts ∧ AnglesMatch ts := by
  refine ⟨_, [⟨.keyword (.declares .classDecl), .start 0⟩, ⟨.name .classDecl "C", .start 1⟩,
      ⟨.punctuation .typeParametersBegin, .start 2⟩, ⟨.typeParameter "T", .start 3⟩,
      ⟨.punctuation .typeArgumentsBegin, .start 4⟩, ⟨.type "S", .start 5⟩,
      ⟨.punctuation .typeArgumentsEnd, .start 6⟩, ⟨.punctuation .typeParametersEnd, .start 7⟩,
      ⟨.punctuation .semicolon, .start 8⟩],
    rfl, rfl, ?classified, anglesMatch_of_classify ?classified⟩
  rfl

end Highlight
