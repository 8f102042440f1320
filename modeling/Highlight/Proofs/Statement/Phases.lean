import Highlight.Proofs.Statement.Transition

/-! The phases that a statement goes through, one lexeme at a time. -/
namespace Highlight

/-- The phases that may follow each other in a statement, with the kind of the declaration that it
is in the first one. -/
inductive PhaseStep (kind? : Option DeclKind) : Phase → Phase → Prop
  | declares : PhaseStep kind? .start .name
  | startLeft : PhaseStep kind? .start .other
  | named : PhaseStep kind? .name .header
  | nameLeft : PhaseStep kind? .name .other
  | nextPart (qualified : kind? = some .namespaceDecl) : PhaseStep kind? .header .name
  | listBegin : PhaseStep kind? .header (.typeParameters true)
  | parametersBegin : PhaseStep kind? .header .parameters
  | basesBegin : PhaseStep kind? .header .baseList
  | headerClause : PhaseStep kind? .header .constraints
  | typeParameter : PhaseStep kind? (.typeParameters true) (.typeParameters false)
  | nextTypeParameter : PhaseStep kind? (.typeParameters awaitsName) (.typeParameters true)
  | listEnd : PhaseStep kind? (.typeParameters awaitsName) .header
  | parametersEnd : PhaseStep kind? .parameters .header
  | baseClause : PhaseStep kind? .baseList .constraints

namespace Statement

def kind? (s : Statement) : Option DeclKind :=
  s.declaration?.map Declaration.kind

inductive PhaseTurn (s : Statement) (t : Turn) : Prop
  | stays (enters : t.enters = false) (phase : t.statement.phase = s.phase)
  | enters (enters : t.enters = true) (step : PhaseStep s.kind? s.phase t.statement.phase)

@[simp] theorem phase_deepen (s : Statement) : s.deepen.phase = s.phase := by
  cases s <;> rfl

@[simp] theorem phase_lift (s : Statement) : s.lift.phase = s.phase := by
  cases s <;> rfl

theorem phaseTurn_leave (s : Statement) (role : Role) : s.PhaseTurn (s.leave role) := by
  unfold leave
  split
  · exact .enters rfl .startLeft
  · exact .enters rfl .nameLeft
  · exact .stays rfl rfl

theorem phase_of_leave {s : Statement} (enters : (s.leave role).enters = true) :
    (s.leave role).statement.phase = .other := by
  unfold leave at *
  split at * <;> first | rfl | contradiction

theorem PhaseTurn.deepen (turn : PhaseTurn s t) : PhaseTurn s t.deepen := by
  cases turn with
  | stays enters phase => exact .stays enters ((phase_deepen _).trans phase)
  | enters enters step => exact .enters enters (by rwa [Turn.deepen, phase_deepen])

end Statement

theorem OnWord.phaseTurn (onWord : OnWord around w p s t) : s.PhaseTurn t := by
  cases onWord with
  | member | ordinary => exact .enters rfl .startLeft
  | declares => exact .enters rfl .declares
  | named => exact .enters rfl .named
  | headerClause => exact .enters rfl .headerClause
  | typeParameter => exact .enters rfl .typeParameter
  | baseClause => exact .enters rfl .baseClause
  | _ => exact .stays rfl rfl

/-- A comma in the body of an enumeration starts a new statement. -/
theorem OnMark.phaseTurn (onMark : OnMark around p s m t)
    (same : m = .comma → s = .plain 0 → around.inEnumBody = false) : s.PhaseTurn t := by
  cases onMark with
  | leaves => exact s.phaseTurn_leave _
  | deepens => exact (s.phaseTurn_leave _).deepen
  | nests => exact .stays rfl s.phase_deepen
  | lifts => exact .stays rfl s.phase_lift
  | nextMember body =>
    rw [same rfl rfl] at body
    contradiction
  | typeParametersBegin => exact .enters rfl .listBegin
  | typeParametersEnd => exact .enters rfl .listEnd
  | parametersBegin => exact .enters rfl .parametersBegin
  | parametersEnd => exact .enters rfl .parametersEnd
  | nextTypeParameter => exact .enters rfl .nextTypeParameter
  | basesBegin => exact .enters rfl .basesBegin
  | nextPart qualified => exact .enters rfl (.nextPart (congrArg some qualified))
  | _ => exact .stays rfl rfl

end Highlight
