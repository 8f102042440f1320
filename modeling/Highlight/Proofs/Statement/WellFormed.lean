import Highlight.Proofs.Statement.Transition

/-! What is true of a statement in each phase, whatever has been read. -/
namespace Highlight
namespace Statement

/-- From the header on a declaration has a name. Behind the one list of type parameters that it may
have it is generic, and only then it has constraints. Lists that end with their last bracket have an
open one. -/
def WellFormed : Statement → Prop
  | .start _ _ | .naming _ | .plain _ => True
  | .header d | .baseList d _ _ _ => d.parts ≠ []
  | .typeParameters d _ angles => d.parts ≠ [] ∧ d.generic = false ∧ angles ≠ []
  | .parameters d parens => d.parts ≠ [] ∧ parens ≠ []
  | .constraints d _ _ => d.parts ≠ [] ∧ d.generic = true

end Statement

theorem KeepsHeader.wellFormed (kept : KeepsHeader s target) (wellFormed : s.WellFormed) :
    target.WellFormed := by
  cases kept with
  | same => exact wellFormed
  | _ => trivial

theorem OnWord.wellFormed (onWord : OnWord around w p s t) (wellFormed : s.WellFormed) :
    t.statement.WellFormed := by
  cases onWord with
  | member | modifier | declares | ordinary | redeclares => trivial
  | named => exact List.append_ne_nil_of_right_ne_nil _ (List.cons_ne_nil w [])
  | headerClause generic | baseClause generic => exact ⟨wellFormed, generic⟩
  | _ => exact wellFormed

/-- Marks keep statements well-formed. -/
theorem OnMark.wellFormed (onMark : OnMark around p s m t) (wellFormed : s.WellFormed) :
    t.statement.WellFormed := by
  cases onMark with
  | leaves => exact (Statement.keepsHeader_leave s _).wellFormed wellFormed
  | deepens => exact (Statement.keepsHeader_deepen_leave s _).wellFormed wellFormed
  | nests => exact (Statement.keepsHeader_deepen s).wellFormed wellFormed
  | lifts => exact (Statement.keepsHeader_lift s).wellFormed wellFormed
  | nextMember | nextPart => trivial
  | typeParametersBegin first => exact ⟨wellFormed, first, List.cons_ne_nil _ _⟩
  | parameterArgumentsBegin | parameterArgumentsEnd =>
    exact ⟨wellFormed.1, wellFormed.2.1, List.cons_ne_nil _ _⟩
  | typeParametersEnd | parametersEnd => exact wellFormed.1
  | parametersBegin => exact ⟨wellFormed, List.cons_ne_nil _ _⟩
  | parameterParenBegin | parameterParenEnd => exact ⟨wellFormed.1, List.cons_ne_nil _ _⟩
  | _ => exact wellFormed

theorem Statement.Takes.wellFormed (taken : Statement.Takes s around x t)
    (wellFormed : s.WellFormed) : t.statement.WellFormed := by
  cases taken with
  | word => exact (onWord_word s around x.text x.position).wellFormed wellFormed
  | literal => exact (keepsHeader_leave s _).wellFormed wellFormed
  | mark => exact (onMark_mark s around _ x.position).wellFormed wellFormed

theorem State.Steps.wellFormed (steps : State.Steps s x next)
    (wellFormed : s.statement.WellFormed) : next.statement.WellFormed := by
  cases steps with
  | trivia => exact wellFormed
  | turn taken => exact taken.wellFormed wellFormed
  | opened | closed | semicolon => trivial

theorem State.read_wellFormed (read : State.initial.read xs = .ok s) : s.statement.WellFormed :=
  read_keeps (P := fun s => s.statement.WellFormed)
    (fun wellFormed steps => steps.wellFormed wellFormed) read trivial

end Highlight
