import Highlight.Proofs.Statement.Transition

/-! What a statement remembers of the roles it gave: its phase and its declaration tell some that
must stand behind it. -/
namespace Highlight

variable {roles roles' : List Role}

/-- What the statement has behind it, among the roles since its start. -/
def Statement.Remembers (roles : List Role) : Statement → Prop
  | .start _ _ | .plain _ => True
  | .naming d => d.generic = true → .punctuation .typeParametersEnd ∈ roles
  | .header d | .parameters d _ =>
    (∃ kind name, .name kind name ∈ roles) ∧
      (d.generic = true → .punctuation .typeParametersEnd ∈ roles)
  | .typeParameters _ _ _ => ∃ kind name, .name kind name ∈ roles
  | .baseList d _ _ _ =>
    (∃ kind name, [.name kind name, .punctuation .colon].Sublist roles) ∧
      (d.generic = true → .punctuation .typeParametersEnd ∈ roles)
  | .constraints _ _ _ =>
    (∃ kind name, [.name kind name, .keyword .whereClause].Sublist roles) ∧
      [.punctuation .typeParametersEnd, .keyword .whereClause].Sublist roles

theorem Statement.Remembers.mono {s : Statement} (remembers : s.Remembers roles)
    (sublist : roles.Sublist roles') : s.Remembers roles' := by
  cases s with
  | start | plain => trivial
  | naming d => exact fun generic => sublist.mem (remembers generic)
  | header d | parameters d =>
    obtain ⟨⟨kind, name, named⟩, list⟩ := remembers
    exact ⟨⟨kind, name, sublist.mem named⟩, fun generic => sublist.mem (list generic)⟩
  | typeParameters =>
    obtain ⟨kind, name, named⟩ := remembers
    exact ⟨kind, name, sublist.mem named⟩
  | baseList d =>
    obtain ⟨⟨kind, name, bases⟩, list⟩ := remembers
    exact ⟨⟨kind, name, bases.trans sublist⟩, fun generic => sublist.mem (list generic)⟩
  | constraints =>
    obtain ⟨⟨kind, name, clause⟩, list⟩ := remembers
    exact ⟨⟨kind, name, clause.trans sublist⟩, list.trans sublist⟩

theorem pair_sublist_concat {roles : List α} (member : a ∈ roles) :
    [a, b].Sublist (roles ++ [b]) :=
  (List.singleton_sublist.mpr member).append (List.Sublist.refl [b])

theorem KeepsHeader.remembers (kept : KeepsHeader s target) (remembers : s.Remembers roles) :
    target.Remembers roles := by
  cases kept with
  | same => exact remembers
  | _ => trivial

theorem OnWord.remembers (onWord : OnWord around w p s t) (remembers : s.Remembers roles) :
    t.statement.Remembers (roles ++ [t.role]) := by
  have before : roles.Sublist (roles ++ [t.role]) := List.sublist_append_left roles _
  cases onWord with
  | inAttribute | member | modifier | ordinary => trivial
  | declares => nofun
  | named =>
    exact ⟨⟨_, _, List.mem_append_right _ (List.mem_singleton_self _)⟩,
      fun generic => before.mem (remembers generic)⟩
  | headerClause generic text =>
    obtain ⟨⟨kind, name, named⟩, list⟩ := remembers
    rw [text] at before ⊢
    exact ⟨⟨kind, name, pair_sublist_concat named⟩, pair_sublist_concat (list generic)⟩
  | baseClause generic =>
    obtain ⟨⟨kind, name, bases⟩, list⟩ := remembers
    exact ⟨⟨kind, name, pair_sublist_concat (bases.mem List.mem_cons_self)⟩,
      pair_sublist_concat (list generic)⟩
  | _ => exact Statement.Remembers.mono remembers before

theorem OnMark.remembers (onMark : OnMark around p s m t) (remembers : s.Remembers roles) :
    t.statement.Remembers (roles ++ [t.role]) := by
  have before : roles.Sublist (roles ++ [t.role]) := List.sublist_append_left roles _
  have kept : ∀ {target}, KeepsHeader s target → target.Remembers (roles ++ [t.role]) :=
    fun kept => (kept.remembers remembers).mono before
  cases onMark with
  | leaves => exact kept (Statement.keepsHeader_leave s _)
  | deepens => exact kept (Statement.keepsHeader_deepen_leave s _)
  | nests => exact kept (Statement.keepsHeader_deepen s)
  | lifts => exact kept (Statement.keepsHeader_lift s)
  | nextMember => trivial
  | typeParametersBegin =>
    obtain ⟨kind, name, named⟩ := remembers.1
    exact ⟨kind, name, before.mem named⟩
  | typeParametersEnd =>
    obtain ⟨kind, name, named⟩ := remembers
    exact ⟨⟨kind, name, before.mem named⟩,
      fun _ => List.mem_append_right _ (List.mem_singleton_self _)⟩
  | basesBegin =>
    obtain ⟨⟨kind, name, named⟩, list⟩ := remembers
    exact ⟨⟨kind, name, pair_sublist_concat named⟩, fun generic => before.mem (list generic)⟩
  | nextPart => exact fun generic => before.mem (remembers.2 generic)
  | _ => exact Statement.Remembers.mono remembers before

/-- With each turn, a statement keeps track of the roles behind it. -/
theorem Statement.Takes.remembers (taken : Takes s around x t) (remembers : s.Remembers roles) :
    t.statement.Remembers (roles ++ [t.role]) := by
  cases taken with
  | word => exact (onWord_word s around x.text x.position).remembers remembers
  | literal =>
    exact ((keepsHeader_leave s _).remembers remembers).mono (List.sublist_append_left roles _)
  | mark => exact (onMark_mark s around _ x.position).remembers remembers

end Highlight
