import Highlight.Proofs.Classification.Failure
import Highlight.Proofs.Classification.Retraction

/-! Lists of type parameters: at most one in each statement, and right behind a name. -/
namespace Highlight

/-- A list of type parameters begins, and the statement has not ended since. -/
def Listed (ms : List Punctuation) : Prop :=
  ∃ front back, ms = front ++ .typeParametersBegin :: back ∧ ∀ m ∈ back, m.endsStatement = false

def Punctuation.ListsOnce (front : List Punctuation) (m : Punctuation) : Prop :=
  m = .typeParametersBegin → ¬Listed front

/-- If a list of type parameters begins with the token, it stands right behind a name. -/
def Token.ListsBehindName (front : List Token) (t : Token) : Prop :=
  t.role = .punctuation .typeParametersBegin →
    ∃ earlier kind text p, front = earlier ++ [⟨.name kind text, p⟩]

/-- A list has begun in the statement if it begins now, or has begun and the statement goes on. -/
theorem listed_concat {m : Punctuation} :
    Listed (ms ++ [m]) ↔ m = .typeParametersBegin ∨ Listed ms ∧ m.endsStatement = false := by
  constructor
  · rintro ⟨front, back, split, inside⟩
    rcases List.eq_nil_or_concat back with rfl | ⟨back, n, rfl⟩
    · exact .inl (List.singleton_injective (List.append_inj' split rfl).2)
    · rw [List.concat_eq_append] at split inside
      rw [← List.cons_append, ← List.append_assoc] at split
      obtain ⟨rfl, same⟩ := List.append_inj' split rfl
      obtain rfl := List.singleton_injective same
      refine .inr ⟨⟨front, back, rfl, fun k member => ?_⟩, ?_⟩
      · exact inside k (List.mem_append_left _ member)
      · exact inside m (List.mem_append_right _ (List.mem_singleton_self m))
  · rintro (rfl | ⟨⟨front, back, rfl, inside⟩, last⟩)
    · exact ⟨ms, [], rfl, nofun⟩
    · refine ⟨front, back ++ [m], List.append_assoc .., fun k member => ?_⟩
      rcases List.mem_append.mp member with member | here
      · exact inside k member
      · exact List.mem_singleton.mp here ▸ last

theorem not_listed_nil : ¬Listed [] := by
  rintro ⟨front, back, split, _⟩
  exact absurd split.symm (List.append_ne_nil_of_right_ne_nil _ (List.cons_ne_nil _ _))

/-- A role of an angle bracket is given to a mark that is spelled otherwise. -/
theorem Statement.Takes.exists_onMark {b : Punctuation} (taken : Statement.Takes s around x t)
    (bracket : t.role = .punctuation b) (angle : b ∈ Punctuation.angles) :
    ∃ m, Role.punctuation m ≠ .punctuation b ∧ OnMark around x.position s m t := by
  cases taken with
  | word =>
    have silent := (onWord_word s around x.text x.position).punctuation?
    rw [bracket] at silent
    contradiction
  | literal =>
    rw [Statement.literal, role_leave] at bracket
    contradiction
  | @mark m _ found =>
    refine ⟨m, ?_, onMark_mark s around m x.position⟩
    rintro ⟨⟩
    exact Punctuation.not_mem_angles found angle

/-- The one way in which a list of type parameters begins. -/
theorem Statement.Takes.typeParametersBegin (taken : Statement.Takes s around x t)
    (begins : t.role = .punctuation .typeParametersBegin) :
    ∃ d kind text, s = .header d ∧ d.generic = false ∧ around.last? = some (.name kind text) ∧
      t = (Statement.typeParameters d true [x.position]).enter
        (.punctuation .typeParametersBegin) := by
  obtain ⟨m, other, onMark⟩ := taken.exists_onMark begins (by decide)
  cases onMark with
  | typeParametersBegin first behind => exact ⟨_, _, _, rfl, first, behind, rfl⟩
  | leaves | deepens => exact absurd ((role_leave s _).symm.trans begins) other
  | passes | lifts => exact absurd begins other
  | _ => cases begins

namespace Statement

/-- Type parameters have been listed in the statement, or cannot be listed any more. -/
def PastList : Statement → Prop
  | .start _ _ => False
  | .typeParameters _ _ _ | .plain _ => True
  | .naming d | .header d | .parameters d _ | .baseList d _ _ _ | .constraints d _ _ =>
    d.generic = true

end Statement

theorem KeepsHeader.pastList (kept : KeepsHeader s target) (past : s.PastList) :
    target.PastList := by
  cases kept with
  | same => exact past
  | start => exact past
  | _ => trivial

theorem KeepsHeader.declares (kept : KeepsHeader s target)
    (declares : target.declaration?.isSome = true) : s.declaration?.isSome = true := by
  cases kept with
  | same => exact declares
  | _ => contradiction

theorem OnWord.pastList (onWord : OnWord around w p s t) (past : s.PastList) :
    t.statement.PastList := by
  cases onWord with
  | inAttribute | member | modifier | declares | ordinary => exact past.elim
  | _ => exact past

/-- Once a statement is past its list, marks keep it so. -/
theorem OnMark.pastList (onMark : OnMark around p s m t)
    (same : m = .comma → s = .plain 0 → around.inEnumBody = false) (past : s.PastList) :
    t.statement.PastList := by
  cases onMark with
  | leaves => exact (Statement.keepsHeader_leave s _).pastList past
  | deepens => exact (Statement.keepsHeader_deepen_leave s _).pastList past
  | nests => exact (Statement.keepsHeader_deepen s).pastList past
  | lifts => exact (Statement.keepsHeader_lift s).pastList past
  | typeParametersBegin => trivial
  | typeParametersEnd => rfl
  | nextMember body =>
    rw [same rfl rfl] at body
    contradiction
  | _ => exact past

theorem OnWord.outside (onWord : OnWord around w p s t)
    (outside : s.declaration?.isSome = true → around.inEnumBody = false) :
    t.statement.declaration?.isSome = true → around.inEnumBody = false := by
  cases onWord with
  | declares found => exact fun _ => found
  | member | ordinary => nofun
  | _ => exact outside

theorem OnMark.outside (onMark : OnMark around p s m t)
    (outside : s.declaration?.isSome = true → around.inEnumBody = false) :
    t.statement.declaration?.isSome = true → around.inEnumBody = false := by
  cases onMark with
  | leaves => exact fun declares => outside ((Statement.keepsHeader_leave s _).declares declares)
  | deepens =>
    exact fun declares => outside ((Statement.keepsHeader_deepen_leave s _).declares declares)
  | nests => exact fun declares => outside ((Statement.keepsHeader_deepen s).declares declares)
  | lifts => exact fun declares => outside ((Statement.keepsHeader_lift s).declares declares)
  | nextMember => nofun
  | _ => exact outside

namespace Statement.Takes

theorem pastList (taken : Takes s around x t)
    (same : x.mark? = some .comma → s = .plain 0 → around.inEnumBody = false)
    (past : s.PastList) : t.statement.PastList := by
  cases taken with
  | word => exact (onWord_word s around x.text x.position).pastList past
  | literal => exact (keepsHeader_leave s _).pastList past
  | mark kind found =>
    refine (onMark_mark s around _ x.position).pastList (fun comma => same ?_) past
    exact comma ▸ Lexeme.mark?_eq_some.mpr ⟨kind, found⟩

/-- In the body of an enumeration nothing is declared. -/
theorem outside (taken : Takes s around x t)
    (outside : s.declaration?.isSome = true → around.inEnumBody = false) :
    t.statement.declaration?.isSome = true → around.inEnumBody = false := by
  cases taken with
  | word => exact (onWord_word s around x.text x.position).outside outside
  | literal => exact fun declares => outside ((keepsHeader_leave s _).declares declares)
  | mark => exact (onMark_mark s around _ x.position).outside outside

end Statement.Takes

namespace State

variable {s next : State} {x : Lexeme} {xs : List Lexeme}

/-- Type parameters are listed at most once in each statement so far, and in the last one not again
once it is past that. -/
structure ListsKept (s : State) : Prop where
  outside : s.statement.declaration?.isSome = true → s.nesting.inEnumBody = false
  past : Listed (marks s.tokens.reverse) →
    s.nesting.inEnumBody = false ∧ s.statement.PastList
  once : EachBehind Punctuation.ListsOnce (marks s.tokens.reverse)

theorem ListsKept.ends {m : Punctuation} (kept : ListsKept s) (ends : m.endsStatement = true)
    (new : marks next.tokens.reverse = marks s.tokens.reverse ++ [m])
    (empty : next.statement = .empty) : ListsKept next := by
  have other : m ≠ .typeParametersBegin := by
    rintro rfl
    contradiction
  constructor
  · rw [empty]
    nofun
  · intro listed
    rw [new, listed_concat, ends] at listed
    rcases listed with begins | ⟨_, inside⟩
    · exact absurd begins other
    · contradiction
  · rw [new]
    exact kept.once.concat fun begins => absurd begins other

/-- Turns keep to one list of type parameters in each statement. -/
theorem ListsKept.turn {t : Turn} (kept : ListsKept s)
    (taken : s.statement.Takes s.surroundings x t) : ListsKept (s.turn x.position t) := by
  by_cases begins : t.role = .punctuation .typeParametersBegin
  · obtain ⟨d, kind, text, header, first, _, rfl⟩ := taken.typeParametersBegin begins
    have outside : s.nesting.inEnumBody = false := kept.outside (by rw [header]; rfl)
    refine ⟨fun _ => outside, fun _ => ⟨outside, trivial⟩, ?_⟩
    rw [marks_turn]
    refine kept.once.concat fun _ listed => ?_
    -- Behind an earlier list the header would be generic.
    have past := (kept.past listed).2
    rw [header] at past
    exact absurd (first.symm.trans past) Bool.false_ne_true
  · have same : (Listed (marks (s.turn x.position t).tokens.reverse) →
          Listed (marks s.tokens.reverse)) ∧
        EachBehind Punctuation.ListsOnce (marks (s.turn x.position t).tokens.reverse) := by
      rw [marks_turn]
      cases mark : t.role.punctuation? with
      | none =>
        rw [Option.toList_none, List.append_nil]
        exact ⟨id, kept.once⟩
      | some m =>
        have other : m ≠ .typeParametersBegin := by
          rintro rfl
          exact begins (Role.punctuation?_eq_some.mp mark)
        refine ⟨fun listed => ?_, kept.once.concat fun again => absurd again other⟩
        exact ((listed_concat.mp listed).resolve_left other).1
    refine ⟨taken.outside kept.outside, fun listed => ?_, same.2⟩
    obtain ⟨outside, past⟩ := kept.past (same.1 listed)
    exact ⟨outside, taken.pastList (fun _ _ => outside) past⟩

theorem Steps.listsKept (kept : ListsKept s) (steps : s.Steps x next) : ListsKept next := by
  cases steps with
  | trivia => exact kept
  | turn taken => exact kept.turn taken
  | opened | closed => exact kept.ends rfl (marks_push _ _) rfl
  | semicolon => exact kept.ends rfl (marks_leave s _ .semicolon) rfl

theorem read_listsKept (read : State.initial.read xs = .ok s) : ListsKept s :=
  read_keeps (fun kept steps => steps.listsKept kept) read ⟨nofun, (absurd · not_listed_nil), .nil⟩

/-- With each step, lists of type parameters go on to stand behind names. -/
theorem Steps.listsBehindName (kept : EachBehind Token.ListsBehindName s.tokens.reverse)
    (steps : s.Steps x next) : EachBehind Token.ListsBehindName next.tokens.reverse := by
  have retract : ∀ {front u}, Token.ListsBehindName front u →
      Token.ListsBehindName front u.retract := by
    intro front u behind begins
    refine behind ?_
    unfold Token.retract at begins
    split at begins
    · contradiction
    · exact begins
  cases steps with
  | trivia => exact kept
  | turn taken =>
    refine eachBehind_turn retract kept fun begins => ?_
    obtain ⟨_, kind, text, _, _, last, rfl⟩ := taken.typeParametersBegin begins
    obtain ⟨⟨_, p⟩, head, rfl⟩ := Option.map_eq_some_iff.mp last
    obtain ⟨earlier, tokens⟩ := List.head?_eq_some_iff.mp head
    refine ⟨earlier.reverse, kind, text, p, ?_⟩
    exact (congrArg List.reverse tokens).trans List.reverse_cons
  | opened | closed =>
    rw [List.reverse_cons]
    exact kept.concat nofun
  | semicolon =>
    refine eachBehind_turn retract kept fun begins => ?_
    rw [Statement.role_leave] at begins
    cases begins

theorem read_listsBehindName (read : State.initial.read xs = .ok s) :
    EachBehind Token.ListsBehindName s.tokens.reverse :=
  read_keeps (P := fun s => EachBehind Token.ListsBehindName s.tokens.reverse)
    (fun kept steps => steps.listsBehindName kept) read .nil

end State

end Highlight
