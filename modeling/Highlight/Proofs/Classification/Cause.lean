import Highlight.Proofs.Classification.Braces

/-! Where errors come from: each one stands at the lexeme that has opened what is not closed, or at
the lexeme that cannot be read. -/
namespace Highlight

def Region.OpenedBy (x : Lexeme) : Region → Prop
  | .typeParameterList | .typeArgumentList => x.mark? = some .lessThan
  | .parameterList => x.mark? = some .openParen
  | .baseList => x.mark? = some .colon
  | .constraintClause => x.kind = .word ∧ x.text = "where"
  | .declaration => x.kind = .word ∧ ∃ kind : DeclKind, x.text = kind.spelling
  | .scope _ => x.mark? = some .openBrace

theorem KeepsHeader.anchors (kept : KeepsHeader s target) : target.anchors ⊆ s.anchors := by
  cases kept with
  | same => exact List.Subset.refl _
  | _ => exact List.nil_subset _

/-- A place that a word adds to the statement is the one of the word itself. -/
theorem OnWord.anchors (onWord : OnWord around x.text x.position s t) (kind : x.kind = .word)
    (member : a ∈ t.statement.anchors) :
    a ∈ s.anchors ∨ x.position = a.2 ∧ a.1.OpenedBy x := by
  cases onWord with
  | declares outside found =>
    obtain rfl := List.mem_singleton.mp member
    exact .inr ⟨rfl, kind, _, (Keyword.spelling_of_ofWord? found).symm⟩
  | headerClause generic text =>
    rcases List.mem_cons.mp member with rfl | member
    · exact .inl List.mem_cons_self
    · obtain rfl := List.mem_singleton.mp member
      exact .inr ⟨rfl, kind, text⟩
  | baseClause generic text =>
    rcases List.mem_cons.mp member with rfl | member
    · exact .inl List.mem_cons_self
    · rcases List.mem_cons.mp member with rfl | member
      · exact .inr ⟨rfl, kind, text⟩
      · refine .inl (List.mem_cons_of_mem _ (List.mem_cons_of_mem _ ?_))
        exact List.mem_append_left _ member
  | nextClause found =>
    rcases List.mem_cons.mp member with rfl | member
    · exact .inl List.mem_cons_self
    · obtain rfl := List.mem_singleton.mp member
      exact .inr ⟨rfl, kind, (Keyword.spelling_of_ofConstraintWord? found).symm⟩
  | _ => exact .inl member

/-- A place that a mark adds to the statement is the one of the mark itself. -/
theorem OnMark.anchors (onMark : OnMark around x.position s m t) (found : x.mark? = some m)
    (member : a ∈ t.statement.anchors) :
    a ∈ s.anchors ∨ x.position = a.2 ∧ a.1.OpenedBy x := by
  have opens : ∀ region : Region, region.OpenedBy x → a ∈ (region, x.position) :: s.anchors →
      a ∈ s.anchors ∨ x.position = a.2 ∧ a.1.OpenedBy x := by
    rintro region opened member
    rcases List.mem_cons.mp member with rfl | member
    · exact .inr ⟨rfl, opened⟩
    · exact .inl member
  cases onMark with
  | passes | nextTypeParameter | nextPart => exact .inl member
  | leaves => exact .inl ((Statement.keepsHeader_leave s _).anchors member)
  | deepens => exact .inl ((Statement.keepsHeader_deepen_leave s _).anchors member)
  | nests => exact .inl ((Statement.keepsHeader_deepen s).anchors member)
  | lifts => exact .inl ((Statement.keepsHeader_lift s).anchors member)
  | nextMember => exact absurd member List.not_mem_nil
  | typeParametersBegin | parameterArgumentsBegin | baseArgumentsBegin
  | constraintArgumentsBegin =>
    refine opens .typeArgumentList found ?_
    simp only [Statement.stay, Statement.enter, Statement.anchors, List.map_cons, List.map_nil,
      List.cons_append, List.mem_cons] at member ⊢
    tauto
  | parametersBegin | parameterParenBegin =>
    refine opens .parameterList found ?_
    simp only [Statement.stay, Statement.enter, Statement.anchors, List.map_cons, List.map_nil,
      List.mem_cons] at member ⊢
    tauto
  | baseParenBegin =>
    refine opens .parameterList found ?_
    simp only [Statement.stay, Statement.anchors, List.map_cons, List.mem_cons,
      List.mem_append] at member ⊢
    tauto
  | basesBegin =>
    refine opens .baseList found ?_
    simp only [Statement.enter, Statement.anchors, List.map_nil, List.append_nil,
      List.mem_cons] at member ⊢
    tauto
  | parameterArgumentsEnd | baseArgumentsEnd | constraintArgumentsEnd | typeParametersEnd
  | parameterParenEnd | parametersEnd =>
    refine .inl ?_
    simp only [Statement.stay, Statement.enter, Statement.anchors, List.map_cons,
      List.cons_append, List.mem_cons, List.not_mem_nil] at member ⊢
    tauto
  | @baseParenEnd d colon angles parens =>
    refine .inl ?_
    cases parens with
    | nil => exact member
    | cons paren parens =>
      simp only [Statement.stay, Statement.anchors, List.map_cons, List.tail_cons, List.mem_cons,
        List.mem_append] at member ⊢
      tauto

/-- A place that a turn leaves in the statement was there before, or is that of the lexeme. -/
theorem Statement.Takes.anchors (taken : Statement.Takes s around x t)
    (member : a ∈ t.statement.anchors) :
    a ∈ s.anchors ∨ x.position = a.2 ∧ a.1.OpenedBy x := by
  cases taken with
  | word kind => exact (onWord_word s around x.text x.position).anchors kind member
  | literal => exact .inl ((keepsHeader_leave s _).anchors member)
  | mark kind found =>
    have found := Lexeme.mark?_eq_some.mpr ⟨kind, found⟩
    exact (onMark_mark s around _ x.position).anchors found member

/-- The lexemes `since` belong to the statement, and all the places that it keeps are theirs. -/
structure Statement.Anchored (since : List Lexeme) (s : Statement) : Prop where
  inside : ∀ y ∈ since, y.endsStatement = false
  anchors : ∀ a ∈ s.anchors, ∃ f ∈ since, f.position = a.2 ∧ a.1.OpenedBy f

theorem Statement.anchored_empty : Statement.empty.Anchored [] :=
  ⟨nofun, nofun⟩

theorem Statement.Anchored.concat {s target : Statement} (anchored : s.Anchored since)
    (inside : x.endsStatement = false)
    (anchors : ∀ a ∈ target.anchors, a ∈ s.anchors ∨ x.position = a.2 ∧ a.1.OpenedBy x) :
    target.Anchored (since ++ [x]) := by
  constructor
  · intro y member
    rcases List.mem_append.mp member with member | last
    · exact anchored.inside y member
    · obtain rfl := List.mem_singleton.mp last
      exact inside
  · intro a member
    rcases anchors a member with old | ⟨here, opens⟩
    · obtain ⟨f, read, there, opens⟩ := anchored.anchors a old
      exact ⟨f, List.mem_append_left _ read, there, opens⟩
    · exact ⟨x, List.mem_append_right _ (List.mem_singleton_self x), here, opens⟩

namespace State

/-- The last of the lexemes `xs` are those of the statement. -/
def ReadSince (xs : List Lexeme) (s : State) : Prop :=
  ∃ earlier since, xs = earlier ++ since ∧ s.statement.Anchored since

/-- The lexemes of the statement stay the last ones that have been read. -/
theorem Steps.readSince (readSince : ReadSince xs s) (steps : s.Steps x next) :
    ReadSince (xs ++ [x]) next := by
  obtain ⟨earlier, since, rfl, anchored⟩ := readSince
  cases steps with
  | trivia trivia =>
    have inside : x.endsStatement = false := by
      rw [Lexeme.endsStatement, Lexeme.mark?_of_isTrivia trivia]
      rfl
    exact ⟨earlier, since ++ [x], List.append_assoc .., anchored.concat inside fun _ => .inl⟩
  | turn taken =>
    exact ⟨earlier, since ++ [x], List.append_assoc ..,
      anchored.concat taken.endsStatement fun _ => taken.anchors⟩
  | opened | closed | semicolon =>
    exact ⟨_, [], (List.append_nil _).symm, Statement.anchored_empty⟩

theorem read_readSince (read : State.initial.read xs = .ok s) : ReadSince xs s :=
  read_initial (fun readSince steps => steps.readSince readSince) read
    ⟨[], [], rfl, Statement.anchored_empty⟩

end State

/-- Why the classification of a text fails behind `front`, in front of `rest`. -/
inductive Cause (front : List Lexeme) : List Lexeme → ClassifyError → Prop
  | region (split : front = earlier ++ f :: between) (opens : region.OpenedBy f)
      (statement : ∀ y ∈ between, y.endsStatement = false)
      (header : ∀ kind, region ≠ .scope kind) :
      Cause front rest ⟨.unterminated region, f.position⟩
  | scope (innermost : unmatched Lexeme.brace? front = f :: outer) :
      Cause front [] ⟨.unterminated (.scope kind), f.position⟩
  | unbalanced (mark : x.mark? = some .closeBrace) :
      Cause front (x :: back) ⟨.unbalancedBrace, x.position⟩
  | unrecognized (kind : x.kind = .punctuation) (unknown : Punctuation.ofMark? x.text = none) :
      Cause front (x :: back) ⟨.unrecognized x.text, x.position⟩

theorem cause_of_openRegion? (read : State.initial.read front = .ok s)
    (opened : s.statement.openRegion? = some e) : Cause front rest e := by
  obtain ⟨earlier, since, rfl, anchored⟩ := State.read_readSince read
  obtain ⟨a, member, error⟩ := Statement.exists_anchor opened
  obtain ⟨f, inside, here, opens⟩ := anchored.anchors a member
  obtain ⟨before, between, rfl⟩ := List.append_of_mem inside
  have statement : ∀ y ∈ between, y.endsStatement = false := fun y behind =>
    anchored.inside y (List.mem_append_right _ (List.mem_cons_of_mem _ behind))
  have header : ∀ kind, a.1 ≠ .scope kind := by
    intro kind scope
    -- The brace of a scope ends the statement, and `f` stands inside of it.
    rw [scope] at opens
    have ends : f.endsStatement = true := by
      rw [Lexeme.endsStatement, opens]
      rfl
    exact absurd (anchored.inside f (List.mem_append_right _ List.mem_cons_self)) (by simp [ends])
  have split : earlier ++ (before ++ f :: between) = (earlier ++ before) ++ f :: between :=
    (List.append_assoc ..).symm
  rcases error with rfl | ⟨angle, rfl⟩
  · rw [← here]
    exact .region split opens statement header
  · rw [← here]
    rw [angle] at opens
    refine .region split opens statement ?_
    intro kind scope
    contradiction

/-- Each failure has a cause among the lexemes. -/
theorem cause_of_failsBehind (fails : FailsBehind front rest e) : Cause front rest e := by
  cases fails with
  | lexeme s read stuck =>
    cases State.step_eq_error.mp stuck with
    | unrecognized kind unknown => exact .unrecognized kind unknown
    | unclosed _ _ opened =>
      exact cause_of_openRegion? read (Statement.openRegion?_of_unclosed? opened)
    | openRegion _ opened => exact cause_of_openRegion? read opened
    | unbalanced mark => exact .unbalanced mark
  | finish s read opened =>
    unfold State.open? at opened
    cases region : s.statement.openRegion? with
    | some f =>
      rw [region] at opened
      obtain rfl := Option.some.inj opened
      exact cause_of_openRegion? read region
    | none =>
      rw [region] at opened
      obtain ⟨scope, top, rfl⟩ := Option.map_eq_some_iff.mp opened
      obtain ⟨f, outer, innermost, here⟩ := (State.read_scopesKept read).innermost top
      rw [← here]
      exact .scope innermost

/-- Errors stand at lexemes of the text. -/
theorem Cause.exists_mem (cause : Cause front rest e) :
    ∃ f ∈ front ++ rest, f.position = e.position := by
  cases cause with
  | @region earlier f between _ _ split =>
    rw [split]
    exact ⟨f, by simp, rfl⟩
  | scope innermost =>
    have inside := (mem_unmatched (innermost ▸ List.mem_cons_self)).1
    exact ⟨_, List.mem_append_left _ inside, rfl⟩
  | unbalanced | unrecognized => exact ⟨_, List.mem_append_right _ List.mem_cons_self, rfl⟩

/-- Every error has a cause, and stands at a lexeme of the text. -/
theorem exists_cause (failed : classify xs = .error e) :
    ∃ front rest, xs = front ++ rest ∧ FailsBehind front rest e ∧ Cause front rest e ∧
      ∃ f ∈ xs, f.position = e.position := by
  obtain ⟨front, rest, rfl, fails⟩ := classify_eq_error.mp failed
  have cause := cause_of_failsBehind fails
  exact ⟨front, rest, rfl, fails, cause, cause.exists_mem⟩

/-- The type arguments of the second base type are open at the brace. -/
theorem exists_cause_typeArguments :
    ∃ xs e,
      xs =
        [⟨.word, "class", ⟨1, 1, 0⟩⟩, ⟨.word, "C", ⟨1, 7, 6⟩⟩, ⟨.punctuation, ":", ⟨1, 8, 7⟩⟩,
          ⟨.word, "A", ⟨1, 9, 8⟩⟩, ⟨.punctuation, ",", ⟨1, 10, 9⟩⟩, ⟨.word, "B", ⟨1, 11, 10⟩⟩,
          ⟨.punctuation, "<", ⟨1, 12, 11⟩⟩, ⟨.punctuation, "\x7b", ⟨1, 13, 12⟩⟩] ∧
      classify xs = .error e ∧ e = ⟨.unterminated .typeArgumentList, ⟨1, 12, 11⟩⟩ ∧
      ∃ front rest, xs = front ++ rest ∧ FailsBehind front rest e ∧ Cause front rest e ∧
        ∃ f ∈ xs, f.position = e.position :=
  ⟨_, _, rfl, rfl, rfl, exists_cause rfl⟩

end Highlight
