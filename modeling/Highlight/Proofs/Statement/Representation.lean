import Highlight.Proofs.Statement.Fields

/-! Statements as records of fields. A record takes the turns of the statement that it stands for,
and in every phase its fields are consistent. -/
namespace Highlight

/-- The fields of a declaration outside of brackets and lists. -/
def Declaration.fields (d : Declaration) (phase : Phase) : Fields :=
  { phase, modifiers := d.modifiers, keyword? := some (d.kind, d.keyword), name? := d.name?
    generic := d.generic }

/-- The record stands for the statement. What has been read of a declaration that was given up
stays in the record, and only its keyword does not. -/
def Represents (f : Fields) : Statement → Prop
  | .start modifiers depth => f = { modifiers, depth }
  | .naming d => f = d.fields .name
  | .header d => f = d.fields .header
  | .typeParameters d awaitsName angles =>
    f = { d.fields (.typeParameters awaitsName) with angles }
  | .parameters d parens => f = { d.fields .parameters with parens }
  | .baseList d colon angles parens =>
    f = { d.fields .baseList with angles, parens, regionStart := colon }
  | .constraints d clause angles =>
    f = { d.fields .constraints with angles, regionStart := clause }
  | .plain depth =>
    f.phase = .other ∧ f.keyword? = none ∧ f.angles = [] ∧ f.parens = [] ∧ f.depth = depth

/-- The turns do the same to a record and to the statement that it stands for. -/
structure TurnRepresents (t : FieldsTurn) (u : Turn) : Prop where
  role : t.role = u.role
  fields : Represents t.fields u.statement
  enters : t.enters = u.enters
  retracts : t.retracts = u.retracts

variable {f : Fields} {s : Statement} {role : Role} {around : Surroundings} {w : String}
  {p : Position} {d : Declaration} {modifiers : List Modifier} {depth : Nat}

theorem Declaration.name?_isNone (d : Declaration) : d.name?.isNone = d.parts.isEmpty := by
  unfold name?
  split <;> simp_all

/-- A further part is joined to the name by a point. -/
theorem Declaration.name?_concat (d : Declaration) (phase : Phase) (w : String) :
    { d with parts := d.parts ++ [w] }.name? = some ((d.fields phase).longerName w) := by
  have some : { d with parts := d.parts ++ [w] }.name? =
      some (".".intercalate (d.parts ++ [w])) := by
    simp [name?]
  rw [some]
  unfold Fields.longerName fields name?
  dsimp only
  by_cases unnamed : d.parts = []
  · simp [unnamed]
  · rw [if_neg (by simpa using unnamed),
      String.intercalate_append_of_ne_nil unnamed (List.cons_ne_nil w []),
      String.intercalate_singleton]

namespace TurnRepresents

theorem stay (represents : Represents f s) : TurnRepresents (f.stay role) (s.stay role) :=
  ⟨rfl, represents, rfl, rfl⟩

theorem enter (represents : Represents { f with phase := phase } s) :
    TurnRepresents (f.enter phase role) (Statement.enter s role) :=
  ⟨rfl, represents, rfl, rfl⟩

end TurnRepresents

namespace Represents

theorem phase_eq (represents : Represents f s) : f.phase = s.phase := by
  cases s with
  | plain => exact represents.1
  | _ => rw [represents]; rfl

theorem deepen (represents : Represents f s) : Represents f.deepen s.deepen := by
  unfold Fields.deepen
  rw [represents.phase_eq]
  cases s with
  | start =>
    obtain rfl := represents
    rfl
  | plain =>
    obtain ⟨phase, keyword, angles, parens, depth⟩ := represents
    exact ⟨rfl, keyword, angles, parens, congrArg Nat.succ depth⟩
  | _ => exact represents

theorem lift (represents : Represents f s) : Represents f.lift s.lift := by
  cases s with
  | plain =>
    obtain ⟨phase, keyword, angles, parens, depth⟩ := represents
    exact ⟨phase, keyword, angles, parens, congrArg Nat.pred depth⟩
  | _ =>
    obtain rfl := represents
    rfl

end Represents

theorem TurnRepresents.deepen {t : FieldsTurn} {u : Turn} (represents : TurnRepresents t u) :
    TurnRepresents t.deepen u.deepen :=
  ⟨represents.role, represents.fields.deepen, represents.enters, represents.retracts⟩

namespace Represents

/-- A record of fields and its statement give a declaration up together. -/
theorem leave (represents : Represents f s) : TurnRepresents (f.leave role) (s.leave role) := by
  cases s with
  | start modifiers depth =>
    obtain rfl := represents
    cases depth with
    | zero => exact .enter ⟨rfl, rfl, rfl, rfl, rfl⟩
    | succ depth => exact .stay rfl
  | naming d =>
    obtain rfl := represents
    exact ⟨rfl, ⟨rfl, rfl, rfl, rfl, rfl⟩, rfl, d.name?_isNone⟩
  | header | typeParameters | parameters | baseList | constraints =>
    obtain rfl := represents
    exact .stay rfl
  | plain depth =>
    have stays : f.leave role = f.stay role := by
      rw [Fields.leave, represents.1]
    rw [stays]
    exact .stay represents

theorem leadingWord (represents : Represents f (.start modifiers depth)) :
    TurnRepresents (f.leadingWord around w p)
      (Statement.leadingWord around modifiers depth w p) := by
  obtain rfl := represents
  unfold Fields.leadingWord Statement.leadingWord
  dsimp only
  split
  · exact .stay rfl
  · next outside =>
    obtain rfl : depth = 0 := Nat.eq_zero_of_not_pos outside
    split
    · exact .enter ⟨rfl, rfl, rfl, rfl, rfl⟩
    · generalize Modifier.ofWord? w = found
      generalize Keyword.ofWord? w = keyword
      cases found with
      | some m => exact .stay rfl
      | none =>
        cases keyword with
        | none => exact .enter ⟨rfl, rfl, rfl, rfl, rfl⟩
        | some k =>
          cases k with
          | declares kind => exact .enter rfl
          | whereClause | newConstraint => exact .enter ⟨rfl, rfl, rfl, rfl, rfl⟩

theorem wordInName (represents : Represents f (.naming d)) :
    TurnRepresents (f.wordInName w) (Statement.wordInName d w) := by
  obtain rfl := represents
  have named : TurnRepresents
      ({ d.fields .name with name? := some ((d.fields .name).longerName w) }.enter .header
        (.name d.kind w))
      (Statement.enter (.header { d with parts := d.parts ++ [w] }) (.name d.kind w)) := by
    rw [← d.name?_concat .name w]
    exact .enter rfl
  unfold Fields.wordInName Statement.wordInName
  generalize Keyword.ofWord? w = keyword
  obtain ⟨kind, first, modifiers, parts, generic⟩ := d
  cases parts with
  | cons part parts => exact named
  | nil =>
    cases keyword with
    | none => exact named
    | some k =>
      cases k with
      | declares kind => exact .stay rfl
      | whereClause | newConstraint => exact named

theorem wordInTypeParameters (represents : Represents f (.typeParameters d awaitsName angles)) :
    TurnRepresents (f.wordInTypeParameters awaitsName w)
      (Statement.wordInTypeParameters d awaitsName angles w) := by
  obtain rfl := represents
  unfold Fields.wordInTypeParameters Statement.wordInTypeParameters
  dsimp only
  split
  · exact .stay rfl
  · split
    · exact .stay rfl
    · generalize Modifier.variance? w = variance
      cases variance with
      | some m => exact .stay rfl
      | none => exact .enter rfl

theorem wordInBaseList (represents : Represents f (.baseList d colon angles parens)) :
    TurnRepresents (f.wordInBaseList w p) (Statement.wordInBaseList d colon angles parens w p) := by
  obtain rfl := represents
  unfold Fields.wordInBaseList Statement.wordInBaseList
  dsimp only
  cases parens with
  | cons paren parens => exact .stay rfl
  | nil =>
    simp only [List.isEmpty_nil, Bool.not_true, Bool.false_eq_true, if_false]
    split
    · obtain ⟨kind, first, modifiers, parts, generic⟩ := d
      cases generic with
      | true => exact .enter rfl
      | false => exact .stay rfl
    · exact .stay rfl

theorem wordInConstraints (represents : Represents f (.constraints d clause angles)) :
    TurnRepresents (f.wordInConstraints w p)
      (Statement.wordInConstraints d clause angles w p) := by
  obtain rfl := represents
  unfold Fields.wordInConstraints Statement.wordInConstraints
  dsimp only
  split
  · exact .stay rfl
  · generalize Keyword.ofConstraintWord? w = keyword
    cases keyword with
    | none => exact .stay rfl
    | some k => cases k <;> exact .stay rfl

theorem wordInHeader (represents : Represents f (.header d)) :
    TurnRepresents (f.wordInHeader w p) (Statement.word (.header d) around w p) := by
  obtain rfl := represents
  unfold Fields.wordInHeader Statement.word
  dsimp only
  have generic : (d.fields .header).generic = d.generic := rfl
  rw [generic]
  split
  · exact .enter rfl
  · exact .stay rfl

/-- A word does the same to a record of fields as to its statement. -/
theorem word (represents : Represents f s) :
    TurnRepresents (f.word around w p) (s.word around w p) := by
  unfold Fields.word
  rw [represents.phase_eq]
  cases s with
  | start => exact represents.leadingWord
  | naming => exact represents.wordInName
  | header => exact represents.wordInHeader
  | typeParameters => exact represents.wordInTypeParameters
  | baseList => exact represents.wordInBaseList
  | constraints => exact represents.wordInConstraints
  | parameters | plain => exact .stay represents

theorem lessThan (represents : Represents f s) :
    TurnRepresents (f.lessThan around p) (s.lessThan around p) := by
  have leaves : TurnRepresents (f.leave (.punctuation .lessThan))
      (s.leave (.punctuation .lessThan)) := represents.leave
  unfold Fields.lessThan Statement.lessThan
  rw [represents.phase_eq]
  generalize around.last? = last? at *
  cases s with
  | header d =>
    obtain rfl := represents
    obtain ⟨kind, first, modifiers, parts, generic⟩ := d
    rcases last? with _ | role
    · exact leaves
    · cases role with
      | name =>
        cases generic with
        | true => exact .stay rfl
        | false => exact .enter rfl
      | _ => exact leaves
  | typeParameters =>
    obtain rfl := represents
    exact .stay rfl
  | baseList | constraints =>
    obtain rfl := represents
    rcases last? with _ | role
    · exact leaves
    · cases role with
      | type => exact .stay rfl
      | _ => exact leaves
  | start | naming | parameters | plain => exact leaves

theorem greaterThan (represents : Represents f s) :
    TurnRepresents f.greaterThan s.greaterThan := by
  have leaves : TurnRepresents (f.leave (.punctuation .greaterThan))
      (s.leave (.punctuation .greaterThan)) := represents.leave
  unfold Fields.greaterThan Statement.greaterThan
  rw [represents.phase_eq]
  cases s with
  | typeParameters d awaitsName angles =>
    obtain rfl := represents
    rcases angles with _ | ⟨angle, _ | ⟨outer, angles⟩⟩
    · exact .enter rfl
    · exact .enter rfl
    · exact .stay rfl
  | baseList d colon angles =>
    obtain rfl := represents
    cases angles with
    | nil => exact leaves
    | cons => exact .stay rfl
  | constraints d clause angles =>
    obtain rfl := represents
    cases angles with
    | nil => exact leaves
    | cons => exact .stay rfl
  | start | naming | header | parameters | plain => exact leaves

theorem openParen (represents : Represents f s) :
    TurnRepresents (f.openParen p) (s.openParen p) := by
  have leaves : TurnRepresents (f.leave (.punctuation .openParen))
      (s.leave (.punctuation .openParen)) := represents.leave
  unfold Fields.openParen Statement.openParen
  rw [represents.phase_eq]
  cases s with
  | header =>
    obtain rfl := represents
    exact .enter rfl
  | parameters | baseList =>
    obtain rfl := represents
    exact .stay rfl
  | naming | typeParameters | constraints => exact leaves
  | start modifiers depth =>
    obtain rfl := represents
    cases depth with
    | zero => exact leaves.deepen
    | succ depth => exact .stay rfl
  | plain depth =>
    refine TurnRepresents.deepen ?_
    split
    · exact leaves
    · exact .stay represents

theorem closeParen (represents : Represents f s) :
    TurnRepresents f.closeParen s.closeParen := by
  unfold Fields.closeParen Statement.closeParen
  rw [represents.phase_eq]
  cases s with
  | parameters d parens =>
    obtain rfl := represents
    rcases parens with _ | ⟨paren, _ | ⟨outer, parens⟩⟩
    · exact .enter rfl
    · exact .enter rfl
    · exact .stay rfl
  | baseList =>
    obtain rfl := represents
    exact .stay rfl
  | start | plain => exact .stay represents.lift
  | naming | header | typeParameters | constraints => exact represents.leave

theorem openBracket (represents : Represents f s) :
    TurnRepresents f.openBracket s.openBracket := by
  unfold Fields.openBracket Statement.openBracket
  rw [represents.phase_eq]
  cases s with
  | naming => exact represents.leave.deepen
  | _ => exact .stay represents.deepen

theorem closeBracket (represents : Represents f s) :
    TurnRepresents f.closeBracket s.closeBracket :=
  .stay represents.lift

theorem comma (represents : Represents f s) :
    TurnRepresents (f.comma around) (s.comma around) := by
  have leaves : TurnRepresents (f.leave (.punctuation .comma))
      (s.leave (.punctuation .comma)) := represents.leave
  unfold Fields.comma Statement.comma
  rw [represents.phase_eq]
  cases s with
  | typeParameters d awaitsName angles =>
    obtain rfl := represents
    rcases angles with _ | ⟨angle, _ | ⟨outer, angles⟩⟩
    · exact leaves
    · exact .enter rfl
    · exact leaves
  | plain depth =>
    have depth_eq : f.depth = depth := represents.2.2.2.2
    rw [depth_eq]
    cases depth with
    | zero =>
      generalize around.inEnumBody = body
      cases body with
      | true => exact .stay rfl
      | false => exact leaves
    | succ depth => exact leaves
  | start | naming | header | parameters | baseList | constraints => exact leaves

theorem colon (represents : Represents f s) : TurnRepresents (f.colon p) (s.colon p) := by
  have leaves : TurnRepresents (f.leave (.punctuation .colon))
      (s.leave (.punctuation .colon)) := represents.leave
  unfold Fields.colon Statement.colon
  rw [represents.phase_eq]
  cases s with
  | header =>
    obtain rfl := represents
    exact .enter rfl
  | _ => exact leaves

theorem accessor (represents : Represents f s) : TurnRepresents f.accessor s.accessor := by
  have leaves : TurnRepresents (f.leave (.punctuation .accessor))
      (s.leave (.punctuation .accessor)) := represents.leave
  unfold Fields.accessor Statement.accessor
  rw [represents.phase_eq]
  cases s with
  | header d =>
    obtain rfl := represents
    obtain ⟨kind, first, modifiers, parts, generic⟩ := d
    cases kind with
    | namespaceDecl => exact .enter rfl
    | _ => exact leaves
  | _ => exact leaves

/-- A mark does the same to a record of fields as to its statement. -/
theorem mark (represents : Represents f s) (m : Punctuation) :
    TurnRepresents (f.mark around m p) (s.mark around m p) := by
  cases m with
  | lessThan => exact represents.lessThan
  | greaterThan => exact represents.greaterThan
  | openParen => exact represents.openParen
  | closeParen => exact represents.closeParen
  | openBracket => exact represents.openBracket
  | closeBracket => exact represents.closeBracket
  | comma => exact represents.comma
  | colon => exact represents.colon
  | accessor => exact represents.accessor
  | _ => exact represents.leave

/-- Records and statements leave the same bracket open. -/
theorem unclosed?_eq (represents : Represents f s) : f.unclosed? = s.unclosed? := by
  cases s with
  | typeParameters d awaitsName angles =>
    obtain rfl := represents
    rcases angles with _ | ⟨angle, _ | ⟨outer, angles⟩⟩ <;> rfl
  | parameters d parens =>
    obtain rfl := represents
    cases parens <;> rfl
  | baseList d colon angles parens =>
    obtain rfl := represents
    rcases angles with _ | ⟨angle, _ | ⟨outer, angles⟩⟩
    · cases parens <;> rfl
    · rfl
    · rfl
  | constraints d clause angles =>
    obtain rfl := represents
    rcases angles with _ | ⟨angle, _ | ⟨outer, angles⟩⟩ <;> rfl
  | start | naming | header =>
    obtain rfl := represents
    rfl
  | plain depth =>
    obtain ⟨_, _, angles, parens, _⟩ := represents
    rw [Fields.unclosed?, angles, parens]
    rfl

theorem openRegion?_eq (represents : Represents f s) : f.openRegion? = s.openRegion? := by
  unfold Fields.openRegion? Statement.openRegion?
  rw [represents.unclosed?_eq, represents.phase_eq]
  cases s with
  | plain => rfl
  | _ =>
    obtain rfl := represents
    rfl

theorem scope_eq (represents : Represents f s) : f.scope p = s.scope p := by
  cases s with
  | plain =>
    rw [Fields.scope, represents.2.1]
    rfl
  | _ =>
    obtain rfl := represents
    rfl

end Represents

/-- What the fields are in each phase, whatever has been read. -/
structure Fields.Consistent (f : Fields) : Prop where
  angles : f.angles ≠ [] →
    f.phase = .baseList ∨ f.phase = .constraints ∨
      ∃ awaitsName, f.phase = .typeParameters awaitsName
  listed : ∀ awaitsName, f.phase = .typeParameters awaitsName → f.angles ≠ []
  parens : f.parens ≠ [] → f.phase = .parameters ∨ f.phase = .baseList
  inParens : f.phase = .parameters → f.parens ≠ []
  depth : 0 < f.depth → f.phase = .start ∨ f.phase = .other
  keyword? : f.keyword?.isSome = true ↔ f.phase ≠ .start ∧ f.phase ≠ .other
  name? : f.phase ≠ .start → f.phase ≠ .name → f.phase ≠ .other → f.name?.isSome = true
  generic : f.phase = .constraints → f.generic = true
  simple : ∀ awaitsName, f.phase = .typeParameters awaitsName → f.generic = false

theorem Declaration.name?_isSome (d : Declaration) : d.name?.isSome = !d.parts.isEmpty := by
  rw [← d.name?_isNone, Option.not_isNone]

/-- A record that stands for a statement is consistent. -/
theorem Represents.consistent (represents : Represents f s) (wellFormed : s.WellFormed) :
    f.Consistent := by
  cases s with
  | plain =>
    obtain ⟨phase, keyword, angles, parens, _⟩ := represents
    constructor <;> simp [phase, keyword, angles, parens]
  | start | naming | header | typeParameters | parameters | baseList | constraints =>
    obtain rfl := represents
    constructor <;>
      simp_all [Declaration.fields, Declaration.name?_isSome, Statement.WellFormed]

theorem Fields.unclosed?_eq_none : f.unclosed? = none ↔ f.angles = [] ∧ f.parens = [] := by
  unfold unclosed?
  split
  · next angles =>
    rw [angles]
    split
    · split <;> simp
    · simp
  · next angles => simp [angles]

namespace Fields.Consistent

/-- A declaration always leaves something open, and no other statement does. -/
theorem openRegion?_eq_none (consistent : f.Consistent) :
    f.openRegion? = none ↔ f.phase = .start ∨ f.phase = .other := by
  simp only [openRegion?, Option.orElse_eq_orElse, Option.orElse_eq_or, Option.or_eq_none_iff]
  constructor
  · rintro ⟨unclosed, rest⟩
    obtain ⟨angles, parens⟩ := unclosed?_eq_none.mp unclosed
    cases phase : f.phase with
    | start => exact .inl rfl
    | other => exact .inr rfl
    | typeParameters awaitsName => exact absurd angles (consistent.listed awaitsName phase)
    | parameters => exact absurd parens (consistent.inParens phase)
    | name | header =>
      have declares : f.keyword?.isSome = true := by simp [consistent.keyword?, phase]
      rw [phase] at rest
      rw [Option.map_eq_none_iff.mp rest] at declares
      contradiction
    | baseList | constraints =>
      rw [phase] at rest
      contradiction
  · intro outside
    have angles : f.angles = [] := Decidable.byContradiction fun opened => by
      rcases outside with phase | phase <;> simpa [phase] using consistent.angles opened
    have parens : f.parens = [] := Decidable.byContradiction fun opened => by
      rcases outside with phase | phase <;> simpa [phase] using consistent.parens opened
    refine ⟨unclosed?_eq_none.mpr ⟨angles, parens⟩, ?_⟩
    rcases outside with phase | phase <;> rw [phase]

/-- A word in the place of a name is a declaration keyword or a part of the name. -/
theorem wordInName (consistent : f.Consistent) (phase : f.phase = .name) :
    ∃ kind, (f.word around w p).role = .keyword (.declares kind) ∨
      (f.word around w p).role = .name kind w := by
  have declares : f.keyword?.isSome = true := by simp [consistent.keyword?, phase]
  obtain ⟨⟨kind, first⟩, keyword⟩ := Option.isSome_iff_exists.mp declares
  unfold word Fields.wordInName
  simp only [phase, keyword]
  split
  · exact ⟨_, .inl rfl⟩
  · exact ⟨kind, .inr rfl⟩

end Fields.Consistent
end Highlight
