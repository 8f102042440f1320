import Highlight.Proofs.Classification.Step

/-! What a word or a mark can do inside a statement, said once. Invariants of statements go by cases
on these relations and do not open the turns themselves. -/
namespace Highlight

inductive OnWord (around : Surroundings) (w : String) (p : Position) : Statement → Turn → Prop
  | inAttribute (inside : 0 < depth) :
      OnWord around w p (.start modifiers depth)
        ((Statement.start modifiers depth).stay (.identifier w))
  | member (body : around.inEnumBody = true) :
      OnWord around w p (.start modifiers 0) ((Statement.plain 0).enter (.enumMember w))
  | modifier (outside : around.inEnumBody = false) (found : Modifier.ofWord? w = some m) :
      OnWord around w p (.start modifiers 0)
        ((Statement.start (modifiers ++ [m]) 0).stay (.modifier m))
  | declares (outside : around.inEnumBody = false)
      (found : Keyword.ofWord? w = some (.declares kind)) :
      OnWord around w p (.start modifiers 0)
        ((Statement.naming { kind, keyword := p, modifiers }).enter (.keyword (.declares kind)))
  | ordinary (outside : around.inEnumBody = false)
      (other : ∀ kind, Keyword.ofWord? w ≠ some (.declares kind)) :
      OnWord around w p (.start modifiers 0) ((Statement.plain 0).enter (.ofWord w))
  | redeclares (unnamed : d.parts = []) (found : Keyword.ofWord? w = some (.declares kind)) :
      OnWord around w p (.naming d)
        ((Statement.naming { d with kind }).stay (.keyword (.declares kind)))
  | named (other : d.parts = [] → ∀ kind, Keyword.ofWord? w ≠ some (.declares kind)) :
      OnWord around w p (.naming d)
        ((Statement.header { d with parts := d.parts ++ [w] }).enter (.name d.kind w))
  | headerClause (generic : d.generic = true) (text : w = "where") :
      OnWord around w p (.header d) ((Statement.constraints d p []).enter (.ofWord w))
  | headerWord (other : ¬(w = "where" ∧ d.generic = true)) :
      OnWord around w p (.header d) ((Statement.header d).stay (.ofWord w))
  | parameterArgument (nested : 1 < angles.length) :
      OnWord around w p (.typeParameters d awaitsName angles)
        ((Statement.typeParameters d awaitsName angles).stay (.type w))
  | surplus (flat : angles.length ≤ 1) :
      OnWord around w p (.typeParameters d false angles)
        ((Statement.typeParameters d false angles).stay (.identifier w))
  | variance (flat : angles.length ≤ 1) (found : Modifier.variance? w = some m) :
      OnWord around w p (.typeParameters d true angles)
        ((Statement.typeParameters d true angles).stay (.modifier m))
  | typeParameter (flat : angles.length ≤ 1) (other : Modifier.variance? w = none) :
      OnWord around w p (.typeParameters d true angles)
        ((Statement.typeParameters d false angles).enter (.typeParameter w))
  | parameter :
      OnWord around w p (.parameters d parens) ((Statement.parameters d parens).stay (.ofWord w))
  | baseArgument (inside : parens ≠ []) :
      OnWord around w p (.baseList d colon angles parens)
        ((Statement.baseList d colon angles parens).stay (.ofWord w))
  | baseClause (generic : d.generic = true) (text : w = "where") :
      OnWord around w p (.baseList d colon angles [])
        ((Statement.constraints d p angles).enter (.keyword .whereClause))
  | baseWhere (simple : d.generic = false) (text : w = "where") :
      OnWord around w p (.baseList d colon angles [])
        ((Statement.baseList d colon angles []).stay (.keyword .whereClause))
  | baseType (other : w ≠ "where") :
      OnWord around w p (.baseList d colon angles [])
        ((Statement.baseList d colon angles []).stay (.type w))
  | constraintArgument (inside : angles ≠ []) :
      OnWord around w p (.constraints d clause angles)
        ((Statement.constraints d clause angles).stay (.type w))
  | nextClause (found : Keyword.ofConstraintWord? w = some .whereClause) :
      OnWord around w p (.constraints d clause [])
        ((Statement.constraints d p []).stay (.keyword .whereClause))
  | constraintKeyword (found : Keyword.ofConstraintWord? w = some k) (other : k ≠ .whereClause) :
      OnWord around w p (.constraints d clause [])
        ((Statement.constraints d clause []).stay (.keyword k))
  | constraintType (other : Keyword.ofConstraintWord? w = none) :
      OnWord around w p (.constraints d clause [])
        ((Statement.constraints d clause []).stay (.type w))
  | plain : OnWord around w p (.plain depth) ((Statement.plain depth).stay (.ofWord w))

inductive OnMark (around : Surroundings) (p : Position) : Statement → Punctuation → Turn → Prop
  | passes (m : Punctuation) : OnMark around p s m (s.stay (.punctuation m))
  | leaves (m : Punctuation) : OnMark around p s m (s.leave (.punctuation m))
  | deepens (m : Punctuation) : OnMark around p s m (s.leave (.punctuation m)).deepen
  | nests : OnMark around p s .openBracket (s.deepen.stay (.punctuation .openBracket))
  | lifts (m : Punctuation) : OnMark around p s m (s.lift.stay (.punctuation m))
  | typeParametersBegin (first : d.generic = false)
      (behind : around.last? = some (.name kind text)) :
      OnMark around p (.header d) .lessThan
        ((Statement.typeParameters d true [p]).enter (.punctuation .typeParametersBegin))
  | parameterArgumentsBegin :
      OnMark around p (.typeParameters d awaitsName angles) .lessThan
        ((Statement.typeParameters d awaitsName (p :: angles)).stay
          (.punctuation .typeArgumentsBegin))
  | baseArgumentsBegin (behind : around.last? = some (.type text)) :
      OnMark around p (.baseList d colon angles parens) .lessThan
        ((Statement.baseList d colon (p :: angles) parens).stay (.punctuation .typeArgumentsBegin))
  | constraintArgumentsBegin (behind : around.last? = some (.type text)) :
      OnMark around p (.constraints d clause angles) .lessThan
        ((Statement.constraints d clause (p :: angles)).stay (.punctuation .typeArgumentsBegin))
  | parameterArgumentsEnd :
      OnMark around p (.typeParameters d awaitsName (angle :: outer :: angles)) .greaterThan
        ((Statement.typeParameters d awaitsName (outer :: angles)).stay
          (.punctuation .typeArgumentsEnd))
  | baseArgumentsEnd :
      OnMark around p (.baseList d colon (angle :: angles) parens) .greaterThan
        ((Statement.baseList d colon angles parens).stay (.punctuation .typeArgumentsEnd))
  | constraintArgumentsEnd :
      OnMark around p (.constraints d clause (angle :: angles)) .greaterThan
        ((Statement.constraints d clause angles).stay (.punctuation .typeArgumentsEnd))
  | typeParametersEnd (flat : angles.length ≤ 1) :
      OnMark around p (.typeParameters d awaitsName angles) .greaterThan
        ((Statement.header { d with generic := true }).enter (.punctuation .typeParametersEnd))
  | parametersBegin :
      OnMark around p (.header d) .openParen
        ((Statement.parameters d [p]).enter (.punctuation .openParen))
  | parameterParenBegin :
      OnMark around p (.parameters d parens) .openParen
        ((Statement.parameters d (p :: parens)).stay (.punctuation .openParen))
  | baseParenBegin :
      OnMark around p (.baseList d colon angles parens) .openParen
        ((Statement.baseList d colon angles (p :: parens)).stay (.punctuation .openParen))
  | parameterParenEnd :
      OnMark around p (.parameters d (paren :: outer :: parens)) .closeParen
        ((Statement.parameters d (outer :: parens)).stay (.punctuation .closeParen))
  | parametersEnd (flat : parens.length ≤ 1) :
      OnMark around p (.parameters d parens) .closeParen
        ((Statement.header d).enter (.punctuation .closeParen))
  | baseParenEnd :
      OnMark around p (.baseList d colon angles parens) .closeParen
        ((Statement.baseList d colon angles parens.tail).stay (.punctuation .closeParen))
  | nextTypeParameter :
      OnMark around p (.typeParameters d awaitsName [angle]) .comma
        ((Statement.typeParameters d true [angle]).enter (.punctuation .comma))
  | nextMember (body : around.inEnumBody = true) :
      OnMark around p (.plain 0) .comma (Statement.empty.stay (.punctuation .comma))
  | basesBegin :
      OnMark around p (.header d) .colon
        ((Statement.baseList d p [] []).enter (.punctuation .colon))
  | nextPart (qualified : d.kind = .namespaceDecl) :
      OnMark around p (.header d) .accessor ((Statement.naming d).enter (.punctuation .accessor))

/-- A header stays as it is. Outside of headers the number of open brackets may change, and a
statement that has declared nothing yet may become plain. -/
inductive KeepsHeader : Statement → Statement → Prop
  | same (s : Statement) : KeepsHeader s s
  | start : KeepsHeader (.start modifiers depth) (.start modifiers depth')
  | startLeft : KeepsHeader (.start modifiers depth) (.plain depth')
  | namingLeft : KeepsHeader (.naming d) (.plain depth)
  | plain : KeepsHeader (.plain depth) (.plain depth')

theorem KeepsHeader.trans (first : KeepsHeader s target) (second : KeepsHeader target last) :
    KeepsHeader s last := by
  cases first with
  | same => exact second
  | start =>
    cases second with
    | same | start => exact .start
    | startLeft => exact .startLeft
  | startLeft =>
    cases second with
    | same | plain => exact .startLeft
  | namingLeft =>
    cases second with
    | same | plain => exact .namingLeft
  | plain =>
    cases second with
    | same | plain => exact .plain

/-- Only a plain statement can have come out of another phase. -/
theorem KeepsHeader.phase_eq (kept : KeepsHeader s target) (same : target.phase = phase)
    (other : phase ≠ .other) : s.phase = phase := by
  subst same
  cases kept with
  | same | start => rfl
  | _ => exact absurd rfl other

namespace Statement

@[simp] theorem role_leave (s : Statement) (role : Role) : (s.leave role).role = role := by
  unfold leave
  split <;> rfl

@[simp] theorem role_deepen (t : Turn) : t.deepen.role = t.role := rfl

theorem keepsHeader_leave (s : Statement) (role : Role) :
    KeepsHeader s (s.leave role).statement := by
  unfold leave
  split
  · exact .startLeft
  · exact .namingLeft
  · exact .same _

theorem keepsHeader_deepen (s : Statement) : KeepsHeader s s.deepen := by
  cases s with
  | start => exact .start
  | plain => exact .plain
  | _ => exact .same _

theorem keepsHeader_deepen_leave (s : Statement) (role : Role) :
    KeepsHeader s (s.leave role).deepen.statement :=
  (keepsHeader_leave s role).trans (keepsHeader_deepen _)

theorem keepsHeader_lift (s : Statement) : KeepsHeader s s.lift := by
  cases s with
  | start => exact .start
  | plain => exact .plain
  | _ => exact .same _

theorem onWord_leadingWord (around : Surroundings) (modifiers : List Modifier) (depth : Nat)
    (w : String) (p : Position) :
    OnWord around w p (.start modifiers depth) (leadingWord around modifiers depth w p) := by
  unfold leadingWord
  split
  · next inside => exact .inAttribute inside
  obtain rfl : depth = 0 := by omega
  split
  · next body => exact .member body
  · next outside =>
    rw [Bool.not_eq_true] at outside
    split
    · next found => exact .modifier outside found
    · next found => exact .declares outside found
    · next k notDeclares noModifier found =>
      have other : ∀ kind, Keyword.ofWord? w ≠ some (.declares kind) := by
        intro kind same
        exact notDeclares kind (Option.some.inj (found.symm.trans same))
      have role : Role.ofWord w = .keyword k := by simp [Role.ofWord, noModifier, found]
      rw [← role]
      exact .ordinary outside other
    · next noModifier notFound =>
      have role : Role.ofWord w = .identifier w := by simp [Role.ofWord, noModifier, notFound]
      rw [← role]
      exact .ordinary outside (by simp [notFound])

theorem onWord_wordInName (around : Surroundings) (d : Declaration) (w : String) (p : Position) :
    OnWord around w p (.naming d) (wordInName d w) := by
  unfold wordInName
  split
  · next unnamed found => exact .redeclares unnamed found
  · next other => exact .named fun unnamed kind found => other kind unnamed found

theorem onWord_wordInTypeParameters (around : Surroundings) (d : Declaration) (awaitsName : Bool)
    (angles : List Position) (w : String) (p : Position) :
    OnWord around w p (.typeParameters d awaitsName angles)
      (wordInTypeParameters d awaitsName angles w) := by
  unfold wordInTypeParameters
  dsimp only
  split
  · next nested => exact .parameterArgument nested
  · next flat =>
    rw [Nat.not_lt] at flat
    cases awaitsName with
    | false => exact .surplus flat
    | true =>
      simp only [Bool.not_true, Bool.false_eq_true, if_false]
      split
      · next found => exact .variance flat found
      · next other => exact .typeParameter flat other

theorem onWord_wordInBaseList (around : Surroundings) (d : Declaration) (colon : Position)
    (angles parens : List Position) (w : String) (p : Position) :
    OnWord around w p (.baseList d colon angles parens)
      (wordInBaseList d colon angles parens w p) := by
  unfold wordInBaseList
  dsimp only
  cases parens with
  | cons paren parens => exact .baseArgument (List.cons_ne_nil paren parens)
  | nil =>
    simp only [List.isEmpty_nil, Bool.not_true, Bool.false_eq_true, if_false]
    split
    · next text =>
      split
      · next generic => exact .baseClause generic text
      · next simple => exact .baseWhere (Bool.not_eq_true _ ▸ simple) text
    · next other => exact .baseType other

theorem onWord_wordInConstraints (around : Surroundings) (d : Declaration) (clause : Position)
    (angles : List Position) (w : String) (p : Position) :
    OnWord around w p (.constraints d clause angles)
      (wordInConstraints d clause angles w p) := by
  unfold wordInConstraints
  dsimp only
  cases angles with
  | cons angle angles => exact .constraintArgument (List.cons_ne_nil angle angles)
  | nil =>
    simp only [List.isEmpty_nil, Bool.not_true, Bool.false_eq_true, if_false]
    split
    · next found => exact .nextClause found
    · next notWhere found => exact .constraintKeyword found notWhere
    · next other => exact .constraintType other

/-- All that a word can do to a statement. -/
theorem onWord_word (s : Statement) (around : Surroundings) (w : String) (p : Position) :
    OnWord around w p s (s.word around w p) := by
  cases s with
  | start modifiers depth => exact onWord_leadingWord around modifiers depth w p
  | naming d => exact onWord_wordInName around d w p
  | header d =>
    simp only [word, Bool.and_eq_true, decide_eq_true_eq]
    split
    · next clause => exact .headerClause clause.2 clause.1
    · next other => exact .headerWord other
  | typeParameters d awaitsName angles =>
    exact onWord_wordInTypeParameters around d awaitsName angles w p
  | parameters d parens => exact .parameter
  | baseList d colon angles parens => exact onWord_wordInBaseList around d colon angles parens w p
  | constraints d clause angles => exact onWord_wordInConstraints around d clause angles w p
  | plain depth => exact .plain

theorem onMark_lessThan (s : Statement) (around : Surroundings) (p : Position) :
    OnMark around p s .lessThan (s.lessThan around p) := by
  unfold lessThan
  split
  · next behind =>
    split
    · exact .passes _
    · next first => exact .typeParametersBegin (Bool.not_eq_true _ ▸ first) behind
  · exact .parameterArgumentsBegin
  · next behind => exact .baseArgumentsBegin behind
  · next behind => exact .constraintArgumentsBegin behind
  · exact .leaves _

theorem onMark_greaterThan (s : Statement) (around : Surroundings) (p : Position) :
    OnMark around p s .greaterThan s.greaterThan := by
  unfold greaterThan
  split
  · exact .parameterArgumentsEnd
  · next angles notNested =>
    refine .typeParametersEnd ?_
    rcases angles with _ | ⟨_, _ | _⟩
    · exact Nat.zero_le 1
    · exact Nat.le_refl 1
    · exact (notNested _ _ _ rfl).elim
  · exact .baseArgumentsEnd
  · exact .constraintArgumentsEnd
  · exact .leaves _

theorem onMark_openParen (s : Statement) (around : Surroundings) (p : Position) :
    OnMark around p s .openParen (s.openParen p) := by
  simp only [openParen]
  split
  · exact .parametersBegin
  · exact .parameterParenBegin
  · exact .baseParenBegin
  · exact .leaves _
  · exact .deepens _

theorem onMark_closeParen (s : Statement) (around : Surroundings) (p : Position) :
    OnMark around p s .closeParen s.closeParen := by
  simp only [closeParen]
  split
  · exact .parameterParenEnd
  · next parens notNested =>
    refine .parametersEnd ?_
    rcases parens with _ | ⟨_, _ | _⟩
    · exact Nat.zero_le 1
    · exact Nat.le_refl 1
    · exact (notNested _ _ _ rfl).elim
  · exact .baseParenEnd
  · exact .leaves _
  · exact .lifts _

theorem onMark_comma (s : Statement) (around : Surroundings) (p : Position) :
    OnMark around p s .comma (s.comma around) := by
  simp only [comma]
  split
  · exact .nextTypeParameter
  · split
    · next body => exact .nextMember body
    · exact .passes _
  · exact .leaves _

/-- All that a mark can do to a statement. -/
theorem onMark_mark (s : Statement) (around : Surroundings) (m : Punctuation) (p : Position) :
    OnMark around p s m (s.mark around m p) := by
  cases m
  case lessThan => exact onMark_lessThan s around p
  case greaterThan => exact onMark_greaterThan s around p
  case openParen => exact onMark_openParen s around p
  case closeParen => exact onMark_closeParen s around p
  case openBracket =>
    simp only [mark, openBracket]
    split
    · exact .deepens _
    · exact .nests
  case closeBracket => exact .lifts _
  case comma => exact onMark_comma s around p
  case colon =>
    simp only [mark, colon]
    split
    · exact .basesBegin
    · exact .leaves _
  case accessor =>
    simp only [mark, accessor]
    split
    · split
      · next qualified => exact .nextPart qualified
      · exact .passes _
    · exact .leaves _
  all_goals exact .leaves _

end Statement

def Role.punctuation? : Role → Option Punctuation
  | .punctuation m => some m
  | _ => none

theorem Role.punctuation?_eq_some {role : Role} :
    role.punctuation? = some m ↔ role = .punctuation m := by
  cases role <;> simp [punctuation?]

@[simp] theorem Role.punctuation?_ofWord (w : String) : (Role.ofWord w).punctuation? = none := by
  unfold Role.ofWord
  split <;> rfl

theorem Punctuation.not_mem_angles {m : Punctuation} (found : ofMark? text = some m) :
    m ∉ angles := by
  have disjoint : ∀ m ∈ marks, m ∉ angles := by decide
  exact disjoint m (List.mem_of_find?_eq_some found)

theorem OnWord.punctuation? (onWord : OnWord around w p s t) : t.role.punctuation? = none := by
  cases onWord with
  | ordinary | headerClause | headerWord | parameter | baseArgument | plain =>
    exact Role.punctuation?_ofWord w
  | _ => rfl

/-- A mark keeps its role, apart from `<` and `>` as brackets. -/
theorem OnMark.role_eq (onMark : OnMark around p s m t) :
    t.role = .punctuation m ∨ ∃ bracket ∈ Punctuation.angles, t.role = .punctuation bracket := by
  cases onMark with
  | leaves | deepens => exact .inl (Statement.role_leave s _)
  | typeParametersBegin | parameterArgumentsBegin | baseArgumentsBegin | constraintArgumentsBegin
  | parameterArgumentsEnd | baseArgumentsEnd | constraintArgumentsEnd | typeParametersEnd =>
    exact .inr ⟨_, by decide, rfl⟩
  | _ => exact .inl rfl

/-- Only words get roles that are neither literals nor punctuation. -/
theorem Statement.Takes.role_cases (taken : Statement.Takes s around x t) :
    x.kind = .word ∧ OnWord around x.text x.position s t ∨
      (∃ text, t.role = .literal text) ∨ ∃ m, t.role = .punctuation m := by
  cases taken with
  | word kind => exact .inl ⟨kind, onWord_word s around x.text x.position⟩
  | literal => exact .inr (.inl ⟨x.text, role_leave s _⟩)
  | mark =>
    rcases (onMark_mark s around _ x.position).role_eq with role | ⟨_, _, role⟩ <;>
      exact .inr (.inr ⟨_, role⟩)

/-- Inside a statement no lexeme gets the role of a brace or a semicolon. -/
theorem Statement.Takes.inside (taken : Statement.Takes s around x t)
    (role : t.role.punctuation? = some m) : m.endsStatement = false := by
  cases taken with
  | word =>
    rw [(onWord_word s around x.text x.position).punctuation?] at role
    contradiction
  | literal =>
    rw [Statement.literal, role_leave] at role
    contradiction
  | mark _ _ inside =>
    rcases (onMark_mark s around _ x.position).role_eq with same | ⟨bracket, angle, same⟩
    · rw [same] at role
      exact Option.some.inj role ▸ inside
    · rw [same] at role
      obtain rfl := Option.some.inj role
      revert angle
      cases bracket <;> decide

end Highlight
